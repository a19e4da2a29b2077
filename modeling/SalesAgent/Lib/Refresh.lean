import Mathlib.Data.Set.Basic
import Mathlib.Order.Defs.LinearOrder
import Mathlib.Order.Basic

/-!
# Copies of a source that changes

A source holds a value under each of its keys, with the time of its last change.  A copy of
it is refreshed by listings: a listing is read off the source at one moment, and written to
the copy piece by piece while the source goes on changing.

**Results.**
* `Writes.append`, `Writes.foldlM`: what a sequence of writes writes.
* `UpTo.change`, `UpTo.write`: a copy that holds what was last changed by a time goes on
  holding it.
* `Pending.of_all`, `Pending.of_since`: a listing of the whole source, or of what changed
  since a time by which the copy is complete.
* `Pending.change`, `Pending.write`, `Pending.upTo`: a listing is written in pieces, and the
  copy then holds what was last changed by the time it is for.
* `Within.write`: where the keys of a copy come from.
-/

namespace SalesAgent
namespace Refresh

universe u v w

variable {κ : Type u} {ν : Type v} {τ : Type w}

/-- The copy takes over a batch of entries. -/
structure Writes
    (copy copy' : κ → Option ν)
    (batch : List (κ × ν)) : Prop where
  written : ∀ p ∈ batch, copy' p.1 = some p.2
  others : ∀ k, (∀ p ∈ batch, p.1 ≠ k) → copy' k = copy k

theorem Writes.nil
    (copy : κ → Option ν) :
    Writes copy copy [] where
  written := fun p hp => absurd hp List.not_mem_nil
  others := fun _ _ => rfl

/-- Two batches without a common key, one after the other. -/
theorem Writes.append
    {copy copy' copy'' : κ → Option ν} {first second : List (κ × ν)}
    (h₁ : Writes copy copy' first)
    (h₂ : Writes copy' copy'' second)
    (hdisjoint : ∀ p ∈ first, ∀ q ∈ second, q.1 ≠ p.1) :
    Writes copy copy'' (first ++ second) where
  written := fun p hp => by
    rcases List.mem_append.mp hp with hfirst | hsecond
    · rw [h₂.others p.1 (hdisjoint p hfirst)]
      exact h₁.written p hfirst
    · exact h₂.written p hsecond
  others := fun k hk => by
    rw [h₂.others k (fun p hp => hk p (List.mem_append_right _ hp)),
      h₁.others k (fun p hp => hk p (List.mem_append_left _ hp))]

theorem Writes.congr
    {copy copy' : κ → Option ν} {batch batch' : List (κ × ν)}
    (h : Writes copy copy' batch)
    (hmem : ∀ p, p ∈ batch' ↔ p ∈ batch) :
    Writes copy copy' batch' where
  written := fun p hp => h.written p ((hmem p).mp hp)
  others := fun k hk => h.others k (fun p hp => hk p ((hmem p).mpr hp))

/-- A fold whose steps write one entry each writes them all. -/
theorem Writes.foldlM
    {σ α : Type*}
    {f : σ → α → Option σ} {copyOf : σ → κ → Option ν} {entry : α → κ × ν}
    (hstep : ∀ s a s', f s a = some s' → Writes (copyOf s) (copyOf s') [entry a])
    {l : List α} {s s' : σ}
    (h : l.foldlM f s = some s')
    (hnodup : (l.map (fun a => (entry a).1)).Nodup) :
    Writes (copyOf s) (copyOf s') (l.map entry) := by
  induction l generalizing s with
  | nil =>
      cases h
      exact .nil _
  | cons a l ih =>
      obtain ⟨hfresh, hrest⟩ := List.nodup_cons.mp hnodup
      rw [List.foldlM_cons] at h
      obtain ⟨middle, hfirst, hlater⟩ := Option.bind_eq_some_iff.mp h
      refine (hstep s a middle hfirst).append (ih hlater hrest) ?_
      rintro p hp q hq hkey
      obtain rfl := List.mem_singleton.mp hp
      obtain ⟨b, hb, rfl⟩ := List.mem_map.mp hq
      exact hfresh (List.mem_map.mpr ⟨b, hb, hkey⟩)

section Sources

variable [LinearOrder τ]

/-- Among the keys, the copy holds what the source last changed by the time. -/
def UpTo
    (src : κ → Option (ν × τ))
    (copy : κ → Option ν)
    (keys : Set κ)
    (t : τ) : Prop :=
  ∀ k ∈ keys, ∀ v m, src k = some (v, m) → m ≤ t → copy k = some v

/-- A listing still to be written: with it the copy would be complete up to the time, and it
holds nothing that was outdated by then. -/
structure Pending
    (src : κ → Option (ν × τ))
    (copy : κ → Option ν)
    (keys : Set κ)
    (t : τ)
    (left : List (κ × ν)) : Prop where
  within : ∀ p ∈ left, p.1 ∈ keys
  covered : ∀ k ∈ keys, ∀ v m, src k = some (v, m) → m ≤ t → copy k = some v ∨ (k, v) ∈ left
  current : ∀ p ∈ left, ∀ v m, src p.1 = some (v, m) → m ≤ t → v = p.2

variable {src src' : κ → Option (ν × τ)} {copy copy' : κ → Option ν} {keys : Set κ} {t t' : τ}

theorem UpTo.mono
    (h : UpTo src copy keys t)
    (hle : t' ≤ t) :
    UpTo src copy keys t' :=
  fun k hk v m hsrc hm => h k hk v m hsrc (le_trans hm hle)

/-- A later change of the source asks nothing of the copy. -/
theorem UpTo.change
    {k : κ}
    (h : UpTo src copy keys t)
    (hothers : ∀ k', k' ≠ k → src' k' = src k')
    (hlate : k ∈ keys → ∀ v m, src' k = some (v, m) → t < m) :
    UpTo src' copy keys t := by
  intro k' hk' v m hsrc hm
  by_cases hkey : k' = k
  · subst hkey
    exact absurd (hlate hk' v m hsrc) (not_lt_of_ge hm)
  · rw [hothers k' hkey] at hsrc
    exact h k' hk' v m hsrc hm

/-- Writing entries that were not outdated by the time. -/
theorem UpTo.write
    {batch : List (κ × ν)}
    (h : UpTo src copy keys t)
    (hwrites : Writes copy copy' batch)
    (hcurrent : ∀ p ∈ batch, ∀ v m, src p.1 = some (v, m) → m ≤ t → v = p.2) :
    UpTo src copy' keys t := by
  intro k hk v m hsrc hm
  by_cases hbatch : ∃ p ∈ batch, p.1 = k
  · obtain ⟨p, hp, rfl⟩ := hbatch
    rw [hwrites.written p hp, hcurrent p hp v m hsrc hm]
  · rw [hwrites.others k (fun p hp hkey => hbatch ⟨p, hp, hkey⟩)]
    exact h k hk v m hsrc hm

namespace Pending

variable {left : List (κ × ν)}

/-- A listing of everything. -/
theorem of_all
    (hwithin : ∀ p ∈ left, p.1 ∈ keys)
    (hall : ∀ k ∈ keys, ∀ v m, src k = some (v, m) → (k, v) ∈ left)
    (hlisted : ∀ p ∈ left, ∀ v m, src p.1 = some (v, m) → v = p.2) :
    Pending src copy keys t left where
  within := hwithin
  covered := fun k hk v m hsrc _ => .inr (hall k hk v m hsrc)
  current := fun p hp v m hsrc _ => hlisted p hp v m hsrc

/-- A listing of what changed since a time by which the copy was complete. -/
theorem of_since
    {since : τ}
    (hwithin : ∀ p ∈ left, p.1 ∈ keys)
    (hsince : UpTo src copy keys since)
    (hall : ∀ k ∈ keys, ∀ v m, src k = some (v, m) → since < m → (k, v) ∈ left)
    (hlisted : ∀ p ∈ left, ∀ v m, src p.1 = some (v, m) → v = p.2) :
    Pending src copy keys t left where
  within := hwithin
  covered := fun k hk v m hsrc _ => by
    rcases lt_or_ge since m with hlate | hearly
    · exact .inr (hall k hk v m hsrc hlate)
    · exact .inl (hsince k hk v m hsrc hearly)
  current := fun p hp v m hsrc _ => hlisted p hp v m hsrc

theorem change
    {k : κ}
    (h : Pending src copy keys t left)
    (hothers : ∀ k', k' ≠ k → src' k' = src k')
    (hlate : k ∈ keys → ∀ v m, src' k = some (v, m) → t < m) :
    Pending src' copy keys t left where
  within := h.within
  covered := fun k' hk' v m hsrc hm => by
    by_cases hkey : k' = k
    · subst hkey
      exact absurd (hlate hk' v m hsrc) (not_lt_of_ge hm)
    · rw [hothers k' hkey] at hsrc
      exact h.covered k' hk' v m hsrc hm
  current := fun p hp v m hsrc hm => by
    by_cases hkey : p.1 = k
    · rw [hkey] at hsrc
      exact absurd (hlate (hkey ▸ h.within p hp) v m hsrc) (not_lt_of_ge hm)
    · rw [hothers p.1 hkey] at hsrc
      exact h.current p hp v m hsrc hm

theorem write
    {batch : List (κ × ν)}
    (h : Pending src copy keys t (batch ++ left))
    (hwrites : Writes copy copy' batch) :
    Pending src copy' keys t left where
  within := fun p hp => h.within p (List.mem_append_right _ hp)
  covered := fun k hk v m hsrc hm => by
    by_cases hbatch : ∃ p ∈ batch, p.1 = k
    · obtain ⟨p, hp, rfl⟩ := hbatch
      rw [hwrites.written p hp,
        h.current p (List.mem_append_left _ hp) v m hsrc hm]
      exact .inl rfl
    · have hother : ∀ p ∈ batch, p.1 ≠ k := fun p hp hkey => hbatch ⟨p, hp, hkey⟩
      rw [hwrites.others k hother]
      rcases h.covered k hk v m hsrc hm with hcopy | hleft
      · exact .inl hcopy
      · rcases List.mem_append.mp hleft with hnow | hlater
        · exact absurd rfl (hother (k, v) hnow)
        · exact .inr hlater
  current := fun p hp => h.current p (List.mem_append_right _ hp)

/-- A listing that is written. -/
theorem upTo
    (h : Pending src copy keys t []) :
    UpTo src copy keys t := by
  intro k hk v m hsrc hm
  rcases h.covered k hk v m hsrc hm with hcopy | hleft
  · exact hcopy
  · exact absurd hleft List.not_mem_nil

theorem current_of_le
    (h : Pending src copy keys t left)
    (hle : t' ≤ t) :
    ∀ p ∈ left, ∀ v m, src p.1 = some (v, m) → m ≤ t' → v = p.2 :=
  fun p hp v m hsrc hm => h.current p hp v m hsrc (le_trans hm hle)

end Pending

end Sources

/-- Among the keys, the copy holds only allowed ones. -/
def Within
    (copy : κ → Option ν)
    (keys allowed : Set κ) : Prop :=
  ∀ k ∈ keys, (copy k).isSome → k ∈ allowed

namespace Within

variable {copy copy' : κ → Option ν} {keys allowed allowed' : Set κ}

theorem mono
    (h : Within copy keys allowed)
    (hsub : allowed ⊆ allowed') :
    Within copy keys allowed' :=
  fun k hk hsome => hsub (h k hk hsome)

/-- Writing entries, those under the keys with allowed ones. -/
theorem write
    {batch : List (κ × ν)}
    (h : Within copy keys allowed)
    (hwrites : Writes copy copy' batch)
    (hbatch : ∀ p ∈ batch, p.1 ∈ keys → p.1 ∈ allowed) :
    Within copy' keys allowed := by
  intro k hk hsome
  by_cases hkey : ∃ p ∈ batch, p.1 = k
  · obtain ⟨p, hp, rfl⟩ := hkey
    exact hbatch p hp hk
  · rw [hwrites.others k (fun p hp hpk => hkey ⟨p, hp, hpk⟩)] at hsome
    exact h k hk hsome

end Within

end Refresh
end SalesAgent
