import Mathlib.Data.List.Basic

/-!
# Replacing a pattern in a text

Every occurrence of a pattern in a text is replaced, from the left and without overlap.  A
pattern whose last symbol occurs nowhere else in it cannot overlap itself, so that the text
splits at each of its occurrences.

**Rules.**
* `Closed.induction`: induction along the occurrences in a text.
* `count_append_pattern`, `replaceAll_append_pattern`: an occurrence splits the text.
* `Filling.replaceAll_iff`: of a text made of the pattern and other pieces, exactly the
  pieces that are the pattern are replaced if and only if it occurs nowhere else.
-/

namespace SalesAgent
namespace Replace

universe u v

section Definitions

variable {α : Type u} [DecidableEq α]

/-- Replace the occurrences in what follows the symbols to skip. -/
def replaceFrom
    (pattern new : List α) : Nat → List α → List α
  | _, [] => []
  | skip + 1, _ :: text => replaceFrom pattern new skip text
  | 0, a :: text =>
      if pattern <+: a :: text then new ++ replaceFrom pattern new (pattern.length - 1) text
      else a :: replaceFrom pattern new 0 text

/-- Replace every occurrence of the pattern. -/
def replaceAll
    (pattern new text : List α) : List α :=
  replaceFrom pattern new 0 text

/-- Count the occurrences in what follows the symbols to skip. -/
def countFrom
    (pattern : List α) : Nat → List α → Nat
  | _, [] => 0
  | skip + 1, _ :: text => countFrom pattern skip text
  | 0, a :: text =>
      if pattern <+: a :: text then 1 + countFrom pattern (pattern.length - 1) text
      else countFrom pattern 0 text

/-- How often the pattern occurs. -/
def count
    (pattern text : List α) : Nat :=
  countFrom pattern 0 text

/-- A pattern whose last symbol occurs nowhere else in it. -/
structure Closed
    (pattern : List α) : Prop where
  ends : ∃ front last, pattern = front ++ [last] ∧ last ∉ front

end Definitions

section Occurrences

variable {α : Type u} {pattern new : List α}

theorem Closed.exists_cons
    (hclosed : Closed pattern) :
    ∃ a rest, pattern = a :: rest := by
  obtain ⟨front, last, rfl, -⟩ := hclosed.ends
  cases front with
  | nil => exact ⟨last, [], rfl⟩
  | cons a front => exact ⟨a, front ++ [last], rfl⟩

theorem Closed.prefix_of_append
    (hclosed : Closed pattern)
    {front text : List α}
    (hnonempty : front ≠ [])
    (hbegins : pattern <+: front ++ (pattern ++ text)) :
    pattern <+: front := by
  obtain ⟨body, last, hpattern, hlast⟩ := hclosed.ends
  rcases Nat.lt_or_ge front.length pattern.length with hshort | hlong
  · exfalso
    have hlength : pattern.length = body.length + 1 := by simp [hpattern]
    have hfront : 0 < front.length := List.length_pos_iff.mpr hnonempty
    -- the last symbol of the occurrence lies inside the pattern that follows
    have hindex : body.length - front.length < body.length := by omega
    have hat : (front ++ (pattern ++ text))[body.length]? = some last := by
      rw [List.prefix_iff_getElem?.mp hbegins body.length (by omega)]
      simp [hpattern]
    rw [List.getElem?_append_right (by omega), hpattern, List.append_assoc,
      List.getElem?_append_left hindex] at hat
    exact hlast (List.mem_of_getElem? hat)
  · exact List.prefix_of_prefix_length_le hbegins (List.prefix_append _ _) hlong

/-- Induction along the occurrences of the pattern in a text. -/
theorem Closed.induction
    (hclosed : Closed pattern)
    {P : List α → Prop}
    (nil : P [])
    (hit : ∀ text, P text → P (pattern ++ text))
    (miss : ∀ a text, ¬ pattern <+: a :: text → P text → P (a :: text))
    (text : List α) :
    P text := by
  induction hlength : text.length using Nat.strongRecOn generalizing text with
  | ind n ih =>
      cases text with
      | nil => exact nil
      | cons a text =>
          by_cases hbegins : pattern <+: a :: text
          · obtain ⟨rest, hrest⟩ := hbegins
            obtain ⟨b, tail, hpattern⟩ := hclosed.exists_cons
            have hshorter : rest.length < n := by
              rw [← hlength, ← hrest, hpattern, List.length_append, List.length_cons]
              omega
            rw [← hrest]
            exact hit rest (ih rest.length hshorter rest rfl)
          · refine miss a text hbegins (ih text.length ?_ text rfl)
            rw [← hlength, List.length_cons]
            exact Nat.lt_succ_self _

variable [DecidableEq α]

theorem replaceFrom_skip
    (skip : Nat)
    (text : List α) :
    replaceFrom pattern new skip text = replaceAll pattern new (text.drop skip) := by
  induction skip generalizing text with
  | zero => rfl
  | succ skip ih =>
      cases text with
      | nil => rfl
      | cons a text => exact ih text

theorem countFrom_skip
    (skip : Nat)
    (text : List α) :
    countFrom pattern skip text = count pattern (text.drop skip) := by
  induction skip generalizing text with
  | zero => rfl
  | succ skip ih =>
      cases text with
      | nil => rfl
      | cons a text => exact ih text

@[simp] theorem replaceAll_nil :
    replaceAll pattern new [] = [] :=
  rfl

@[simp] theorem count_nil :
    count pattern [] = 0 :=
  rfl

theorem replaceAll_cons
    {a : α} {text : List α}
    (hnot : ¬ pattern <+: a :: text) :
    replaceAll pattern new (a :: text) = a :: replaceAll pattern new text := by
  rw [replaceAll, replaceFrom, if_neg hnot]
  rfl

theorem count_cons
    {a : α} {text : List α}
    (hnot : ¬ pattern <+: a :: text) :
    count pattern (a :: text) = count pattern text := by
  rw [count, countFrom, if_neg hnot]
  rfl

theorem replaceAll_pattern_append
    (hclosed : Closed pattern)
    (text : List α) :
    replaceAll pattern new (pattern ++ text) = new ++ replaceAll pattern new text := by
  obtain ⟨a, rest, rfl⟩ := hclosed.exists_cons
  rw [List.cons_append, replaceAll, replaceFrom,
    if_pos (by rw [← List.cons_append]; exact List.prefix_append _ _), replaceFrom_skip]
  simp

theorem count_pattern_append
    (hclosed : Closed pattern)
    (text : List α) :
    count pattern (pattern ++ text) = 1 + count pattern text := by
  obtain ⟨a, rest, rfl⟩ := hclosed.exists_cons
  rw [List.cons_append, count, countFrom,
    if_pos (by rw [← List.cons_append]; exact List.prefix_append _ _), countFrom_skip]
  simp

/-- An occurrence splits the text. -/
theorem replaceAll_append_pattern
    (hclosed : Closed pattern)
    (front text : List α) :
    replaceAll pattern new (front ++ (pattern ++ text)) =
      replaceAll pattern new front ++ (new ++ replaceAll pattern new text) := by
  induction front using hclosed.induction with
  | nil => exact replaceAll_pattern_append hclosed text
  | hit front ih =>
      rw [List.append_assoc, replaceAll_pattern_append hclosed, ih,
        replaceAll_pattern_append hclosed, List.append_assoc]
  | miss a front hmiss ih =>
      have hnot : ¬ pattern <+: a :: (front ++ (pattern ++ text)) := fun h =>
        hmiss (hclosed.prefix_of_append (List.cons_ne_nil a front) h)
      rw [List.cons_append, replaceAll_cons hnot, replaceAll_cons hmiss, ih, List.cons_append]

theorem count_append_pattern
    (hclosed : Closed pattern)
    (front text : List α) :
    count pattern (front ++ (pattern ++ text)) =
      count pattern front + (1 + count pattern text) := by
  induction front using hclosed.induction with
  | nil =>
      rw [List.nil_append, count_nil, Nat.zero_add]
      exact count_pattern_append hclosed text
  | hit front ih =>
      rw [List.append_assoc, count_pattern_append hclosed, ih, count_pattern_append hclosed,
        Nat.add_assoc]
  | miss a front hmiss ih =>
      have hnot : ¬ pattern <+: a :: (front ++ (pattern ++ text)) := fun h =>
        hmiss (hclosed.prefix_of_append (List.cons_ne_nil a front) h)
      rw [List.cons_append, count_cons hnot, count_cons hmiss, ih]

theorem length_replaceAll
    (hclosed : Closed pattern)
    (new text : List α) :
    (replaceAll pattern new text).length + count pattern text * pattern.length =
      text.length + count pattern text * new.length := by
  induction text using hclosed.induction with
  | nil => simp
  | hit text ih =>
      rw [replaceAll_pattern_append hclosed, count_pattern_append hclosed, List.length_append,
        List.length_append, Nat.add_mul, Nat.add_mul, Nat.one_mul, Nat.one_mul]
      omega
  | miss a text hmiss ih =>
      rw [replaceAll_cons hmiss, count_cons hmiss, List.length_cons, List.length_cons]
      omega

theorem replaceAll_of_count_eq_zero
    (hclosed : Closed pattern)
    (text : List α)
    (hfree : count pattern text = 0) :
    replaceAll pattern new text = text := by
  induction text using hclosed.induction with
  | nil => rfl
  | hit text ih =>
      rw [count_pattern_append hclosed] at hfree
      omega
  | miss a text hmiss ih =>
      rw [count_cons hmiss] at hfree
      rw [replaceAll_cons hmiss, ih hfree]

theorem replaceAll_self
    (hclosed : Closed pattern)
    (text : List α) :
    replaceAll pattern pattern text = text := by
  induction text using hclosed.induction with
  | nil => rfl
  | hit text ih => rw [replaceAll_pattern_append hclosed, ih]
  | miss a text hmiss ih => rw [replaceAll_cons hmiss, ih]

theorem count_eq_zero_of_replaceAll_eq_self
    (hclosed : Closed pattern)
    (hlength : new.length = pattern.length)
    (hne : new ≠ pattern)
    (text : List α)
    (hself : replaceAll pattern new text = text) :
    count pattern text = 0 := by
  induction text using hclosed.induction with
  | nil => rfl
  | hit text ih =>
      rw [replaceAll_pattern_append hclosed] at hself
      exact absurd (List.append_inj hself hlength).1 hne
  | miss a text hmiss ih =>
      rw [replaceAll_cons hmiss, List.cons.injEq] at hself
      rw [count_cons hmiss, ih hself.2]

end Occurrences

section Fillings

variable {α : Type u} [DecidableEq α] {pattern new : List α}
variable {τ : Type v} {own : τ → Bool} {old filled : τ → List α}

/-- Pieces of a text, some of which are the pattern in the old text and the new one in the
text filled; the others are the same in both. -/
structure Filling
    (pattern new : List α)
    (own : τ → Bool)
    (old filled : τ → List α) : Prop where
  own_old : ∀ t, own t = true → old t = pattern
  own_filled : ∀ t, own t = true → filled t = new
  other : ∀ t, own t = false → filled t = old t

theorem Filling.countP_le
    (h : Filling pattern new own old filled)
    (hclosed : Closed pattern)
    (pieces : List τ)
    (front : List α) :
    pieces.countP own ≤ count pattern (front ++ pieces.flatMap old) := by
  induction pieces generalizing front with
  | nil => exact Nat.zero_le _
  | cons t pieces ih =>
      rw [List.flatMap_cons]
      cases hown : own t with
      | true =>
          have hrest := ih []
          rw [List.countP_cons_of_pos hown, h.own_old t hown, count_append_pattern hclosed]
          rw [List.nil_append] at hrest
          omega
      | false =>
          rw [List.countP_cons_of_neg (by simp [hown]), ← List.append_assoc]
          exact ih _

theorem Filling.replaceAll_eq
    (h : Filling pattern new own old filled)
    (hclosed : Closed pattern)
    (pieces : List τ)
    (front : List α)
    (hcount : count pattern (front ++ pieces.flatMap old) = pieces.countP own) :
    replaceAll pattern new (front ++ pieces.flatMap old) = front ++ pieces.flatMap filled := by
  induction pieces generalizing front with
  | nil => exact replaceAll_of_count_eq_zero hclosed _ hcount
  | cons t pieces ih =>
      rw [List.flatMap_cons] at hcount ⊢
      rw [List.flatMap_cons]
      cases hown : own t with
      | true =>
          rw [h.own_old t hown] at hcount ⊢
          rw [List.countP_cons_of_pos hown, count_append_pattern hclosed] at hcount
          have hpieces := h.countP_le hclosed pieces []
          rw [List.nil_append] at hpieces
          have hfront : count pattern front = 0 := by omega
          have hrest := ih [] (by rw [List.nil_append]; omega)
          rw [List.nil_append, List.nil_append] at hrest
          rw [replaceAll_append_pattern hclosed, replaceAll_of_count_eq_zero hclosed _ hfront,
            hrest, h.own_filled t hown]
      | false =>
          rw [List.countP_cons_of_neg (by simp [hown]), ← List.append_assoc] at hcount
          rw [h.other t hown, ← List.append_assoc, ← List.append_assoc]
          exact ih _ hcount

theorem Filling.count_eq
    (h : Filling pattern new own old filled)
    (hclosed : Closed pattern)
    (hlength : new.length = pattern.length)
    (hne : new ≠ pattern)
    (pieces : List τ)
    (front : List α)
    (hreplaced :
      replaceAll pattern new (front ++ pieces.flatMap old) = front ++ pieces.flatMap filled) :
    count pattern (front ++ pieces.flatMap old) = pieces.countP own := by
  induction pieces generalizing front with
  | nil => exact count_eq_zero_of_replaceAll_eq_self hclosed hlength hne _ hreplaced
  | cons t pieces ih =>
      rw [List.flatMap_cons] at hreplaced ⊢
      rw [List.flatMap_cons] at hreplaced
      cases hown : own t with
      | true =>
          rw [h.own_old t hown] at hreplaced ⊢
          rw [h.own_filled t hown, replaceAll_append_pattern hclosed] at hreplaced
          have hsame : (replaceAll pattern new front).length = front.length := by
            have := length_replaceAll hclosed new front
            rw [hlength] at this
            omega
          obtain ⟨hfront, hrest⟩ := List.append_inj hreplaced hsame
          have hpieces := ih [] (List.append_cancel_left hrest)
          rw [List.countP_cons_of_pos hown, count_append_pattern hclosed,
            count_eq_zero_of_replaceAll_eq_self hclosed hlength hne _ hfront]
          rw [List.nil_append] at hpieces
          omega
      | false =>
          rw [h.other t hown, ← List.append_assoc, ← List.append_assoc] at hreplaced
          rw [List.countP_cons_of_neg (by simp [hown]), ← List.append_assoc]
          exact ih _ hreplaced

omit [DecidableEq α] in
/-- The lengths of the two texts. -/
theorem Filling.length_flatMap
    (h : Filling pattern new own old filled)
    (pieces : List τ) :
    (pieces.flatMap filled).length + pieces.countP own * pattern.length =
      (pieces.flatMap old).length + pieces.countP own * new.length := by
  induction pieces with
  | nil => simp
  | cons t pieces ih =>
      rw [List.flatMap_cons, List.flatMap_cons, List.length_append, List.length_append]
      cases hown : own t with
      | true =>
          rw [List.countP_cons_of_pos hown, h.own_old t hown, h.own_filled t hown, Nat.add_mul,
            Nat.add_mul, Nat.one_mul, Nat.one_mul]
          omega
      | false =>
          rw [List.countP_cons_of_neg (by simp [hown]), h.other t hown]
          omega

/-- Exactly the pieces that are the pattern are replaced if and only if the pattern occurs
nowhere else, or is replaced by itself. -/
theorem Filling.replaceAll_iff
    (h : Filling pattern new own old filled)
    (hclosed : Closed pattern)
    (pieces : List τ) :
    replaceAll pattern new (pieces.flatMap old) = pieces.flatMap filled ↔
      count pattern (pieces.flatMap old) = pieces.countP own ∨ new = pattern := by
  constructor
  · intro hreplaced
    by_cases hne : new = pattern
    · exact .inr hne
    · refine .inl ?_
      have hle := h.countP_le hclosed pieces []
      rw [List.nil_append] at hle
      by_cases hlength : new.length = pattern.length
      · have hcount := h.count_eq hclosed hlength hne pieces []
        rw [List.nil_append, List.nil_append] at hcount
        exact hcount hreplaced
      · -- the lengths count the occurrences that were replaced
        have htotal := length_replaceAll hclosed new (pieces.flatMap old)
        have hfilled := h.length_flatMap pieces
        rw [hreplaced] at htotal
        obtain ⟨extra, hextra⟩ := Nat.exists_eq_add_of_le hle
        rw [hextra, Nat.add_mul, Nat.add_mul] at htotal
        have hsame : extra * pattern.length = extra * new.length := by omega
        rcases Nat.eq_zero_or_pos extra with hnone | hsome
        · rw [hextra, hnone, Nat.add_zero]
        · exact absurd (Nat.eq_of_mul_eq_mul_left hsome hsame).symm hlength
  · rintro (hcount | rfl)
    · exact h.replaceAll_eq hclosed pieces [] hcount
    · rw [replaceAll_self hclosed]
      refine congrArg List.flatten (List.map_congr_left ?_)
      intro t _
      cases hown : own t with
      | true => rw [h.own_old t hown, h.own_filled t hown]
      | false => rw [h.other t hown]

end Fillings

section InertPieces

variable {α : Type u} {pattern new piece : List α}

variable [DecidableEq α]

end InertPieces

end Replace
end SalesAgent
