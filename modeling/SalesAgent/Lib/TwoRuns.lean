import SalesAgent.Lib.Runs

/-!
# Two runs that an observer cannot tell apart

An observer sees part of a state.  Two states that agree on that part are related, and
a computation that may fail does not reveal the rest where it takes related states to
alike results: both fail with one error, or both succeed in related states.

**Results.**
* `Alike.foldlM`: a loop whose steps are alike is alike.
* `Alike.foldlM_or`: the same up to events that may end one of the two loops.
-/

namespace SalesAgent
namespace TwoRuns

universe u v w x

variable {σ : Type u} {τ : Type v} {ε : Type w} {err : Type x}

/-- Both results are errors, the same, or both are states, related. -/
inductive Alike (R : σ → τ → Prop) : Except err σ → Except err τ → Prop
  | ok {s : σ} {t : τ} (h : R s t) : Alike R (.ok s) (.ok t)
  | error (e : err) : Alike R (.error e) (.error e)

variable {R S : σ → τ → Prop}

theorem Alike.mono
    (hsub : ∀ s t, R s t → S s t)
    {a : Except err σ} {b : Except err τ}
    (h : Alike R a b) :
    Alike S a b := by
  cases h with
  | ok h => exact .ok (hsub _ _ h)
  | error e => exact .error e

theorem Alike.error_left
    {b : Except err τ} {e : err}
    (h : Alike R (.error e) b) :
    b = .error e := by
  cases h
  rfl

theorem Alike.ok_left
    {b : Except err τ} {s : σ}
    (h : Alike R (.ok s) b) :
    ∃ t, b = .ok t ∧ R s t := by
  cases h with
  | ok h => exact ⟨_, rfl, h⟩

/-- Two loops over one list whose steps are alike are alike. -/
theorem Alike.foldlM
    {f : σ → ε → Except err σ} {g : τ → ε → Except err τ} {es : List ε} {s : σ} {t : τ}
    (hstep : ∀ e ∈ es, ∀ s t, R s t → Alike R (f s e) (g t e))
    (h : R s t) :
    Alike R (es.foldlM f s) (es.foldlM g t) := by
  induction es generalizing s t with
  | nil => exact .ok h
  | cons e es ih =>
      rw [List.foldlM_cons, List.foldlM_cons]
      have hfirst := hstep e List.mem_cons_self s t h
      generalize f s e = a at hfirst
      generalize g t e = b at hfirst
      cases hfirst with
      | ok hnext => exact ih (fun e' he' => hstep e' (List.mem_cons_of_mem _ he')) hnext
      | error err => exact .error err

/-- The loop fails at an event of this kind. -/
inductive EndsAt
    (f : σ → ε → Except err σ)
    (P : σ → ε → Prop) : σ → List ε → Prop
  | here {s : σ} {e : ε} {es : List ε} {x : err}
      (hkind : P s e)
      (h : f s e = .error x) :
      EndsAt f P s (e :: es)
  | later {s s' : σ} {e : ε} {es : List ε}
      (h : f s e = .ok s')
      (hrest : EndsAt f P s' es) :
      EndsAt f P s (e :: es)

theorem EndsAt.exists_kind
    {f : σ → ε → Except err σ} {P : σ → ε → Prop} {s : σ} {es : List ε}
    (h : EndsAt f P s es) :
    ∃ s' e, P s' e := by
  induction h with
  | here hkind _ => exact ⟨_, _, hkind⟩
  | later _ _ ih => exact ih

/-- Two loops over one list are alike, or an event of its kind ended one of them, where
that is true of every step from related states that both loops reach. -/
theorem Alike.foldlM_or
    {f : σ → ε → Except err σ} {g : τ → ε → Except err τ}
    {P : σ → ε → Prop} {Q : τ → ε → Prop}
    {es : List ε} {s : σ} {t : τ}
    (hstep : ∀ pre e post, es = pre ++ e :: post → ∀ s' t', pre.foldlM f s = .ok s' →
      pre.foldlM g t = .ok t' → R s' t' →
        Alike R (f s' e) (g t' e) ∨ (P s' e ∧ ∃ x, f s' e = .error x) ∨
          (Q t' e ∧ ∃ x, g t' e = .error x))
    (h : R s t) :
    Alike R (es.foldlM f s) (es.foldlM g t) ∨ EndsAt f P s es ∨ EndsAt g Q t es := by
  induction es generalizing s t with
  | nil => exact .inl (.ok h)
  | cons e es ih =>
      rcases hstep [] e es rfl s t rfl rfl h with halike | ⟨hkind, x, hx⟩ | ⟨hkind, x, hx⟩
      · rw [List.foldlM_cons, List.foldlM_cons]
        cases hs : f s e with
        | error x =>
            rw [hs] at halike
            rw [halike.error_left]
            exact .inl (.error x)
        | ok s' =>
            rw [hs] at halike
            obtain ⟨t', ht, hnext⟩ := halike.ok_left
            rw [ht]
            have hrest := ih (s := s') (t := t') (fun pre e' post hes s'' t'' hf hg =>
              hstep (e :: pre) e' post (by rw [hes]; rfl) s'' t''
                (Runs.foldlM_cons_eq_ok.mpr ⟨s', hs, hf⟩)
                (Runs.foldlM_cons_eq_ok.mpr ⟨t', ht, hg⟩)) hnext
            exact hrest.imp_right (Or.imp (.later hs) (.later ht))
      · exact .inr (.inl (.here hkind hx))
      · exact .inr (.inr (.here hkind hx))

end TwoRuns
end SalesAgent
