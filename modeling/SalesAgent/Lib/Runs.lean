import Mathlib.Order.Basic

/-!
# Runs of a labelled step relation

A component that takes step after step is a relation
`step : σ → ε → σ → Prop`: in state `s`, the event `e` may lead to `t`.
A run lists its events in order, so a property of a whole history can speak
about what happened at each step and about the order of the steps.

**Results.**
* `Run.preserves`: a property preserved by each step is preserved by a run.
* `Run.relates`: a preorder respected by each step is respected by a run.
* `Run.split`: a run over `es ++ fs` passes through a middle state.
* `Run.throughout`: a run takes only events that the history before them allowed.
* `Run.cameAbout`: what holds after a run and did not hold before it goes back to a step.
* `Run.last_rise`: such a step after which it held all the time.
* `foldlM_cons_eq_ok`, `run_of_foldlM`: a fold that may fail is a run of its function.
* `mem_of_mapM_eq_ok`, `exists_mapM_eq_ok_iff`: a map that may fail.
* `Restrict`: the steps that meet a condition; an invariant of the restricted
  relation holds along every run all of whose steps meet the condition.
-/

namespace SalesAgent
namespace Runs

universe u v

variable {σ : Type u} {ε : Type v}

/-- A finite run, labelled by its events in order. -/
inductive Run (step : σ → ε → σ → Prop) : σ → List ε → σ → Prop
  | nil (s : σ) : Run step s [] s
  | cons {s t u : σ} {e : ε} {es : List ε} :
      step s e t →
      Run step t es u →
      Run step s (e :: es) u

/-- The property is preserved by every step. -/
def Preserved (step : σ → ε → σ → Prop) (Inv : σ → Prop) : Prop :=
  ∀ ⦃s : σ⦄ ⦃e : ε⦄ ⦃t : σ⦄, step s e t → Inv s → Inv t

/-- The steps of a relation that meet a condition. -/
def Restrict
    (step : σ → ε → σ → Prop)
    (cond : σ → ε → Prop) :
    σ → ε → σ → Prop :=
  fun s e t => step s e t ∧ cond s e

variable {step : σ → ε → σ → Prop}

namespace Run

theorem single
    {s t : σ} {e : ε}
    (h : step s e t) :
    Run step s [e] t :=
  .cons h (.nil t)

theorem append
    {s t u : σ} {es fs : List ε}
    (h₁ : Run step s es t)
    (h₂ : Run step t fs u) :
    Run step s (es ++ fs) u := by
  induction h₁ with
  | nil s =>
      simpa using h₂
  | cons hstep _ ih =>
      exact .cons hstep (ih h₂)

/-- A run over a concatenation passes through a middle state. -/
theorem split
    {s u : σ} {es fs : List ε}
    (h : Run step s (es ++ fs) u) :
    ∃ t, Run step s es t ∧ Run step t fs u := by
  induction es generalizing s with
  | nil =>
      exact ⟨s, .nil s, by simpa using h⟩
  | cons e es ih =>
      cases h with
      | cons hstep hrest =>
          rcases ih hrest with ⟨t, h₁, h₂⟩
          exact ⟨t, .cons hstep h₁, h₂⟩

theorem uncons
    {s u : σ} {e : ε} {es : List ε}
    (h : Run step s (e :: es) u) :
    ∃ t, step s e t ∧ Run step t es u := by
  cases h with
  | cons hstep hrest =>
      exact ⟨_, hstep, hrest⟩

/-- Invariant rule: what every step preserves, a run preserves. -/
theorem preserves
    {Inv : σ → Prop}
    (hinv : Preserved step Inv)
    {s t : σ} {es : List ε}
    (h : Run step s es t)
    (hs : Inv s) :
    Inv t := by
  induction h with
  | nil s =>
      exact hs
  | cons hstep _ ih =>
      exact ih (hinv hstep hs)

theorem preserves_history
    {Inv : List ε → σ → Prop}
    (hinv : ∀ es s e t, Inv es s → step s e t → Inv (es ++ [e]) t)
    {s t : σ} {es pre : List ε}
    (h : Run step s es t)
    (hs : Inv pre s) :
    Inv (pre ++ es) t := by
  induction h generalizing pre with
  | nil s =>
      simpa using hs
  | cons hstep _ ih =>
      have hnext := ih (hinv pre _ _ _ hs hstep)
      simpa using hnext

/-- A reflexive, transitive relation respected by each step is respected by a run. -/
theorem relates
    {R : σ → σ → Prop}
    (hrefl : ∀ s, R s s)
    (htrans : ∀ s t u, R s t → R t u → R s u)
    (hstep : ∀ s e t, step s e t → R s t)
    {s t : σ} {es : List ε}
    (h : Run step s es t) :
    R s t := by
  induction h with
  | nil s =>
      exact hrefl s
  | cons hs _ ih =>
      exact htrans _ _ _ (hstep _ _ _ hs) ih

theorem mono
    {step' : σ → ε → σ → Prop}
    (hsub : ∀ s e t, step s e t → step' s e t)
    {s t : σ} {es : List ε}
    (h : Run step s es t) :
    Run step' s es t := by
  induction h with
  | nil s =>
      exact .nil _
  | cons hs _ ih =>
      exact .cons (hsub _ _ _ hs) ih

theorem of_restrict
    {cond : σ → ε → Prop}
    {s t : σ} {es : List ε}
    (h : Run (Restrict step cond) s es t) :
    Run step s es t :=
  h.mono (fun _ _ _ hs => hs.1)

theorem of_events
    {s t : σ} {es : List ε}
    (h : Run step s es t) :
    Run (Restrict step (fun _ e => e ∈ es)) s es t := by
  induction h with
  | nil s =>
      exact .nil s
  | @cons s t u e es hs _ ih =>
      have htail : Run (Restrict step (fun _ e' => e' ∈ e :: es)) t es u :=
        ih.mono (fun _ _ _ hstep => ⟨hstep.1, List.mem_cons_of_mem _ hstep.2⟩)
      exact .cons ⟨hs, List.mem_cons_self⟩ htail

end Run

/-- Every event of a history was allowed by the history before it. -/
def Throughout
    (allowed : List ε → ε → Prop)
    (es : List ε) : Prop :=
  ∀ earlier e later, es = earlier ++ e :: later → allowed earlier e

/-- A run takes only allowed events, where an invariant of history and state allows each
step and is kept by it. -/
theorem Run.throughout
    {Inv : List ε → σ → Prop}
    {allowed : List ε → ε → Prop}
    (hinv : ∀ es s e t, Inv es s → step s e t → allowed es e ∧ Inv (es ++ [e]) t)
    {s t : σ} {es : List ε}
    (h : Run step s es t)
    (hs : Inv [] s) :
    Throughout allowed es := by
  rintro earlier e later rfl
  obtain ⟨u, hbefore, hafter⟩ := h.split
  obtain ⟨v, hstep, _⟩ := hafter.uncons
  have hreached : Inv earlier u :=
    hbefore.preserves_history (fun es s e t hes hse => (hinv es s e t hes hse).2) hs
  exact (hinv earlier u e v hreached hstep).1

/-- What holds after a run and did not hold before it has held since the step that made it so. -/
theorem Run.last_rise
    {P : σ → Prop}
    {init t : σ} {es : List ε}
    (hinit : ¬ P init)
    (h : Run step init es t)
    (ht : P t) :
    ∃ earlier e later s s', es = earlier ++ e :: later ∧ Run step init earlier s ∧ ¬ P s ∧
      step s e s' ∧ P s' ∧ Run (fun s e t => step s e t ∧ P t) s' later t := by
  have hinv : ∀ es s e t,
      (Run step init es s ∧ (P s → ∃ earlier e later u u', es = earlier ++ e :: later ∧
        Run step init earlier u ∧ ¬ P u ∧ step u e u' ∧ P u' ∧
        Run (fun s e t => step s e t ∧ P t) u' later s)) →
      step s e t →
      (Run step init (es ++ [e]) t ∧ (P t → ∃ earlier e' later u u',
        es ++ [e] = earlier ++ e' :: later ∧ Run step init earlier u ∧ ¬ P u ∧ step u e' u' ∧
        P u' ∧ Run (fun s e t => step s e t ∧ P t) u' later t)) := by
    rintro es s e t ⟨hrun, hfact⟩ hse
    refine ⟨hrun.append (.single hse), fun ht => ?_⟩
    by_cases hs : P s
    · obtain ⟨earlier, e', later, u, u', rfl, hbefore, hno, hrise, hrose, hsince⟩ := hfact hs
      exact ⟨earlier, e', later ++ [e], u, u', by simp, hbefore, hno, hrise, hrose,
        hsince.append (.single ⟨hse, ht⟩)⟩
    · exact ⟨es, e, [], s, t, rfl, hrun, hs, hse, ht, .nil t⟩
  have hstart : Run step init [] init ∧ (P init → ∃ earlier e later u u',
      [] = earlier ++ e :: later ∧ Run step init earlier u ∧ ¬ P u ∧ step u e u' ∧ P u' ∧
      Run (fun s e t => step s e t ∧ P t) u' later init) :=
    ⟨.nil init, fun hp => absurd hp hinit⟩
  have hall := h.preserves_history hinv hstart
  rw [List.nil_append] at hall
  exact hall.2 ht

/-- A step of the history, taken in a state that the run passed through, did something. -/
def CameAbout
    (step : σ → ε → σ → Prop)
    (init : σ)
    (did : σ → ε → Prop)
    (es : List ε) : Prop :=
  ∃ earlier e later s, es = earlier ++ e :: later ∧ Run step init earlier s ∧ did s e

/-- A fact that every step keeps from coming about unless the step accounts for it goes back to
a step that does. -/
theorem Run.cameAbout
    {P : σ → Prop}
    {accounts : σ → ε → Prop}
    {init t : σ} {es : List ε}
    (hstep : ∀ es s e t, Run step init es s → step s e t → P t → P s ∨ accounts s e)
    (hinit : ¬ P init)
    (h : Run step init es t)
    (ht : P t) :
    CameAbout step init accounts es := by
  obtain ⟨earlier, e, later, s, s', rfl, hbefore, hno, hrise, hrose, -⟩ := h.last_rise hinit ht
  rcases hstep earlier s e s' hbefore hrise hrose with hold | hnew
  · exact absurd hold hno
  · exact ⟨earlier, e, later, s, rfl, hbefore, hnew⟩

/-- The step relation of a fold that may fail. -/
def FoldStep
    {err : Type*}
    (f : σ → ε → Except err σ) :
    σ → ε → σ → Prop :=
  fun s e t => f s e = .ok t

/-- A fold that succeeds takes its first step and goes on. -/
theorem foldlM_cons_eq_ok
    {err : Type*}
    {f : σ → ε → Except err σ}
    {e : ε} {es : List ε} {s t : σ} :
    (e :: es).foldlM f s = .ok t ↔ ∃ u, f s e = .ok u ∧ es.foldlM f u = .ok t := by
  rw [List.foldlM_cons]
  cases f s e with
  | error err =>
      constructor
      · intro h
        cases h
      · rintro ⟨u, hu, -⟩
        cases hu
  | ok u =>
      constructor
      · intro h
        exact ⟨u, rfl, h⟩
      · rintro ⟨u', hu', h⟩
        cases hu'
        exact h

/-- A fold that succeeds is a run. -/
theorem run_of_foldlM
    {err : Type*}
    {f : σ → ε → Except err σ}
    {es : List ε} {s t : σ}
    (h : es.foldlM f s = .ok t) :
    Run (FoldStep f) s es t := by
  induction es generalizing s with
  | nil =>
      cases h
      exact .nil _
  | cons e es ih =>
      obtain ⟨middle, hfirst, hrest⟩ := foldlM_cons_eq_ok.mp h
      exact .cons hfirst (ih hrest)

theorem exists_run_of_foldlM
    {err : Type*}
    {f : σ → ε → Except err σ}
    {es : List ε} {s : σ} {test : σ → Bool}
    (h : (es.foldlM f s).toOption.any test = true) :
    ∃ t, Run (FoldStep f) s es t ∧ test t = true := by
  cases hfold : es.foldlM f s with
  | error e =>
      rw [hfold] at h
      cases h
  | ok t =>
      rw [hfold] at h
      exact ⟨t, run_of_foldlM hfold, h⟩

theorem exists_step_of_foldlM_error
    {err : Type*}
    {f : σ → ε → Except err σ}
    {es : List ε} {s : σ} {e : err}
    (h : es.foldlM f s = .error e) :
    ∃ done last u, Run (FoldStep f) s done u ∧ last ∈ es ∧ f u last = .error e := by
  induction es generalizing s with
  | nil => cases h
  | cons first rest ih =>
      rw [List.foldlM_cons] at h
      cases hfirst : f s first with
      | error err =>
          rw [hfirst] at h
          cases h
          exact ⟨[], first, s, .nil s, List.mem_cons_self, hfirst⟩
      | ok middle =>
          rw [hfirst] at h
          obtain ⟨done, last, u, hrun, hlast, hfail⟩ := ih h
          exact ⟨first :: done, last, u, .cons hfirst hrun, List.mem_cons_of_mem _ hlast, hfail⟩

section FailingMap

variable {α β err : Type*} {f : α → Except err β}

theorem mapM_cons_eq_ok
    {a : α} {as : List α} {bs : List β} :
    (a :: as).mapM f = .ok bs ↔ ∃ b rest, f a = .ok b ∧ as.mapM f = .ok rest ∧ bs = b :: rest := by
  rw [List.mapM_cons]
  cases ha : f a with
  | error e =>
      constructor
      · intro h
        cases h
      · rintro ⟨b, rest, hb, -, -⟩
        cases hb
  | ok b =>
      cases htail : as.mapM f with
      | error e =>
          constructor
          · intro h
            cases h
          · rintro ⟨b', rest, -, hrest, -⟩
            cases hrest
      | ok rest =>
          constructor
          · intro h
            cases h
            exact ⟨b, rest, rfl, rfl, rfl⟩
          · rintro ⟨b', rest', hb, hrest, rfl⟩
            cases hb
            cases hrest
            rfl

/-- The results of a map that succeeds. -/
theorem mem_of_mapM_eq_ok
    {as : List α} {bs : List β}
    (h : as.mapM f = .ok bs)
    (b : β) :
    b ∈ bs ↔ ∃ a ∈ as, f a = .ok b := by
  induction as generalizing bs with
  | nil =>
      cases h
      simp
  | cons a as ih =>
      obtain ⟨b', rest, hb', hrest, rfl⟩ := mapM_cons_eq_ok.mp h
      simp only [List.mem_cons, ih hrest, exists_eq_or_imp, hb', Except.ok.injEq]
      exact or_congr_left eq_comm

/-- A map succeeds where each of its calls does. -/
theorem exists_mapM_eq_ok_iff
    {as : List α} :
    (∃ bs, as.mapM f = .ok bs) ↔ ∀ a ∈ as, ∃ b, f a = .ok b := by
  induction as with
  | nil => exact ⟨fun _ a ha => absurd ha List.not_mem_nil, fun _ => ⟨[], rfl⟩⟩
  | cons a as ih =>
      simp only [mapM_cons_eq_ok, List.forall_mem_cons, ← ih]
      constructor
      · rintro ⟨bs, b, rest, hb, hrest, -⟩
        exact ⟨⟨b, hb⟩, ⟨rest, hrest⟩⟩
      · rintro ⟨⟨b, hb⟩, ⟨rest, hrest⟩⟩
        exact ⟨b :: rest, b, rest, hb, hrest, rfl⟩

end FailingMap

end Runs
end SalesAgent
