import SalesAgent.Lib.Runs
import Mathlib.Data.Option.Basic
import Mathlib.Logic.Function.Basic

/-!
# A cache that requests share while their fetches are under way

A request looks its key up.  Where a stored value will do, that is the answer; otherwise a
fetch is started, other requests come and go, and the value that it brings may be stored.  How a
request uses the cache depends on the request: it may insist on a fetch, and it may keep what it
fetched to itself.

A component uses such a cache when each of its steps is one of the cache, or leaves it alone.

**Results.** In a run of a component that uses a cache:
* `Uses.stored`: a stored value was brought under its key for a request that stores, and no other
  has been stored under the key since;
* `Uses.waiting`: a fetch is under way because its request asked and was not answered.
-/

namespace SalesAgent
namespace SharedCache

open Runs

universe u v w x y

variable {κ : Type u} {ρ : Type v} {ν : Type w}

/-- How requests use the cache, and until when a value will do. -/
structure Usage (κ : Type u) (ρ : Type v) (ν : Type w) where
  key : ρ → κ
  reads : ρ → Bool
  stores : ρ → Bool
  usable : Int → ν → Bool
  /-- a value that will not do is removed by the request that finds it -/
  removes : Bool

/-- The stored values, and the fetches under way. -/
structure State (κ : Type u) (ρ : Type v) (ν : Type w) where
  entries : κ → Option ν
  waiting : Nat → Option ρ

/-- Nothing is stored, and nothing under way. -/
def State.empty : State κ ρ ν where
  entries := fun _ => none
  waiting := fun _ => none

inductive Event (ρ : Type v) (ν : Type w)
  | ask (ticket : Nat) (request : ρ) (now : Int)
  /-- the fetch of the ticket ends, with a value unless it failed -/
  | answer (ticket : Nat) (value : Option ν)
  /-- something that does not concern the cache -/
  | other

variable [DecidableEq κ] (usage : Usage κ ρ ν)

/-- The stored value that a request is answered with. -/
def State.find
    (state : State κ ρ ν)
    (request : ρ)
    (now : Int) : Option ν :=
  if usage.reads request then
    (state.entries (usage.key request)).filter (usage.usable now)
  else none

/-- Start the fetch of a request. -/
def State.wait
    (state : State κ ρ ν)
    (ticket : Nat)
    (request : ρ) : State κ ρ ν where
  entries :=
    if usage.removes && usage.reads request then
      Function.update state.entries (usage.key request) none
    else state.entries
  waiting := Function.update state.waiting ticket (some request)

/-- Store what a fetch brought. -/
def State.store
    (state : State κ ρ ν)
    (request : ρ) : Option ν → (κ → Option ν)
  | none => state.entries
  | some value =>
      if usage.stores request then
        Function.update state.entries (usage.key request) (some value)
      else state.entries

/-- What an event does. -/
def step
    (state : State κ ρ ν) : Event ρ ν → State κ ρ ν
  | .ask ticket request now =>
      if (state.find usage request now).isSome then state
      else state.wait usage ticket request
  | .answer ticket value =>
      match state.waiting ticket with
      | none => state
      | some request =>
          { entries := state.store usage request value
            waiting := Function.update state.waiting ticket none }
  | .other => state

/-- The event brings a value that is stored under the key. -/
def Stores
    (state : State κ ρ ν)
    (key : κ)
    (value : ν) : Event ρ ν → Prop
  | .answer ticket brought =>
      brought = some value ∧
        ∃ request, state.waiting ticket = some request ∧ usage.stores request = true ∧
          usage.key request = key
  | _ => False

/-- The steps of a component are steps of the cache in it. -/
def Uses
    {σ : Type x}
    {ε : Type y}
    (compStep : σ → ε → σ → Prop)
    (cache : σ → State κ ρ ν)
    (act : ε → Event ρ ν) : Prop :=
  ∀ s e t, compStep s e t → step usage (cache s) (act e) = cache t

variable {usage} {state : State κ ρ ν}

omit [DecidableEq κ] in
/-- An answer comes from the cache only to a request that reads it, from the value under its
key, which will still do. -/
theorem State.find_eq_some_iff
    {request : ρ}
    {now : Int}
    {value : ν} :
    state.find usage request now = some value ↔
      usage.reads request = true ∧ state.entries (usage.key request) = some value ∧
        usage.usable now value = true := by
  unfold State.find
  split
  · rename_i hreads
    rw [Option.filter_eq_some_iff]
    exact ⟨fun h => ⟨hreads, h⟩, fun h => h.2⟩
  · rename_i hreads
    constructor
    · intro h
      cases h
    · rintro ⟨h, -⟩
      exact absurd h hreads

theorem stores_of_step
    {event : Event ρ ν}
    {key : κ}
    {value : ν}
    (hnew : (step usage state event).entries key = some value)
    (hold : state.entries key ≠ some value) :
    Stores usage state key value event := by
  cases event with
  | ask ticket request now =>
      simp only [step] at hnew
      split at hnew
      · exact absurd hnew hold
      · simp only [State.wait] at hnew
        split at hnew
        · by_cases hkey : key = usage.key request
          · rw [hkey, Function.update_self] at hnew
            cases hnew
          · rw [Function.update_of_ne hkey] at hnew
            exact absurd hnew hold
        · exact absurd hnew hold
  | answer ticket brought =>
      simp only [step] at hnew
      split at hnew
      · exact absurd hnew hold
      · rename_i request hrequest
        cases brought with
        | none => exact absurd hnew hold
        | some value' =>
            simp only [State.store] at hnew
            split at hnew
            · rename_i hstores
              by_cases hkey : key = usage.key request
              · rw [hkey, Function.update_self] at hnew
                exact ⟨hnew, request, hrequest, hstores, hkey.symm⟩
              · rw [Function.update_of_ne hkey] at hnew
                exact absurd hnew hold
            · exact absurd hnew hold
  | other => exact absurd hnew hold

theorem step_of_stores
    {event : Event ρ ν}
    {key : κ}
    {value : ν}
    (h : Stores usage state key value event) :
    (step usage state event).entries key = some value := by
  cases event with
  | ask ticket request now => exact h.elim
  | other => exact h.elim
  | answer ticket brought =>
      obtain ⟨rfl, request, hrequest, hstores, rfl⟩ := h
      simp only [step, hrequest, State.store, hstores, if_true, Function.update_self]

section Component

variable {σ : Type x} {ε : Type y} {compStep : σ → ε → σ → Prop} {cache : σ → State κ ρ ν}
  {act : ε → Event ρ ν} {init final : σ} {events : List ε}

/-- A value that is stored after a run was brought by a step of it, and no other has been stored
under the key since. -/
theorem Uses.stored
    (huses : Uses usage compStep cache act)
    (hinit : cache init = State.empty)
    (hrun : Run compStep init events final)
    {key : κ}
    {value : ν}
    (h : (cache final).entries key = some value) :
    ∃ earlier event later before after, events = earlier ++ event :: later ∧
      Run compStep init earlier before ∧ Stores usage (cache before) key value (act event) ∧
      compStep before event after ∧
      Run (Restrict compStep fun s e =>
        ∀ other, Stores usage (cache s) key other (act e) → other = value) after later final := by
  have hempty : ¬ (cache init).entries key = some value := by
    rw [hinit]
    intro hnone
    cases hnone
  obtain ⟨earlier, event, later, before, after, heq, hbefore, hno, hstep, hrose, hsince⟩ :=
    hrun.last_rise (P := fun s => (cache s).entries key = some value) hempty h
  rw [← huses before event after hstep] at hrose
  refine ⟨earlier, event, later, before, after, heq, hbefore, stores_of_step hrose hno, hstep,
    hsince.mono ?_⟩
  rintro s e t ⟨hcomp, hkept⟩
  refine ⟨hcomp, fun other hstores => ?_⟩
  have hother := step_of_stores hstores
  rw [huses s e t hcomp] at hother
  exact Option.some.inj (hother.symm.trans hkept)

/-- A fetch is under way because its request asked under the ticket, where no stored value would
do. -/
theorem Uses.waiting
    (huses : Uses usage compStep cache act)
    (hinit : cache init = State.empty)
    (hrun : Run compStep init events final)
    {ticket : Nat}
    {request : ρ}
    (h : (cache final).waiting ticket = some request) :
    CameAbout compStep init (fun before event => ∃ now,
      act event = .ask ticket request now ∧ (cache before).find usage request now = none)
      events := by
  have hempty : ¬ (cache init).waiting ticket = some request := by
    rw [hinit]
    intro hnone
    cases hnone
  refine hrun.cameAbout (P := fun s => (cache s).waiting ticket = some request) ?_ hempty h
  intro _ s event t _ hcomp hnew
  rw [← huses s event t hcomp] at hnew
  cases hact : act event with
  | ask ticket' request' now =>
      rw [hact] at hnew
      simp only [step] at hnew
      split at hnew
      · exact .inl hnew
      · rename_i hmiss
        simp only [State.wait] at hnew
        by_cases hsame : ticket = ticket'
        · rw [← hsame, Function.update_self] at hnew
          cases hnew
          exact .inr ⟨now, by rw [hsame], Option.not_isSome_iff_eq_none.mp hmiss⟩
        · rw [Function.update_of_ne hsame] at hnew
          exact .inl hnew
  | answer ticket' brought =>
      rw [hact] at hnew
      simp only [step] at hnew
      split at hnew
      · exact .inl hnew
      · dsimp only at hnew
        by_cases hsame : ticket = ticket'
        · rw [← hsame, Function.update_self] at hnew
          cases hnew
        · rw [Function.update_of_ne hsame] at hnew
          exact .inl hnew
  | other =>
      rw [hact] at hnew
      exact .inl hnew

end Component

end SharedCache
end SalesAgent
