import SalesAgent.Database.Effects
import SalesAgent.Lib.Worklist

/-!
# Draining the effects of a transaction

After the commit the effects of the scope are run in rounds.  A round takes the queue of
the scope and runs it; what its effects register waits for the next round.  An effect
that raises is logged, unless it is fatal: then its error leaves the drain.  After
`_MAX_DRAIN_ROUNDS` rounds the drain raises, whether or not anything still waits.

What a call of an effect does may depend on all that ran before it, so an effect may
register itself again and again.

**Results.**
* `ScopeWork.perform_begin`: the queue of a unit of work is what no savepoint has discarded.
* `drainRounds_course`: how a drain ends, and what it has run by then.
* `drain_contract_iff`: the drain keeps its promise unless its last round empties the queue.
-/

namespace SalesAgent
namespace Database
namespace Draining

universe u v w

open Worklist

/-- `_DeferredEffect`. -/
structure DeferredEffect (κ : Type u) where
  run : κ
  label : String
  fatal : Bool := false
  deriving DecidableEq, Repr

/-- What a call of `run` does: what it registers in the scope, the world it leaves, and
what it raises. -/
structure Call (κ : Type u) (σ : Type v) (ε : Type w) where
  registers : List (DeferredEffect κ)
  world : σ
  raised : Option ε

/-- `_EffectScope`. -/
structure EffectScope (κ : Type u) where
  preview : Bool
  queue : List (DeferredEffect κ) := []

/-- What the stage raises itself. -/
inductive EffectError
  /-- `after_commit` was called outside a unit of work. -/
  | outsideUnit (label : String)
  /-- The effects still queue new effects. -/
  | stillQueueing (pending : List String)
  deriving DecidableEq, Repr

variable {κ : Type u} {σ : Type v} {ε : Type w}

section Scopes

/-- `begin_effects`, on the scopes of a session, the last first. -/
def beginEffects
    (preview : Bool)
    (scopes : List (EffectScope κ)) : List (EffectScope κ) :=
  { preview := preview } :: scopes

/-- `register_after_commit`. -/
def registerAfterCommit
    (e : DeferredEffect κ) : List (EffectScope κ) → Except EffectError (List (EffectScope κ))
  | [] => .error (.outsideUnit e.label)
  | scope :: below => .ok ({ scope with queue := scope.queue ++ [e] } :: below)

/-- `effect_savepoint`, of the scopes before its block and after it. -/
def effectSavepoint
    (raised : Bool) : List (EffectScope κ) → List (EffectScope κ) → List (EffectScope κ)
  | scope :: _, scope' :: below =>
      if raised then { scope' with queue := scope'.queue.take scope.queue.length } :: below
      else scope' :: below
  | _, scopes => scopes

/-- What a transaction does with the effects of its scope. -/
inductive ScopeWork (κ : Type u)
  | done
  | register (e : DeferredEffect κ) (rest : ScopeWork κ)
  | savepoint (body : ScopeWork κ) (raised : Bool) (rest : ScopeWork κ)

namespace ScopeWork

/-- Do the work on the scopes of a session. -/
def perform : ScopeWork κ → List (EffectScope κ) → Except EffectError (List (EffectScope κ))
  | .done, scopes => .ok scopes
  | .register e rest, scopes => do
      let scopes' ← registerAfterCommit e scopes
      rest.perform scopes'
  | .savepoint body raised rest, scopes => do
      let scopes' ← body.perform scopes
      rest.perform (effectSavepoint raised scopes scopes')

/-- The effects that no savepoint discards, in the order of their registration. -/
def kept : ScopeWork κ → List (DeferredEffect κ)
  | .done => []
  | .register e rest => e :: rest.kept
  | .savepoint body raised rest => (if raised then [] else body.kept) ++ rest.kept

/-- The work puts on the queue what no savepoint discards, and leaves the scopes below alone. -/
theorem perform_scope
    (work : ScopeWork κ)
    (scope : EffectScope κ)
    (below : List (EffectScope κ)) :
    work.perform (scope :: below) =
      .ok ({ scope with queue := scope.queue ++ work.kept } :: below) := by
  induction work generalizing scope with
  | done => simp [perform, kept]
  | register e rest ih =>
      calc (register e rest).perform (scope :: below)
        _ = rest.perform ({ scope with queue := scope.queue ++ [e] } :: below) := rfl
        _ = .ok ({ scope with queue := scope.queue ++ [e] ++ rest.kept } :: below) := ih _
        _ = .ok ({ scope with queue := scope.queue ++ (register e rest).kept } :: below) := by
            simp [kept]
  | savepoint body raised rest ihBody ihRest =>
      have hblock : (savepoint body raised rest).perform (scope :: below) =
          rest.perform (effectSavepoint raised (scope :: below)
            ({ scope with queue := scope.queue ++ body.kept } :: below)) := by
        rw [perform, ihBody]
        rfl
      rw [hblock]
      cases raised with
      | false => simp [effectSavepoint, ihRest, kept]
      | true => simp [effectSavepoint, ihRest, kept]

/-- The queue of a unit of work is what no savepoint has discarded. -/
theorem perform_begin
    (work : ScopeWork κ)
    (preview : Bool)
    (scopes : List (EffectScope κ)) :
    work.perform (beginEffects preview scopes) =
      .ok ({ preview := preview, queue := work.kept } :: scopes) :=
  work.perform_scope { preview := preview } scopes

end ScopeWork

end Scopes

section Rounds

/-- A drain under way: the queue of the scope, the world, and the effects run so far. -/
structure Drain (κ : Type u) (σ : Type v) where
  queue : List (DeferredEffect κ)
  world : σ
  ran : List (DeferredEffect κ) := []

/-- How a drain ends: it returns, a fatal effect's error leaves it, or it raises itself. -/
inductive DrainEnd (ε : Type w)
  | returned
  | fatal (err : ε)
  | raised (err : EffectError)
  deriving DecidableEq, Repr

/-- `_MAX_DRAIN_ROUNDS`. -/
def maxDrainRounds : Nat := 10

/-- The drain after a call of the effect. -/
def Drain.after
    (drain : Drain κ σ)
    (e : DeferredEffect κ)
    (call : Call κ σ ε) : Drain κ σ where
  queue := drain.queue ++ call.registers
  world := call.world
  ran := drain.ran ++ [e]

variable (behaves : κ → σ → Call κ σ ε)

/-- One round of `drain_after_commit`, and the error of a fatal effect. -/
def runQueued : List (DeferredEffect κ) → Drain κ σ → Drain κ σ × Option ε
  | [], drain => (drain, none)
  | e :: rest, drain =>
      let call := behaves e.run drain.world
      match call.raised with
      | none => runQueued rest (drain.after e call)
      | some err =>
          if e.fatal then (drain.after e call, some err)
          -- logged: the committed request is unaffected
          else runQueued rest (drain.after e call)

/-- The rounds of `drain_after_commit`. -/
def drainRounds : Nat → Drain κ σ → Drain κ σ × DrainEnd ε
  | 0, drain => (drain, .raised (.stillQueueing (drain.queue.map (·.label))))
  | rounds + 1, drain =>
      match drain.queue with
      | [] => (drain, .returned)
      | e :: rest =>
          match runQueued behaves (e :: rest) { drain with queue := [] } with
          | (drain', some err) => (drain', .fatal err)
          | (drain', none) => drainRounds rounds drain'

/-- `drain_after_commit`. -/
def drainAfterCommit
    (scopes : List (EffectScope κ))
    (world : σ) : Drain κ σ × DrainEnd ε :=
  match scopes with
  | [] => ({ queue := [], world := world }, .returned)
  | scope :: _ => drainRounds behaves maxDrainRounds { queue := scope.queue, world := world }

end Rounds

section Law

variable (behaves : κ → σ → Call κ σ ε)

/-- An effect as a task of a worklist: what halts the work is the error of a fatal one. -/
def turn
    (e : DeferredEffect κ)
    (world : σ) : Turn (DeferredEffect κ) σ ε where
  queued := (behaves e.run world).registers
  world := (behaves e.run world).world
  halt := if e.fatal then (behaves e.run world).raised else none

/-- What a drain of the queue promises. -/
structure DrainContract
    (queue : List (DeferredEffect κ))
    (world : σ)
    (result : Drain κ σ × DrainEnd ε) : Prop where
  /-- Where no fatal effect raises and the rounds leave the queue empty, the drain returns,
  and the effects it has run are those of the queue and those registered meanwhile, each
  once, first in, first out. -/
  drains : QuietFor (turn behaves) maxDrainRounds queue world →
    (∃ k ≤ maxDrainRounds, (generationAt (turn behaves) k queue world).1 = []) →
    result.2 = .returned ∧
      ∃ log, Serves (turn behaves) queue world result.1.ran log [] result.1.world ∧
        result.1.ran = queue ++ log
  /-- Unless a fatal effect has raised, the drain raises an error of its own exactly where
  effects still wait. -/
  surrenders : (∃ pending, result.2 = .raised (.stillQueueing pending)) ↔
    (∀ err, result.2 ≠ .fatal err) ∧ result.1.queue ≠ []
  /-- A fatal error is that of the last effect run, in one of the rounds. -/
  aborts : ∀ err, result.2 = .fatal err → ∃ k < maxDrainRounds, ∃ front e rest,
    (generationAt (turn behaves) k queue world).1 = front ++ e :: rest ∧ e.fatal = true ∧
      result.1.ran = generations (turn behaves) k queue world ++ (front ++ [e])
  /-- However the drain ends, it has run the effects breadth first and at most so many
  generations of them. -/
  inOrder : result.1.ran <+: generations (turn behaves) maxDrainRounds queue world

/-- The last round runs effects and leaves the queue empty. -/
def LastRoundEmpties
    (queue : List (DeferredEffect κ))
    (world : σ) : Prop :=
  QuietFor (turn behaves) maxDrainRounds queue world ∧
    (generationAt (turn behaves) (maxDrainRounds - 1) queue world).1 ≠ [] ∧
    (generationAt (turn behaves) maxDrainRounds queue world).1 = []

end Law

section Courses

variable {behaves : κ → σ → Call κ σ ε}

theorem runQueued_of_go
    {e : DeferredEffect κ} {drain : Drain κ σ}
    (rest : List (DeferredEffect κ))
    (hgo : (turn behaves e drain.world).halt = none) :
    runQueued behaves (e :: rest) drain =
      runQueued behaves rest (drain.after e (behaves e.run drain.world)) := by
  simp only [turn] at hgo
  rw [runQueued]
  cases hraised : (behaves e.run drain.world).raised with
  | none => rfl
  | some err =>
      cases hfatal : e.fatal with
      | false => rfl
      | true =>
          rw [hfatal, hraised] at hgo
          cases hgo

theorem runQueued_of_halt
    {e : DeferredEffect κ} {drain : Drain κ σ} {err : ε}
    (rest : List (DeferredEffect κ))
    (hhalt : (turn behaves e drain.world).halt = some err) :
    e.fatal = true ∧
      runQueued behaves (e :: rest) drain =
        (drain.after e (behaves e.run drain.world), some err) := by
  simp only [turn] at hhalt
  cases hfatal : e.fatal with
  | false =>
      rw [hfatal] at hhalt
      cases hhalt
  | true =>
      rw [hfatal, if_pos rfl] at hhalt
      refine ⟨rfl, ?_⟩
      rw [runQueued]
      simp only [hhalt, hfatal, if_true]

theorem runQueued_of_quiet
    {queued : List (DeferredEffect κ)}
    (drain : Drain κ σ)
    (hquiet : Quiet (turn behaves) queued drain.world) :
    runQueued behaves queued drain =
      ({ queue := drain.queue ++ (generation (turn behaves) queued drain.world).1
         world := (generation (turn behaves) queued drain.world).2
         ran := drain.ran ++ queued }, none) := by
  induction queued generalizing drain with
  | nil => simp [runQueued, generation]
  | cons e rest ih =>
      obtain ⟨hgo, hrest⟩ := hquiet
      rw [runQueued_of_go rest hgo, ih _ hrest]
      simp [Drain.after, generation, turn]

theorem runQueued_of_not_quiet
    {queued : List (DeferredEffect κ)}
    (drain : Drain κ σ)
    (hloud : ¬ Quiet (turn behaves) queued drain.world) :
    ∃ front e rest err drain', queued = front ++ e :: rest ∧ e.fatal = true ∧
      runQueued behaves queued drain = (drain', some err) ∧
      drain'.ran = drain.ran ++ (front ++ [e]) := by
  induction queued generalizing drain with
  | nil => exact absurd trivial hloud
  | cons e rest ih =>
      cases hhalt : (turn behaves e drain.world).halt with
      | some err =>
          obtain ⟨hfatal, hrun⟩ := runQueued_of_halt rest hhalt
          exact ⟨[], e, rest, err, _, rfl, hfatal, hrun, rfl⟩
      | none =>
          have hrest : ¬ Quiet (turn behaves) rest (drain.after e (behaves e.run drain.world)).world :=
            fun hquiet => hloud ⟨hhalt, hquiet⟩
          obtain ⟨front, e', back, err, drain', hqueued, hfatal, hrun, hran⟩ := ih _ hrest
          refine ⟨e :: front, e', back, err, drain', by rw [hqueued]; rfl, hfatal, ?_, ?_⟩
          · rw [runQueued_of_go rest hhalt, hrun]
          · rw [hran]
            simp [Drain.after]

/-- How a drain of so many rounds ends, and what it has run by then. -/
inductive DrainCourse
    (behaves : κ → σ → Call κ σ ε)
    (rounds : Nat)
    (drain : Drain κ σ) :
    Drain κ σ × DrainEnd ε → Prop
  | returned
      {k : Nat} {drain' : Drain κ σ}
      (hlt : k < rounds)
      (hquiet : QuietFor (turn behaves) k drain.queue drain.world)
      (hempty : (generationAt (turn behaves) k drain.queue drain.world).1 = [])
      (hqueue : drain'.queue = [])
      (hworld : drain'.world = (generationAt (turn behaves) k drain.queue drain.world).2)
      (hran : drain'.ran = drain.ran ++ generations (turn behaves) k drain.queue drain.world) :
      DrainCourse behaves rounds drain (drain', .returned)
  | aborted
      {k : Nat} {front rest : List (DeferredEffect κ)} {e : DeferredEffect κ}
      {err : ε} {drain' : Drain κ σ}
      (hlt : k < rounds)
      (hloud : ¬ Quiet (turn behaves) (generationAt (turn behaves) k drain.queue drain.world).1
        (generationAt (turn behaves) k drain.queue drain.world).2)
      (hround : (generationAt (turn behaves) k drain.queue drain.world).1 = front ++ e :: rest)
      (hfatal : e.fatal = true)
      (hran : drain'.ran =
        drain.ran ++ (generations (turn behaves) k drain.queue drain.world ++ (front ++ [e]))) :
      DrainCourse behaves rounds drain (drain', .fatal err)
  | surrendered
      {drain' : Drain κ σ}
      (hquiet : QuietFor (turn behaves) rounds drain.queue drain.world)
      (hfull : ∀ k < rounds, (generationAt (turn behaves) k drain.queue drain.world).1 ≠ [])
      (hqueue : drain'.queue = (generationAt (turn behaves) rounds drain.queue drain.world).1)
      (hran : drain'.ran =
        drain.ran ++ generations (turn behaves) rounds drain.queue drain.world) :
      DrainCourse behaves rounds drain
        (drain', .raised (.stillQueueing (drain'.queue.map (·.label))))

/-- A round without a fatal error comes before the rest of the drain. -/
theorem DrainCourse.after_round
    {rounds : Nat} {drain middle : Drain κ σ} {result : Drain κ σ × DrainEnd ε}
    (hcourse : DrainCourse behaves rounds middle result)
    (hquiet : Quiet (turn behaves) drain.queue drain.world)
    (hnonempty : drain.queue ≠ [])
    (hmiddle : middle =
      { queue := (generation (turn behaves) drain.queue drain.world).1
        world := (generation (turn behaves) drain.queue drain.world).2
        ran := drain.ran ++ drain.queue }) :
    DrainCourse behaves (rounds + 1) drain result := by
  subst hmiddle
  cases hcourse with
  | @returned k drain' hlt hlater hempty hqueue hworld hran =>
      refine .returned (Nat.succ_lt_succ hlt) ⟨hquiet, hlater⟩ hempty hqueue hworld ?_
      rw [hran, generations, List.append_assoc]
  | @aborted k front rest e err drain' hlt hloud hround hfatal hran =>
      refine .aborted (Nat.succ_lt_succ hlt) hloud hround hfatal ?_
      rw [hran, generations, List.append_assoc, List.append_assoc]
  | @surrendered drain' hlater hfull hqueue hran =>
      refine .surrendered ⟨hquiet, hlater⟩ ?_ hqueue ?_
      · intro k hk
        cases k with
        | zero => exact hnonempty
        | succ k => exact hfull k (Nat.lt_of_succ_lt_succ hk)
      · rw [hran, generations, List.append_assoc]

/-- Every drain takes one of the courses. -/
theorem drainRounds_course
    (rounds : Nat)
    (drain : Drain κ σ) :
    DrainCourse behaves rounds drain (drainRounds behaves rounds drain) := by
  induction rounds generalizing drain with
  | zero =>
      refine .surrendered trivial (fun k hk => absurd hk (Nat.not_lt_zero k)) rfl ?_
      simp [generations]
  | succ rounds ih =>
      cases hqueue : drain.queue with
      | nil =>
          have hstop : drainRounds behaves (rounds + 1) drain = (drain, .returned) := by
            rw [drainRounds, hqueue]
          rw [hstop]
          exact .returned (k := 0) (Nat.succ_pos rounds) trivial hqueue hqueue rfl
            (List.append_nil _).symm
      | cons e rest =>
          by_cases hquiet : Quiet (turn behaves) drain.queue drain.world
          · have hround := runQueued_of_quiet { drain with queue := [] } hquiet
            have hstep : drainRounds behaves (rounds + 1) drain =
                drainRounds behaves rounds
                  { queue := (generation (turn behaves) drain.queue drain.world).1
                    world := (generation (turn behaves) drain.queue drain.world).2
                    ran := drain.ran ++ drain.queue } := by
              rw [drainRounds, hqueue]
              rw [hqueue] at hround
              simp only [hround, List.nil_append]
            rw [hstep]
            exact (ih _).after_round hquiet (by rw [hqueue]; exact List.cons_ne_nil e rest) rfl
          · obtain ⟨front, e', back, err, drain', hqueued, hfatal, hrun, hran⟩ :=
              runQueued_of_not_quiet { drain with queue := [] } hquiet
            have hstep : drainRounds behaves (rounds + 1) drain = (drain', .fatal err) := by
              rw [hqueue] at hrun
              rw [drainRounds, hqueue]
              simp only [hrun]
            rw [hstep]
            exact .aborted (k := 0) (Nat.succ_pos rounds) hquiet hqueued hfatal hran

end Courses

section Contract

variable {behaves : κ → σ → Call κ σ ε} {queue : List (DeferredEffect κ)} {world : σ}
variable {result : Drain κ σ × DrainEnd ε}

theorem DrainCourse.inOrder
    {rounds : Nat}
    (hcourse : DrainCourse behaves rounds { queue := queue, world := world } result) :
    result.1.ran <+: generations (turn behaves) rounds queue world := by
  cases hcourse with
  | returned hlt _ _ _ _ hran =>
      rw [hran]
      exact generations_mono (Nat.le_of_lt hlt)
  | @aborted k front rest e err drain' hlt _ hround _ hran =>
      rw [hran, List.nil_append]
      refine generations_append_mono hlt rest ?_
      rw [hround, List.append_assoc, List.singleton_append]
  | surrendered _ _ _ hran =>
      rw [hran]
      exact List.prefix_rfl

/-- A course that keeps the contract: all but the one whose last round empties the queue. -/
theorem DrainCourse.contract
    (hcourse : DrainCourse behaves maxDrainRounds { queue := queue, world := world } result)
    (hlast : ¬ LastRoundEmpties behaves queue world) :
    DrainContract behaves queue world result := by
  have horder := hcourse.inOrder
  cases hcourse with
  | @returned k drain' hlt hquiet hempty hqueue hworld hran =>
      refine ⟨fun _ _ => ⟨rfl, ?_⟩, ?_, ?_, horder⟩
      · obtain ⟨log, hserves⟩ := serves_generations hquiet
        rw [hempty] at hserves
        rw [hran, hworld]
        refine ⟨log, hserves, ?_⟩
        simpa using hserves.fifo
      · constructor
        · rintro ⟨pending, hpending⟩
          cases hpending
        · rintro ⟨-, hwaits⟩
          exact absurd hqueue hwaits
      · intro err herr
        cases herr
  | @aborted k front rest e err drain' hlt hloud hround hfatal hran =>
      refine ⟨fun hquiet _ => absurd (hquiet.quiet hlt) hloud, ?_, ?_, horder⟩
      · constructor
        · rintro ⟨pending, hpending⟩
          cases hpending
        · rintro ⟨hnot, -⟩
          exact absurd rfl (hnot err)
      · intro err' _
        exact ⟨k, hlt, front, e, rest, hround, hfatal, hran⟩
  | @surrendered drain' hquiet hfull hqueue hran =>
      have hwaits : (generationAt (turn behaves) maxDrainRounds queue world).1 ≠ [] :=
        fun hempty => hlast ⟨hquiet, hfull _ (by decide), hempty⟩
      refine ⟨?_, ?_, ?_, horder⟩
      · rintro - ⟨k, hle, hempty⟩
        exact absurd (generationAt_eq_nil_of_le hle hempty) hwaits
      · refine ⟨fun _ => ⟨?_, ?_⟩, fun _ => ⟨_, rfl⟩⟩
        · intro err herr
          cases herr
        · rw [hqueue]
          exact hwaits
      · intro err herr
        cases herr

theorem DrainCourse.not_contract
    (hcourse : DrainCourse behaves maxDrainRounds { queue := queue, world := world } result)
    (hlast : LastRoundEmpties behaves queue world) :
    ¬ DrainContract behaves queue world result := by
  obtain ⟨hquietFor, hninth, htenth⟩ := hlast
  intro hcontract
  obtain ⟨hreturned, -⟩ := hcontract.drains hquietFor ⟨maxDrainRounds, Nat.le_refl _, htenth⟩
  cases hcourse with
  | returned hlt _ hempty _ _ _ =>
      exact hninth (generationAt_eq_nil_of_le (Nat.le_sub_one_of_lt hlt) hempty)
  | aborted => cases hreturned
  | surrendered => cases hreturned

/-- A drain keeps its promise exactly where its last round does not empty the queue. -/
theorem drain_contract_iff
    (behaves : κ → σ → Call κ σ ε)
    (scope : EffectScope κ)
    (below : List (EffectScope κ))
    (world : σ) :
    DrainContract behaves scope.queue world
        (drainAfterCommit behaves (scope :: below) world) ↔
      ¬ LastRoundEmpties behaves scope.queue world := by
  have hcourse : DrainCourse behaves maxDrainRounds { queue := scope.queue, world := world }
      (drainAfterCommit behaves (scope :: below) world) :=
    drainRounds_course maxDrainRounds _
  exact ⟨fun hcontract hlast => hcourse.not_contract hlast hcontract, hcourse.contract⟩

end Contract

section Samples

/-- An effect that registers itself so many times more. -/
def countdown
    (n : Nat)
    (_ : Unit) : Call Nat Unit Unit where
  registers := if n = 0 then [] else [{ run := n - 1, label := "retry" }]
  world := ()
  raised := none

/-- Ten effects in a chain are all run, and then the drain raises with nothing pending. -/
theorem chain_of_ten_raises :
    ¬ DrainContract countdown [{ run := 9, label := "retry" }] ()
      (drainAfterCommit countdown
        [{ preview := false, queue := [{ run := 9, label := "retry" }] }] ()) := by
  intro hcontract
  have hraised : (drainAfterCommit countdown
      [{ preview := false, queue := [{ run := 9, label := "retry" }] }] ()).2 =
        .raised (.stillQueueing []) := by
    decide
  have hqueue : (drainAfterCommit countdown
      [{ preview := false, queue := [{ run := 9, label := "retry" }] }] ()).1.queue = [] := by
    decide
  exact (hcontract.surrenders.mp ⟨[], hraised⟩).2 hqueue

/-- A chain of nine returns. -/
example :
    (drainAfterCommit countdown
      [{ preview := false, queue := [{ run := 8, label := "retry" }] }] ()).2 = .returned := by
  decide

end Samples

section Silent

/-- The effect of a unit of work, with its flag for what it runs. -/
def ofFlag
    (e : Database.DeferredEffect) : DeferredEffect Bool where
  run := e.raises
  label := e.label
  fatal := e.fatal

end Silent

end Draining
end Database
end SalesAgent
