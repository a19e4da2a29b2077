import Mathlib.Algebra.Order.Ring.Int
import SalesAgent.Lib.Runs

/-!
# The circuit breaker of an endpoint

Deliveries to an endpoint share a breaker.  A delivery asks it for an attempt and, where one
was admitted and its webhook was sent, reports what became of it.  Each call runs under the
lock of the breaker; anything can happen between the two calls of a delivery.

The breaker trusts the order of its calls: a success it hears of while it is HALF_OPEN
counts as a probe, and one it hears of while it is OPEN closes it.  Where attempts overlap,
either may be the late answer to an attempt that was admitted before the breaker tripped.

**Results.**
* `breaker_protocol`: the whole protocol, in every run without such late successes.
* `late_success_closes`: two runs with late successes.
-/

namespace SalesAgent
namespace Webhooks

open Runs (Run Restrict Throughout)

/-- `CircuitState` -/
inductive CircuitState
  | closed
  | opened
  | halfOpen
  deriving DecidableEq, Repr

/-- The configured policy of a breaker; the timeout is in microseconds. -/
structure BreakerPolicy where
  failureThreshold : Nat
  successThreshold : Nat
  timeout : Int
  failureThreshold_pos : 0 < failureThreshold := by decide
  successThreshold_pos : 0 < successThreshold := by decide
  timeout_pos : 0 < timeout := by decide

/-- `CircuitBreaker` -/
structure CircuitBreaker where
  state : CircuitState := .closed
  failureCount : Nat := 0
  successCount : Nat := 0
  lastFailureTime : Option Int := none
  deriving DecidableEq, Repr

section Calls

variable (policy : BreakerPolicy) (breaker : CircuitBreaker) (now : Int)

/-- The timeout since the last failure has elapsed. -/
def CircuitBreaker.elapsed : Bool :=
  breaker.lastFailureTime.any fun last => policy.timeout ≤ now - last

/-- `can_attempt` -/
def CircuitBreaker.canAttempt : CircuitBreaker × Bool :=
  match breaker.state with
  | .closed => (breaker, true)
  | .opened =>
      if breaker.elapsed policy now then
        ({ breaker with state := .halfOpen, successCount := 0 }, true)
      else
        (breaker, false)
  | .halfOpen => (breaker, true)

/-- `record_success` -/
def CircuitBreaker.recordSuccess : CircuitBreaker :=
  match breaker.state with
  | .closed => { breaker with failureCount := 0 }
  | .halfOpen =>
      if policy.successThreshold ≤ breaker.successCount + 1 then
        { breaker with failureCount := 0, successCount := breaker.successCount + 1, state := .closed }
      else
        { breaker with failureCount := 0, successCount := breaker.successCount + 1 }
  -- the source has this branch for a case that it expects not to happen
  | .opened => { breaker with failureCount := 0, state := .closed }

/-- `record_failure` -/
def CircuitBreaker.recordFailure : CircuitBreaker :=
  match breaker.state with
  | .closed =>
      if policy.failureThreshold ≤ breaker.failureCount + 1 then
        { breaker with
            failureCount := breaker.failureCount + 1, lastFailureTime := some now, state := .opened }
      else
        { breaker with failureCount := breaker.failureCount + 1, lastFailureTime := some now }
  | .halfOpen =>
      { breaker with failureCount := 0, lastFailureTime := some now, state := .opened }
  | .opened =>
      { breaker with failureCount := breaker.failureCount + 1, lastFailureTime := some now }

end Calls

section Deliveries

/-- What a delivery does next: ask for an attempt, or conclude the one it was admitted for. -/
inductive Turn
  | ask (delivery : Nat)
  | conclude (delivery : Nat) (delivered : Bool)
  deriving DecidableEq, Repr

/-- What a call did. -/
inductive Outcome
  | admitted
  | refused
  | succeeded
  | failed
  deriving DecidableEq, Repr

/-- A call of the breaker, with the states around it and the state in which the attempt of
its delivery was admitted. -/
structure Event where
  delivery : Nat
  time : Int
  outcome : Outcome
  before : CircuitState
  after : CircuitState
  admittedIn : CircuitState
  deriving DecidableEq, Repr

/-- The breaker, the attempts that have not concluded, and the time of the last call. -/
structure Endpoint where
  breaker : CircuitBreaker := {}
  inFlight : List (Nat × CircuitState) := []
  now : Int
  deriving DecidableEq, Repr

variable (policy : BreakerPolicy)

/-- `_deliver_to_config` from one call of the breaker to the next. -/
def Endpoint.serve
    (s : Endpoint)
    (time : Int) : Turn → Option (Endpoint × Event)
  | .ask delivery =>
      let asked := s.breaker.canAttempt policy time
      let inFlight :=
        if asked.2 then (delivery, asked.1.state) :: s.inFlight else s.inFlight
      some
        ({ breaker := asked.1, inFlight := inFlight, now := time },
          { delivery := delivery
            time := time
            outcome := if asked.2 then .admitted else .refused
            before := s.breaker.state
            after := asked.1.state
            admittedIn := asked.1.state })
  | .conclude delivery delivered =>
      (s.inFlight.find? fun attempt => attempt.1 = delivery).map fun attempt =>
        let breaker :=
          if delivered then s.breaker.recordSuccess policy else s.breaker.recordFailure policy time
        ({ breaker := breaker, inFlight := s.inFlight.erase attempt, now := time },
          { delivery := delivery
            time := time
            outcome := if delivered then .succeeded else .failed
            before := s.breaker.state
            after := breaker.state
            admittedIn := attempt.2 })

/-- A call of some delivery, under a clock that does not go back. -/
def Serves
    (s : Endpoint)
    (e : Event)
    (t : Endpoint) : Prop :=
  s.now ≤ e.time ∧ ∃ turn, s.serve policy e.time turn = some (t, e)

end Deliveries

section Protocol

variable (policy : BreakerPolicy) (es : List Event) (e : Event)

/-- The time of the last failure that was recorded. -/
def lastFailure : Option Int :=
  ((es.filter fun e => e.outcome = .failed).getLast?).map Event.time

/-- A success of an attempt that was admitted in HALF_OPEN. -/
def Event.isProbe : Bool :=
  e.outcome = .succeeded && e.admittedIn = .halfOpen

/-- The successful probes since the last failure. -/
def probesSinceFailure : Nat :=
  (es.reverse.takeWhile fun e => e.outcome ≠ .failed).countP Event.isProbe

/-- An attempt that an OPEN breaker admits comes after the timeout. -/
def Waits : Prop :=
  e.outcome = .admitted → e.before = .opened →
    ∃ last, lastFailure es = some last ∧ policy.timeout ≤ e.time - last

/-- What the protocol allows after a history. -/
structure Allowed : Prop where
  waits : Waits policy es e
  leaves : e.before = .opened → e.after = .opened ∨ e.after = .halfOpen
  closes : e.before ≠ .closed → e.after = .closed →
    policy.successThreshold ≤ probesSinceFailure (es ++ [e])

/-- The call is no late success: none that an OPEN breaker hears of, and none that a
HALF_OPEN breaker hears of from an attempt that was admitted before it. -/
def Timely : Prop :=
  e.outcome = .succeeded →
    e.before ≠ .opened ∧ (e.before = .halfOpen → e.admittedIn = .halfOpen)

end Protocol

section Histories

variable {es : List Event} {e : Event}

theorem lastFailure_of_failed
    (h : e.outcome = .failed) :
    lastFailure (es ++ [e]) = some e.time := by
  simp [lastFailure, List.filter_append, h]

theorem lastFailure_of_not_failed
    (h : e.outcome ≠ .failed) :
    lastFailure (es ++ [e]) = lastFailure es := by
  simp [lastFailure, List.filter_append, h]

theorem probesSinceFailure_of_not_failed
    (h : e.outcome ≠ .failed) :
    probesSinceFailure (es ++ [e]) =
      probesSinceFailure es + if e.isProbe = true then 1 else 0 := by
  simp [probesSinceFailure, h, List.countP_cons]

end Histories

section Steps

variable {policy : BreakerPolicy} {s t : Endpoint} {es : List Event} {e : Event}

/-- What a call is. -/
inductive CallOf (policy : BreakerPolicy) (s : Endpoint) (e : Event) (b : CircuitBreaker) : Prop
  | asked
      (admitted : Bool)
      (houtcome : e.outcome = if admitted then .admitted else .refused)
      (hcall : s.breaker.canAttempt policy e.time = (b, admitted))
  | succeeded
      (houtcome : e.outcome = .succeeded)
      (hcall : b = s.breaker.recordSuccess policy)
  | failed
      (houtcome : e.outcome = .failed)
      (hcall : b = s.breaker.recordFailure policy e.time)

/-- A step is one call of the breaker, between the states that its event names. -/
theorem Serves.call
    (h : Serves policy s e t) :
    e.before = s.breaker.state ∧ e.after = t.breaker.state ∧ CallOf policy s e t.breaker := by
  obtain ⟨_, turn, hserve⟩ := h
  cases turn with
  | ask delivery =>
      obtain ⟨ht, he⟩ := Prod.mk.inj (Option.some.inj hserve)
      subst ht
      refine ⟨by rw [← he], by rw [← he], ?_⟩
      cases hasked : s.breaker.canAttempt policy e.time with
      | mk b admitted =>
          rw [hasked] at he
          exact .asked admitted (by rw [← he]) hasked
  | conclude delivery delivered =>
      obtain ⟨attempt, _, hconcluded⟩ := Option.map_eq_some_iff.mp hserve
      obtain ⟨ht, he⟩ := Prod.mk.inj hconcluded
      subst ht
      refine ⟨by rw [← he], by rw [← he], ?_⟩
      cases delivered with
      | true => exact .succeeded (by rw [← he]; rfl) rfl
      | false => exact .failed (by rw [← he]; rfl) rfl

/-- The breaker remembers the time of the last failure. -/
def Remembers
    (es : List Event)
    (s : Endpoint) : Prop :=
  s.breaker.lastFailureTime = lastFailure es

theorem canAttempt_cases
    {b : CircuitBreaker}
    {admitted : Bool}
    {breaker : CircuitBreaker}
    {now : Int}
    (h : breaker.canAttempt policy now = (b, admitted)) :
    b = breaker ∧ (breaker.state = .opened → admitted = false) ∨
      breaker.state = .opened ∧ breaker.elapsed policy now = true ∧
        b = { breaker with state := .halfOpen, successCount := 0 } := by
  rw [CircuitBreaker.canAttempt] at h
  cases hstate : breaker.state with
  | closed =>
      rw [hstate] at h
      cases h
      exact Or.inl ⟨rfl, fun hno => by cases hno⟩
  | halfOpen =>
      rw [hstate] at h
      cases h
      exact Or.inl ⟨rfl, fun hno => by cases hno⟩
  | opened =>
      simp only [hstate] at h
      cases helapsed : breaker.elapsed policy now with
      | true =>
          simp only [helapsed] at h
          cases h
          exact Or.inr ⟨rfl, rfl, rfl⟩
      | false =>
          simp only [helapsed] at h
          cases h
          exact Or.inl ⟨rfl, fun _ => rfl⟩

theorem lastFailureTime_recordSuccess
    (breaker : CircuitBreaker) :
    (breaker.recordSuccess policy).lastFailureTime = breaker.lastFailureTime := by
  rw [CircuitBreaker.recordSuccess]
  split
  · rfl
  · split_ifs <;> rfl
  · rfl

theorem lastFailureTime_recordFailure
    (breaker : CircuitBreaker)
    (now : Int) :
    (breaker.recordFailure policy now).lastFailureTime = some now := by
  rw [CircuitBreaker.recordFailure]
  split
  · split_ifs <;> rfl
  · rfl
  · rfl

theorem state_recordFailure
    (breaker : CircuitBreaker)
    (now : Int) :
    (breaker.recordFailure policy now).state = .opened ∨
      breaker.state = .closed ∧ (breaker.recordFailure policy now).state = .closed := by
  rw [CircuitBreaker.recordFailure]
  cases hstate : breaker.state with
  | closed =>
      dsimp only
      split_ifs
      · exact Or.inl rfl
      · exact Or.inr ⟨rfl, rfl⟩
  | halfOpen => exact Or.inl rfl
  | opened => exact Or.inl rfl

/-- A step keeps what the breaker remembers of its failures. -/
theorem Serves.remembers
    (h : Serves policy s e t)
    (hs : Remembers es s) :
    Remembers (es ++ [e]) t := by
  obtain ⟨_, _, hcall⟩ := h.call
  rw [Remembers] at hs ⊢
  cases hcall with
  | asked admitted houtcome hcall =>
      have hkept : e.outcome ≠ .failed := by
        cases admitted <;> rw [houtcome] <;> decide
      rw [lastFailure_of_not_failed hkept, ← hs]
      rcases canAttempt_cases hcall with ⟨hsame, _⟩ | ⟨_, _, hprobe⟩
      · rw [hsame]
      · rw [hprobe]
  | succeeded houtcome hcall =>
      rw [lastFailure_of_not_failed (by rw [houtcome]; decide), ← hs, hcall,
        lastFailureTime_recordSuccess]
  | failed houtcome hcall =>
      rw [lastFailure_of_failed houtcome, hcall, lastFailureTime_recordFailure]

/-- An OPEN breaker admits no attempt before its timeout. -/
theorem Serves.waits
    (h : Serves policy s e t)
    (hs : Remembers es s) :
    Waits policy es e := by
  intro hadmitted hbefore
  obtain ⟨hstate, _, hcall⟩ := h.call
  rw [hstate] at hbefore
  cases hcall with
  | asked admitted houtcome hcall =>
      cases admitted with
      | false =>
          rw [houtcome] at hadmitted
          cases hadmitted
      | true =>
          rcases canAttempt_cases hcall with ⟨_, hno⟩ | ⟨_, helapsed, _⟩
          · cases hno hbefore
          · rw [CircuitBreaker.elapsed, hs, Option.any_eq_true] at helapsed
            obtain ⟨last, hlast, htimeout⟩ := helapsed
            exact ⟨last, hlast, of_decide_eq_true htimeout⟩
  | succeeded houtcome _ =>
      rw [houtcome] at hadmitted
      cases hadmitted
  | failed houtcome _ =>
      rw [houtcome] at hadmitted
      cases hadmitted

/-- A HALF_OPEN breaker has counted probes that succeeded since the last failure. -/
structure Counts
    (es : List Event)
    (s : Endpoint) : Prop where
  remembers : Remembers es s
  probes : s.breaker.state = .halfOpen → s.breaker.successCount ≤ probesSinceFailure es

/-- A timely step is allowed, and keeps the count of a HALF_OPEN breaker. -/
theorem Serves.allowed
    (h : Serves policy s e t)
    (htimely : Timely e)
    (hs : Counts es s) :
    Allowed policy es e ∧ Counts (es ++ [e]) t := by
  have hwaits := h.waits hs.remembers
  have hremembers := h.remembers hs.remembers
  obtain ⟨hbefore, hafter, hcall⟩ := h.call
  cases hcall with
  | asked admitted houtcome hcall =>
      have hkept : e.outcome ≠ .failed := by
        cases admitted <;> rw [houtcome] <;> decide
      rcases canAttempt_cases hcall with ⟨hsame, _⟩ | ⟨_, _, hprobe⟩
      · have hstate : e.after = e.before := by
          rw [hafter, hbefore, hsame]
        refine ⟨⟨hwaits, fun hopened => Or.inl (hstate.trans hopened), fun hne hclosed =>
          absurd (hstate.symm.trans hclosed) hne⟩, hremembers, fun hhalf => ?_⟩
        rw [probesSinceFailure_of_not_failed hkept, hsame]
        rw [hsame] at hhalf
        exact Nat.le_add_right_of_le (hs.probes hhalf)
      · have hstate : e.after = .halfOpen := by
          rw [hafter, hprobe]
        refine ⟨⟨hwaits, fun _ => Or.inr hstate, fun _ hclosed => ?_⟩, hremembers, fun _ => ?_⟩
        · rw [hstate] at hclosed
          cases hclosed
        · rw [hprobe]
          exact Nat.zero_le _
  | succeeded houtcome hcall =>
      obtain ⟨hnotOpened, hprobe⟩ := htimely houtcome
      rw [hbefore] at hnotOpened hprobe
      cases hstate : s.breaker.state with
      | opened => exact absurd hstate hnotOpened
      | closed =>
          have hsame : e.after = .closed := by
            rw [hafter, hcall, CircuitBreaker.recordSuccess, hstate]
          refine ⟨⟨hwaits, fun hopened => ?_, fun hne _ => absurd (hbefore.trans hstate) hne⟩,
            hremembers, fun hhalf => ?_⟩
          · rw [hbefore, hstate] at hopened
            cases hopened
          · rw [← hafter, hsame] at hhalf
            cases hhalf
      | halfOpen =>
          have hcounted : probesSinceFailure (es ++ [e]) = probesSinceFailure es + 1 := by
            rw [probesSinceFailure_of_not_failed (by rw [houtcome]; decide),
              if_pos (by simp [Event.isProbe, houtcome, hprobe hstate])]
          have hprobes := hs.probes hstate
          have hcount : t.breaker.successCount = s.breaker.successCount + 1 := by
            rw [hcall, CircuitBreaker.recordSuccess, hstate]
            dsimp only
            split_ifs <;> rfl
          refine ⟨⟨hwaits, fun hopened => ?_, fun _ hclosed => ?_⟩, hremembers, fun _ => ?_⟩
          · rw [hbefore, hstate] at hopened
            cases hopened
          · have hreached : policy.successThreshold ≤ s.breaker.successCount + 1 := by
              by_contra hless
              rw [hafter, hcall, CircuitBreaker.recordSuccess, hstate] at hclosed
              simp only [hless, if_false] at hclosed
              cases hclosed
            omega
          · omega
  | failed houtcome hcall =>
      have hstates := @state_recordFailure policy s.breaker e.time
      rw [← hcall, ← hafter, ← hbefore] at hstates
      refine ⟨⟨hwaits, fun hopened => ?_, fun hne hclosed => ?_⟩, hremembers, fun hhalf => ?_⟩
      · rcases hstates with hafterOpened | ⟨hclosed, _⟩
        · exact Or.inl hafterOpened
        · rw [hopened] at hclosed
          cases hclosed
      · rcases hstates with hafterOpened | ⟨hbeforeClosed, _⟩
        · rw [hclosed] at hafterOpened
          cases hafterOpened
        · exact absurd hbeforeClosed hne
      · rw [← hafter] at hhalf
        rcases hstates with hafterOpened | ⟨_, hafterClosed⟩
        · rw [hhalf] at hafterOpened
          cases hafterOpened
        · rw [hhalf] at hafterClosed
          cases hafterClosed

/-- The protocol of the breaker, in every run without late successes. -/
theorem breaker_protocol
    (now : Int)
    (hrun : Run (Restrict (Serves policy) (fun _ e => Timely e)) { now := now } es t) :
    Throughout (Allowed policy) es := by
  have hstart : Counts [] { now := now } :=
    ⟨rfl, fun hhalf => by cases hhalf⟩
  have hstep : ∀ es s e t, Counts es s → Restrict (Serves policy) (fun _ e => Timely e) s e t →
      Allowed policy es e ∧ Counts (es ++ [e]) t :=
    fun es s e t hs h => h.1.allowed h.2 hs
  exact hrun.throughout hstep hstart

end Steps

section Samples

/-- A breaker that trips at the first failure. -/
def samplePolicy : BreakerPolicy where
  failureThreshold := 1
  successThreshold := 2
  timeout := 60

/-- An outage and two probes after it. -/
def recovery : List Event :=
  [⟨1, 0, .admitted, .closed, .closed, .closed⟩, ⟨1, 0, .failed, .closed, .opened, .closed⟩,
    ⟨2, 59, .refused, .opened, .opened, .opened⟩, ⟨2, 60, .admitted, .opened, .halfOpen, .halfOpen⟩,
    ⟨3, 61, .admitted, .halfOpen, .halfOpen, .halfOpen⟩,
    ⟨3, 62, .succeeded, .halfOpen, .halfOpen, .halfOpen⟩,
    ⟨2, 63, .succeeded, .halfOpen, .closed, .halfOpen⟩]

/-- The protocol on the recovery from an outage. -/
theorem breaker_protocol_of_recovery :
    Throughout (Allowed samplePolicy) recovery :=
  breaker_protocol 0
    (.cons ⟨⟨by decide, .ask 1, rfl⟩, fun h => by cases h⟩ <|
      .cons ⟨⟨by decide, .conclude 1 false, rfl⟩, fun h => by cases h⟩ <|
      .cons ⟨⟨by decide, .ask 2, rfl⟩, fun h => by cases h⟩ <|
      .cons ⟨⟨by decide, .ask 2, rfl⟩, fun h => by cases h⟩ <|
      .cons ⟨⟨by decide, .ask 3, rfl⟩, fun h => by cases h⟩ <|
      .cons ⟨⟨by decide, .conclude 3 true, rfl⟩, fun _ => ⟨by decide, fun _ => rfl⟩⟩ <|
      .cons ⟨⟨by decide, .conclude 2 true, rfl⟩, fun _ => ⟨by decide, fun _ => rfl⟩⟩ <|
      .nil _)

/-- Two attempts overlap; one fails and trips the breaker, then the other succeeds. -/
def lateSuccess : List Event :=
  [⟨1, 0, .admitted, .closed, .closed, .closed⟩, ⟨2, 0, .admitted, .closed, .closed, .closed⟩,
    ⟨1, 1, .failed, .closed, .opened, .closed⟩, ⟨2, 2, .succeeded, .opened, .closed, .closed⟩]

/-- Three attempts overlap; one fails and trips the breaker, and the others succeed after
a fourth was admitted as a probe. -/
def staleSuccesses : List Event :=
  [⟨1, 0, .admitted, .closed, .closed, .closed⟩, ⟨2, 0, .admitted, .closed, .closed, .closed⟩,
    ⟨3, 0, .admitted, .closed, .closed, .closed⟩, ⟨1, 1, .failed, .closed, .opened, .closed⟩,
    ⟨4, 61, .admitted, .opened, .halfOpen, .halfOpen⟩,
    ⟨2, 62, .succeeded, .halfOpen, .halfOpen, .closed⟩,
    ⟨3, 63, .succeeded, .halfOpen, .closed, .closed⟩]

/-- Late successes close an OPEN breaker, and a HALF_OPEN one without a probe. -/
theorem late_success_closes :
    ((∃ t, Run (Serves samplePolicy) { now := 0 } lateSuccess t) ∧
      ¬ Throughout (Allowed samplePolicy) lateSuccess) ∧
    (∃ t, Run (Serves samplePolicy) { now := 0 } staleSuccesses t) ∧
      ¬ Throughout (Allowed samplePolicy) staleSuccesses := by
  refine ⟨⟨?_, fun h => ?_⟩, ?_, fun h => ?_⟩
  · exact ⟨_, .cons ⟨by decide, .ask 1, rfl⟩ <| .cons ⟨by decide, .ask 2, rfl⟩ <|
      .cons ⟨by decide, .conclude 1 false, rfl⟩ <| .cons ⟨by decide, .conclude 2 true, rfl⟩ <|
      .nil _⟩
  · have hallowed := h (lateSuccess.take 3) ⟨2, 2, .succeeded, .opened, .closed, .closed⟩ [] rfl
    exact absurd (hallowed.leaves rfl) (by decide)
  · exact ⟨_, .cons ⟨by decide, .ask 1, rfl⟩ <| .cons ⟨by decide, .ask 2, rfl⟩ <|
      .cons ⟨by decide, .ask 3, rfl⟩ <| .cons ⟨by decide, .conclude 1 false, rfl⟩ <|
      .cons ⟨by decide, .ask 4, rfl⟩ <| .cons ⟨by decide, .conclude 2 true, rfl⟩ <|
      .cons ⟨by decide, .conclude 3 true, rfl⟩ <| .nil _⟩
  · have hallowed := h (staleSuccesses.take 6) ⟨3, 63, .succeeded, .halfOpen, .closed, .closed⟩ []
      rfl
    exact absurd (hallowed.closes (by decide) rfl) (by decide)

end Samples

end Webhooks
end SalesAgent
