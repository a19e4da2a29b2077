import Mathlib.Algebra.Order.Floor.Ring
import Mathlib.Data.Rat.Floor
import Mathlib.Tactic.Positivity

/-!
# The retry schedule

One value drives the attempts of an outbound request: it counts them, keeps what the last one
answered, and says how long to wait and what failure to raise.  The waits double; a counterparty
may lengthen one by its `Retry-After`, up to a ceiling.  The header is read as a number of
Python, so it may be infinite, or no number at all.

**Results.**
* `waitSeconds_bounds`: how long a wait is, whatever the header said.
* `lastTried_spec`: which attempt is the last one.
-/

namespace SalesAgent
namespace Egress

section Floats

/-- A float. -/
inductive PyFloat
  | finite (q : ℚ)
  | inf
  | negInf
  | nan
  deriving DecidableEq

/-- `a < b`, which no comparison with `nan` is. -/
def PyFloat.lt : PyFloat → PyFloat → Bool
  | .nan, _ | _, .nan => false
  | .finite a, .finite b => a < b
  | .inf, _ | _, .negInf => false
  | _, _ => true

/-- `min(a, b)` -/
def pyMin
    (a b : PyFloat) : PyFloat :=
  if b.lt a then b else a

/-- `max(a, b)` -/
def pyMax
    (a b : PyFloat) : PyFloat :=
  if a.lt b then b else a

def retryAfterMax : Int := 3600

/-- `clamp_retry_after`; `math.ceil` raises for what is not finite. -/
def clampRetryAfter : PyFloat → Option Int
  | .finite q => some (min (max 1 ⌈q⌉) retryAfterMax)
  | .inf | .negInf | .nan => none

def PyFloat.isFinite : PyFloat → Bool
  | .finite _ => true
  | .inf | .negInf | .nan => false

end Floats

section Waits

def maxHonouredRetryAfterSeconds : ℚ := 60

def retryableStatuses : List Nat :=
  [429, 500, 502, 503, 504]

/-- `_should_retry_status` -/
def shouldRetryStatus
    (status : Nat) : Bool :=
  status ∈ retryableStatuses

/-- `_backoff_seconds`, with its draw. -/
def backoffSeconds
    (base : ℚ)
    (attempt : Nat)
    (jitter : ℚ) : ℚ :=
  base * 2 ^ (attempt - 1) + jitter

/-- `retry_after or 0.0` -/
def orZero
    (retryAfter : Option PyFloat) : PyFloat :=
  retryAfter.getD (.finite 0)

/-- `_wait_seconds` -/
def waitSeconds
    (base : ℚ)
    (attempt : Nat)
    (jitter : ℚ)
    (retryAfter : Option PyFloat) : PyFloat :=
  pyMax (.finite (backoffSeconds base attempt jitter))
    (pyMin (orZero retryAfter) (.finite maxHonouredRetryAfterSeconds))

/-- The longer of two waits, of which one may not be a number. -/
theorem pyMax_finite
    {a c : ℚ} {f : PyFloat}
    (hc : ∀ q, pyMin f (.finite c) = .finite q → q ≤ c) :
    ∃ w, pyMax (.finite a) (pyMin f (.finite c)) = .finite w ∧ a ≤ w ∧ w ≤ max a c := by
  unfold pyMax
  cases hmin : pyMin f (.finite c) with
  | finite q =>
      by_cases hlt : a < q
      · refine ⟨q, if_pos (decide_eq_true hlt), hlt.le, le_trans (hc q hmin) (le_max_right a c)⟩
      · refine ⟨a, if_neg (fun h => hlt (of_decide_eq_true h)), le_rfl, le_max_left a c⟩
  | inf =>
      exfalso
      unfold pyMin at hmin
      cases f with
      | finite q =>
          split at hmin
          · cases hmin
          · cases hmin
      | inf => cases hmin
      | negInf => cases hmin
      | nan => cases hmin
  | negInf => exact ⟨a, rfl, le_rfl, le_max_left a c⟩
  | nan => exact ⟨a, rfl, le_rfl, le_max_left a c⟩

theorem pyMin_le
    {f : PyFloat} {c q : ℚ}
    (h : pyMin f (.finite c) = .finite q) :
    q ≤ c := by
  unfold pyMin at h
  cases f with
  | finite p =>
      split at h
      · cases h
        exact le_rfl
      · next hge =>
          cases h
          exact not_lt.mp (fun hlt => hge (decide_eq_true hlt))
  | inf =>
      cases h
      exact le_rfl
  | negInf => cases h
  | nan => cases h

/-- A wait is at least the geometric one, and at most that with its draw, or the ceiling. -/
theorem waitSeconds_bounds
    {base jitter : ℚ}
    (attempt : Nat)
    (retryAfter : Option PyFloat)
    (hjitter : 0 ≤ jitter ∧ jitter ≤ 1) :
    ∃ w, waitSeconds base attempt jitter retryAfter = .finite w ∧
      base * 2 ^ (attempt - 1) ≤ w ∧ w ≤ max (base * 2 ^ (attempt - 1) + 1) 60 := by
  obtain ⟨w, hw, hlow, hhigh⟩ := @pyMax_finite (backoffSeconds base attempt jitter)
    maxHonouredRetryAfterSeconds (orZero retryAfter) (fun _ h => pyMin_le h)
  refine ⟨w, hw, le_trans ?_ hlow, le_trans hhigh (max_le_max ?_ le_rfl)⟩
  · exact le_add_of_nonneg_right hjitter.1
  · exact add_le_add_right hjitter.2 _

end Waits

section Machine

/-- `OutboundDeliveryFailed` -/
structure OutboundDeliveryFailed where
  attempts : Nat
  httpStatus : Option Nat
  retryAfter : Option Int
  deriving DecidableEq

/-- `Attempts` -/
structure Attempts where
  maxAttempts : Nat
  attempt : Nat := 0
  lastStatus : Option Nat := none
  lastRetryAfter : Option PyFloat := none
  deriving DecidableEq

inductive Outcome
  | retry
  | success
  | terminal
  deriving DecidableEq

/-- One step of `next_attempt`. -/
def Attempts.nextAttempt
    (a : Attempts) : Attempts :=
  { a with attempt := a.attempt + 1 }

def Attempts.recordTransportFailure
    (a : Attempts) : Attempts :=
  { a with lastStatus := none, lastRetryAfter := none }

/-- The decision of `record_response`. -/
def outcomeOf
    (status : Nat) : Outcome :=
  if shouldRetryStatus status then .retry
  else if 200 ≤ status ∧ status < 300 then .success
  else .terminal

def Attempts.recordResponse
    (a : Attempts)
    (status : Nat)
    (retryAfter : Option PyFloat) : Attempts × Outcome :=
  ({ a with lastStatus := some status, lastRetryAfter := retryAfter }, outcomeOf status)

def Attempts.recordOversizedResponse
    (a : Attempts)
    (status : Nat) : Attempts :=
  { a with lastStatus := some status, lastRetryAfter := none }

/-- `wait_seconds` -/
def Attempts.waitSeconds
    (a : Attempts)
    (base jitter : ℚ) : PyFloat :=
  Egress.waitSeconds base a.attempt jitter a.lastRetryAfter

/-- `_fail`; none is the exception of `clamp_retry_after`. -/
def fail
    (attempts : Nat)
    (httpStatus : Option Nat)
    (retryAfter : Option PyFloat) : Option OutboundDeliveryFailed :=
  match retryAfter with
  | none => some ⟨attempts, httpStatus, none⟩
  | some f => (clampRetryAfter f).map fun n => ⟨attempts, httpStatus, some n⟩

/-- `failure` -/
def Attempts.failure
    (a : Attempts) : Option OutboundDeliveryFailed :=
  fail a.attempt a.lastStatus a.lastRetryAfter

end Machine

section Order

variable {retry : Nat → Bool} {finished left n : Nat}

/-- The last attempt, of so many left after those finished: the first that is not to be
retried. -/
def lastTried
    (retry : Nat → Bool)
    (finished : Nat) : Nat → Nat
  | 0 => finished
  | left + 1 =>
      if retry (finished + 1) then lastTried retry (finished + 1) left else finished + 1

/-- Where the attempts end. -/
structure LastTried
    (retry : Nat → Bool)
    (finished left last : Nat) : Prop where
  after : finished ≤ last
  within : last ≤ finished + left
  before : ∀ n, finished < n → n < last → retry n = true
  tried : 0 < left → finished < last
  exhausted : finished < last → retry last = true → last = finished + left

theorem lastTried_spec
    (retry : Nat → Bool)
    (finished left : Nat) :
    LastTried retry finished left (lastTried retry finished left) := by
  induction left generalizing finished with
  | zero =>
      exact ⟨le_rfl, le_rfl, fun n hlow hhigh => absurd (hlow.trans hhigh) (lt_irrefl _),
        fun h => absurd h (lt_irrefl _), fun h => absurd h (lt_irrefl _)⟩
  | succ left ih =>
      unfold lastTried
      cases hretry : retry (finished + 1) with
      | false =>
          rw [if_neg Bool.false_ne_true]
          refine ⟨Nat.le_succ _, ?_, fun n hlow hhigh => ?_, fun _ => Nat.lt_succ_self _,
            fun _ h => ?_⟩
          · exact Nat.add_le_add_left (Nat.succ_le_succ (Nat.zero_le left)) _
          · exact absurd (Nat.lt_of_lt_of_le hhigh hlow) (lt_irrefl _)
          · rw [hretry] at h
            cases h
      | true =>
          rw [if_pos rfl]
          have hrest := ih (finished + 1)
          have hend : finished + 1 + left = finished + (left + 1) := by omega
          refine ⟨(Nat.le_succ _).trans hrest.after, hend ▸ hrest.within, fun n hlow hhigh => ?_,
            fun _ => hrest.after, fun _ h => ?_⟩
          · rcases Nat.lt_or_eq_of_le (show finished + 1 ≤ n from hlow) with hlt | rfl
            · exact hrest.before n hlt hhigh
            · exact hretry
          · rcases Nat.lt_or_eq_of_le hrest.after with hlt | heq
            · exact (hrest.exhausted hlt h).trans hend
            · -- nothing was left to try
              rcases Nat.eq_zero_or_pos left with rfl | hpos
              · exact heq.symm
              · exact absurd (hrest.tried hpos) (heq ▸ lt_irrefl _)

theorem LastTried.unique
    {last last' : Nat}
    (h : LastTried retry finished left last)
    (h' : LastTried retry finished left last')
    (hleft : 0 < left) :
    last = last' := by
  have hno : ∀ {m m' : Nat}, LastTried retry finished left m → LastTried retry finished left m' →
      ¬ m < m' := by
    intro m m' hm hm' hlt
    have hretried := hm'.before m (hm.tried hleft) hlt
    have hend := hm.exhausted (hm.tried hleft) hretried
    exact absurd (Nat.lt_of_lt_of_le hlt hm'.within) (hend ▸ lt_irrefl _)
  exact Nat.le_antisymm (Nat.le_of_not_lt (hno h' h)) (Nat.le_of_not_lt (hno h h'))

end Order

end Egress
end SalesAgent
