import SalesAgent.Egress.Attempts

/-!
# Sending a request

`send` and `asend` are two loops over one schedule: each builds and signs a request anew, sends
it, reads the body up to a cap, and either concludes or waits.  A connection that fails is
retried, as are some statuses; another status, and a body over the cap, end the delivery.

The number that Python reads from a `Retry-After` is a parameter, as are the waits' draws, the
signer and what the network answers.

**Results.**
* `sendLoop_eq`: what a run of the loop does, attempt by attempt.
* `asend_eq_send`: the drivers agree.
* `retries_as_promised_iff`: when a run ends as promised.
* `unreadable_retryAfter_raises`: a header that is no number raises something else.
-/

namespace SalesAgent
namespace Egress

section Requests

/-- A request, as the client builds it. -/
structure Request where
  method : String
  url : String
  headers : List (String × String)
  content : List UInt8
  deriving DecidableEq

def signerReservedHeaders : List String :=
  ["content-length", "transfer-encoding", "host"]

/-- `request.headers[name] = value` -/
def Request.setHeader
    (request : Request)
    (name value : String) : Request :=
  { request with
    headers := request.headers.filter (fun h => h.1.toLower ≠ name.toLower) ++ [(name, value)] }

/-- A signer, of the request of an attempt. -/
abbrev SignAttempt := Nat → Request → List (String × String)

/-- `_build_request` on the request that the client has built. -/
def buildRequest
    (request : Request)
    (sign : Option SignAttempt)
    (attempt : Nat) : Request :=
  match sign with
  | none => request
  | some sign =>
      (sign attempt request).foldl
        (fun r h => if h.1.toLower ∈ signerReservedHeaders then r else r.setHeader h.1 h.2) request

/-- A response, with the chunks of its body. -/
structure Response where
  status : Nat
  /-- the `Retry-After` header -/
  retryAfter : Option String
  chunks : List (List UInt8)

/-- What becomes of an attempt: one of the transport's exceptions, before a response or while
its body is read, or a whole response. -/
inductive Dial
  | failed
  | answered (response : Response) (broken : Bool)

def maxResponseBytes : Nat := 10 * 1024 * 1024

/-- `_accumulate` over the chunks; none is a body over the cap. -/
def accumulate
    (cap : Nat)
    (body : List UInt8) : List (List UInt8) → Option (List UInt8)
  | [] => some body
  | chunk :: chunks =>
      if cap < (body ++ chunk).length then none else accumulate cap (body ++ chunk) chunks

/-- `OutboundResult`, without its headers and its duration. -/
structure OutboundResult where
  httpStatus : Nat
  content : List UInt8
  attempts : Nat
  deriving DecidableEq

/-- How `send` ends.  The exceptions of `math.ceil` are neither a result nor a failure. -/
inductive Exit
  | delivered (result : OutboundResult)
  | deliveryFailed (failure : OutboundDeliveryFailed)
  | raised
  deriving DecidableEq

inductive WireEvent
  | signed (attempt : Nat)
  | dialed (attempt : Nat) (request : Request)
  | waited (seconds : PyFloat)

/-- A call of `send`, whose destination was accepted, with all that it meets. -/
structure Call where
  request : Request
  sign : Option SignAttempt
  maxAttempts : Nat
  base : ℚ
  jitter : Nat → ℚ
  dial : Nat → Dial
  /-- `float` of a stripped text -/
  pyFloat : String → Option PyFloat

variable (call : Call)

/-- `_retry_after_seconds` -/
def Call.retryAfterSeconds
    (response : Response) : Option PyFloat :=
  response.retryAfter.bind call.pyFloat

/-- `raise attempts.failure()` -/
def raiseFailure
    (a : Attempts) : Exit :=
  match a.failure with
  | some failure => .deliveryFailed failure
  | none => .raised

/-- `_conclude_attempt`; none says to try again. -/
def Call.concludeAttempt
    (a : Attempts)
    (response : Response)
    (body : List UInt8)
    (attempt : Nat) : Attempts × Option Exit :=
  match a.recordResponse response.status (call.retryAfterSeconds response) with
  | (a, .success) => (a, some (.delivered ⟨response.status, body, attempt⟩))
  | (a, .terminal) => (a, some (raiseFailure a))
  | (a, .retry) => (a, none)

/-- The request of an attempt, built and signed, and sent. -/
def Call.attemptEvents
    (attempt : Nat) : List WireEvent :=
  (if call.sign.isSome then [.signed attempt] else []) ++
    [.dialed attempt (buildRequest call.request call.sign attempt)]

/-- The `try` statement of an attempt: its bookkeeping, and the exit it takes. -/
def Call.tryAttempt
    (a : Attempts) : Attempts × Option Exit :=
  match call.dial a.attempt with
  | .failed => (a.recordTransportFailure, none)
  | .answered response broken =>
      match accumulate maxResponseBytes [] response.chunks with
      | none =>
          (a.recordOversizedResponse response.status,
            some (raiseFailure (a.recordOversizedResponse response.status)))
      | some body =>
          if broken then (a.recordTransportFailure, none)
          else call.concludeAttempt a response body a.attempt

/-- The wait behind an attempt that is to be tried again. -/
def Call.sleepEvents
    (a : Attempts) : List WireEvent :=
  if a.attempt < call.maxAttempts then
    [.waited (a.waitSeconds call.base (call.jitter a.attempt))]
  else
    []

/-- The loop of `send`, for so many attempts left. -/
def Call.sendLoop : Nat → Attempts → List WireEvent × Exit
  | 0, a => ([], raiseFailure a)
  | left + 1, a =>
      let events := call.attemptEvents a.nextAttempt.attempt
      match call.tryAttempt a.nextAttempt with
      | (_, some exit) => (events, exit)
      | (a, none) =>
          let rest := sendLoop left a
          (events ++ call.sleepEvents a ++ rest.1, rest.2)

/-- The loop of `asend`. -/
def Call.asendLoop : Nat → Attempts → List WireEvent × Exit
  | 0, a => ([], raiseFailure a)
  | left + 1, a =>
      let events := call.attemptEvents a.nextAttempt.attempt
      match call.tryAttempt a.nextAttempt with
      | (_, some exit) => (events, exit)
      | (a, none) =>
          let rest := asendLoop left a
          (events ++ call.sleepEvents a ++ rest.1, rest.2)

/-- `send` -/
def Call.send : List WireEvent × Exit :=
  call.sendLoop call.maxAttempts { maxAttempts := call.maxAttempts }

/-- `asend` -/
def Call.asend : List WireEvent × Exit :=
  call.asendLoop call.maxAttempts { maxAttempts := call.maxAttempts }

end Requests

section Runs

variable (call : Call)

/-- What an attempt comes to. -/
inductive Verdict
  | transportFailure
  | overCap (status : Nat)
  | answered (response : Response) (body : List UInt8)

def Dial.verdict : Dial → Verdict
  | .failed => .transportFailure
  | .answered response broken =>
      match accumulate maxResponseBytes [] response.chunks with
      | none => .overCap response.status
      | some body => if broken then .transportFailure else .answered response body

/-- The attempt is to be tried again. -/
def Verdict.retried : Verdict → Bool
  | .transportFailure => true
  | .overCap _ => false
  | .answered response _ => outcomeOf response.status = .retry

/-- The status that a failure behind an attempt reports. -/
def Verdict.status : Verdict → Option Nat
  | .transportFailure => none
  | .overCap status => some status
  | .answered response _ => some response.status

/-- What an attempt asks to wait: a body over the cap, and a failed connection, ask nothing. -/
def Call.askedToWait : Verdict → Option PyFloat
  | .transportFailure | .overCap _ => none
  | .answered response _ => call.retryAfterSeconds response

def Call.verdict
    (attempt : Nat) : Verdict :=
  (call.dial attempt).verdict

/-- The last attempt. -/
def Call.lastAttempt : Nat :=
  lastTried (fun n => (call.verdict n).retried) 0 call.maxAttempts

/-- How a run that ends with an attempt ends. -/
def Call.exitOf
    (attempt : Nat) : Exit :=
  match call.verdict attempt with
  | .answered response body =>
      if outcomeOf response.status = .success then .delivered ⟨response.status, body, attempt⟩
      else raiseFailure ⟨call.maxAttempts, attempt, some response.status,
        call.retryAfterSeconds response⟩
  | verdict => raiseFailure ⟨call.maxAttempts, attempt, verdict.status, none⟩

/-- The wait behind an attempt. -/
def Call.waitOf
    (attempt : Nat) : PyFloat :=
  waitSeconds call.base attempt (call.jitter attempt) (call.askedToWait (call.verdict attempt))

/-- What an attempt does, and the wait behind it where another may follow. -/
def Call.stepEvents
    (attempt : Nat) : List WireEvent :=
  call.attemptEvents attempt ++
    if (call.verdict attempt).retried ∧ attempt < call.maxAttempts then
      [.waited (call.waitOf attempt)] else []

/-- The state behind an attempt. -/
def Call.stateAfter
    (attempt : Nat) : Attempts :=
  ⟨call.maxAttempts, attempt, (call.verdict attempt).status,
    call.askedToWait (call.verdict attempt)⟩

variable {call} {left : Nat} {a : Attempts}

/-- An attempt that is to be tried again leaves its state. -/
theorem tryAttempt_retried
    (hmax : a.maxAttempts = call.maxAttempts)
    (hretried : (call.verdict a.attempt).retried = true) :
    call.tryAttempt a = (call.stateAfter a.attempt, none) := by
  obtain ⟨maxAttempts, attempt, lastStatus, lastRetryAfter⟩ := a
  dsimp only at hmax hretried ⊢
  subst hmax
  unfold Call.tryAttempt Call.stateAfter
  unfold Call.verdict at hretried ⊢
  dsimp only
  cases hdial : call.dial attempt with
  | failed => rfl
  | answered response broken =>
      rw [hdial] at hretried
      unfold Dial.verdict at hretried ⊢
      dsimp only at hretried ⊢
      cases hbody : accumulate maxResponseBytes [] response.chunks with
      | none =>
          rw [hbody] at hretried
          cases hretried
      | some body =>
          rw [hbody] at hretried
          dsimp only at hretried ⊢
          cases broken with
          | true => rfl
          | false =>
              have houtcome : outcomeOf response.status = .retry := of_decide_eq_true hretried
              rw [if_neg Bool.false_ne_true, if_neg Bool.false_ne_true]
              unfold Call.concludeAttempt Attempts.recordResponse
              rw [houtcome]
              rfl

/-- Any other attempt is the last. -/
theorem tryAttempt_final
    (hmax : a.maxAttempts = call.maxAttempts)
    (hfinal : (call.verdict a.attempt).retried = false) :
    (call.tryAttempt a).2 = some (call.exitOf a.attempt) := by
  obtain ⟨maxAttempts, attempt, lastStatus, lastRetryAfter⟩ := a
  dsimp only at hmax hfinal ⊢
  subst hmax
  unfold Call.tryAttempt Call.exitOf
  unfold Call.verdict at hfinal ⊢
  dsimp only
  cases hdial : call.dial attempt with
  | failed =>
      rw [hdial] at hfinal
      cases hfinal
  | answered response broken =>
      rw [hdial] at hfinal
      unfold Dial.verdict at hfinal ⊢
      dsimp only at hfinal ⊢
      cases hbody : accumulate maxResponseBytes [] response.chunks with
      | none => rfl
      | some body =>
          rw [hbody] at hfinal
          dsimp only at hfinal ⊢
          cases broken with
          | true => cases hfinal
          | false =>
              have houtcome : outcomeOf response.status ≠ .retry := of_decide_eq_false hfinal
              rw [if_neg Bool.false_ne_true, if_neg Bool.false_ne_true]
              unfold Call.concludeAttempt Attempts.recordResponse
              dsimp only
              cases heq : outcomeOf response.status with
              | retry => exact absurd heq houtcome
              | success => rfl
              | terminal => rfl

theorem stepEvents_retried
    {attempt : Nat}
    (h : (call.verdict attempt).retried = true) :
    call.stepEvents attempt =
      call.attemptEvents attempt ++ call.sleepEvents (call.stateAfter attempt) := by
  unfold Call.stepEvents Call.sleepEvents
  simp only [h, true_and]
  rfl

theorem stepEvents_final
    {attempt : Nat}
    (h : (call.verdict attempt).retried = false) :
    call.stepEvents attempt = call.attemptEvents attempt := by
  unfold Call.stepEvents
  rw [if_neg (fun hboth => by rw [h] at hboth; cases hboth.1), List.append_nil]

/-- The attempts that a run makes, with the waits between them. -/
def Call.eventsBetween
    (call : Call)
    (finished last : Nat) : List WireEvent :=
  (List.range' (finished + 1) (last - finished)).flatMap call.stepEvents

theorem eventsBetween_succ
    {finished last : Nat}
    (h : finished < last) :
    call.eventsBetween finished last =
      call.stepEvents (finished + 1) ++ call.eventsBetween (finished + 1) last := by
  unfold Call.eventsBetween
  rw [show last - finished = (last - (finished + 1)) + 1 by omega, List.range'_succ,
    List.flatMap_cons]

/-- A run of the loop makes the attempts up to the last one, and ends as that one does; with
nothing left to try it ends with what the attempt before it left. -/
theorem sendLoop_eq
    (left : Nat)
    {a : Attempts}
    (hmax : a.maxAttempts = call.maxAttempts)
    (hbudget : a.attempt + left = call.maxAttempts) :
    let last := lastTried (fun n => (call.verdict n).retried) a.attempt left
    call.sendLoop left a =
      (call.eventsBetween a.attempt last,
        if last = a.attempt then raiseFailure a
        else if (call.verdict last).retried = true then raiseFailure (call.stateAfter last)
        else call.exitOf last) := by
  induction left generalizing a with
  | zero =>
      unfold Call.sendLoop lastTried Call.eventsBetween
      dsimp only
      rw [if_pos rfl, Nat.sub_self]
      rfl
  | succ left ih =>
      have hnext : a.nextAttempt.attempt = a.attempt + 1 := rfl
      have hnextMax : a.nextAttempt.maxAttempts = call.maxAttempts := hmax
      unfold Call.sendLoop lastTried
      dsimp only
      cases hretried : (call.verdict (a.attempt + 1)).retried with
      | true =>
          have htry := tryAttempt_retried hnextMax (hnext ▸ hretried)
          have hspec := lastTried_spec (fun n => (call.verdict n).retried) (a.attempt + 1) left
          have hbudget' : (call.stateAfter (a.attempt + 1)).attempt + left = call.maxAttempts :=
            (Nat.succ_add_eq_add_succ _ _).trans hbudget
          have hrest := ih (a := call.stateAfter (a.attempt + 1)) rfl hbudget'
          dsimp only [Call.stateAfter] at hrest
          rw [htry, if_pos rfl, hnext]
          dsimp only
          generalize hlast : lastTried (fun n => (call.verdict n).retried) (a.attempt + 1) left =
            last at hspec hrest ⊢
          have hafter : a.attempt < last := hspec.after
          rw [if_neg hafter.ne', eventsBetween_succ hafter, stepEvents_retried hretried]
          unfold Call.stateAfter at hrest ⊢
          rw [hrest]
          refine congrArg (Prod.mk _) ?_
          by_cases hfirst : last = a.attempt + 1
          · rw [if_pos hfirst, hfirst, if_pos hretried]
          · rw [if_neg hfirst]
      | false =>
          have htry := tryAttempt_final hnextMax (hnext ▸ hretried)
          have hevents : call.eventsBetween a.attempt (a.attempt + 1)
              = call.stepEvents (a.attempt + 1)
                ++ call.eventsBetween (a.attempt + 1) (a.attempt + 1) :=
            eventsBetween_succ (Nat.lt_succ_self a.attempt)
          rw [if_neg Bool.false_ne_true, if_neg (Nat.succ_ne_self _), hretried,
            if_neg Bool.false_ne_true]
          cases hpair : call.tryAttempt a.nextAttempt with
          | mk a' exit =>
              rw [hpair] at htry
              cases htry
              rw [hevents, stepEvents_final hretried]
              unfold Call.eventsBetween
              rw [Nat.sub_self]
              exact congrArg (Prod.mk · _) (List.append_nil _).symm

/-- The response of an attempt is a success. -/
def Verdict.Succeeds
    (verdict : Verdict) : Prop :=
  ∃ response body, verdict = .answered response body ∧ outcomeOf response.status = .success

theorem exitOf_of_not_succeeds
    {attempt : Nat}
    (h : ¬ (call.verdict attempt).Succeeds) :
    call.exitOf attempt = raiseFailure (call.stateAfter attempt) := by
  unfold Call.exitOf Call.stateAfter
  cases hverdict : call.verdict attempt with
  | transportFailure => rfl
  | overCap status => rfl
  | answered response body =>
      have hfails : outcomeOf response.status ≠ .success := fun hsuccess =>
        h ⟨response, body, hverdict, hsuccess⟩
      dsimp only
      rw [if_neg hfails]
      rfl

theorem not_succeeds_of_retried
    {verdict : Verdict}
    (h : verdict.retried = true) :
    ¬ verdict.Succeeds := by
  rintro ⟨response, body, rfl, hsuccess⟩
  have hretry : outcomeOf response.status = .retry := of_decide_eq_true h
  rw [hsuccess] at hretry
  cases hretry

/-- A run of `send` makes the attempts up to the last one, and ends as that one does. -/
theorem send_eq
    (hmax : 1 ≤ call.maxAttempts) :
    call.send = (call.eventsBetween 0 call.lastAttempt, call.exitOf call.lastAttempt) := by
  have hrun := sendLoop_eq call.maxAttempts (a := { maxAttempts := call.maxAttempts })
    (show _ = call.maxAttempts from rfl) (Nat.zero_add _)
  have hspec := lastTried_spec (fun n => (call.verdict n).retried) 0 call.maxAttempts
  have htried : call.lastAttempt ≠ 0 := (hspec.tried hmax).ne'
  dsimp only at hrun
  unfold Call.lastAttempt at htried ⊢
  rw [if_neg htried] at hrun
  refine hrun.trans (congrArg (Prod.mk _) ?_)
  split
  · next hretried => exact (exitOf_of_not_succeeds (not_succeeds_of_retried hretried)).symm
  · rfl

theorem asendLoop_eq
    (left : Nat)
    (a : Attempts) :
    call.asendLoop left a = call.sendLoop left a := by
  induction left generalizing a with
  | zero => rfl
  | succ left ih =>
      unfold Call.asendLoop Call.sendLoop
      simp only [ih]

/-- The drivers make the same attempts and conclude alike. -/
theorem asend_eq_send
    (call : Call) :
    call.asend = call.send :=
  asendLoop_eq call.maxAttempts _

end Runs

section Promises

variable {call : Call}

def WireEvent.signedFor : WireEvent → Option Nat
  | .signed attempt => some attempt
  | _ => none

def WireEvent.dialedFor : WireEvent → Option Nat
  | .dialed attempt _ => some attempt
  | _ => none

def WireEvent.seconds : WireEvent → Option PyFloat
  | .waited seconds => some seconds
  | _ => none

/-- The end of a run says what its last attempt came to. -/
inductive ReportsLast
    (call : Call)
    (last : Nat) : Exit → Prop
  | delivered {response : Response} {body : List UInt8}
      (hverdict : call.verdict last = .answered response body)
      (hsuccess : outcomeOf response.status = .success) :
      ReportsLast call last (.delivered ⟨response.status, body, last⟩)
  | silent
      (hfails : ¬ (call.verdict last).Succeeds)
      (hasked : call.askedToWait (call.verdict last) = none) :
      ReportsLast call last (.deliveryFailed ⟨last, (call.verdict last).status, none⟩)
  | asked {q : ℚ}
      (hfails : ¬ (call.verdict last).Succeeds)
      (hasked : call.askedToWait (call.verdict last) = some (.finite q)) :
      ReportsLast call last (.deliveryFailed
        ⟨last, (call.verdict last).status, some (min (max 1 ⌈q⌉) 3600)⟩)

/-- What is promised of a run whose last attempt is given. -/
structure RetriesAsPromised
    (call : Call)
    (last : Nat) : Prop where
  /-- at most so many attempts, and none behind a success, a terminal status or a body over
  the cap -/
  order : LastTried (fun n => (call.verdict n).retried) 0 call.maxAttempts last
  agree : call.asend = call.send
  dialed : call.send.1.filterMap WireEvent.dialedFor = List.range' 1 last
  signed : call.send.1.filterMap WireEvent.signedFor =
    if call.sign.isSome then List.range' 1 last else []
  waited : call.send.1.filterMap WireEvent.seconds = (List.range' 1 (last - 1)).map call.waitOf
  bounded : ∀ n, ∃ w, call.waitOf n = .finite w ∧
    call.base * 2 ^ (n - 1) ≤ w ∧ w ≤ max (call.base * 2 ^ (n - 1) + 1) 60
  reports : ReportsLast call last call.send.2

/-- The last attempt failed with a response whose `Retry-After` Python reads as an infinite
number, or as none. -/
def EndsUnreadable
    (call : Call) : Prop :=
  ∃ last, LastTried (fun n => (call.verdict n).retried) 0 call.maxAttempts last ∧
    ¬ (call.verdict last).Succeeds ∧
    ∃ f, call.askedToWait (call.verdict last) = some f ∧ f.isFinite = false

theorem filterMap_stepEvents
    {β : Type*}
    (f : WireEvent → Option β)
    (n : Nat) :
    (call.stepEvents n).filterMap f =
      (if call.sign.isSome then (f (.signed n)).toList else []) ++
        (f (.dialed n (buildRequest call.request call.sign n))).toList ++
          if (call.verdict n).retried ∧ n < call.maxAttempts then
            (f (.waited (call.waitOf n))).toList else [] := by
  have hone : ∀ e, [e].filterMap f = (f e).toList := by
    intro e
    cases hf : f e with
    | none => exact List.filterMap_cons_none hf
    | some b => exact List.filterMap_cons_some hf
  unfold Call.stepEvents Call.attemptEvents
  rw [List.filterMap_append, List.filterMap_append, hone, apply_ite (List.filterMap f),
    apply_ite (List.filterMap f), hone, hone]
  rfl

theorem filterMap_dialed
    (first count : Nat) :
    ((List.range' first count).flatMap call.stepEvents).filterMap WireEvent.dialedFor =
      List.range' first count := by
  have hstep : ∀ n, (call.stepEvents n).filterMap WireEvent.dialedFor = [n] := by
    intro n
    rw [filterMap_stepEvents]
    simp [WireEvent.dialedFor]
  rw [List.filterMap_flatMap]
  simp only [hstep, List.flatMap_singleton']

theorem filterMap_signed
    (first count : Nat) :
    ((List.range' first count).flatMap call.stepEvents).filterMap WireEvent.signedFor =
      if call.sign.isSome then List.range' first count else [] := by
  have hstep : ∀ n, (call.stepEvents n).filterMap WireEvent.signedFor =
      if call.sign.isSome then [n] else [] := by
    intro n
    rw [filterMap_stepEvents]
    simp [WireEvent.signedFor]
  rw [List.filterMap_flatMap]
  simp only [hstep]
  cases call.sign.isSome with
  | true => exact List.flatMap_singleton' _
  | false => exact List.flatMap_eq_nil_iff.mpr (fun _ _ => rfl)

theorem filterMap_seconds
    {last : Nat}
    (h : LastTried (fun n => (call.verdict n).retried) 0 call.maxAttempts last) :
    (call.eventsBetween 0 last).filterMap WireEvent.seconds =
      (List.range' 1 (last - 1)).map call.waitOf := by
  have hstep : ∀ n, (call.stepEvents n).filterMap WireEvent.seconds =
      if (call.verdict n).retried ∧ n < call.maxAttempts then [call.waitOf n] else [] := by
    intro n
    rw [filterMap_stepEvents]
    simp [WireEvent.seconds]
  have hbefore : ∀ n ∈ List.range' 1 (last - 1),
      (call.stepEvents n).filterMap WireEvent.seconds = [call.waitOf n] := by
    intro n hn
    obtain ⟨hlow, hhigh⟩ := List.mem_range'_1.mp hn
    have hlt : n < last := by omega
    have hwithin := h.within
    rw [Nat.zero_add] at hwithin
    rw [hstep, if_pos ⟨h.before n hlow hlt, lt_of_lt_of_le hlt hwithin⟩]
  unfold Call.eventsBetween
  rw [Nat.sub_zero, Nat.zero_add]
  cases last with
  | zero => rfl
  | succ last =>
      rw [Nat.add_sub_cancel] at hbefore ⊢
      have hlast : (call.stepEvents (1 + last)).filterMap WireEvent.seconds = [] := by
        rw [hstep, if_neg]
        rintro ⟨hretried, hlt⟩
        rw [Nat.add_comm] at hretried hlt
        have hend := h.exhausted (Nat.succ_pos last) hretried
        omega
      rw [List.range'_1_concat, List.flatMap_append, List.filterMap_append, List.flatMap_singleton,
        hlast, List.append_nil, List.filterMap_flatMap, List.map_eq_flatMap]
      exact List.flatMap_congr hbefore

theorem raiseFailure_stateAfter
    {last : Nat}
    (hfails : ¬ (call.verdict last).Succeeds)
    (hreadable : ∀ f, call.askedToWait (call.verdict last) = some f → f.isFinite = true) :
    ReportsLast call last (raiseFailure (call.stateAfter last)) := by
  unfold raiseFailure Attempts.failure Call.stateAfter
  cases hasked : call.askedToWait (call.verdict last) with
  | none => exact .silent hfails hasked
  | some f =>
      cases f with
      | finite q => exact .asked hfails hasked
      | inf => cases hreadable _ hasked
      | negInf => cases hreadable _ hasked
      | nan => cases hreadable _ hasked

/-- A run ends as promised exactly where its last attempt leaves a readable failure. -/
theorem retries_as_promised_iff
    (hmax : 1 ≤ call.maxAttempts)
    (hjitter : ∀ n, 0 ≤ call.jitter n ∧ call.jitter n ≤ 1) :
    (∃ last, RetriesAsPromised call last) ↔ ¬ EndsUnreadable call := by
  constructor
  · rintro ⟨last, hpromised⟩ ⟨last', horder, hfails, f, hasked, hinfinite⟩
    obtain rfl := hpromised.order.unique horder hmax
    have hreports := hpromised.reports
    generalize call.send.2 = exit at hreports
    cases hreports with
    | delivered hverdict hsuccess => exact hfails ⟨_, _, hverdict, hsuccess⟩
    | silent _ hnone =>
        rw [hasked] at hnone
        cases hnone
    | asked _ hsome =>
        rw [hasked] at hsome
        cases hsome
        cases hinfinite
  · intro hreadable
    have hspec := lastTried_spec (fun n => (call.verdict n).retried) 0 call.maxAttempts
    have hsend := send_eq hmax
    have hevents : call.eventsBetween 0 call.lastAttempt =
        (List.range' 1 call.lastAttempt).flatMap call.stepEvents := by
      unfold Call.eventsBetween
      rw [Nat.sub_zero]
    refine ⟨call.lastAttempt, hspec, asend_eq_send call, ?_, ?_, ?_, fun n => ?_, ?_⟩
    · rw [hsend, hevents]
      exact filterMap_dialed 1 _
    · rw [hsend, hevents]
      exact filterMap_signed 1 _
    · rw [hsend]
      exact filterMap_seconds hspec
    · exact waitSeconds_bounds n _ (hjitter n)
    · rw [hsend]
      by_cases hsucceeds : (call.verdict call.lastAttempt).Succeeds
      · obtain ⟨response, body, hverdict, hsuccess⟩ := hsucceeds
        have hexit : call.exitOf call.lastAttempt =
            .delivered ⟨response.status, body, call.lastAttempt⟩ := by
          unfold Call.exitOf
          rw [hverdict]
          dsimp only
          rw [if_pos hsuccess]
        dsimp only
        rw [hexit]
        exact .delivered hverdict hsuccess
      · dsimp only
        rw [exitOf_of_not_succeeds hsucceeds]
        refine raiseFailure_stateAfter hsucceeds (fun f hasked => ?_)
        cases hfinite : f.isFinite with
        | true => rfl
        | false => exact absurd ⟨_, hspec, hsucceeds, f, hasked, hfinite⟩ hreadable

/-- A call whose origin answers with a status and a `Retry-After`, every time. -/
def answeringCall
    (status : Nat)
    (retryAfter : String) : Call where
  request := ⟨"POST", "https://buyer.example/hook", [], []⟩
  sign := none
  maxAttempts := 1
  base := 1
  jitter := fun _ => 1 / 2
  dial := fun _ => .answered ⟨status, some retryAfter, []⟩ false
  pyFloat := fun text =>
    if text = "nan" then some .nan else if text = "7" then some (.finite 7) else none

/-- A signed call whose origin is unavailable, then fails, then answers. -/
def retriedCall : Call :=
  { answeringCall 200 "" with
    sign := some fun attempt _ => [("Signature", toString attempt)]
    maxAttempts := 3
    dial := fun n =>
      if n = 1 then .answered ⟨503, some "7", []⟩ false
      else if n = 2 then .failed
      else .answered ⟨200, none, []⟩ false }

/-- A rejection that asks for seconds ends as promised, and so does a retried call. -/
theorem retries_as_promised_sample :
    ((∃ last, RetriesAsPromised (answeringCall 429 "7") last) ↔
        ¬ EndsUnreadable (answeringCall 429 "7")) ∧
      ((∃ last, RetriesAsPromised retriedCall last) ↔ ¬ EndsUnreadable retriedCall) ∧
      retriedCall.send.2 = .delivered ⟨200, [], 3⟩ :=
  have hhalf : (0 : ℚ) ≤ 1 / 2 ∧ (1 / 2 : ℚ) ≤ 1 := by decide +kernel
  ⟨retries_as_promised_iff (by decide) (fun _ => hhalf),
    retries_as_promised_iff (by decide) (fun _ => hhalf), by decide +kernel⟩

/-- Counterexample: a `Retry-After` that Python reads as no number: what is raised is
neither a result nor a failure. -/
theorem unreadable_retryAfter_raises :
    (answeringCall 429 "nan").send.2 = .raised ∧
      ¬ ∃ last, RetriesAsPromised (answeringCall 429 "nan") last := by
  have hraised : (answeringCall 429 "nan").send.2 = .raised := by decide +kernel
  refine ⟨hraised, ?_⟩
  rintro ⟨last, hpromised⟩
  have hreports := hpromised.reports
  rw [hraised] at hreports
  cases hreports

end Promises

end Egress
end SalesAgent
