import SalesAgent.Lib.IndexedTable
import SalesAgent.Lib.Runs
import SalesAgent.DateTime
import Mathlib.Data.List.Infix

/-!
# Background approval of orders

An order that the ad server cannot approve yet is handed to a background worker, which
asks again until the order is approved or its tries are used up.  A worker is known in
three places: the row of its job, the registry of running threads, and the stop signals.
None of them is written together with another.

The calls that start workers, the cancellations, the reads of the registry and the steps of
the workers interleave.  A start is a read of the running jobs, then the row, the stop
signal, the registration and the thread, one after the other.

**Contents.**
* `approveOrder`, `runApprovalThread`: what a worker does next.
* `Approval.work`: what its step writes.
* `perform`: the events of the service.
-/

namespace SalesAgent
namespace Background

/-- What one request for the approval of an order met. -/
inductive AdServerAnswer
  | performed
  | raised (error : String)
  /-- the time limit of the call passed; the ad server may have approved the order -/
  | timedOut (error : String)
  deriving DecidableEq

/-- The error says that the ad server still forecasts. -/
def forecastPending
    (error : String) : Bool :=
  decide ("NO_FORECAST_YET".toList <:+: error.toList) ||
    decide ("ForecastingError".toList <:+: error.toList)

/-- `approve_order` with one try.  It logs whichever error the ad server raised, and returns
false; its time limit is outside of it and raises. -/
def approveOrder : AdServerAnswer → Except String Bool
  | .performed => .ok true
  | .raised _ => .ok false
  | .timedOut error => .error error

/-- The answer is an error worth another try. -/
def AdServerAnswer.retryable : AdServerAnswer → Bool
  | .performed => false
  | .raised error => forecastPending error
  | .timedOut error => forecastPending error

/-- How a worker ended its polling. -/
inductive Outcome
  | completed (attempts : Nat)
  | failed (error : String)
  deriving DecidableEq

/-- Where the worker of a job is, from the row of the job on. -/
inductive Phase
  /-- the row is there -/
  | inserted
  /-- so is the stop signal -/
  | reserved
  /-- the thread is registered and not started -/
  | registered
  | started
  | attempting (attempt : Nat)
  /-- the ad server was asked -/
  | calling (attempt : Nat)
  | sleeping (attempt : Nat)
  | marking (outcome : Outcome)
  | announcing (outcome : Outcome)
  | leaving
  | finished
  /-- the thread is gone, or was never started -/
  | dead
  deriving DecidableEq

/-- The thread is alive to the registry. -/
def Phase.isAlive : Phase → Bool
  | .inserted | .reserved | .registered | .finished | .dead => false
  | _ => true

/-- The worker polls the ad server. -/
def Phase.polls : Phase → Bool
  | .attempting _ | .calling _ | .sleeping _ => true
  | _ => false

/-- What a worker posts to the buyer. -/
structure ApprovalUpdate where
  webhookUrl : String
  mediaBuyId : String
  status : String
  message : String
  orderId : Option String
  attempts : Option Nat
  deriving DecidableEq

/-- The arguments of a start. -/
structure StartRequest where
  orderId : String
  mediaBuyId : String
  tenantId : String
  principalId : String
  webhookUrl : Option String := none
  maxAttempts : Nat := 12
  deriving DecidableEq

/-- A background thread, with what it did so far. -/
structure Worker where
  request : StartRequest
  phase : Phase
  /-- how often the ad server was asked -/
  calls : Nat
  answers : List AdServerAnswer
  /-- the terminal statuses written -/
  marks : List Outcome
  announced : List ApprovalUpdate
  /-- the calls made when a cancellation first returned true -/
  cancelledAt : Option Nat
  deriving DecidableEq

/-- The document a job keeps of its progress. -/
structure Progress where
  orderId : Option String
  mediaBuyId : Option String
  principalId : Option String
  webhookUrl : Option String
  attempts : Option Nat
  maxAttempts : Option Nat
  phase : Option String
  deriving DecidableEq

inductive JobStatus
  | running
  | completed
  | failed
  deriving DecidableEq

/-- The row of an approval job. -/
structure SyncJob where
  syncId : String
  tenantId : String
  status : JobStatus
  startedAt : DateTime
  completedAt : Option DateTime
  /-- the attempts of the stored summary -/
  summary : Option Nat
  errorMessage : Option String
  triggeredById : String
  progress : Option Progress
  deriving DecidableEq

/-- A job with its worker. -/
structure Approval where
  job : SyncJob
  worker : Worker
  deriving DecidableEq

def Approval.primaryKey
    (a : Approval) : Option String :=
  some a.job.syncId

/-- The order that the row of the job names. -/
def Approval.orderId
    (a : Approval) : Option String :=
  a.job.progress.bind (·.orderId)

section Thread

/-- The worker begins a try, if it has any left. -/
def nextAttempt
    (w : Worker)
    (attempt : Nat) : Phase :=
  if attempt ≤ w.request.maxAttempts then .attempting attempt else .leaving

/-- What the loop does with the result of a try. -/
def afterCall
    (w : Worker)
    (attempt : Nat) : Except String Bool → Phase
  | .ok true => .marking (.completed attempt)
  | .ok false =>
      if attempt < w.request.maxAttempts then .sleeping attempt
      else .marking (.failed ("Order approval failed after " ++ toString w.request.maxAttempts ++
        " attempts (2 minutes). GAM forecasting may still be in progress."))
  | .error error =>
      if forecastPending error = false then
        .marking (.failed ("Non-retryable error: " ++ error))
      else if attempt < w.request.maxAttempts then .sleeping attempt
      else .marking (.failed ("Order approval timed out after " ++
        toString w.request.maxAttempts ++ " attempts: " ++ error))

/-- What the worker finds before it polls. -/
inductive Setup
  | notConfigured
  | raised (error : String)
  | ready
  deriving DecidableEq

/-- What a worker does next. -/
inductive Move
  | configure (setup : Setup)
  | attempt
  | answer (a : AdServerAnswer)
  | wake
  | mark (now : DateTime)
  /-- the registration was read and the signer resolved, or one of them raised -/
  | announce (ready : Bool)
  | leave
  deriving DecidableEq

/-- The worker has an endpoint to post to. -/
def StartRequest.announces
    (req : StartRequest) : Bool :=
  req.webhookUrl.any (· ≠ "")

/-- `_run_approval_thread`: where a step takes the worker. -/
def runApprovalThread
    (w : Worker)
    (move : Move) : Option Phase :=
  match w.phase, move with
  | .started, .configure .notConfigured =>
      some (.marking (.failed "GAM not configured for tenant"))
  | .started, .configure (.raised error) => some (.marking (.failed error))
  | .started, .configure .ready => some (nextAttempt w 1)
  | .attempting attempt, .attempt => some (.calling attempt)
  | .calling attempt, .answer a => some (afterCall w attempt (approveOrder a))
  | .sleeping attempt, .wake => some (nextAttempt w (attempt + 1))
  | .marking outcome, .mark _ =>
      some (if w.request.announces then .announcing outcome else .leaving)
  | .announcing _, .announce _ => some .leaving
  | .leaving, .leave => some .finished
  | _, _ => none

/-- `_update_approval_progress`.  A document that is there is merged in place, which the
session does not see: its commit writes no column. -/
def updateApprovalProgress
    (attempt maxAttempts : Nat)
    (job : SyncJob) : SyncJob :=
  match job.progress with
  | some _ => job
  | none =>
      { job with
        progress := some
          { orderId := none
            mediaBuyId := none
            principalId := none
            webhookUrl := none
            attempts := some attempt
            maxAttempts := none
            phase := some ("Approval attempt " ++ toString attempt ++ "/" ++
              toString maxAttempts) } }

/-- The row that `_mark_approval_complete` and `_mark_approval_failed` write. -/
def markApproval
    (outcome : Outcome)
    (now : DateTime)
    (job : SyncJob) : SyncJob :=
  match outcome with
  | .completed attempts =>
      { job with
        status := .completed
        completedAt := some now
        summary := some attempts }
  | .failed error =>
      { job with
        status := .failed
        completedAt := some now
        errorMessage := some error }

/-- What is posted about an outcome. -/
def approvalUpdate
    (outcome : Outcome)
    (req : StartRequest)
    (job : SyncJob) : ApprovalUpdate :=
  match outcome with
  | .completed attempts =>
      { webhookUrl := req.webhookUrl.getD ""
        mediaBuyId := req.mediaBuyId
        status := "approved"
        message := "Order approved successfully"
        orderId := some req.orderId
        attempts := some attempts }
  | .failed error =>
      { webhookUrl := req.webhookUrl.getD ""
        mediaBuyId := req.mediaBuyId
        status := "failed"
        message := error
        orderId := job.progress.bind (·.orderId)
        attempts := job.progress.bind (·.attempts) }

/-- What a step of the worker writes, with the stop signal it reads. -/
def Approval.work
    (move : Move)
    (next : Phase)
    (stopSignal : Option Bool)
    (a : Approval) : Approval :=
  match move, a.worker.phase with
  | .attempt, .attempting attempt =>
      { job := updateApprovalProgress attempt a.worker.request.maxAttempts a.job
        worker := { a.worker with phase := next, calls := a.worker.calls + 1 } }
  | .answer answer, _ =>
      { a with worker := { a.worker with phase := next, answers := a.worker.answers ++ [answer] } }
  | .mark now, .marking outcome =>
      { job := markApproval outcome now a.job
        worker := { a.worker with phase := next, marks := a.worker.marks ++ [outcome] } }
  | .announce ready, .announcing outcome =>
      let posted :=
        if ready = true ∧ stopSignal ≠ some true then
          [approvalUpdate outcome a.worker.request a.job]
        else []
      { a with worker := { a.worker with
          phase := next
          announced := a.worker.announced ++ posted } }
  | _, _ => { a with worker := { a.worker with phase := next } }

/-- The thread goes on to a phase. -/
def Approval.enter
    (phase : Phase)
    (a : Approval) : Approval :=
  { a with worker := { a.worker with phase := phase } }

/-- The thread is gone, if it had not finished. -/
def Approval.ended
    (a : Approval) : Approval :=
  if a.worker.phase = .finished then a else a.enter .dead

/-- A cancellation of the worker returned true. -/
def Approval.cancelled
    (a : Approval) : Approval :=
  { a with worker := { a.worker with
      cancelledAt := some (a.worker.cancelledAt.getD a.worker.calls) } }

theorem primaryKey_work
    (move : Move)
    (next : Phase)
    (stopSignal : Option Bool)
    (a : Approval) :
    (a.work move next stopSignal).primaryKey = a.primaryKey := by
  unfold Approval.work
  split
  · unfold updateApprovalProgress
    split
    · rfl
    · rfl
  · rfl
  · unfold markApproval
    split
    · rfl
    · rfl
  · rfl
  · rfl

theorem primaryKey_enter
    (phase : Phase)
    (a : Approval) :
    (a.enter phase).primaryKey = a.primaryKey :=
  rfl

theorem primaryKey_ended
    (a : Approval) :
    a.ended.primaryKey = a.primaryKey := by
  unfold Approval.ended
  split
  · rfl
  · rfl

theorem primaryKey_cancelled
    (a : Approval) :
    a.cancelled.primaryKey = a.primaryKey :=
  rfl

end Thread

/-- The service: the jobs with their workers, the registry of threads, the stop signals, and
the starts that passed their check. -/
structure Service where
  approvals : IndexedTable Approval String Approval.primaryKey
  activeApprovals : List String
  stopSignals : String → Option Bool
  starting : List StartRequest

/-- The service before anything was started. -/
def Service.empty : Service where
  approvals := .empty
  activeApprovals := []
  stopSignals := fun _ => none
  starting := []

section Operations

variable (s : Service)

/-- The running job that refuses a start. -/
def Service.approvalRunning
    (orderId : String) : Option Approval :=
  s.approvals.rows.find? (fun a => a.job.status = .running && a.orderId = some orderId)

/-- The check of `start_order_approval_background`. -/
def Service.checkStart
    (req : StartRequest) : Service :=
  match s.approvalRunning req.orderId with
  | some _ => s
  | none => { s with starting := s.starting ++ [req] }

/-- The id of a job: the order and the second it was started in. -/
def approvalId
    (orderId : String)
    (now : DateTime) : String :=
  "approval_" ++ orderId ++ "_" ++ toString (now / 1000000)

/-- The row a start inserts. -/
def newApproval
    (req : StartRequest)
    (now : DateTime) : Approval where
  job :=
    { syncId := approvalId req.orderId now
      tenantId := req.tenantId
      status := .running
      startedAt := now
      completedAt := none
      summary := none
      errorMessage := none
      triggeredById := req.mediaBuyId
      progress := some
        { orderId := some req.orderId
          mediaBuyId := some req.mediaBuyId
          principalId := some req.principalId
          webhookUrl := req.webhookUrl
          attempts := some 0
          maxAttempts := some req.maxAttempts
          phase := some "Starting approval polling" } }
  worker :=
    { request := req
      phase := .inserted
      calls := 0
      answers := []
      marks := []
      announced := []
      cancelledAt := none }

/-- The insert of a start.  An id that is taken is refused by the database. -/
def Service.insertJob
    (req : StartRequest)
    (now : DateTime) : Service :=
  match s.approvals.insert (newApproval req now) with
  | some approvals => { s with approvals := approvals, starting := s.starting.erase req }
  | none => { s with starting := s.starting.erase req }

/-- The phase of a worker. -/
def Service.phaseOf
    (id : String) : Option Phase :=
  (s.approvals.find id).map (·.worker.phase)

/-- A worker goes on to a phase. -/
def Service.enter
    (id : String)
    (phase : Phase) : Service :=
  { s with approvals := s.approvals.modify id (·.enter phase) (primaryKey_enter phase) }

/-- `cancel_order_approval`. -/
def Service.cancelOrderApproval
    (id : String) : Service × Bool :=
  match s.stopSignals id with
  | none => (s, false)
  | some _ =>
      ({ s with
          approvals := s.approvals.modify id Approval.cancelled primaryKey_cancelled
          stopSignals := Function.update s.stopSignals id (some true) }, true)

/-- The thread of a job is alive. -/
def Service.isAlive
    (id : String) : Bool :=
  (s.phaseOf id).any Phase.isAlive

/-- `ThreadRegistry.reap_dead`, with the callback that drops the stop signals. -/
def Service.reapDead : Service :=
  { s with
    activeApprovals := s.activeApprovals.filter s.isAlive
    stopSignals := fun id =>
      if id ∈ s.activeApprovals ∧ s.isAlive id = false then none else s.stopSignals id }

/-- `get_active_approvals`. -/
def Service.getActiveApprovals : Service × List String :=
  (s.reapDead, s.reapDead.activeApprovals)

/-- `is_approval_running`. -/
def Service.isApprovalRunning
    (id : String) : Service × Bool :=
  (s.reapDead, decide (id ∈ s.reapDead.activeApprovals))

/-- `get_approval_status`: the row of the job. -/
def Service.getApprovalStatus
    (id : String) : Option SyncJob :=
  (s.approvals.find id).map (·.job)

/-- A step of a worker. -/
def Service.work
    (id : String)
    (move : Move)
    (next : Phase) : Service :=
  { s with
    approvals := s.approvals.modify id (·.work move next (s.stopSignals id))
      (primaryKey_work move next (s.stopSignals id))
    activeApprovals :=
      if move = .leave then s.activeApprovals.erase id else s.activeApprovals }

/-- The process ends: the threads that had not finished are gone, and so is what is kept in
memory. -/
def Service.restarted : Service where
  approvals := s.approvals.map Approval.ended primaryKey_ended
  activeApprovals := []
  stopSignals := fun _ => none
  starting := []

end Operations

/-- What happens at the service. -/
inductive ApprovalEvent
  | check (req : StartRequest)
  | insert (req : StartRequest) (now : DateTime)
  | reserve (id : String)
  | register (id : String)
  | startThread (id : String)
  | cancel (id : String)
  /-- `get_active_approvals`, `is_approval_running` or a read of the registry -/
  | readRegistry
  | work (id : String) (move : Move)
  /-- the thread ends without its cleanup, or cannot be started -/
  | die (id : String)
  | restart
  deriving DecidableEq

/-- The service after an event, where the event can happen. -/
def perform
    (s : Service) : ApprovalEvent → Except Unit Service
  | .check req => .ok (s.checkStart req)
  | .insert req now =>
      if req ∈ s.starting then .ok (s.insertJob req now) else .error ()
  | .reserve id =>
      if s.phaseOf id = some .inserted then
        .ok { s.enter id .reserved with
          stopSignals := Function.update s.stopSignals id (some false) }
      else .error ()
  | .register id =>
      if s.phaseOf id = some .reserved then
        .ok { s.enter id .registered with activeApprovals := s.activeApprovals ++ [id] }
      else .error ()
  | .startThread id =>
      if s.phaseOf id = some .registered then .ok (s.enter id .started) else .error ()
  | .cancel id => .ok (s.cancelOrderApproval id).1
  | .readRegistry => .ok s.reapDead
  | .work id move =>
      match s.approvals.find id with
      | none => .error ()
      | some a =>
          match runApprovalThread a.worker move with
          | none => .error ()
          | some next => .ok (s.work id move next)
  | .die id =>
      match s.phaseOf id with
      | none => .error ()
      | some phase => if phase = .finished then .error () else .ok (s.enter id .dead)
  | .restart => .ok s.restarted

/-- The step relation of the service. -/
abbrev ApprovalStep : Service → ApprovalEvent → Service → Prop :=
  Runs.FoldStep perform

end Background
end SalesAgent
