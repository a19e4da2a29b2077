import SalesAgent.Lib.Parties
import SalesAgent.Webhooks.CircuitBreaker

/-!
# Delivery webhooks through the queue of an endpoint

Calls that report delivery share one queue per endpoint.  A call builds its webhook, puts
it at the end of the queue and takes the oldest one off, delivers what it took, and then
concludes: it writes a row of the delivery log, tells the breaker, and counts the endpoint.
Other calls run between any two of these steps.

What a call takes need not be what it put in.  The row and the count are about the task of
the call, whatever was delivered.

**Results.**
* `Step.cases`: a step begins a call, or moves one call and keeps the others.
-/

namespace SalesAgent
namespace Webhooks

open Runs (Run Restrict Preserved)

section Domain

/-- `kind` of a `WebhookDeliveryOutcome`. -/
inductive OutcomeKind
  | delivered
  | refusedDestination
  | refusedAuth
  | clientError
  | exhausted
  deriving DecidableEq, Repr

/-- `WebhookDeliveryOutcome` -/
structure DeliveryOutcome where
  kind : OutcomeKind
  attempts : Nat
  httpStatus : Option Nat := none
  detail : Option String := none
  payloadSizeBytes : Option Nat := none
  deriving DecidableEq, Repr

/-- `WebhookDeliveryOutcome.unexpected` -/
def DeliveryOutcome.unexpected
    (exceptionType : String) : DeliveryOutcome where
  kind := .exhausted
  attempts := 0
  detail := some ("delivery failed with an unexpected " ++ exceptionType)

/-- `notification_type` of a report. -/
inductive NotificationType
  | final
  | adjusted
  | scheduled
  deriving DecidableEq, Repr

/-- The arguments of `send_delivery_webhook`; the figures are passed on as they are. -/
structure ReportRequest (Figures : Type) where
  mediaBuyId : String
  tenantId : String
  principalId : String
  reportingPeriodStart : Int
  reportingPeriodEnd : Int
  currency : String
  status : String
  figures : Figures
  isFinal : Bool := false
  isAdjusted : Bool := false
  nextExpectedInterval : Option Int := none
  deriving DecidableEq, Repr

/-- The delivery report. -/
structure DeliveryReport (Figures : Type) where
  notificationType : NotificationType
  isAdjusted : Bool
  sequenceNumber : Nat
  reportingPeriodStart : Int
  reportingPeriodEnd : Int
  currency : String
  mediaBuyId : String
  status : String
  figures : Figures
  nextExpectedAt : Option Int
  deriving DecidableEq, Repr

/-- `WebhookTaskContext` -/
structure TaskContext where
  taskId : String
  taskType : String
  tenantId : String
  principalId : String
  mediaBuyId : String
  sequenceNumber : Nat
  notificationType : NotificationType
  deriving DecidableEq, Repr

/-- `DELIVERY_REPORT_TASK_TYPE` -/
def deliveryReportTaskType : String :=
  "delivery_report"

/-- `DELIVERY_LOG_TASK_TYPES` -/
def deliveryLogTaskTypes : List String :=
  ["delivery_report", "media_buy_delivery"]

/-- `records_delivery_log` -/
def TaskContext.recordsDeliveryLog
    (ctx : TaskContext) : Bool :=
  ctx.taskType ∈ deliveryLogTaskTypes && ctx.mediaBuyId ≠ "" && ctx.tenantId ≠ "" &&
    ctx.principalId ≠ ""

/-- `status` of a row of `webhook_delivery_log`. -/
inductive LogStatus
  | success
  | refused
  | failed
  deriving DecidableEq, Repr

/-- `_OUTCOME_STATUS` -/
def OutcomeKind.logStatus : OutcomeKind → Option LogStatus
  | .delivered => some .success
  | .refusedDestination => some .refused
  | .clientError => some .failed
  | .exhausted => some .failed
  | .refusedAuth => none

/-- A row of `webhook_delivery_log`. -/
structure DeliveryLogRow where
  tenantId : String
  principalId : String
  mediaBuyId : String
  webhookUrl : String
  taskType : String
  status : LogStatus
  attemptCount : Nat
  sequenceNumber : Nat
  notificationType : NotificationType
  httpStatusCode : Option Nat
  errorMessage : Option String
  payloadSizeBytes : Option Nat
  deriving DecidableEq, Repr

/-- `record_outcome` -/
def recordOutcome
    (ctx : TaskContext)
    (webhookUrl : String)
    (outcome : DeliveryOutcome) : Option DeliveryLogRow :=
  match outcome.kind.logStatus with
  | none => none
  | some status =>
      if ! ctx.recordsDeliveryLog then none
      else some {
        tenantId := ctx.tenantId
        principalId := ctx.principalId
        mediaBuyId := ctx.mediaBuyId
        webhookUrl := webhookUrl
        taskType := ctx.taskType
        status := status
        attemptCount := outcome.attempts
        sequenceNumber := ctx.sequenceNumber
        notificationType := ctx.notificationType
        httpStatusCode := outcome.httpStatus
        errorMessage := outcome.detail
        payloadSizeBytes := outcome.payloadSizeBytes }

/-- A registration, as the sender reads it. -/
structure PushConfig where
  url : String
  authenticationType : Option String := none
  authenticationToken : Option String := none
  operationId : Option String := none
  token : Option String := none
  authBlocked : Bool := false
  deriving DecidableEq, Repr

/-- The envelope a receiver is sent. -/
structure Envelope (Figures : Type) where
  taskId : String
  operationId : Option String
  token : Option String
  idempotencyKey : String
  result : DeliveryReport Figures
  deriving DecidableEq, Repr

/-- `QueuedWebhook` -/
structure QueuedWebhook (Figures : Type) where
  url : String
  authenticationType : Option String
  authenticationToken : Option String
  payload : Envelope Figures
  tenantId : String
  timestamp : Int
  deriving DecidableEq, Repr

/-- A webhook in a queue, with its number among all that were ever queued. -/
structure Entry (Figures : Type) where
  ticket : Nat
  webhook : QueuedWebhook Figures
  deriving DecidableEq, Repr

/-- `max_size` -/
def maxSize : Nat :=
  1000

/-- `WebhookQueue` -/
structure WebhookQueue (Figures : Type) where
  entries : List (Entry Figures) := []
  droppedCount : Nat := 0
  deriving DecidableEq, Repr

end Domain

variable {Figures : Type}

/-- What a call concluded about one endpoint. -/
structure Conclusion (Figures : Type) where
  /-- what the call had put in the queue -/
  own : Entry Figures
  /-- what it took off and delivered -/
  taken : Entry Figures
  outcome : DeliveryOutcome
  row : Option DeliveryLogRow
  deriving DecidableEq, Repr

/-- How far a call is, with the registrations it has still to serve. -/
inductive Phase (Figures : Type)
  | resolving
  | choosing (configs : List PushConfig)
  | keyed (config : PushConfig) (rest : List PushConfig) (present : Bool)
  | ready (config : PushConfig) (rest : List PushConfig)
  | fetched (config : PushConfig) (rest : List PushConfig) (queue : Nat)
  | admitted (config : PushConfig) (rest : List PushConfig) (queue : Nat)
  | waiting (config : PushConfig) (rest : List PushConfig) (queue : Nat) (own : Entry Figures)
  | holding (config : PushConfig) (rest : List PushConfig) (own taken : Entry Figures)
  | concluding (config : PushConfig) (rest : List PushConfig) (own taken : Entry Figures)
      (outcome : DeliveryOutcome)
  | returned (sent : Bool)
  deriving DecidableEq, Repr

/-- A call of `send_delivery_webhook`, with what it queued and concluded so far. -/
structure DeliveryCall (Figures : Type) where
  ctx : TaskContext
  result : DeliveryReport Figures
  phase : Phase Figures := .resolving
  sentCount : Nat := 0
  queued : List (Entry Figures) := []
  conclusions : List (Conclusion Figures) := []
  deriving DecidableEq, Repr

/-- `WebhookDeliveryService`, with what was queued, taken off and delivered so far. -/
structure DeliveryService (Figures : Type) where
  sequenceNumbers : String → Nat := fun _ => 0
  breakers : String → CircuitBreaker := fun _ => {}
  /-- the queue an endpoint has in the dictionary -/
  queueOf : String → Option Nat := fun _ => none
  queues : List (WebhookQueue Figures) := []
  log : List DeliveryLogRow := []
  queued : List (Entry Figures) := []
  taken : List (Entry Figures) := []
  deliveries : List (Entry Figures × DeliveryOutcome) := []

/-- What a call does next; what comes from outside is part of the move. -/
inductive Move
  | read (configs : List PushConfig)
  | look
  | create
  | fetch
  | ask (now : Int)
  | enqueue (idempotencyKey : String) (now : Int)
  | dequeue
  /-- an exception that escapes a delivery has no outcome -/
  | deliver (outcome : Option DeliveryOutcome)
  | conclude (written : Bool) (now : Int)
  deriving DecidableEq, Repr

section Sending

/-- `send_delivery_webhook` up to the lookup of the registrations. -/
def DeliveryCall.begin
    (request : ReportRequest Figures)
    (sequenceNumber : Nat)
    (now : Int) : DeliveryCall Figures :=
  let notificationType : NotificationType :=
    if request.isFinal then .final else if request.isAdjusted then .adjusted else .scheduled
  { ctx :=
      { taskId := request.mediaBuyId
        taskType := deliveryReportTaskType
        tenantId := request.tenantId
        principalId := request.principalId
        mediaBuyId := request.mediaBuyId
        sequenceNumber := sequenceNumber
        notificationType := notificationType }
    result :=
      { notificationType := notificationType
        isAdjusted := request.isAdjusted
        sequenceNumber := sequenceNumber
        reportingPeriodStart := request.reportingPeriodStart
        reportingPeriodEnd := request.reportingPeriodEnd
        currency := request.currency
        mediaBuyId := request.mediaBuyId
        status := request.status
        figures := request.figures
        nextExpectedAt :=
          if request.isFinal then none
          else (request.nextExpectedInterval.filter (· ≠ 0)).map (now + ·) } }

/-- `endpoint_key` -/
def DeliveryCall.endpointKey
    (call : DeliveryCall Figures)
    (config : PushConfig) : String :=
  call.ctx.tenantId ++ ":" ++ config.url

/-- The webhook a call builds for a registration. -/
def DeliveryCall.webhook
    (call : DeliveryCall Figures)
    (config : PushConfig)
    (idempotencyKey : String)
    (now : Int) : QueuedWebhook Figures where
  url := config.url
  authenticationType := config.authenticationType
  authenticationToken := config.authenticationToken
  payload :=
    { taskId := call.ctx.taskId
      operationId := config.operationId
      token := config.token
      idempotencyKey := idempotencyKey
      result := call.result }
  tenantId := call.ctx.tenantId
  timestamp := now

/-- The dictionary with one key set. -/
def upsertKey
    {α : Type}
    (table : String → α)
    (key : String)
    (value : α) : String → α :=
  fun other => if other = key then value else table other

variable (policy : BreakerPolicy)

/-- One step of a call. -/
def DeliveryService.move
    (s : DeliveryService Figures)
    (call : DeliveryCall Figures)
    (m : Move) : Option (DeliveryService Figures × DeliveryCall Figures) :=
  match call.phase, m with
  | .resolving, .read configs =>
      if call.ctx.tenantId = "" ∨ call.ctx.principalId = "" ∨ configs = [] then
        some (s, { call with phase := .returned false })
      else
        some (s, { call with phase := .choosing configs })
  | .choosing [], .look =>
      some (s, { call with phase := .returned (0 < call.sentCount) })
  | .choosing (config :: rest), .look =>
      if config.authBlocked then
        some (s, { call with phase := .choosing rest })
      else
        let present := (s.queueOf (call.endpointKey config)).isSome
        some (s, { call with phase := .keyed config rest present })
  | .keyed config rest present, .create =>
      if present then
        some (s, { call with phase := .ready config rest })
      else
        some
          ({ s with
              queues := s.queues ++ [{}]
              queueOf := upsertKey s.queueOf (call.endpointKey config) (some s.queues.length) },
            { call with phase := .ready config rest })
  | .ready config rest, .fetch =>
      (s.queueOf (call.endpointKey config)).map (fun queue =>
        (s, { call with phase := .fetched config rest queue }))
  | .fetched config rest queue, .ask now =>
      let key := call.endpointKey config
      let asked := (s.breakers key).canAttempt policy now
      some
        ({ s with breakers := upsertKey s.breakers key asked.1 },
          { call with
              phase := if asked.2 then .admitted config rest queue else .choosing rest })
  | .admitted config rest queue, .enqueue idempotencyKey now =>
      (s.queues[queue]?).map (fun shared =>
        if maxSize ≤ shared.entries.length then
          ({ s with
              queues := s.queues.set queue
                { shared with droppedCount := shared.droppedCount + 1 } },
            { call with phase := .choosing rest })
        else
          let own : Entry Figures :=
            ⟨s.queued.length, call.webhook config idempotencyKey now⟩
          ({ s with
              queues := s.queues.set queue { shared with entries := shared.entries ++ [own] }
              queued := s.queued ++ [own] },
            { call with
                phase := .waiting config rest queue own
                queued := call.queued ++ [own] }))
  | .waiting config rest queue own, .dequeue =>
      (s.queues[queue]?).map (fun shared =>
        match shared.entries with
        | [] => (s, { call with phase := .choosing rest })
        | oldest :: entries =>
            ({ s with
                queues := s.queues.set queue { shared with entries := entries }
                taken := s.taken ++ [oldest] },
              { call with phase := .holding config rest own oldest }))
  -- the outermost handler of the call
  | .holding _ _ _ _, .deliver none =>
      some (s, { call with phase := .returned false })
  | .holding config rest own taken, .deliver (some outcome) =>
      some
        ({ s with deliveries := s.deliveries ++ [(taken, outcome)] },
          { call with phase := .concluding config rest own taken outcome })
  | .concluding config rest own taken outcome, .conclude written now =>
      let key := call.endpointKey config
      let row := if written then recordOutcome call.ctx config.url outcome else none
      let delivered := outcome.kind = .delivered
      some
        ({ s with
            log := s.log ++ row.toList
            breakers := upsertKey s.breakers key
              (if delivered then (s.breakers key).recordSuccess policy
                else (s.breakers key).recordFailure policy now) },
          { call with
              phase := .choosing rest
              sentCount := if delivered then call.sentCount + 1 else call.sentCount
              conclusions := call.conclusions ++ [⟨own, taken, outcome, row⟩] })
  | _, _ => none

end Sending

section Steps

/-- The service and the calls of it. -/
structure DeliveryState (Figures : Type) where
  service : DeliveryService Figures := {}
  calls : List (DeliveryCall Figures) := []

/-- A call begins, or a call makes its next move. -/
inductive DeliveryEvent (Figures : Type)
  | began (request : ReportRequest Figures) (now : Int)
  | moved (call : Nat) (m : Move)

variable (policy : BreakerPolicy)

/-- The state an event leaves. -/
def DeliveryState.after
    (s : DeliveryState Figures) : DeliveryEvent Figures → Option (DeliveryState Figures)
  | .began request now =>
      let sequenceNumber := s.service.sequenceNumbers request.mediaBuyId + 1
      some
        { service :=
            { s.service with
              sequenceNumbers :=
                upsertKey s.service.sequenceNumbers request.mediaBuyId sequenceNumber }
          calls := s.calls ++ [.begin request sequenceNumber now] }
  | .moved i m =>
      (s.calls[i]?).bind (fun call =>
        (s.service.move policy call m).map (fun moved =>
          { service := moved.1, calls := s.calls.set i moved.2 }))

/-- An event leads from one state to the next. -/
def DeliveryStep
    (s : DeliveryState Figures)
    (e : DeliveryEvent Figures)
    (t : DeliveryState Figures) : Prop :=
  s.after policy e = some t

variable {policy}

/-- A step begins a call, or moves one call and keeps the others. -/
theorem DeliveryStep.cases
    {s t : DeliveryState Figures} {e : DeliveryEvent Figures}
    (h : DeliveryStep policy s e t) :
    (∃ request now, e = .began request now ∧
      t.service = { s.service with sequenceNumbers := t.service.sequenceNumbers } ∧
      ∃ n, t.calls = s.calls ++ [.begin request n now]) ∨
    ∃ i m pre call post service moved,
      e = .moved i m ∧ s.calls[i]? = some call ∧ s.calls = pre ++ call :: post ∧
        s.service.move policy call m = some (service, moved) ∧
        t = ⟨service, pre ++ moved :: post⟩ := by
  cases e with
  | began request now =>
      left
      cases h
      exact ⟨request, now, rfl, rfl, _, rfl⟩
  | moved i m =>
      right
      obtain ⟨call, hcall, hmoved⟩ := Option.bind_eq_some_iff.mp h
      obtain ⟨⟨service, moved⟩, hmove, ht⟩ := Option.map_eq_some_iff.mp hmoved
      obtain ⟨pre, post, hsplit, -, hset⟩ := Parties.exists_split hcall
      refine ⟨i, m, pre, call, post, service, moved, rfl, hcall, hsplit, hmove, ?_⟩
      rw [← ht, hset]

end Steps

end Webhooks
end SalesAgent
