import SalesAgent.MediaBuy.Approval
import SalesAgent.MediaBuy.HeldBuys

/-!
# The task tools and the approval pages

Buyers follow a long-running operation as a task, which is a row of `workflow_steps`.
`list_tasks` and `get_task_status` read it under the protocol's names of its status;
`complete_task` finishes it by hand.  `complete_task` checks the step it read and
writes the step afterwards, and nothing keeps others from writing in between.

A desk is the store with the remaining columns of the steps, the calls of
`complete_task` that have checked and not yet written, and what the approval pages
announced to buyers.

**Results.**
* `StepsKept`: what a tool that works on a step of its own leaves alone.
* `createMediaBuy_stepsKept`, `updateMediaBuy_stepsKept`: the two tools do.
-/

namespace SalesAgent
namespace Tasks

open Idempotency (Json)
open MediaBuys

/-- The statuses a task is reported with. -/
inductive TaskStatus
  | submitted
  | working
  | inputRequired
  | completed
  | canceled
  | failed
  | rejected
  | authRequired
  | unknown
  deriving DecidableEq, Repr

/-- `_SPEC_STATUS_TO_WORKFLOW_STATUS`. -/
def specStatusToWorkflowStatus : TaskStatus → Option WorkflowStepStatus
  | .submitted => some .pending
  | .working => some .inProgress
  | .inputRequired => some .requiresApproval
  | .completed => some .completed
  | .failed => some .failed
  | .canceled => none
  | .rejected => none
  | .authRequired => none
  | .unknown => none

/-- `_WORKFLOW_STATUS_TO_SPEC_STATUS` with its default. -/
def specTaskStatus : WorkflowStepStatus → TaskStatus
  | .pending => .submitted
  | .inProgress => .working
  | .requiresApproval => .inputRequired
  | .completed => .completed
  | .failed => .failed
  | _ => .unknown

/-- The columns of a step that the store leaves out. -/
structure StepPayload where
  createdAt : DateTime
  completedAt : Option DateTime := none
  requestData : Option Json := none
  responseData : Option Json := none
  errorMessage : Option String := none

/-- The statuses `complete_task` sets. -/
inductive CompletionStatus
  | completed
  | failed
  deriving DecidableEq, Repr

/-- The status as it is stored. -/
def CompletionStatus.stored : CompletionStatus → WorkflowStepStatus
  | .completed => .completed
  | .failed => .failed

/-- A call of `complete_task` that has read the step. -/
structure Completion where
  tenantId : String
  principalId : String
  taskId : String
  status : CompletionStatus
  responseData : Option Json := none
  errorMessage : Option String := none
  completedTime : DateTime

/-- A notification of the outcome of a task. -/
structure Announcement where
  url : String
  taskId : String
  status : TaskStatus
  deriving DecidableEq, Repr

/-- The store, the other columns of its steps, the calls in progress, what was announced. -/
structure Desk where
  store : Store
  payload : String → StepPayload
  inFlight : List Completion := []
  announced : List Announcement := []

/-- The statuses `complete_task` accepts. -/
def completable : WorkflowStepStatus → Bool
  | .pending => true
  | .inProgress => true
  | .requiresApproval => true
  | _ => false

/-- The step is there and `complete_task` would accept its status. -/
def Desk.Unfinished
    (desk : Desk)
    (taskId : String) : Prop :=
  ∃ s, desk.store.steps.find taskId = some s ∧ completable s.status = true

/-- The step is there and `complete_task` would not accept its status. -/
def Desk.Finished
    (desk : Desk)
    (taskId : String) : Prop :=
  ∃ s, desk.store.steps.find taskId = some s ∧ completable s.status = false

/-- `get_by_step_id`, narrowed to a principal. -/
def Desk.getByStepId
    (desk : Desk)
    (tenantId principalId taskId : String) : Option WorkflowStep :=
  (desk.store.getStepById tenantId taskId).filter (fun s => s.principalId = principalId)

/-- Why a task tool refuses. -/
inductive TaskError
  | taskNotFound
  | conflict (status : WorkflowStepStatus)
  | unknownTaskType (toolName : String)
  | invalidResult
  deriving DecidableEq, Repr

/-- `_TASK_TYPE_BY_TOOL`. -/
def specTaskType
    (toolName : String) : Except TaskError String :=
  if toolName ∈ ["create_media_buy", "update_media_buy", "sync_creatives"] then
    .ok toolName
  else
    .error (.unknownTaskType toolName)

/-- A task as `get_task_status` reports it. -/
structure TaskView where
  taskId : String
  taskType : String
  status : TaskStatus
  createdAt : DateTime
  updatedAt : DateTime
  completedAt : Option DateTime
  requestData : Option Json
  errorMessage : Option String
  associatedObjects : List ObjectWorkflowMapping
  result : Option Json
  history : List (DateTime × String × Json)

/-- `_task_history`: an exchange that has not happened is left out. -/
def taskHistory
    (p : StepPayload) : List (DateTime × String × Json) :=
  (p.requestData.map (fun data => (p.createdAt, "request", data))).toList ++
    (p.completedAt.bind (fun t => p.responseData.map (fun data => (t, "response", data)))).toList

/-- `_get_task_status_impl`.  `fits` says of a stored response whether
`AdcpAsyncResponseData.model_validate` takes it. -/
def getTaskStatus
    (fits : Option Json → Bool)
    (desk : Desk)
    (tenantId principalId taskId : String)
    (includeResult includeHistory : Bool) : Except TaskError TaskView :=
  match desk.getByStepId tenantId principalId taskId with
  | none => .error .taskNotFound
  | some task =>
      match specTaskType task.toolName with
      | .error refusal => .error refusal
      | .ok taskType =>
          let p := desk.payload taskId
          if includeResult ∧ task.status = .completed ∧ fits p.responseData = false then
            .error .invalidResult
          else
            .ok
              { taskId := task.stepId
                taskType := taskType
                status := specTaskStatus task.status
                createdAt := p.createdAt
                updatedAt := p.completedAt.getD p.createdAt
                completedAt := p.completedAt
                requestData := p.requestData
                errorMessage := p.errorMessage
                associatedObjects := desk.store.mappings.filter (fun m => m.stepId = taskId)
                result := if includeResult ∧ task.status = .completed then p.responseData else none
                history := if includeHistory then taskHistory p else [] }

/-- The check of `_complete_task_impl`, before anything is written. -/
def checkCompletion
    (desk : Desk)
    (c : Completion) : Except TaskError Unit :=
  match desk.getByStepId c.tenantId c.principalId c.taskId with
  | none => .error .taskNotFound
  | some task =>
      if completable task.status then .ok () else .error (.conflict task.status)

/-- `response_data or …`, `error_message or …`: an empty value gives way to the default. -/
def orDefault {α : Type}
    (empty : α → Bool)
    (default : α)
    (given : Option α) : α :=
  ((given.filter fun value => !empty value)).getD default

/-- The response is `{}`. -/
def emptyResponse : Json → Bool
  | .obj [] => true
  | _ => false

/-- What `update_status` writes to the other columns. -/
def Completion.write
    (c : Completion)
    (p : StepPayload) : StepPayload :=
  match c.status with
  | .completed =>
      { p with
        completedAt := some c.completedTime
        responseData := some (orDefault emptyResponse
          (.obj [("manually_completed", .bool true), ("completed_by", .str c.principalId)])
          c.responseData)
        errorMessage := none }
  | .failed =>
      { p with
        completedAt := some c.completedTime
        responseData := c.responseData.or p.responseData
        errorMessage := some (orDefault String.isEmpty "Task marked as failed manually"
          c.errorMessage) }

/-- Write the other columns of a step. -/
def Desk.writePayload
    (desk : Desk)
    (taskId : String)
    (change : StepPayload → StepPayload) : Desk :=
  { desk with payload := Function.update desk.payload taskId (change (desk.payload taskId)) }

/-- `_complete_task_impl` up to its write. -/
def readCompletion
    (desk : Desk)
    (c : Completion) : Desk :=
  match checkCompletion desk c with
  | .error _ => desk
  | .ok _ => { desk with inFlight := desk.inFlight ++ [c] }

/-- The write of `_complete_task_impl`, for a call in progress. -/
def writeCompletion
    (desk : Desk)
    (before after : List Completion)
    (c : Completion) : Desk :=
  { desk.writePayload c.taskId c.write with
    store := desk.store.updateWorkflowStep c.taskId c.status.stored
    inFlight := before ++ after }

section Pages

/-- The endpoint the request registered for the outcome. -/
def pushUrl
    (requestData : Option Json) : Option String :=
  match requestData with
  | some (.obj fields) =>
      match fields.lookup "push_notification_config" with
      | some (.obj config) =>
          match config.lookup "url" with
          | some (.str url) => if url = "" then none else some url
          | _ => none
      | _ => none
  | _ => none

/-- The page of a buy with what it looks up for notifications. -/
structure PageEnv where
  execute : ExecuteEnv
  /-- whether an active registration of the principal names the endpoint -/
  hasPushConfig : String → String → Bool

/-- The announcement of a page, where the request registered an endpoint. -/
def announcement
    (env : PageEnv)
    (desk : Desk)
    (taskId mediaBuyId : String)
    (status : TaskStatus) : List Announcement :=
  match desk.store.getById env.execute.tenantId mediaBuyId,
      pushUrl (desk.payload taskId).requestData with
  | some b, some url =>
      if env.hasPushConfig b.principalId url then [⟨url, taskId, status⟩] else []
  | _, _ => []

/-- `approve_media_buy` with the action to approve. -/
def approveOnBuyPage
    (env : PageEnv)
    (mediaBuyId : String)
    (desk : Desk) : Desk :=
  match desk.store.pendingStepOf env.execute.tenantId mediaBuyId with
  | none => desk
  | some step =>
      let outcome := approveMediaBuy env.execute desk.store mediaBuyId
      let executed := outcome.execution.any (fun e => e.2.result.outcome = .executed)
      { desk with
        store := outcome.store
        announced := desk.announced ++
          (if executed then announcement env desk step.stepId mediaBuyId .completed else []) }

/-- `approve_media_buy` with the action to reject. -/
def rejectOnBuyPage
    (env : PageEnv)
    (mediaBuyId reason : String)
    (desk : Desk) : Desk :=
  match desk.store.pendingStepOf env.execute.tenantId mediaBuyId with
  | none => desk
  | some step =>
      let message := if reason = "" then "Rejected by administrator" else reason
      { desk.writePayload step.stepId (fun p => { p with errorMessage := some message }) with
        store := (rejectMediaBuy env.execute desk.store mediaBuyId).store
        announced := desk.announced ++ announcement env desk step.stepId mediaBuyId .rejected }

/-- `approve_workflow_step`. -/
def approveOnWorkflowPage
    (env : ExecuteEnv)
    (taskId : String)
    (desk : Desk) : Desk :=
  { desk with store := (approveWorkflowStep env desk.store taskId).store }

/-- `reject_workflow_step`. -/
def rejectOnWorkflowPage
    (env : ExecuteEnv)
    (taskId reason : String)
    (desk : Desk) : Desk :=
  match desk.store.getStepById env.tenantId taskId with
  | none => desk
  | some _ =>
      { desk.writePayload taskId (fun p => { p with errorMessage := some reason }) with
        store := (rejectWorkflowStep env desk.store taskId).store }

end Pages

/-- `_create_sync_workflow_steps`: one waiting step for each creative that needs approval,
under fresh ids, mapped to the creative. -/
def createSyncWorkflowSteps
    (tenantId principalId : String)
    (needing : List (String × String))
    (store : Store) : Store :=
  needing.foldl
    (fun store entry =>
      (store.createWorkflowStep
        { stepId := entry.1
          tenantId := tenantId
          principalId := principalId
          toolName := "sync_creatives"
          status := .requiresApproval }).linkWorkflowToObject
        { stepId := entry.1
          objectType := "creative"
          objectId := entry.2
          action := "approval_required" })
    store

/-- Only steps under the given ids were written or mapped. -/
structure StepsKept
    (own : String → Prop)
    (before after : Store) : Prop where
  steps : ∀ id, ¬ own id → after.steps.find id = before.steps.find id
  mappings : ∃ added, after.mappings = before.mappings ++ added ∧ ∀ m ∈ added, own m.stepId

namespace StepsKept

variable {own : String → Prop} {before after last : Store}

theorem of_eq
    (hsteps : after.steps = before.steps)
    (hmappings : after.mappings = before.mappings) :
    StepsKept own before after where
  steps := fun id _ => by rw [hsteps]
  mappings := ⟨[], by rw [hmappings, List.append_nil], fun m hm => absurd hm List.not_mem_nil⟩

theorem refl
    (store : Store) :
    StepsKept own store store :=
  of_eq rfl rfl

theorem rows
    (h : StepsKept own before after)
    (rows : BuyRows) :
    StepsKept own before { after with toBuyRows := rows } :=
  ⟨h.steps, h.mappings⟩

theorem created
    (h : StepsKept own before after)
    {step : WorkflowStep}
    (hown : own step.stepId) :
    StepsKept own before (after.createWorkflowStep step) where
  steps := fun id hid => by
    have hne : step.stepId ≠ id := by
      rintro rfl
      exact hid hown
    refine (IndexedTable.find_put_of_ne _ ?_).trans (h.steps id hid)
    simpa [WorkflowStep.primaryKey] using hne
  mappings := h.mappings

theorem updated
    (h : StepsKept own before after)
    {stepId : String}
    (hown : own stepId)
    (status : WorkflowStepStatus) :
    StepsKept own before (after.updateWorkflowStep stepId status) where
  steps := fun id hid => by
    have hne : id ≠ stepId := by
      rintro rfl
      exact hid hown
    exact (IndexedTable.find_modify_of_ne _ _ (WorkflowStep.primaryKey_withStatus status)
      hne).trans (h.steps id hid)
  mappings := h.mappings

theorem linked
    (h : StepsKept own before after)
    {m : ObjectWorkflowMapping}
    (hown : own m.stepId) :
    StepsKept own before (after.linkWorkflowToObject m) where
  steps := h.steps
  mappings := by
    obtain ⟨added, heq, hadded⟩ := h.mappings
    refine ⟨added ++ [m], ?_, ?_⟩
    · change after.mappings ++ [m] = _
      rw [heq, List.append_assoc]
    · intro m' hm'
      rcases List.mem_append.mp hm' with hm' | hm'
      · exact hadded m' hm'
      · rw [List.mem_singleton.mp hm']
        exact hown

theorem stepLinked
    (h : StepsKept own before after)
    (tenantId : String)
    (m : ObjectWorkflowMapping)
    (hown : own m.stepId) :
    StepsKept own before (after.linkStepToObject tenantId m) := by
  unfold Store.linkStepToObject
  split_ifs
  · exact h.linked hown
  · exact h

theorem mediaBuyOfStep
    (h : StepsKept own before after)
    {stepId mediaBuyId : String}
    (hmapped : before.mediaBuyOfStep stepId = some mediaBuyId) :
    after.mediaBuyOfStep stepId = some mediaBuyId := by
  obtain ⟨added, heq, -⟩ := h.mappings
  unfold Store.mediaBuyOfStep at hmapped ⊢
  obtain ⟨m, hm, hobject⟩ := Option.map_eq_some_iff.mp hmapped
  rw [heq, List.find?_append, hm]
  simpa using hobject

end StepsKept

section Tools

variable {env : CreateEnv} {req : CreateRequest} {store reached : Store}
  {ids : GeneratedIds store}

theorem failCreate_stepsKept
    {order : Option AdapterCreateResult} {err : BuyerError}
    (h : StepsKept (· = ids.stepId) store reached) :
    StepsKept (· = ids.stepId) store (failCreate ids order err reached).store :=
  h.updated rfl .failed

theorem createPending_stepsKept
    {packages : List PackageRequest}
    (h : StepsKept (· = ids.stepId) store reached) :
    StepsKept (· = ids.stepId) store (createPending env req ids packages reached).store := by
  have hpending : StepsKept (· = ids.stepId) store
      (reached.updateWorkflowStep ids.stepId .requiresApproval) := h.updated rfl _
  unfold createPending
  split
  · exact failCreate_stepsKept h
  · dsimp only
    split
    · exact failCreate_stepsKept hpending
    · split
      · exact failCreate_stepsKept (hpending.rows _)
      · next packaged _ =>
          have hlinked := (hpending.rows packaged).stepLinked env.tenantId
            (createMapping ids ids.mediaBuyId) rfl
          split
          · exact failCreate_stepsKept hlinked
          · exact hlinked.rows _

theorem storeOrder_stepsKept
    {packages : List PackageRequest} {ordered : List PricedPackage} {order : AdapterCreateResult}
    {booked : BuyRows}
    (h : StepsKept (· = ids.stepId) store reached) :
    StepsKept (· = ids.stepId) store
      (storeOrder env ids packages ordered order booked reached).store := by
  unfold storeOrder
  dsimp only
  split
  · exact failCreate_stepsKept (h.rows _)
  · split
    · exact failCreate_stepsKept (h.rows _)
    · split
      · exact failCreate_stepsKept (h.rows _)
      · split
        · exact failCreate_stepsKept (h.rows _)
        · next assigned _ =>
            split
            · exact failCreate_stepsKept (h.rows _)
            · exact ((h.rows assigned).stepLinked env.tenantId
                (createMapping ids order.mediaBuyId) rfl).updated rfl _

theorem createOrdered_stepsKept
    {packages : List PackageRequest}
    (h : StepsKept (· = ids.stepId) store reached) :
    StepsKept (· = ids.stepId) store (createOrdered env req ids packages reached).store := by
  unfold createOrdered
  split
  · exact failCreate_stepsKept h
  · dsimp only
    split
    · exact failCreate_stepsKept h
    · split
      · exact failCreate_stepsKept h
      · split
        · exact failCreate_stepsKept h
        · exact storeOrder_stepsKept h

/-- A create writes and maps no step but its own. -/
theorem createMediaBuy_stepsKept
    (env : CreateEnv)
    (req : CreateRequest)
    (ids : GeneratedIds store) :
    StepsKept (· = ids.stepId) store (createMediaBuy env req ids).store := by
  have hstarted : StepsKept (· = ids.stepId) store (store.createWorkflowStep (createStep env ids)) :=
    (StepsKept.refl store).created rfl
  unfold createMediaBuy
  split
  · exact .refl store
  · dsimp only
    split
    · exact failCreate_stepsKept hstarted
    · split
      · exact failCreate_stepsKept (hstarted.rows _)
      · split_ifs
        · exact createPending_stepsKept (hstarted.rows _)
        · exact failCreate_stepsKept (hstarted.rows _)
        · exact (hstarted.rows _).updated rfl _
        · exact createOrdered_stepsKept (hstarted.rows _)

/-- An update writes and maps no step but its own. -/
theorem updateMediaBuy_stepsKept
    (env : UpdateEnv)
    (req : UpdateRequest)
    (store : Store) :
    StepsKept (· = env.stepId) store (updateMediaBuy env req store).store := by
  have hstarted : StepsKept (· = env.stepId) store (store.createWorkflowStep (updateStep env)) :=
    (StepsKept.refl store).created rfl
  unfold updateMediaBuy
  split
  · exact .refl store
  · dsimp only
    split
    · exact hstarted.updated rfl _
    · split_ifs
      · exact (hstarted.updated rfl _).linked rfl
      · split
        · exact hstarted.updated rfl _
        · split
          · exact (hstarted.updated rfl _).rows _
          · split
            · exact (hstarted.updated rfl _).rows _
            · exact ((hstarted.updated rfl _).rows _).linked rfl

theorem createSyncWorkflowSteps_stepsKept
    {own : String → Prop} {tenantId principalId : String} {needing : List (String × String)}
    {before after : Store}
    (hown : ∀ entry ∈ needing, own entry.1)
    (h : StepsKept own before after) :
    StepsKept own before (createSyncWorkflowSteps tenantId principalId needing after) := by
  unfold createSyncWorkflowSteps
  induction needing generalizing after with
  | nil =>
      exact h
  | cons entry needing ih =>
      have hentry := hown entry List.mem_cons_self
      rw [List.foldl_cons]
      refine ih (fun e he => hown e (List.mem_cons_of_mem entry he)) ?_
      exact (h.created hentry).linked hentry

end Tools

end Tasks
end SalesAgent
