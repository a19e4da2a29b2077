import SalesAgent.Lib.Runs
import SalesAgent.Tasks.TaskManagement

/-!
# Listing tasks

A buyer lists its tasks, which are rows of `workflow_steps`, newest first.  The filter on the
status is translated to the one string that the repository takes, the rows are translated back,
and a page that holds a step of no known task fails as a whole, naming the step.  The request
carries no cursor that the tool reads.

**Results.**  `lists_tasks_iff`: which tasks a listing selects and counts, and what it shows.
-/

namespace SalesAgent
namespace Tasks

open Idempotency (Json)
open MediaBuys

section Listing

/-- The columns of a step that are only shown. -/
structure TaskColumns where
  contextId : String
  owner : String
  deriving DecidableEq, Repr

/-- The filters of `ListTasksRequest`. -/
structure TaskFilters where
  status : Option TaskStatus := none
  statuses : List TaskStatus := []
  taskType : Option String := none
  taskTypes : List String := []
  deriving DecidableEq, Repr

/-- `ListTasksRequest` -/
structure ListTasksRequest where
  filters : Option TaskFilters := none
  maxResults : Option Nat := none
  cursor : Option String := none
  deriving DecidableEq, Repr

/-- The status that is filtered by: the single one, else the first of several. -/
def ListTasksRequest.specStatus
    (req : ListTasksRequest) : Option TaskStatus :=
  req.filters.bind fun filters => filters.status.or filters.statuses.head?

/-- `limit` -/
def ListTasksRequest.limit
    (req : ListTasksRequest) : Nat :=
  match req.maxResults with
  | none => 20
  | some n => if n = 0 then 20 else n

/-- `_request_summary`: the operation, the buy and the purchase order of a request. -/
def requestSummary : Option Json → Option (Json × Json × Json)
  | some (.obj fields) =>
      if fields = [] then none
      else
        some ((fields.lookup "operation").getD .null, (fields.lookup "media_buy_id").getD .null,
          match fields.lookup "request" with
          | some (.obj nested) => (nested.lookup "po_number").getD .null
          | _ => .null)
  | _ => none

/-- `TaskSummary` -/
structure TaskSummary where
  taskId : String
  taskType : String
  domain : String
  status : TaskStatus
  createdAt : DateTime
  updatedAt : DateTime
  completedAt : Option DateTime
  contextId : String
  toolName : String
  owner : String
  associatedObjects : List ObjectWorkflowMapping
  errorMessage : Option String
  summary : Option (Json × Json × Json)

/-- `ListTasksResponse`; every response is complete and carries its total. -/
structure ListTasksResponse where
  tasks : List TaskSummary
  totalMatching : Nat
  returned : Nat
  hasMore : Bool

/-- `_list_tasks_response` -/
def listTasksResponse
    (tasks : List TaskSummary)
    (total limit offset : Nat) : ListTasksResponse where
  tasks := tasks
  totalMatching := total
  returned := tasks.length
  hasMore := decide (offset + limit < total)

variable (desk : Desk) (columns : String → TaskColumns)

/-- One row of the answer.  The error of a step without a task type is the raise of
`_spec_task_type`. -/
def taskSummary
    (task : WorkflowStep) : Except TaskError TaskSummary :=
  (specTaskType task.toolName).map fun taskType =>
    let p := desk.payload task.stepId
    { taskId := task.stepId
      taskType := taskType
      domain := "media-buy"
      status := specTaskStatus task.status
      createdAt := p.createdAt
      updatedAt := p.completedAt.getD p.createdAt
      completedAt := p.completedAt
      contextId := (columns task.stepId).contextId
      toolName := task.toolName
      owner := (columns task.stepId).owner
      associatedObjects := desk.store.mappings.filter (fun m => m.stepId = task.stepId)
      errorMessage := if task.status = .failed then p.errorMessage else none
      summary := requestSummary p.requestData }

/-- The steps that the filter logic of the repository selects. -/
def selectedSteps
    (tenantId principalId : String)
    (status : Option WorkflowStepStatus) : List WorkflowStep :=
  desk.store.steps.rows.filter fun task =>
    task.tenantId = tenantId && task.principalId = principalId
      && match status with
          | none => true
          | some status => task.status = status

/-- How the database orders the selected rows. -/
abbrev StepPlan :=
  List WorkflowStep → List WorkflowStep

/-- The plan keeps the rows and puts them newest first; ties are as they come. -/
def StepPlan.NewestFirst
    (plan : StepPlan)
    (desk : Desk) : Prop :=
  ∀ rows, (plan rows).Perm rows
    ∧ (plan rows).Pairwise fun task later =>
        (desk.payload later.stepId).createdAt ≤ (desk.payload task.stepId).createdAt

/-- `list_by_tenant` -/
def listByTenant
    (plan : StepPlan)
    (tenantId principalId : String)
    (status : Option WorkflowStepStatus)
    (offset limit : Nat) : List WorkflowStep :=
  ((plan (selectedSteps desk tenantId principalId status)).drop offset).take limit

/-- `count_by_tenant` -/
def countByTenant
    (tenantId principalId : String)
    (status : Option WorkflowStepStatus) : Nat :=
  (selectedSteps desk tenantId principalId status).length

/-- The page of a translated filter. -/
def listPage
    (plan : StepPlan)
    (tenantId principalId : String)
    (status : Option WorkflowStepStatus)
    (limit : Nat) : Except TaskError ListTasksResponse :=
  match (listByTenant desk plan tenantId principalId status 0 limit).mapM
      (taskSummary desk columns) with
  | .error refusal => .error refusal
  | .ok tasks =>
      .ok (listTasksResponse tasks (countByTenant desk tenantId principalId status) limit 0)

/-- `_list_tasks_impl` -/
def listTasks
    (plan : StepPlan)
    (tenantId principalId : String)
    (req : ListTasksRequest) : Except TaskError ListTasksResponse :=
  match req.specStatus with
  | none => listPage desk columns plan tenantId principalId none req.limit
  | some spec =>
      match specStatusToWorkflowStatus spec with
      | none => .ok (listTasksResponse [] 0 0 0)
      | some status => listPage desk columns plan tenantId principalId (some status) req.limit

end Listing

section Laws

variable {desk : Desk} {columns : String → TaskColumns} {plan : StepPlan}
variable {tenantId principalId : String} {req : ListTasksRequest}

/-- The statuses that a request asks for. -/
def ListTasksRequest.requested
    (req : ListTasksRequest) : List TaskStatus :=
  match req.filters with
  | none => []
  | some filters => filters.status.toList ++ filters.statuses

/-- The request asks for tasks of this status. -/
def ListTasksRequest.wants
    (req : ListTasksRequest)
    (status : TaskStatus) : Bool :=
  req.requested = [] || status ∈ req.requested

/-- The tasks of the caller with a status that is asked for. -/
def wantedSteps
    (desk : Desk)
    (tenantId principalId : String)
    (req : ListTasksRequest) : List WorkflowStep :=
  desk.store.steps.rows.filter fun task =>
    task.tenantId = tenantId && task.principalId = principalId
      && req.wants (specTaskStatus task.status)

/-- The step services a task of the buyer. -/
def Classified
    (task : WorkflowStep) : Prop :=
  task.toolName ∈ ["create_media_buy", "update_media_buy", "sync_creatives"]

/-- The listing as the protocol has it: each page is answered, counts the wanted tasks and shows
some of them as `get_task_status` does, and each wanted task is on a page. -/
structure ListsTasks
    (fits : Option Json → Bool)
    (desk : Desk)
    (columns : String → TaskColumns)
    (plan : StepPlan)
    (tenantId principalId : String)
    (req : ListTasksRequest) : Prop where
  answers :
    ∀ cursor, ∃ response,
      listTasks desk columns plan tenantId principalId { req with cursor := cursor } = .ok response
  counts :
    ∀ cursor response,
      listTasks desk columns plan tenantId principalId { req with cursor := cursor } = .ok response →
      response.totalMatching = (wantedSteps desk tenantId principalId req).length
  shows :
    ∀ cursor response,
      listTasks desk columns plan tenantId principalId { req with cursor := cursor } = .ok response →
      ∀ view ∈ response.tasks, ∃ task ∈ wantedSteps desk tenantId principalId req,
        view.taskId = task.stepId ∧ view.status = specTaskStatus task.status
  reaches :
    ∀ task ∈ wantedSteps desk tenantId principalId req, ∃ cursor response,
      listTasks desk columns plan tenantId principalId { req with cursor := cursor } = .ok response
        ∧ ∃ view ∈ response.tasks,
          view.taskId = task.stepId ∧ view.status = specTaskStatus task.status
  displays :
    ∀ task ∈ desk.store.steps, ∀ includeResult includeHistory view,
      getTaskStatus fits desk tenantId principalId task.stepId includeResult includeHistory
        = .ok view →
      view.status = specTaskStatus task.status

/-- One page holds the wanted tasks, each has a task type, and the first of the statuses that are
asked for is the only one among them and not `unknown`. -/
structure ListsWhole
    (desk : Desk)
    (tenantId principalId : String)
    (req : ListTasksRequest) : Prop where
  fits : (wantedSteps desk tenantId principalId req).length ≤ req.limit
  classified : ∀ task ∈ wantedSteps desk tenantId principalId req, Classified task
  firstOnly :
    ∀ spec, req.specStatus = some spec →
      ∀ task ∈ wantedSteps desk tenantId principalId req,
        spec ≠ .unknown ∧ specTaskStatus task.status = spec

/-- The filter on the status, as it reaches the rows. -/
def ListTasksRequest.selects
    (req : ListTasksRequest)
    (status : TaskStatus) : Bool :=
  match req.specStatus with
  | none => true
  | some spec => spec ≠ .unknown && status = spec

/-- The tasks of the caller that the filter lets through. -/
def shownSteps
    (desk : Desk)
    (tenantId principalId : String)
    (req : ListTasksRequest) : List WorkflowStep :=
  desk.store.steps.rows.filter fun task =>
    task.tenantId = tenantId && task.principalId = principalId
      && req.selects (specTaskStatus task.status)

/-- The first page of them. -/
def firstPage
    (desk : Desk)
    (plan : StepPlan)
    (tenantId principalId : String)
    (req : ListTasksRequest) : List WorkflowStep :=
  (plan (shownSteps desk tenantId principalId req)).take req.limit

theorem specTaskStatus_eq_iff
    {spec : TaskStatus}
    (hknown : spec ≠ .unknown)
    (status : WorkflowStepStatus) :
    specTaskStatus status = spec ↔ specStatusToWorkflowStatus spec = some status := by
  cases spec with
  | unknown => exact absurd rfl hknown
  | submitted => cases status <;> simp [specTaskStatus, specStatusToWorkflowStatus]
  | working => cases status <;> simp [specTaskStatus, specStatusToWorkflowStatus]
  | inputRequired => cases status <;> simp [specTaskStatus, specStatusToWorkflowStatus]
  | completed => cases status <;> simp [specTaskStatus, specStatusToWorkflowStatus]
  | canceled => cases status <;> simp [specTaskStatus, specStatusToWorkflowStatus]
  | failed => cases status <;> simp [specTaskStatus, specStatusToWorkflowStatus]
  | rejected => cases status <;> simp [specTaskStatus, specStatusToWorkflowStatus]
  | authRequired => cases status <;> simp [specTaskStatus, specStatusToWorkflowStatus]

theorem requested_of_specStatus_none
    (h : req.specStatus = none) :
    req.requested = [] := by
  rw [ListTasksRequest.specStatus] at h
  rw [ListTasksRequest.requested]
  cases hfilters : req.filters with
  | none => rfl
  | some filters =>
      rw [hfilters, Option.bind_some, Option.or_eq_none_iff, List.head?_eq_none_iff] at h
      show filters.status.toList ++ filters.statuses = []
      rw [h.1, h.2]
      rfl

theorem specStatus_mem_requested
    {spec : TaskStatus}
    (h : req.specStatus = some spec) :
    spec ∈ req.requested := by
  rw [ListTasksRequest.specStatus] at h
  rw [ListTasksRequest.requested]
  cases hfilters : req.filters with
  | none =>
      rw [hfilters] at h
      cases h
  | some filters =>
      rw [hfilters, Option.bind_some] at h
      show spec ∈ filters.status.toList ++ filters.statuses
      cases hstatus : filters.status with
      | some status =>
          rw [hstatus] at h
          cases h
          exact List.mem_cons_self
      | none =>
          rw [hstatus, Option.none_or] at h
          exact List.mem_append_right _ (List.mem_of_head? h)

theorem selects_iff
    {spec : TaskStatus}
    (hspec : req.specStatus = some spec)
    {status : TaskStatus} :
    req.selects status = true ↔ spec ≠ .unknown ∧ status = spec := by
  rw [ListTasksRequest.selects, hspec]
  exact Bool.and_eq_true_iff.trans (and_congr decide_eq_true_iff decide_eq_true_iff)

theorem wants_of_selects
    {status : TaskStatus}
    (h : req.selects status = true) :
    req.wants status = true := by
  rw [ListTasksRequest.wants, Bool.or_eq_true]
  cases hspec : req.specStatus with
  | none => exact .inl (decide_eq_true (requested_of_specStatus_none hspec))
  | some spec =>
      obtain ⟨-, rfl⟩ := (selects_iff hspec).mp h
      exact .inr (decide_eq_true (specStatus_mem_requested hspec))

theorem selectedSteps_eq
    {spec : TaskStatus}
    (hspec : req.specStatus = some spec)
    {status : WorkflowStepStatus}
    (hstatus : specStatusToWorkflowStatus spec = some status) :
    selectedSteps desk tenantId principalId (some status)
      = shownSteps desk tenantId principalId req := by
  have hknown : spec ≠ .unknown := by
    rintro rfl
    cases hstatus
  rw [selectedSteps, shownSteps]
  refine List.filter_congr fun task _ => ?_
  have hsame : decide (task.status = status) = req.selects (specTaskStatus task.status) := by
    refine Bool.eq_iff_iff.mpr ?_
    rw [decide_eq_true_iff, selects_iff hspec, specTaskStatus_eq_iff hknown, hstatus,
      Option.some.injEq, eq_comm, and_iff_right hknown]
  rw [← hsame]

theorem selectedSteps_all
    (hspec : req.specStatus = none) :
    selectedSteps desk tenantId principalId none
      = shownSteps desk tenantId principalId req := by
  rw [selectedSteps, shownSteps]
  refine List.filter_congr fun task _ => ?_
  rw [ListTasksRequest.selects, hspec]

theorem shownSteps_untranslated
    {spec : TaskStatus}
    (hspec : req.specStatus = some spec)
    (hstatus : specStatusToWorkflowStatus spec = none) :
    shownSteps desk tenantId principalId req = [] := by
  rw [shownSteps, List.filter_eq_nil_iff]
  intro task _ hshown
  obtain ⟨hknown, hsame⟩ := (selects_iff hspec).mp (Bool.and_eq_true_iff.mp hshown).2
  have hdisplayed := (specTaskStatus_eq_iff hknown task.status).mp hsame
  rw [hstatus] at hdisplayed
  cases hdisplayed

theorem shownSteps_sublist :
    (shownSteps desk tenantId principalId req).Sublist
      (wantedSteps desk tenantId principalId req) := by
  refine List.monotone_filter_right _ fun task hshown => ?_
  rw [Bool.and_eq_true] at hshown ⊢
  exact ⟨hshown.1, wants_of_selects hshown.2⟩

theorem shownSteps_eq_iff :
    shownSteps desk tenantId principalId req = wantedSteps desk tenantId principalId req
      ↔ ∀ spec, req.specStatus = some spec →
          ∀ task ∈ wantedSteps desk tenantId principalId req,
            spec ≠ .unknown ∧ specTaskStatus task.status = spec := by
  constructor
  · intro hsame spec hspec task hmem
    rw [← hsame] at hmem
    exact (selects_iff hspec).mp (Bool.and_eq_true_iff.mp (List.mem_filter.mp hmem).2).2
  · intro hfirst
    refine List.filter_congr fun task hmem => ?_
    refine Bool.eq_iff_iff.mpr ⟨fun hshown => ?_, fun hwanted => ?_⟩
    · rw [Bool.and_eq_true] at hshown ⊢
      exact ⟨hshown.1, wants_of_selects hshown.2⟩
    · have hselects : req.selects (specTaskStatus task.status) = true := by
        cases hspec : req.specStatus with
        | none => rw [ListTasksRequest.selects, hspec]
        | some spec =>
            exact (selects_iff hspec).mpr
              (hfirst spec hspec task (List.mem_filter.mpr ⟨hmem, hwanted⟩))
      rw [Bool.and_eq_true] at hwanted ⊢
      exact ⟨hwanted.1, hselects⟩

theorem wantedSteps_ids_nodup :
    ((wantedSteps desk tenantId principalId req).map WorkflowStep.stepId).Nodup := by
  refine List.pairwise_map.mpr ((desk.store.steps.unique.sublist List.filter_sublist).imp ?_)
  intro task other hkeys hsame
  exact hkeys _ rfl (congrArg some hsame.symm)

theorem taskSummary_ok
    {task : WorkflowStep}
    {view : TaskSummary}
    (h : taskSummary desk columns task = .ok view) :
    view.taskId = task.stepId ∧ view.status = specTaskStatus task.status := by
  rw [taskSummary] at h
  cases htype : specTaskType task.toolName with
  | error refusal =>
      rw [htype] at h
      cases h
  | ok taskType =>
      rw [htype] at h
      cases h
      exact ⟨rfl, rfl⟩

theorem specTaskType_of_classified
    {task : WorkflowStep}
    (h : Classified task) :
    specTaskType task.toolName = .ok task.toolName :=
  if_pos h

theorem taskSummary_of_classified
    {task : WorkflowStep}
    (h : Classified task) :
    ∃ view, taskSummary desk columns task = .ok view := by
  rw [taskSummary, specTaskType_of_classified h]
  exact ⟨_, rfl⟩

theorem classified_of_taskSummary
    {task : WorkflowStep}
    {view : TaskSummary}
    (h : taskSummary desk columns task = .ok view) :
    Classified task := by
  by_contra hnone
  have herror : specTaskType task.toolName = .error (.unknownTaskType task.toolName) :=
    if_neg hnone
  rw [taskSummary, herror] at h
  cases h

section Pages

variable {tasks : List WorkflowStep}

theorem summaries_of_classified
    (h : ∀ task ∈ tasks, Classified task) :
    ∃ views, tasks.mapM (taskSummary desk columns) = .ok views := by
  induction tasks with
  | nil => exact ⟨[], rfl⟩
  | cons task tasks ih =>
      obtain ⟨view, hview⟩ :=
        @taskSummary_of_classified desk columns task (h task List.mem_cons_self)
      obtain ⟨views, hviews⟩ := ih fun task hmem => h task (List.mem_cons_of_mem _ hmem)
      refine ⟨view :: views, ?_⟩
      rw [List.mapM_cons, hview, hviews]
      rfl

theorem summaries_shown
    {views : List TaskSummary}
    (h : tasks.mapM (taskSummary desk columns) = .ok views) :
    views.map (fun view => (view.taskId, view.status))
      = tasks.map fun task => (task.stepId, specTaskStatus task.status) := by
  induction tasks generalizing views with
  | nil =>
      cases h
      rfl
  | cons task tasks ih =>
      obtain ⟨view, rest, hview, hrest, rfl⟩ := Runs.mapM_cons_eq_ok.mp h
      obtain ⟨hid, hstatus⟩ := taskSummary_ok hview
      rw [List.map_cons, List.map_cons, ih hrest, hid, hstatus]

theorem classified_of_summaries
    {views : List TaskSummary}
    (h : tasks.mapM (taskSummary desk columns) = .ok views) :
    ∀ task ∈ tasks, Classified task := by
  induction tasks generalizing views with
  | nil => exact fun task hmem => absurd hmem List.not_mem_nil
  | cons task tasks ih =>
      obtain ⟨view, rest, hview, hrest, rfl⟩ := Runs.mapM_cons_eq_ok.mp h
      intro other hmem
      rcases List.mem_cons.mp hmem with rfl | hmem
      · exact classified_of_taskSummary hview
      · exact ih hrest other hmem

end Pages

theorem getStepById_eq_of_mem
    {task found : WorkflowStep}
    (hmem : task ∈ desk.store.steps)
    (hfound : desk.store.getStepById tenantId task.stepId = some found) :
    found = task := by
  rw [Store.getStepById] at hfound
  have hstored := (Option.filter_eq_some_iff.mp hfound).1
  obtain ⟨hmem', hkey⟩ := desk.store.steps.find_eq_some_iff.mp hstored
  exact desk.store.steps.eq_of_key_eq hmem' hmem hkey rfl

/-- A listing answers with the first page of the rows that pass the filter, whatever the
cursor. -/
theorem listTasks_eq
    (hplan : plan.NewestFirst desk)
    (cursor : Option String) :
    listTasks desk columns plan tenantId principalId { req with cursor := cursor }
      = match (firstPage desk plan tenantId principalId req).mapM (taskSummary desk columns) with
        | .error refusal => .error refusal
        | .ok tasks =>
            .ok
              { tasks := tasks
                totalMatching := (shownSteps desk tenantId principalId req).length
                returned := tasks.length
                hasMore :=
                  decide (req.limit < (shownSteps desk tenantId principalId req).length) } := by
  have hpage (status : Option WorkflowStepStatus)
      (h : selectedSteps desk tenantId principalId status
        = shownSteps desk tenantId principalId req) :
      listPage desk columns plan tenantId principalId status req.limit
        = match (firstPage desk plan tenantId principalId req).mapM (taskSummary desk columns) with
          | .error refusal => .error refusal
          | .ok tasks =>
              .ok
                { tasks := tasks
                  totalMatching := (shownSteps desk tenantId principalId req).length
                  returned := tasks.length
                  hasMore :=
                    decide (req.limit < (shownSteps desk tenantId principalId req).length) } := by
    have hrows : listByTenant desk plan tenantId principalId status 0 req.limit
        = firstPage desk plan tenantId principalId req := by
      rw [listByTenant, h, List.drop_zero, firstPage]
    rw [listPage, hrows, countByTenant, h]
    cases (firstPage desk plan tenantId principalId req).mapM (taskSummary desk columns) with
    | error refusal => rfl
    | ok tasks =>
        dsimp only [listTasksResponse]
        rw [Nat.zero_add]
  -- the request with another cursor has the same filters and the same limit
  change listTasks desk columns plan tenantId principalId req = _
  rw [listTasks]
  cases hspec : req.specStatus with
  | none => exact hpage none (selectedSteps_all hspec)
  | some spec =>
      dsimp only
      cases hstatus : specStatusToWorkflowStatus spec with
      | some status => exact hpage (some status) (selectedSteps_eq hspec hstatus)
      | none =>
          have hempty : shownSteps desk tenantId principalId req = [] :=
            shownSteps_untranslated hspec hstatus
          have hnopage : firstPage desk plan tenantId principalId req = [] := by
            rw [firstPage, hempty, (hplan []).1.eq_nil]
            exact List.take_nil
          rw [hnopage, hempty]
          rfl

/-- An answered listing is the page with its counts. -/
theorem listed
    (hplan : plan.NewestFirst desk)
    {cursor : Option String}
    {response : ListTasksResponse}
    (h : listTasks desk columns plan tenantId principalId { req with cursor := cursor }
      = .ok response) :
    response.totalMatching = (shownSteps desk tenantId principalId req).length
      ∧ (firstPage desk plan tenantId principalId req).mapM (taskSummary desk columns)
        = .ok response.tasks := by
  rw [listTasks_eq hplan] at h
  cases hviews : (firstPage desk plan tenantId principalId req).mapM
      (taskSummary desk columns) with
  | error refusal =>
      rw [hviews] at h
      cases h
  | ok views =>
      rw [hviews] at h
      cases h
      exact ⟨rfl, rfl⟩

theorem mem_firstPage
    (hplan : plan.NewestFirst desk)
    {task : WorkflowStep}
    (h : task ∈ firstPage desk plan tenantId principalId req) :
    task ∈ shownSteps desk tenantId principalId req :=
  (hplan _).1.mem_iff.mp (List.mem_of_mem_take h)

theorem mem_firstPage_of_fits
    (hplan : plan.NewestFirst desk)
    (hfits : (shownSteps desk tenantId principalId req).length ≤ req.limit)
    {task : WorkflowStep}
    (h : task ∈ shownSteps desk tenantId principalId req) :
    task ∈ firstPage desk plan tenantId principalId req := by
  rw [firstPage, List.take_of_length_le ((hplan _).1.length_eq.trans_le hfits)]
  exact (hplan _).1.mem_iff.mpr h

theorem mem_shown_iff
    {tasks : List WorkflowStep}
    {views : List TaskSummary}
    (h : tasks.mapM (taskSummary desk columns) = .ok views)
    (id : String)
    (status : TaskStatus) :
    (∃ view ∈ views, view.taskId = id ∧ view.status = status)
      ↔ ∃ task ∈ tasks, task.stepId = id ∧ specTaskStatus task.status = status := by
  have hmem : (id, status) ∈ views.map (fun view => (view.taskId, view.status))
      ↔ (id, status) ∈ tasks.map fun task => (task.stepId, specTaskStatus task.status) := by
    rw [summaries_shown h]
  simpa only [List.mem_map, Prod.mk.injEq] using hmem

/-- `get_task_status` displays a stored step with the status that listings select it by. -/
theorem getTaskStatus_displays
    {fits : Option Json → Bool}
    {task : WorkflowStep}
    (hmem : task ∈ desk.store.steps)
    {includeResult includeHistory : Bool}
    {view : TaskView}
    (h : getTaskStatus fits desk tenantId principalId task.stepId includeResult includeHistory
      = .ok view) :
    view.status = specTaskStatus task.status := by
  rw [getTaskStatus] at h
  cases hfound : desk.getByStepId tenantId principalId task.stepId with
  | none =>
      rw [hfound] at h
      cases h
  | some found =>
      rw [hfound] at h
      have hsame : found = task :=
        getStepById_eq_of_mem hmem (Option.filter_eq_some_iff.mp hfound).1
      subst hsame
      dsimp only at h
      cases htype : specTaskType found.toolName with
      | error refusal =>
          rw [htype] at h
          cases h
      | ok taskType =>
          rw [htype] at h
          dsimp only at h
          split at h
          · cases h
          · cases h
            rfl

theorem listsTasks_of_listsWhole
    {fits : Option Json → Bool}
    (hplan : plan.NewestFirst desk)
    (h : ListsWhole desk tenantId principalId req) :
    ListsTasks fits desk columns plan tenantId principalId req := by
  have hsame := shownSteps_eq_iff.mpr h.firstOnly
  have hfits := h.fits
  rw [← hsame] at hfits
  have hclassified : ∀ task ∈ firstPage desk plan tenantId principalId req, Classified task :=
    fun task hmem => h.classified task (hsame ▸ mem_firstPage hplan hmem)
  obtain ⟨views, hviews⟩ := @summaries_of_classified desk columns _ hclassified
  have hanswer (cursor : Option String) :
      ∃ response, listTasks desk columns plan tenantId principalId { req with cursor := cursor }
        = .ok response := by
    rw [listTasks_eq hplan, hviews]
    exact ⟨_, rfl⟩
  refine ⟨hanswer, fun cursor response hresponse => ?_, fun cursor response hresponse view hview => ?_,
    fun task hmem => ?_, fun task hmem _ _ view hview => getTaskStatus_displays hmem hview⟩
  · rw [(listed hplan hresponse).1, hsame]
  · obtain ⟨task, hpage, hid, hstatus⟩ :=
      (mem_shown_iff (listed hplan hresponse).2 _ _).mp ⟨view, hview, rfl, rfl⟩
    exact ⟨task, hsame ▸ mem_firstPage hplan hpage, hid.symm, hstatus.symm⟩
  · obtain ⟨response, hresponse⟩ := hanswer none
    refine ⟨none, response, hresponse, (mem_shown_iff (listed hplan hresponse).2 _ _).mpr ?_⟩
    exact ⟨task, mem_firstPage_of_fits hplan hfits (hsame.symm ▸ hmem), rfl, rfl⟩

theorem listsWhole_of_listsTasks
    {fits : Option Json → Bool}
    (hplan : plan.NewestFirst desk)
    (h : ListsTasks fits desk columns plan tenantId principalId req) :
    ListsWhole desk tenantId principalId req := by
  obtain ⟨response, hresponse⟩ := h.answers none
  obtain ⟨hcount, hpage⟩ := listed hplan hresponse
  have hlength : (shownSteps desk tenantId principalId req).length
      = (wantedSteps desk tenantId principalId req).length :=
    hcount.symm.trans (h.counts none response hresponse)
  have hsame : shownSteps desk tenantId principalId req
      = wantedSteps desk tenantId principalId req :=
    shownSteps_sublist.eq_of_length hlength
  -- every cursor gives the same page, so that one holds all wanted ids
  have hreached : (wantedSteps desk tenantId principalId req).map WorkflowStep.stepId
      ⊆ (firstPage desk plan tenantId principalId req).map WorkflowStep.stepId := by
    intro id hid
    obtain ⟨task, hmem, rfl⟩ := List.mem_map.mp hid
    obtain ⟨cursor, other, hother, hview⟩ := h.reaches task hmem
    obtain ⟨found, hfound, hsameId, -⟩ := (mem_shown_iff (listed hplan hother).2 _ _).mp hview
    exact List.mem_map.mpr ⟨found, hfound, hsameId⟩
  have hfits : (wantedSteps desk tenantId principalId req).length ≤ req.limit := by
    have hle := (List.subperm_of_subset wantedSteps_ids_nodup hreached).length_le
    rw [List.length_map, List.length_map] at hle
    exact hle.trans (List.length_take_le _ _)
  refine ⟨hfits, fun task hmem => ?_, shownSteps_eq_iff.mp hsame⟩
  refine classified_of_summaries hpage task (mem_firstPage_of_fits hplan ?_ (hsame.symm ▸ hmem))
  rw [hsame]
  exact hfits

/-- Exactly the listings that meet the conditions are as the protocol has them. -/
theorem lists_tasks_iff
    (fits : Option Json → Bool)
    (desk : Desk)
    (columns : String → TaskColumns)
    (plan : StepPlan)
    (tenantId principalId : String)
    (req : ListTasksRequest)
    (hplan : plan.NewestFirst desk) :
    ListsTasks fits desk columns plan tenantId principalId req
      ↔ ListsWhole desk tenantId principalId req :=
  ⟨listsWhole_of_listsTasks hplan, listsTasks_of_listsWhole hplan⟩

end Laws

section Samples

/-- A desk of the steps of one buyer. -/
def deskOf
    (steps : IndexedTable WorkflowStep String WorkflowStep.primaryKey) : Desk where
  store := { Store.empty with steps := steps }
  payload := fun _ => { createdAt := 0 }

/-- A create that is pending and one that is done. -/
def twoCreates : IndexedTable WorkflowStep String WorkflowStep.primaryKey where
  rows := [⟨"step_1", "tenant", "buyer", "create_media_buy", .pending⟩,
    ⟨"step_2", "tenant", "buyer", "create_media_buy", .completed⟩]
  unique := by decide

/-- An update that was approved and a pending create. -/
def approvedUpdate : IndexedTable WorkflowStep String WorkflowStep.primaryKey where
  rows := [⟨"step_1", "tenant", "buyer", "create_media_buy", .pending⟩,
    ⟨"step_2", "tenant", "buyer", "update_media_buy", .approved⟩]
  unique := by decide

/-- A create beside the step of an adapter. -/
def adapterStep : IndexedTable WorkflowStep String WorkflowStep.primaryKey where
  rows := [⟨"step_1", "tenant", "buyer", "create_media_buy", .pending⟩,
    ⟨"step_2", "tenant", "buyer", "activate_gam_order", .pending⟩]
  unique := by decide

theorem newestFirst_id
    (steps : IndexedTable WorkflowStep String WorkflowStep.primaryKey) :
    StepPlan.NewestFirst id (deskOf steps) :=
  fun rows => ⟨List.Perm.refl rows, List.pairwise_of_forall fun _ _ => le_refl (0 : Int)⟩

/-- The columns that are only shown, in the samples. -/
def noColumns : String → TaskColumns :=
  fun _ => ⟨"ctx", "principal"⟩

/-- Many pending creates. -/
def manyCreates
    (n : Nat) : IndexedTable WorkflowStep String WorkflowStep.primaryKey where
  rows := (List.range n).map fun i =>
    ⟨String.ofList (List.replicate i 'x'), "tenant", "buyer", "create_media_buy", .pending⟩
  unique := by
    refine List.pairwise_map.mpr (List.nodup_range.imp ?_)
    intro i j hne k hi hj
    have hsame := String.ofList_injective (Option.some.inj (hi.trans hj.symm))
    exact hne (List.replicate_left_injective 'x' hsame)

/-- Two creates are listed by one status; of 75, twenty to a page, most are never listed. -/
theorem lists_tasks_iff_sample :
    ListsTasks (fun _ => true) (deskOf twoCreates) noColumns id "tenant" "buyer"
        { filters := some { status := some .completed } }
      ∧ ¬ ListsTasks (fun _ => true) (deskOf (manyCreates 75)) noColumns id "tenant" "buyer"
        { maxResults := some 20 } := by
  constructor
  · refine (lists_tasks_iff _ _ noColumns id "tenant" "buyer" _
      (newestFirst_id twoCreates)).mpr ⟨by decide, ?_, ?_⟩
    · unfold Classified
      decide
    · rintro spec ⟨⟩ task hmem
      revert task
      decide
  · intro h
    have hfits := ((lists_tasks_iff _ _ noColumns id "tenant" "buyer" _
      (newestFirst_id (manyCreates 75))).mp h).fits
    have hcount : (wantedSteps (deskOf (manyCreates 75)) "tenant" "buyer"
        { maxResults := some 20 }).length = 75 := by rfl
    rw [hcount] at hfits
    exact absurd hfits (by decide)

/-- Counterexample: 75 tasks are listed twenty to a page, no cursor leads to another page, and the
last task is on none.  A step of an adapter fails the listing that would show the buyer's task; two
statuses are cut to the first; and approved steps are displayed as unknown and not listed as
unknown. -/
theorem listing_hides_tasks :
    (∃ shown, String.ofList (List.replicate 74 'x') ∉ shown
        ∧ ∀ cursor, (listTasks (deskOf (manyCreates 75)) noColumns id "tenant" "buyer"
          { maxResults := some 20, cursor := cursor }).toOption.map
            (fun response => (response.totalMatching, response.tasks.map TaskSummary.taskId))
              = some (75, shown))
      ∧ (listTasks (deskOf adapterStep) noColumns id "tenant" "buyer" {}).toOption.isNone = true
      ∧ (listTasks (deskOf twoCreates) noColumns id "tenant" "buyer"
          { filters := some { statuses := [.submitted, .completed] } }).toOption.map
            ListTasksResponse.totalMatching = some 1
      ∧ (specTaskStatus .approved = .unknown
        ∧ (listTasks (deskOf approvedUpdate) noColumns id "tenant" "buyer"
          { filters := some { status := some .unknown } }).toOption.map
            ListTasksResponse.totalMatching = some 0) := by
  refine ⟨⟨_, ?_, fun cursor => by rfl⟩, by rfl, by rfl, rfl, by rfl⟩
  decide +kernel

end Samples

end Tasks
end SalesAgent
