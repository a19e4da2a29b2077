import SalesAgent.MediaBuy.Releases
import SalesAgent.Tasks.HumanDecisions

/-!
# What a buyer learns of its submitted create

A submitted create is a step that waits.  Its buyer polls `get_task_status`, and is
notified by the page of the buy where its request registered an endpoint.  A decision
writes the step as approved or rejected; the table of reported statuses has neither.

The page of the buy writes the first waiting step of the buy, which may be one of an
update.  A buy that a creative held at its approval is executed when the creative is
approved, and a buy that waits when another step that is mapped to it is.

**Results.**
* `decision_effect`: what each decision does to the step, and what it announces.
* `reached_of_run`: what is reported after any history.
* `submitted_truthful_iff`: the histories that are reported and announced as they happened.
-/

namespace SalesAgent
namespace Tasks

open MediaBuys
open Runs (Run)

/-- A submitted create: its buyer, its step and the id of its buy. -/
structure Submission where
  tenantId : String
  principalId : String
  taskId : String
  mediaBuyId : String

/-- The status `get_task_status` reports, where it answers; no result is asked for. -/
def Submission.report
    (sub : Submission)
    (desk : Desk) : Option TaskStatus :=
  match getTaskStatus (fun _ => true) desk sub.tenantId sub.principalId sub.taskId false false with
  | .ok view => some view.status
  | .error _ => none

/-- A decision on a submitted create. -/
structure OutcomeEvent where
  action : AdminAction
  /-- the page found a step -/
  decided : Bool
  /-- and it is the step of the create -/
  ours : Bool
  /-- a buy that waits for approval belongs to the decision -/
  pending : Bool
  /-- the creative gate holds that buy -/
  holds : Bool
  /-- how the execution ended, where there was one -/
  result : Option ApprovalOutcome
  /-- what is reported before and after it -/
  before : Option TaskStatus
  after : Option TaskStatus
  announced : List Announcement

/-- The creative gate holds the buy. -/
def gateHolds
    (env : ExecuteEnv)
    (store : Store)
    (mediaBuyId : String) : Bool :=
  env.tenantExists && store.toBuyRows.unapproved env.tenantId mediaBuyId ≠ []

/-- The record of a decision that concerns a buy. -/
def Submission.event
    (sub : Submission)
    (action : AdminAction)
    (found : Option WorkflowStep)
    (target : Option String)
    (env : ExecuteEnv)
    (result : Option ApprovalOutcome)
    (desk desk' : Desk) : OutcomeEvent where
  action := action
  decided := found.isSome
  ours := found.any (fun s => s.stepId = sub.taskId)
  pending := target.any
    (fun b => statusOf env.tenantId b desk.store.toBuyRows = some .pendingApproval)
  holds := target.any (fun b => gateHolds env desk.store b)
  result := result
  before := sub.report desk
  after := sub.report desk'
  announced := (desk'.announced.drop desk.announced.length).filter (fun a => a.taskId = sub.taskId)

/-- The result of an execution. -/
def AdminOutcome.result
    (outcome : AdminOutcome) : Option ApprovalOutcome :=
  outcome.execution.map (fun e => e.2.result.outcome)

/-- The decisions on a submitted create: those of the page of its buy, and those of the page
of the workflow on its step. -/
inductive Decision
    (sub : Submission) : Desk → OutcomeEvent → Desk → Prop
  | approveOnBuyPage {desk : Desk} (env : PageEnv)
      (htenant : env.execute.tenantId = sub.tenantId) :
      Decision sub desk
        (sub.event .approveOnBuyPage
          (desk.store.pendingStepOf env.execute.tenantId sub.mediaBuyId)
          (some sub.mediaBuyId) env.execute
          (AdminOutcome.result (approveMediaBuy env.execute desk.store sub.mediaBuyId))
          desk (approveOnBuyPage env sub.mediaBuyId desk))
        (approveOnBuyPage env sub.mediaBuyId desk)
  | rejectOnBuyPage {desk : Desk} (env : PageEnv) (reason : String)
      (htenant : env.execute.tenantId = sub.tenantId) :
      Decision sub desk
        (sub.event .rejectOnBuyPage
          (desk.store.pendingStepOf env.execute.tenantId sub.mediaBuyId)
          (some sub.mediaBuyId) env.execute
          (AdminOutcome.result (rejectMediaBuy env.execute desk.store sub.mediaBuyId))
          desk (rejectOnBuyPage env sub.mediaBuyId reason desk))
        (rejectOnBuyPage env sub.mediaBuyId reason desk)
  | approveOnWorkflowPage {desk : Desk} (env : ExecuteEnv)
      (htenant : env.tenantId = sub.tenantId) :
      Decision sub desk
        (sub.event .approveOnWorkflowPage
          (desk.store.getStepById env.tenantId sub.taskId)
          (desk.store.mediaBuyOfStep sub.taskId) env
          (AdminOutcome.result (approveWorkflowStep env desk.store sub.taskId))
          desk (approveOnWorkflowPage env sub.taskId desk))
        (approveOnWorkflowPage env sub.taskId desk)
  | rejectOnWorkflowPage {desk : Desk} (env : ExecuteEnv) (reason : String)
      (htenant : env.tenantId = sub.tenantId) :
      Decision sub desk
        (sub.event .rejectOnWorkflowPage
          (desk.store.getStepById env.tenantId sub.taskId)
          (desk.store.mediaBuyOfStep sub.taskId) env
          (AdminOutcome.result (rejectWorkflowStep env desk.store sub.taskId))
          desk (rejectOnWorkflowPage env sub.taskId reason desk))
        (rejectOnWorkflowPage env sub.taskId reason desk)

/-- What an operation on something else does to the buy of a create. -/
structure OtherExecution where
  /-- the operation takes the buy up -/
  reached : Bool
  /-- the creative gate holds the buy -/
  holds : Bool
  /-- how its executions of the buy ended -/
  results : List ApprovalOutcome

/-- How the executions of a buy end, of those that an approved creative starts. -/
def releaseResults
    (mediaBuyId : String) :
    List (String × ExecuteEnv) → BuyRows → List ApprovalOutcome
  | [], _ => []
  | e :: executions, rows =>
      let executed := executeApprovedMediaBuy e.2 e.1 rows
      let rest := releaseResults mediaBuyId executions executed.rows
      if e.1 = mediaBuyId then executed.result.outcome :: rest else rest

/-- The record of another step that is approved on the page of the workflow. -/
def Submission.otherApproval
    (sub : Submission)
    (env : ExecuteEnv)
    (taskId : String)
    (desk : Desk) : OtherExecution :=
  let target := (desk.store.getStepById env.tenantId taskId).bind
    (fun _ => desk.store.mediaBuyOfStep taskId)
  { reached := decide (target = some sub.mediaBuyId ∧
      statusOf env.tenantId sub.mediaBuyId desk.store.toBuyRows = some .pendingApproval)
    holds := gateHolds env desk.store sub.mediaBuyId
    results :=
      if target = some sub.mediaBuyId then
        (AdminOutcome.result (approveWorkflowStep env desk.store taskId)).toList
      else [] }

/-- The record of an approved creative, with the rows its approval leaves and the executions it
starts. -/
def Submission.release
    (sub : Submission)
    (creativeId : String)
    (rows : BuyRows)
    (executions : List (String × ExecuteEnv)) : OtherExecution where
  reached := decide (sub.mediaBuyId ∈ unblockedBuys rows sub.tenantId creativeId)
  holds := false
  results := releaseResults sub.mediaBuyId executions rows

/-- The other operations that execute buys. -/
inductive Elsewhere
    (sub : Submission) : Desk → OtherExecution → Desk → Prop
  | approveOnWorkflowPage {desk : Desk} (env : ExecuteEnv) (taskId : String)
      (htenant : env.tenantId = sub.tenantId)
      (hother : taskId ≠ sub.taskId) :
      Elsewhere sub desk (sub.otherApproval env taskId desk) (approveOnWorkflowPage env taskId desk)
  /-- `approve_creative` -/
  | approveCreative {desk : Desk} {creative : Creative} {executions : List (String × ExecuteEnv)}
      (hcreative : creative ∈ desk.store.creatives)
      (htenant : creative.tenantId = sub.tenantId)
      (hunblocked : executions.map (·.1) =
        unblockedBuys (setCreativeStatus desk.store.toBuyRows creative .approved) sub.tenantId
          creative.creativeId)
      (henvs : ∀ e ∈ executions, e.2.tenantId = sub.tenantId) :
      Elsewhere sub desk
        (sub.release creative.creativeId
          (setCreativeStatus desk.store.toBuyRows creative .approved) executions)
        { desk with
          store := { desk.store with
            toBuyRows := executeAll executions
              (setCreativeStatus desk.store.toBuyRows creative .approved) } }

/-- The events of a desk that neither write the step nor execute its buy. -/
inductive Meanwhile
    (sub : Submission) : Desk → Desk → Prop
  /-- a create, an update, a sync, a look, or what else writes rows -/
  | event {desk desk' : Desk} {e : DeskEvent}
      (h : DeskStep desk e desk')
      (hwrites : e.writes = none) :
      Meanwhile sub desk desk'
  | completeTask {desk desk' : Desk} {c : Completion}
      (h : DeskStep desk (.writeTask c) desk')
      (hother : c.taskId ≠ sub.taskId) :
      Meanwhile sub desk desk'
  /-- the pages of another buy -/
  | approveOnBuyPage {desk : Desk} (env : PageEnv) (mediaBuyId : String)
      (hbuy : env.execute.tenantId ≠ sub.tenantId ∨ mediaBuyId ≠ sub.mediaBuyId)
      (hother : ∀ s, desk.store.pendingStepOf env.execute.tenantId mediaBuyId = some s →
        s.stepId ≠ sub.taskId) :
      Meanwhile sub desk (approveOnBuyPage env mediaBuyId desk)
  | rejectOnBuyPage {desk : Desk} (env : PageEnv) (mediaBuyId reason : String)
      (hbuy : env.execute.tenantId ≠ sub.tenantId ∨ mediaBuyId ≠ sub.mediaBuyId)
      (hother : ∀ s, desk.store.pendingStepOf env.execute.tenantId mediaBuyId = some s →
        s.stepId ≠ sub.taskId) :
      Meanwhile sub desk (rejectOnBuyPage env mediaBuyId reason desk)
  /-- the pages of another step -/
  | approveOnWorkflowPage {desk : Desk} (env : ExecuteEnv) (taskId : String)
      (htenant : env.tenantId ≠ sub.tenantId)
      (hother : taskId ≠ sub.taskId) :
      Meanwhile sub desk (approveOnWorkflowPage env taskId desk)
  | rejectOnWorkflowPage {desk : Desk} (env : ExecuteEnv) (taskId reason : String)
      (hother : taskId ≠ sub.taskId) :
      Meanwhile sub desk (rejectOnWorkflowPage env taskId reason desk)

/-- An entry of the history of a submitted create. -/
inductive OutcomeEntry
  | decision (e : OutcomeEvent)
  | elsewhere (x : OtherExecution)
  | meanwhile

/-- What happens to a submitted create. -/
inductive Happens
    (sub : Submission) : Desk → OutcomeEntry → Desk → Prop
  | decision {desk desk' : Desk} {e : OutcomeEvent}
      (h : Decision sub desk e desk') :
      Happens sub desk (.decision e) desk'
  | elsewhere {desk desk' : Desk} {x : OtherExecution}
      (h : Elsewhere sub desk x desk') :
      Happens sub desk (.elsewhere x) desk'
  | meanwhile {desk desk' : Desk}
      (h : Meanwhile sub desk desk') :
      Happens sub desk .meanwhile desk'

/-- An execution of the buy ended so. -/
def EndedAs
    (es : List OutcomeEntry)
    (outcome : ApprovalOutcome) : Prop :=
  (∃ e, .decision e ∈ es ∧ e.result = some outcome) ∨
    ∃ x, .elsewhere x ∈ es ∧ outcome ∈ x.results

/-- The seller rejected the create. -/
def OutcomeEvent.Rejects
    (e : OutcomeEvent) : Prop :=
  e.decided = true ∧ (e.action = .rejectOnBuyPage ∨ e.action = .rejectOnWorkflowPage)

/-- The history is reported and announced as it happened. -/
structure Truthful
    (fits : Option Idempotency.Json → Bool)
    (sub : Submission)
    (es : List OutcomeEntry)
    (desk : Desk) : Prop where
  reported : ∃ view,
    getTaskStatus fits desk sub.tenantId sub.principalId sub.taskId true false = .ok view ∧
      (view.status ∈ [.submitted, .working, .inputRequired] ↔
        ∀ e, .decision e ∈ es → e.decided = false) ∧
      (view.status = .completed ↔ EndedAs es .executed) ∧
      (view.status = .completed → view.result = (desk.payload sub.taskId).responseData) ∧
      (view.status ∈ [.failed, .rejected] ↔
        (∃ e, .decision e ∈ es ∧ e.Rejects) ∨ EndedAs es .failed)
  /-- what was reported finished never changes -/
  final : ∀ e, .decision e ∈ es → ∀ status, e.before = some status →
    status ∈ [.completed, .failed, .rejected, .canceled] → e.after = e.before
  /-- each change is announced once, with the status reported from then on -/
  announced : ∀ url, pushUrl (desk.payload sub.taskId).requestData = some url →
    ∀ e, .decision e ∈ es →
      if e.before = e.after then e.announced = []
      else ∃ status, e.after = some status ∧ e.announced = [⟨url, sub.taskId, status⟩]

/-- The decision is an approval that executes nothing: there is no waiting buy, or the
creative gate holds it. -/
def OutcomeEvent.HeldBack
    (e : OutcomeEvent) : Prop :=
  (e.action = .approveOnBuyPage ∨ e.action = .approveOnWorkflowPage) ∧
    (e.pending = true → e.holds = true)

/-- No decision executes or rejects anything, nothing else executes the buy, and where a
decision was made, one was made on the step of the create and nobody listens. -/
structure NothingDone
    (submitted : Option Idempotency.Json)
    (es : List OutcomeEntry) : Prop where
  heldBack : ∀ e, .decision e ∈ es → e.decided = true → e.HeldBack
  unlistened : ∀ e, .decision e ∈ es → e.decided = true → pushUrl submitted = none
  ours : ∀ e, .decision e ∈ es → e.decided = true → ∃ e', .decision e' ∈ es ∧ e'.ours = true
  elsewhere : ∀ x, .elsewhere x ∈ es → x.reached = true → x.holds = true

/-- The step of the create is there, with its buyer and its tool, in this status. -/
def Submission.StepIs
    (sub : Submission)
    (desk : Desk)
    (status : WorkflowStepStatus) : Prop :=
  ∃ s, desk.store.steps.find sub.taskId = some s ∧ s.stepId = sub.taskId ∧
    s.tenantId = sub.tenantId ∧ s.principalId = sub.principalId ∧
    s.toolName = "create_media_buy" ∧ s.status = status

section Reports

variable {sub : Submission} {desk desk' : Desk} {status : WorkflowStepStatus}

/-- The answer about a step, where no result of a completed one is asked for. -/
theorem Submission.StepIs.answer
    (h : sub.StepIs desk status)
    (fits : Option Idempotency.Json → Bool)
    (includeResult : Bool)
    (hresult : includeResult = true → status ≠ .completed) :
    ∃ view, getTaskStatus fits desk sub.tenantId sub.principalId sub.taskId includeResult false =
        .ok view ∧
      view.status = specTaskStatus status := by
  obtain ⟨s, hfind, -, htenant, hprincipal, htool, rfl⟩ := h
  have hget : desk.getByStepId sub.tenantId sub.principalId sub.taskId = some s := by
    unfold Desk.getByStepId Store.getStepById
    rw [hfind]
    simp [Option.filter, htenant, hprincipal]
  have htype : specTaskType s.toolName = .ok "create_media_buy" := by
    rw [htool]
    rfl
  unfold getTaskStatus
  rw [hget]
  dsimp only
  rw [htype]
  dsimp only
  rw [if_neg (fun hcheck => hresult hcheck.1 hcheck.2.1)]
  exact ⟨_, rfl, rfl⟩

theorem Submission.StepIs.report
    (h : sub.StepIs desk status) :
    sub.report desk = some (specTaskStatus status) := by
  obtain ⟨view, hview, hstatus⟩ := h.answer (fun _ => true) false nofun
  unfold Submission.report
  rw [hview]
  exact congrArg some hstatus

end Reports

section Executions

variable {env : ExecuteEnv} {store : Store} {mediaBuyId : String}

theorem not_held_of_cleared
    {rows : BuyRows}
    (hgate : rows.unapproved env.tenantId mediaBuyId = []) :
    (executeApprovedMediaBuy env mediaBuyId rows).result.outcome ≠ .heldPendingCreatives := by
  have hgate' : unapprovedCreativeIds rows.creatives.rows rows.assignments.rows env.tenantId
      mediaBuyId = [] := hgate
  unfold executeApprovedMediaBuy
  simp only [hgate']
  split
  · exact fun h => by cases h
  · split
    · exact fun h => by cases h
    · split
      · exact fun h => by cases h
      · split
        · exact fun h => by cases h
        · split
          · exact fun h => by cases h
          · unfold completeExecution
            dsimp only
            split
            · exact fun h => by cases h
            · exact fun h => by cases h

theorem held_iff_gateHolds
    (hfound : (store.getById env.tenantId mediaBuyId).isSome) :
    (executeApprovedMediaBuy env mediaBuyId store.toBuyRows).result.outcome =
        .heldPendingCreatives ↔
      gateHolds env store mediaBuyId = true := by
  obtain ⟨b, hb⟩ := Option.isSome_iff_exists.mp hfound
  unfold gateHolds BuyRows.unapproved
  cases htenant : env.tenantExists with
  | false =>
      have hrefused : executeApprovedMediaBuy env mediaBuyId store.toBuyRows =
          refuseExecution store.toBuyRows .tenantNotFound := by
        unfold executeApprovedMediaBuy
        rw [htenant]
        rfl
      rw [hrefused]
      simp [refuseExecution]
  | true =>
      cases hgate : unapprovedCreativeIds store.creatives.rows store.assignments.rows
          env.tenantId mediaBuyId with
      | nil =>
          exact iff_of_false (not_held_of_cleared hgate) (by simp)
      | cons id ids =>
          have hheld : executeApprovedMediaBuy env mediaBuyId store.toBuyRows =
              holdForCreatives env mediaBuyId store.toBuyRows (id :: ids) := by
            unfold executeApprovedMediaBuy
            simp only [htenant, hb, hgate, Bool.not_true, Bool.false_eq_true, if_false]
          rw [hheld]
          simp [holdForCreatives]

/-- An execution is one of a waiting buy, and ends held exactly if the gate holds it. -/
theorem result_executePending
    (env : ExecuteEnv)
    (store : Store)
    (mediaBuyId : String) :
    (statusOf env.tenantId mediaBuyId store.toBuyRows ≠ some .pendingApproval ∧
        AdminOutcome.result (executePending env store mediaBuyId) = none) ∨
      (statusOf env.tenantId mediaBuyId store.toBuyRows = some .pendingApproval ∧
        ∃ outcome, AdminOutcome.result (executePending env store mediaBuyId) = some outcome ∧
          (outcome = .heldPendingCreatives ↔ gateHolds env store mediaBuyId = true)) := by
  by_cases hpending : statusOf env.tenantId mediaBuyId store.toBuyRows = some .pendingApproval
  · refine .inr ⟨hpending, _, ?_, held_iff_gateHolds ?_⟩
    · rw [executePending_of_pending hpending]
      rfl
    · obtain ⟨b, hb, -⟩ := Option.map_eq_some_iff.mp hpending
      rw [hb]
      rfl
  · refine .inl ⟨hpending, ?_⟩
    rw [executePending_of_not_pending hpending]
    rfl

theorem releaseResults_of_cleared
    {tenantId : String} {executions : List (String × ExecuteEnv)} {rows : BuyRows}
    (henvs : ∀ e ∈ executions, e.2.tenantId = tenantId)
    (hgate : rows.unapproved tenantId mediaBuyId = [])
    (hmem : mediaBuyId ∈ executions.map (·.1)) :
    releaseResults mediaBuyId executions rows ≠ [] ∧
      ∀ r ∈ releaseResults mediaBuyId executions rows, r ≠ .heldPendingCreatives := by
  suffices hall : (mediaBuyId ∈ executions.map (·.1) →
      releaseResults mediaBuyId executions rows ≠ []) ∧
      ∀ r ∈ releaseResults mediaBuyId executions rows, r ≠ .heldPendingCreatives from
    ⟨hall.1 hmem, hall.2⟩
  clear hmem
  induction executions generalizing rows with
  | nil => exact ⟨fun h => absurd h List.not_mem_nil, fun r h => absurd h List.not_mem_nil⟩
  | cons e executions ih =>
      have htenant : e.2.tenantId = tenantId := henvs e List.mem_cons_self
      have hgate' := ((execute_sameGate e.2 e.1 rows).unapproved tenantId mediaBuyId).trans hgate
      obtain ⟨hrest, hnone⟩ := ih (fun e' he' => henvs e' (List.mem_cons_of_mem _ he')) hgate'
      rw [releaseResults]
      by_cases hid : e.1 = mediaBuyId
      · rw [if_pos hid]
        refine ⟨fun _ => List.cons_ne_nil _ _, ?_⟩
        intro r hr
        rcases List.mem_cons.mp hr with rfl | hr
        · rw [hid]
          exact not_held_of_cleared (htenant ▸ hgate)
        · exact hnone r hr
      · rw [if_neg hid]
        refine ⟨fun hmem => hrest ?_, hnone⟩
        rcases List.mem_cons.mp hmem with hsame | hmem
        · exact absurd hsame.symm hid
        · exact hmem

theorem releaseResults_of_not_mem
    {executions : List (String × ExecuteEnv)} {rows : BuyRows}
    (hmem : mediaBuyId ∉ executions.map (·.1)) :
    releaseResults mediaBuyId executions rows = [] := by
  induction executions generalizing rows with
  | nil => rfl
  | cons e executions ih =>
      rw [List.map_cons, List.mem_cons, not_or] at hmem
      rw [releaseResults]
      rw [if_neg (Ne.symm hmem.1)]
      exact ih hmem.2

theorem cleared_of_unblocked
    {rows : BuyRows} {tenantId creativeId : String}
    (h : mediaBuyId ∈ unblockedBuys rows tenantId creativeId) :
    rows.unapproved tenantId mediaBuyId = [] := by
  unfold unblockedBuys at h
  obtain ⟨a, -, hfound⟩ := List.mem_filterMap.mp h
  split at hfound
  · cases hfound
  · split at hfound
    · next hcleared =>
        cases hfound
        exact hcleared.2
    · cases hfound

end Executions

/-- What a decision on a step of some status does. -/
structure DecisionEffect
    (sub : Submission)
    (desk : Desk)
    (e : OutcomeEvent)
    (desk' : Desk) : Prop where
  before : e.before = sub.report desk
  after : e.after = sub.report desk'
  found : e.ours = true → e.decided = true
  undecided : e.decided = false → e.result = none
  /-- a page that does not find the step leaves it alone -/
  kept : e.ours = false → e.announced = [] ∧
    ∀ status, sub.StepIs desk status → sub.StepIs desk' status
  /-- a decided step is approved or rejected -/
  decided : e.ours = true → ∃ status, sub.StepIs desk' status ∧ specTaskStatus status = .unknown
  /-- the buy of an approval is executed where it waits -/
  executed : ∀ outcome, e.result = some outcome →
    (e.action = .approveOnBuyPage ∨ e.action = .approveOnWorkflowPage) ∧ e.pending = true ∧
      (outcome = .heldPendingCreatives ↔ e.holds = true)
  executes : (e.action = .approveOnBuyPage ∨ e.action = .approveOnWorkflowPage) →
    e.decided = true → e.pending = true → e.result ≠ none
  announced : ∀ a ∈ e.announced, a.status = .completed ∨ a.status = .rejected
  submitted : (desk'.payload sub.taskId).requestData = (desk.payload sub.taskId).requestData

section Decisions

variable {sub : Submission} {desk desk' : Desk} {e : OutcomeEvent}

theorem eq_of_mem_announcement
    {env : PageEnv} {taskId mediaBuyId : String} {status : TaskStatus} {a : Announcement}
    (h : a ∈ announcement env desk taskId mediaBuyId status) :
    a.taskId = taskId ∧ a.status = status := by
  unfold announcement at h
  split at h
  · split at h
    · rw [List.mem_singleton.mp h]
      exact ⟨rfl, rfl⟩
    · cases h
  · cases h

theorem Submission.StepIs.updated
    {status status' : WorkflowStepStatus}
    (h : sub.StepIs desk status)
    (hsteps : desk'.store.steps = (desk.store.updateWorkflowStep sub.taskId status').steps) :
    sub.StepIs desk' status' := by
  obtain ⟨s, hfind, hid, htenant, hprincipal, htool, -⟩ := h
  refine ⟨s.withStatus status', ?_, hid, htenant, hprincipal, htool, rfl⟩
  rw [hsteps, Store.find_updateWorkflowStep, hfind]
  rfl

theorem Submission.StepIs.kept
    {status : WorkflowStepStatus}
    (h : sub.StepIs desk status)
    (hsame : desk'.store.steps.find sub.taskId = desk.store.steps.find sub.taskId) :
    sub.StepIs desk' status := by
  obtain ⟨s, hfind, hstep⟩ := h
  exact ⟨s, hsame.trans hfind, hstep⟩

theorem Submission.StepIs.isSome
    {status : WorkflowStepStatus}
    (h : sub.StepIs desk status) :
    (desk.store.steps.find sub.taskId).isSome := by
  obtain ⟨s, hfind, -⟩ := h
  rw [hfind]
  rfl

theorem Submission.StepIs.getStepById
    {status : WorkflowStepStatus}
    (h : sub.StepIs desk status) :
    ∃ s, desk.store.getStepById sub.tenantId sub.taskId = some s ∧ s.stepId = sub.taskId := by
  obtain ⟨s, hfind, hid, htenant, -⟩ := h
  refine ⟨s, ?_, hid⟩
  unfold Store.getStepById
  rw [hfind]
  simp [Option.filter, htenant]

theorem mem_event_announced
    {action : AdminAction} {found : Option WorkflowStep} {target : Option String}
    {env : ExecuteEnv} {result : Option ApprovalOutcome} {new : List Announcement}
    {a : Announcement}
    (hnew : desk'.announced = desk.announced ++ new)
    (h : a ∈ (sub.event action found target env result desk desk').announced) :
    a ∈ new ∧ a.taskId = sub.taskId := by
  change a ∈ (desk'.announced.drop desk.announced.length).filter _ at h
  rw [hnew, List.drop_left] at h
  exact ⟨List.mem_of_mem_filter h, of_decide_eq_true (List.mem_filter.mp h).2⟩

theorem DecisionEffect.of_same
    {action : AdminAction} {target : Option String} {env : ExecuteEnv}
    {result : Option ApprovalOutcome}
    (hresult : result = none) :
    DecisionEffect sub desk (sub.event action none target env result desk desk) desk := by
  have hsilent : (sub.event action none target env result desk desk).announced = [] := by
    rw [List.eq_nil_iff_forall_not_mem]
    intro a ha
    exact absurd (mem_event_announced (List.append_nil _).symm ha).1 List.not_mem_nil
  refine ⟨rfl, rfl, nofun, fun _ => hresult, fun _ => ⟨hsilent, fun _ h => h⟩, nofun, ?_, nofun,
    ?_, rfl⟩
  · intro outcome houtcome
    rw [show result = some outcome from houtcome] at hresult
    cases hresult
  · intro a ha
    rw [hsilent] at ha
    cases ha

section Written

variable {action : AdminAction} {found : WorkflowStep} {target : Option String} {env : ExecuteEnv}
  {result : Option ApprovalOutcome} {status status' : WorkflowStepStatus}
  {new : List Announcement}

/-- A page that writes the step it finds to an unreported status. -/
theorem DecisionEffect.of_written
    (hstep : sub.StepIs desk status)
    (hsteps : desk'.store.steps = (desk.store.updateWorkflowStep found.stepId status').steps)
    (hunknown : specTaskStatus status' = .unknown)
    (hexecuted : ∀ outcome, result = some outcome →
      (action = .approveOnBuyPage ∨ action = .approveOnWorkflowPage) ∧
        (sub.event action (some found) target env result desk desk').pending = true ∧
        (outcome = .heldPendingCreatives ↔
          (sub.event action (some found) target env result desk desk').holds = true))
    (hexecutes : (action = .approveOnBuyPage ∨ action = .approveOnWorkflowPage) →
      (sub.event action (some found) target env result desk desk').pending = true →
      result ≠ none)
    (hnew : desk'.announced = desk.announced ++ new)
    (hannounced : ∀ a ∈ new, a.taskId = found.stepId ∧
      (a.status = .completed ∨ a.status = .rejected))
    (hsubmitted : (desk'.payload sub.taskId).requestData = (desk.payload sub.taskId).requestData) :
    DecisionEffect sub desk (sub.event action (some found) target env result desk desk') desk' := by
  refine ⟨rfl, rfl, fun _ => rfl, nofun, ?_, ?_, hexecuted, fun h _ => hexecutes h, ?_,
    hsubmitted⟩
  · intro hours
    have hne : sub.taskId ≠ found.stepId := by
      have hother : decide (found.stepId = sub.taskId) = false := hours
      exact Ne.symm (of_decide_eq_false hother)
    refine ⟨?_, fun _ hkept => hkept.kept ?_⟩
    · rw [List.eq_nil_iff_forall_not_mem]
      intro a ha
      obtain ⟨hmem, hid⟩ := mem_event_announced hnew ha
      exact hne (hid.symm.trans (hannounced a hmem).1)
    · rw [hsteps]
      exact IndexedTable.find_modify_of_ne _ _ (WorkflowStep.primaryKey_withStatus status') hne
  · intro hours
    have hid : decide (found.stepId = sub.taskId) = true := hours
    rw [of_decide_eq_true hid] at hsteps
    exact ⟨status', hstep.updated hsteps, hunknown⟩
  · intro a ha
    exact (hannounced a (mem_event_announced hnew ha).1).2

/-- A page that approves the step it finds, and executes the buy if it waits. -/
theorem DecisionEffect.of_approved
    (haction : action = .approveOnBuyPage ∨ action = .approveOnWorkflowPage)
    (hstep : sub.StepIs desk status)
    (hsteps : desk'.store.steps = (desk.store.updateWorkflowStep found.stepId .approved).steps)
    (hresult : ∀ mediaBuyId, target = some mediaBuyId →
      result = AdminOutcome.result
        (executePending env (desk.store.updateWorkflowStep found.stepId .approved) mediaBuyId))
    (huntargeted : target = none → result = none)
    (hnew : desk'.announced = desk.announced ++ new)
    (hannounced : ∀ a ∈ new, a.taskId = found.stepId ∧ a.status = .completed)
    (hsubmitted : (desk'.payload sub.taskId).requestData = (desk.payload sub.taskId).requestData) :
    DecisionEffect sub desk (sub.event action (some found) target env result desk desk') desk' := by
  refine .of_written hstep hsteps rfl ?_ ?_ hnew
    (fun a ha => ⟨(hannounced a ha).1, .inl (hannounced a ha).2⟩) hsubmitted
  · intro outcome houtcome
    cases htarget : target with
    | none =>
        rw [huntargeted htarget] at houtcome
        cases houtcome
    | some mediaBuyId =>
        rw [hresult mediaBuyId htarget] at houtcome
        rcases result_executePending env (desk.store.updateWorkflowStep found.stepId .approved)
          mediaBuyId with ⟨-, hnone⟩ | ⟨hpending, outcome', hsome, hheld⟩
        · rw [houtcome] at hnone
          cases hnone
        · rw [houtcome] at hsome
          cases hsome
          exact ⟨haction, by simpa [Submission.event] using hpending, hheld⟩
  · intro _ hpending
    change target.any _ = true at hpending
    cases htarget : target with
    | none =>
        rw [htarget] at hpending
        cases hpending
    | some mediaBuyId =>
        rw [htarget] at hpending
        have hpending' : statusOf env.tenantId mediaBuyId desk.store.toBuyRows =
            some .pendingApproval := by simpa using hpending
        rw [hresult mediaBuyId htarget]
        rcases result_executePending env (desk.store.updateWorkflowStep found.stepId .approved)
          mediaBuyId with ⟨hidle, -⟩ | ⟨-, outcome, hsome, -⟩
        · exact absurd hpending' hidle
        · rw [hsome]
          nofun

/-- A page that rejects the step it finds. -/
theorem DecisionEffect.of_rejected
    (haction : action = .rejectOnBuyPage ∨ action = .rejectOnWorkflowPage)
    (hstep : sub.StepIs desk status)
    (hsteps : desk'.store.steps = (desk.store.updateWorkflowStep found.stepId .rejected).steps)
    (hresult : result = none)
    (hnew : desk'.announced = desk.announced ++ new)
    (hannounced : ∀ a ∈ new, a.taskId = found.stepId ∧ a.status = .rejected)
    (hsubmitted : (desk'.payload sub.taskId).requestData = (desk.payload sub.taskId).requestData) :
    DecisionEffect sub desk (sub.event action (some found) target env result desk desk') desk' := by
  refine .of_written hstep hsteps rfl ?_ ?_ hnew
    (fun a ha => ⟨(hannounced a ha).1, .inr (hannounced a ha).2⟩) hsubmitted
  · intro outcome houtcome
    rw [hresult] at houtcome
    cases houtcome
  · intro happrove
    rcases haction with rfl | rfl
    · rcases happrove with h | h
      · cases h
      · cases h
    · rcases happrove with h | h
      · cases h
      · cases h

end Written

theorem approveOnBuyPage_decision
    {env : PageEnv} {status : WorkflowStepStatus}
    (hstep : sub.StepIs desk status) :
    DecisionEffect sub desk
      (sub.event .approveOnBuyPage
        (desk.store.pendingStepOf env.execute.tenantId sub.mediaBuyId)
        (some sub.mediaBuyId) env.execute
        (AdminOutcome.result (approveMediaBuy env.execute desk.store sub.mediaBuyId))
        desk (approveOnBuyPage env sub.mediaBuyId desk))
      (approveOnBuyPage env sub.mediaBuyId desk) := by
  have hsubmitted := (approveOnBuyPage_effect env sub.mediaBuyId).submitted sub.taskId
    hstep.isSome
  cases hfind : desk.store.pendingStepOf env.execute.tenantId sub.mediaBuyId with
  | none =>
      have hsame : approveOnBuyPage env sub.mediaBuyId desk = desk := by
        unfold approveOnBuyPage
        rw [hfind]
      have hresult : AdminOutcome.result
          (approveMediaBuy env.execute desk.store sub.mediaBuyId) = none := by
        unfold approveMediaBuy
        rw [hfind]
        rfl
      rw [hsame]
      exact .of_same hresult
  | some s =>
      have houtcome : approveMediaBuy env.execute desk.store sub.mediaBuyId =
          executePending env.execute (desk.store.updateWorkflowStep s.stepId .approved)
            sub.mediaBuyId := by
        unfold approveMediaBuy
        rw [hfind]
      have hstore : (approveOnBuyPage env sub.mediaBuyId desk).store =
          (approveMediaBuy env.execute desk.store sub.mediaBuyId).store := by
        unfold approveOnBuyPage
        rw [hfind]
      obtain ⟨new, hnew, hannounced⟩ : ∃ new,
          (approveOnBuyPage env sub.mediaBuyId desk).announced = desk.announced ++ new ∧
            ∀ a ∈ new, a.taskId = s.stepId ∧ a.status = .completed := by
        unfold approveOnBuyPage
        rw [hfind]
        refine ⟨_, rfl, ?_⟩
        split
        · exact fun a ha => eq_of_mem_announcement ha
        · exact fun a ha => absurd ha List.not_mem_nil
      refine .of_approved (.inl rfl) hstep ?_ ?_ nofun hnew hannounced hsubmitted
      · rw [hstore, houtcome, (executePending_steps _ _ _).1]
      · intro mediaBuyId htarget
        cases htarget
        rw [houtcome]

theorem rejectOnBuyPage_decision
    {env : PageEnv} {reason : String} {status : WorkflowStepStatus}
    (hstep : sub.StepIs desk status) :
    DecisionEffect sub desk
      (sub.event .rejectOnBuyPage
        (desk.store.pendingStepOf env.execute.tenantId sub.mediaBuyId)
        (some sub.mediaBuyId) env.execute
        (AdminOutcome.result (rejectMediaBuy env.execute desk.store sub.mediaBuyId))
        desk (rejectOnBuyPage env sub.mediaBuyId reason desk))
      (rejectOnBuyPage env sub.mediaBuyId reason desk) := by
  have hsubmitted := (rejectOnBuyPage_effect env sub.mediaBuyId reason).submitted sub.taskId
    hstep.isSome
  have hresult : AdminOutcome.result
      (rejectMediaBuy env.execute desk.store sub.mediaBuyId) = none := by
    unfold rejectMediaBuy
    split
    · rfl
    · dsimp only
      split
      · rfl
      · rfl
  cases hfind : desk.store.pendingStepOf env.execute.tenantId sub.mediaBuyId with
  | none =>
      have hsame : rejectOnBuyPage env sub.mediaBuyId reason desk = desk := by
        unfold rejectOnBuyPage
        rw [hfind]
      rw [hsame]
      exact .of_same hresult
  | some s =>
      obtain ⟨new, hnew, hannounced⟩ : ∃ new,
          (rejectOnBuyPage env sub.mediaBuyId reason desk).announced = desk.announced ++ new ∧
            ∀ a ∈ new, a.taskId = s.stepId ∧ a.status = .rejected := by
        unfold rejectOnBuyPage
        rw [hfind]
        exact ⟨_, rfl, fun a ha => eq_of_mem_announcement ha⟩
      refine .of_rejected (.inl rfl) hstep ?_ hresult hnew hannounced hsubmitted
      unfold rejectOnBuyPage rejectMediaBuy
      rw [hfind]
      dsimp only
      split
      · rfl
      · rfl

/-- What each decision does. -/
theorem decision_effect
    {status : WorkflowStepStatus}
    (h : Decision sub desk e desk')
    (hstep : sub.StepIs desk status) :
    DecisionEffect sub desk e desk' := by
  obtain ⟨s, hs, hid⟩ := hstep.getStepById
  cases h with
  | approveOnBuyPage env htenant =>
      exact approveOnBuyPage_decision hstep
  | rejectOnBuyPage env reason htenant =>
      exact rejectOnBuyPage_decision hstep
  | approveOnWorkflowPage env htenant =>
      have hsubmitted := (approveOnWorkflowPage_effect env sub.taskId).submitted sub.taskId
        hstep.isSome
      have hs' : desk.store.getStepById env.tenantId sub.taskId = some s := by
        rw [htenant]
        exact hs
      have hmapped : (desk.store.updateWorkflowStep sub.taskId .approved).mediaBuyOfStep
          sub.taskId = desk.store.mediaBuyOfStep sub.taskId := rfl
      rw [hs']
      refine .of_approved (.inr rfl) hstep ?_ ?_ ?_ (List.append_nil _).symm
        (fun a ha => absurd ha List.not_mem_nil) hsubmitted
      · rw [hid]
        unfold approveOnWorkflowPage approveWorkflowStep
        rw [hs']
        dsimp only
        split
        · rfl
        · exact (executePending_steps _ _ _).1
      · intro mediaBuyId htarget
        rw [hid]
        unfold approveWorkflowStep
        rw [hs']
        dsimp only
        rw [hmapped, htarget]
      · intro htarget
        unfold approveWorkflowStep
        rw [hs']
        dsimp only
        rw [hmapped, htarget]
        rfl
  | rejectOnWorkflowPage env reason htenant =>
      have hsubmitted := (rejectOnWorkflowPage_effect env sub.taskId reason).submitted sub.taskId
        hstep.isSome
      have hs' : desk.store.getStepById env.tenantId sub.taskId = some s := by
        rw [htenant]
        exact hs
      have hrejected : rejectOnWorkflowPage env sub.taskId reason desk =
          { desk.writePayload sub.taskId (fun p => { p with errorMessage := some reason }) with
            store := desk.store.updateWorkflowStep sub.taskId .rejected } := by
        unfold rejectOnWorkflowPage rejectWorkflowStep
        rw [hs']
      have hresult : AdminOutcome.result (rejectWorkflowStep env desk.store sub.taskId) = none := by
        unfold rejectWorkflowStep
        rw [hs']
        rfl
      rw [hs']
      have hnew : (rejectOnWorkflowPage env sub.taskId reason desk).announced =
          desk.announced ++ [] := by
        rw [hrejected, List.append_nil]
        rfl
      refine .of_rejected (.inr rfl) hstep ?_ hresult hnew
        (fun a ha => absurd ha List.not_mem_nil) hsubmitted
      rw [hrejected, hid]

end Decisions

/-- How an operation on something else ends the executions of the buy that it takes up. -/
structure OtherExecution.Recorded
    (x : OtherExecution) : Prop where
  idle : x.reached = false → x.results = []
  taken : x.reached = true → x.results ≠ [] ∧
    ∀ r ∈ x.results, (r = .heldPendingCreatives ↔ x.holds = true)

section Others

variable {sub : Submission} {desk desk' : Desk} {x : OtherExecution}

/-- Another step, approved on the page of the workflow. -/
theorem otherApproval_recorded
    (env : ExecuteEnv)
    (taskId : String) :
    (sub.otherApproval env taskId desk).Recorded := by
  have hmapped : (desk.store.updateWorkflowStep taskId .approved).mediaBuyOfStep taskId =
      desk.store.mediaBuyOfStep taskId := rfl
  unfold Submission.otherApproval
  dsimp only
  cases hfind : desk.store.getStepById env.tenantId taskId with
  | none => exact ⟨fun _ => rfl, fun h => by simp at h⟩
  | some s =>
      rw [Option.bind_some]
      by_cases htarget : desk.store.mediaBuyOfStep taskId = some sub.mediaBuyId
      · have houtcome : approveWorkflowStep env desk.store taskId =
            executePending env (desk.store.updateWorkflowStep taskId .approved)
              sub.mediaBuyId := by
          unfold approveWorkflowStep
          rw [hfind]
          dsimp only
          rw [hmapped, htarget]
        rw [if_pos htarget, houtcome]
        rcases result_executePending env (desk.store.updateWorkflowStep taskId .approved)
          sub.mediaBuyId with ⟨hidle, hnone⟩ | ⟨hpending, outcome, hsome, hheld⟩
        · rw [hnone]
          refine ⟨fun _ => rfl, fun hreached => ?_⟩
          exact absurd (of_decide_eq_true hreached).2 hidle
        · rw [hsome]
          refine ⟨fun hreached => ?_, fun _ => ⟨List.cons_ne_nil _ _, fun r hr => ?_⟩⟩
          · exact absurd ⟨htarget, hpending⟩ (of_decide_eq_false hreached)
          · rw [List.mem_singleton.mp hr]
            exact hheld
      · rw [if_neg htarget]
        exact ⟨fun _ => rfl, fun hreached => absurd (of_decide_eq_true hreached).1 htarget⟩

theorem elsewhere_recorded
    (h : Elsewhere sub desk x desk') :
    x.Recorded := by
  cases h with
  | approveOnWorkflowPage env taskId htenant hother => exact otherApproval_recorded env taskId
  | approveCreative hcreative htenant hunblocked henvs =>
      unfold Submission.release
      constructor
      · intro hidle
        have hnot := of_decide_eq_false hidle
        rw [← hunblocked] at hnot
        exact releaseResults_of_not_mem hnot
      · intro hreached
        have hmem := of_decide_eq_true hreached
        have hcleared := cleared_of_unblocked hmem
        rw [← hunblocked] at hmem
        obtain ⟨hsome, hnone⟩ := releaseResults_of_cleared henvs hcleared hmem
        exact ⟨hsome, fun r hr => iff_of_false (hnone r hr) Bool.false_ne_true⟩

theorem Elsewhere.deskStep
    (h : Elsewhere sub desk x desk') :
    ∃ e, DeskStep desk e desk' ∧ e.writes ≠ some sub.taskId := by
  cases h with
  | approveOnWorkflowPage env taskId htenant hother =>
      refine ⟨_, .approveOnWorkflowPage env taskId, fun hwrites => ?_⟩
      obtain ⟨_, -, hsame⟩ := Option.map_eq_some_iff.mp hwrites
      exact hother hsame
  | approveCreative hcreative htenant hunblocked henvs => exact ⟨_, .rows _, nofun⟩

theorem Meanwhile.deskStep
    (h : Meanwhile sub desk desk') :
    ∃ e, DeskStep desk e desk' ∧ e.writes ≠ some sub.taskId := by
  cases h with
  | event h hwrites =>
      refine ⟨_, h, ?_⟩
      rw [hwrites]
      nofun
  | completeTask h hother => exact ⟨_, h, fun hwrites => hother (Option.some.inj hwrites)⟩
  | approveOnBuyPage env mediaBuyId hbuy hother =>
      refine ⟨_, .approveOnBuyPage env mediaBuyId, fun hwrites => ?_⟩
      obtain ⟨s, hs, hsame⟩ := Option.map_eq_some_iff.mp hwrites
      exact hother s hs hsame
  | rejectOnBuyPage env mediaBuyId reason hbuy hother =>
      refine ⟨_, .rejectOnBuyPage env mediaBuyId reason, fun hwrites => ?_⟩
      obtain ⟨s, hs, hsame⟩ := Option.map_eq_some_iff.mp hwrites
      exact hother s hs hsame
  | approveOnWorkflowPage env taskId htenant hother =>
      refine ⟨_, .approveOnWorkflowPage env taskId, fun hwrites => ?_⟩
      obtain ⟨_, -, hsame⟩ := Option.map_eq_some_iff.mp hwrites
      exact hother hsame
  | rejectOnWorkflowPage env taskId reason hother =>
      refine ⟨_, .rejectOnWorkflowPage env taskId reason, fun hwrites => ?_⟩
      obtain ⟨_, -, hsame⟩ := Option.map_eq_some_iff.mp hwrites
      exact hother hsame

end Others

section Histories

variable {sub : Submission} {start desk desk' : Desk} {es : List OutcomeEntry}

/-- What is recorded of a decision on a submitted create. -/
structure OutcomeEvent.Recorded
    (e : OutcomeEvent) : Prop where
  before : e.before = some .inputRequired ∨ e.before = some .unknown
  found : e.ours = true → e.decided = true
  undecided : e.decided = false → e.result = none
  kept : e.ours = false → e.after = e.before ∧ e.announced = []
  decided : e.ours = true → e.after = some .unknown
  executed : ∀ outcome, e.result = some outcome →
    (e.action = .approveOnBuyPage ∨ e.action = .approveOnWorkflowPage) ∧ e.pending = true ∧
      (outcome = .heldPendingCreatives ↔ e.holds = true)
  executes : (e.action = .approveOnBuyPage ∨ e.action = .approveOnWorkflowPage) →
    e.decided = true → e.pending = true → e.result ≠ none
  announced : ∀ a ∈ e.announced, a.status = .completed ∨ a.status = .rejected

/-- Where a history leaves the step: it waits until the first decision on it, which takes it
out of the reported statuses. -/
structure Submission.Reached
    (sub : Submission)
    (submitted : Option Idempotency.Json)
    (es : List OutcomeEntry)
    (desk : Desk) : Prop where
  step : (sub.StepIs desk .requiresApproval ∧ ∀ e, .decision e ∈ es → e.ours = false) ∨
    (∃ status, sub.StepIs desk status ∧ specTaskStatus status = .unknown) ∧
      ∃ e, .decision e ∈ es ∧ e.ours = true ∧ e.before = some .inputRequired
  events : ∀ e, .decision e ∈ es → e.Recorded
  others : ∀ x, .elsewhere x ∈ es → x.Recorded
  submitted : (desk.payload sub.taskId).requestData = submitted

theorem Submission.Reached.stepIs
    {submitted : Option Idempotency.Json}
    (h : sub.Reached submitted es desk) :
    ∃ status, sub.StepIs desk status ∧
      (specTaskStatus status = .inputRequired ∨ specTaskStatus status = .unknown) := by
  rcases h.step with ⟨hstep, -⟩ | ⟨⟨status, hstep, hunknown⟩, -⟩
  · exact ⟨_, hstep, .inl rfl⟩
  · exact ⟨status, hstep, .inr hunknown⟩

/-- A decision carries the history on. -/
theorem Submission.Reached.decision
    {submitted : Option Idempotency.Json} {e : OutcomeEvent}
    (h : sub.Reached submitted es desk)
    (hdecision : Decision sub desk e desk') :
    sub.Reached submitted (es ++ [.decision e]) desk' := by
  obtain ⟨status, hstep, hstatus⟩ := h.stepIs
  have heffect := decision_effect hdecision hstep
  have hbefore : e.before = some (specTaskStatus status) := heffect.before.trans hstep.report
  have hrecorded : e.Recorded := by
    refine ⟨?_, heffect.found, heffect.undecided, ?_, ?_, heffect.executed, heffect.executes,
      heffect.announced⟩
    · rcases hstatus with hwaits | hunknown
      · exact .inl (by rw [hbefore, hwaits])
      · exact .inr (by rw [hbefore, hunknown])
    · intro hother
      obtain ⟨hsilent, hkept⟩ := heffect.kept hother
      refine ⟨?_, hsilent⟩
      rw [heffect.after, (hkept status hstep).report, hbefore]
    · intro hours
      obtain ⟨status', hstep', hunknown⟩ := heffect.decided hours
      rw [heffect.after, hstep'.report, hunknown]
  refine ⟨?_, ?_, ?_, heffect.submitted.trans h.submitted⟩
  · cases hours : e.ours with
    | false =>
        obtain ⟨-, hkept⟩ := heffect.kept hours
        rcases h.step with ⟨hwaits, hnone⟩ | ⟨⟨status, hstep, hunknown⟩, e', he', hfirst⟩
        · refine .inl ⟨hkept _ hwaits, fun f hf => ?_⟩
          rcases List.mem_append.mp hf with hold | hnew
          · exact hnone f hold
          · cases List.mem_singleton.mp hnew
            exact hours
        · exact .inr ⟨⟨status, hkept _ hstep, hunknown⟩, e', List.mem_append_left _ he', hfirst⟩
    | true =>
        refine .inr ⟨heffect.decided hours, ?_⟩
        rcases h.step with ⟨hwaits, -⟩ | ⟨-, e', he', hfirst⟩
        · exact ⟨e, List.mem_append_right _ (List.mem_singleton_self _), hours,
            heffect.before.trans hwaits.report⟩
        · exact ⟨e', List.mem_append_left _ he', hfirst⟩
  · intro f hf
    rcases List.mem_append.mp hf with hold | hnew
    · exact h.events f hold
    · cases List.mem_singleton.mp hnew
      exact hrecorded
  · intro x hx
    rcases List.mem_append.mp hx with hold | hnew
    · exact h.others x hold
    · cases List.mem_singleton.mp hnew

/-- An event that leaves the step alone carries the history on. -/
theorem Submission.Reached.kept
    {submitted : Option Idempotency.Json} {entry : OutcomeEntry}
    (h : sub.Reached submitted es desk)
    (hevent : ∃ e, DeskStep desk e desk' ∧ e.writes ≠ some sub.taskId)
    (hentry : ∀ e, entry ≠ .decision e)
    (hother : ∀ x, entry = .elsewhere x → x.Recorded) :
    sub.Reached submitted (es ++ [entry]) desk' := by
  obtain ⟨event, hstep, hwrites⟩ := hevent
  obtain ⟨_, hthere, -⟩ := h.stepIs
  have hkept : ∀ status, sub.StepIs desk status → sub.StepIs desk' status := by
    intro status hstatus
    exact hstatus.kept (hstep.effect.kept sub.taskId hthere.isSome hwrites).1
  have hold : ∀ e, .decision e ∈ es ++ [entry] → .decision e ∈ es := by
    intro e he
    rcases List.mem_append.mp he with hold | hnew
    · exact hold
    · exact absurd (List.mem_singleton.mp hnew).symm (hentry e)
  refine ⟨?_, fun e he => h.events e (hold e he), fun x hx => ?_, ?_⟩
  · rcases h.step with ⟨hwaits, hnone⟩ | ⟨⟨status, hstatus, hunknown⟩, e', he', hfirst⟩
    · exact .inl ⟨hkept _ hwaits, fun e he => hnone e (hold e he)⟩
    · exact .inr ⟨⟨status, hkept _ hstatus, hunknown⟩, e', List.mem_append_left _ he', hfirst⟩
  · rcases List.mem_append.mp hx with hx | hnew
    · exact h.others x hx
    · exact hother x (List.mem_singleton.mp hnew).symm
  · exact (hstep.effect.submitted sub.taskId hthere.isSome).trans h.submitted

/-- Every history of a step that waits. -/
theorem reached_of_run
    (hrun : Run (Happens sub) start es desk)
    (hstart : sub.StepIs start .requiresApproval) :
    sub.Reached (start.payload sub.taskId).requestData es desk := by
  have hinit : sub.Reached (start.payload sub.taskId).requestData [] start :=
    ⟨.inl ⟨hstart, fun _ h => absurd h List.not_mem_nil⟩,
      fun _ h => absurd h List.not_mem_nil, fun _ h => absurd h List.not_mem_nil, rfl⟩
  rw [← List.nil_append es]
  refine hrun.preserves_history ?_ hinit
  intro es desk entry desk' h hstep
  cases hstep with
  | decision hdecision => exact h.decision hdecision
  | elsewhere hother =>
      refine h.kept hother.deskStep ?_ ?_
      · rintro e ⟨⟩
      · rintro x ⟨⟩
        exact elsewhere_recorded hother
  | meanwhile hevent =>
      refine h.kept hevent.deskStep ?_ ?_
      · rintro e ⟨⟩
      · rintro x ⟨⟩

section Reported

variable {fits : Option Idempotency.Json → Bool} {submitted : Option Idempotency.Json}

/-- A truthful history executes nothing, fails nothing and rejects nothing: no status that is
reported of the step says so. -/
theorem nothing_ended_of_truthful
    (h : sub.Reached submitted es desk)
    (htruthful : Truthful fits sub es desk) :
    ¬ EndedAs es .executed ∧ ¬ EndedAs es .failed ∧ ∀ e, .decision e ∈ es → ¬ e.Rejects := by
  obtain ⟨status, hstep, hstatus⟩ := h.stepIs
  have hunfinished : status ≠ .completed := by
    rintro rfl
    simp [specTaskStatus] at hstatus
  obtain ⟨view, hview, hreported⟩ := hstep.answer fits _ (fun _ => hunfinished)
  obtain ⟨view', hview', -, hcompleted, -, hfailed⟩ := htruthful.reported
  have hsame : view' = view := by
    rw [hview] at hview'
    exact (Except.ok.inj hview').symm
  rw [hsame, hreported] at hcompleted hfailed
  have hsilent : specTaskStatus status ≠ .completed ∧
      specTaskStatus status ∉ [.failed, .rejected] := by
    rcases hstatus with hs | hs
    · rw [hs]
      decide
    · rw [hs]
      decide
  refine ⟨fun he => hsilent.1 (hcompleted.mpr he), fun he => hsilent.2 (hfailed.mpr (.inr he)), ?_⟩
  exact fun e he hrejects => hsilent.2 (hfailed.mpr (.inl ⟨e, he, hrejects⟩))

theorem heldBack_of_nothing_ended
    {e : OutcomeEvent}
    (hrecorded : e.Recorded)
    (hexecuted : e.result ≠ some .executed)
    (hfailed : e.result ≠ some .failed)
    (hrejects : ¬ e.Rejects)
    (hdecided : e.decided = true) :
    e.HeldBack := by
  have happrove : e.action = .approveOnBuyPage ∨ e.action = .approveOnWorkflowPage := by
    cases haction : e.action with
    | approveOnBuyPage => exact .inl rfl
    | approveOnWorkflowPage => exact .inr rfl
    | rejectOnBuyPage => exact absurd ⟨hdecided, .inl haction⟩ hrejects
    | rejectOnWorkflowPage => exact absurd ⟨hdecided, .inr haction⟩ hrejects
  refine ⟨happrove, fun hpending => ?_⟩
  cases hresult : e.result with
  | none => exact absurd hresult (hrecorded.executes happrove hdecided hpending)
  | some outcome =>
      refine (hrecorded.executed outcome hresult).2.2.mp ?_
      cases outcome with
      | executed => exact absurd hresult hexecuted
      | heldPendingCreatives => rfl
      | failed => exact absurd hresult hfailed

theorem unannounced_of_truthful
    (htruthful : Truthful fits sub es desk)
    {e : OutcomeEvent}
    (hrecorded : e.Recorded)
    (he : .decision e ∈ es)
    (hours : e.ours = true)
    (hfirst : e.before = some .inputRequired) :
    pushUrl (desk.payload sub.taskId).requestData = none := by
  cases hurl : pushUrl (desk.payload sub.taskId).requestData with
  | none => rfl
  | some url =>
      have hannounced := htruthful.announced url hurl e he
      have hafter := hrecorded.decided hours
      rw [hfirst, hafter, if_neg (by decide)] at hannounced
      obtain ⟨status, hstatus, hsent⟩ := hannounced
      cases hstatus
      have hmem := hrecorded.announced ⟨url, sub.taskId, .unknown⟩
        (by rw [hsent]; exact List.mem_singleton_self _)
      rcases hmem with h | h
      · cases h
      · cases h

theorem nothingDone_of_truthful
    (h : sub.Reached submitted es desk)
    (htruthful : Truthful fits sub es desk) :
    NothingDone submitted es := by
  obtain ⟨hexecuted, hfailed, hrejects⟩ := nothing_ended_of_truthful h htruthful
  have hheld : ∀ e, .decision e ∈ es → e.decided = true → e.HeldBack := by
    intro e he
    exact heldBack_of_nothing_ended (h.events e he) (fun hr => hexecuted (.inl ⟨e, he, hr⟩))
      (fun hr => hfailed (.inl ⟨e, he, hr⟩)) (hrejects e he)
  have helsewhere : ∀ x, .elsewhere x ∈ es → x.reached = true → x.holds = true := by
    intro x hx hreached
    obtain ⟨hsome, hall⟩ := (h.others x hx).taken hreached
    obtain ⟨r, hr⟩ := List.exists_mem_of_ne_nil _ hsome
    refine (hall r hr).mp ?_
    cases r with
    | executed => exact absurd (.inr ⟨x, hx, hr⟩) hexecuted
    | heldPendingCreatives => rfl
    | failed => exact absurd (.inr ⟨x, hx, hr⟩) hfailed
  rcases h.step with ⟨hwaits, -⟩ | ⟨-, e', he', hours, hfirst⟩
  · -- the step waits, so no decision was made
    obtain ⟨view, hview, hstatus⟩ := hwaits.answer fits _ (fun _ => by decide)
    obtain ⟨view', hview', hundecided, -⟩ := htruthful.reported
    rw [hview] at hview'
    cases hview'
    have hnone := hundecided.mp (by rw [hstatus]; decide)
    have hcontra : ∀ e, .decision e ∈ es → e.decided = true → False := by
      intro e he hdecided
      rw [hnone e he] at hdecided
      cases hdecided
    exact ⟨hheld, fun e he hd => (hcontra e he hd).elim, fun e he hd => (hcontra e he hd).elim,
      helsewhere⟩
  · refine ⟨hheld, fun _ _ _ => ?_, fun _ _ _ => ⟨e', he', hours⟩, helsewhere⟩
    rw [← h.submitted]
    exact unannounced_of_truthful htruthful (h.events e' he') he' hours hfirst

theorem OutcomeEvent.Recorded.result_of_heldBack
    {e : OutcomeEvent}
    (h : e.Recorded)
    (hheld : e.decided = true → e.HeldBack) :
    ¬ e.Rejects ∧ (e.result = none ∨ e.result = some .heldPendingCreatives) := by
  cases hdecided : e.decided with
  | false =>
      refine ⟨fun hr => ?_, .inl (h.undecided hdecided)⟩
      rw [hr.1] at hdecided
      cases hdecided
  | true =>
      obtain ⟨happrove, hholds⟩ := hheld hdecided
      refine ⟨?_, ?_⟩
      · rintro ⟨-, hreject⟩
        rcases happrove with ha | ha
        · rw [ha] at hreject
          simp at hreject
        · rw [ha] at hreject
          simp at hreject
      · cases hresult : e.result with
        | none => exact .inl rfl
        | some outcome =>
            obtain ⟨-, hpending, hgate⟩ := h.executed outcome hresult
            exact .inr (congrArg some (hgate.mpr (hholds hpending)))

theorem held_of_nothingDone
    (h : sub.Reached submitted es desk)
    (hnothing : NothingDone submitted es)
    {outcome : ApprovalOutcome}
    (hended : EndedAs es outcome) :
    outcome = .heldPendingCreatives := by
  rcases hended with ⟨e, he, hresult⟩ | ⟨x, hx, hmem⟩
  · rcases ((h.events e he).result_of_heldBack (hnothing.heldBack e he)).2 with hr | hr
    · rw [hresult] at hr
      cases hr
    · exact Option.some.inj (hresult.symm.trans hr)
  · cases hreached : x.reached with
    | false =>
        rw [(h.others x hx).idle hreached] at hmem
        cases hmem
    | true =>
        exact (((h.others x hx).taken hreached).2 outcome hmem).mpr
          (hnothing.elsewhere x hx hreached)

theorem truthful_of_nothingDone
    (h : sub.Reached submitted es desk)
    (hnothing : NothingDone submitted es) :
    Truthful fits sub es desk := by
  have hexecuted : ¬ EndedAs es .executed := fun hended => by
    cases held_of_nothingDone h hnothing hended
  have hfailed : ¬ ((∃ e, .decision e ∈ es ∧ e.Rejects) ∨ EndedAs es .failed) := by
    rintro (⟨e, he, hrejects⟩ | hended)
    · exact ((h.events e he).result_of_heldBack (hnothing.heldBack e he)).1 hrejects
    · cases held_of_nothingDone h hnothing hended
  refine ⟨?_, ?_, ?_⟩
  · rcases h.step with ⟨hwaits, hnone⟩ | ⟨⟨status, hstep, hunknown⟩, e, he, hours, -⟩
    · obtain ⟨view, hview, hstatus⟩ := hwaits.answer fits _ (fun _ => by decide)
      refine ⟨view, hview, ?_⟩
      rw [hstatus]
      refine ⟨iff_of_true (by decide) fun e he => ?_, iff_of_false (by decide) hexecuted, nofun,
        iff_of_false (by decide) hfailed⟩
      cases hdecided : e.decided with
      | false => rfl
      | true =>
          obtain ⟨e', he', hours⟩ := hnothing.ours e he hdecided
          rw [hnone e' he'] at hours
          cases hours
    · have hunfinished : status ≠ .completed := by
        rintro rfl
        cases hunknown
      obtain ⟨view, hview, hstatus⟩ := hstep.answer fits _ (fun _ => hunfinished)
      refine ⟨view, hview, ?_⟩
      rw [hstatus, hunknown]
      refine ⟨iff_of_false (by decide) (fun hnone => ?_), iff_of_false (by decide) hexecuted,
        nofun, iff_of_false (by decide) hfailed⟩
      have hdecided := (h.events e he).found hours
      rw [hnone e he] at hdecided
      cases hdecided
  · intro e he status hbefore hfinished
    rcases (h.events e he).before with hwaits | hunknown
    · rw [hwaits] at hbefore
      cases hbefore
      simp at hfinished
    · rw [hunknown] at hbefore
      cases hbefore
      simp at hfinished
  · intro url hurl e he
    cases hours : e.ours with
    | false =>
        obtain ⟨hsame, hsilent⟩ := (h.events e he).kept hours
        rw [if_pos hsame.symm]
        exact hsilent
    | true =>
        rw [h.submitted, hnothing.unlistened e he ((h.events e he).found hours)] at hurl
        cases hurl

end Reported

end Histories

section Submitted

variable {start desk : Desk} {env : CreateEnv} {req : CreateRequest}
  {ids : GeneratedIds start.store} {p : StepPayload}

/-- The submission of a create. -/
def submissionOf
    (env : CreateEnv)
    {store : Store}
    (ids : GeneratedIds store) : Submission where
  tenantId := env.tenantId
  principalId := env.principalId
  taskId := ids.stepId
  mediaBuyId := ids.mediaBuyId

/-- A desk after a create, with the columns of its step. -/
def Desk.created
    (desk : Desk)
    (env : CreateEnv)
    (req : CreateRequest)
    (ids : GeneratedIds desk.store)
    (p : StepPayload) : Desk :=
  { desk.writePayload ids.stepId (fun _ => p) with
    store := (createMediaBuy env req ids).store }

theorem stepIs_of_submitted
    {taskId : String}
    (hsubmitted : (createMediaBuy env req ids).reply = .submitted taskId) :
    (submissionOf env ids).StepIs (start.created env req ids p) .requiresApproval := by
  have haccepted : ∀ err, (createMediaBuy env req ids).reply ≠ .failed err := by
    intro err herr
    rw [hsubmitted] at herr
    cases herr
  suffices hstep : (createMediaBuy env req ids).store.steps.find ids.stepId =
      some ((createStep env ids).withStatus .requiresApproval) from
    ⟨_, hstep, rfl, rfl, rfl, rfl, rfl⟩
  obtain ⟨-, hexit⟩ := createMediaBuy_accepted haccepted
  generalize createMediaBuy env req ids = outcome at hsubmitted hexit ⊢
  cases hexit with
  | pending _ _ hbooked => exact hbooked.step
  | configured _ _ hstep => exact hstep.step
  | ordered => cases hsubmitted

/-- The histories of a submitted create that are reported and announced as they happened:
those that execute and reject nothing, and in which nobody listens to a decision. -/
theorem submitted_truthful_iff
    {fits : Option Idempotency.Json → Bool} {taskId : String} {es : List OutcomeEntry}
    (hsubmitted : (createMediaBuy env req ids).reply = .submitted taskId)
    (hrun : Run (Happens (submissionOf env ids)) (start.created env req ids p) es desk) :
    Truthful fits (submissionOf env ids) es desk ↔ NothingDone p.requestData es := by
  have hpayload : (start.created env req ids p).payload (submissionOf env ids).taskId = p :=
    Function.update_self _ _ _
  have hreached := reached_of_run hrun (stepIs_of_submitted hsubmitted)
  rw [hpayload] at hreached
  exact ⟨nothingDone_of_truthful hreached, truthful_of_nothingDone hreached⟩

end Submitted

section Samples

/-- An empty desk. -/
def emptyDesk : Desk where
  store := Store.empty
  payload := fun _ => { createdAt := 0 }

/-- The columns of a step whose request registered an endpoint. -/
def pushedPayload : StepPayload where
  createdAt := 0
  requestData := some (.obj
    [("push_notification_config", .obj [("url", .str "https://buyer.example/hook")])])

/-- The sample create with an endpoint. -/
def pushedDesk : Desk :=
  emptyDesk.created (sampleCreateEnv true true) sampleCreateRequest sampleIds pushedPayload

/-- Its submission. -/
def pushedSubmission : Submission :=
  submissionOf (sampleCreateEnv true true) sampleIds

/-- Its approval on the page of the workflow. -/
def pushedApproval : OutcomeEvent :=
  pushedSubmission.event .approveOnWorkflowPage
    (pushedDesk.store.getStepById sampleExecuteEnv.tenantId pushedSubmission.taskId)
    (pushedDesk.store.mediaBuyOfStep pushedSubmission.taskId) sampleExecuteEnv
    (AdminOutcome.result
      (approveWorkflowStep sampleExecuteEnv pushedDesk.store pushedSubmission.taskId))
    pushedDesk (approveOnWorkflowPage sampleExecuteEnv pushedSubmission.taskId pushedDesk)

theorem pushedApproval_run :
    Run (Happens pushedSubmission) pushedDesk [.decision pushedApproval]
      (approveOnWorkflowPage sampleExecuteEnv pushedSubmission.taskId pushedDesk) :=
  .single (.decision (.approveOnWorkflowPage sampleExecuteEnv rfl))

theorem pushed_submitted :
    (createMediaBuy (sampleCreateEnv true true) sampleCreateRequest sampleIds).reply =
      .submitted "step_1" := by
  decide +kernel

/-- The sample create is reported as it is while its buyer looks, and not after its
approval. -/
theorem submitted_truthful_sample :
    Truthful (fun _ => true) pushedSubmission [.meanwhile] pushedDesk ∧
      ¬ Truthful (fun _ => true) pushedSubmission [.decision pushedApproval]
        (approveOnWorkflowPage sampleExecuteEnv pushedSubmission.taskId pushedDesk) := by
  have hlook : Run (Happens pushedSubmission) pushedDesk [.meanwhile] pushedDesk :=
    .single (.meanwhile (.event .look rfl))
  have hnothing : NothingDone pushedPayload.requestData [.meanwhile] := by
    constructor <;> simp
  refine ⟨(@submitted_truthful_iff emptyDesk _ _ _ _ _ _ _ _ pushed_submitted hlook).mpr
    hnothing, fun htruthful => ?_⟩
  have hheld := ((@submitted_truthful_iff emptyDesk _ _ _ _ _ _ _ _ pushed_submitted
    pushedApproval_run).mp htruthful).unlistened pushedApproval List.mem_cons_self
      (by decide +kernel)
  exact absurd hheld (by decide +kernel)

/-- Counterexample: the sample create is approved on the page of the workflow and its
order is created.  From then on its buyer is told an unknown status, and its endpoint is
told nothing. -/
theorem executed_unreported :
    Run (Happens pushedSubmission) pushedDesk [.decision pushedApproval]
        (approveOnWorkflowPage sampleExecuteEnv pushedSubmission.taskId pushedDesk) ∧
      pushedApproval.result = some .executed ∧ pushedApproval.before = some .inputRequired ∧
      pushedApproval.after = some .unknown ∧ pushedApproval.announced = [] ∧
      pushUrl (pushedDesk.payload pushedSubmission.taskId).requestData =
        some "https://buyer.example/hook" ∧
      ¬ Truthful (fun _ => true) pushedSubmission [.decision pushedApproval]
        (approveOnWorkflowPage sampleExecuteEnv pushedSubmission.taskId pushedDesk) := by
  have hexecuted : pushedApproval.result = some .executed := by decide +kernel
  refine ⟨pushedApproval_run, hexecuted, by decide +kernel, by decide +kernel,
    by decide +kernel, by decide +kernel, fun htruthful => ?_⟩
  obtain ⟨view, hview, -, hcompleted, -⟩ := htruthful.reported
  have hreport : (getTaskStatus (fun _ => true)
      (approveOnWorkflowPage sampleExecuteEnv pushedSubmission.taskId pushedDesk)
      pushedSubmission.tenantId pushedSubmission.principalId pushedSubmission.taskId
      true false).toOption.map (·.status) = some .unknown := by decide +kernel
  rw [hview] at hreport
  have hunknown : view.status = .unknown := Option.some.inj hreport
  have hstatus := hcompleted.mpr (.inl ⟨pushedApproval, List.mem_cons_self, hexecuted⟩)
  rw [hunknown] at hstatus
  cases hstatus

end Samples

end Tasks
end SalesAgent
