import SalesAgent.MediaBuy.Execute

/-!
# Deciding on a submitted create

A create that needs a human answers with the id of its workflow step.  An
administrator decides on the page of the media buy or on the page of the workflow.
Either approval executes the buy the step is mapped to if it waits for approval.

The page of the media buy works on a step that still waits and writes the buy when it
rejects.  The page of the workflow writes whatever step it is given, and leaves the buy
alone when it rejects.

**Results.**
* `submitted_executable_iff`: which submitted creates an approval can execute.
* `decisionsFinal_of_run`: when decisions are final and agree with the buy.
-/

namespace SalesAgent
namespace MediaBuys

open Runs (Run Restrict)

/-- The step waits for a human. -/
def WorkflowStepStatus.waits : WorkflowStepStatus → Bool
  | .requiresApproval => true
  | .pendingApproval => true
  | _ => false

/-- `get_by_step_id`: the step, within the tenant. -/
def Store.getStepById
    (store : Store)
    (tenantId stepId : String) : Option WorkflowStep :=
  (store.steps.find stepId).filter (fun s => s.tenantId = tenantId)

/-- The status of a step of the tenant. -/
def Store.stepStatus
    (store : Store)
    (tenantId stepId : String) : Option WorkflowStepStatus :=
  (store.getStepById tenantId stepId).map (·.status)

/-- The first media buy a step is mapped to. -/
def Store.mediaBuyOfStep
    (store : Store)
    (stepId : String) : Option String :=
  (store.mappings.find? (fun m => m.stepId = stepId ∧ m.objectType = "media_buy")).map
    (·.objectId)

/-- A waiting step that is mapped to the buy. -/
def Store.pendingStepOf
    (store : Store)
    (tenantId mediaBuyId : String) : Option WorkflowStep :=
  store.steps.rows.find? (fun s => s.tenantId = tenantId ∧ s.status.waits ∧
    store.mappings.any (fun m =>
      m.stepId = s.stepId ∧ m.objectType = "media_buy" ∧ m.objectId = mediaBuyId))

/-- The store after a decision, and the buy it executed with how that ended. -/
structure AdminOutcome where
  store : Store
  execution : Option (String × ExecuteOutcome) := none

/-- Whether the decision asked the ad server. -/
def AdminOutcome.asked
    (outcome : AdminOutcome) : Bool :=
  outcome.execution.any (·.2.asked)

section Routes

variable (env : ExecuteEnv) (store : Store)

/-- Execute a buy that waits for approval. -/
def executePending
    (mediaBuyId : String) : AdminOutcome :=
  if statusOf env.tenantId mediaBuyId store.toBuyRows = some .pendingApproval then
    let executed := executeApprovedMediaBuy env mediaBuyId store.toBuyRows
    ⟨{ store with toBuyRows := executed.rows }, some (mediaBuyId, executed)⟩
  else ⟨store, none⟩

/-- `approve_workflow_step`. -/
def approveWorkflowStep
    (stepId : String) : AdminOutcome :=
  match store.getStepById env.tenantId stepId with
  | none => ⟨store, none⟩
  | some _ =>
      let approved := store.updateWorkflowStep stepId .approved
      match approved.mediaBuyOfStep stepId with
      | none => ⟨approved, none⟩
      | some mediaBuyId => executePending env approved mediaBuyId

/-- `reject_workflow_step`: the buy is left alone. -/
def rejectWorkflowStep
    (stepId : String) : AdminOutcome :=
  match store.getStepById env.tenantId stepId with
  | none => ⟨store, none⟩
  | some _ => ⟨store.updateWorkflowStep stepId .rejected, none⟩

/-- `approve_media_buy` with the action to approve. -/
def approveMediaBuy
    (mediaBuyId : String) : AdminOutcome :=
  match store.pendingStepOf env.tenantId mediaBuyId with
  | none => ⟨store, none⟩
  | some step =>
      executePending env (store.updateWorkflowStep step.stepId .approved) mediaBuyId

/-- `approve_media_buy` with the action to reject. -/
def rejectMediaBuy
    (mediaBuyId : String) : AdminOutcome :=
  match store.pendingStepOf env.tenantId mediaBuyId with
  | none => ⟨store, none⟩
  | some step =>
      let rejected := store.updateWorkflowStep step.stepId .rejected
      if statusOf env.tenantId mediaBuyId store.toBuyRows = some .pendingApproval then
        ⟨{ rejected with
            toBuyRows := rejected.toBuyRows.modifyBuy env.tenantId mediaBuyId
              (.updateStatus .rejected env.later) }, none⟩
      else ⟨rejected, none⟩

end Routes

section Steps

variable {store : Store} {tenantId stepId mediaBuyId : String}

theorem getStepById_updateWorkflowStep_of_ne
    {other : String}
    (hne : stepId ≠ other)
    (store : Store)
    (tenantId : String)
    (status : WorkflowStepStatus) :
    (store.updateWorkflowStep other status).getStepById tenantId stepId =
      store.getStepById tenantId stepId := by
  have hfind : (store.updateWorkflowStep other status).steps.find stepId =
      store.steps.find stepId :=
    IndexedTable.find_modify_of_ne _ _ (WorkflowStep.primaryKey_withStatus status) hne
  unfold Store.getStepById
  rw [hfind]

theorem getStepById_updateWorkflowStep
    (store : Store)
    (tenantId stepId : String)
    (status : WorkflowStepStatus) :
    (store.updateWorkflowStep stepId status).getStepById tenantId stepId =
      (store.getStepById tenantId stepId).map (WorkflowStep.withStatus status) := by
  unfold Store.getStepById
  rw [Store.find_updateWorkflowStep]
  cases store.steps.find stepId with
  | none => rfl
  | some s =>
      by_cases h : s.tenantId = tenantId
      · simp [h, WorkflowStep.withStatus, Option.filter]
      · simp [h, WorkflowStep.withStatus, Option.filter]

theorem stepStatus_updateWorkflowStep
    {status : WorkflowStepStatus}
    (hstep : (store.getStepById tenantId stepId).isSome) :
    (store.updateWorkflowStep stepId status).stepStatus tenantId stepId = some status := by
  unfold Store.stepStatus
  rw [getStepById_updateWorkflowStep]
  obtain ⟨s, hs⟩ := Option.isSome_iff_exists.mp hstep
  rw [hs]
  rfl

theorem pendingStepOf_eq_some
    {s : WorkflowStep}
    (h : store.pendingStepOf tenantId mediaBuyId = some s) :
    store.getStepById tenantId s.stepId = some s ∧ s.status.waits = true := by
  unfold Store.pendingStepOf at h
  have hfacts := List.find?_some h
  simp only [Bool.decide_and, Bool.and_eq_true, decide_eq_true_eq] at hfacts
  have hfound : store.steps.find s.stepId = some s :=
    (IndexedTable.find_eq_some_iff _).mpr ⟨List.mem_of_find?_eq_some h, rfl⟩
  refine ⟨?_, hfacts.2.1⟩
  unfold Store.getStepById
  rw [hfound]
  simp [hfacts.1]

/-- The page of a buy finds a step where one waits. -/
theorem pendingStepOf_isSome
    {s : WorkflowStep}
    (hstep : store.getStepById tenantId stepId = some s)
    (hwaits : s.status.waits = true)
    (hmapped : store.mediaBuyOfStep stepId = some mediaBuyId) :
    ∃ found, store.pendingStepOf tenantId mediaBuyId = some found := by
  unfold Store.getStepById at hstep
  obtain ⟨hfind, htenant⟩ := Option.filter_eq_some_iff.mp hstep
  obtain ⟨hmem, hkey⟩ := (IndexedTable.find_eq_some_iff _).mp hfind
  have hid : s.stepId = stepId := by simpa [WorkflowStep.primaryKey] using hkey
  unfold Store.mediaBuyOfStep at hmapped
  obtain ⟨m, hm, hobject⟩ := Option.map_eq_some_iff.mp hmapped
  have hmapping := List.find?_some hm
  simp only [Bool.decide_and, Bool.and_eq_true, decide_eq_true_eq] at hmapping
  refine Option.isSome_iff_exists.mp (List.find?_isSome.mpr ⟨s, hmem, ?_⟩)
  simp only [Bool.decide_and, Bool.and_eq_true, decide_eq_true_eq]
  refine ⟨by simpa using htenant, hwaits, List.any_eq_true.mpr ⟨m, ?_, ?_⟩⟩
  · exact List.mem_of_find?_eq_some hm
  · simp [hmapping.1, hmapping.2, hobject, hid]

end Steps

section Executing

variable {env : ExecuteEnv} {store : Store} {mediaBuyId : String}

theorem executePending_of_pending
    (h : statusOf env.tenantId mediaBuyId store.toBuyRows = some .pendingApproval) :
    executePending env store mediaBuyId =
      ⟨{ store with
          toBuyRows := (executeApprovedMediaBuy env mediaBuyId store.toBuyRows).rows },
        some (mediaBuyId, executeApprovedMediaBuy env mediaBuyId store.toBuyRows)⟩ := by
  unfold executePending
  rw [if_pos h]

theorem executePending_of_not_pending
    (h : statusOf env.tenantId mediaBuyId store.toBuyRows ≠ some .pendingApproval) :
    executePending env store mediaBuyId = ⟨store, none⟩ := by
  unfold executePending
  rw [if_neg h]

theorem executePending_steps
    (env : ExecuteEnv)
    (store : Store)
    (mediaBuyId : String) :
    (executePending env store mediaBuyId).store.steps = store.steps ∧
      (executePending env store mediaBuyId).store.mappings = store.mappings := by
  unfold executePending
  split
  · exact ⟨rfl, rfl⟩
  · exact ⟨rfl, rfl⟩

end Executing

/-- A waiting step of the tenant is mapped to a buy of the principal that waits for
approval and has a package, so either page executes the buy. -/
structure Executable
    (tenantId principalId stepId : String)
    (store : Store) : Prop where
  exists_buy : ∃ mediaBuyId,
    store.HasBuy tenantId mediaBuyId
      (fun b => b.status = .pendingApproval ∧ b.principalId = principalId) ∧
    (∃ p ∈ store.packages, p.mediaBuyId = mediaBuyId) ∧
    (∃ s, store.getStepById tenantId stepId = some s ∧ s.status.waits = true) ∧
    (∃ m ∈ store.mappings, m.stepId = stepId ∧ m.objectType = "media_buy" ∧
      m.objectId = mediaBuyId) ∧
    ∀ env : ExecuteEnv, env.tenantId = tenantId →
      (approveWorkflowStep env store stepId).execution =
          some (mediaBuyId, executeApprovedMediaBuy env mediaBuyId store.toBuyRows) ∧
        (approveMediaBuy env store mediaBuyId).execution =
          some (mediaBuyId, executeApprovedMediaBuy env mediaBuyId store.toBuyRows)

/-- What a create leaves that waits for approval: a waiting step whose buy waits. -/
structure Awaiting
    (tenantId stepId mediaBuyId : String)
    (store : Store) : Prop where
  step : ∃ s, store.getStepById tenantId stepId = some s ∧ s.status.waits = true
  mapped : store.mediaBuyOfStep stepId = some mediaBuyId
  pending : statusOf tenantId mediaBuyId store.toBuyRows = some .pendingApproval

section Submitted

variable {store : Store} {tenantId stepId mediaBuyId : String}

/-- Approving a waiting step on either page executes its buy. -/
theorem Awaiting.executes
    (h : Awaiting tenantId stepId mediaBuyId store)
    {env : ExecuteEnv}
    (htenant : env.tenantId = tenantId) :
    (approveWorkflowStep env store stepId).execution =
        some (mediaBuyId, executeApprovedMediaBuy env mediaBuyId store.toBuyRows) ∧
      (approveMediaBuy env store mediaBuyId).execution =
        some (mediaBuyId, executeApprovedMediaBuy env mediaBuyId store.toBuyRows) := by
  subst htenant
  obtain ⟨s, hstep, hwaits⟩ := h.step
  have hmapped := h.mapped
  have hpending := h.pending
  constructor
  · have hmapped' : (store.updateWorkflowStep stepId .approved).mediaBuyOfStep stepId =
        some mediaBuyId := hmapped
    have hpending' : statusOf env.tenantId mediaBuyId
        (store.updateWorkflowStep stepId .approved).toBuyRows = some .pendingApproval := hpending
    unfold approveWorkflowStep
    rw [hstep]
    simp only [hmapped']
    rw [executePending_of_pending hpending']
    rfl
  · obtain ⟨found, hfound⟩ := pendingStepOf_isSome hstep hwaits hmapped
    have hpending' : statusOf env.tenantId mediaBuyId
        (store.updateWorkflowStep found.stepId .approved).toBuyRows = some .pendingApproval :=
      hpending
    unfold approveMediaBuy
    rw [hfound]
    simp only
    rw [executePending_of_pending hpending']
    rfl

variable {env : CreateEnv} {req : CreateRequest} {ids : GeneratedIds store}

theorem mediaBuyOfStep_of_mappings
    {after : Store} {mediaBuyId : String}
    (hmappings : after.mappings = store.mappings ++ [createMapping ids mediaBuyId]) :
    after.mediaBuyOfStep ids.stepId = some mediaBuyId := by
  have hnone : store.mappings.find?
      (fun m => m.stepId = ids.stepId ∧ m.objectType = "media_buy") = none := by
    rw [List.find?_eq_none]
    intro m hm
    simp [ids.stepId_unmapped m hm]
  unfold Store.mediaBuyOfStep
  rw [hmappings, List.find?_append, hnone]
  simp [createMapping]

theorem getStepById_of_createStep
    {after : Store} {status : WorkflowStepStatus}
    (hstep : after.steps.find ids.stepId = some ((createStep env ids).withStatus status)) :
    after.getStepById env.tenantId ids.stepId = some ((createStep env ids).withStatus status) := by
  unfold Store.getStepById
  rw [hstep]
  simp [createStep, WorkflowStep.withStatus]

theorem manualRow_status
    (b : NewBuy)
    (now : DateTime) :
    (b.manualRow now).status = .pendingApproval := by
  unfold NewBuy.manualRow MediaBuy.createFromRequest
  obtain ⟨confirmedAt, hstamp⟩ := MediaBuy.stamp_eq _ false now
  rw [hstamp]

theorem hasBuy_of_booked
    {packages : List PackageRequest} {stored : List MediaPackage} {after : Store}
    (hbooked : Booked env ids ((newBuy env req ids.mediaBuyId packages).manualRow env.later)
      stored .requiresApproval after) :
    after.HasBuy env.tenantId ids.mediaBuyId
      (fun b => b.status = .pendingApproval ∧ b.principalId = env.principalId) := by
  have hrow := NewBuy.manualRow_inserted (newBuy env req ids.mediaBuyId packages) env.later
  refine ⟨(newBuy env req ids.mediaBuyId packages).manualRow env.later, ?_,
    manualRow_status _ _, hrow.principalId⟩
  have hfound := hbooked.mediaBuy
  rw [hrow.mediaBuyId] at hfound
  unfold BuyRows.getById
  rw [show (newBuy env req ids.mediaBuyId packages).mediaBuyId = ids.mediaBuyId from rfl] at hfound
  rw [hfound, Option.filter_eq_some_iff]
  have htenant : ((newBuy env req ids.mediaBuyId packages).manualRow env.later).tenantId =
      env.tenantId := hrow.tenantId
  exact ⟨rfl, by simpa using htenant⟩

theorem awaiting_of_booked
    {packages : List PackageRequest} {stored : List MediaPackage} {after : Store}
    (hbooked : Booked env ids ((newBuy env req ids.mediaBuyId packages).manualRow env.later)
      stored .requiresApproval after) :
    Awaiting env.tenantId ids.stepId ids.mediaBuyId after where
  step := ⟨_, getStepById_of_createStep hbooked.step, rfl⟩
  mapped := by
    have hid := (NewBuy.manualRow_inserted (newBuy env req ids.mediaBuyId packages)
      env.later).mediaBuyId
    have hmappings := hbooked.mappings
    rw [hid] at hmappings
    exact mediaBuyOfStep_of_mappings hmappings
  pending := by
    obtain ⟨b, hfound, hstatus, -⟩ := hasBuy_of_booked hbooked
    unfold statusOf
    rw [hfound]
    simp [hstatus]

theorem exists_package_of_booked
    {packages : List PackageRequest} {rows : BuyRows} {after : Store}
    (hgate : createGate env req = none)
    (hupload : uploadCreatives env req.packages store.toBuyRows = (rows, .ok packages))
    (hbooked : Booked env ids ((newBuy env req ids.mediaBuyId packages).manualRow env.later)
      ((ids.named packages).map (pendingPackage env req ids)) .requiresApproval after) :
    ∃ p ∈ after.packages, p.mediaBuyId = ids.mediaBuyId := by
  obtain ⟨pkg, hpkg, -⟩ := exists_budget_of_totalBudget_pos (budgetGate_of_createGate hgate)
  have hpos : 0 < req.packages.length := List.length_pos_of_mem hpkg
  have hlength : packages.length = req.packages.length :=
    (uploadCreatives_ok hupload).length_eq.symm
  have hnamed : (ids.named packages) ≠ [] := by
    unfold GeneratedIds.named
    intro hempty
    have hnil : packages.zipIdx.length = 0 := by simpa using congrArg List.length hempty
    rw [List.length_zipIdx] at hnil
    omega
  obtain ⟨named, hmem⟩ := List.exists_mem_of_ne_nil _ hnamed
  exact ⟨pendingPackage env req ids named,
    (hbooked.mem_packages _).mpr (.inl (List.mem_map_of_mem hmem)), rfl⟩

/-- A submitted create can be executed exactly if the seller approves creates by hand;
the step that a product's configuration leaves waiting is mapped to nothing. -/
theorem submitted_executable_iff
    {taskId : String}
    (hsubmitted : (createMediaBuy env req ids).reply = .submitted taskId) :
    Executable env.tenantId env.principalId taskId (createMediaBuy env req ids).store ↔
      createNeedsApproval env = true := by
  have haccepted : ∀ err, (createMediaBuy env req ids).reply ≠ .failed err := by
    intro err herr
    rw [hsubmitted] at herr
    cases herr
  obtain ⟨hgate, hexit⟩ := createMediaBuy_accepted haccepted
  generalize createMediaBuy env req ids = outcome at hsubmitted hexit ⊢
  cases hexit with
  | pending hmanual hupload hbooked =>
      cases hsubmitted
      refine iff_of_true ?_ hmanual
      have hawaiting := awaiting_of_booked hbooked
      refine ⟨ids.mediaBuyId, hasBuy_of_booked hbooked,
        exists_package_of_booked hgate hupload hbooked, hawaiting.step,
        ⟨createMapping ids ids.mediaBuyId, ?_, rfl, rfl, rfl⟩,
        fun env htenant => hawaiting.executes htenant⟩
      rw [hbooked.mappings, (NewBuy.manualRow_inserted _ _).mediaBuyId]
      exact List.mem_append_right _ (List.mem_singleton_self _)
  | configured hmanual _ hstep =>
      cases hsubmitted
      refine iff_of_false ?_ (by simp [hmanual])
      rintro ⟨mediaBuyId, -, -, -, ⟨m, hm, hmapped, -⟩, -⟩
      rw [hstep.mappings] at hm
      exact ids.stepId_unmapped m hm hmapped
  | ordered => cases hsubmitted

/-- The sample tenant approves by hand, and its submitted create can be executed. -/
theorem submitted_executable_by_hand :
    Executable "tenant" "principal" "step_1"
      (createMediaBuy (sampleCreateEnv true true) sampleCreateRequest sampleIds).store := by
  have hsubmitted : (createMediaBuy (sampleCreateEnv true true) sampleCreateRequest
      sampleIds).reply = .submitted "step_1" := by decide +kernel
  exact (submitted_executable_iff hsubmitted).mpr rfl

/-- Counterexample: a product that is not created automatically leaves a waiting step
without a buy. -/
theorem unmapped_step_not_executable :
    (createMediaBuy (sampleCreateEnv false false) sampleCreateRequest sampleIds).reply =
        .submitted "step_1" ∧
      ¬ Executable "tenant" "principal" "step_1"
        (createMediaBuy (sampleCreateEnv false false) sampleCreateRequest sampleIds).store := by
  refine ⟨by decide +kernel, ?_⟩
  rintro ⟨mediaBuyId, -, -, -, ⟨m, hm, -⟩, -⟩
  have hnone : (createMediaBuy (sampleCreateEnv false false) sampleCreateRequest
      sampleIds).store.mappings = [] := by decide +kernel
  rw [hnone] at hm
  cases hm

end Submitted

/-- The four decisions. -/
inductive AdminAction
  | approveOnBuyPage
  | rejectOnBuyPage
  | approveOnWorkflowPage
  | rejectOnWorkflowPage
  deriving DecidableEq, Repr

/-- A decision, and whether it asked the ad server. -/
structure AdminEvent where
  action : AdminAction
  asked : Bool
  deriving DecidableEq, Repr

/-- A decision on a step, or on its buy, whatever waiting step the page of the buy finds. -/
inductive AdminStep
    (tenantId stepId mediaBuyId : String) :
    Store → AdminEvent → Store → Prop
  | approveOnBuyPage {store : Store} (env : ExecuteEnv)
      (htenant : env.tenantId = tenantId) :
      AdminStep tenantId stepId mediaBuyId store
        ⟨.approveOnBuyPage, (approveMediaBuy env store mediaBuyId).asked⟩
        (approveMediaBuy env store mediaBuyId).store
  | rejectOnBuyPage {store : Store} (env : ExecuteEnv)
      (htenant : env.tenantId = tenantId) :
      AdminStep tenantId stepId mediaBuyId store
        ⟨.rejectOnBuyPage, (rejectMediaBuy env store mediaBuyId).asked⟩
        (rejectMediaBuy env store mediaBuyId).store
  | approveOnWorkflowPage {store : Store} (env : ExecuteEnv)
      (htenant : env.tenantId = tenantId) :
      AdminStep tenantId stepId mediaBuyId store
        ⟨.approveOnWorkflowPage, (approveWorkflowStep env store stepId).asked⟩
        (approveWorkflowStep env store stepId).store
  | rejectOnWorkflowPage {store : Store} (env : ExecuteEnv)
      (htenant : env.tenantId = tenantId) :
      AdminStep tenantId stepId mediaBuyId store
        ⟨.rejectOnWorkflowPage, (rejectWorkflowStep env store stepId).asked⟩
        (rejectWorkflowStep env store stepId).store

/-- The page of the workflow rejects only what the page of the buy has rejected, and the page
of a buy that waits for approval finds the step itself and not another one of the buy. -/
def DecidesStep
    (tenantId stepId mediaBuyId : String)
    (store : Store)
    (e : AdminEvent) : Prop :=
  match e.action with
  | .approveOnWorkflowPage => True
  | .rejectOnWorkflowPage => statusOf tenantId mediaBuyId store.toBuyRows = some .rejected
  | _ =>
      statusOf tenantId mediaBuyId store.toBuyRows = some .pendingApproval →
        ∀ s, store.pendingStepOf tenantId mediaBuyId = some s → s.stepId = stepId

/-- What a history of decisions leaves: the step is there and mapped to the buy, and its
status, the buy and the ad server agree. -/
structure Decided
    (tenantId stepId mediaBuyId : String)
    (es : List AdminEvent)
    (store : Store) : Prop where
  step : (store.getStepById tenantId stepId).isSome
  mapped : store.mediaBuyOfStep stepId = some mediaBuyId
  waiting : ∀ status, store.stepStatus tenantId stepId = some status → status.waits = true →
    statusOf tenantId mediaBuyId store.toBuyRows = some .pendingApproval
  rejected : store.stepStatus tenantId stepId = some .rejected →
    statusOf tenantId mediaBuyId store.toBuyRows = some .rejected
  asked : (∃ e ∈ es, e.asked = true) →
    store.stepStatus tenantId stepId = some .approved ∧
      ∃ status, statusOf tenantId mediaBuyId store.toBuyRows = some status ∧
        status ≠ .pendingApproval ∧ status ≠ .rejected

/-- Decisions are final: once the step is rejected, no later decision asks the ad server
and the buy is rejected; once the ad server was asked, the step stays approved. -/
structure DecisionsFinal
    (tenantId stepId mediaBuyId : String)
    (es : List AdminEvent)
    (middle : Store)
    (fs : List AdminEvent)
    (last : Store) : Prop where
  rejected : middle.stepStatus tenantId stepId = some .rejected →
    (∀ e ∈ fs, e.asked = false) ∧
      statusOf tenantId mediaBuyId last.toBuyRows = some .rejected
  ordered : (∃ e ∈ es, e.asked = true) → last.stepStatus tenantId stepId = some .approved

section Decisions

variable {env : ExecuteEnv} {store store' : Store} {tenantId stepId mediaBuyId : String}

theorem statusOf_of_asked
    {rows : BuyRows}
    (hasked : (executeApprovedMediaBuy env mediaBuyId rows).asked = true) :
    ∃ status, statusOf env.tenantId mediaBuyId
        (executeApprovedMediaBuy env mediaBuyId rows).rows = some status ∧
      status ≠ .pendingApproval ∧ status ≠ .rejected := by
  have hexit : ExecuteExit env mediaBuyId rows (executeApprovedMediaBuy env mediaBuyId rows) :=
    execute_exit
  by_cases hexecuted : (executeApprovedMediaBuy env mediaBuyId rows).result.outcome = .executed
  · obtain ⟨b, b', -, hb', hstatus, -⟩ := executed_of_exit hexit hexecuted
    have hflight := resolve_of_approved b env.now
    rw [← hstatus] at hflight
    refine ⟨b'.status, by unfold statusOf; rw [hb']; rfl, ?_, ?_⟩
    · intro hpending
      rw [hpending] at hflight
      simp at hflight
    · intro hrejected
      rw [hrejected] at hflight
      simp at hflight
  · obtain ⟨b, b', -, hb', hstatus, -⟩ := failed_of_exit hexit hasked hexecuted
    refine ⟨.failed, ?_, by simp, by simp⟩
    unfold statusOf
    rw [hb', Option.map_some, hstatus]

theorem Decided.unchanged
    {es : List AdminEvent} {action : AdminAction}
    (h : Decided tenantId stepId mediaBuyId es store) :
    Decided tenantId stepId mediaBuyId (es ++ [⟨action, false⟩]) store where
  step := h.step
  mapped := h.mapped
  waiting := h.waiting
  rejected := h.rejected
  asked := by
    rintro ⟨e, he, hasked⟩
    rcases List.mem_append.mp he with hold | hnew
    · exact h.asked ⟨e, hold, hasked⟩
    · obtain rfl := List.mem_singleton.mp hnew
      cases hasked

/-- A decision that writes another step. -/
theorem Decided.other
    {es : List AdminEvent} {action : AdminAction} {other : String}
    (h : Decided tenantId stepId mediaBuyId es store)
    (hne : stepId ≠ other)
    (status : WorkflowStepStatus) :
    Decided tenantId stepId mediaBuyId (es ++ [⟨action, false⟩])
      (store.updateWorkflowStep other status) := by
  have hget := getStepById_updateWorkflowStep_of_ne hne store tenantId status
  have hstatus : (store.updateWorkflowStep other status).stepStatus tenantId stepId =
      store.stepStatus tenantId stepId := by
    unfold Store.stepStatus
    rw [hget]
  refine ⟨hget ▸ h.step, h.mapped, ?_, ?_, ?_⟩
  · intro found hfound
    exact h.waiting found (hstatus ▸ hfound)
  · intro hrejected
    exact h.rejected (hstatus ▸ hrejected)
  · intro hasked
    rw [hstatus]
    exact h.unchanged.asked hasked

/-- An approved step, whose buy is executed if it waits. -/
theorem Decided.approve
    {es : List AdminEvent} {action : AdminAction}
    (h : Decided env.tenantId stepId mediaBuyId es store) :
    Decided env.tenantId stepId mediaBuyId
      (es ++ [⟨action,
        (executePending env (store.updateWorkflowStep stepId .approved) mediaBuyId).asked⟩])
      (executePending env (store.updateWorkflowStep stepId .approved) mediaBuyId).store := by
  obtain ⟨hsteps, hmappings⟩ :=
    executePending_steps env (store.updateWorkflowStep stepId .approved) mediaBuyId
  have hget : ∀ id, (executePending env (store.updateWorkflowStep stepId .approved)
      mediaBuyId).store.getStepById env.tenantId id =
        (store.updateWorkflowStep stepId .approved).getStepById env.tenantId id := by
    intro id
    unfold Store.getStepById
    rw [hsteps]
  have hstatus : (executePending env (store.updateWorkflowStep stepId .approved)
      mediaBuyId).store.stepStatus env.tenantId stepId = some .approved := by
    unfold Store.stepStatus
    rw [hget]
    exact stepStatus_updateWorkflowStep h.step
  refine ⟨?_, ?_, ?_, ?_, ?_⟩
  · rw [hget, getStepById_updateWorkflowStep, Option.isSome_map]
    exact h.step
  · unfold Store.mediaBuyOfStep
    rw [hmappings]
    exact h.mapped
  · intro status hsome hwaits
    rw [hstatus] at hsome
    cases hsome
    cases hwaits
  · intro hrejected
    rw [hstatus] at hrejected
    cases hrejected
  · rintro ⟨e, he, hasked⟩
    refine ⟨hstatus, ?_⟩
    rcases List.mem_append.mp he with hold | hnew
    · -- the buy has left its waiting status, so nothing is executed again
      obtain ⟨status, hbuy, hpending, hrejected⟩ := (h.asked ⟨e, hold, hasked⟩).2
      have hidle : statusOf env.tenantId mediaBuyId
          (store.updateWorkflowStep stepId .approved).toBuyRows ≠ some .pendingApproval := by
        rw [Store.updateWorkflowStep_toBuyRows, hbuy]
        simpa using hpending
      rw [executePending_of_not_pending hidle]
      exact ⟨status, hbuy, hpending, hrejected⟩
    · obtain rfl := List.mem_singleton.mp hnew
      by_cases hpending : statusOf env.tenantId mediaBuyId
          (store.updateWorkflowStep stepId .approved).toBuyRows = some .pendingApproval
      · rw [executePending_of_pending hpending] at hasked ⊢
        exact statusOf_of_asked hasked
      · rw [executePending_of_not_pending hpending] at hasked
        cases hasked

/-- A waiting step that the page of the buy rejects takes its buy along. -/
theorem Decided.reject
    {es : List AdminEvent} {action : AdminAction}
    (h : Decided env.tenantId stepId mediaBuyId es store)
    (hfound : ∃ s, store.pendingStepOf env.tenantId mediaBuyId = some s ∧ s.stepId = stepId) :
    Decided env.tenantId stepId mediaBuyId
      (es ++ [⟨action, (rejectMediaBuy env store mediaBuyId).asked⟩])
      (rejectMediaBuy env store mediaBuyId).store := by
  obtain ⟨s, hfind, rfl⟩ := hfound
  obtain ⟨hget, hwaits⟩ := pendingStepOf_eq_some hfind
  have hstatus : store.stepStatus env.tenantId s.stepId = some s.status := by
    unfold Store.stepStatus
    rw [hget]
    rfl
  have hpending := h.waiting s.status hstatus hwaits
  have houtcome : rejectMediaBuy env store mediaBuyId =
      ⟨{ store.updateWorkflowStep s.stepId .rejected with
          toBuyRows := store.toBuyRows.modifyBuy env.tenantId mediaBuyId
            (.updateStatus .rejected env.later) }, none⟩ := by
    unfold rejectMediaBuy
    rw [hfind]
    simp only
    rw [if_pos hpending]
    rfl
  rw [houtcome]
  have hrejected : (store.updateWorkflowStep s.stepId .rejected).stepStatus env.tenantId
      s.stepId = some .rejected :=
    stepStatus_updateWorkflowStep h.step
  refine ⟨?_, h.mapped, ?_, ?_, ?_⟩
  · have hkept := getStepById_updateWorkflowStep store env.tenantId s.stepId .rejected
    change ((store.updateWorkflowStep s.stepId .rejected).getStepById env.tenantId
      s.stepId).isSome = true
    rw [hkept, Option.isSome_map]
    exact h.step
  · intro status hsome hwaits'
    have hsame := hrejected.symm.trans hsome
    cases hsame
    cases hwaits'
  · intro _
    unfold statusOf
    rw [BuyRows.getById_modifyBuy]
    obtain ⟨b, hb, -⟩ := Option.map_eq_some_iff.mp hpending
    rw [hb]
    simp [BuyRows.BuyChange.updateStatus, MediaBuy.updateStatus, MediaBuy.bumpRevision]
  · rintro ⟨e, he, hasked⟩
    rcases List.mem_append.mp he with hold | hnew
    · have happroved := (h.asked ⟨e, hold, hasked⟩).1
      rw [hstatus] at happroved
      rw [Option.some.inj happroved] at hwaits
      cases hwaits
    · obtain rfl := List.mem_singleton.mp hnew
      cases hasked

/-- Rejecting the step of a rejected buy. -/
theorem Decided.rejectStep
    {es : List AdminEvent} {action : AdminAction}
    (h : Decided tenantId stepId mediaBuyId es store)
    (hbuy : statusOf tenantId mediaBuyId store.toBuyRows = some .rejected) :
    Decided tenantId stepId mediaBuyId (es ++ [⟨action, false⟩])
      (store.updateWorkflowStep stepId .rejected) := by
  have hrejected : (store.updateWorkflowStep stepId .rejected).stepStatus tenantId stepId =
      some .rejected :=
    stepStatus_updateWorkflowStep h.step
  refine ⟨?_, h.mapped, ?_, fun _ => hbuy, ?_⟩
  · rw [getStepById_updateWorkflowStep, Option.isSome_map]
    exact h.step
  · intro status hsome hwaits
    rw [hrejected] at hsome
    cases hsome
    cases hwaits
  · rintro ⟨e, he, hasked⟩
    rcases List.mem_append.mp he with hold | hnew
    · obtain ⟨status, hstatus, -, hne⟩ := (h.asked ⟨e, hold, hasked⟩).2
      rw [hbuy] at hstatus
      exact absurd (Option.some.inj hstatus).symm hne
    · obtain rfl := List.mem_singleton.mp hnew
      cases hasked

theorem Decided.step_of_adminStep
    {es : List AdminEvent} {e : AdminEvent}
    (h : Decided tenantId stepId mediaBuyId es store)
    (hstep : AdminStep tenantId stepId mediaBuyId store e store')
    (hdecides : DecidesStep tenantId stepId mediaBuyId store e) :
    Decided tenantId stepId mediaBuyId (es ++ [e]) store' := by
  cases hstep with
  | approveOnBuyPage env htenant =>
      subst htenant
      cases hfind : store.pendingStepOf env.tenantId mediaBuyId with
      | none =>
          have houtcome : approveMediaBuy env store mediaBuyId = ⟨store, none⟩ := by
            unfold approveMediaBuy
            rw [hfind]
          rw [houtcome]
          exact h.unchanged
      | some s =>
          have houtcome : approveMediaBuy env store mediaBuyId =
              executePending env (store.updateWorkflowStep s.stepId .approved) mediaBuyId := by
            unfold approveMediaBuy
            rw [hfind]
          rw [houtcome]
          by_cases hours : s.stepId = stepId
          · rw [hours]
            exact h.approve
          · have hidle : statusOf env.tenantId mediaBuyId
                (store.updateWorkflowStep s.stepId .approved).toBuyRows ≠
                  some .pendingApproval :=
              fun hpending => hours (hdecides hpending s hfind)
            rw [executePending_of_not_pending hidle]
            exact h.other (Ne.symm hours) .approved
  | rejectOnBuyPage env htenant =>
      subst htenant
      cases hfind : store.pendingStepOf env.tenantId mediaBuyId with
      | none =>
          have houtcome : rejectMediaBuy env store mediaBuyId = ⟨store, none⟩ := by
            unfold rejectMediaBuy
            rw [hfind]
          rw [houtcome]
          exact h.unchanged
      | some s =>
          by_cases hours : s.stepId = stepId
          · exact h.reject ⟨s, hfind, hours⟩
          · have hidle : statusOf env.tenantId mediaBuyId store.toBuyRows ≠
                some .pendingApproval :=
              fun hpending => hours (hdecides hpending s hfind)
            have houtcome : rejectMediaBuy env store mediaBuyId =
                ⟨store.updateWorkflowStep s.stepId .rejected, none⟩ := by
              unfold rejectMediaBuy
              rw [hfind]
              exact if_neg hidle
            rw [houtcome]
            exact h.other (Ne.symm hours) .rejected
  | approveOnWorkflowPage env htenant =>
      subst htenant
      obtain ⟨s, hs⟩ := Option.isSome_iff_exists.mp h.step
      have hmapped : (store.updateWorkflowStep stepId .approved).mediaBuyOfStep stepId =
          some mediaBuyId := h.mapped
      have houtcome : approveWorkflowStep env store stepId =
          executePending env (store.updateWorkflowStep stepId .approved) mediaBuyId := by
        unfold approveWorkflowStep
        rw [hs]
        simp only [hmapped]
      rw [houtcome]
      exact h.approve
  | rejectOnWorkflowPage env htenant =>
      subst htenant
      obtain ⟨s, hs⟩ := Option.isSome_iff_exists.mp h.step
      have houtcome : rejectWorkflowStep env store stepId =
          ⟨store.updateWorkflowStep stepId .rejected, none⟩ := by
        unfold rejectWorkflowStep
        rw [hs]
      rw [houtcome]
      exact h.rejectStep hdecides

theorem adminStep_of_rejected
    {e : AdminEvent}
    (hstep : AdminStep tenantId stepId mediaBuyId store e store')
    (hmapped : store.mediaBuyOfStep stepId = some mediaBuyId)
    (hbuy : statusOf tenantId mediaBuyId store.toBuyRows = some .rejected) :
    e.asked = false ∧ statusOf tenantId mediaBuyId store'.toBuyRows = some .rejected := by
  have hidle : ∀ (env : ExecuteEnv) (id : String), env.tenantId = tenantId →
      executePending env (store.updateWorkflowStep id .approved) mediaBuyId =
        ⟨store.updateWorkflowStep id .approved, none⟩ := by
    intro env id htenant
    refine executePending_of_not_pending ?_
    rw [Store.updateWorkflowStep_toBuyRows, htenant, hbuy]
    simp
  cases hstep with
  | approveOnBuyPage env htenant =>
      unfold approveMediaBuy
      split
      · exact ⟨rfl, hbuy⟩
      · rw [hidle env _ htenant]
        exact ⟨rfl, hbuy⟩
  | rejectOnBuyPage env htenant =>
      unfold rejectMediaBuy
      split
      · exact ⟨rfl, hbuy⟩
      · rw [if_neg (by rw [htenant, hbuy]; simp)]
        exact ⟨rfl, hbuy⟩
  | approveOnWorkflowPage env htenant =>
      have hmapped' : (store.updateWorkflowStep stepId .approved).mediaBuyOfStep stepId =
          some mediaBuyId := hmapped
      unfold approveWorkflowStep
      split
      · exact ⟨rfl, hbuy⟩
      · simp only [hmapped']
        rw [hidle env stepId htenant]
        exact ⟨rfl, hbuy⟩
  | rejectOnWorkflowPage env htenant =>
      unfold rejectWorkflowStep
      split
      · exact ⟨rfl, hbuy⟩
      · exact ⟨rfl, hbuy⟩

theorem Awaiting.decided
    (h : Awaiting tenantId stepId mediaBuyId store) :
    Decided tenantId stepId mediaBuyId [] store := by
  obtain ⟨s, hstep, hwaits⟩ := h.step
  refine ⟨by rw [hstep]; rfl, h.mapped, fun _ _ _ => h.pending, ?_, ?_⟩
  · intro hrejected
    unfold Store.stepStatus at hrejected
    rw [hstep] at hrejected
    have hstatus : s.status = .rejected := Option.some.inj hrejected
    rw [hstatus] at hwaits
    cases hwaits
  · rintro ⟨e, he, -⟩
    cases he

theorem Decided.of_run
    {es fs : List AdminEvent}
    (h : Decided tenantId stepId mediaBuyId es store)
    (hrun : Run (Restrict (AdminStep tenantId stepId mediaBuyId)
      (DecidesStep tenantId stepId mediaBuyId)) store fs store') :
    Decided tenantId stepId mediaBuyId (es ++ fs) store' :=
  hrun.preserves_history (fun _ _ _ _ hinv hstep => hinv.step_of_adminStep hstep.1 hstep.2) h

theorem rejected_of_run
    {fs : List AdminEvent}
    (hmapped : store.mediaBuyOfStep stepId = some mediaBuyId)
    (hbuy : statusOf tenantId mediaBuyId store.toBuyRows = some .rejected)
    {es : List AdminEvent}
    (hdecided : Decided tenantId stepId mediaBuyId es store)
    (hrun : Run (Restrict (AdminStep tenantId stepId mediaBuyId)
      (DecidesStep tenantId stepId mediaBuyId)) store fs store') :
    (∀ e ∈ fs, e.asked = false) ∧
      statusOf tenantId mediaBuyId store'.toBuyRows = some .rejected := by
  induction hrun generalizing es with
  | nil s => exact ⟨fun e he => absurd he List.not_mem_nil, hbuy⟩
  | cons hstep _ ih =>
      have hnext := hdecided.step_of_adminStep hstep.1 hstep.2
      obtain ⟨hasked, hbuy'⟩ := adminStep_of_rejected hstep.1 hmapped hbuy
      obtain ⟨hrest, hlast⟩ := ih hnext.mapped hbuy' hnext
      exact ⟨List.forall_mem_cons.mpr ⟨hasked, hrest⟩, hlast⟩

/-- Where the page of the workflow rejects only what is rejected, and the page of a waiting buy
finds the step itself, decisions are final and agree with the buy, in whatever order the two
pages are used. -/
theorem decisionsFinal_of_run
    {es fs : List AdminEvent} {middle last : Store}
    (hstart : Awaiting tenantId stepId mediaBuyId store)
    (hfirst : Run (Restrict (AdminStep tenantId stepId mediaBuyId)
      (DecidesStep tenantId stepId mediaBuyId)) store es middle)
    (hrest : Run (Restrict (AdminStep tenantId stepId mediaBuyId)
      (DecidesStep tenantId stepId mediaBuyId)) middle fs last) :
    DecisionsFinal tenantId stepId mediaBuyId es middle fs last := by
  have hmiddle : Decided tenantId stepId mediaBuyId es middle := hstart.decided.of_run hfirst
  have hlast := hmiddle.of_run hrest
  refine ⟨fun hrejected => ?_, ?_⟩
  · exact rejected_of_run hmiddle.mapped (hmiddle.rejected hrejected) hmiddle hrest
  · rintro ⟨e, he, hasked⟩
    exact (hlast.asked ⟨e, List.mem_append_left _ he, hasked⟩).1

end Decisions

section Samples

/-- The store the sample create leaves. -/
def awaitingStore : Store :=
  (createMediaBuy (sampleCreateEnv true true) sampleCreateRequest sampleIds).store

/-- An execution whose adapter books the order. -/
def sampleExecuteEnv : ExecuteEnv :=
  { unbuiltAdapterEnv with
    getAdapter := fun _ => .ok
      { createMediaBuy := fun _ => .ok ⟨"order_1", []⟩
        uploadRaises := fun _ _ => false
        approveOrder := fun _ => .unsupported } }

theorem awaitingStore_awaiting :
    Awaiting "tenant" "step_1" "mb_1" awaitingStore := by
  refine ⟨?_, by decide +kernel, by decide +kernel⟩
  have hwaits : (awaitingStore.getStepById "tenant" "step_1").map (fun s => s.status.waits) =
      some true := by decide +kernel
  exact Option.map_eq_some_iff.mp hwaits

/-- The sample buy is rejected on its page, and approving the step afterwards on the page
of the workflow asks nothing of the ad server. -/
theorem decisionsFinal_after_rejection :
    DecisionsFinal "tenant" "step_1" "mb_1"
      [⟨.rejectOnBuyPage, false⟩]
      (rejectMediaBuy sampleExecuteEnv awaitingStore "mb_1").store
      [⟨.approveOnWorkflowPage, false⟩]
      (approveWorkflowStep sampleExecuteEnv
        (rejectMediaBuy sampleExecuteEnv awaitingStore "mb_1").store "step_1").store := by
  have hours : ∀ s, awaitingStore.pendingStepOf "tenant" "mb_1" = some s →
      s.stepId = "step_1" := by
    have hfound : (awaitingStore.pendingStepOf "tenant" "mb_1").all
        (fun s => s.stepId = "step_1") = true := by decide +kernel
    intro s hs
    rw [hs] at hfound
    simpa using hfound
  have hunasked : (rejectMediaBuy sampleExecuteEnv awaitingStore "mb_1").asked = false := by
    decide +kernel
  have hasked : (approveWorkflowStep sampleExecuteEnv
      (rejectMediaBuy sampleExecuteEnv awaitingStore "mb_1").store "step_1").asked = false := by
    decide +kernel
  have hreject : AdminStep "tenant" "step_1" "mb_1" awaitingStore _ _ :=
    .rejectOnBuyPage sampleExecuteEnv rfl
  have happrove : AdminStep "tenant" "step_1" "mb_1"
      (rejectMediaBuy sampleExecuteEnv awaitingStore "mb_1").store _ _ :=
    .approveOnWorkflowPage sampleExecuteEnv rfl
  rw [hunasked] at hreject
  rw [hasked] at happrove
  exact decisionsFinal_of_run awaitingStore_awaiting
    (.single ⟨hreject, fun _ => hours⟩) (.single ⟨happrove, trivial⟩)

/-- Counterexample: a step rejected on the page of the workflow is approved there, and
the ad server is asked for the order. -/
theorem rejected_step_is_executed :
    Awaiting "tenant" "step_1" "mb_1" awaitingStore ∧
      ∃ rejected executed,
        Run (AdminStep "tenant" "step_1" "mb_1") awaitingStore
          [⟨.rejectOnWorkflowPage, false⟩] rejected ∧
        Run (AdminStep "tenant" "step_1" "mb_1") rejected
          [⟨.approveOnWorkflowPage, true⟩] executed ∧
        ¬ DecisionsFinal "tenant" "step_1" "mb_1" [⟨.rejectOnWorkflowPage, false⟩] rejected
          [⟨.approveOnWorkflowPage, true⟩] executed := by
  have hasked : (approveWorkflowStep sampleExecuteEnv
      (rejectWorkflowStep sampleExecuteEnv awaitingStore "step_1").store "step_1").asked =
        true := by decide +kernel
  have hstatus : (rejectWorkflowStep sampleExecuteEnv awaitingStore "step_1").store.stepStatus
      "tenant" "step_1" = some .rejected := by decide +kernel
  have hunasked : (rejectWorkflowStep sampleExecuteEnv awaitingStore "step_1").asked = false := by
    decide +kernel
  have hreject : AdminStep "tenant" "step_1" "mb_1" awaitingStore _ _ :=
    .rejectOnWorkflowPage sampleExecuteEnv rfl
  have happrove : AdminStep "tenant" "step_1" "mb_1"
      (rejectWorkflowStep sampleExecuteEnv awaitingStore "step_1").store _ _ :=
    .approveOnWorkflowPage sampleExecuteEnv rfl
  rw [hunasked] at hreject
  rw [hasked] at happrove
  refine ⟨awaitingStore_awaiting, _, _, .single hreject, .single happrove, fun hfinal => ?_⟩
  have hnone := (hfinal.rejected hstatus).1 _ (List.mem_singleton_self _)
  cases hnone

end Samples

end MediaBuys
end SalesAgent
