import SalesAgent.Tasks.TaskManagement

/-!
# Who decides on a waiting step

A buy that needs a human waits in `pending_approval`, and so does the step of its create.
Administrators decide on the page of the buy, which looks for a waiting step, or on the
page of the workflow.  Buyers may complete the steps of their own calls, the waiting ones
among them.

The calls of all parties interleave; a call of `complete_task` is two events, the check
and the write.

**Results.**
* `DeskStep.effect`: what one event does to the steps that are there.
* `decisions_stay`: what buyers leave to the seller along any run.
* `buyer_takes_decision`: what they do not.
-/

namespace SalesAgent
namespace Tasks

open MediaBuys
open Runs (Run)

/-- What happens at a desk. -/
inductive DeskEvent
  | create
  | update
  | sync
  /-- `list_tasks` and `get_task_status` -/
  | look
  /-- the check of `complete_task` -/
  | readTask (c : Completion)
  /-- the write of `complete_task` -/
  | writeTask (c : Completion)
  /-- an approval or a rejection, with the step it decides on -/
  | decide (taskId : Option String)
  /-- whatever else writes rows of buys and creatives -/
  | rows

/-- The events of buyers. -/
def DeskEvent.byBuyer : DeskEvent → Prop
  | .decide _ => False
  | .rows => False
  | _ => True

/-- The step an event writes, of those that are there before it. -/
def DeskEvent.writes : DeskEvent → Option String
  | .writeTask c => some c.taskId
  | .decide taskId => taskId
  | _ => none

/-- No step and no mapping carries the id. -/
def Desk.Fresh
    (desk : Desk)
    (stepId : String) : Prop :=
  desk.store.steps.find stepId = none ∧ ∀ m ∈ desk.store.mappings, m.stepId ≠ stepId

/-- The events of a desk. -/
inductive DeskStep : Desk → DeskEvent → Desk → Prop
  | create {desk : Desk} (env : CreateEnv) (req : CreateRequest)
      (ids : GeneratedIds desk.store) (p : StepPayload) :
      DeskStep desk .create
        { desk.writePayload ids.stepId (fun _ => p) with
          store := (createMediaBuy env req ids).store }
  | update {desk : Desk} (env : UpdateEnv) (req : UpdateRequest) (p : StepPayload)
      (hfresh : desk.Fresh env.stepId) :
      DeskStep desk .update
        { desk.writePayload env.stepId (fun _ => p) with
          store := (updateMediaBuy env req desk.store).store }
  /-- a sync, with the ids of the steps it creates -/
  | sync {desk : Desk} (env : CreativeSync.SyncEnv) (req : CreativeSync.SyncCreativesRequest)
      (library : CreativeSync.SyncStore) (needing : List (String × String))
      (p : String → StepPayload)
      (hrows : library.rows = desk.store.toBuyRows)
      (hfresh : ∀ entry ∈ needing, desk.Fresh entry.1) :
      DeskStep desk .sync
        { desk with
          store := createSyncWorkflowSteps env.tenantId env.principalId needing
            { desk.store with toBuyRows := (CreativeSync.syncCreatives env req library).store.rows }
          payload := fun id => if id ∈ needing.map Prod.fst then p id else desk.payload id }
  | look {desk : Desk} :
      DeskStep desk .look desk
  | readTask {desk : Desk} (c : Completion) :
      DeskStep desk (.readTask c) (readCompletion desk c)
  | writeTask {desk : Desk} (before after : List Completion) (c : Completion)
      (hmem : desk.inFlight = before ++ c :: after) :
      DeskStep desk (.writeTask c) (writeCompletion desk before after c)
  | approveOnBuyPage {desk : Desk} (env : PageEnv) (mediaBuyId : String) :
      DeskStep desk
        (.decide ((desk.store.pendingStepOf env.execute.tenantId mediaBuyId).map (·.stepId)))
        (approveOnBuyPage env mediaBuyId desk)
  | rejectOnBuyPage {desk : Desk} (env : PageEnv) (mediaBuyId reason : String) :
      DeskStep desk
        (.decide ((desk.store.pendingStepOf env.execute.tenantId mediaBuyId).map (·.stepId)))
        (rejectOnBuyPage env mediaBuyId reason desk)
  | approveOnWorkflowPage {desk : Desk} (env : ExecuteEnv) (taskId : String) :
      DeskStep desk
        (.decide ((desk.store.getStepById env.tenantId taskId).map (fun _ => taskId)))
        (approveOnWorkflowPage env taskId desk)
  | rejectOnWorkflowPage {desk : Desk} (env : ExecuteEnv) (taskId reason : String) :
      DeskStep desk
        (.decide ((desk.store.getStepById env.tenantId taskId).map (fun _ => taskId)))
        (rejectOnWorkflowPage env taskId reason desk)
  | rows {desk : Desk} (rows : BuyRows) :
      DeskStep desk .rows { desk with store := { desk.store with toBuyRows := rows } }

/-- The step of a call is one of its own principal. -/
def Desk.Owns
    (desk : Desk)
    (c : Completion) : Prop :=
  ∃ s, desk.store.steps.find c.taskId = some s ∧ s.tenantId = c.tenantId ∧
    s.principalId = c.principalId

/-- What one event does to the steps that are there before it. -/
structure DeskEffect
    (desk : Desk)
    (e : DeskEvent)
    (desk' : Desk) : Prop where
  /-- a step the event does not write is left alone -/
  kept : ∀ id, (desk.store.steps.find id).isSome → e.writes ≠ some id →
    desk'.store.steps.find id = desk.store.steps.find id ∧ desk'.payload id = desk.payload id
  /-- a step it writes is finished -/
  written : ∀ id s, desk.store.steps.find id = some s → e.writes = some id →
    ∃ status, desk'.store.steps.find id = some (s.withStatus status) ∧ completable status = false
  /-- what was submitted is not changed -/
  submitted : ∀ id, (desk.store.steps.find id).isSome →
    (desk'.payload id).requestData = (desk.payload id).requestData
  mapped : ∀ id mediaBuyId, desk.store.mediaBuyOfStep id = some mediaBuyId →
    desk'.store.mediaBuyOfStep id = some mediaBuyId
  /-- a call in progress has checked its step -/
  reading : ∀ c ∈ desk'.inFlight, c ∈ desk.inFlight ∨ checkCompletion desk c = .ok ()

section Effects

variable {desk desk' : Desk}

theorem payload_writePayload_of_ne
    {id taskId : String} {change : StepPayload → StepPayload}
    (h : id ≠ taskId) :
    (desk.writePayload taskId change).payload id = desk.payload id :=
  Function.update_of_ne h _ _

theorem payload_writePayload_self
    (taskId : String)
    (change : StepPayload → StepPayload) :
    (desk.writePayload taskId change).payload taskId = change (desk.payload taskId) :=
  Function.update_self _ _ _

theorem DeskEffect.of_stepsKept
    (own : String → Prop)
    {e : DeskEvent}
    (hfresh : ∀ id, own id → desk.store.steps.find id = none)
    (hkept : StepsKept own desk.store desk'.store)
    (hpayload : ∀ id, ¬ own id → desk'.payload id = desk.payload id)
    (hwrites : e.writes = none)
    (hreading : desk'.inFlight = desk.inFlight) :
    DeskEffect desk e desk' := by
  have hforeign : ∀ id, (desk.store.steps.find id).isSome → ¬ own id := by
    intro id hsome hown
    rw [hfresh id hown] at hsome
    cases hsome
  refine ⟨?_, ?_, ?_, fun id mediaBuyId => hkept.mediaBuyOfStep, ?_⟩
  · intro id hsome _
    exact ⟨hkept.steps id (hforeign id hsome), hpayload id (hforeign id hsome)⟩
  · intro id s _ hid
    rw [hwrites] at hid
    cases hid
  · intro id hsome
    rw [hpayload id (hforeign id hsome)]
  · intro c hc
    rw [hreading] at hc
    exact .inl hc

theorem DeskEffect.of_updated
    (taskId : String)
    (status : WorkflowStepStatus)
    (change : StepPayload → StepPayload)
    {e : DeskEvent}
    (hsteps : desk'.store.steps = (desk.store.updateWorkflowStep taskId status).steps)
    (hmappings : desk'.store.mappings = desk.store.mappings)
    (hpayload : desk'.payload = (desk.writePayload taskId change).payload)
    (hchange : ∀ p, (change p).requestData = p.requestData)
    (hstatus : completable status = false)
    (hwrites : e.writes = some taskId)
    (hreading : ∀ c ∈ desk'.inFlight, c ∈ desk.inFlight) :
    DeskEffect desk e desk' := by
  refine ⟨?_, ?_, ?_, ?_, fun c hc => .inl (hreading c hc)⟩
  · intro id _ hid
    have hne : id ≠ taskId := by
      rintro rfl
      exact hid hwrites
    refine ⟨?_, ?_⟩
    · rw [hsteps]
      exact IndexedTable.find_modify_of_ne _ _ (WorkflowStep.primaryKey_withStatus status) hne
    · rw [hpayload, payload_writePayload_of_ne hne]
  · intro id s hs hid
    have hid' : taskId = id := Option.some.inj (hwrites.symm.trans hid)
    subst hid'
    refine ⟨status, ?_, hstatus⟩
    rw [hsteps, Store.find_updateWorkflowStep, hs]
    rfl
  · intro id _
    rw [hpayload]
    by_cases hne : id = taskId
    · rw [hne, payload_writePayload_self, hchange]
    · rw [payload_writePayload_of_ne hne]
  · intro id mediaBuyId hmapped
    unfold Store.mediaBuyOfStep at hmapped ⊢
    rw [hmappings]
    exact hmapped

theorem DeskEffect.of_same
    {e : DeskEvent}
    (hsteps : desk'.store.steps = desk.store.steps)
    (hmappings : desk'.store.mappings = desk.store.mappings)
    (hpayload : desk'.payload = desk.payload)
    (hwrites : e.writes = none)
    (hreading : ∀ c ∈ desk'.inFlight, c ∈ desk.inFlight ∨ checkCompletion desk c = .ok ()) :
    DeskEffect desk e desk' := by
  refine ⟨?_, ?_, ?_, ?_, hreading⟩
  · intro id _ _
    rw [hsteps, hpayload]
    exact ⟨rfl, rfl⟩
  · intro id s _ hid
    rw [hwrites] at hid
    cases hid
  · intro id _
    rw [hpayload]
  · intro id mediaBuyId hmapped
    unfold Store.mediaBuyOfStep at hmapped ⊢
    rw [hmappings]
    exact hmapped

theorem writePayload_id
    (desk : Desk)
    (taskId : String) :
    (desk.writePayload taskId id).payload = desk.payload :=
  Function.update_eq_self _ _

theorem approveOnBuyPage_effect
    (env : PageEnv)
    (mediaBuyId : String) :
    DeskEffect desk
      (.decide ((desk.store.pendingStepOf env.execute.tenantId mediaBuyId).map (·.stepId)))
      (approveOnBuyPage env mediaBuyId desk) := by
  cases hfind : desk.store.pendingStepOf env.execute.tenantId mediaBuyId with
  | none =>
      have hsame : approveOnBuyPage env mediaBuyId desk = desk := by
        unfold approveOnBuyPage
        rw [hfind]
      rw [hsame]
      exact .of_same rfl rfl rfl rfl (fun c hc => .inl hc)
  | some step =>
      have hstore : (approveOnBuyPage env mediaBuyId desk).store =
          (executePending env.execute (desk.store.updateWorkflowStep step.stepId .approved)
            mediaBuyId).store := by
        unfold approveOnBuyPage approveMediaBuy
        rw [hfind]
      have hrest : (approveOnBuyPage env mediaBuyId desk).payload = desk.payload ∧
          (approveOnBuyPage env mediaBuyId desk).inFlight = desk.inFlight := by
        unfold approveOnBuyPage
        rw [hfind]
        exact ⟨rfl, rfl⟩
      obtain ⟨hsteps, hmappings⟩ := executePending_steps env.execute
        (desk.store.updateWorkflowStep step.stepId .approved) mediaBuyId
      refine .of_updated step.stepId .approved id ?_ ?_ ?_ (fun _ => rfl) rfl rfl ?_
      · rw [hstore, hsteps]
      · rw [hstore, hmappings]
        rfl
      · rw [hrest.1, writePayload_id]
      · rw [hrest.2]
        exact fun c hc => hc

theorem rejectOnBuyPage_effect
    (env : PageEnv)
    (mediaBuyId reason : String) :
    DeskEffect desk
      (.decide ((desk.store.pendingStepOf env.execute.tenantId mediaBuyId).map (·.stepId)))
      (rejectOnBuyPage env mediaBuyId reason desk) := by
  cases hfind : desk.store.pendingStepOf env.execute.tenantId mediaBuyId with
  | none =>
      have hsame : rejectOnBuyPage env mediaBuyId reason desk = desk := by
        unfold rejectOnBuyPage
        rw [hfind]
      rw [hsame]
      exact .of_same rfl rfl rfl rfl (fun c hc => .inl hc)
  | some step =>
      have hrejected : (rejectMediaBuy env.execute desk.store mediaBuyId).store.steps =
            (desk.store.updateWorkflowStep step.stepId .rejected).steps ∧
          (rejectMediaBuy env.execute desk.store mediaBuyId).store.mappings =
            desk.store.mappings := by
        unfold rejectMediaBuy
        rw [hfind]
        dsimp only
        split
        · exact ⟨rfl, rfl⟩
        · exact ⟨rfl, rfl⟩
      refine .of_updated step.stepId .rejected
        (fun p => { p with
          errorMessage := some (if reason = "" then "Rejected by administrator" else reason) })
        ?_ ?_ ?_ (fun _ => rfl) rfl rfl ?_
      · unfold rejectOnBuyPage
        rw [hfind]
        exact hrejected.1
      · unfold rejectOnBuyPage
        rw [hfind]
        exact hrejected.2
      · unfold rejectOnBuyPage
        rw [hfind]
      · unfold rejectOnBuyPage
        rw [hfind]
        exact fun c hc => hc

theorem approveOnWorkflowPage_effect
    (env : ExecuteEnv)
    (taskId : String) :
    DeskEffect desk
      (.decide ((desk.store.getStepById env.tenantId taskId).map (fun _ => taskId)))
      (approveOnWorkflowPage env taskId desk) := by
  cases hfind : desk.store.getStepById env.tenantId taskId with
  | none =>
      have hsame : approveOnWorkflowPage env taskId desk = desk := by
        unfold approveOnWorkflowPage approveWorkflowStep
        rw [hfind]
      rw [hsame]
      exact .of_same rfl rfl rfl rfl (fun c hc => .inl hc)
  | some step =>
      have happroved : (approveWorkflowStep env desk.store taskId).store.steps =
            (desk.store.updateWorkflowStep taskId .approved).steps ∧
          (approveWorkflowStep env desk.store taskId).store.mappings = desk.store.mappings := by
        unfold approveWorkflowStep
        rw [hfind]
        dsimp only
        split
        · exact ⟨rfl, rfl⟩
        · exact executePending_steps env _ _
      refine .of_updated taskId .approved id happroved.1 happroved.2 ?_ (fun _ => rfl) rfl rfl
        (fun c hc => hc)
      rw [writePayload_id]
      rfl

theorem rejectOnWorkflowPage_effect
    (env : ExecuteEnv)
    (taskId reason : String) :
    DeskEffect desk
      (.decide ((desk.store.getStepById env.tenantId taskId).map (fun _ => taskId)))
      (rejectOnWorkflowPage env taskId reason desk) := by
  cases hfind : desk.store.getStepById env.tenantId taskId with
  | none =>
      have hsame : rejectOnWorkflowPage env taskId reason desk = desk := by
        unfold rejectOnWorkflowPage
        rw [hfind]
      rw [hsame]
      exact .of_same rfl rfl rfl rfl (fun c hc => .inl hc)
  | some step =>
      have hrejected : rejectOnWorkflowPage env taskId reason desk =
          { desk.writePayload taskId (fun p => { p with errorMessage := some reason }) with
            store := desk.store.updateWorkflowStep taskId .rejected } := by
        unfold rejectOnWorkflowPage rejectWorkflowStep
        rw [hfind]
      rw [hrejected]
      exact .of_updated taskId .rejected (fun p => { p with errorMessage := some reason })
        rfl rfl rfl (fun _ => rfl) rfl rfl (fun c hc => hc)

theorem readCompletion_eq
    (desk : Desk)
    (c : Completion) :
    readCompletion desk c = desk ∨
      checkCompletion desk c = .ok () ∧
        readCompletion desk c = { desk with inFlight := desk.inFlight ++ [c] } := by
  unfold readCompletion
  split
  · exact .inl rfl
  · next h =>
      exact .inr ⟨h, rfl⟩

theorem write_requestData
    (c : Completion)
    (p : StepPayload) :
    (c.write p).requestData = p.requestData := by
  unfold Completion.write
  split
  · rfl
  · rfl

/-- What each event does to the steps that are there. -/
theorem DeskStep.effect
    {e : DeskEvent}
    (h : DeskStep desk e desk') :
    DeskEffect desk e desk' := by
  cases h with
  | create env req ids p =>
      refine .of_stepsKept (· = ids.stepId) ?_ (createMediaBuy_stepsKept env req ids)
        (fun id hid => Function.update_of_ne hid _ _) rfl rfl
      rintro id rfl
      exact ids.stepId_fresh
  | update env req p hfresh =>
      refine .of_stepsKept (· = env.stepId) ?_ (updateMediaBuy_stepsKept env req _)
        (fun id hid => Function.update_of_ne hid _ _) rfl rfl
      rintro id rfl
      exact hfresh.1
  | sync env req library needing p hrows hfresh =>
      refine .of_stepsKept (fun id => id ∈ needing.map Prod.fst) ?_
        (createSyncWorkflowSteps_stepsKept (fun entry hentry => List.mem_map_of_mem hentry)
          ((StepsKept.refl desk.store).rows _)) (fun id hid => if_neg hid) rfl rfl
      intro id hid
      obtain ⟨entry, hentry, rfl⟩ := List.mem_map.mp hid
      exact (hfresh entry hentry).1
  | look =>
      exact .of_same rfl rfl rfl rfl (fun c hc => .inl hc)
  | readTask c =>
      rcases readCompletion_eq desk c with hsame | ⟨hcheck, hread⟩
      · rw [hsame]
        exact .of_same rfl rfl rfl rfl (fun c' hc => .inl hc)
      · rw [hread]
        refine .of_same rfl rfl rfl rfl (fun c' hc => ?_)
        rcases List.mem_append.mp hc with hc | hc
        · exact .inl hc
        · rw [List.mem_singleton.mp hc]
          exact .inr hcheck
  | writeTask before after c hmem =>
      refine .of_updated c.taskId c.status.stored c.write rfl rfl rfl (write_requestData c) ?_ rfl ?_
      · cases c.status with
        | completed => rfl
        | failed => rfl
      · intro c' hc
        rw [hmem]
        rcases List.mem_append.mp hc with hc | hc
        · exact List.mem_append_left _ hc
        · exact List.mem_append_right _ (List.mem_cons_of_mem c hc)
  | approveOnBuyPage env mediaBuyId =>
      exact approveOnBuyPage_effect env mediaBuyId
  | rejectOnBuyPage env mediaBuyId reason =>
      exact rejectOnBuyPage_effect env mediaBuyId reason
  | approveOnWorkflowPage env taskId =>
      exact approveOnWorkflowPage_effect env taskId
  | rejectOnWorkflowPage env taskId reason =>
      exact rejectOnWorkflowPage_effect env taskId reason
  | rows rows =>
      exact .of_same rfl rfl rfl rfl (fun c hc => .inl hc)

end Effects

section Histories

variable {desk desk' : Desk} {e : DeskEvent} {es : List DeskEvent}

theorem DeskStep.keeps_step
    (h : DeskStep desk e desk')
    {id : String} {s : WorkflowStep}
    (hs : desk.store.steps.find id = some s) :
    ∃ s', desk'.store.steps.find id = some s' ∧ s'.tenantId = s.tenantId ∧
      s'.principalId = s.principalId := by
  by_cases hwrites : e.writes = some id
  · obtain ⟨status, hs', -⟩ := h.effect.written id s hs hwrites
    exact ⟨s.withStatus status, hs', rfl, rfl⟩
  · have hsame := (h.effect.kept id (by rw [hs]; rfl) hwrites).1
    exact ⟨s, by rw [hsame, hs], rfl, rfl⟩

/-- A call that passed its check is one for a step of its principal that is not finished. -/
theorem of_checkCompletion
    {c : Completion}
    (h : checkCompletion desk c = .ok ()) :
    ∃ s, desk.store.getStepById c.tenantId c.taskId = some s ∧
      desk.store.steps.find c.taskId = some s ∧ s.tenantId = c.tenantId ∧
      s.principalId = c.principalId ∧ completable s.status = true := by
  unfold checkCompletion at h
  split at h
  · cases h
  · next s hs =>
      split at h
      · next hopen =>
          unfold Desk.getByStepId at hs
          obtain ⟨hget, hprincipal⟩ := Option.filter_eq_some_iff.mp hs
          have hget' := hget
          unfold Store.getStepById at hget'
          obtain ⟨hfind, htenant⟩ := Option.filter_eq_some_iff.mp hget'
          exact ⟨s, hget, hfind, of_decide_eq_true htenant, of_decide_eq_true hprincipal, hopen⟩
      · cases h

theorem owns_preserved :
    Runs.Preserved DeskStep (fun desk => ∀ c ∈ desk.inFlight, desk.Owns c) := by
  intro desk e desk' hstep howns c hc
  have hbefore : desk.Owns c := by
    rcases hstep.effect.reading c hc with hold | hcheck
    · exact howns c hold
    · obtain ⟨s, -, hfind, htenant, hprincipal, -⟩ := of_checkCompletion hcheck
      exact ⟨s, hfind, htenant, hprincipal⟩
  obtain ⟨s, hs, htenant, hprincipal⟩ := hbefore
  obtain ⟨s', hs', htenant', hprincipal'⟩ := hstep.keeps_step hs
  exact ⟨s', hs', htenant'.trans htenant, hprincipal'.trans hprincipal⟩

theorem finished_preserved
    (taskId : String) :
    Runs.Preserved DeskStep (fun desk => desk.Finished taskId) := by
  rintro desk e desk' hstep ⟨s, hs, hfinished⟩
  by_cases hwrites : e.writes = some taskId
  · obtain ⟨status, hs', hstatus⟩ := hstep.effect.written taskId s hs hwrites
    exact ⟨s.withStatus status, hs', hstatus⟩
  · have hsame := (hstep.effect.kept taskId (by rw [hs]; rfl) hwrites).1
    exact ⟨s, by rw [hsame, hs], hfinished⟩

theorem step_of_unwritten
    (hrun : Run DeskStep desk es desk')
    {taskId : String} {s : WorkflowStep}
    (hs : desk.store.steps.find taskId = some s)
    (hunwritten : ∀ f ∈ es, f.writes ≠ some taskId) :
    desk'.store.steps.find taskId = some s := by
  induction hrun with
  | nil desk =>
      exact hs
  | cons hstep _ ih =>
      have hsame := (hstep.effect.kept taskId (by rw [hs]; rfl)
        (hunwritten _ List.mem_cons_self)).1
      exact ih (hsame.trans hs) (fun f hf => hunwritten f (List.mem_cons_of_mem _ hf))

theorem mapped_of_run
    (hrun : Run DeskStep desk es desk')
    {taskId mediaBuyId tenantId : String}
    (hstep : (desk.store.getStepById tenantId taskId).isSome)
    (hmapped : desk.store.mediaBuyOfStep taskId = some mediaBuyId) :
    (desk'.store.getStepById tenantId taskId).isSome ∧
      desk'.store.mediaBuyOfStep taskId = some mediaBuyId := by
  induction hrun with
  | nil desk =>
      exact ⟨hstep, hmapped⟩
  | cons hevent _ ih =>
      obtain ⟨s, hs⟩ := Option.isSome_iff_exists.mp hstep
      unfold Store.getStepById at hs
      obtain ⟨hfind, htenant⟩ := Option.filter_eq_some_iff.mp hs
      obtain ⟨s', hs', htenant', -⟩ := hevent.keeps_step hfind
      refine ih ?_ (hevent.effect.mapped taskId mediaBuyId hmapped)
      unfold Store.getStepById
      rw [hs', Option.filter_some, htenant', if_pos htenant]
      rfl

theorem readCompletion_of_finished
    {c : Completion}
    (h : desk.Finished c.taskId) :
    readCompletion desk c = desk := by
  rcases readCompletion_eq desk c with hsame | ⟨hcheck, -⟩
  · exact hsame
  · obtain ⟨s, -, hs, -, -, hopen⟩ := of_checkCompletion hcheck
    obtain ⟨s', hs', hfinished⟩ := h
    rw [hs] at hs'
    cases hs'
    rw [hopen] at hfinished
    cases hfinished

theorem finished_of_write
    {c : Completion}
    (hstep : DeskStep desk (.writeTask c) desk')
    (howns : desk.Owns c) :
    desk'.Finished c.taskId := by
  obtain ⟨s, hs, -, -⟩ := howns
  obtain ⟨status, hs', hstatus⟩ := hstep.effect.written c.taskId s hs rfl
  exact ⟨s.withStatus status, hs', hstatus⟩

end Histories

section Decidable

variable {store : Store} {env : CreateEnv} {req : CreateRequest} {ids : GeneratedIds store}

theorem awaiting_of_submitted
    {taskId : String}
    (hsubmitted : (createMediaBuy env req ids).reply = .submitted taskId)
    (hmanual : createNeedsApproval env = true) :
    Awaiting env.tenantId taskId ids.mediaBuyId (createMediaBuy env req ids).store := by
  have haccepted : ∀ err, (createMediaBuy env req ids).reply ≠ .failed err := by
    intro err herr
    rw [hsubmitted] at herr
    cases herr
  obtain ⟨-, hexit⟩ := createMediaBuy_accepted haccepted
  generalize createMediaBuy env req ids = outcome at hsubmitted hexit ⊢
  cases hexit with
  | pending _ _ hbooked =>
      cases hsubmitted
      exact awaiting_of_booked hbooked
  | configured hautomatic =>
      rw [hmanual] at hautomatic
      cases hautomatic
  | ordered hautomatic =>
      rw [hmanual] at hautomatic
      cases hautomatic

/-- The page of the workflow approves the buy through the step. -/
def WorkflowPageApproves
    (tenantId taskId mediaBuyId : String)
    (store : Store) : Prop :=
  ∀ env : ExecuteEnv, env.tenantId = tenantId →
    (approveWorkflowStep env store taskId).execution =
      some (mediaBuyId, executeApprovedMediaBuy env mediaBuyId store.toBuyRows)

/-- The page of the buy approves and rejects it. -/
def BuyPageDecides
    (tenantId mediaBuyId : String)
    (store : Store) : Prop :=
  ∀ env : ExecuteEnv, env.tenantId = tenantId →
    (approveMediaBuy env store mediaBuyId).execution =
        some (mediaBuyId, executeApprovedMediaBuy env mediaBuyId store.toBuyRows) ∧
      statusOf tenantId mediaBuyId (rejectMediaBuy env store mediaBuyId).store.toBuyRows =
        some .rejected

/-- A mapped step approves its buy, whatever its own status is. -/
theorem workflowPageApproves
    {tenantId taskId mediaBuyId : String}
    (hstep : (store.getStepById tenantId taskId).isSome)
    (hmapped : store.mediaBuyOfStep taskId = some mediaBuyId)
    (hpending : statusOf tenantId mediaBuyId store.toBuyRows = some .pendingApproval) :
    WorkflowPageApproves tenantId taskId mediaBuyId store := by
  rintro env rfl
  obtain ⟨s, hs⟩ := Option.isSome_iff_exists.mp hstep
  have hmapped' : (store.updateWorkflowStep taskId .approved).mediaBuyOfStep taskId =
      some mediaBuyId := hmapped
  have hpending' : statusOf env.tenantId mediaBuyId
      (store.updateWorkflowStep taskId .approved).toBuyRows = some .pendingApproval := hpending
  unfold approveWorkflowStep
  rw [hs]
  simp only [hmapped']
  rw [executePending_of_pending hpending']
  rfl

/-- A waiting step lets the page of the buy decide. -/
theorem Awaiting.buyPageDecides
    {tenantId taskId mediaBuyId : String}
    (h : Awaiting tenantId taskId mediaBuyId store) :
    BuyPageDecides tenantId mediaBuyId store := by
  rintro env rfl
  refine ⟨(h.executes rfl).2, ?_⟩
  obtain ⟨s, hstep, hwaits⟩ := h.step
  obtain ⟨found, hfound⟩ := pendingStepOf_isSome hstep hwaits h.mapped
  obtain ⟨b, hb, -⟩ := Option.map_eq_some_iff.mp h.pending
  unfold rejectMediaBuy
  rw [hfound]
  dsimp only
  rw [if_pos h.pending]
  unfold statusOf
  change ((store.toBuyRows.modifyBuy env.tenantId mediaBuyId
    (.updateStatus .rejected env.later)).getById env.tenantId mediaBuyId).map _ = _
  rw [BuyRows.getById_modifyBuy, hb]
  simp [BuyRows.BuyChange.updateStatus, MediaBuy.updateStatus, MediaBuy.bumpRevision]

end Decidable

/-- What buyers leave to the seller at a desk. -/
structure DecisionsStay
    (desk : Desk) : Prop where
  /-- no call of a buyer changes what was submitted, and only the write of `complete_task`
  changes anything of a step that is there -/
  buyers : ∀ e desk', DeskStep desk e desk' → e.byBuyer →
    ∀ id, (desk.store.steps.find id).isSome →
      (desk'.payload id).requestData = (desk.payload id).requestData ∧
        ((∀ c, e = .writeTask c → c.taskId ≠ id) →
          desk'.store.steps.find id = desk.store.steps.find id ∧
            desk'.payload id = desk.payload id)
  /-- the write of `complete_task` finishes a step of the caller's own principal -/
  owners : ∀ c desk', DeskStep desk (.writeTask c) desk' →
    desk.Owns c ∧ desk'.Finished c.taskId
  /-- the step it checked is unfinished until some event writes it -/
  checked : ∀ c fs desk', checkCompletion desk c = .ok () →
    Run DeskStep (readCompletion desk c) fs desk' →
    (∀ f ∈ fs, f.writes ≠ some c.taskId) → desk'.Unfinished c.taskId
  /-- a finished step stays finished, and no later call passes its check -/
  once : ∀ taskId fs desk', desk.Finished taskId → Run DeskStep desk fs desk' →
    desk'.Finished taskId ∧ ∀ c, c.taskId = taskId → readCompletion desk' c = desk'
  /-- a buy submitted for approval that still waits is approved through its step, and
  while nobody completed the step or decided on it, the page of the buy decides as well -/
  decidable : ∀ (env : CreateEnv) (req : CreateRequest) (ids : GeneratedIds desk.store)
    (p : StepPayload) (taskId : String),
    (createMediaBuy env req ids).reply = .submitted taskId → createNeedsApproval env = true →
    ∀ fs desk',
      Run DeskStep
        { desk.writePayload ids.stepId (fun _ => p) with
          store := (createMediaBuy env req ids).store } fs desk' →
      statusOf env.tenantId ids.mediaBuyId desk'.store.toBuyRows = some .pendingApproval →
      WorkflowPageApproves env.tenantId taskId ids.mediaBuyId desk'.store ∧
        ((∀ f ∈ fs, f.writes ≠ some taskId) →
          BuyPageDecides env.tenantId ids.mediaBuyId desk'.store)

/-- Along any run that starts with no call in progress, decisions stay with the seller but
for the completions of the principal whose step it is. -/
theorem decisions_stay
    {start desk : Desk} {es : List DeskEvent}
    (hstart : start.inFlight = [])
    (hrun : Run DeskStep start es desk) :
    DecisionsStay desk := by
  have howns : ∀ c ∈ desk.inFlight, desk.Owns c :=
    hrun.preserves owns_preserved (fun c hc => by rw [hstart] at hc; cases hc)
  refine ⟨?_, ?_, ?_, ?_, ?_⟩
  · intro e desk' hstep hbuyer id hsome
    refine ⟨hstep.effect.submitted id hsome, fun hother => hstep.effect.kept id hsome ?_⟩
    cases e with
    | writeTask c => simpa [DeskEvent.writes] using hother c rfl
    | decide taskId => exact hbuyer.elim
    | create => nofun
    | update => nofun
    | sync => nofun
    | look => nofun
    | readTask c => nofun
    | rows => nofun
  · intro c desk' hstep
    have hown : desk.Owns c := by
      cases hstep with
      | writeTask before after c hmem =>
          exact howns c (by rw [hmem]; exact List.mem_append_right _ List.mem_cons_self)
    exact ⟨hown, finished_of_write hstep hown⟩
  · intro c fs desk' hcheck hfs hunwritten
    obtain ⟨s, -, hs, -, -, hopen⟩ := of_checkCompletion hcheck
    have hs' : (readCompletion desk c).store.steps.find c.taskId = some s := by
      unfold readCompletion
      rw [hcheck]
      exact hs
    exact ⟨s, step_of_unwritten hfs hs' hunwritten, hopen⟩
  · intro taskId fs desk' hfinished hfs
    have hlast := hfs.preserves (finished_preserved taskId) hfinished
    refine ⟨hlast, ?_⟩
    rintro c rfl
    exact readCompletion_of_finished hlast
  · intro env req ids p taskId hsubmitted hmanual fs desk' hfs hpending
    have hawaiting := awaiting_of_submitted hsubmitted hmanual
    obtain ⟨s, hs, hwaits⟩ := hawaiting.step
    obtain ⟨hstep, hmapped⟩ := mapped_of_run hfs (by rw [hs]; rfl) hawaiting.mapped
    refine ⟨workflowPageApproves hstep hmapped hpending, fun hunwritten => ?_⟩
    unfold Store.getStepById at hs
    obtain ⟨hfind, htenant⟩ := Option.filter_eq_some_iff.mp hs
    have hfind' := step_of_unwritten hfs hfind hunwritten
    have hget : desk'.store.getStepById env.tenantId taskId = some s := by
      unfold Store.getStepById
      rw [hfind', Option.filter_some, if_pos htenant]
    exact Awaiting.buyPageDecides ⟨⟨s, hget, hwaits⟩, hmapped, hpending⟩

section Samples

/-- A desk with the sample create, which waits for approval. -/
def submittedDesk : Desk where
  store := (createMediaBuy (sampleCreateEnv true true) sampleCreateRequest sampleIds).store
  payload := fun _ => { createdAt := 0 }

/-- The buyer of the sample create completes its step. -/
def sampleCompletion
    (status : CompletionStatus) : Completion where
  tenantId := "tenant"
  principalId := "principal"
  taskId := "step_1"
  status := status
  completedTime := 3000000

/-- The sample buy waits after its create and while its buyer's completion is in progress, and
both pages decide on it. -/
theorem decisions_stay_sample :
    ∃ desk, Run DeskStep ⟨Store.empty, fun _ => { createdAt := 0 }, [], []⟩
        [.create, .readTask (sampleCompletion .completed)] desk ∧
      WorkflowPageApproves "tenant" "step_1" "mb_1" desk.store ∧
      BuyPageDecides "tenant" "mb_1" desk.store := by
  have hstay : DecisionsStay ⟨Store.empty, fun _ => { createdAt := 0 }, [], []⟩ :=
    decisions_stay rfl (.nil _)
  have hdecidable := hstay.decidable (sampleCreateEnv true true) sampleCreateRequest sampleIds
    { createdAt := 0 } "step_1" (by decide +kernel) (by decide +kernel)
    [.readTask (sampleCompletion .completed)] _ (.single (.readTask _)) (by decide +kernel)
  exact ⟨_, .cons (.create _ _ _ _) (.single (.readTask _)), hdecidable.1,
    hdecidable.2 (by simp [DeskEvent.writes])⟩

/-- Counterexample: the buyer completes the waiting step of its own create, and the page
of the buy no longer finds a step for the buy, which waits.  A completion that checked the
step before the seller rejected it overwrites the rejection, and of two completions that
both checked the step the second overwrites the first. -/
theorem buyer_takes_decision :
    (∃ desk, Run DeskStep submittedDesk
        [.readTask (sampleCompletion .completed), .writeTask (sampleCompletion .completed)] desk ∧
      submittedDesk.store.stepStatus "tenant" "step_1" = some .requiresApproval ∧
      desk.store.stepStatus "tenant" "step_1" = some .completed ∧
      statusOf "tenant" "mb_1" desk.store.toBuyRows = some .pendingApproval ∧
      (desk.store.pendingStepOf "tenant" "mb_1").isNone = true) ∧
    (∃ rejected desk, Run DeskStep submittedDesk
        [.readTask (sampleCompletion .completed), .decide (some "step_1")] rejected ∧
      Run DeskStep rejected [.writeTask (sampleCompletion .completed)] desk ∧
      rejected.store.stepStatus "tenant" "step_1" = some .rejected ∧
      desk.store.stepStatus "tenant" "step_1" = some .completed) ∧
    (∃ completed desk, Run DeskStep submittedDesk
        [.readTask (sampleCompletion .completed), .readTask (sampleCompletion .failed),
          .writeTask (sampleCompletion .completed)] completed ∧
      Run DeskStep completed [.writeTask (sampleCompletion .failed)] desk ∧
      completed.store.stepStatus "tenant" "step_1" = some .completed ∧
      desk.store.stepStatus "tenant" "step_1" = some .failed) := by
  have hchecked : ∀ status, readCompletion submittedDesk (sampleCompletion status) =
      { submittedDesk with inFlight := [sampleCompletion status] } := by
    intro status
    have hcheck : checkCompletion submittedDesk (sampleCompletion status) = .ok () := by
      cases status with
      | completed => decide +kernel
      | failed => decide +kernel
    unfold readCompletion
    rw [hcheck]
    rfl
  have hread : DeskStep submittedDesk (.readTask (sampleCompletion .completed))
      { submittedDesk with inFlight := [sampleCompletion .completed] } := by
    rw [← hchecked]
    exact .readTask _
  refine ⟨?_, ?_, ?_⟩
  · refine ⟨_, .cons hread (.single (.writeTask [] [] (sampleCompletion .completed) rfl)), ?_⟩
    decide +kernel
  · have hdecide : DeskStep { submittedDesk with inFlight := [sampleCompletion .completed] }
        (.decide (some "step_1"))
        (rejectOnWorkflowPage sampleExecuteEnv "step_1" "too expensive"
          { submittedDesk with inFlight := [sampleCompletion .completed] }) := by
      have hfound : (submittedDesk.store.getStepById sampleExecuteEnv.tenantId "step_1").map
          (fun _ => "step_1") = some "step_1" := by decide +kernel
      rw [← hfound]
      exact .rejectOnWorkflowPage sampleExecuteEnv "step_1" "too expensive"
    have hinFlight : (rejectOnWorkflowPage sampleExecuteEnv "step_1" "too expensive"
        { submittedDesk with inFlight := [sampleCompletion .completed] }).inFlight =
          [] ++ sampleCompletion .completed :: [] := by
      unfold rejectOnWorkflowPage
      split
      · rfl
      · rfl
    refine ⟨_, _, .cons hread (.single hdecide), .single (.writeTask [] [] _ hinFlight), ?_⟩
    decide +kernel
  · have hcheck : checkCompletion { submittedDesk with inFlight := [sampleCompletion .completed] }
        (sampleCompletion .failed) = .ok () := by decide +kernel
    have hsecond : DeskStep { submittedDesk with inFlight := [sampleCompletion .completed] }
        (.readTask (sampleCompletion .failed))
        { submittedDesk with
          inFlight := [sampleCompletion .completed, sampleCompletion .failed] } := by
      have hread' : DeskStep { submittedDesk with inFlight := [sampleCompletion .completed] } _ _ :=
        .readTask (sampleCompletion .failed)
      unfold readCompletion at hread'
      rw [hcheck] at hread'
      exact hread'
    refine ⟨_, _, .cons hread (.cons hsecond (.single
      (.writeTask [] [sampleCompletion .failed] (sampleCompletion .completed) rfl))),
      .single (.writeTask [] [] (sampleCompletion .failed) rfl), ?_⟩
    decide +kernel

end Samples

end Tasks
end SalesAgent
