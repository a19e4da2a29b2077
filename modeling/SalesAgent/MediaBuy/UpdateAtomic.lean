import SalesAgent.MediaBuy.UpdateForecast

/-!
# What a failed update leaves behind

`update_media_buy` checks its package entries one after the other, and each entry
reaches the ad server as soon as its own checks pass.  Nothing takes an adapter
call or an upload back, so a later check fails too late.  Whether a check fails can be
told from the request, the stored rows and the adapter's answers.

**Results.**
* `update_atomic`: a failed update leaves no trace exactly when it ends at a gate, or
  the steps of the request fail in time.
-/

namespace SalesAgent
namespace MediaBuys

open UnitOfWork

/-- The ad server changed nothing. -/
def OutsideCall.clean : OutsideCall → Prop
  | .adapter _ (.returned _ _) => False
  | .adapter _ (.raised _ mutated) => mutated = false
  | .upload _ _ => True

instance (call : OutsideCall) : Decidable call.clean :=
  match call with
  | .adapter _ (.returned _ _) => inferInstanceAs (Decidable False)
  | .adapter _ (.raised _ mutated) => inferInstanceAs (Decidable (mutated = false))
  | .upload _ _ => inferInstanceAs (Decidable True)

/-- If the tool raises, the ad server and every stored row are as they were. -/
def AtomicOnFailure
    (env : UpdateEnv)
    (req : UpdateRequest)
    (store : Store) : Prop :=
  ∀ err, (updateMediaBuy env req store).reply = .failed err →
    (∀ call ∈ (updateMediaBuy env req store).calls, call.clean) ∧
      (updateMediaBuy env req store).store.toBuyRows = store.toBuyRows

/-- A request whose failure comes in time, as told by the stored rows: it ends at a gate,
or a step ahead of its first adapter call or upload does not pass, or that call raises
having changed nothing, or it and every step behind it pass. -/
def FailsInTime
    (env : UpdateEnv)
    (req : UpdateRequest)
    (rows : BuyRows) : Prop :=
  EndsAtGate env req rows ∨
    InTime (fun step => step.isCall = true) (fun before step => step.Passes env req rows before)
      (fun _ step => step.Quiet env req rows) [] (updateSteps req)

section Marks

variable {env : UpdateEnv} {req : UpdateRequest}
  {call : Nat → BuyRows → Answer BuyRows OutsideCall BuyerError} {n : Nat} {rows : BuyRows}

theorem call_leaves_mark
    (hcall : Act.outside call ∈ applyActs env req)
    (hreturned : (call n rows).raised = none) :
    ¬ (call n rows).entry.clean ∨ Stamped env.now (call n rows).rows := by
  rcases outside_mem_applyActs hcall with ⟨action, packageId, budget, -, hact⟩ |
    ⟨pkg, -, hcreatives, hact⟩
  · left
    cases hact
    simp only at hreturned ⊢
    cases hanswer : env.adapter.updateMediaBuy n ⟨req.mediaBuyId, action, packageId, budget⟩
    · exact not_false
    · rw [hanswer] at hreturned
      cases hreturned
  · right
    cases hact
    simp only [Option.orElse_eq_orElse, Option.orElse_eq_or, Option.or_eq_none_iff] at hreturned
    refine syncCreatives_stamped hcreatives hreturned.1 ?_
    simpa using hreturned.2

theorem call_keeps_stamp
    (hcall : Act.outside call ∈ applyActs env req)
    (hstamped : Stamped env.now rows) :
    Stamped env.now (call n rows).rows := by
  rcases outside_mem_applyActs hcall with ⟨action, packageId, budget, -, hact⟩ |
    ⟨pkg, -, -, hact⟩
  · cases hact
    unfold Stamped
    rw [commit_creatives]
    exact hstamped
  · cases hact
    exact syncCreatives_keeps_stamp _ _ hstamped

theorem isCall_iff
    (step : UpdateStep) :
    step.isCall = true ↔ (step.act env req).IsCall := by
  cases step <;> simp [UpdateStep.isCall, UpdateStep.act, Act.IsCall, Act.check, adapterAct,
    uploadAct, responseAct]

variable {before : List UpdateStep} {step : UpdateStep} {world : World BuyRows OutsideCall}

theorem traceless_of_quiet
    (h : Reached env req rows before world)
    (hlog : world.log = [])
    (hact : step.act env req = .outside call)
    (hquiet : step.Quiet env req rows) :
    ∃ err, (world.answer call).raised = some err ∧ (world.answer call).entry.clean ∧
      (world.answer call).rows = world.committed := by
  cases step with
  | adapter action packageId amount =>
      cases hact
      obtain ⟨err, hanswer⟩ := hquiet
      unfold World.answer
      simp only [hlog, List.length_nil, hanswer]
      exact ⟨err, rfl, rfl, rfl⟩
  | upload pkg =>
      cases hact
      obtain ⟨hfails, hrows⟩ := upload_of_quiet hquiet
      unfold World.answer
      rw [(h.first hlog).1]
      simp only [hrows, OutsideCall.clean, and_true]
      refine Option.ne_none_iff_exists'.mp ?_
      simp only [Option.orElse_eq_orElse, Option.orElse_eq_or, ne_eq, Option.or_eq_none_iff]
      simpa [imp_iff_not_or] using hfails
  | _ => cases hact

theorem quiet_of_traceless
    {err : BuyerError}
    (hfresh : ¬ Stamped env.now rows)
    (h : Reached env req rows before world)
    (hlog : world.log = [])
    (hact : step.act env req = .outside call)
    (hraised : (world.answer call).raised = some err)
    (hclean : (world.answer call).entry.clean)
    (hrows : (world.answer call).rows = world.committed) :
    step.Quiet env req rows := by
  cases step with
  | adapter action packageId amount =>
      cases hact
      unfold World.answer at hraised hclean
      simp only [hlog, List.length_nil] at hraised hclean
      cases hanswer : env.adapter.updateMediaBuy 0
          ⟨req.mediaBuyId, action, packageId, amount⟩ with
      | returned affected stores =>
          rw [hanswer] at hraised
          cases hraised
      | raised err' mutated =>
          rw [hanswer] at hclean
          exact ⟨err', by rw [hanswer, show mutated = false from hclean]⟩
  | upload pkg =>
      cases hact
      unfold World.answer at hraised hrows
      rw [(h.first hlog).1] at hraised hrows
      refine quiet_of_upload hfresh ?_ hrows
      by_contra hnot
      simp only [ne_eq, not_or, not_not] at hnot
      simp [hnot.1, hnot.2] at hraised
  | _ => cases hact

end Marks

theorem atomicOnFailure_iff
    {env : UpdateEnv} {req : UpdateRequest} {store : Store}
    (h : ¬ EndsAtGate env req store.toBuyRows) :
    AtomicOnFailure env req store ↔
      LeavesNoTrace OutsideCall.clean (block (applyActs env req) store.toBuyRows)
        store.toBuyRows := by
  obtain ⟨hcalls, hrows, hreply⟩ := updateMediaBuy_of_not_endsAtGate h
  unfold AtomicOnFailure LeavesNoTrace
  rw [hcalls, hrows]
  simp only [hreply]
  constructor
  · intro hatomic hraised
    obtain ⟨err, herr⟩ := Option.ne_none_iff_exists'.mp hraised
    exact hatomic err herr
  · intro htrace err herr
    exact htrace (by simp [herr])

theorem isSome_of_not_endsAtGate
    {env : UpdateEnv} {req : UpdateRequest} {rows : BuyRows}
    (h : ¬ EndsAtGate env req rows) :
    (rows.getById env.tenantId req.mediaBuyId).isSome := by
  obtain ⟨b, hb, -⟩ := hasBuy_of_not_endsAtGate h
  rw [hb]
  rfl

theorem atomicOnFailure_of_endsAtGate
    {env : UpdateEnv} {req : UpdateRequest} {store : Store}
    (h : EndsAtGate env req store.toBuyRows) :
    AtomicOnFailure env req store := by
  obtain ⟨hcalls, hrows, -⟩ := updateMediaBuy_of_endsAtGate h
  intro err _
  rw [hcalls]
  exact ⟨by simp, hrows⟩

/-- A failure in time is atomic; and where the clock has moved since the stored
creatives were written, an atomic request fails in time. -/
theorem update_atomic
    (env : UpdateEnv)
    (req : UpdateRequest)
    (store : Store) :
    (FailsInTime env req store.toBuyRows → AtomicOnFailure env req store) ∧
      (¬ Stamped env.now store.toBuyRows → AtomicOnFailure env req store →
        FailsInTime env req store.toBuyRows) := by
  by_cases hgate : EndsAtGate env req store.toBuyRows
  · exact ⟨fun _ => atomicOnFailure_of_endsAtGate hgate, fun _ _ => .inl hgate⟩
  · have hforecast := update_forecast (isSome_of_not_endsAtGate hgate)
    rw [atomicOnFailure_iff hgate, leavesNoTrace_block_iff, ← map_updateSteps env req]
    constructor
    · intro h
      refine hforecast.traceless_of_inTime rfl isCall_iff ?_ reached_start rfl (h.resolve_left hgate)
      intro before step world call hreached hlog hact hquiet
      exact traceless_of_quiet hreached hlog hact hquiet
    · intro hfresh htraceless
      refine .inr (hforecast.inTime_of_traceless rfl isCall_iff ?_ ?_ ?_ reached_start rfl hfresh
        htraceless)
      · intro before step world call err hreached hlog hact hraised hclean hrows
        exact quiet_of_traceless hfresh hreached hlog hact hraised hclean hrows
      · intro call hcall n rows hreturned
        rw [map_updateSteps] at hcall
        exact call_leaves_mark hcall hreturned
      · intro call hcall n rows hstamped
        rw [map_updateSteps] at hcall
        exact call_keeps_stamp hcall hstamped

/-- The ad server keeps the first budget although the second entry names no package. -/
theorem late_package_error_leaves_trace :
    ¬ AtomicOnFailure sampleUpdateEnv
        { mediaBuyId := "mb_1"
          packages := [{ packageId := "pkg_1", budget := some 500 },
            { packageId := "pkg_9", budget := some 700 }] }
        sampleStore := by
  intro h
  obtain ⟨hclean, -⟩ := h ⟨.packageNotFound, none⟩ (by decide +kernel)
  revert hclean
  decide +kernel

end MediaBuys
end SalesAgent
