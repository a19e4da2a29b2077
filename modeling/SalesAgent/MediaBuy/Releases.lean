import SalesAgent.MediaBuy.HeldBuys

/-!
# What clears the last creative of a held buy

An operation either executes held buys, which only the approval of a creative does, or it
keeps every held buy held.  So a held buy whose last creative is cleared is executed where
an administrator approved that creative and the execution gets as far as the adapter, and
otherwise waits for creatives that are all cleared.

**Results.**
* `WriterStep.effect`: what a writer that executes nothing does to a buy.
* `WriterStep.executed_iff`: when the operation that clears the last creative executes it.
* `held_never_stranded`: both along a run.
* `cleared_buy_stranded`: three ways to clear the last creative that leave the buy behind.
-/

namespace SalesAgent
namespace MediaBuys

open Runs (Preserved Run)

section Executions

variable {env : ExecuteEnv} {tenantId mediaBuyId : String} {rows rows' : BuyRows}

/-- An execution changes at most its buy. -/
theorem execute_modifies
    (env : ExecuteEnv)
    (mediaBuyId : String)
    (rows : BuyRows) :
    (executeApprovedMediaBuy env mediaBuyId rows).rows = rows ∨
      ∃ change, (executeApprovedMediaBuy env mediaBuyId rows).rows =
        rows.modifyBuy env.tenantId mediaBuyId change := by
  have hexit : ExecuteExit env mediaBuyId rows (executeApprovedMediaBuy env mediaBuyId rows) :=
    execute_exit
  generalize executeApprovedMediaBuy env mediaBuyId rows = outcome at hexit
  cases hexit with
  | refused err => exact Or.inl rfl
  | held creativeIds => exact Or.inr ⟨_, rfl⟩
  | unavailable => exact Or.inr ⟨_, rfl⟩
  | failed err => exact Or.inr ⟨_, rfl⟩
  | completed =>
      unfold completeExecution
      simp only
      split
      · exact Or.inl rfl
      · exact Or.inr ⟨_, rfl⟩

/-- What an execution reads of the rows, other buys apart, it leaves alone. -/
structure SameGate
    (rows rows' : BuyRows) : Prop where
  packages : rows'.packages = rows.packages
  unapproved : ∀ tenantId mediaBuyId,
    rows'.unapproved tenantId mediaBuyId = rows.unapproved tenantId mediaBuyId

theorem execute_sameGate
    (env : ExecuteEnv)
    (mediaBuyId : String)
    (rows : BuyRows) :
    SameGate rows (executeApprovedMediaBuy env mediaBuyId rows).rows := by
  rcases execute_modifies env mediaBuyId rows with hsame | ⟨change, hmodified⟩
  · rw [hsame]
    exact ⟨rfl, fun _ _ => rfl⟩
  · rw [hmodified]
    exact ⟨rfl, fun _ _ => rfl⟩

theorem execute_getById_of_ne
    {other : String}
    (hne : other ≠ mediaBuyId) :
    (executeApprovedMediaBuy env mediaBuyId rows).rows.getById tenantId other =
      rows.getById tenantId other := by
  rcases execute_modifies env mediaBuyId rows with hsame | ⟨change, hmodified⟩
  · rw [hsame]
  · rw [hmodified, BuyRows.getById_modifyBuy_of_ne rows change hne]

/-- A cleared buy is executed, or its execution is refused in front of the adapter. -/
theorem execute_cleared
    (hgate : rows.unapproved env.tenantId mediaBuyId = []) :
    Prepared env rows mediaBuyId ∧
        (executeApprovedMediaBuy env mediaBuyId rows).rows.HasBuy env.tenantId mediaBuyId
          MediaBuy.Executed ∨
      ¬ Prepared env rows mediaBuyId ∧
        (executeApprovedMediaBuy env mediaBuyId rows).rows = rows := by
  have hunapproved : unapprovedCreativeIds rows.creatives.rows rows.assignments.rows env.tenantId
      mediaBuyId = [] := hgate
  unfold executeApprovedMediaBuy
  cases htenant : env.tenantExists with
  | false =>
      refine Or.inr ⟨fun hprepared => ?_, rfl⟩
      rw [hprepared.1] at htenant
      cases htenant
  | true =>
      simp only [Bool.not_true, Bool.false_eq_true, if_false, hunapproved]
      cases hfound : rows.getById env.tenantId mediaBuyId with
      | none =>
          refine Or.inr ⟨?_, rfl⟩
          rintro ⟨-, b, packages, hb, -⟩
          rw [hfound] at hb
          cases hb
      | some b =>
          dsimp only
          cases hpackages : prepareExecution env rows b with
          | error err =>
              refine Or.inr ⟨?_, rfl⟩
              rintro ⟨-, b', packages, hb, hok⟩
              rw [hfound] at hb
              cases hb
              rw [hpackages] at hok
              cases hok
          | ok packages =>
              refine Or.inl ⟨⟨htenant, b, packages, hfound, hpackages⟩, ?_⟩
              have hfailed : ∀ asked err,
                  (markApprovalFailed env mediaBuyId rows asked err).rows.HasBuy env.tenantId
                    mediaBuyId MediaBuy.Executed := by
                intro asked err
                obtain ⟨b', hb', hstatus, -⟩ := markApprovalFailed_row hfound asked err
                exact ⟨b', hb', Or.inl hstatus⟩
              dsimp only
              cases hadapter : env.getAdapter b.principalId with
              | error err => exact hfailed false .adapterUnavailable
              | ok adapter =>
                  dsimp only
                  cases hplaced : placeOrder env rows adapter b packages with
                  | some err => exact hfailed true err
                  | none =>
                      obtain ⟨b', hcomplete, hb', -, hconfirmed⟩ :=
                        @completeExecution_row env mediaBuyId rows b hfound
                      simp only [hcomplete]
                      exact ⟨b', hb', Or.inr hconfirmed⟩

theorem prepared_congr
    (hpackages : rows'.packages = rows.packages)
    (hbuy : rows'.getById env.tenantId mediaBuyId = rows.getById env.tenantId mediaBuyId) :
    Prepared env rows' mediaBuyId ↔ Prepared env rows mediaBuyId := by
  have hprepare : ∀ b, prepareExecution env rows' b = prepareExecution env rows b := by
    intro b
    unfold prepareExecution rebuildPackages
    rw [hpackages]
  unfold Prepared
  simp only [hbuy, hprepare]

theorem execute_keeps_executed
    {executed : String}
    (hgate : rows.unapproved env.tenantId mediaBuyId = [])
    (h : rows.HasBuy env.tenantId mediaBuyId MediaBuy.Executed) :
    (executeApprovedMediaBuy env executed rows).rows.HasBuy env.tenantId mediaBuyId
      MediaBuy.Executed := by
  by_cases hid : mediaBuyId = executed
  · subst hid
    rcases execute_cleared hgate with ⟨-, hexecuted⟩ | ⟨-, hrefused⟩
    · exact hexecuted
    · rw [hrefused]
      exact h
  · unfold BuyRows.HasBuy
    rw [execute_getById_of_ne hid]
    exact h

variable {executions : List (String × ExecuteEnv)}

theorem executeAll_sameGate
    (executions : List (String × ExecuteEnv))
    (rows : BuyRows) :
    SameGate rows (executeAll executions rows) := by
  unfold executeAll
  refine List.foldlRecOn (motive := SameGate rows) executions _ ⟨rfl, fun _ _ => rfl⟩ ?_
  intro r hr e _
  have hstep := execute_sameGate e.2 e.1 r
  exact ⟨hstep.packages.trans hr.packages,
    fun t m => (hstep.unapproved t m).trans (hr.unapproved t m)⟩

theorem executeAll_keeps_executed
    (henvs : ∀ e ∈ executions, e.2.tenantId = tenantId)
    (hgate : rows.unapproved tenantId mediaBuyId = [])
    (h : rows.HasBuy tenantId mediaBuyId MediaBuy.Executed) :
    (executeAll executions rows).HasBuy tenantId mediaBuyId MediaBuy.Executed := by
  induction executions generalizing rows with
  | nil => exact h
  | cons e es ih =>
      have htenant : e.2.tenantId = tenantId := henvs e List.mem_cons_self
      subst htenant
      have hsame := execute_sameGate e.2 e.1 rows
      exact ih (fun e' he' => henvs e' (List.mem_cons_of_mem _ he'))
        ((hsame.unapproved _ _).trans hgate) (execute_keeps_executed hgate h)

/-- Of a cleared buy, the first execution that is not refused executes it; without one it
stays as it is. -/
theorem executeAll_cleared
    (henvs : ∀ e ∈ executions, e.2.tenantId = tenantId)
    (hgate : rows.unapproved tenantId mediaBuyId = []) :
    (∃ e ∈ executions, e.1 = mediaBuyId ∧ Prepared e.2 rows mediaBuyId) ∧
        (executeAll executions rows).HasBuy tenantId mediaBuyId MediaBuy.Executed ∨
      (¬ ∃ e ∈ executions, e.1 = mediaBuyId ∧ Prepared e.2 rows mediaBuyId) ∧
        (executeAll executions rows).getById tenantId mediaBuyId =
          rows.getById tenantId mediaBuyId := by
  induction executions generalizing rows with
  | nil => exact Or.inr ⟨by simp, rfl⟩
  | cons e es ih =>
      have htenant : e.2.tenantId = tenantId := henvs e List.mem_cons_self
      have henvs' : ∀ e' ∈ es, e'.2.tenantId = tenantId :=
        fun e' he' => henvs e' (List.mem_cons_of_mem _ he')
      have hsame := execute_sameGate e.2 e.1 rows
      have hgate' := (hsame.unapproved tenantId mediaBuyId).trans hgate
      have hmoved : (e.1 = mediaBuyId → ¬ Prepared e.2 rows mediaBuyId) →
          (executeApprovedMediaBuy e.2 e.1 rows).rows.getById tenantId mediaBuyId =
            rows.getById tenantId mediaBuyId := by
        intro hrefused
        by_cases hid : e.1 = mediaBuyId
        · subst htenant hid
          rcases execute_cleared hgate with ⟨hprepared, -⟩ | ⟨-, hkept⟩
          · exact absurd hprepared (hrefused rfl)
          · rw [hkept]
        · exact execute_getById_of_ne (Ne.symm hid)
      by_cases hfirst : e.1 = mediaBuyId ∧ Prepared e.2 rows mediaBuyId
      · refine Or.inl ⟨⟨e, List.mem_cons_self, hfirst⟩, ?_⟩
        obtain ⟨hid, hprepared⟩ := hfirst
        subst htenant hid
        rcases execute_cleared hgate with ⟨-, hexecuted⟩ | ⟨hrefused, -⟩
        · have hrest := executeAll_keeps_executed henvs' hgate' hexecuted
          exact hrest
        · exact absurd hprepared hrefused
      · have hbuy := hmoved fun hid hprepared => hfirst ⟨hid, hprepared⟩
        have hiff : (∃ e' ∈ e :: es, e'.1 = mediaBuyId ∧ Prepared e'.2 rows mediaBuyId) ↔
            ∃ e' ∈ es, e'.1 = mediaBuyId ∧
              Prepared e'.2 (executeApprovedMediaBuy e.2 e.1 rows).rows mediaBuyId := by
          have hcongr : ∀ e' ∈ es,
              (Prepared e'.2 (executeApprovedMediaBuy e.2 e.1 rows).rows mediaBuyId ↔
                Prepared e'.2 rows mediaBuyId) :=
            fun e' he' => prepared_congr hsame.packages (by rw [henvs' e' he', hbuy])
          constructor
          · rintro ⟨e', he', hid, hprepared⟩
            rcases List.mem_cons.mp he' with rfl | he'
            · exact absurd ⟨hid, hprepared⟩ hfirst
            · exact ⟨e', he', hid, (hcongr e' he').mpr hprepared⟩
          · rintro ⟨e', he', hid, hprepared⟩
            exact ⟨e', List.mem_cons_of_mem _ he', hid, (hcongr e' he').mp hprepared⟩
        rw [hiff]
        rw [← hbuy]
        exact ih henvs' hgate'

end Executions

/-- What a writer does to a buy: it keeps it, or it moves it without clearing a creative of
it, and not into a hold on nothing. -/
inductive Effect
    (tenantId : String)
    (rows rows' : BuyRows)
    (mediaBuyId : String) : Prop
  | kept (h : KeepsBuy (rows.getById tenantId mediaBuyId) tenantId mediaBuyId rows')
  | moved
      (hheld : ∀ b, rows'.getById tenantId mediaBuyId = some b → b.Held →
        rows'.unapproved tenantId mediaBuyId ≠ [])
      (hgate : rows'.unapproved tenantId mediaBuyId = rows.unapproved tenantId mediaBuyId ∨
        rows.getById tenantId mediaBuyId = none)

section Effects

variable {env : ExecuteEnv} {tenantId mediaBuyId : String} {rows rows' : BuyRows}

theorem Effect.of_getById
    (h : rows'.getById tenantId mediaBuyId = rows.getById tenantId mediaBuyId) :
    Effect tenantId rows rows' mediaBuyId := by
  refine .kept ?_
  rw [← h]
  exact .refl rows' tenantId mediaBuyId

/-- An execution of a buy that waits for its approval. -/
theorem executePending_effect
    {store : Store}
    (approved mediaBuyId : String) :
    Effect env.tenantId store.toBuyRows (executePending env store approved).store.toBuyRows
      mediaBuyId := by
  by_cases hpending : statusOf env.tenantId approved store.toBuyRows = some .pendingApproval
  · rw [executePending_of_pending hpending]
    by_cases hid : mediaBuyId = approved
    · subst hid
      have hsame := execute_sameGate env mediaBuyId store.toBuyRows
      refine .moved (fun b hb hheld hcleared => ?_) (Or.inl (hsame.unapproved _ _))
      have hgate : store.toBuyRows.unapproved env.tenantId mediaBuyId = [] :=
        (hsame.unapproved _ _).symm.trans hcleared
      rcases execute_cleared hgate with ⟨-, b', hb', hexecuted⟩ | ⟨-, hrefused⟩
      · dsimp only at hb
        rw [hb'] at hb
        cases hb
        exact hheld.not_executed hexecuted
      · dsimp only at hb
        rw [hrefused] at hb
        have hstatus : b.status = .pendingApproval := by
          unfold statusOf at hpending
          rw [hb] at hpending
          exact Option.some.inj hpending
        rcases hheld.status with hwaits | hwaits
        · rw [hstatus] at hwaits
          cases hwaits
        · rw [hstatus] at hwaits
          cases hwaits
    · exact .of_getById (execute_getById_of_ne hid)
  · rw [executePending_of_not_pending hpending]
    exact .of_getById rfl

theorem approveWorkflowStep_effect
    {store : Store}
    (stepId mediaBuyId : String) :
    Effect env.tenantId store.toBuyRows (approveWorkflowStep env store stepId).store.toBuyRows
      mediaBuyId := by
  unfold approveWorkflowStep
  split
  · exact .of_getById rfl
  · simp only
    split
    · exact .of_getById rfl
    · exact @executePending_effect env (store.updateWorkflowStep stepId .approved) _ mediaBuyId

theorem approveMediaBuy_effect
    {store : Store}
    (approved mediaBuyId : String) :
    Effect env.tenantId store.toBuyRows (approveMediaBuy env store approved).store.toBuyRows
      mediaBuyId := by
  unfold approveMediaBuy
  split
  · exact .of_getById rfl
  · next step _ =>
      exact @executePending_effect env (store.updateWorkflowStep step.stepId .approved) approved
        mediaBuyId

/-- The buy is as it was, or not held. -/
def UnheldOrSame
    (start : Option MediaBuy)
    (tenantId mediaBuyId : String)
    (rows : BuyRows) : Prop :=
  rows.getById tenantId mediaBuyId = start ∨
    ∀ b, rows.getById tenantId mediaBuyId = some b → ¬ b.Held

theorem UnheldOrSame.modifyBuy
    {start : Option MediaBuy} {tenantId' mediaBuyId' : String} {change : BuyRows.BuyChange}
    (h : UnheldOrSame start tenantId mediaBuyId rows)
    (hchange : ∀ b, ¬ (change.apply b).Held) :
    UnheldOrSame start tenantId mediaBuyId (rows.modifyBuy tenantId' mediaBuyId' change) := by
  by_cases hid : mediaBuyId = mediaBuyId'
  · by_cases htenant : tenantId = tenantId'
    · subst hid htenant
      refine Or.inr fun b hb => ?_
      rw [BuyRows.getById_modifyBuy] at hb
      obtain ⟨b₀, -, rfl⟩ := Option.map_eq_some_iff.mp hb
      exact hchange b₀
    · subst hid
      unfold UnheldOrSame
      rw [BuyRows.getById_modifyBuy_of_tenant_ne rows change htenant]
      exact h
  · unfold UnheldOrSame
    rw [BuyRows.getById_modifyBuy_of_ne rows change hid]
    exact h

theorem UnheldOrSame.effect
    (h : UnheldOrSame (rows.getById tenantId mediaBuyId) tenantId mediaBuyId rows')
    (hgate : SameGate rows rows') :
    Effect tenantId rows rows' mediaBuyId := by
  rcases h with hsame | hunheld
  · exact .of_getById hsame
  · exact .moved (fun b hb hheld => absurd hheld (hunheld b hb)) (Or.inl (hgate.unapproved _ _))

/-- A rejected buy is not held. -/
theorem rejectMediaBuy_effect
    {store : Store}
    (rejected mediaBuyId : String) :
    Effect tenantId store.toBuyRows (rejectMediaBuy env store rejected).store.toBuyRows
      mediaBuyId := by
  unfold rejectMediaBuy
  split
  · exact .of_getById rfl
  · simp only
    split
    · have hunheld : UnheldOrSame (store.toBuyRows.getById tenantId mediaBuyId) tenantId mediaBuyId
          (store.toBuyRows.modifyBuy env.tenantId rejected
            (.updateStatus .rejected env.later)) := by
        refine UnheldOrSame.modifyBuy (Or.inl rfl) (fun b hheld => ?_)
        have hstatus : (b.updateStatus .rejected env.later).status = .rejected :=
          MediaBuy.updateStatus_status b .rejected env.later false none none
        rcases hheld.status with hwaits | hwaits
        · cases hstatus.symm.trans hwaits
        · cases hstatus.symm.trans hwaits
      exact hunheld.effect ⟨rfl, fun _ _ => rfl⟩
    · exact .of_getById rfl

/-- The sweep leaves a buy alone, or writes a status in which nothing is held. -/
theorem commitSweep_effect
    {written : List SweepWrite}
    (hwritten : ∀ w ∈ written, w.status = .completed ∨ w.status = .active) :
    Effect tenantId rows (commitSweep rows written) mediaBuyId := by
  have hswept : UnheldOrSame (rows.getById tenantId mediaBuyId) tenantId mediaBuyId
      (commitSweep rows written) ∧ SameGate rows (commitSweep rows written) := by
    unfold commitSweep
    refine List.foldlRecOn
      (motive := fun r => UnheldOrSame (rows.getById tenantId mediaBuyId) tenantId mediaBuyId r ∧
        SameGate rows r) written _ ⟨Or.inl rfl, rfl, fun _ _ => rfl⟩ ?_
    rintro r ⟨hunheld, hgate⟩ w hw
    refine ⟨hunheld.modifyBuy (fun b hheld => ?_), hgate.packages, hgate.unapproved⟩
    have hstatus : (w.change.apply b).status = w.status := rfl
    rcases hwritten w hw with hw | hw <;> rcases hheld.status with hwaits | hwaits <;>
      cases hw.symm.trans (hstatus.symm.trans hwaits)
  exact hswept.1.effect hswept.2

end Effects

section Steps

variable {tenantId mediaBuyId : String} {rows rows' : BuyRows} {e : Writer}

/-- The operation executes held buys. -/
def Writer.Executes : Writer → Prop
  | .approveCreative _ => True
  | _ => False

/-- What a writer that executes no held buy does to a buy. -/
theorem WriterStep.effect
    (h : WriterStep tenantId rows e rows')
    (hexecutes : ¬ e.Executes)
    (mediaBuyId : String) :
    Effect tenantId rows rows' mediaBuyId := by
  cases h with
  | approveCreative => exact absurd trivial hexecutes
  | rejectCreative => exact .of_getById rfl
  | review => exact .of_getById rfl
  | syncCreatives env req => exact .kept (syncCreatives_keepsBuy env req (.refl _ _ _))
  | updateMediaBuy env req => exact .kept (updateMediaBuy_keepsBuy env req (.refl _ _ _))
  | createMediaBuy env req ids =>
      rcases (createMediaBuy_books env req ids).keepsBuy with hkept | ⟨hnone, hnew⟩
      · exact .kept hkept
      · exact .moved (fun b hb hheld => absurd hheld (hnew b hb)) (Or.inr hnone)
  | approveWorkflowStep env stepId htenant =>
      subst htenant
      exact approveWorkflowStep_effect stepId mediaBuyId
  | approveMediaBuy env approved htenant =>
      subst htenant
      exact approveMediaBuy_effect approved mediaBuyId
  | rejectMediaBuy env rejected htenant => exact rejectMediaBuy_effect rejected mediaBuyId
  | sweep written hwritten => exact commitSweep_effect hwritten

/-- A writer that executes no held buy strands one where it clears its last creative, and
nowhere else. -/
theorem Effect.noneStranded
    (hnone : NoneStranded tenantId rows)
    (heffect : Effect tenantId rows rows' mediaBuyId)
    (hclears : ¬ Clears tenantId rows rows' mediaBuyId)
    {b : MediaBuy}
    (hb : rows'.getById tenantId mediaBuyId = some b)
    (hheld : b.Held) :
    rows'.unapproved tenantId mediaBuyId ≠ [] := by
  cases heffect with
  | kept h =>
      unfold KeepsBuy at h
      rw [hb] at h
      cases hstart : rows.getById tenantId mediaBuyId with
      | none =>
          rw [hstart] at h
          cases h
      | some b₀ =>
          rw [hstart] at h
          cases h with
          | some hkeep =>
              have hheld₀ := hkeep.held_iff.mp hheld
              have hbefore := hnone mediaBuyId b₀ hstart hheld₀
              exact fun hafter => hclears ⟨⟨b₀, hstart, hheld₀⟩, hbefore, hafter⟩
  | moved hmoved _ => exact hmoved b hb hheld

/-- A writer that executes no held buy leaves the one it clears held. -/
theorem Effect.held
    (heffect : Effect tenantId rows rows' mediaBuyId)
    (hclears : Clears tenantId rows rows' mediaBuyId) :
    rows'.HasBuy tenantId mediaBuyId MediaBuy.Held := by
  obtain ⟨b, hb, hheld⟩ := hclears.held
  cases heffect with
  | kept h =>
      unfold KeepsBuy at h
      rw [hb] at h
      cases hafter : rows'.getById tenantId mediaBuyId with
      | none =>
          rw [hafter] at h
          cases h
      | some b' =>
          rw [hafter] at h
          cases h with
          | some hkeep => exact ⟨b', hafter, hkeep.held_iff.mpr hheld⟩
  | moved _ hgate =>
      rcases hgate with hsame | hnone
      · exact absurd (hsame.symm.trans hclears.after) hclears.before
      · rw [hb] at hnone
        cases hnone

theorem not_executed_of_held
    (h : rows.HasBuy tenantId mediaBuyId MediaBuy.Held) :
    ¬ rows.HasBuy tenantId mediaBuyId MediaBuy.Executed := by
  obtain ⟨b, hb, hheld⟩ := h
  rintro ⟨b', hb', hexecuted⟩
  rw [hb] at hb'
  cases hb'
  exact hheld.not_executed hexecuted

theorem exists_assignment_of_cleared
    {creative : Creative}
    (hbefore : rows.unapproved tenantId mediaBuyId ≠ [])
    (hafter : (setCreativeStatus rows creative .approved).unapproved tenantId mediaBuyId = []) :
    ∃ a ∈ rows.assignments.rows, a.tenantId = tenantId ∧ a.mediaBuyId = mediaBuyId ∧
      a.creativeId = creative.creativeId := by
  have hblocked : ∃ c ∈ assignedCreatives rows.creatives.rows rows.assignments.rows tenantId
      mediaBuyId, c.status.cleared ≠ true := by
    by_contra hnone
    push Not at hnone
    exact hbefore (unapprovedCreativeIds_eq_nil_iff.mpr hnone)
  obtain ⟨c, hc, huncleared⟩ := hblocked
  have hall := unapprovedCreativeIds_eq_nil_iff.mp hafter
  unfold assignedCreatives at hc hall
  obtain ⟨hmem, hassigned⟩ := List.mem_filter.mp hc
  have hkey : c.primaryKey =
      some (creative.creativeId, creative.tenantId, creative.principalId) := by
    by_contra hne
    have hkept : c ∈ (setCreativeStatus rows creative .approved).creatives :=
      IndexedTable.mem_modify_of_ne (f := fun c : Creative => { c with status := .approved })
        (fun _ => rfl) hmem hne
    exact huncleared (hall c (List.mem_filter.mpr ⟨hkept, hassigned⟩))
  have hid : c.creativeId = creative.creativeId := (Prod.mk.inj (Option.some.inj hkey)).1
  simp only [decide_eq_true_eq] at hassigned
  obtain ⟨a, ha, heq⟩ := List.mem_map.mp hassigned.2
  obtain ⟨hrow, hbuy⟩ := List.mem_filter.mp ha
  simp only [decide_eq_true_eq] at hbuy
  exact ⟨a, hrow, hbuy.1, hbuy.2, heq.trans hid⟩

theorem mem_unblockedBuys
    {creative : Creative}
    (hheld : rows.HasBuy tenantId mediaBuyId MediaBuy.Held)
    (hbefore : rows.unapproved tenantId mediaBuyId ≠ [])
    (hafter : (setCreativeStatus rows creative .approved).unapproved tenantId mediaBuyId = []) :
    mediaBuyId ∈ unblockedBuys (setCreativeStatus rows creative .approved) tenantId
      creative.creativeId := by
  obtain ⟨b, hb, hheld⟩ := hheld
  obtain ⟨a, ha, hassigned⟩ := exists_assignment_of_cleared hbefore hafter
  refine List.mem_filterMap.mpr ⟨a, List.mem_filter.mpr ⟨ha, ?_⟩, ?_⟩
  · simp [hassigned.1, hassigned.2.2]
  · have hfound : (setCreativeStatus rows creative .approved).getById tenantId a.mediaBuyId =
        some b := by
      rw [hassigned.2.1]
      exact hb
    rw [← hassigned.2.1] at hafter
    simp only [hfound, hafter, and_true]
    rw [if_pos hheld.status, hassigned.2.1]

/-- `approve_creative` executes the buys it releases, and leaves the others as they are. -/
theorem approveCreative_cleared
    {creative : Creative} {executions : List (String × ExecuteEnv)}
    (henvs : ∀ e ∈ executions, e.2.tenantId = tenantId)
    (hafter : (executeAll executions (setCreativeStatus rows creative .approved)).unapproved
      tenantId mediaBuyId = []) :
    (Writer.approveCreative executions).Releases rows mediaBuyId ∧
        (executeAll executions (setCreativeStatus rows creative .approved)).HasBuy tenantId
          mediaBuyId MediaBuy.Executed ∨
      ¬ (Writer.approveCreative executions).Releases rows mediaBuyId ∧
        (executeAll executions (setCreativeStatus rows creative .approved)).getById tenantId
          mediaBuyId = rows.getById tenantId mediaBuyId := by
  have hgate : (setCreativeStatus rows creative .approved).unapproved tenantId mediaBuyId = [] :=
    ((executeAll_sameGate executions _).unapproved _ _).symm.trans hafter
  have hprepared : ∀ env : ExecuteEnv,
      Prepared env (setCreativeStatus rows creative .approved) mediaBuyId ↔
        Prepared env rows mediaBuyId := fun env => prepared_congr rfl rfl
  rcases executeAll_cleared henvs hgate with ⟨⟨e, he, hid, h⟩, hexecuted⟩ | ⟨hrefused, hkept⟩
  · exact Or.inl ⟨⟨e, he, hid, (hprepared e.2).mp h⟩, hexecuted⟩
  · refine Or.inr ⟨?_, hkept⟩
    rintro ⟨e, he, hid, h⟩
    exact hrefused ⟨e, he, hid, (hprepared e.2).mpr h⟩

/-- An operation that clears the last creative of a held buy executes it exactly if it is
an approval of a creative that gets as far as the adapter. -/
theorem WriterStep.executed_iff
    (h : WriterStep tenantId rows e rows')
    (hclears : Clears tenantId rows rows' mediaBuyId) :
    rows'.HasBuy tenantId mediaBuyId MediaBuy.Executed ↔ e.Releases rows mediaBuyId := by
  by_cases hexecutes : e.Executes
  · cases h with
    | approveCreative hcreative htenant hunblocked henvs =>
        obtain ⟨b, hb, hheld⟩ := hclears.held
        rcases approveCreative_cleared henvs hclears.after with ⟨hreleases, hexecuted⟩ |
          ⟨hrefused, hkept⟩
        · exact iff_of_true hexecuted hreleases
        · refine iff_of_false ?_ hrefused
          rintro ⟨b', hb', hexecuted⟩
          rw [hkept, hb] at hb'
          cases hb'
          exact hheld.not_executed hexecuted
    | _ => cases hexecutes
  · have hheld := (h.effect hexecutes mediaBuyId).held hclears
    refine iff_of_false (not_executed_of_held hheld) ?_
    cases e with
    | approveCreative executions => exact absurd trivial hexecutes
    | _ => exact id

theorem WriterStep.finds
    {executions : List (String × ExecuteEnv)}
    (h : WriterStep tenantId rows (.approveCreative executions) rows')
    (hclears : Clears tenantId rows rows' mediaBuyId) :
    mediaBuyId ∈ executions.map (·.1) := by
  cases h with
  | approveCreative hcreative htenant hunblocked henvs =>
      rw [hunblocked]
      exact mem_unblockedBuys hclears.held hclears.before
        (((executeAll_sameGate executions _).unapproved _ _).symm.trans hclears.after)

/-- A step whose operation, where it clears the last creative of a held buy, releases it. -/
def ReleasingStep
    (tenantId : String)
    (rows : BuyRows)
    (e : Writer)
    (rows' : BuyRows) : Prop :=
  WriterStep tenantId rows e rows' ∧
    ∀ mediaBuyId, Clears tenantId rows rows' mediaBuyId → e.Releases rows mediaBuyId

theorem noneStranded_preserved :
    Preserved (ReleasingStep tenantId) (NoneStranded tenantId) := by
  rintro rows e rows' ⟨hstep, hreleases⟩ hnone mediaBuyId b hb hheld
  by_cases hexecutes : e.Executes
  · intro hafter
    cases hstep with
    | approveCreative hcreative htenant hunblocked henvs =>
        rcases approveCreative_cleared henvs hafter with ⟨-, b', hb', hexecuted⟩ |
          ⟨hrefused, hkept⟩
        · rw [hb] at hb'
          cases hb'
          exact hheld.not_executed hexecuted
        · rw [hkept] at hb
          have hbefore := hnone mediaBuyId b hb hheld
          exact hrefused (hreleases mediaBuyId ⟨⟨b, hb, hheld⟩, hbefore, hafter⟩)
    | _ => cases hexecutes
  · have hclears : ¬ Clears tenantId rows rows' mediaBuyId := by
      intro hclears
      have hreleased := (hstep.executed_iff hclears).mpr (hreleases mediaBuyId hclears)
      have hheld := (hstep.effect hexecutes mediaBuyId).held hclears
      exact not_executed_of_held hheld hreleased
    exact (hstep.effect hexecutes mediaBuyId).noneStranded hnone hclears hb hheld

/-- In every run whose operations release what they clear, no held buy is stranded; and from
every state such a run reaches, an operation that clears the last creative of a held buy
executes it exactly if it releases it, and the approval of a creative finds the buy. -/
theorem held_never_stranded
    {es : List Writer}
    (hrun : Run (ReleasingStep tenantId) .empty es rows) :
    NoneStranded tenantId rows ∧
      ∀ e rows' mediaBuyId, WriterStep tenantId rows e rows' →
        Clears tenantId rows rows' mediaBuyId →
          (rows'.HasBuy tenantId mediaBuyId MediaBuy.Executed ↔ e.Releases rows mediaBuyId) ∧
            ∀ executions, e = .approveCreative executions →
              mediaBuyId ∈ executions.map (·.1) := by
  have hempty : NoneStranded tenantId .empty := by
    intro mediaBuyId b hb
    cases hb
  refine ⟨hrun.preserves noneStranded_preserved hempty, fun e rows' mediaBuyId hstep hclears =>
    ⟨hstep.executed_iff hclears, ?_⟩⟩
  rintro executions rfl
  exact hstep.finds hclears

end Steps

section Samples

/-- A tenant that approves by hand, whose creatives wait for review. -/
def reviewedCreateEnv : CreateEnv :=
  { sampleCreateEnv true true with verdict := fun _ _ => .accepted .pendingReview none }

/-- The sample create with a creative. -/
def creativeCreateRequest : CreateRequest :=
  { sampleCreateRequest with
    packages :=
      [{ productId := "prod_1", budget := some 900, pricingOptionId := "cpm_usd_fixed"
         creatives := [⟨"c1", .null⟩] }] }

/-- The buy waits for approval, with a creative that waits for review. -/
def createdStore : Store :=
  (createMediaBuy reviewedCreateEnv creativeCreateRequest sampleIds).store

/-- The buy is approved and held. -/
def heldStore : Store :=
  (approveMediaBuy sampleExecuteEnv createdStore "mb_1").store

/-- The creative of the buy. -/
def heldCreative : Creative where
  creativeId := "c1"
  tenantId := "tenant"
  principalId := "principal"
  format := none
  status := .pendingReview
  createdAt := 1000000
  updatedAt := none

/-- That creative, with what the library keeps of it. -/
def heldCreativeRow : CreativeSync.CreativeRow :=
  { heldCreative with
    name := "banner"
    agentUrl := "https://creative.adcontextprotocol.org/"
    formatId := "display_300x250"
    formatParameters := none
    data := {} }

theorem heldStore_coherent :
    heldStore.toBuyRows.creatives =
      (IndexedTable.empty.put heldCreativeRow).map CreativeSync.CreativeRow.toCreative
        (fun _ => rfl) :=
  IndexedTable.eq_of_rows (by decide +kernel)

/-- The library with that creative. -/
def heldLibrary : CreativeSync.SyncStore where
  library := IndexedTable.empty.put heldCreativeRow
  rows := heldStore.toBuyRows
  coherent := heldStore_coherent

/-- The tenant approves creatives without a review. -/
def autoApproveEnv : CreativeSync.SyncEnv :=
  { CreativeSync.sampleEnv with
    tenantId := "tenant", principalId := "principal", approvalMode := .autoApprove }

/-- The creative once more. -/
def resyncRequest : CreativeSync.SyncCreativesRequest where
  creatives :=
    [{ creativeId := "c1", name := "banner", formatId := some ⟨"https://agent", "f", none⟩
       url := some "https://banner" }]
  wholeLibrary := CreativeSync.wholeLibrary_of_kept

/-- The package without its creative. -/
def withdrawRequest : UpdateRequest where
  mediaBuyId := "mb_1"
  packages := [{ packageId := "pkg_prod_1_token_1", creativeIds := some [] }]

theorem createdStore_pending :
    ∀ b ∈ createdStore.mediaBuys.rows, b.status = .pendingApproval := by
  decide +kernel

theorem heldStore_buy :
    heldStore.mediaBuys.rows.map (fun b => (b.mediaBuyId, b.status)) =
        [("mb_1", .pendingCreatives)] ∧
      (heldStore.toBuyRows.getById "tenant" "mb_1").any (fun b =>
        b.status = .pendingCreatives ∧ b.approvedAt ≠ none ∧ b.confirmedAt = none) = true ∧
      heldStore.toBuyRows.unapproved "tenant" "mb_1" = ["c1"] ∧
      heldCreative ∈ heldStore.creatives.rows := by
  decide +kernel

theorem heldStore_held :
    heldStore.toBuyRows.HasBuy "tenant" "mb_1" MediaBuy.Held := by
  have hbuy := heldStore_buy.2.1
  cases hfound : heldStore.toBuyRows.getById "tenant" "mb_1" with
  | none =>
      rw [hfound] at hbuy
      cases hbuy
  | some b =>
      rw [hfound] at hbuy
      obtain ⟨hstatus, happroved, hunordered⟩ := of_decide_eq_true hbuy
      exact ⟨b, hfound, Or.inl hstatus, happroved, hunordered⟩

theorem heldStore_reached :
    Run (ReleasingStep "tenant") .empty [.createMediaBuy, .approveBuy] heldStore.toBuyRows := by
  have hcreate : ReleasingStep "tenant" .empty .createMediaBuy createdStore.toBuyRows := by
    refine ⟨.createMediaBuy reviewedCreateEnv creativeCreateRequest sampleIds, ?_⟩
    rintro mediaBuyId ⟨⟨b, hb, -⟩, -, -⟩
    cases hb
  have happrove : ReleasingStep "tenant" createdStore.toBuyRows .approveBuy
      heldStore.toBuyRows := by
    refine ⟨.approveMediaBuy sampleExecuteEnv "mb_1" rfl, ?_⟩
    rintro mediaBuyId ⟨⟨b, hb, hheld⟩, -, -⟩
    have hmem := ((IndexedTable.find_eq_some_iff _).mp (BuyRows.getById_eq_some hb).1).1
    rcases hheld.status with hstatus | hstatus
    · cases (createdStore_pending b hmem).symm.trans hstatus
    · cases (createdStore_pending b hmem).symm.trans hstatus
  exact .cons hcreate (.single happrove)

theorem heldStore_prepared :
    Prepared sampleExecuteEnv heldStore.toBuyRows "mb_1" := by
  have hany : (heldStore.toBuyRows.getById "tenant" "mb_1").any (fun b =>
      (prepareExecution sampleExecuteEnv heldStore.toBuyRows b).isOk) = true := by decide +kernel
  cases hfound : heldStore.toBuyRows.getById "tenant" "mb_1" with
  | none =>
      rw [hfound] at hany
      cases hany
  | some b =>
      rw [hfound] at hany
      cases hprepare : prepareExecution sampleExecuteEnv heldStore.toBuyRows b with
      | error err =>
          simp [hprepare, Except.isOk, Except.toBool] at hany
      | ok packages => exact ⟨rfl, b, packages, hfound, hprepare⟩

/-- The approval of the creative releases the buy. -/
theorem held_buy_released :
    ∃ rows, Run (ReleasingStep "tenant") .empty
        [.createMediaBuy, .approveBuy, .approveCreative [("mb_1", sampleExecuteEnv)]] rows ∧
      Clears "tenant" heldStore.toBuyRows rows "mb_1" ∧ NoneStranded "tenant" rows ∧
      rows.HasBuy "tenant" "mb_1" MediaBuy.Executed := by
  have hstep : WriterStep "tenant" heldStore.toBuyRows
      (.approveCreative [("mb_1", sampleExecuteEnv)])
      (executeAll [("mb_1", sampleExecuteEnv)]
        (setCreativeStatus heldStore.toBuyRows heldCreative .approved)) := by
    refine .approveCreative heldStore_buy.2.2.2 rfl (by decide +kernel) ?_
    simp [sampleExecuteEnv, unbuiltAdapterEnv]
  have hreleases : ∀ rows' mediaBuyId, Clears "tenant" heldStore.toBuyRows rows' mediaBuyId →
      (Writer.approveCreative [("mb_1", sampleExecuteEnv)]).Releases heldStore.toBuyRows
        mediaBuyId := by
    rintro rows' mediaBuyId ⟨⟨b, hb, -⟩, -, -⟩
    obtain ⟨hfind, -, hid⟩ := BuyRows.getById_eq_some hb
    have hmem := List.mem_map_of_mem (f := fun b : MediaBuy => (b.mediaBuyId, b.status))
      ((IndexedTable.find_eq_some_iff _).mp hfind).1
    rw [heldStore_buy.1, List.mem_singleton] at hmem
    have hmb : mediaBuyId = "mb_1" := hid.symm.trans (Prod.mk.inj hmem).1
    subst hmb
    exact ⟨_, List.mem_singleton.mpr rfl, rfl, heldStore_prepared⟩
  have hrun := heldStore_reached.append (.single ⟨hstep, hreleases _⟩)
  have hclears : Clears "tenant" heldStore.toBuyRows
      (executeAll [("mb_1", sampleExecuteEnv)]
        (setCreativeStatus heldStore.toBuyRows heldCreative .approved)) "mb_1" := by
    refine ⟨heldStore_held, ?_, by decide +kernel⟩
    rw [heldStore_buy.2.2.1]
    exact List.cons_ne_nil _ _
  have hreleased := ((held_never_stranded heldStore_reached).2 _ _ _ hstep hclears).1.mpr
    (hreleases _ _ hclears)
  exact ⟨_, hrun, hclears, (held_never_stranded hrun).1, hreleased⟩

/-- A verdict of the review, a sync that approves and an update that withdraws the creative
clear the last creative of a held buy, and leave the buy held. -/
theorem cleared_buy_stranded :
    ∃ es rows, Run (WriterStep "tenant") .empty es rows ∧
      ∀ e ∈ [Writer.review, .syncCreatives, .updateMediaBuy],
        ∃ rows', WriterStep "tenant" rows e rows' ∧ Clears "tenant" rows rows' "mb_1" ∧
          ¬ rows'.HasBuy "tenant" "mb_1" MediaBuy.Executed ∧ ¬ NoneStranded "tenant" rows' := by
  have hreached : Run (WriterStep "tenant") .empty [.createMediaBuy, .approveBuy]
      heldStore.toBuyRows := heldStore_reached.mono fun _ _ _ h => h.1
  refine ⟨_, _, hreached, ?_⟩
  have hstranded : ∀ e rows', WriterStep "tenant" heldStore.toBuyRows e rows' → ¬ e.Executes →
      rows'.unapproved "tenant" "mb_1" = [] →
      Clears "tenant" heldStore.toBuyRows rows' "mb_1" ∧
        ¬ rows'.HasBuy "tenant" "mb_1" MediaBuy.Executed ∧ ¬ NoneStranded "tenant" rows' := by
    intro e rows' hstep hexecutes hafter
    have hbefore : heldStore.toBuyRows.unapproved "tenant" "mb_1" ≠ [] := by
      rw [heldStore_buy.2.2.1]
      exact List.cons_ne_nil _ _
    have hclears : Clears "tenant" heldStore.toBuyRows rows' "mb_1" :=
      ⟨heldStore_held, hbefore, hafter⟩
    have hheld := (hstep.effect hexecutes "mb_1").held hclears
    refine ⟨hclears, not_executed_of_held hheld, fun hnone => ?_⟩
    obtain ⟨b, hb, hheld⟩ := hheld
    exact hnone "mb_1" b hb hheld hafter
  have hreview : WriterStep "tenant" heldStore.toBuyRows .review
      (setCreativeStatus heldStore.toBuyRows heldCreative .approved) := .review
  have hsync : WriterStep "tenant" heldStore.toBuyRows .syncCreatives
      (CreativeSync.syncCreatives autoApproveEnv resyncRequest heldLibrary).store.rows :=
    @WriterStep.syncCreatives "tenant" heldLibrary autoApproveEnv resyncRequest
  have hupdate : WriterStep "tenant" heldStore.toBuyRows .updateMediaBuy
      (updateMediaBuy sampleUpdateEnv withdrawRequest heldStore).store.toBuyRows :=
    .updateMediaBuy sampleUpdateEnv withdrawRequest
  simp only [List.mem_cons, List.not_mem_nil, or_false, forall_eq_or_imp, forall_eq]
  exact ⟨⟨_, hreview, hstranded _ _ hreview id (by decide +kernel)⟩,
    ⟨_, hsync, hstranded _ _ hsync id (by decide +kernel)⟩,
    ⟨_, hupdate, hstranded _ _ hupdate id (by decide +kernel)⟩⟩

end Samples

end MediaBuys
end SalesAgent
