import SalesAgent.CreativeSync.Sync
import SalesAgent.MediaBuy.Approval
import SalesAgent.MediaBuy.Sweep

/-!
# Releasing a held media buy

A buy that is approved while one of its creatives is not cleared is held: it keeps the
approval, waits in `pending_creatives` and has no order.  `approve_creative` looks for the
held buys of the creative it approved, and executes the ones whose creatives are all
cleared.

The status of a creative is also written by the AI review and by every sync of the
creative, and the assignments of a buy by `update_media_buy`, a create and a sync.  None of
these looks for held buys.

**Results.**
* `MediaBuy.KeepsHold.held_iff`: what keeps the hold of a buy.
* `updateMediaBuy_keepsBuy`, `syncCreatives_keepsBuy`, `createMediaBuy_books`: what the
  writers of creatives and assignments do to the rows of buys.
-/

namespace SalesAgent
namespace MediaBuys

open Runs (FoldStep Preserved run_of_foldlM)
open UnitOfWork (Act Answer afterCalls_keeps block block_keeps block_rows_of_raised)

/-- The buy was approved and waits for its creatives, and the seller has not committed. -/
structure MediaBuy.Held
    (b : MediaBuy) : Prop where
  status : b.status = .pendingCreatives ∨ b.status = .draft
  approved : b.approvedAt ≠ none
  unordered : b.confirmedAt = none

/-- The approval of the buy was executed: there is an order, or the buy is failed. -/
def MediaBuy.Executed
    (b : MediaBuy) : Prop :=
  b.status = .failed ∨ b.confirmedAt ≠ none

/-- The creatives of the buy that are not cleared. -/
def BuyRows.unapproved
    (rows : BuyRows)
    (tenantId mediaBuyId : String) : List String :=
  unapprovedCreativeIds rows.creatives.rows rows.assignments.rows tenantId mediaBuyId

/-- No held buy of the tenant has all its creatives cleared. -/
def NoneStranded
    (tenantId : String)
    (rows : BuyRows) : Prop :=
  ∀ mediaBuyId b, rows.getById tenantId mediaBuyId = some b → b.Held →
    rows.unapproved tenantId mediaBuyId ≠ []

/-- The operation cleared the last creative of a held buy. -/
structure Clears
    (tenantId : String)
    (rows rows' : BuyRows)
    (mediaBuyId : String) : Prop where
  held : rows.HasBuy tenantId mediaBuyId MediaBuy.Held
  before : rows.unapproved tenantId mediaBuyId ≠ []
  after : rows'.unapproved tenantId mediaBuyId = []

section Routes

/-- Write the status of a creative. -/
def setCreativeStatus
    (rows : BuyRows)
    (creative : Creative)
    (status : CreativeStatus) : BuyRows :=
  { rows with
    creatives := rows.creatives.modify
      (creative.creativeId, creative.tenantId, creative.principalId)
      (fun c => { c with status := status }) (fun _ => rfl) }

/-- `media_buy_actions`: the waiting buys of the creative that no creative blocks, once for
each assignment. -/
def unblockedBuys
    (rows : BuyRows)
    (tenantId creativeId : String) : List String :=
  (rows.assignments.rows.filter
    (fun a => a.tenantId = tenantId ∧ a.creativeId = creativeId)).filterMap (fun a =>
      match rows.getById tenantId a.mediaBuyId with
      | none => none
      | some b =>
          if (b.status = .pendingCreatives ∨ b.status = .draft) ∧
              rows.unapproved tenantId a.mediaBuyId = [] then some a.mediaBuyId
          else none)

/-- Execute the buys, one after the other. -/
def executeAll
    (executions : List (String × ExecuteEnv))
    (rows : BuyRows) : BuyRows :=
  executions.foldl (fun rows e => (executeApprovedMediaBuy e.2 e.1 rows).rows) rows

end Routes

/-- A stored buy, once it passes its gate, gets as far as the adapter. -/
def Prepared
    (env : ExecuteEnv)
    (rows : BuyRows)
    (mediaBuyId : String) : Prop :=
  env.tenantExists = true ∧
    ∃ b packages, rows.getById env.tenantId mediaBuyId = some b ∧
      prepareExecution env rows b = .ok packages

/-- The writers of creatives, assignments and the status of buys. -/
inductive Writer
  | approveCreative (executions : List (String × ExecuteEnv))
  | rejectCreative
  | review
  | syncCreatives
  | updateMediaBuy
  | createMediaBuy
  | approveBuy
  | rejectBuy
  | sweep

/-- The operation executes the buy, and the execution is not refused. -/
def Writer.Releases
    (e : Writer)
    (rows : BuyRows)
    (mediaBuyId : String) : Prop :=
  match e with
  | .approveCreative executions =>
      ∃ execution ∈ executions, execution.1 = mediaBuyId ∧ Prepared execution.2 rows mediaBuyId
  | _ => False

/-- The writers of one tenant. -/
inductive WriterStep
    (tenantId : String) : BuyRows → Writer → BuyRows → Prop
  /-- `approve_creative`, on the row its lookup by id returned -/
  | approveCreative {rows : BuyRows} {creative : Creative}
      {executions : List (String × ExecuteEnv)}
      (hcreative : creative ∈ rows.creatives)
      (htenant : creative.tenantId = tenantId)
      (hunblocked : executions.map (·.1) =
        unblockedBuys (setCreativeStatus rows creative .approved) tenantId creative.creativeId)
      (henvs : ∀ e ∈ executions, e.2.tenantId = tenantId) :
      WriterStep tenantId rows (.approveCreative executions)
        (executeAll executions (setCreativeStatus rows creative .approved))
  | rejectCreative {rows : BuyRows} {creative : Creative} :
      WriterStep tenantId rows .rejectCreative (setCreativeStatus rows creative .rejected)
  /-- a verdict of the AI review, or the mark of one that failed -/
  | review {rows : BuyRows} {creative : Creative} {status : CreativeStatus} :
      WriterStep tenantId rows .review (setCreativeStatus rows creative status)
  | syncCreatives {store : CreativeSync.SyncStore} (env : CreativeSync.SyncEnv)
      (req : CreativeSync.SyncCreativesRequest) :
      WriterStep tenantId store.rows .syncCreatives
        (CreativeSync.syncCreatives env req store).store.rows
  | updateMediaBuy {store : Store} (env : UpdateEnv) (req : UpdateRequest) :
      WriterStep tenantId store.toBuyRows .updateMediaBuy
        (updateMediaBuy env req store).store.toBuyRows
  | createMediaBuy {store : Store} (env : CreateEnv) (req : CreateRequest)
      (ids : GeneratedIds store) :
      WriterStep tenantId store.toBuyRows .createMediaBuy
        (createMediaBuy env req ids).store.toBuyRows
  | approveWorkflowStep {store : Store} (env : ExecuteEnv) (stepId : String)
      (htenant : env.tenantId = tenantId) :
      WriterStep tenantId store.toBuyRows .approveBuy
        (approveWorkflowStep env store stepId).store.toBuyRows
  | approveMediaBuy {store : Store} (env : ExecuteEnv) (mediaBuyId : String)
      (htenant : env.tenantId = tenantId) :
      WriterStep tenantId store.toBuyRows .approveBuy
        (approveMediaBuy env store mediaBuyId).store.toBuyRows
  | rejectMediaBuy {store : Store} (env : ExecuteEnv) (mediaBuyId : String)
      (htenant : env.tenantId = tenantId) :
      WriterStep tenantId store.toBuyRows .rejectBuy
        (rejectMediaBuy env store mediaBuyId).store.toBuyRows
  /-- the sweep, whatever rows it loaded before -/
  | sweep {rows : BuyRows} (written : List SweepWrite)
      (hwritten : ∀ w ∈ written, w.status = .completed ∨ w.status = .active) :
      WriterStep tenantId rows .sweep (commitSweep rows written)

/-- The buy keeps its approval and its order, and its status but for a draft that starts to
wait for creatives. -/
structure MediaBuy.KeepsHold
    (b b' : MediaBuy) : Prop where
  approvedAt : b'.approvedAt = b.approvedAt
  confirmedAt : b'.confirmedAt = b.confirmedAt
  status : b'.status = b.status ∨
    b.status = .draft ∧ b.approvedAt ≠ none ∧ b'.status = .pendingCreatives

namespace MediaBuy

variable {b b' : MediaBuy}

theorem KeepsHold.refl
    (b : MediaBuy) :
    b.KeepsHold b :=
  ⟨rfl, rfl, Or.inl rfl⟩

theorem KeepsHold.held_iff
    (h : b.KeepsHold b') :
    b'.Held ↔ b.Held := by
  constructor
  · rintro ⟨hstatus, happroved, hunordered⟩
    refine ⟨?_, h.approvedAt ▸ happroved, h.confirmedAt ▸ hunordered⟩
    rcases h.status with hsame | ⟨hdraft, _⟩
    · exact hsame ▸ hstatus
    · exact Or.inr hdraft
  · rintro ⟨hstatus, happroved, hunordered⟩
    refine ⟨?_, h.approvedAt.symm ▸ happroved, h.confirmedAt.symm ▸ hunordered⟩
    rcases h.status with hsame | ⟨_, _, hpending⟩
    · exact hsame.symm ▸ hstatus
    · exact Or.inl hpending

/-- A buy that waits, as it was seen, may be moved to wait for its creatives. -/
theorem KeepsHold.pending
    {seen : MediaBuy} {now : DateTime}
    (hseen : b.KeepsHold seen)
    (hdraft : seen.status = .draft)
    (happroved : seen.approvedAt ≠ none)
    (h : b.KeepsHold b') :
    b.KeepsHold (b'.updateStatus .pendingCreatives now) := by
  have hwritten : (b'.updateStatus .pendingCreatives now).approvedAt = b'.approvedAt ∧
      (b'.updateStatus .pendingCreatives now).confirmedAt = b'.confirmedAt := by
    simp [updateStatus, bumpRevision]
  refine ⟨hwritten.1.trans h.approvedAt, hwritten.2.trans h.confirmedAt,
    Or.inr ⟨?_, hseen.approvedAt ▸ happroved, updateStatus_status _ _ _ _ _ _⟩⟩
  rcases hseen.status with hsame | ⟨_, _, hpending⟩
  · exact hsame.symm.trans hdraft
  · rw [hdraft] at hpending
    cases hpending

theorem KeepsHold.fields
    {updates : FieldUpdates} {now : DateTime}
    (hstatus : updates.status = none)
    (h : b.KeepsHold b') :
    b.KeepsHold (b'.updateFields updates now) := by
  have hwritten : (b'.updateFields updates now).approvedAt = b'.approvedAt ∧
      (b'.updateFields updates now).confirmedAt = b'.confirmedAt := by
    simp [updateFields, bumpRevision]
  refine ⟨hwritten.1.trans h.approvedAt, hwritten.2.trans h.confirmedAt, ?_⟩
  rw [updateFields_status, hstatus]
  exact h.status

theorem Held.not_executed
    (h : b.Held) :
    ¬ b.Executed := by
  rintro (hfailed | hordered)
  · rcases h.status with hstatus | hstatus
    · rw [hfailed] at hstatus
      cases hstatus
    · rw [hfailed] at hstatus
      cases hstatus
  · exact hordered h.unordered

end MediaBuy

/-- The buy is there as it was, but for what keeps its hold. -/
def KeepsBuy
    (start : Option MediaBuy)
    (tenantId mediaBuyId : String)
    (rows : BuyRows) : Prop :=
  Option.Rel MediaBuy.KeepsHold start (rows.getById tenantId mediaBuyId)

section Keeping

variable {start : Option MediaBuy} {tenantId mediaBuyId : String} {rows rows' seen : BuyRows}

theorem KeepsBuy.refl
    (rows : BuyRows)
    (tenantId mediaBuyId : String) :
    KeepsBuy (rows.getById tenantId mediaBuyId) tenantId mediaBuyId rows := by
  unfold KeepsBuy
  cases rows.getById tenantId mediaBuyId with
  | none => exact .none
  | some b => exact .some (.refl b)

/-- A change of a buy that keeps the hold of that buy. -/
theorem KeepsBuy.modifyBuy
    {tenantId' mediaBuyId' : String} {change : BuyRows.BuyChange}
    (h : KeepsBuy start tenantId mediaBuyId rows)
    (hchange : ∀ b b', tenantId = tenantId' → mediaBuyId = mediaBuyId' → start = some b →
      b.KeepsHold b' → b.KeepsHold (change.apply b')) :
    KeepsBuy start tenantId mediaBuyId (rows.modifyBuy tenantId' mediaBuyId' change) := by
  by_cases hid : mediaBuyId = mediaBuyId'
  · by_cases htenant : tenantId = tenantId'
    · unfold KeepsBuy at h ⊢
      subst hid htenant
      rw [BuyRows.getById_modifyBuy]
      cases hfound : rows.getById tenantId mediaBuyId with
      | none =>
          rw [hfound] at h
          exact h
      | some b' =>
          rw [hfound] at h
          cases h with
          | some hb => exact .some (hchange _ b' rfl rfl rfl hb)
    · unfold KeepsBuy
      subst hid
      rw [BuyRows.getById_modifyBuy_of_tenant_ne rows change htenant]
      exact h
  · unfold KeepsBuy
    rw [BuyRows.getById_modifyBuy_of_ne rows change hid]
    exact h

theorem KeepsBuy.markPendingCreatives
    {tenantId' mediaBuyId' : String} {now : DateTime}
    (hseen : KeepsBuy start tenantId mediaBuyId seen)
    (h : KeepsBuy start tenantId mediaBuyId rows) :
    KeepsBuy start tenantId mediaBuyId
      (markPendingCreatives tenantId' mediaBuyId' now seen rows) := by
  unfold MediaBuys.markPendingCreatives
  split_ifs with hawaits
  · refine h.modifyBuy ?_
    rintro b b' rfl rfl hstart hb
    unfold awaitsCreatives at hawaits
    unfold KeepsBuy at hseen
    rw [hstart] at hseen
    cases hfound : seen.getById tenantId mediaBuyId with
    | none =>
        rw [hfound] at hawaits
        cases hawaits
    | some b₀ =>
        rw [hfound] at hawaits hseen
        obtain ⟨hdraft, happroved⟩ := of_decide_eq_true hawaits
        cases hseen with
        | some hkeep => exact hkeep.pending hdraft happroved hb
  · exact h

end Keeping

section Writers

variable {start : Option MediaBuy} {tenantId mediaBuyId : String} {rows seen : BuyRows}

theorem KeepsBuy.updateBuyFields
    {env : UpdateEnv} {req : UpdateRequest} {updates : MediaBuy.FieldUpdates}
    (hstatus : updates.status = none)
    (h : KeepsBuy start tenantId mediaBuyId rows) :
    KeepsBuy start tenantId mediaBuyId (updateBuyFields env req updates seen rows) :=
  h.modifyBuy fun _ _ _ _ _ hb => hb.fields hstatus

theorem KeepsBuy.replaceAssignments
    {env : UpdateEnv} {req : UpdateRequest} {pkg : PackageUpdate}
    {requested : List AssignmentUpdate}
    (hseen : KeepsBuy start tenantId mediaBuyId seen)
    (h : KeepsBuy start tenantId mediaBuyId rows) :
    KeepsBuy start tenantId mediaBuyId (replaceAssignments env req pkg requested seen rows) := by
  have hwritten : KeepsBuy start tenantId mediaBuyId
      (writeAssignments env req pkg requested seen rows) := by
    unfold KeepsBuy BuyRows.getById
    rw [writeAssignments_mediaBuys]
    exact h
  unfold MediaBuys.replaceAssignments
  simp only
  split
  · exact hwritten
  · exact hseen.markPendingCreatives hwritten

theorem KeepsBuy.writeTargeting
    {req : UpdateRequest} {packageId : String} {overlay : Targeting}
    (h : KeepsBuy start tenantId mediaBuyId rows) :
    KeepsBuy start tenantId mediaBuyId (writeTargeting req packageId overlay seen rows) := by
  unfold MediaBuys.writeTargeting
  split
  · exact h
  · exact h

/-- The writes of a request keep every buy. -/
theorem KeepsBuy.inside
    {env : UpdateEnv} {req : UpdateRequest}
    {refuses : BuyRows → Option BuyerError} {write : BuyRows → BuyRows → BuyRows}
    (hact : Act.inside refuses write ∈ applyActs env req)
    (hseen : KeepsBuy start tenantId mediaBuyId seen)
    (h : KeepsBuy start tenantId mediaBuyId rows) :
    KeepsBuy start tenantId mediaBuyId (write seen rows) := by
  rcases mem_applyActs hact with ⟨paused, -, hpause⟩ | ⟨-, index, pkg, -, hpackage⟩ | ⟨-, hdates⟩ |
    hresponse
  · simp only [pauseActs, adapterAct, List.mem_cons, reduceCtorEq, Act.inside.injEq,
      List.not_mem_nil, or_false, false_or] at hpause
    rw [hpause.2]
    exact h.updateBuyFields rfl
  · cases inside_mem_packageActs hpackage with
    | none => exact h
    | assignments requested => exact hseen.replaceAssignments h
    | targeting _ => exact h.writeTargeting
  · unfold datesActs at hdates
    split at hdates
    · simp only [List.mem_cons, Act.inside.injEq, List.not_mem_nil, or_false] at hdates
      rw [hdates.2]
      exact h.updateBuyFields rfl
    · cases hdates
  · simp only [responseAct, Act.check, Act.inside.injEq] at hresponse
    rw [hresponse.2]
    exact h

/-- The calls of a request keep every buy. -/
theorem KeepsBuy.outside
    {env : UpdateEnv} {req : UpdateRequest}
    {call : Nat → BuyRows → Answer BuyRows OutsideCall BuyerError}
    (hact : Act.outside call ∈ applyActs env req)
    (n : Nat)
    (h : KeepsBuy start tenantId mediaBuyId rows) :
    KeepsBuy start tenantId mediaBuyId (call n rows).rows := by
  rcases outside_mem_applyActs hact with ⟨action, packageId, budget, -, hcall⟩ |
    ⟨pkg, -, -, hcall⟩
  · cases hcall
    simp only [AdapterAnswer.commit]
    split
    · exact h
    · exact h
  · cases hcall
    exact syncCreatives_keeps_each (fun _ _ _ hr => hr) (fun _ _ hr => hr)
      (fun _ _ _ hr => hr.markPendingCreatives hr) _ _ h

theorem updateMediaBuy_keepsBuy
    (env : UpdateEnv)
    (req : UpdateRequest)
    {store : Store}
    (h : KeepsBuy start tenantId mediaBuyId store.toBuyRows) :
    KeepsBuy start tenantId mediaBuyId (updateMediaBuy env req store).store.toBuyRows := by
  by_cases hgate : EndsAtGate env req store.toBuyRows
  · rw [(updateMediaBuy_of_endsAtGate hgate).2.1]
    exact h
  · rw [(updateMediaBuy_of_not_endsAtGate hgate).2.1]
    have houtside : ∀ call, Act.outside call ∈ applyActs env req → ∀ n rows,
        KeepsBuy start tenantId mediaBuyId rows →
          KeepsBuy start tenantId mediaBuyId (call n rows).rows :=
      fun call hact n rows hrows => hrows.outside hact n
    by_cases hpass : (block (applyActs env req) store.toBuyRows).raised = none
    · exact block_keeps (fun refuses write hact seen rows hseen hrows => hseen.inside hact hrows)
        houtside hpass h
    · rw [block_rows_of_raised hpass]
      exact afterCalls_keeps houtside h

/-- A sync of creatives keeps every buy. -/
theorem syncCreatives_keepsBuy
    (env : CreativeSync.SyncEnv)
    (req : CreativeSync.SyncCreativesRequest)
    {store : CreativeSync.SyncStore}
    (h : KeepsBuy start tenantId mediaBuyId store.rows) :
    KeepsBuy start tenantId mediaBuyId (CreativeSync.syncCreatives env req store).store.rows := by
  unfold CreativeSync.syncCreatives
  cases hlibrary : CreativeSync.syncLibrary env req store with
  | error err => exact h
  | ok s =>
      obtain ⟨library, hs⟩ := CreativeSync.syncLibrary_onlyCreatives hlibrary
      have hcommitted : KeepsBuy start tenantId mediaBuyId s.store.rows := by
        rw [hs]
        exact h
      simp only
      cases hassign : CreativeSync.processAssignments env req.strict req.assignments s.results
          s.store.rows with
      | error err =>
          simp only
          split
          · exact h
          · exact hcommitted
      | ok answered =>
          obtain ⟨stage, hstage, hrows, -⟩ := CreativeSync.processAssignments_eq_ok hassign
          have hinv : Preserved
              (FoldStep (CreativeSync.assignCreative env req.strict
                (CreativeSync.failedIds s.results)))
              (fun t => t.rows.mediaBuys = s.store.rows.mediaBuys) :=
            fun _ _ _ hstep hst => (CreativeSync.assignCreative_mediaBuys hstep).trans hst
          have hassigned : stage.rows.mediaBuys = s.store.rows.mediaBuys :=
            (run_of_foldlM hstage).preserves hinv rfl
          have hstaged : KeepsBuy start tenantId mediaBuyId stage.rows := by
            unfold KeepsBuy BuyRows.getById
            rw [hassigned]
            exact hcommitted
          have hsettled : KeepsBuy start tenantId mediaBuyId answered.1 := by
            rw [hrows]
            exact List.foldlRecOn stage.reached _ hstaged
              (fun r hr id _ => hr.markPendingCreatives hr)
          simp only
          split
          · exact h
          · exact hsettled

/-- At most one buy was inserted, which nobody has approved. -/
def BooksAtMost
    (rows rows' : BuyRows) : Prop :=
  rows'.mediaBuys = rows.mediaBuys ∨
    ∃ row, rows.mediaBuys.insert row = some rows'.mediaBuys ∧ row.approvedAt = none

theorem approvedAt_createFromRequest
    (b : NewBuy)
    (now : DateTime) :
    (b.manualRow now).approvedAt = none ∧ (b.syncRow now).approvedAt = none := by
  constructor
  · unfold NewBuy.manualRow MediaBuy.createFromRequest
    obtain ⟨confirmedAt, hstamp⟩ := MediaBuy.stamp_eq _ false now
    rw [hstamp]
  · unfold NewBuy.syncRow MediaBuy.createFromRequest
    obtain ⟨confirmedAt, hstamp⟩ := MediaBuy.stamp_eq _ true now
    rw [hstamp]

theorem BooksAtMost.booked
    {env : CreateEnv} {req : CreateRequest} {row : MediaBuy} {uploaded booked : BuyRows}
    (huploaded : uploaded.mediaBuys = rows.mediaBuys)
    (hbooked : bookBuy env req row uploaded = .ok booked)
    (happroved : row.approvedAt = none)
    {after : BuyRows}
    (hafter : after.mediaBuys = booked.mediaBuys) :
    BooksAtMost rows after := by
  refine Or.inr ⟨row, ?_, happroved⟩
  rw [hafter, ← huploaded]
  exact (BuyRows.insertBuy_eq_some (bookBuy_ok hbooked)).1

theorem linkStepToObject_toBuyRows
    (store : Store)
    (tenantId : String)
    (mapping : ObjectWorkflowMapping) :
    (store.linkStepToObject tenantId mapping).toBuyRows = store.toBuyRows := by
  unfold Store.linkStepToObject
  split
  · rfl
  · rfl

theorem assignPackages_mediaBuys
    {env : CreateEnv} {upload : Creative → Option BuyerError} {bookedId : String}
    {named : List (PackageRequest × String)} {packaged assigned : BuyRows}
    (h : named.foldlM (assignPackage env upload bookedId) packaged = .ok assigned) :
    assigned.mediaBuys = packaged.mediaBuys := by
  have hassignment : ∀ (r : BuyRows) table, r.mediaBuys = packaged.mediaBuys →
      ({ r with assignments := table } : BuyRows).mediaBuys = packaged.mediaBuys :=
    fun _ _ hr => hr
  exact assignPackages_keeps hassignment h rfl

theorem createPending_books
    {env : CreateEnv} {req : CreateRequest} {store uploaded : Store} {ids : GeneratedIds store}
    {packages : List PackageRequest}
    (huploaded : uploaded.mediaBuys = rows.mediaBuys) :
    BooksAtMost rows (createPending env req ids packages uploaded).store.toBuyRows := by
  have hrow := (approvedAt_createFromRequest (newBuy env req ids.mediaBuyId packages) env.later).1
  unfold createPending
  split
  · exact Or.inl huploaded
  · simp only
    split
    · exact Or.inl huploaded
    · next booked hbooked =>
        have hbooks : ∀ after : BuyRows, after.mediaBuys = booked.mediaBuys →
            BooksAtMost rows after := fun after => BooksAtMost.booked huploaded hbooked hrow
        split
        · exact hbooks _ rfl
        · next packaged hpackaged =>
            have hsame := (storePackages_ok hpackaged).1
            split
            · refine hbooks _ ?_
              exact (congrArg BuyRows.mediaBuys (linkStepToObject_toBuyRows _ _ _)).trans hsame
            · next assigned hassigned =>
                exact hbooks _ ((assignPackages_mediaBuys hassigned).trans hsame)

theorem createOrdered_books
    {env : CreateEnv} {req : CreateRequest} {store uploaded : Store} {ids : GeneratedIds store}
    {packages : List PackageRequest}
    (huploaded : uploaded.mediaBuys = rows.mediaBuys) :
    BooksAtMost rows (createOrdered env req ids packages uploaded).store.toBuyRows := by
  unfold createOrdered
  split
  · exact Or.inl huploaded
  · simp only
    split
    · exact Or.inl huploaded
    · split
      · exact Or.inl huploaded
      · next order _ =>
          have hrow :=
            (approvedAt_createFromRequest (newBuy env req order.mediaBuyId packages) env.later).2
          split
          · exact Or.inl huploaded
          · next booked hbooked =>
              have hbooks : ∀ after : BuyRows, after.mediaBuys = booked.mediaBuys →
                  BooksAtMost rows after := fun after => BooksAtMost.booked huploaded hbooked hrow
              unfold storeOrder
              simp only
              split
              · exact hbooks _ rfl
              · split
                · exact hbooks _ rfl
                · next packaged hpackaged =>
                    have hsame := (storePackages_ok hpackaged).1
                    split
                    · exact hbooks _ hsame
                    · split
                      · exact hbooks _ hsame
                      · next assigned hassigned =>
                          have hassigns := (assignPackages_mediaBuys hassigned).trans hsame
                          split
                          · exact hbooks _ hassigns
                          · refine hbooks _ ?_
                            exact (congrArg BuyRows.mediaBuys
                              (linkStepToObject_toBuyRows _ _ _)).trans hassigns

/-- A create inserts at most one buy, and changes no other. -/
theorem createMediaBuy_books
    (env : CreateEnv)
    (req : CreateRequest)
    {store : Store}
    (ids : GeneratedIds store) :
    BooksAtMost store.toBuyRows (createMediaBuy env req ids).store.toBuyRows := by
  have hupload : (uploadCreatives env req.packages store.toBuyRows).1.mediaBuys =
      store.mediaBuys :=
    @uploadCreatives_keeps env (fun r => r.mediaBuys = store.mediaBuys) (fun _ _ _ hr => hr)
      req.packages _ rfl
  unfold createMediaBuy
  split
  · exact Or.inl rfl
  · simp only
    split
    · exact Or.inl rfl
    · split
      · next heq =>
          rw [Store.createWorkflowStep_toBuyRows] at heq
          rw [heq] at hupload
          exact Or.inl hupload
      · next heq =>
          rw [Store.createWorkflowStep_toBuyRows] at heq
          rw [heq] at hupload
          split
          · exact createPending_books hupload
          · split
            · exact Or.inl hupload
            · split
              · exact Or.inl hupload
              · exact createOrdered_books hupload

/-- An insert keeps the buys that are there; a new buy is not held. -/
theorem BooksAtMost.keepsBuy
    {rows' : BuyRows}
    (h : BooksAtMost rows rows') :
    KeepsBuy (rows.getById tenantId mediaBuyId) tenantId mediaBuyId rows' ∨
      rows.getById tenantId mediaBuyId = none ∧
        ∀ b, rows'.getById tenantId mediaBuyId = some b → ¬ b.Held := by
  have hkept : rows'.mediaBuys.find mediaBuyId = rows.mediaBuys.find mediaBuyId →
      KeepsBuy (rows.getById tenantId mediaBuyId) tenantId mediaBuyId rows' := by
    intro hfind
    have hsame : rows'.getById tenantId mediaBuyId = rows.getById tenantId mediaBuyId := by
      rw [BuyRows.getById, hfind]
      rfl
    rw [← hsame]
    exact .refl rows' tenantId mediaBuyId
  rcases h with hsame | ⟨row, hinsert, happroved⟩
  · exact Or.inl (hkept (by rw [hsame]))
  · by_cases hid : row.mediaBuyId = mediaBuyId
    · have hkey : row.primaryKey = some mediaBuyId := congrArg some hid
      have hfree := (rows.mediaBuys.conflicts_iff_find hkey).not.mp
        ((rows.mediaBuys.insert_eq_some_iff.mp hinsert).1)
      refine Or.inr ⟨?_, ?_⟩
      · unfold BuyRows.getById
        rw [Option.not_isSome_iff_eq_none.mp hfree]
        rfl
      · intro b hb hheld
        have hfound := (BuyRows.getById_eq_some hb).1
        rw [IndexedTable.find_insert_self hinsert hkey] at hfound
        cases hfound
        exact hheld.approved happroved
    · exact Or.inl (hkept (IndexedTable.find_insert_of_ne hinsert
        (fun hkey => hid (Option.some.inj hkey))))

end Writers

end MediaBuys
end SalesAgent
