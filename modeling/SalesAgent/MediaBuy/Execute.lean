import SalesAgent.MediaBuy.Create

/-!
# Executing an approved media buy

`execute_approved_media_buy` runs when a human approved a buy.  It looks the buy
up, holds it while a creative is not cleared, rebuilds its packages, asks the ad
server for the order, uploads the creatives, approves the order there and writes
the status last.

A flag records that the ad server was asked.  It is set before the adapter of the
tenant is built, so a tenant whose adapter cannot be built has its buy marked as
failed although no ad server was asked.

**Results.**
* `execute_exit`: the ways an execution ends.
* `gate_of_exit`, `unasked_of_exit`, `failed_of_exit`, `executed_of_exit`: what the rows
  say after each.
* `approvalSound_iff`: when its outcome and the row agree.
-/

namespace SalesAgent
namespace MediaBuys

/-- What an approval attempt did to the media buy. -/
inductive ApprovalOutcome
  | executed
  | heldPendingCreatives
  | failed
  deriving DecidableEq, Repr

/-- The reasons an execution reports. -/
inductive ExecuteError
  | tenantNotFound
  | mediaBuyNotFound
  | unapprovedCreatives (creativeIds : List String)
  | noAccount
  | rebuild (err : RebuildError)
  | missingFlight
  | identity
  | adapterUnavailable
  | adapterRaised
  | invalidCreatives
  | uploadFailed
  | orderNotApproved
  | orderApprovalRaised
  | vanished
  deriving DecidableEq, Repr

/-- `ApprovalResult`. -/
structure ApprovalResult where
  outcome : ApprovalOutcome
  status : Option PersistedMediaBuyStatus := none
  revision : Option Nat := none
  confirmedAt : Option DateTime := none
  error : Option ExecuteError := none
  deriving DecidableEq, Repr

/-- What `approve_order` answers, where the adapter has it. -/
inductive OrderApproval
  | unsupported
  | approved
  | refused
  | raised
  deriving DecidableEq, Repr

/-- An adapter, as the execution calls it. -/
structure ExecuteAdapter where
  createMediaBuy : List PricedPackage → Except BuyerError AdapterCreateResult
  /-- whether the upload raises; an adapter that uploads nothing does not -/
  uploadRaises : String → List Creative → Bool
  approveOrder : String → OrderApproval

/-- What an execution is given besides the rows. -/
structure ExecuteEnv where
  tenantId : String
  tenantExists : Bool
  /-- the clock at the flight window -/
  now : DateTime
  /-- the clock at the row writes -/
  later : DateTime
  approvedAt : Option DateTime
  approvedBy : Option String
  rebuild : RebuildEnv
  /-- whether `identity_of` raises for the principal and the account of the buy -/
  identityRaises : String → Option String → Bool
  /-- `get_adapter`, for the principal of the buy -/
  getAdapter : String → Except BuyerError ExecuteAdapter
  /-- whether a creative lacks what an asset needs -/
  assetProblem : Creative → Bool

/-- The rows after an execution, whether the ad server was asked, and the result. -/
structure ExecuteOutcome where
  rows : BuyRows
  asked : Bool
  result : ApprovalResult

section Definitions

variable (env : ExecuteEnv) (mediaBuyId : String) (rows : BuyRows)

/-- `ApprovalResult.failed`, with the rows untouched. -/
def refuseExecution
    (err : ExecuteError) : ExecuteOutcome :=
  ⟨rows, false, { outcome := .failed, error := some err }⟩

/-- `_mark_approval_failed`. -/
def markApprovalFailed
    (asked : Bool)
    (err : ExecuteError) : ExecuteOutcome :=
  ⟨rows.modifyBuy env.tenantId mediaBuyId (.updateStatus .failed env.later), asked,
    { outcome := .failed, error := some err }⟩

/-- What is checked and rebuilt before the adapter is built. -/
def prepareExecution
    (b : MediaBuy) : Except ExecuteError (List PricedPackage) :=
  if b.accountId = none then .error .noAccount
  else match rebuildPackages env.rebuild rows b.mediaBuyId with
    | .error err => .error (.rebuild err)
    | .ok packages =>
        if b.startTime = none ∨ b.endTime = none then .error .missingFlight
        -- the rebuilt packages name no creatives, so there are none to validate here
        else if env.identityRaises b.principalId b.accountId then .error .identity
        else .ok packages

/-- The creatives assigned to the buy that are uploaded: the ones of its principal that
do not wait for review. -/
def uploadableCreatives
    (b : MediaBuy) : List Creative :=
  let creativeIds := (rows.assignments.rows.filter (fun a => a.mediaBuyId = b.mediaBuyId)).map
    (·.creativeId)
  rows.creatives.rows.filter (fun c => c.tenantId = env.tenantId ∧
    c.principalId = b.principalId ∧ c.creativeId ∈ creativeIds ∧ c.status ≠ .pendingReview)

/-- Ask the ad server for the order, upload the creatives, approve the order. -/
def placeOrder
    (adapter : ExecuteAdapter)
    (b : MediaBuy)
    (packages : List PricedPackage) : Option ExecuteError :=
  match adapter.createMediaBuy packages with
  | .error _ => some .adapterRaised
  | .ok order =>
      let creatives := uploadableCreatives env rows b
      if creatives.any env.assetProblem then some .invalidCreatives
      else if ! creatives.isEmpty && adapter.uploadRaises order.mediaBuyId creatives then
        some .uploadFailed
      else match adapter.approveOrder order.mediaBuyId with
        | .unsupported => none
        | .approved => none
        | .refused => some .orderNotApproved
        | .raised => some .orderApprovalRaised

/-- The row as the last write leaves it. -/
def writeExecuted
    (b : MediaBuy) : BuyRows :=
  rows.modifyBuy env.tenantId mediaBuyId
    (.updateStatus (resolveFlightWindowStatus b env.now true) env.later true env.approvedAt
      env.approvedBy)

/-- The last write, and what it reports. -/
def completeExecution
    (b : MediaBuy) : ExecuteOutcome :=
  let after := writeExecuted env mediaBuyId rows b
  match after.getById env.tenantId mediaBuyId with
  | none => ⟨rows, true, { outcome := .failed, error := some .vanished }⟩
  | some written =>
      ⟨after, true,
        { outcome := .executed
          status := some (resolveFlightWindowStatus b env.now true)
          revision := some written.revision
          confirmedAt := written.confirmedAt }⟩

/-- The creative gate holds the buy. -/
def holdForCreatives
    (creativeIds : List String) : ExecuteOutcome :=
  let after := rows.modifyBuy env.tenantId mediaBuyId
    (.updateStatus .pendingCreatives env.later false env.approvedAt env.approvedBy)
  let held := after.getById env.tenantId mediaBuyId
  ⟨after, false,
    { outcome := .heldPendingCreatives
      status := some .pendingCreatives
      revision := held.map (·.revision)
      confirmedAt := held.bind (·.confirmedAt)
      error := some (.unapprovedCreatives creativeIds) }⟩

/-- `execute_approved_media_buy`. -/
def executeApprovedMediaBuy : ExecuteOutcome :=
  if ! env.tenantExists then refuseExecution rows .tenantNotFound
  else match rows.getById env.tenantId mediaBuyId with
    | none => refuseExecution rows .mediaBuyNotFound
    | some b =>
        match unapprovedCreativeIds rows.creatives.rows rows.assignments.rows env.tenantId
            mediaBuyId with
        | creativeId :: creativeIds =>
            holdForCreatives env mediaBuyId rows (creativeId :: creativeIds)
        | [] =>
            match prepareExecution env rows b with
            | .error err => refuseExecution rows err
            | .ok packages =>
                -- the flag that the ad server was asked is set from here on
                match env.getAdapter b.principalId with
                | .error _ => markApprovalFailed env mediaBuyId rows false .adapterUnavailable
                | .ok adapter =>
                    match placeOrder env rows adapter b packages with
                    | some err => markApprovalFailed env mediaBuyId rows true err
                    | none => completeExecution env mediaBuyId rows b

/-- The outcome of an execution and the row agree. -/
structure ApprovalSound : Prop where
  /-- the ad server is asked only if every assigned creative is cleared -/
  gate : (executeApprovedMediaBuy env mediaBuyId rows).asked = true →
    ∀ a ∈ rows.assignments, a.tenantId = env.tenantId → a.mediaBuyId = mediaBuyId →
      ∀ c ∈ rows.creatives, c.tenantId = env.tenantId → c.creativeId = a.creativeId →
        c.status = .approved ∨ c.status = .active
  /-- a buy whose ad server was not asked keeps its status or waits for creatives -/
  unasked : (executeApprovedMediaBuy env mediaBuyId rows).asked = false →
    statusOf env.tenantId mediaBuyId (executeApprovedMediaBuy env mediaBuyId rows).rows =
        statusOf env.tenantId mediaBuyId rows ∨
      statusOf env.tenantId mediaBuyId (executeApprovedMediaBuy env mediaBuyId rows).rows =
        some .pendingCreatives
  /-- a buy whose ad server was asked in vain is failed and as confirmed as it was -/
  failed : (executeApprovedMediaBuy env mediaBuyId rows).asked = true →
    (executeApprovedMediaBuy env mediaBuyId rows).result.outcome ≠ .executed →
    ∃ b b', rows.getById env.tenantId mediaBuyId = some b ∧
      (executeApprovedMediaBuy env mediaBuyId rows).rows.getById env.tenantId mediaBuyId =
        some b' ∧ b'.status = .failed ∧ b'.confirmedAt = b.confirmedAt
  /-- an executed buy has the status of its flight, is confirmed, and is as reported -/
  executed : (executeApprovedMediaBuy env mediaBuyId rows).result.outcome = .executed →
    ∃ b b', rows.getById env.tenantId mediaBuyId = some b ∧
      (executeApprovedMediaBuy env mediaBuyId rows).rows.getById env.tenantId mediaBuyId =
        some b' ∧
      b'.status = resolveFlightWindowStatus b env.now true ∧ b'.confirmedAt ≠ none ∧
      (executeApprovedMediaBuy env mediaBuyId rows).result.revision = some b'.revision ∧
      (executeApprovedMediaBuy env mediaBuyId rows).result.confirmedAt = b'.confirmedAt

/-- A buy whose execution gets to the adapter has one that can be built, or is failed
already. -/
def AdapterReachable : Prop :=
  ∀ b packages, env.tenantExists = true → rows.getById env.tenantId mediaBuyId = some b →
    unapprovedCreativeIds rows.creatives.rows rows.assignments.rows env.tenantId mediaBuyId = [] →
    prepareExecution env rows b = .ok packages →
    b.status = .failed ∨ ∃ adapter, env.getAdapter b.principalId = .ok adapter

end Definitions

section Exits

variable {env : ExecuteEnv} {mediaBuyId : String} {rows : BuyRows}

/-- The ways an execution ends. -/
inductive ExecuteExit
    (env : ExecuteEnv)
    (mediaBuyId : String)
    (rows : BuyRows) : ExecuteOutcome → Prop
  /-- a check in front of the adapter refuses -/
  | refused (err : ExecuteError) : ExecuteExit env mediaBuyId rows (refuseExecution rows err)
  /-- the creative gate holds -/
  | held (creativeIds : List String) :
      ExecuteExit env mediaBuyId rows (holdForCreatives env mediaBuyId rows creativeIds)
  /-- the adapter cannot be built -/
  | unavailable {b : MediaBuy} {packages : List PricedPackage} {err : BuyerError}
      (htenant : env.tenantExists = true)
      (hfound : rows.getById env.tenantId mediaBuyId = some b)
      (hgate : unapprovedCreativeIds rows.creatives.rows rows.assignments.rows env.tenantId
        mediaBuyId = [])
      (hprepared : prepareExecution env rows b = .ok packages)
      (hadapter : env.getAdapter b.principalId = .error err) :
      ExecuteExit env mediaBuyId rows
        (markApprovalFailed env mediaBuyId rows false .adapterUnavailable)
  /-- the ad server was asked and something after that failed -/
  | failed {b : MediaBuy} (err : ExecuteError)
      (hfound : rows.getById env.tenantId mediaBuyId = some b)
      (hgate : unapprovedCreativeIds rows.creatives.rows rows.assignments.rows env.tenantId
        mediaBuyId = []) :
      ExecuteExit env mediaBuyId rows (markApprovalFailed env mediaBuyId rows true err)
  /-- the order is placed -/
  | completed {b : MediaBuy}
      (hfound : rows.getById env.tenantId mediaBuyId = some b)
      (hgate : unapprovedCreativeIds rows.creatives.rows rows.assignments.rows env.tenantId
        mediaBuyId = []) :
      ExecuteExit env mediaBuyId rows (completeExecution env mediaBuyId rows b)

theorem execute_exit :
    ExecuteExit env mediaBuyId rows (executeApprovedMediaBuy env mediaBuyId rows) := by
  unfold executeApprovedMediaBuy
  split
  · exact .refused .tenantNotFound
  · next htenant =>
      split
      · exact .refused .mediaBuyNotFound
      · next b hfound =>
          split
          · exact .held _
          · next hgate =>
              split
              · next err _ => exact .refused err
              · next packages hprepared =>
                  split
                  · next hadapter =>
                      exact .unavailable (by simpa using htenant) hfound hgate hprepared hadapter
                  · split
                    · next err _ => exact .failed err hfound hgate
                    · exact .completed hfound hgate

theorem cleared_of_gate
    (hgate : unapprovedCreativeIds rows.creatives.rows rows.assignments.rows env.tenantId
      mediaBuyId = [])
    {a : CreativeAssignment} (ha : a ∈ rows.assignments)
    (hatenant : a.tenantId = env.tenantId)
    (habuy : a.mediaBuyId = mediaBuyId)
    {c : Creative} (hc : c ∈ rows.creatives)
    (hctenant : c.tenantId = env.tenantId)
    (hid : c.creativeId = a.creativeId) :
    c.status = .approved ∨ c.status = .active := by
  have hassigned : c ∈ assignedCreatives rows.creatives.rows rows.assignments.rows env.tenantId
      mediaBuyId := by
    unfold assignedCreatives
    refine List.mem_filter.mpr ⟨hc, ?_⟩
    simp only [decide_eq_true_eq]
    refine ⟨hctenant, List.mem_map.mpr ⟨a, List.mem_filter.mpr ⟨ha, ?_⟩, hid.symm⟩⟩
    simp [hatenant, habuy]
  have hcleared := unapprovedCreativeIds_eq_nil_iff.mp hgate c hassigned
  simpa [CreativeStatus.cleared] using hcleared

theorem markApprovalFailed_row
    {b : MediaBuy}
    (hfound : rows.getById env.tenantId mediaBuyId = some b)
    (asked : Bool)
    (err : ExecuteError) :
    ∃ b', (markApprovalFailed env mediaBuyId rows asked err).rows.getById env.tenantId
      mediaBuyId = some b' ∧ b'.status = .failed ∧ b'.confirmedAt = b.confirmedAt := by
  refine ⟨b.updateStatus .failed env.later, ?_, ?_, ?_⟩
  · unfold markApprovalFailed
    rw [BuyRows.getById_modifyBuy, hfound]
    rfl
  · simp [MediaBuy.updateStatus, MediaBuy.bumpRevision]
  · simp [MediaBuy.updateStatus, MediaBuy.bumpRevision]

/-- The last write is reported as it is stored. -/
theorem completeExecution_row
    {b : MediaBuy}
    (hfound : rows.getById env.tenantId mediaBuyId = some b) :
    ∃ b', completeExecution env mediaBuyId rows b =
        ⟨writeExecuted env mediaBuyId rows b, true,
          { outcome := .executed
            status := some (resolveFlightWindowStatus b env.now true)
            revision := some b'.revision
            confirmedAt := b'.confirmedAt }⟩ ∧
      (writeExecuted env mediaBuyId rows b).getById env.tenantId mediaBuyId = some b' ∧
      b'.status = resolveFlightWindowStatus b env.now true ∧ b'.confirmedAt ≠ none := by
  have hwritten : (writeExecuted env mediaBuyId rows b).getById env.tenantId mediaBuyId =
      some (b.updateStatus (resolveFlightWindowStatus b env.now true) env.later true
        env.approvedAt env.approvedBy) := by
    unfold writeExecuted
    rw [BuyRows.getById_modifyBuy, hfound]
    rfl
  refine ⟨_, ?_, hwritten, ?_, ?_⟩
  · unfold completeExecution
    simp only [hwritten]
  · simp [MediaBuy.updateStatus, MediaBuy.bumpRevision]
  · unfold MediaBuy.updateStatus MediaBuy.bumpRevision
    exact MediaBuy.stamp_committed _ _

/-- Only a cleared buy gets to the ad server. -/
theorem gate_of_exit
    {outcome : ExecuteOutcome}
    (hexit : ExecuteExit env mediaBuyId rows outcome)
    (hasked : outcome.asked = true)
    (a : CreativeAssignment) (ha : a ∈ rows.assignments)
    (hatenant : a.tenantId = env.tenantId)
    (habuy : a.mediaBuyId = mediaBuyId)
    (c : Creative) (hc : c ∈ rows.creatives)
    (hctenant : c.tenantId = env.tenantId)
    (hid : c.creativeId = a.creativeId) :
    c.status = .approved ∨ c.status = .active := by
  cases hexit with
  | refused err => exact absurd hasked (by simp [refuseExecution])
  | held creativeIds => exact absurd hasked (by simp [holdForCreatives])
  | unavailable _ _ hgate _ _ => exact cleared_of_gate hgate ha hatenant habuy hc hctenant hid
  | failed err _ hgate => exact cleared_of_gate hgate ha hatenant habuy hc hctenant hid
  | completed _ hgate => exact cleared_of_gate hgate ha hatenant habuy hc hctenant hid

theorem holdForCreatives_status
    (creativeIds : List String) :
    statusOf env.tenantId mediaBuyId (holdForCreatives env mediaBuyId rows creativeIds).rows =
        statusOf env.tenantId mediaBuyId rows ∨
      statusOf env.tenantId mediaBuyId (holdForCreatives env mediaBuyId rows creativeIds).rows =
        some .pendingCreatives := by
  unfold holdForCreatives statusOf
  rw [BuyRows.getById_modifyBuy]
  cases hfound : rows.getById env.tenantId mediaBuyId with
  | none => exact .inl rfl
  | some b =>
      refine .inr ?_
      simp [BuyRows.BuyChange.updateStatus, MediaBuy.updateStatus, MediaBuy.bumpRevision]

/-- Where the adapter can be built, a buy that does not get to the ad server is not
marked as failed. -/
theorem unasked_of_exit
    (hreachable : AdapterReachable env mediaBuyId rows)
    {outcome : ExecuteOutcome}
    (hexit : ExecuteExit env mediaBuyId rows outcome)
    (hasked : outcome.asked = false) :
    statusOf env.tenantId mediaBuyId outcome.rows = statusOf env.tenantId mediaBuyId rows ∨
      statusOf env.tenantId mediaBuyId outcome.rows = some .pendingCreatives := by
  cases hexit with
  | refused err => exact .inl rfl
  | held creativeIds => exact holdForCreatives_status creativeIds
  | @unavailable b packages err htenant hfound hgate hprepared hadapter =>
      rcases hreachable b packages htenant hfound hgate hprepared with hfailed | ⟨adapter, hok⟩
      · obtain ⟨b', hb', hstatus, -⟩ :=
          markApprovalFailed_row hfound false .adapterUnavailable
        refine .inl ?_
        unfold statusOf
        rw [hb', hfound]
        simp [hstatus, hfailed]
      · rw [hok] at hadapter
        exact absurd hadapter (by simp)
  | failed err _ _ => exact absurd hasked (by simp [markApprovalFailed])
  | @completed b hfound _ =>
      obtain ⟨b', hcomplete, -⟩ := completeExecution_row hfound
      exact absurd hasked (by rw [hcomplete]; simp)

/-- Asking the ad server in vain fails the buy. -/
theorem failed_of_exit
    {outcome : ExecuteOutcome}
    (hexit : ExecuteExit env mediaBuyId rows outcome)
    (hasked : outcome.asked = true)
    (hvain : outcome.result.outcome ≠ .executed) :
    ∃ b b', rows.getById env.tenantId mediaBuyId = some b ∧
      outcome.rows.getById env.tenantId mediaBuyId = some b' ∧
      b'.status = .failed ∧ b'.confirmedAt = b.confirmedAt := by
  cases hexit with
  | refused err => exact absurd hasked (by simp [refuseExecution])
  | held creativeIds => exact absurd hasked (by simp [holdForCreatives])
  | unavailable => exact absurd hasked (by simp [markApprovalFailed])
  | @failed b err hfound _ =>
      obtain ⟨b', hb', hstatus, hconfirmed⟩ := markApprovalFailed_row hfound true err
      exact ⟨b, b', hfound, hb', hstatus, hconfirmed⟩
  | @completed b hfound _ =>
      obtain ⟨b', hcomplete, -⟩ := completeExecution_row hfound
      exact absurd hvain (by rw [hcomplete]; simp)

/-- An executed buy is stored as it is reported. -/
theorem executed_of_exit
    {outcome : ExecuteOutcome}
    (hexit : ExecuteExit env mediaBuyId rows outcome)
    (hexecuted : outcome.result.outcome = .executed) :
    ∃ b b', rows.getById env.tenantId mediaBuyId = some b ∧
      outcome.rows.getById env.tenantId mediaBuyId = some b' ∧
      b'.status = resolveFlightWindowStatus b env.now true ∧ b'.confirmedAt ≠ none ∧
      outcome.result.revision = some b'.revision ∧
      outcome.result.confirmedAt = b'.confirmedAt := by
  cases hexit with
  | refused err => exact absurd hexecuted (by simp [refuseExecution])
  | held creativeIds => exact absurd hexecuted (by simp [holdForCreatives])
  | unavailable => exact absurd hexecuted (by simp [markApprovalFailed])
  | failed => exact absurd hexecuted (by simp [markApprovalFailed])
  | @completed b hfound _ =>
      obtain ⟨b', hcomplete, hb', hstatus, hconfirmed⟩ := completeExecution_row hfound
      rw [hcomplete]
      exact ⟨b, b', hfound, hb', hstatus, hconfirmed, rfl, rfl⟩

/-- The outcome of an execution and the row agree exactly if a buy that gets to the
adapter has one that can be built. -/
theorem approvalSound_iff :
    ApprovalSound env mediaBuyId rows ↔ AdapterReachable env mediaBuyId rows := by
  constructor
  · intro hsound b packages htenant hfound hgate hprepared
    cases hadapter : env.getAdapter b.principalId with
    | ok adapter => exact .inr ⟨adapter, rfl⟩
    | error err =>
        have houtcome : executeApprovedMediaBuy env mediaBuyId rows =
            markApprovalFailed env mediaBuyId rows false .adapterUnavailable := by
          unfold executeApprovedMediaBuy
          simp [htenant, hfound, hgate, hprepared, hadapter]
        obtain ⟨b', hb', hstatus, -⟩ :=
          markApprovalFailed_row hfound false .adapterUnavailable
        have hunasked := hsound.unasked (by rw [houtcome]; rfl)
        rw [houtcome] at hunasked
        unfold statusOf at hunasked
        rw [hb', hfound] at hunasked
        rcases hunasked with hkept | hpending
        · exact .inl (by simpa [hstatus] using hkept.symm)
        · simp [hstatus] at hpending
  · intro hreachable
    have hexit : ExecuteExit env mediaBuyId rows (executeApprovedMediaBuy env mediaBuyId rows) :=
      execute_exit
    exact ⟨gate_of_exit hexit, unasked_of_exit hreachable hexit, failed_of_exit hexit,
      executed_of_exit hexit⟩

end Exits

section Samples

/-- The rows of the sample create, whose buy waits for approval. -/
def awaitingRows : BuyRows :=
  (createMediaBuy (sampleCreateEnv true true) sampleCreateRequest sampleIds).store.toBuyRows

/-- A replay of the sample create in which the adapter of the tenant cannot be built. -/
def unbuiltAdapterEnv : ExecuteEnv where
  tenantId := "tenant"
  tenantExists := true
  now := 3000000
  later := 4000000
  approvedAt := some 3000000
  approvedBy := some "operator"
  rebuild := ⟨(sampleCreateEnv true true).product, fun t => some (some t)⟩
  identityRaises := fun _ _ => false
  getAdapter := fun _ => .error ⟨.configurationError, none⟩
  assetProblem := fun _ => false

/-- Counterexample: no ad server was asked, and the waiting buy is failed. -/
theorem unbuilt_adapter_fails_buy :
    statusOf "tenant" "mb_1" awaitingRows = some .pendingApproval ∧
      ¬ ApprovalSound unbuiltAdapterEnv "mb_1" awaitingRows := by
  refine ⟨by decide +kernel, fun hsound => ?_⟩
  have hasked : (executeApprovedMediaBuy unbuiltAdapterEnv "mb_1" awaitingRows).asked = false := by
    decide +kernel
  have hstatus : statusOf "tenant" "mb_1"
      (executeApprovedMediaBuy unbuiltAdapterEnv "mb_1" awaitingRows).rows = some .failed := by
    decide +kernel
  have hbefore : statusOf "tenant" "mb_1" awaitingRows = some .pendingApproval := by
    decide +kernel
  rcases hsound.unasked hasked with hkept | hpending
  · exact absurd (hstatus.symm.trans (hkept.trans hbefore)) (by simp)
  · exact absurd (hstatus.symm.trans hpending) (by simp)

end Samples

end MediaBuys
end SalesAgent
