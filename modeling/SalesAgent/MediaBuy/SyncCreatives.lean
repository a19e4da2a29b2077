import SalesAgent.Lib.Runs
import SalesAgent.MediaBuy.Store

/-!
# Uploading the inline creatives of a package

`update_media_buy` hands the creatives written inside a package entry to
`sync_creatives`, together with an assignment of each to that package.  The sync
has two transactions of its own: the creatives are committed first, then the
assignments.  What validation, the creative agent and the tenant's approval mode
make of a creative is a parameter, the verdict.

**Results.**
* `syncCreatives_stamped`: an upload that reports no failure leaves a creative
  row that carries its instant.
* `syncCreatives_keeps_stamp`: no upload takes such a row away.
-/

namespace SalesAgent
namespace MediaBuys

open Idempotency (Json)
open Runs (FoldStep Preserved Run run_of_foldlM)

/-- A creative written inside a package entry. -/
structure CreativeUpload where
  creativeId : String
  content : Json

/-- What becomes of one creative of the upload. -/
inductive CreativeVerdict
  /-- created or updated with this status and format -/
  | accepted (status : CreativeStatus) (format : Option FormatIdentity)
  /-- reported as failed; an existing row may have been touched before the failure -/
  | failed (touched : Option (CreativeStatus × Option FormatIdentity))
  /-- a transient error of the creative agent ends the whole request -/
  | transient (err : BuyerError)

/-- The caller, the clock, and what the sync asks about creatives and products. -/
structure SyncEnv where
  tenantId : String
  principalId : String
  now : DateTime
  verdict : CreativeUpload → Option Creative → CreativeVerdict
  product : String → Option Product

/-- What the two transactions left, and how the sync ended. -/
structure SyncResult where
  rows : BuyRows
  failed : List String
  raised : Option BuyerError

/-- The buy was approved without creatives and waits for its first ones. -/
def awaitsCreatives
    (rows : BuyRows)
    (tenantId mediaBuyId : String) : Bool :=
  (rows.getById tenantId mediaBuyId).any (fun b => b.status = .draft ∧ b.approvedAt ≠ none)

/-- Move a buy that was seen to wait for creatives. -/
def markPendingCreatives
    (tenantId mediaBuyId : String)
    (now : DateTime)
    (seen rows : BuyRows) : BuyRows :=
  if awaitsCreatives seen tenantId mediaBuyId then
    rows.modifyBuy tenantId mediaBuyId (.updateStatus .pendingCreatives now)
  else rows

section Sync

variable (env : SyncEnv)

/-- The key of the caller's creative. -/
def SyncEnv.creativeKey
    (creativeId : String) : String × String × String :=
  (creativeId, env.tenantId, env.principalId)

/-- The row of a synced creative: the stored one written over, or a new one. -/
def SyncEnv.creativeRow
    (stored : Option Creative)
    (creativeId : String)
    (status : CreativeStatus)
    (format : Option FormatIdentity) : Creative :=
  match stored with
  | some existing =>
      { existing with status := status, format := format, updatedAt := some env.now }
  | none =>
      { creativeId := creativeId
        tenantId := env.tenantId
        principalId := env.principalId
        format := format
        status := status
        createdAt := env.now
        updatedAt := none }

/-- Create the creative, or write over the caller's row of that id. -/
def storeCreative
    (rows : BuyRows)
    (creativeId : String)
    (status : CreativeStatus)
    (format : Option FormatIdentity) : BuyRows :=
  let stored := rows.creatives.find (env.creativeKey creativeId)
  { rows with
    creatives := rows.creatives.put (env.creativeRow stored creativeId status format) }

/-- Sync one creative; the second component collects the ids reported as failed. -/
def syncCreative
    (state : BuyRows × List String)
    (creative : CreativeUpload) : Except BuyerError (BuyRows × List String) :=
  let existing := state.1.creatives.find (env.creativeKey creative.creativeId)
  match env.verdict creative existing with
  | .accepted status format =>
      .ok (storeCreative env state.1 creative.creativeId status format, state.2)
  | .failed touched =>
      let rows := match existing, touched with
        | some _, some (status, format) =>
            storeCreative env state.1 creative.creativeId status format
        | _, _ => state.1
      .ok (rows, state.2 ++ [creative.creativeId])
  | .transient err => .error err

/-- The assignment an upload makes, with the terms of an unweighted creative. -/
def SyncEnv.standingAssignment
    (buy : MediaBuy)
    (packageId creativeId : String) : CreativeAssignment where
  tenantId := env.tenantId
  principalId := env.principalId
  mediaBuyId := buy.mediaBuyId
  packageId := packageId
  creativeId := creativeId
  weight := 100
  placementIds := none

/-- Assign one synced creative to the package, wherever in the tenant it is found. -/
def processAssignment
    (packageId : String)
    (failed : List String)
    (rows : BuyRows)
    (creativeId : String) : Except BuyerError BuyRows :=
  if creativeId ∈ failed then .ok rows
  else match rows.creatives.find (env.creativeKey creativeId) with
    | none => .error ⟨.creativeNotFound, some "assignments"⟩
    | some creative =>
        match rows.findPackageWithMediaBuy env.tenantId packageId with
        | none => .error ⟨.packageNotFound, none⟩
        | some (package, buy) =>
            if ! Product.accepts (package.config.productId.bind env.product) creative.format then
              .error ⟨.validationError, none⟩
            else
              let assignment := env.standingAssignment buy packageId creativeId
              match rows.assignments.find
                (env.tenantId, creativeId, buy.mediaBuyId, packageId) with
              | none =>
                  .ok { rows with assignments := rows.assignments.put assignment }
              | some existing =>
                  -- the index does not look at the principal, the lookup before it does
                  if existing.principalId = env.principalId then
                    .ok { rows with assignments := rows.assignments.put assignment }
                  else .error ⟨.internalError, none⟩

/-- The assignment transaction. -/
def processAssignments
    (packageId : String)
    (failed : List String)
    (creativeIds : List String)
    (rows : BuyRows) : Except BuyerError BuyRows := do
  let assigned ← creativeIds.foldlM (processAssignment env packageId failed) rows
  match rows.findPackageWithMediaBuy env.tenantId packageId with
  | some (_, buy) =>
      if creativeIds.any (fun c => c ∉ failed) then
        return markPendingCreatives env.tenantId buy.mediaBuyId env.now assigned assigned
      else
        return assigned
  | none => return assigned

/-- Both transactions, for the creatives of one package entry. -/
def syncCreatives
    (creatives : List CreativeUpload)
    (packageId : String)
    (rows : BuyRows) : SyncResult :=
  match creatives.foldlM (syncCreative env) (rows, []) with
  | .error err => ⟨rows, [], some err⟩
  | .ok (synced, failed) =>
      let creativeIds := (creatives.map (·.creativeId)).filter (fun c => c ≠ "")
      match processAssignments env packageId failed creativeIds synced with
      | .error err => ⟨synced, failed, some err⟩
      | .ok assigned => ⟨assigned, failed, none⟩

end Sync

section Keeps

variable {env : SyncEnv}

/-- The row carries the instant. -/
def Creative.WrittenAt
    (creative : Creative)
    (now : DateTime) : Prop :=
  creative.createdAt = now ∨ creative.updatedAt = some now

/-- What the writes of an upload keep. -/
structure KeptByUpload (env : SyncEnv) (Inv : BuyRows → Prop) : Prop where
  creative : ∀ rows row, Creative.WrittenAt row env.now → Inv rows →
    Inv { rows with creatives := rows.creatives.put row }
  assignment : ∀ rows row, Inv rows → Inv { rows with assignments := rows.assignments.put row }
  pending : ∀ rows tenantId mediaBuyId, Inv rows →
    Inv (rows.modifyBuy tenantId mediaBuyId (.updateStatus .pendingCreatives env.now))

variable {Inv : BuyRows → Prop}

theorem storeCreative_written
    (rows : BuyRows)
    (creativeId : String)
    (status : CreativeStatus)
    (format : Option FormatIdentity) :
    ∃ row, Creative.WrittenAt row env.now ∧
      storeCreative env rows creativeId status format =
        { rows with creatives := rows.creatives.put row } := by
  refine ⟨_, ?_, rfl⟩
  cases rows.creatives.find (env.creativeKey creativeId) with
  | none => exact .inl rfl
  | some existing => exact .inr rfl

theorem storeCreative_keeps
    (hcreative : ∀ rows row, Creative.WrittenAt row env.now → Inv rows →
      Inv { rows with creatives := rows.creatives.put row })
    {rows : BuyRows}
    (creativeId : String)
    (status : CreativeStatus)
    (format : Option FormatIdentity)
    (hrows : Inv rows) :
    Inv (storeCreative env rows creativeId status format) := by
  obtain ⟨row, hwritten, hstore⟩ := storeCreative_written rows creativeId status format
  rw [hstore]
  exact hcreative rows row hwritten hrows

theorem syncCreative_keeps
    (hcreative : ∀ rows row, Creative.WrittenAt row env.now → Inv rows →
      Inv { rows with creatives := rows.creatives.put row })
    {state state' : BuyRows × List String} {creative : CreativeUpload}
    (h : syncCreative env state creative = .ok state')
    (hstate : Inv state.1) :
    Inv state'.1 := by
  unfold syncCreative at h
  simp only at h
  split at h
  · cases h
    exact storeCreative_keeps hcreative _ _ _ hstate
  · cases h
    simp only
    split
    · exact storeCreative_keeps hcreative _ _ _ hstate
    · exact hstate
  · cases h

theorem run_syncCreative_keeps
    (hcreative : ∀ rows row, Creative.WrittenAt row env.now → Inv rows →
      Inv { rows with creatives := rows.creatives.put row })
    {creatives : List CreativeUpload} {state state' : BuyRows × List String}
    (h : Run (FoldStep (syncCreative env)) state creatives state')
    (hstate : Inv state.1) :
    Inv state'.1 := by
  have hinv : Preserved (FoldStep (syncCreative env)) (fun s => Inv s.1) := by
    intro s c t hstep hs
    exact syncCreative_keeps hcreative hstep hs
  exact h.preserves hinv hstate

theorem processAssignment_cases
    {packageId creativeId : String} {failed : List String} {rows rows' : BuyRows}
    (h : processAssignment env packageId failed rows creativeId = .ok rows') :
    creativeId ∈ failed ∧ rows' = rows ∨
      creativeId ∉ failed ∧ ∃ package buy,
        rows.findPackageWithMediaBuy env.tenantId packageId = some (package, buy) ∧
          rows' = { rows with
            assignments :=
              rows.assignments.put (env.standingAssignment buy packageId creativeId) } := by
  unfold processAssignment at h
  split at h
  · next hfailed =>
      cases h
      exact .inl ⟨hfailed, rfl⟩
  · next hfailed =>
      refine .inr ⟨hfailed, ?_⟩
      split at h
      · cases h
      · split at h
        · cases h
        · next package buy hfound =>
            refine ⟨package, buy, hfound, ?_⟩
            split at h
            · cases h
            · simp only at h
              split at h
              · cases h
                rfl
              · split at h
                · cases h
                  rfl
                · cases h

theorem processAssignment_keeps
    (hassignment : ∀ rows row, Inv rows →
      Inv { rows with assignments := rows.assignments.put row })
    {packageId creativeId : String} {failed : List String} {rows rows' : BuyRows}
    (h : processAssignment env packageId failed rows creativeId = .ok rows')
    (hrows : Inv rows) :
    Inv rows' := by
  rcases processAssignment_cases h with ⟨-, rfl⟩ | ⟨-, _, _, -, rfl⟩
  · exact hrows
  · exact hassignment _ _ hrows

theorem processAssignments_keeps
    (hassignment : ∀ rows row, Inv rows →
      Inv { rows with assignments := rows.assignments.put row })
    (hpending : ∀ rows tenantId mediaBuyId, Inv rows →
      Inv (markPendingCreatives tenantId mediaBuyId env.now rows rows))
    {packageId : String} {failed creativeIds : List String} {rows rows' : BuyRows}
    (h : processAssignments env packageId failed creativeIds rows = .ok rows')
    (hrows : Inv rows) :
    Inv rows' := by
  unfold processAssignments at h
  cases hassigned : creativeIds.foldlM (processAssignment env packageId failed) rows with
  | error err =>
      rw [hassigned] at h
      cases h
  | ok assigned =>
      rw [hassigned] at h
      have hinv : Preserved (FoldStep (processAssignment env packageId failed)) Inv := by
        intro s c t hstep hs
        exact processAssignment_keeps hassignment hstep hs
      have hkeep : Inv assigned := (run_of_foldlM hassigned).preserves hinv hrows
      simp only [bind, Except.bind, pure, Except.pure] at h
      split at h
      · split at h
        · cases h
          exact hpending _ _ _ hkeep
        · cases h
          exact hkeep
      · cases h
        exact hkeep

theorem syncCreatives_keeps_each
    (hcreative : ∀ rows row, Creative.WrittenAt row env.now → Inv rows →
      Inv { rows with creatives := rows.creatives.put row })
    (hassignment : ∀ rows row, Inv rows →
      Inv { rows with assignments := rows.assignments.put row })
    (hpending : ∀ rows tenantId mediaBuyId, Inv rows →
      Inv (markPendingCreatives tenantId mediaBuyId env.now rows rows))
    (creatives : List CreativeUpload)
    (packageId : String)
    {rows : BuyRows}
    (hrows : Inv rows) :
    Inv (syncCreatives env creatives packageId rows).rows := by
  unfold syncCreatives
  cases hsync : creatives.foldlM (syncCreative env) (rows, []) with
  | error err => exact hrows
  | ok result =>
      obtain ⟨synced, failed⟩ := result
      have hsynced : Inv synced := run_syncCreative_keeps hcreative (run_of_foldlM hsync) hrows
      simp only
      split
      · exact hsynced
      · next hassigned =>
          exact processAssignments_keeps hassignment hpending hassigned hsynced

/-- What its writes keep, an upload keeps. -/
theorem syncCreatives_keeps
    (hkept : KeptByUpload env Inv)
    (creatives : List CreativeUpload)
    (packageId : String)
    {rows : BuyRows}
    (hrows : Inv rows) :
    Inv (syncCreatives env creatives packageId rows).rows := by
  refine syncCreatives_keeps_each hkept.creative hkept.assignment ?_ creatives packageId hrows
  intro rows tenantId mediaBuyId hinv
  unfold markPendingCreatives
  split
  · exact hkept.pending rows tenantId mediaBuyId hinv
  · exact hinv

theorem processAssignments_creatives
    {packageId : String} {failed creativeIds : List String} {rows rows' : BuyRows}
    (h : processAssignments env packageId failed creativeIds rows = .ok rows') :
    rows'.creatives = rows.creatives := by
  have hassignment : ∀ (r : BuyRows) (row : CreativeAssignment),
      r.creatives = rows.creatives →
      ({ r with assignments := r.assignments.put row } : BuyRows).creatives = rows.creatives :=
    fun _ _ hr => hr
  refine processAssignments_keeps hassignment (fun r _ _ hr => ?_) h rfl
  unfold markPendingCreatives
  split
  · exact hr
  · exact hr

theorem syncCreatives_packages
    (creatives : List CreativeUpload)
    (packageId : String)
    (rows : BuyRows) :
    (syncCreatives env creatives packageId rows).rows.packages = rows.packages := by
  have hkept : KeptByUpload env (fun r => r.packages = rows.packages) :=
    ⟨fun _ _ _ hr => hr, fun _ _ hr => hr, fun _ _ _ hr => hr⟩
  exact syncCreatives_keeps hkept creatives packageId rfl

end Keeps

section Stamps

/-- Some creative row was written at this instant. -/
def Stamped
    (now : DateTime)
    (rows : BuyRows) : Prop :=
  ∃ c ∈ rows.creatives, c.WrittenAt now

variable {env : SyncEnv}

theorem stamped_put
    {now : DateTime} {row : Creative}
    (rows : BuyRows)
    (hrow : row.WrittenAt now) :
    Stamped now { rows with creatives := rows.creatives.put row } :=
  ⟨row, (IndexedTable.mem_put _).mpr (.inl rfl), hrow⟩

theorem keptByUpload_stamped :
    KeptByUpload env (Stamped env.now) where
  creative := fun rows _ hwritten _ => stamped_put rows hwritten
  assignment := fun _ _ hrows => hrows
  pending := fun _ _ _ hrows => hrows

/-- No upload takes a stamped creative away. -/
theorem syncCreatives_keeps_stamp
    (creatives : List CreativeUpload)
    (packageId : String)
    {rows : BuyRows}
    (hstamped : Stamped env.now rows) :
    Stamped env.now (syncCreatives env creatives packageId rows).rows :=
  syncCreatives_keeps keptByUpload_stamped creatives packageId hstamped

theorem syncCreative_failed
    {state state' : BuyRows × List String} {creative : CreativeUpload}
    (h : syncCreative env state creative = .ok state') :
    state.2 <+: state'.2 := by
  unfold syncCreative at h
  simp only at h
  split at h
  · cases h
    exact List.prefix_rfl
  · cases h
    exact List.prefix_append _ _
  · cases h

theorem run_syncCreative_failed
    {creatives : List CreativeUpload} {state state' : BuyRows × List String}
    (h : Run (FoldStep (syncCreative env)) state creatives state') :
    state.2 <+: state'.2 :=
  h.relates (R := fun s t => s.2 <+: t.2) (fun _ => List.prefix_rfl)
    (fun _ _ _ => List.IsPrefix.trans) (fun _ _ _ hstep => syncCreative_failed hstep)

theorem syncCreative_stamped
    {state state' : BuyRows × List String} {creative : CreativeUpload}
    (h : syncCreative env state creative = .ok state')
    (hnone : state'.2 = []) :
    Stamped env.now state'.1 := by
  unfold syncCreative at h
  simp only at h
  split at h
  · cases h
    obtain ⟨row, hwritten, hstore⟩ := storeCreative_written state.1 creative.creativeId _ _
    rw [hstore]
    exact stamped_put state.1 hwritten
  · cases h
    simp at hnone
  · cases h

/-- An upload without a failure wrote its creatives. -/
theorem syncCreatives_stamped
    {creatives : List CreativeUpload} {packageId : String} {rows : BuyRows}
    (hne : creatives ≠ [])
    (hraised : (syncCreatives env creatives packageId rows).raised = none)
    (hfailed : (syncCreatives env creatives packageId rows).failed = []) :
    Stamped env.now (syncCreatives env creatives packageId rows).rows := by
  obtain ⟨c, cs, rfl⟩ := List.exists_cons_of_ne_nil hne
  unfold syncCreatives at hraised hfailed ⊢
  cases hsync : (c :: cs).foldlM (syncCreative env) (rows, []) with
  | error err =>
      rw [hsync] at hraised
      cases hraised
  | ok result =>
      obtain ⟨synced, failed⟩ := result
      rw [hsync] at hraised hfailed
      simp only at hraised hfailed ⊢
      cases hassigned : processAssignments env packageId failed
        ((List.map (·.creativeId) (c :: cs)).filter (fun c => c ≠ "")) synced with
      | error err =>
          rw [hassigned] at hraised
          cases hraised
      | ok assigned =>
          rw [hassigned] at hfailed
          have hnone : failed = [] := hfailed
          obtain ⟨middle, hfirst, hrest⟩ := (run_of_foldlM hsync).uncons
          have hsynced : Stamped env.now synced := by
            -- the ids reported as failed only grow, so the first creative is not among them
            have hmiddle : middle.2 = [] := by
              refine List.prefix_nil.mp ?_
              rw [← hnone]
              exact run_syncCreative_failed hrest
            exact run_syncCreative_keeps keptByUpload_stamped.creative hrest
              (syncCreative_stamped hfirst hmiddle)
          unfold Stamped
          rw [processAssignments_creatives hassigned]
          exact hsynced

end Stamps

end MediaBuys
end SalesAgent
