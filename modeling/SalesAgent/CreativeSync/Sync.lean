import SalesAgent.CreativeSync.Assignments

/-!
# One `sync_creatives` request

The entries are processed one after the other in one transaction, each in a savepoint
of its own: an exception that leaves the savepoint undoes its writes and drops the AI
reviews registered inside.  An exception becomes a failed result of its entry, unless
its error is transient, which ends the request.  A failed result that is returned
leaves the savepoint without an exception.

A live request commits the creatives, releases the AI reviews and then assigns in a
transaction of its own.  A dry run does all of it in one transaction and rolls back.

**Results.**
* `syncLibrary_onlyCreatives`: the creatives stage writes nothing but creatives.
* `syncCreatives_answered`: the two stages of a request that is answered.
-/

namespace SalesAgent
namespace CreativeSync

open MediaBuys (BuyRows Creative)
open Runs (run_of_foldlM)

section Loop

variable (env : SyncEnv) (dryRun : Bool)

/-- Append a failed result. -/
def SyncState.fail
    (s : SyncState)
    (creativeId : String)
    (err : SyncError) : SyncState :=
  { s with results := s.results ++ [failedSyncResult creativeId err] }

/-- The block of the savepoint: update the caller's row of that id, or create one. -/
def syncInSavepoint
    (index : Nat)
    (creative : CreativeAsset)
    (ref : FormatRef)
    (s : SyncState) : Except SyncError SyncState :=
  let existing :=
    if creative.creativeId = "" then none
    else s.store.library.find (env.creativeKey creative.creativeId)
  match existing with
  | some stored => updateExistingCreative env dryRun index creative ref s stored
  | none => createNewCreative env dryRun index creative ref s

/-- The handler of exceptions, with the state their savepoint left. -/
def handleException
    (creative : CreativeAsset)
    (s : SyncState)
    (err : SyncError) : Except SyncError SyncState :=
  if err.code.transient then .error err else .ok (s.fail creative.creativeId err)

/-- Process one entry. -/
def syncEntry
    (s : SyncState)
    (entry : CreativeAsset × Nat) : Except SyncError SyncState :=
  let creative := entry.1
  if ! env.normalises creative then handleException creative s ⟨.validationError, none⟩
  else match validateCreativeInput env entry.2 creative with
    | .error .invalid => .ok (s.fail creative.idOrUnknown ⟨.validationError, none⟩)
    | .error (.typed err) => handleException creative s err
    | .ok ref =>
        match env.provenancePolicies.head?.elim (.ok ()) (checkProvenancePolicy creative) with
        | .error err => handleException creative s err
        | .ok () =>
            match syncInSavepoint env dryRun entry.2 creative ref s with
            | .error err => handleException creative s err
            | .ok s' => .ok s'

variable {env dryRun}

/-- The store differs from an earlier one in its creatives at most. -/
def OnlyCreatives
    (s s' : SyncStore) : Prop :=
  ∃ library, s' = s.withLibrary library

theorem OnlyCreatives.refl
    (s : SyncStore) :
    OnlyCreatives s s := by
  refine ⟨s.library, ?_⟩
  obtain ⟨library, rows, hcoherent⟩ := s
  simp only [SyncStore.withLibrary, ← hcoherent]

theorem OnlyCreatives.trans
    {s t u : SyncStore}
    (h₁ : OnlyCreatives s t)
    (h₂ : OnlyCreatives t u) :
    OnlyCreatives s u := by
  obtain ⟨_, rfl⟩ := h₁
  obtain ⟨library, rfl⟩ := h₂
  exact ⟨library, rfl⟩

theorem handleException_store
    {creative : CreativeAsset} {s s' : SyncState} {err : SyncError}
    (h : handleException creative s err = .ok s') :
    s'.store = s.store := by
  unfold handleException at h
  split at h
  · cases h
  · cases h
    rfl

theorem syncInSavepoint_onlyCreatives
    {index : Nat} {creative : CreativeAsset} {ref : FormatRef} {s s' : SyncState}
    (h : syncInSavepoint env dryRun index creative ref s = .ok s') :
    OnlyCreatives s.store s'.store := by
  unfold syncInSavepoint at h
  simp only at h
  split at h
  · unfold updateExistingCreative at h
    simp only at h
    split at h
    · cases h
    · cases h
      exact ⟨_, rfl⟩
    · cases h
      exact ⟨_, rfl⟩
  · unfold createNewCreative at h
    split at h
    · cases h
    · cases h
      exact .refl _
    · simp only at h
      split at h
      · cases h
      · cases h
        exact ⟨_, rfl⟩

theorem syncEntry_onlyCreatives
    {s s' : SyncState} {entry : CreativeAsset × Nat}
    (h : syncEntry env dryRun s entry = .ok s') :
    OnlyCreatives s.store s'.store := by
  unfold syncEntry at h
  simp only at h
  split at h
  · rw [handleException_store h]
    exact .refl _
  · split at h
    · cases h
      exact .refl _
    · rw [handleException_store h]
      exact .refl _
    · split at h
      · rw [handleException_store h]
        exact .refl _
      · split at h
        · rw [handleException_store h]
          exact .refl _
        · next hblock =>
            cases h
            exact syncInSavepoint_onlyCreatives hblock

end Loop

section Request

variable (env : SyncEnv)

/-- The entries a request processes, numbered. -/
def SyncCreativesRequest.entries
    (req : SyncCreativesRequest) : List (CreativeAsset × Nat) :=
  (if req.creativeIds.isEmpty then req.creatives
    else req.creatives.filter (fun c => c.creativeId ∈ req.creativeIds)).zipIdx

/-- The ids of the payload, which `delete_missing` spares. -/
def SyncCreativesRequest.payloadIds
    (req : SyncCreativesRequest) : List String :=
  req.entries.map (·.1.creativeId)

/-- The row is one `delete_missing` archives. -/
def SyncEnv.missing
    (payloadIds : List String)
    (row : CreativeRow) : Bool :=
  row.tenantId = env.tenantId ∧ row.principalId = env.principalId ∧
    row.creativeId ∉ payloadIds ∧ row.status ≠ .archived

/-- Archive a row that is missing from the payload. -/
def archiveRow
    (payloadIds : List String)
    (row : CreativeRow) : CreativeRow :=
  if env.missing payloadIds row then { row with status := .archived } else row

theorem archiveRow_primaryKey
    (payloadIds : List String)
    (row : CreativeRow) :
    (archiveRow env payloadIds row).primaryKey = row.primaryKey := by
  unfold archiveRow
  split <;> rfl

/-- `delete_missing`. -/
def archiveMissing
    (payloadIds : List String)
    (s : SyncState) : SyncState where
  store := s.store.withLibrary
    (s.store.library.map (archiveRow env payloadIds) (archiveRow_primaryKey env payloadIds))
  queued := s.queued
  results := s.results ++ (s.store.library.rows.filter (env.missing payloadIds)).map
    (fun row => { creativeId := row.creativeId, action := .deleted })

/-- The transaction of the creatives. -/
def syncLibrary
    (req : SyncCreativesRequest)
    (store : SyncStore) : Except SyncError SyncState :=
  match req.entries.foldlM (syncEntry env req.dryRun) ⟨store, [], []⟩ with
  | .error err => .error err
  | .ok s => .ok (if req.deleteMissing then archiveMissing env req.payloadIds s else s)

theorem syncLibrary_eq_map
    (req : SyncCreativesRequest)
    (store : SyncStore) :
    syncLibrary env req store =
      (req.entries.foldlM (syncEntry env req.dryRun) ⟨store, [], []⟩).map
        (fun s => if req.deleteMissing then archiveMissing env req.payloadIds s else s) := by
  unfold syncLibrary
  cases req.entries.foldlM (syncEntry env req.dryRun) ⟨store, [], []⟩ with
  | error err => rfl
  | ok s => rfl

/-- The creatives stage writes nothing but creatives. -/
theorem syncLibrary_onlyCreatives
    {env : SyncEnv} {req : SyncCreativesRequest} {store : SyncStore} {s : SyncState}
    (h : syncLibrary env req store = .ok s) :
    OnlyCreatives store s.store := by
  unfold syncLibrary at h
  split at h
  · cases h
  · next s₀ hentries =>
      have hrun : OnlyCreatives store s₀.store :=
        (run_of_foldlM hentries).relates (R := fun s t => OnlyCreatives s.store t.store)
          (fun _ => .refl _) (fun _ _ _ => .trans)
          (fun _ _ _ hstep => syncEntry_onlyCreatives hstep)
      cases h
      split
      · exact hrun.trans ⟨_, rfl⟩
      · exact hrun

/-- What a request left behind, and what it answered. -/
structure SyncOutcome where
  store : SyncStore
  ran : List ReviewJob
  response : Except SyncError (List SyncCreativeResult)

/-- The rows after the assignment stage, which writes no creatives. -/
def SyncStore.withRows
    (s : SyncStore)
    (rows : BuyRows) : SyncStore where
  library := s.library
  rows := { rows with creatives := s.rows.creatives }
  coherent := s.coherent

/-- `sync_creatives`. -/
def syncCreatives
    (req : SyncCreativesRequest)
    (store : SyncStore) : SyncOutcome :=
  match syncLibrary env req store with
  | .error err => ⟨store, [], .error err⟩
  | .ok s =>
      let committed := if req.dryRun then store else s.store
      let ran := if req.dryRun then [] else s.queued
      match processAssignments env req.strict req.assignments s.results s.store.rows with
      | .error err => ⟨committed, ran, .error err⟩
      | .ok (rows, results) =>
          ⟨if req.dryRun then store else s.store.withRows rows, ran, .ok results⟩

/-- The two stages of a request that is answered. -/
theorem syncCreatives_answered
    {req : SyncCreativesRequest} {store : SyncStore} {results : List SyncCreativeResult}
    (h : (syncCreatives env req store).response = .ok results) :
    ∃ s rows, syncLibrary env req store = .ok s ∧
      processAssignments env req.strict req.assignments s.results s.store.rows =
        .ok (rows, results) ∧
      syncCreatives env req store =
        ⟨if req.dryRun then store else s.store.withRows rows,
          if req.dryRun then [] else s.queued, .ok results⟩ := by
  unfold syncCreatives at h ⊢
  cases hlibrary : syncLibrary env req store with
  | error err =>
      rw [hlibrary] at h
      cases h
  | ok s =>
      rw [hlibrary] at h
      cases hassign : processAssignments env req.strict req.assignments s.results s.store.rows with
      | error err =>
          simp only [hassign] at h
          cases h
      | ok outcome =>
          simp only [hassign] at h ⊢
          cases h
          exact ⟨s, outcome.1, rfl, hassign, rfl⟩

end Request

/-- A tenant that reviews by AI, whose creative agents serve no format. -/
def sampleEnv : SyncEnv where
  tenantId := "t1"
  principalId := "p1"
  approvalMode := .aiPowered
  formats := []
  provenancePolicies := []
  product := fun _ => none
  geminiApiKey := false
  agents :=
    { fetchFormatSpec := fun _ => .ok true
      buildCreative := fun _ => .ok none
      previewCreative := fun _ => .ok none }
  clock := fun i => 1000 + i
  assignedAt := 2000
  mint := fun _ => "minted"
  normalises := fun _ => true
  fits := fun _ => true
  canonicalUrl := some

/-- A buyer's agent that does not serve the format it is named for. -/
def unservedEnv : SyncEnv :=
  { sampleEnv with agents := { sampleEnv.agents with fetchFormatSpec := fun _ => .ok false } }

end CreativeSync
end SalesAgent
