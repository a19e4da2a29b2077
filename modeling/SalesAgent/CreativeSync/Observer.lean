import SalesAgent.CreativeSync.Sync
import SalesAgent.Lib.TwoRuns

/-!
# What an observer sees of the creatives stage

An observer sees some rows of the library, and of the results and of the queue those of
some ids.  Two transactions agree for it where it sees the same in both.  An entry whose
key only seen rows can carry is processed alike in both: it fails in both with one error,
or it leaves two transactions that agree.  An entry whose id is not seen, and whose row
is not, changes nothing that is seen.  The same is true of the assignments.

**Results.**
* `syncEntry_eq`: an entry is refused, or processed in its savepoint.
* `syncInSavepoint_agree`, `archiveMissing_agree`: agreement is kept.
* `syncInSavepoint_unseen`: what is unseen leaves no trace.
-/

namespace SalesAgent
namespace CreativeSync

open MediaBuys (BuyRows Creative CreativeAssignment)
open TwoRuns (Alike)

section Entry

variable (env : SyncEnv)

/-- The caller's row of the id an entry names. -/
def SyncEnv.existing
    (s : SyncState)
    (creative : CreativeAsset) : Option CreativeRow :=
  if creative.creativeId = "" then none
  else s.store.library.find (env.creativeKey creative.creativeId)

/-- An entry up to its savepoint: refused, or with its format. -/
def SyncEnv.admission
    (entry : CreativeAsset × Nat) : Except Refusal FormatRef :=
  if ! env.normalises entry.1 then .error (.typed ⟨.validationError, none⟩)
  else match validateCreativeInput env entry.2 entry.1 with
    | .error refusal => .error refusal
    | .ok ref =>
        match env.provenancePolicies.head?.elim (.ok ()) (checkProvenancePolicy entry.1) with
        | .error err => .error (.typed err)
        | .ok () => .ok ref

/-- What becomes of a refused entry. -/
def refuse
    (creative : CreativeAsset)
    (s : SyncState) : Refusal → Except SyncError SyncState
  | .invalid => .ok (s.fail creative.idOrUnknown ⟨.validationError, none⟩)
  | .typed err => handleException creative s err

variable {env}

/-- An entry is refused, or processed in its savepoint. -/
theorem syncEntry_eq
    (dryRun : Bool)
    (s : SyncState)
    (entry : CreativeAsset × Nat) :
    syncEntry env dryRun s entry =
      match env.admission entry with
      | .error refusal => refuse entry.1 s refusal
      | .ok ref =>
          match syncInSavepoint env dryRun entry.2 entry.1 ref s with
          | .error err => handleException entry.1 s err
          | .ok s' => .ok s' := by
  unfold syncEntry SyncEnv.admission
  simp only
  split
  · rfl
  · cases validateCreativeInput env entry.2 entry.1 with
    | error refusal => cases refusal <;> rfl
    | ok ref =>
        simp only
        cases env.provenancePolicies.head?.elim (.ok ()) (checkProvenancePolicy entry.1) <;> rfl

theorem syncInSavepoint_eq
    (dryRun : Bool)
    (index : Nat)
    (creative : CreativeAsset)
    (ref : FormatRef)
    (s : SyncState) :
    syncInSavepoint env dryRun index creative ref s =
      match env.existing s creative with
      | some stored => updateExistingCreative env dryRun index creative ref s stored
      | none => createNewCreative env dryRun index creative ref s :=
  rfl

theorem existing_eq_some
    {s : SyncState} {creative : CreativeAsset} {stored : CreativeRow}
    (index : Nat)
    (h : env.existing s creative = some stored) :
    stored ∈ s.store.library ∧
      stored.primaryKey = some (env.creativeKey (env.storedId index creative)) ∧
      stored.creativeId = creative.creativeId ∧ creative.creativeId ≠ "" := by
  unfold SyncEnv.existing at h
  split at h
  · cases h
  · next hid =>
      obtain ⟨hmem, hkey⟩ := (IndexedTable.find_eq_some_iff _).mp h
      have hcarried := hkey
      simp only [CreativeRow.primaryKey, Creative.primaryKey, SyncEnv.creativeKey,
        Option.some.injEq, Prod.mk.injEq] at hcarried
      refine ⟨hmem, ?_, hcarried.1, hid⟩
      rw [hkey, SyncEnv.storedId, if_neg hid]

end Entry

section Agreement

variable {env : SyncEnv} {dryRun : Bool} {own : CreativeRow → Bool} {shown : String → Bool}

/-- The observer sees the same rows, jobs and results in both transactions. -/
structure Agree
    (own : CreativeRow → Bool)
    (shown : String → Bool)
    (s t : SyncState) : Prop where
  creatives : s.store.library.part own = t.store.library.part own
  queued : s.queued.filter (shown ·.creativeId) = t.queued.filter (shown ·.creativeId)
  results : s.results.filter (shown ·.creativeId) = t.results.filter (shown ·.creativeId)

theorem Agree.symm
    {s t : SyncState}
    (h : Agree own shown s t) :
    Agree own shown t s :=
  ⟨h.creatives.symm, h.queued.symm, h.results.symm⟩

theorem Agree.trans
    {s t u : SyncState}
    (h : Agree own shown s t)
    (h' : Agree own shown t u) :
    Agree own shown s u :=
  ⟨h.creatives.trans h'.creatives, h.queued.trans h'.queued, h.results.trans h'.results⟩

theorem find_agree
    {s t : SyncStore} {key : String × String × String}
    (h : s.library.part own = t.library.part own)
    (hown : ∀ row : CreativeRow, row.primaryKey = some key → own row = true) :
    s.library.find key = t.library.find key := by
  rw [IndexedTable.find_eq_find?_part _ (fun row _ => hown row), h,
    IndexedTable.find_eq_find?_part _ (fun row _ => hown row)]

theorem Agree.fail
    {s t : SyncState}
    (h : Agree own shown s t)
    (creativeId : String)
    (err : SyncError) :
    Agree own shown (s.fail creativeId err) (t.fail creativeId err) :=
  ⟨h.creatives, h.queued, by simp only [SyncState.fail, List.filter_append, h.results]⟩

theorem handleException_agree
    {s t : SyncState}
    (h : Agree own shown s t)
    (creative : CreativeAsset)
    (err : SyncError) :
    Alike (Agree own shown) (handleException creative s err) (handleException creative t err) := by
  unfold handleException
  split
  · exact .error err
  · exact .ok (h.fail creative.creativeId err)

theorem refuse_agree
    {s t : SyncState}
    (h : Agree own shown s t)
    (creative : CreativeAsset)
    (refusal : Refusal) :
    Alike (Agree own shown) (refuse creative s refusal) (refuse creative t refusal) := by
  cases refusal with
  | invalid => exact .ok (h.fail _ _)
  | typed err => exact handleException_agree h creative err

theorem updateExistingCreative_agree
    {s t : SyncState} {index : Nat} {creative : CreativeAsset} {ref : FormatRef}
    {stored : CreativeRow}
    (h : Agree own shown s t)
    (hown : ∀ row : CreativeRow, row.primaryKey = stored.primaryKey → own row = true) :
    Alike (Agree own shown) (updateExistingCreative env dryRun index creative ref s stored)
      (updateExistingCreative env dryRun index creative ref t stored) := by
  have hput : ∀ row : CreativeRow, row.primaryKey = stored.primaryKey →
      (s.store.withLibrary (s.store.library.put row)).library.part own =
        (t.store.withLibrary (t.store.library.put row)).library.part own := by
    intro row hrow
    simp only [SyncStore.withLibrary, IndexedTable.part_put _ (hown row hrow), h.creatives]
  unfold updateExistingCreative
  simp only
  cases Consulted.of (consultForUpdate env dryRun index creative ref stored.data) with
  | raised err => exact .error err
  | failed err =>
      refine .ok ⟨hput _ rfl, ?_, ?_⟩
      · simp only [List.filter_append, h.queued]
      · simp only [List.filter_append, h.results]
  | accepted data changes =>
      refine .ok ⟨hput _ rfl, ?_, ?_⟩
      · simp only [List.filter_append, h.queued]
      · simp only [List.filter_append, h.results]

theorem createNewCreative_agree
    {s t : SyncState} {index : Nat} {creative : CreativeAsset} {ref : FormatRef}
    (h : Agree own shown s t)
    (hown : ∀ row : CreativeRow,
      row.primaryKey = some (env.creativeKey (env.storedId index creative)) → own row = true) :
    Alike (Agree own shown) (createNewCreative env dryRun index creative ref s)
      (createNewCreative env dryRun index creative ref t) := by
  unfold createNewCreative
  cases Consulted.of (consultForCreate env dryRun index creative ref) with
  | raised err => exact .error err
  | failed err => exact .ok ⟨h.creatives, h.queued, by simp only [List.filter_append, h.results]⟩
  | accepted data changes =>
      have hkey : (newRow env index creative ref data).primaryKey =
          some (env.creativeKey (env.storedId index creative)) := rfl
      simp only
      have hrefuses := IndexedTable.insert_eq_none_congr hkey (find_agree h.creatives hown)
      cases hs : s.store.library.insert (newRow env index creative ref data) with
      | none =>
          rw [hrefuses.mp hs]
          exact .error _
      | some library =>
          cases ht : t.store.library.insert (newRow env index creative ref data) with
          | none => simp [hrefuses.mpr ht] at hs
          | some library' =>
              refine .ok ⟨?_, ?_, ?_⟩
              · change library.part _ = library'.part _
                rw [IndexedTable.part_insert hs (hown _ hkey),
                  IndexedTable.part_insert ht (hown _ hkey), h.creatives]
              · simp only [List.filter_append, h.queued]
              · simp only [List.filter_append, h.results]

theorem existing_agree
    {s t : SyncState} {index : Nat} {creative : CreativeAsset}
    (h : Agree own shown s t)
    (hown : ∀ row : CreativeRow,
      row.primaryKey = some (env.creativeKey (env.storedId index creative)) → own row = true) :
    env.existing s creative = env.existing t creative := by
  unfold SyncEnv.existing
  split
  · rfl
  · next hid =>
      refine find_agree h.creatives ?_
      rwa [SyncEnv.storedId, if_neg hid] at hown

/-- An entry whose key only seen rows can carry keeps agreement in its savepoint. -/
theorem syncInSavepoint_agree
    {s t : SyncState} {index : Nat} {creative : CreativeAsset} {ref : FormatRef}
    (h : Agree own shown s t)
    (hown : ∀ row : CreativeRow,
      row.primaryKey = some (env.creativeKey (env.storedId index creative)) → own row = true) :
    Alike (Agree own shown) (syncInSavepoint env dryRun index creative ref s)
      (syncInSavepoint env dryRun index creative ref t) := by
  rw [syncInSavepoint_eq, syncInSavepoint_eq, ← existing_agree h hown]
  cases hfind : env.existing s creative with
  | none => exact createNewCreative_agree h hown
  | some stored =>
      obtain ⟨-, hkey, -, -⟩ := existing_eq_some index hfind
      exact updateExistingCreative_agree h (fun row hrow => hown row (hrow.trans hkey))

/-- Archiving what is missing keeps agreement, where the observer sees the row of each
id it sees. -/
theorem archiveMissing_agree
    {s t : SyncState} {payloadIds : List String}
    (h : Agree own shown s t)
    (harchive : ∀ row, own (archiveRow env payloadIds row) = own row)
    (hmissing : ∀ row, env.missing payloadIds row = true → shown row.creativeId = true →
      own row = true) :
    Agree own shown (archiveMissing env payloadIds s) (archiveMissing env payloadIds t) := by
  have hdeleted : ∀ u : SyncState,
      ((u.store.library.rows.filter (env.missing payloadIds)).map (fun row =>
          ({ creativeId := row.creativeId, action := .deleted } : SyncCreativeResult))).filter
        (shown ·.creativeId) =
      (((u.store.library.part own).filter (env.missing payloadIds)).filter
        (shown ·.creativeId)).map (fun row => { creativeId := row.creativeId, action := .deleted }) := by
    intro u
    rw [List.filter_map, IndexedTable.part, List.filter_filter, List.filter_filter,
      List.filter_filter]
    congr 1
    refine List.filter_congr ?_
    intro row _
    by_cases hrow : env.missing payloadIds row = true
    · by_cases hshown : shown row.creativeId = true
      · simp [hmissing row hrow hshown, hrow, hshown]
      · simp [Bool.eq_false_iff.mpr hshown]
    · simp [Bool.eq_false_iff.mpr hrow]
  refine ⟨?_, h.queued, ?_⟩
  · simp only [archiveMissing, SyncStore.withLibrary]
    rw [IndexedTable.part_map _ (archiveRow_primaryKey env payloadIds) harchive,
      IndexedTable.part_map _ (archiveRow_primaryKey env payloadIds) harchive, h.creatives]
  · simp only [archiveMissing, List.filter_append, hdeleted, h.results, h.creatives]

/-- One entry whose key only seen rows can carry keeps agreement. -/
theorem syncEntry_agree
    {s t : SyncState} {entry : CreativeAsset × Nat}
    (h : Agree own shown s t)
    (hown : ∀ row : CreativeRow,
      row.primaryKey = some (env.creativeKey (env.storedId entry.2 entry.1)) → own row = true) :
    Alike (Agree own shown) (syncEntry env dryRun s entry) (syncEntry env dryRun t entry) := by
  rw [syncEntry_eq, syncEntry_eq]
  cases env.admission entry with
  | error refusal => exact refuse_agree h entry.1 refusal
  | ok ref =>
      have hblock := @syncInSavepoint_agree env dryRun _ _ _ _ _ _ ref h hown
      simp only
      generalize syncInSavepoint env dryRun entry.2 entry.1 ref s = a at hblock
      generalize syncInSavepoint env dryRun entry.2 entry.1 ref t = b at hblock
      cases hblock with
      | ok hnext => exact .ok hnext
      | error err => exact handleException_agree h entry.1 err

end Agreement

section Unseen

variable {env : SyncEnv} {dryRun : Bool} {own : CreativeRow → Bool} {shown : String → Bool}

/-- Neither the row of an entry is seen nor a result about it. -/
structure Unseen
    (env : SyncEnv)
    (own : CreativeRow → Bool)
    (shown : String → Bool)
    (entry : CreativeAsset × Nat) : Prop where
  row : ∀ row : CreativeRow,
    row.primaryKey = some (env.creativeKey (env.storedId entry.2 entry.1)) → own row = false
  stored : shown (env.storedId entry.2 entry.1) = false
  named : shown entry.1.creativeId = false
  unknown : shown entry.1.idOrUnknown = false

theorem agree_fail
    (s : SyncState)
    {creativeId : String}
    (h : shown creativeId = false)
    (err : SyncError) :
    Agree own shown s (s.fail creativeId err) :=
  ⟨rfl, rfl, by simp [SyncState.fail, failedSyncResult, h]⟩

theorem handleException_unseen
    {s s' : SyncState} {creative : CreativeAsset} {err : SyncError}
    (hshown : shown creative.creativeId = false)
    (h : handleException creative s err = .ok s') :
    Agree own shown s s' := by
  unfold handleException at h
  split at h
  · cases h
  · cases h
    exact agree_fail s hshown err

theorem refuse_unseen
    {s s' : SyncState} {entry : CreativeAsset × Nat} {refusal : Refusal}
    (hunseen : Unseen env own shown entry)
    (h : refuse entry.1 s refusal = .ok s') :
    Agree own shown s s' := by
  cases refusal with
  | invalid =>
      cases h
      exact agree_fail s hunseen.unknown _
  | typed err => exact handleException_unseen hunseen.named h

theorem reviews_unseen
    {creativeId : String}
    (h : shown creativeId = false) :
    (env.reviews creativeId).filter (shown ·.creativeId) = [] := by
  unfold SyncEnv.reviews
  split <;> simp [h]

theorem updateExistingCreative_unseen
    {s s' : SyncState} {entry : CreativeAsset × Nat} {ref : FormatRef} {stored : CreativeRow}
    (hunseen : Unseen env own shown entry)
    (hkey : stored.primaryKey = some (env.creativeKey (env.storedId entry.2 entry.1)))
    (hid : stored.creativeId = entry.1.creativeId)
    (h : updateExistingCreative env dryRun entry.2 entry.1 ref s stored = .ok s') :
    Agree own shown s s' := by
  have hput : ∀ row : CreativeRow, row.primaryKey = stored.primaryKey →
      s.store.library.part own = (s.store.library.put row).part own := by
    intro row hrow
    refine (IndexedTable.part_put_of_not _ (hunseen.row row (hrow.trans hkey)) ?_).symm
    intro r' _ hown hsame
    rw [hunseen.row r' (hsame.trans (hrow.trans hkey))] at hown
    cases hown
  have hshown : shown stored.creativeId = false := hid ▸ hunseen.named
  unfold updateExistingCreative at h
  simp only at h
  split at h
  · cases h
  · cases h
    exact ⟨hput _ rfl, by simp [reviews_unseen hshown], by simp [failedSyncResult, hshown]⟩
  · cases h
    exact ⟨hput _ rfl, by simp [reviews_unseen hshown], by simp [hshown]⟩

theorem createNewCreative_unseen
    {s s' : SyncState} {entry : CreativeAsset × Nat} {ref : FormatRef}
    (hunseen : Unseen env own shown entry)
    (h : createNewCreative env dryRun entry.2 entry.1 ref s = .ok s') :
    Agree own shown s s' := by
  unfold createNewCreative at h
  split at h
  · cases h
  · cases h
    exact agree_fail s hunseen.unknown _
  · next data _ _ =>
      simp only at h
      split at h
      · cases h
      · next library hinsert =>
          cases h
          have hshown : shown (newRow env entry.2 entry.1 ref data).creativeId = false :=
            hunseen.stored
          refine ⟨?_, by simp [reviews_unseen hshown], by simp [hshown]⟩
          exact (IndexedTable.part_insert_of_not hinsert (hunseen.row _ rfl)).symm

/-- What is unseen leaves no trace. -/
theorem syncInSavepoint_unseen
    {s s' : SyncState} {entry : CreativeAsset × Nat} {ref : FormatRef}
    (hunseen : Unseen env own shown entry)
    (h : syncInSavepoint env dryRun entry.2 entry.1 ref s = .ok s') :
    Agree own shown s s' := by
  rw [syncInSavepoint_eq] at h
  cases hfind : env.existing s entry.1 with
  | none =>
      rw [hfind] at h
      exact createNewCreative_unseen hunseen h
  | some stored =>
      rw [hfind] at h
      obtain ⟨-, hkey, hid, -⟩ := existing_eq_some entry.2 hfind
      exact updateExistingCreative_unseen hunseen hkey hid h

theorem syncEntry_unseen
    {s s' : SyncState} {entry : CreativeAsset × Nat}
    (hunseen : Unseen env own shown entry)
    (h : syncEntry env dryRun s entry = .ok s') :
    Agree own shown s s' := by
  rw [syncEntry_eq] at h
  cases hadmitted : env.admission entry with
  | error refusal =>
      rw [hadmitted] at h
      exact refuse_unseen hunseen h
  | ok ref =>
      rw [hadmitted] at h
      dsimp only at h
      cases hblock : syncInSavepoint env dryRun entry.2 entry.1 ref s with
      | error err =>
          rw [hblock] at h
          exact handleException_unseen hunseen.named h
      | ok s'' =>
          rw [hblock] at h
          cases h
          exact syncInSavepoint_unseen hunseen hblock

end Unseen

section Assignments

variable {rows rows' : BuyRows} {own : CreativeAssignment → Bool}

/-- The rows with other assignments. -/
def withAssignments
    (rows : BuyRows)
    (assignments : IndexedTable CreativeAssignment (String × String × String × String)
      CreativeAssignment.uniqueKey) : BuyRows :=
  { rows with assignments := assignments }

theorem storeAssignment_eq_ok
    {a : CreativeAssignment}
    (h : storeAssignment rows a = .ok rows') :
    ∃ assignments, rows' = withAssignments rows assignments ∧
      ∀ x ∈ assignments, x = a ∨ x ∈ rows.assignments := by
  unfold storeAssignment at h
  simp only at h
  split at h
  · cases h
    exact ⟨_, rfl, fun x hx => ((IndexedTable.mem_put _).mp hx).imp_right And.left⟩
  · split at h
    · cases h
    · next assignments hinsert =>
        cases h
        exact ⟨assignments, rfl, fun x hx => (IndexedTable.mem_insert hinsert x).mp hx⟩

theorem storeAssignment_alike
    {a : CreativeAssignment}
    (h : rows.assignments.part own = rows'.assignments.part own)
    (hown : own a = true)
    (hfree : ∀ x ∈ rows.assignments, x.uniqueKey = a.uniqueKey → own x = true)
    (hfree' : ∀ x ∈ rows'.assignments, x.uniqueKey = a.uniqueKey → own x = true) :
    Alike (fun r r' => r.assignments.part own = r'.assignments.part own)
      (storeAssignment rows a) (storeAssignment rows' a) := by
  have hsame : rows.assignments.find (a.tenantId, a.creativeId, a.mediaBuyId, a.packageId) =
      rows'.assignments.find (a.tenantId, a.creativeId, a.mediaBuyId, a.packageId) := by
    rw [IndexedTable.find_eq_find?_part _ hfree, h, IndexedTable.find_eq_find?_part _ hfree']
  have hkey : a.uniqueKey = some (a.tenantId, a.creativeId, a.mediaBuyId, a.packageId) := rfl
  have hrefuses := IndexedTable.insert_eq_none_congr hkey hsame
  unfold storeAssignment
  simp only [← hsame]
  split
  · exact .ok (by simp only [IndexedTable.part_put _ hown, h])
  · cases hs : rows.assignments.insert a with
    | none =>
        rw [hrefuses.mp hs]
        exact .error _
    | some assignments =>
        cases ht : rows'.assignments.insert a with
        | none => simp [hrefuses.mpr ht] at hs
        | some assignments' =>
            exact .ok (by
              simp only [IndexedTable.part_insert hs hown, IndexedTable.part_insert ht hown, h])

/-- An assignment that is not seen, of a key no seen assignment carries. -/
theorem storeAssignment_unseen
    {a : CreativeAssignment}
    (hown : ∀ x : CreativeAssignment, x.uniqueKey = a.uniqueKey → own x = false)
    (h : storeAssignment rows a = .ok rows') :
    rows'.assignments.part own = rows.assignments.part own := by
  unfold storeAssignment at h
  simp only at h
  split at h
  · cases h
    refine IndexedTable.part_put_of_not _ (hown a rfl) ?_
    intro x _ hx hsame
    rw [hown x hsame] at hx
    cases hx
  · split at h
    · cases h
    · next assignments hinsert =>
        cases h
        exact IndexedTable.part_insert_of_not hinsert (hown a rfl)

end Assignments

end CreativeSync
end SalesAgent
