import SalesAgent.CreativeSync.Observer

/-!
# What other principals' rows have to do with a sync

A request of one principal must write and read no row of another.  Creatives are
looked up under the caller's key.  A package is looked up by its id alone, within the
tenant, and the unique index of the assignments does not hold the principal, so both
lookups of the assignment stage see rows of others.

`SameView` relates two stores that agree on the caller's rows.

**Results.**
* `syncLibrary_alike`: the creatives stage reveals nothing.
* `processAssignments_alike`, `processAssignments_confined`: nor does the assignment
  stage where no other principal has a package, or an assignment on the caller's
  package, that the request names.
-/

namespace SalesAgent
namespace CreativeSync

open MediaBuys (BuyRows Creative CreativeAssignment MediaBuy MediaPackage Product
  awaitsCreatives markPendingCreatives)
open Runs (FoldStep Preserved Run run_of_foldlM)
open TwoRuns (Alike)

section Ownership

variable (env : SyncEnv)

/-- The creative is the caller's. -/
def SyncEnv.ownsCreative
    (row : CreativeRow) : Bool :=
  row.tenantId = env.tenantId ∧ row.principalId = env.principalId

/-- The buy is the caller's. -/
def SyncEnv.ownsBuy
    (b : MediaBuy) : Bool :=
  b.tenantId = env.tenantId ∧ b.principalId = env.principalId

/-- The assignment is the caller's. -/
def SyncEnv.ownsAssignment
    (a : CreativeAssignment) : Bool :=
  a.tenantId = env.tenantId ∧ a.principalId = env.principalId

/-- The id names a buy of the caller. -/
def SyncEnv.ownsBuyId
    (rows : BuyRows)
    (mediaBuyId : String) : Bool :=
  (rows.getById env.tenantId mediaBuyId).any env.ownsBuy

/-- The package belongs to a buy of the caller. -/
def SyncEnv.ownsPackage
    (rows : BuyRows)
    (p : MediaPackage) : Bool :=
  env.ownsBuyId rows p.mediaBuyId

/-- The same buys, packages and assignments of the caller. -/
structure SameRows
    (rows rows' : BuyRows) : Prop where
  buys : rows.mediaBuys.part env.ownsBuy = rows'.mediaBuys.part env.ownsBuy
  packages : rows.packages.part (env.ownsPackage rows) =
    rows'.packages.part (env.ownsPackage rows')
  assignments : rows.assignments.part env.ownsAssignment =
    rows'.assignments.part env.ownsAssignment

/-- The same rows of the caller. -/
structure SameView
    (s s' : SyncStore) : Prop extends SameRows env s.rows s'.rows where
  creatives : s.library.part env.ownsCreative = s'.library.part env.ownsCreative

end Ownership

section Creatives

variable {env : SyncEnv} {dryRun : Bool}

theorem ownsCreative_of_key
    {row : CreativeRow} {creativeId : String}
    (h : row.primaryKey = some (env.creativeKey creativeId)) :
    env.ownsCreative row = true := by
  simp only [CreativeRow.primaryKey, Creative.primaryKey, SyncEnv.creativeKey,
    Option.some.injEq, Prod.mk.injEq] at h
  simp [SyncEnv.ownsCreative, h.2.1, h.2.2]

theorem find_creativeKey
    {s t : SyncStore}
    (h : s.library.part env.ownsCreative = t.library.part env.ownsCreative)
    (creativeId : String) :
    s.library.find (env.creativeKey creativeId) = t.library.find (env.creativeKey creativeId) := by
  rw [IndexedTable.find_eq_find?_part _ (fun _ _ hkey => ownsCreative_of_key hkey), h,
    IndexedTable.find_eq_find?_part _ (fun _ _ hkey => ownsCreative_of_key hkey)]

/-- The transactions of the creatives agree on the caller's creatives, on the effects
and on the results. -/
structure SameCreatives
    (env : SyncEnv)
    (s t : SyncState) : Prop where
  creatives : s.store.library.part env.ownsCreative = t.store.library.part env.ownsCreative
  queued : s.queued = t.queued
  results : s.results = t.results

theorem sameCreatives_iff
    {s t : SyncState} :
    SameCreatives env s t ↔ Agree env.ownsCreative (fun _ => true) s t := by
  have hall : ∀ {α : Type} (as : List α), as.filter (fun _ => true) = as :=
    fun as => List.filter_true as
  refine ⟨fun h => ⟨h.creatives, ?_, ?_⟩, fun h => ⟨h.creatives, ?_, ?_⟩⟩
  · rw [hall, hall, h.queued]
  · rw [hall, hall, h.results]
  · simpa only [hall] using h.queued
  · simpa only [hall] using h.results

theorem syncEntry_alike
    {s t : SyncState}
    (h : SameCreatives env s t)
    (entry : CreativeAsset × Nat) :
    Alike (SameCreatives env) (syncEntry env dryRun s entry) (syncEntry env dryRun t entry) :=
  (syncEntry_agree (sameCreatives_iff.mp h) (fun _ hkey => ownsCreative_of_key hkey)).mono
    (fun _ _ => sameCreatives_iff.mpr)

theorem archiveMissing_same
    {s t : SyncState}
    (h : SameCreatives env s t)
    (payloadIds : List String) :
    SameCreatives env (archiveMissing env payloadIds s) (archiveMissing env payloadIds t) := by
  refine sameCreatives_iff.mpr (archiveMissing_agree (sameCreatives_iff.mp h) ?_ ?_)
  · intro row
    unfold archiveRow
    split <;> rfl
  · intro row hmissing _
    simp only [SyncEnv.missing, decide_eq_true_eq] at hmissing
    simp [SyncEnv.ownsCreative, hmissing.1, hmissing.2.1]

/-- The creatives stage reveals nothing of other principals' creatives. -/
theorem syncLibrary_alike
    {store store' : SyncStore}
    (h : store.library.part env.ownsCreative = store'.library.part env.ownsCreative)
    (req : SyncCreativesRequest) :
    Alike (SameCreatives env) (syncLibrary env req store) (syncLibrary env req store') := by
  have hentries : Alike (SameCreatives env)
      (req.entries.foldlM (syncEntry env req.dryRun) ⟨store, [], []⟩)
      (req.entries.foldlM (syncEntry env req.dryRun) ⟨store', [], []⟩) :=
    Alike.foldlM (fun entry _ _ _ hst => syncEntry_alike hst entry) ⟨h, rfl, rfl⟩
  unfold syncLibrary
  generalize req.entries.foldlM (syncEntry env req.dryRun) ⟨store, [], []⟩ = a at hentries
  generalize req.entries.foldlM (syncEntry env req.dryRun) ⟨store', [], []⟩ = b at hentries
  cases hentries with
  | error err => exact .error err
  | ok hst =>
      refine .ok ?_
      split
      · exact archiveMissing_same hst _
      · exact hst

end Creatives

section Lookups

variable {env : SyncEnv} {rows rows' : BuyRows}

theorem getById_of_ownsBuyId
    (h : SameRows env rows rows')
    {mediaBuyId : String}
    (hown : env.ownsBuyId rows mediaBuyId = true) :
    rows'.getById env.tenantId mediaBuyId = rows.getById env.tenantId mediaBuyId := by
  unfold SyncEnv.ownsBuyId at hown
  cases hbuy : rows.getById env.tenantId mediaBuyId with
  | none => simp [hbuy] at hown
  | some b =>
      have howned : env.ownsBuy b = true := by simpa [hbuy] using hown
      obtain ⟨hfind, htenant, -⟩ := BuyRows.getById_eq_some hbuy
      obtain ⟨hmem, hkey⟩ := (IndexedTable.find_eq_some_iff _).mp hfind
      have hpart : b ∈ rows'.mediaBuys.part env.ownsBuy := by
        rw [← h.buys]
        exact (IndexedTable.mem_part _).mpr ⟨hmem, howned⟩
      have hfind' := (IndexedTable.find_eq_some_iff _).mpr
        ⟨((IndexedTable.mem_part _).mp hpart).1, hkey⟩
      simp [BuyRows.getById, hfind', htenant, Option.filter]

theorem ownsBuyId_same
    (h : SameRows env rows rows')
    {mediaBuyId : String}
    (hown : env.ownsBuyId rows mediaBuyId = true) :
    env.ownsBuyId rows' mediaBuyId = true := by
  unfold SyncEnv.ownsBuyId
  rw [getById_of_ownsBuyId h hown]
  exact hown

theorem findSome?_filter_of_none
    {α β : Type} {p : α → Bool} {f : α → Option β} {as : List α}
    (h : ∀ a ∈ as, p a = false → f a = none) :
    (as.filter p).findSome? f = as.findSome? f := by
  induction as with
  | nil => rfl
  | cons a as ih =>
      have htail := ih (fun b hb => h b (List.mem_cons_of_mem _ hb))
      rw [List.filter_cons]
      split
      · rw [List.findSome?_cons, List.findSome?_cons, htail]
      · next hp =>
          rw [List.findSome?_cons, h a List.mem_cons_self (by simpa using hp), htail]

theorem findSome?_congr_of_mem
    {α β : Type} {f g : α → Option β} {as : List α}
    (h : ∀ a ∈ as, f a = g a) :
    as.findSome? f = as.findSome? g := by
  induction as with
  | nil => rfl
  | cons a as ih =>
      rw [List.findSome?_cons, List.findSome?_cons, h a List.mem_cons_self,
        ih (fun b hb => h b (List.mem_cons_of_mem _ hb))]

/-- No other principal of the tenant has a package of this id. -/
def PackageUnshared
    (env : SyncEnv)
    (rows : BuyRows)
    (packageId : String) : Prop :=
  ∀ p ∈ rows.packages, p.packageId = packageId →
    ∀ b, rows.getById env.tenantId p.mediaBuyId = some b → env.ownsBuy b = true

theorem findPackage_of_unshared
    {packageId : String}
    (h : PackageUnshared env rows packageId) :
    rows.findPackageWithMediaBuy env.tenantId packageId =
      (rows.packages.part (env.ownsPackage rows)).findSome? (fun p =>
        if p.packageId = packageId then
          (rows.getById env.tenantId p.mediaBuyId).map (fun b => (p, b))
        else none) := by
  refine (findSome?_filter_of_none ?_).symm
  intro p hp hforeign
  split
  · next hid =>
      cases hbuy : rows.getById env.tenantId p.mediaBuyId with
      | none => rfl
      | some b =>
          have hown := h p hp hid b hbuy
          simp [SyncEnv.ownsPackage, SyncEnv.ownsBuyId, hbuy, hown] at hforeign
  · rfl

theorem findPackage_same
    (h : SameRows env rows rows')
    {packageId : String}
    (hunshared : PackageUnshared env rows packageId)
    (hunshared' : PackageUnshared env rows' packageId) :
    rows'.findPackageWithMediaBuy env.tenantId packageId =
      rows.findPackageWithMediaBuy env.tenantId packageId := by
  rw [findPackage_of_unshared hunshared, findPackage_of_unshared hunshared', ← h.packages]
  refine findSome?_congr_of_mem ?_
  intro p hp
  have hown : env.ownsBuyId rows p.mediaBuyId = true := ((IndexedTable.mem_part _).mp hp).2
  rw [getById_of_ownsBuyId h hown]

theorem findPackage_eq_some
    {tenantId packageId : String} {package : MediaPackage} {buy : MediaBuy}
    (h : rows.findPackageWithMediaBuy tenantId packageId = some (package, buy)) :
    package ∈ rows.packages ∧ package.packageId = packageId ∧
      rows.getById tenantId package.mediaBuyId = some buy := by
  obtain ⟨p, hp, hfound⟩ := List.exists_of_findSome?_eq_some h
  split at hfound
  · next hid =>
      obtain ⟨b, hb, hpair⟩ := Option.map_eq_some_iff.mp hfound
      cases hpair
      exact ⟨hp, hid, hb⟩
  · cases hfound

end Lookups

section Stage

variable {env : SyncEnv} {entries : List AssignmentEntry} {rows rows' : BuyRows}

/-- No other principal has a package the entries name, or an assignment of the same
creative id on such a package of the caller. -/
structure Unshared
    (env : SyncEnv)
    (entries : List AssignmentEntry)
    (rows : BuyRows) : Prop where
  packages : ∀ e ∈ entries, PackageUnshared env rows e.packageId
  assignments : ∀ e ∈ entries, ∀ a ∈ rows.assignments, a.tenantId = env.tenantId →
    a.creativeId = e.creativeId → a.packageId = e.packageId →
    env.ownsBuyId rows a.mediaBuyId = true → env.ownsAssignment a = true

theorem Unshared.withAssignments
    {assignments : IndexedTable CreativeAssignment (String × String × String × String)
      CreativeAssignment.uniqueKey}
    (h : Unshared env entries rows)
    (hnew : ∀ a ∈ assignments, a ∈ rows.assignments ∨ env.ownsAssignment a = true) :
    Unshared env entries (withAssignments rows assignments) where
  packages := h.packages
  assignments := fun e he a ha htenant hcreative hpackage hbuy =>
    (hnew a ha).elim (fun hold => h.assignments e he a hold htenant hcreative hpackage hbuy) id

/-- The stages agree on the caller's rows and on the outcome so far, and no other
principal has what the entries name. -/
structure SameStage
    (env : SyncEnv)
    (entries : List AssignmentEntry)
    (s t : AssignState) : Prop where
  rows : SameRows env s.rows t.rows
  creatives : ∀ creativeId, s.rows.creatives.find (env.creativeKey creativeId) =
    t.rows.creatives.find (env.creativeKey creativeId)
  assigned : s.assigned = t.assigned
  faults : s.faults = t.faults
  reached : s.reached = t.reached
  owned : ∀ id ∈ s.reached, env.ownsBuyId s.rows id = true
  unshared : Unshared env entries s.rows
  unshared' : Unshared env entries t.rows

theorem SameStage.faulted
    {s t : AssignState}
    (h : SameStage env entries s t)
    (faults : List (String × String × AssignmentFault)) :
    SameStage env entries { s with faults := s.faults ++ faults }
      { t with faults := t.faults ++ faults } :=
  { h with faults := congrArg (· ++ faults) h.faults }

theorem fault_alike
    {s t : AssignState}
    (h : SameStage env entries s t)
    (strict : Bool)
    (creativeId packageId : String)
    (fault : AssignmentFault)
    (err : SyncError) :
    Alike (SameStage env entries) (s.fault strict creativeId packageId fault err)
      (t.fault strict creativeId packageId fault err) := by
  unfold AssignState.fault
  split
  · exact .error err
  · exact .ok (h.faulted _)

theorem assignPackage_alike
    {s t : AssignState} {strict : Bool} {creativeId : String} {creative : Creative}
    {entry : String × AssignmentTerms}
    (h : SameStage env entries s t)
    (hentry : ∃ e ∈ entries, e.creativeId = creativeId ∧ e.packageId = entry.1) :
    Alike (SameStage env entries) (assignPackage env strict creativeId creative s entry)
      (assignPackage env strict creativeId creative t entry) := by
  obtain ⟨e, he, hcreative, hpackage⟩ := hentry
  have hfree : PackageUnshared env s.rows entry.1 := hpackage ▸ h.unshared.packages e he
  have hfree' : PackageUnshared env t.rows entry.1 := hpackage ▸ h.unshared'.packages e he
  unfold assignPackage
  rw [findPackage_same h.rows hfree hfree']
  cases hfind : s.rows.findPackageWithMediaBuy env.tenantId entry.1 with
  | none => exact fault_alike h strict _ _ _ _
  | some found =>
      obtain ⟨package, buy⟩ := found
      obtain ⟨hmem, hid, hbuy⟩ := findPackage_eq_some hfind
      have hbuyId : package.mediaBuyId = buy.mediaBuyId := (BuyRows.getById_eq_some hbuy).2.2.symm
      have howns : env.ownsBuyId s.rows buy.mediaBuyId = true := by
        rw [SyncEnv.ownsBuyId, ← hbuyId, hbuy]
        exact hfree package hmem hid buy hbuy
      simp only
      split
      · exact fault_alike h strict _ _ _ _
      · -- an assignment of this key is on a package of the caller
        have hkeys : ∀ r : BuyRows, Unshared env entries r → env.ownsBuyId r buy.mediaBuyId = true →
            ∀ x ∈ r.assignments, x.uniqueKey = (env.newAssignment buy package creativeId
              entry.2.storedWeight entry.2.placementIds).uniqueKey → env.ownsAssignment x = true := by
          intro r hr hr' x hx hkey
          simp only [CreativeAssignment.uniqueKey, SyncEnv.newAssignment, Option.some.injEq,
            Prod.mk.injEq] at hkey
          obtain ⟨htenant, hc, hb, hp⟩ := hkey
          refine hr.assignments e he x hx htenant (hc.trans hcreative.symm) ?_ (hb ▸ hr')
          rw [hp, hid, hpackage]
        have hown : env.ownsAssignment (env.newAssignment buy package creativeId
            entry.2.storedWeight entry.2.placementIds) = true := by
          simp [SyncEnv.ownsAssignment, SyncEnv.newAssignment]
        have hstore := storeAssignment_alike h.rows.assignments hown
          (hkeys s.rows h.unshared howns)
          (hkeys t.rows h.unshared' (ownsBuyId_same h.rows howns))
        cases hs : storeAssignment s.rows (env.newAssignment buy package creativeId
            entry.2.storedWeight entry.2.placementIds) with
        | error err =>
            rw [hs] at hstore
            rw [hstore.error_left]
            exact .error err
        | ok r =>
            rw [hs] at hstore
            obtain ⟨r', ht, hpart⟩ := hstore.ok_left
            obtain ⟨a, rfl, hmemA⟩ := storeAssignment_eq_ok hs
            obtain ⟨a', rfl, hmemA'⟩ := storeAssignment_eq_ok ht
            rw [ht]
            refine .ok ⟨⟨h.rows.buys, h.rows.packages, hpart⟩, h.creatives,
              congrArg (· ++ _) h.assigned, h.faults, ?_, ?_, ?_, ?_⟩
            · rw [h.reached]
            · intro id hin
              simp only at hin
              split at hin
              · exact h.owned id hin
              · rcases List.mem_append.mp hin with hold | hnew
                · exact h.owned id hold
                · rw [List.mem_singleton.mp hnew]
                  exact howns
            · exact h.unshared.withAssignments
                (fun x hx => (hmemA x hx).elim (fun hnew => .inr (by rw [hnew]; exact hown)) .inl)
            · exact h.unshared'.withAssignments
                (fun x hx => (hmemA' x hx).elim (fun hnew => .inr (by rw [hnew]; exact hown)) .inl)

theorem assignCreative_alike
    {s t : AssignState} {strict : Bool} {failed : List String}
    {entry : String × List (String × AssignmentTerms)}
    (h : SameStage env entries s t)
    (hentry : ∀ p ∈ entry.2, ∃ e ∈ entries, e.creativeId = entry.1 ∧ e.packageId = p.1) :
    Alike (SameStage env entries) (assignCreative env strict failed s entry)
      (assignCreative env strict failed t entry) := by
  unfold assignCreative
  split
  · exact .ok (h.faulted _)
  · rw [← h.creatives]
    cases s.rows.creatives.find (env.creativeKey entry.1) with
    | none =>
        simp only
        split
        · exact .error _
        · exact .ok (h.faulted _)
    | some creative =>
        exact Alike.foldlM (fun p hp _ _ hst => assignPackage_alike hst (hentry p hp)) h

end Stage

section Settling

variable {env : SyncEnv} {rows rows' : BuyRows}

/-- The change of a buy that was waiting for creatives. -/
def SyncEnv.pendingChange
    (env : SyncEnv) : BuyRows.BuyChange :=
  .updateStatus .pendingCreatives env.assignedAt

theorem ownsBuy_pendingChange
    (b : MediaBuy) :
    env.ownsBuy (env.pendingChange.apply b) = env.ownsBuy b := by
  simp [SyncEnv.ownsBuy, SyncEnv.pendingChange, BuyRows.BuyChange.updateStatus,
    MediaBuy.updateStatus, MediaBuy.bumpRevision]

theorem markPendingCreatives_eq
    (tenantId mediaBuyId : String)
    (seen : BuyRows) :
    markPendingCreatives tenantId mediaBuyId env.assignedAt seen rows =
      if awaitsCreatives seen tenantId mediaBuyId then
        rows.modifyBuy tenantId mediaBuyId env.pendingChange
      else rows :=
  rfl

theorem ownsBuyId_modifyBuy
    (mediaBuyId id : String) :
    env.ownsBuyId (rows.modifyBuy env.tenantId mediaBuyId env.pendingChange) id =
      env.ownsBuyId rows id := by
  unfold SyncEnv.ownsBuyId
  by_cases hid : id = mediaBuyId
  · subst hid
    rw [BuyRows.getById_modifyBuy]
    cases rows.getById env.tenantId id with
    | none => rfl
    | some b => simp [ownsBuy_pendingChange]
  · rw [BuyRows.getById_modifyBuy_of_ne _ _ hid]

theorem sameRows_modifyBuy
    (h : SameRows env rows rows')
    (mediaBuyId : String) :
    SameRows env (rows.modifyBuy env.tenantId mediaBuyId env.pendingChange)
      (rows'.modifyBuy env.tenantId mediaBuyId env.pendingChange) := by
  have howner : ∀ b : MediaBuy, env.ownsBuy
      (if b.tenantId = env.tenantId then env.pendingChange.apply b else b) = env.ownsBuy b := by
    intro b
    split
    · exact ownsBuy_pendingChange b
    · rfl
  have hpackages : ∀ r : BuyRows,
      env.ownsPackage (r.modifyBuy env.tenantId mediaBuyId env.pendingChange) = env.ownsPackage r := by
    intro r
    funext p
    exact ownsBuyId_modifyBuy mediaBuyId p.mediaBuyId
  refine ⟨?_, ?_, h.assignments⟩
  · unfold BuyRows.modifyBuy
    rw [IndexedTable.part_modify _ _ howner, IndexedTable.part_modify _ _ howner, h.buys]
  · rw [hpackages, hpackages]
    exact h.packages

theorem settleBuys_same
    {entries : List AssignmentEntry} {s t : AssignState}
    (h : SameStage env entries s t) :
    SameRows env (settleBuys env s) (settleBuys env t) := by
  unfold settleBuys
  rw [← h.reached]
  have hfold : ∀ ids : List String, ∀ r r' : BuyRows, SameRows env r r' →
      (∀ id ∈ ids, env.ownsBuyId r id = true) →
      SameRows env
        (ids.foldl (fun rows id => markPendingCreatives env.tenantId id env.assignedAt rows rows) r)
        (ids.foldl (fun rows id => markPendingCreatives env.tenantId id env.assignedAt rows rows)
          r') := by
    intro ids
    induction ids with
    | nil => exact fun _ _ hsame _ => hsame
    | cons id ids ih =>
        intro r r' hsame howned
        have hawaits : awaitsCreatives r' env.tenantId id = awaitsCreatives r env.tenantId id := by
          unfold awaitsCreatives
          rw [getById_of_ownsBuyId hsame (howned id List.mem_cons_self)]
        rw [List.foldl_cons, List.foldl_cons, markPendingCreatives_eq, markPendingCreatives_eq,
          hawaits]
        split
        · refine ih _ _ (sameRows_modifyBuy hsame id) (fun id' hid' => ?_)
          rw [ownsBuyId_modifyBuy]
          exact howned id' (List.mem_cons_of_mem _ hid')
        · exact ih _ _ hsame (fun id' hid' => howned id' (List.mem_cons_of_mem _ hid'))
  exact hfold s.reached s.rows t.rows h.rows h.owned

theorem finishResults_same
    {entries : List AssignmentEntry} {s t : AssignState}
    (h : SameStage env entries s t)
    (map : AssignmentMap)
    (results : List SyncCreativeResult) :
    finishResults map s results = finishResults map t results := by
  have hassigned : s.assignedTo = t.assignedTo := by
    funext c
    simp [AssignState.assignedTo, h.assigned]
  have hfaults : s.faultsOf = t.faultsOf := by
    funext c
    simp [AssignState.faultsOf, h.faults]
  unfold finishResults annotate synthesize
  simp only [hassigned, hfaults]

/-- The assignment stage reveals nothing of other principals' rows, where they have
nothing that the request names. -/
theorem processAssignments_alike
    {entries : List AssignmentEntry} {strict : Bool} {results : List SyncCreativeResult}
    (h : SameRows env rows rows')
    (hcreatives : ∀ creativeId, rows.creatives.find (env.creativeKey creativeId) =
      rows'.creatives.find (env.creativeKey creativeId))
    (hunshared : Unshared env entries rows)
    (hunshared' : Unshared env entries rows') :
    Alike (fun r r' => SameRows env r.1 r'.1 ∧ r.2 = r'.2)
      (processAssignments env strict entries results rows)
      (processAssignments env strict entries results rows') := by
  have hstage : Alike (SameStage env entries)
      ((normaliseAssignments entries).foldlM (assignCreative env strict (failedIds results))
        { rows := rows })
      ((normaliseAssignments entries).foldlM (assignCreative env strict (failedIds results))
        { rows := rows' }) :=
    Alike.foldlM
      (fun entry hentry _ _ hst =>
        assignCreative_alike hst (namedBy_normaliseAssignments entries entry hentry))
      ⟨h, hcreatives, rfl, rfl, rfl, by simp, hunshared, hunshared'⟩
  unfold processAssignments
  simp only
  generalize (normaliseAssignments entries).foldlM (assignCreative env strict (failedIds results))
    { rows := rows } = a at hstage
  generalize (normaliseAssignments entries).foldlM (assignCreative env strict (failedIds results))
    { rows := rows' } = b at hstage
  cases hstage with
  | error err => exact .error err
  | ok hst => exact .ok ⟨settleBuys_same hst, finishResults_same hst _ _⟩

end Settling

section Confined

variable {env : SyncEnv} {rows rows' : BuyRows}

/-- Every new or modified assignment is on a package of the caller, and every buy that
changed is the caller's. -/
structure Confined
    (env : SyncEnv)
    (before after : BuyRows) : Prop where
  assignments : ∀ a ∈ after.assignments, a ∉ before.assignments →
    ∃ p ∈ before.packages, p.mediaBuyId = a.mediaBuyId ∧ p.packageId = a.packageId ∧
      env.ownsPackage before p = true
  buys : ∀ id, after.mediaBuys.find id ≠ before.mediaBuys.find id →
    ∃ b, before.mediaBuys.find id = some b ∧ env.ownsBuy b = true

theorem Confined.refl
    (rows : BuyRows) :
    Confined env rows rows :=
  ⟨fun _ ha hnew => absurd ha hnew, fun _ hne => absurd rfl hne⟩

/-- The stage so far: only assignments were written, on packages of the caller. -/
structure ConfinedStage
    (env : SyncEnv)
    (before : BuyRows)
    (s : AssignState) : Prop where
  buys : s.rows.mediaBuys = before.mediaBuys
  packages : s.rows.packages = before.packages
  assignments : ∀ a ∈ s.rows.assignments, a ∈ before.assignments ∨
    ∃ p ∈ before.packages, p.mediaBuyId = a.mediaBuyId ∧ p.packageId = a.packageId ∧
      env.ownsPackage before p = true
  reached : ∀ id ∈ s.reached, env.ownsBuyId before id = true

theorem ConfinedStage.assignPackage
    {s s' : AssignState} {strict : Bool} {creativeId : String} {creative : Creative}
    {entry : String × AssignmentTerms}
    (hunshared : PackageUnshared env rows entry.1)
    (hs : ConfinedStage env rows s)
    (h : assignPackage env strict creativeId creative s entry = .ok s') :
    ConfinedStage env rows s' := by
  have hget : ∀ id, s.rows.getById env.tenantId id = rows.getById env.tenantId id := by
    intro id
    rw [BuyRows.getById, hs.buys]
    rfl
  unfold CreativeSync.assignPackage at h
  cases hfind : s.rows.findPackageWithMediaBuy env.tenantId entry.1 with
  | none =>
      rw [hfind] at h
      simp only [AssignState.fault] at h
      split at h
      · cases h
      · cases h
        exact { hs with }
  | some found =>
      obtain ⟨package, buy⟩ := found
      obtain ⟨hmem, hid, hbuy⟩ := findPackage_eq_some hfind
      rw [hget] at hbuy
      rw [hs.packages] at hmem
      have hbuyId : package.mediaBuyId = buy.mediaBuyId := (BuyRows.getById_eq_some hbuy).2.2.symm
      have howns : env.ownsPackage rows package = true := by
        rw [SyncEnv.ownsPackage, SyncEnv.ownsBuyId, hbuy]
        exact hunshared package hmem hid buy hbuy
      rw [hfind] at h
      simp only [AssignState.fault] at h
      split at h
      · split at h
        · cases h
        · cases h
          exact { hs with }
      · split at h
        · cases h
        · next hstore =>
            cases h
            obtain ⟨a, rfl, ha⟩ := storeAssignment_eq_ok hstore
            refine ⟨hs.buys, hs.packages, fun x hx => ?_, fun id hin => ?_⟩
            · rcases ha x hx with rfl | hold
              · exact .inr ⟨package, hmem, hbuyId, rfl, howns⟩
              · exact hs.assignments x hold
            · simp only at hin
              split at hin
              · exact hs.reached id hin
              · rcases List.mem_append.mp hin with hold | hnew
                · exact hs.reached id hold
                · rw [List.mem_singleton.mp hnew, ← hbuyId]
                  exact howns

theorem ConfinedStage.assignCreative
    {s s' : AssignState} {strict : Bool} {failed : List String}
    {entry : String × List (String × AssignmentTerms)}
    (hunshared : ∀ p ∈ entry.2, PackageUnshared env rows p.1)
    (hs : ConfinedStage env rows s)
    (h : assignCreative env strict failed s entry = .ok s') :
    ConfinedStage env rows s' := by
  unfold CreativeSync.assignCreative at h
  split at h
  · cases h
    exact { hs with }
  · split at h
    · split at h
      · cases h
      · cases h
        exact { hs with }
    · next creative _ =>
        have hinv : Preserved
            (Runs.Restrict (FoldStep (CreativeSync.assignPackage env strict entry.1 creative))
              (fun _ p => p ∈ entry.2))
            (ConfinedStage env rows) :=
          fun _ p _ hstep hst => hst.assignPackage (hunshared p hstep.2) hstep.1
        exact (run_of_foldlM h).of_events.preserves hinv hs

/-- Moving buys of the caller changes no others. -/
theorem settleBuys_confined
    {s : AssignState}
    (hs : ConfinedStage env rows s) :
    Confined env rows (settleBuys env s) := by
  have hfold : ∀ ids : List String, ∀ r : BuyRows,
      (∀ id ∈ ids, env.ownsBuyId rows id = true) →
      r.assignments = s.rows.assignments →
      (∀ id, r.mediaBuys.find id ≠ rows.mediaBuys.find id → env.ownsBuyId rows id = true) →
      Confined env rows
        (ids.foldl (fun rows id => markPendingCreatives env.tenantId id env.assignedAt rows rows)
          r) := by
    intro ids
    induction ids with
    | nil =>
        intro r _ hassignments hbuys
        refine ⟨fun a ha hnew => ?_, fun id hne => ?_⟩
        · simp only [List.foldl_nil, hassignments] at ha
          exact (hs.assignments a ha).resolve_left hnew
        · have hown := hbuys id hne
          unfold SyncEnv.ownsBuyId at hown
          cases hbuy : rows.getById env.tenantId id with
          | none => simp [hbuy] at hown
          | some b =>
              exact ⟨b, (BuyRows.getById_eq_some hbuy).1, by simpa [hbuy] using hown⟩
    | cons id ids ih =>
        intro r hids hassignments hbuys
        rw [List.foldl_cons, markPendingCreatives_eq]
        have htail : ∀ id' ∈ ids, env.ownsBuyId rows id' = true :=
          fun id' hid' => hids id' (List.mem_cons_of_mem _ hid')
        split
        · refine ih _ htail hassignments (fun id' hne => ?_)
          by_cases hid : id' = id
          · rw [hid]
            exact hids id List.mem_cons_self
          · refine hbuys id' ?_
            rwa [BuyRows.modifyBuy, IndexedTable.find_modify_of_ne _ _ _ hid] at hne
        · exact ih _ htail hassignments hbuys
  exact hfold s.reached s.rows hs.reached rfl (fun id hne => absurd (by rw [hs.buys]) hne)

/-- The assignment stage writes on the caller's packages only, where no other principal
has a package that the request names. -/
theorem processAssignments_confined
    {entries : List AssignmentEntry} {strict : Bool} {results results' : List SyncCreativeResult}
    (hunshared : Unshared env entries rows)
    (h : processAssignments env strict entries results rows = .ok (rows', results')) :
    Confined env rows rows' := by
  obtain ⟨s, hfold, rfl, -⟩ := processAssignments_eq_ok h
  have hinv : Preserved
      (Runs.Restrict (FoldStep (assignCreative env strict (failedIds results)))
        (fun _ entry => entry ∈ normaliseAssignments entries))
      (ConfinedStage env rows) := by
    intro _ entry _ hstep hst
    refine hst.assignCreative (fun p hp => ?_) hstep.1
    obtain ⟨e, he, -, hpackage⟩ := namedBy_normaliseAssignments entries entry hstep.2 p hp
    rw [← hpackage]
    exact hunshared.packages e he
  exact settleBuys_confined ((run_of_foldlM hfold).of_events.preserves hinv
    ⟨rfl, rfl, fun _ ha => .inl ha, by simp⟩)

end Confined

end CreativeSync
end SalesAgent
