import Mathlib.Algebra.Order.Ring.Unbundled.Rat
import SalesAgent.CreativeSync.AssignmentPairs

/-!
# The accounting of assignments

The outcome of the assignment stage is entered into the results of the creatives, and a creative
that only the assignments name gets a result.  Every entry with both ids is then reported, and the
stored assignments carry the terms of the last entries.

**Results.**
* `reportsOnce_of_outcome`, `exists_result`: a pair is reported, once by each result of its
  creative.
* `processAssignments_again`: a second run leaves everything as it is.
* `assignment_accounting`: the accounting of a lenient request.
-/

namespace SalesAgent
namespace CreativeSync

open MediaBuys (BuyRows Creative CreativeAssignment Decimal MediaBuy MediaPackage Product
  awaitsCreatives markPendingCreatives)

section Reports

variable {env : SyncEnv} {failed : List String} {rows : BuyRows} {s : AssignState}
variable {pairs : List (String × String × AssignmentTerms)} {map : AssignmentMap}
variable {results : List SyncCreativeResult} {creativeId packageId : String}

/-- The packages of the faults of a result. -/
def SyncCreativeResult.faulty
    (r : SyncCreativeResult) : List String :=
  r.assignmentErrors.map (·.1)

/-- A result says once what became of a package: it was assigned, or it has a fault. -/
def SyncCreativeResult.ReportsOnce
    (r : SyncCreativeResult)
    (packageId : String) : Prop :=
  r.assignedTo.count packageId = 1 ∧ packageId ∉ r.faulty
    ∨ packageId ∉ r.assignedTo ∧ r.faulty.count packageId = 1

/-- Results that say nothing of assignments yet. -/
def Blank
    (results : List SyncCreativeResult) : Prop :=
  ∀ r ∈ results, r.assignedTo = [] ∧ r.assignmentErrors = []

/-- A result with the outcome of the stage for its creative. -/
def Outcome
    (s : AssignState)
    (r : SyncCreativeResult) : Prop :=
  r.assignedTo = s.assignedTo r.creativeId ∧ r.assignmentErrors = s.faultsOf r.creativeId

theorem nodup_map_snd
    {α : Type} {l : List (String × α)} {c : String}
    (h : l.Nodup) :
    ((l.filter fun x => decide (x.1 = c)).map (·.2)).Nodup := by
  refine List.Nodup.map_on ?_ (h.filter _)
  intro x hx y hy heq
  have hx' : x.1 = c := by simpa using (List.mem_filter.mp hx).2
  have hy' : y.1 = c := by simpa using (List.mem_filter.mp hy).2
  exact Prod.ext (hx'.trans hy'.symm) heq

theorem mem_assignedTo
    (h : Stage env failed rows pairs s) :
    packageId ∈ s.assignedTo creativeId ↔ ∃ terms target, (creativeId, packageId, terms) ∈ pairs
      ∧ assignTarget env failed rows creativeId packageId = .ok target := by
  rw [AssignState.assignedTo, h.assigned, List.mem_map]
  constructor
  · rintro ⟨⟨c, p⟩, hmem, rfl⟩
    obtain ⟨hpair, hid⟩ := List.mem_filter.mp hmem
    obtain ⟨⟨c', p', terms⟩, hdone, heq⟩ := List.mem_map.mp hpair
    cases heq
    rw [decide_eq_true_eq] at hid
    dsimp only at hid
    subst hid
    obtain ⟨hmemPairs, htarget⟩ := List.mem_filter.mp hdone
    rw [hasTarget] at htarget
    cases hfound : assignTarget env failed rows c' p' with
    | error fault =>
        dsimp only at htarget
        rw [hfound] at htarget
        cases htarget
    | ok target => exact ⟨terms, target, hmemPairs, rfl⟩
  · rintro ⟨terms, target, hmem, htarget⟩
    refine ⟨(creativeId, packageId), List.mem_filter.mpr ⟨List.mem_map.mpr ⟨_, List.mem_filter.mpr
      ⟨hmem, ?_⟩, rfl⟩, decide_eq_true rfl⟩, rfl⟩
    rw [hasTarget, htarget]
    rfl

theorem mem_faultsOf
    (h : Stage env failed rows pairs s) :
    packageId ∈ (s.faultsOf creativeId).map (·.1)
      ↔ ∃ terms fault, (creativeId, packageId, terms) ∈ pairs
        ∧ assignTarget env failed rows creativeId packageId = .error fault := by
  rw [AssignState.faultsOf, h.faults, List.map_map, List.mem_map]
  constructor
  · rintro ⟨⟨c, p, fault⟩, hmem, rfl⟩
    obtain ⟨hpair, hid⟩ := List.mem_filter.mp hmem
    rw [decide_eq_true_eq] at hid
    dsimp only at hid
    subst hid
    obtain ⟨⟨c', p', terms⟩, hdone, heq⟩ := List.mem_filterMap.mp hpair
    dsimp only at heq
    cases hfound : assignTarget env failed rows c' p' with
    | ok target =>
        rw [hfound] at heq
        cases heq
    | error fault' =>
        rw [hfound] at heq
        cases heq
        exact ⟨terms, fault, hdone, hfound⟩
  · rintro ⟨terms, fault, hmem, htarget⟩
    refine ⟨(creativeId, packageId, fault), List.mem_filter.mpr ⟨List.mem_filterMap.mpr
      ⟨_, hmem, ?_⟩, decide_eq_true rfl⟩, rfl⟩
    dsimp only
    rw [htarget]

theorem nodup_assignedTo
    (h : Stage env failed rows pairs s)
    (hnodup : (pairs.map fun pair => (pair.1, pair.2.1)).Nodup) :
    (s.assignedTo creativeId).Nodup := by
  rw [AssignState.assignedTo, h.assigned]
  exact nodup_map_snd (hnodup.sublist (List.filter_sublist.map _))

theorem nodup_faultsOf
    (h : Stage env failed rows pairs s)
    (hnodup : (pairs.map fun pair => (pair.1, pair.2.1)).Nodup) :
    ((s.faultsOf creativeId).map (·.1)).Nodup := by
  have hkeys : (s.faults.map fun fault => (fault.1, fault.2.1)).Nodup := by
    refine hnodup.sublist ?_
    rw [h.faults]
    clear hnodup h
    induction pairs with
    | nil => exact List.Sublist.slnil
    | cons pair pairs ih =>
        rw [List.filterMap_cons, List.map_cons]
        cases assignTarget env failed rows pair.1 pair.2.1 with
        | ok target => exact ih.cons _
        | error fault => exact ih.cons_cons _
  rw [AssignState.faultsOf, List.map_map]
  have hfiltered := nodup_map_snd (c := creativeId) hkeys
  rw [List.filter_map, List.map_map] at hfiltered
  exact hfiltered

/-- The outcome of the stage says once what became of a pair. -/
theorem reportsOnce_of_outcome
    (h : Stage env failed rows pairs s)
    (hnodup : (pairs.map fun pair => (pair.1, pair.2.1)).Nodup)
    {r : SyncCreativeResult} {terms : AssignmentTerms}
    (houtcome : Outcome s r)
    (hpair : (r.creativeId, packageId, terms) ∈ pairs) :
    r.ReportsOnce packageId := by
  rw [SyncCreativeResult.ReportsOnce, SyncCreativeResult.faulty, houtcome.1, houtcome.2]
  cases htarget : assignTarget env failed rows r.creativeId packageId with
  | ok target =>
      refine .inl ⟨List.count_eq_one_of_mem (nodup_assignedTo h hnodup)
        ((mem_assignedTo h).mpr ⟨terms, target, hpair, htarget⟩), fun hfaulty => ?_⟩
      obtain ⟨_, fault, -, hfault⟩ := (mem_faultsOf h).mp hfaulty
      rw [htarget] at hfault
      cases hfault
  | error fault =>
      refine .inr ⟨fun hassigned => ?_, List.count_eq_one_of_mem (nodup_faultsOf h hnodup)
        ((mem_faultsOf h).mpr ⟨terms, fault, hpair, htarget⟩)⟩
      obtain ⟨_, target, -, hok⟩ := (mem_assignedTo h).mp hassigned
      rw [htarget] at hok
      cases hok

theorem outcome_annotate
    {r : SyncCreativeResult}
    (hblank : r.assignedTo = [] ∧ r.assignmentErrors = []) :
    Outcome s (annotate s r) := by
  rw [Outcome, annotate]
  dsimp only
  constructor
  · split_ifs with hempty
    · rw [hblank.1, List.isEmpty_iff.mp hempty]
    · rfl
  · split_ifs with hempty
    · rw [hblank.2, List.isEmpty_iff.mp hempty]
    · rfl

theorem outcome_synthesize
    {r : SyncCreativeResult} {named : String}
    (h : synthesize s named = some r) :
    Outcome s r := by
  have hid := synthesize_creativeId h
  rw [synthesize] at h
  dsimp only at h
  rw [Outcome, hid]
  split_ifs at h with _ hnone
  · cases h
    exact ⟨(List.isEmpty_iff.mp hnone).symm, rfl⟩
  · cases h
    exact ⟨rfl, rfl⟩

theorem outcome_of_finishResults
    (hblank : Blank results)
    {r : SyncCreativeResult}
    (hr : r ∈ finishResults map s results) :
    Outcome s r := by
  rcases List.mem_append.mp hr with hold | hnew
  · obtain ⟨r', hr', rfl⟩ := List.mem_map.mp hold
    exact outcome_annotate (hblank r' hr')
  · obtain ⟨named, -, hsynthesize⟩ := List.mem_filterMap.mp hnew
    exact outcome_synthesize hsynthesize

/-- A creative with an outcome has a result. -/
theorem exists_result
    (hmap : creativeId ∈ map.map (·.1))
    (hsome : s.assignedTo creativeId ≠ [] ∨ s.faultsOf creativeId ≠ []) :
    ∃ r ∈ finishResults map s results, r.creativeId = creativeId := by
  by_cases hmentioned : creativeId ∈ results.map (·.creativeId)
  · obtain ⟨r, hr, rfl⟩ := List.mem_map.mp hmentioned
    exact ⟨annotate s r, List.mem_append_left _ (List.mem_map.mpr ⟨r, hr, rfl⟩), rfl⟩
  · have hsynthesize : ∃ r, synthesize s creativeId = some r := by
      rw [synthesize]
      dsimp only
      split_ifs with hempty
      · rw [Bool.and_eq_true, List.isEmpty_iff, List.isEmpty_iff] at hempty
        rcases hsome with hassigned | hfaults
        · exact absurd hempty.1 hassigned
        · exact absurd hempty.2 hfaults
      · exact ⟨_, rfl⟩
      · exact ⟨_, rfl⟩
    obtain ⟨r, hr⟩ := hsynthesize
    refine ⟨r, List.mem_append_right _ (List.mem_filterMap.mpr ⟨creativeId, ?_, hr⟩),
      synthesize_creativeId hr⟩
    exact List.mem_filter.mpr ⟨(List.mem_insertionSort _).mpr hmap, decide_eq_true hmentioned⟩

/-- Distinct creatives keep distinct results. -/
theorem nodup_finishResults
    (hmap : (map.map (·.1)).Nodup)
    (hresults : (results.map (·.creativeId)).Nodup) :
    ((finishResults map s results).map (·.creativeId)).Nodup := by
  rw [finishResults, List.map_append, List.map_map, List.nodup_append]
  refine ⟨hresults, ?_, ?_⟩
  · have hsublist : ∀ named : List String,
        ((named.filterMap (synthesize s)).map (·.creativeId)).Sublist named := by
      intro named
      induction named with
      | nil => exact List.Sublist.slnil
      | cons c named ih =>
          rw [List.filterMap_cons]
          cases hsynthesize : synthesize s c with
          | none => exact ih.cons _
          | some r =>
              dsimp only
              rw [List.map_cons, synthesize_creativeId hsynthesize]
              exact ih.cons_cons _
    refine List.Nodup.sublist (hsublist _) (List.Nodup.filter _ ?_)
    exact (List.perm_insertionSort _ _).nodup_iff.mpr hmap
  · intro c hc c' hc' heq
    obtain ⟨r, hr, rfl⟩ := List.mem_map.mp hc'
    obtain ⟨named, hnamed, hsynthesize⟩ := List.mem_filterMap.mp hr
    have hunmentioned := (List.mem_filter.mp hnamed).2
    rw [decide_eq_true_eq] at hunmentioned
    rw [synthesize_creativeId hsynthesize] at heq
    exact hunmentioned (heq ▸ hc)

end Reports

section Blanks

variable {env : SyncEnv} {dryRun : Bool}

theorem Blank.append
    {results results' : List SyncCreativeResult}
    (h : Blank results)
    (h' : Blank results') :
    Blank (results ++ results') := by
  intro r hr
  rcases List.mem_append.mp hr with hold | hnew
  · exact h r hold
  · exact h' r hnew

theorem Blank.single
    {r : SyncCreativeResult}
    (h : r.assignedTo = [] ∧ r.assignmentErrors = []) :
    Blank [r] := by
  intro r' hr'
  rw [List.mem_singleton.mp hr']
  exact h

theorem blank_handleException
    {creative : CreativeAsset} {s s' : SyncState} {err : SyncError}
    (hs : Blank s.results)
    (h : handleException creative s err = .ok s') :
    Blank s'.results := by
  rw [handleException] at h
  split_ifs at h
  cases h
  exact hs.append (.single ⟨rfl, rfl⟩)

theorem blank_syncInSavepoint
    {index : Nat} {creative : CreativeAsset} {ref : FormatRef} {s s' : SyncState}
    (hs : Blank s.results)
    (h : syncInSavepoint env dryRun index creative ref s = .ok s') :
    Blank s'.results := by
  unfold syncInSavepoint at h
  simp only at h
  split at h
  · unfold updateExistingCreative at h
    simp only at h
    split at h
    · cases h
    · cases h
      exact hs.append (.single ⟨rfl, rfl⟩)
    · cases h
      exact hs.append (.single ⟨rfl, rfl⟩)
  · unfold createNewCreative at h
    split at h
    · cases h
    · cases h
      exact hs.append (.single ⟨rfl, rfl⟩)
    · simp only at h
      split at h
      · cases h
      · cases h
        exact hs.append (.single ⟨rfl, rfl⟩)

theorem blank_syncEntry
    {s s' : SyncState} {entry : CreativeAsset × Nat}
    (hs : Blank s.results)
    (h : syncEntry env dryRun s entry = .ok s') :
    Blank s'.results := by
  unfold syncEntry at h
  simp only at h
  split at h
  · exact blank_handleException hs h
  · split at h
    · cases h
      exact hs.append (.single ⟨rfl, rfl⟩)
    · exact blank_handleException hs h
    · split at h
      · exact blank_handleException hs h
      · split at h
        · exact blank_handleException hs h
        · next hblock =>
            cases h
            exact blank_syncInSavepoint hs hblock

/-- The results of the creatives stage say nothing of assignments. -/
theorem blank_syncLibrary
    {req : SyncCreativesRequest} {store : SyncStore} {s : SyncState}
    (h : syncLibrary env req store = .ok s) :
    Blank s.results := by
  unfold syncLibrary at h
  split at h
  · cases h
  · next s₀ hentries =>
      have hinv : Runs.Preserved (Runs.FoldStep (syncEntry env req.dryRun))
          (fun t => Blank t.results) :=
        fun _ _ _ hstep hst => blank_syncEntry hst hstep
      have hblank : Blank s₀.results :=
        (Runs.run_of_foldlM hentries).preserves hinv fun r hr => absurd hr List.not_mem_nil
      cases h
      split_ifs
      · refine hblank.append ?_
        intro r hr
        obtain ⟨row, -, rfl⟩ := List.mem_map.mp hr
        exact ⟨rfl, rfl⟩
      · exact hblank

end Blanks

section Accounting

variable (env : SyncEnv) (entries : List AssignmentEntry)
variable (results : List SyncCreativeResult) (rows rows' : BuyRows)
variable (results' : List SyncCreativeResult)

/-- The same buys, packages, creatives and assignments. -/
structure SameStored : Prop where
  mediaBuys : rows'.mediaBuys = rows.mediaBuys
  packages : rows'.packages = rows.packages
  creatives : rows'.creatives = rows.creatives
  assignments : ∀ key, rows'.assignments.find key = rows.assignments.find key

/-- The pair of ids is assigned, to this package of this buy. -/
def AssignedOn
    (creativeId packageId : String)
    (package : MediaPackage)
    (buy : MediaBuy) : Prop :=
  rows.findPackageWithMediaBuy env.tenantId packageId = some (package, buy)
    ∧ ∃ r ∈ results', r.creativeId = creativeId ∧ packageId ∈ r.assignedTo

/-- What a request in lenient mode does with its assignments. -/
structure AssignmentAccounting : Prop where
  /-- Each entry with both ids is reported by its creative's results, once by each. -/
  reported : ∀ e ∈ entries, e.Named →
    (∃ r ∈ results', r.creativeId = e.creativeId)
      ∧ ∀ r ∈ results', r.creativeId = e.creativeId → r.ReportsOnce e.packageId
  /-- Creatives with one result each have one afterwards. -/
  distinct : (results.map (·.creativeId)).Nodup → (results'.map (·.creativeId)).Nodup
  /-- The results of one creative agree. -/
  agree : ∀ r ∈ results', ∀ r' ∈ results', r.creativeId = r'.creativeId →
    r.assignedTo = r'.assignedTo ∧ r.assignmentErrors = r'.assignmentErrors
  /-- Nothing else is reported. -/
  named : ∀ r ∈ results', ∀ packageId, packageId ∈ r.assignedTo ∨ packageId ∈ r.faulty →
    ∃ e ∈ entries, e.Named ∧ e.creativeId = r.creativeId ∧ e.packageId = packageId
  /-- An assigned pair is stored with the terms of its last entry; the weight is 0 where one of
  less than one was asked for. -/
  stored : ∀ r ∈ results', ∀ packageId ∈ r.assignedTo, ∃ package buy terms,
    AssignedOn env rows results' r.creativeId packageId package buy
      ∧ lastTerms entries r.creativeId packageId = some terms
      ∧ rows'.assignments.find (env.pairKey r.creativeId (buy.mediaBuyId, package.packageId))
        = some (env.newAssignment buy package r.creativeId terms.storedWeight terms.placementIds)
      ∧ (terms.storedWeight = 0
        ↔ ∃ weight, terms.weight = some weight ∧ -1 < weight ∧ weight < 1)
  /-- Assignments of other keys stay. -/
  others : ∀ key, (∀ creativeId packageId package buy,
      AssignedOn env rows results' creativeId packageId package buy →
      key ≠ env.pairKey creativeId (buy.mediaBuyId, package.packageId)) →
    rows'.assignments.find key = rows.assignments.find key
  /-- The same list again changes nothing, and is answered alike. -/
  again : ∃ rows'', processAssignments env false entries results rows' = .ok (rows'', results')
    ∧ SameStored rows' rows''

end Accounting

section Laws

variable {env : SyncEnv} {entries : List AssignmentEntry}
variable {results results' : List SyncCreativeResult} {rows rows' : BuyRows}

theorem truncate_eq_zero_iff
    (amount : Decimal) :
    amount.truncate = 0 ↔ -1 < amount ∧ amount < 1 := by
  have hpos : 0 < amount.den := amount.den_pos
  have hlower : -1 < amount ↔ -(amount.den : Int) < amount.num := by
    simp [Rat.lt_iff]
  rw [← Rat.num_lt_denom_iff, hlower, Decimal.truncate, ← Int.natAbs_eq_zero, Int.natAbs_tdiv]
  change amount.num.natAbs / (amount.den : Int).natAbs = 0 ↔ _
  rw [Int.natAbs_natCast, Nat.div_eq_zero_iff]
  omega

theorem storedWeight_eq_zero_iff
    (terms : AssignmentTerms) :
    terms.storedWeight = 0 ↔ ∃ weight, terms.weight = some weight ∧ -1 < weight ∧ weight < 1 := by
  rw [AssignmentTerms.storedWeight]
  cases terms.weight with
  | none =>
      constructor
      · intro h
        cases h
      · rintro ⟨weight, hweight, -⟩
        cases hweight
  | some weight =>
      rw [Option.map_some, Option.getD_some, truncate_eq_zero_iff]
      constructor
      · exact fun h => ⟨weight, rfl, h⟩
      · rintro ⟨weight', hweight, h⟩
        cases hweight
        exact h

theorem exists_pair
    {e : AssignmentEntry}
    (he : e ∈ entries)
    (hnamed : e.Named) :
    ∃ terms, (e.creativeId, e.packageId, terms) ∈ pairsOf (normaliseAssignments entries) := by
  have hfind : (entries.reverse.find? fun entry =>
      decide (entry.creativeId = e.creativeId ∧ entry.packageId = e.packageId)).isSome := by
    rw [List.find?_isSome]
    exact ⟨e, List.mem_reverse.mpr he, decide_eq_true ⟨rfl, rfl⟩⟩
  obtain ⟨last, hlast⟩ := Option.isSome_iff_exists.mp hfind
  refine ⟨last.terms, mem_pairsOf.mpr ⟨hnamed.1, hnamed.2, ?_⟩⟩
  rw [lastTerms, hlast]
  rfl

theorem exists_entry
    {creativeId packageId : String} {terms : AssignmentTerms}
    (h : (creativeId, packageId, terms) ∈ pairsOf (normaliseAssignments entries)) :
    ∃ e ∈ entries, e.Named ∧ e.creativeId = creativeId ∧ e.packageId = packageId := by
  obtain ⟨hcreative, hpackage, hterms⟩ := mem_pairsOf.mp h
  rw [lastTerms] at hterms
  obtain ⟨e, hfind, -⟩ := Option.map_eq_some_iff.mp hterms
  have hids := List.find?_some hfind
  rw [decide_eq_true_eq] at hids
  exact ⟨e, List.mem_reverse.mp (List.mem_of_find?_eq_some hfind),
    ⟨by rw [hids.1]; exact hcreative, by rw [hids.2]; exact hpackage⟩, hids⟩

theorem finishResults_congr
    {s t : AssignState}
    (hassigned : t.assigned = s.assigned)
    (hfaults : t.faults = s.faults)
    (map : AssignmentMap) :
    finishResults map t results = finishResults map s results := by
  have hto : t.assignedTo = s.assignedTo := by
    funext c
    rw [AssignState.assignedTo, AssignState.assignedTo, hassigned]
  have hof : t.faultsOf = s.faultsOf := by
    funext c
    rw [AssignState.faultsOf, AssignState.faultsOf, hfaults]
  have hannotate : annotate t = annotate s := by
    funext r
    rw [annotate, annotate, hto, hof]
  have hsynthesize : synthesize t = synthesize s := by
    funext c
    rw [synthesize, synthesize, hto, hof]
  rw [finishResults, finishResults, hannotate, hsynthesize]

/-- The same pairs again, from the rows that the stage left. -/
theorem processAssignments_again
    {s : AssignState}
    (hstage : Stage env (failedIds results) rows (pairsOf (normaliseAssignments entries)) s) :
    ∃ rows'', processAssignments env false entries results (settleBuys env s)
        = .ok (rows'', finishResults (normaliseAssignments entries) s results)
      ∧ SameStored (settleBuys env s) rows'' := by
  have hnodup := nodup_pairsOf (distinct_normaliseAssignments entries)
  obtain ⟨hsettled, hidle⟩ := @settles_foldl env s.reached s.rows
  have htarget : ∀ creativeId packageId,
      assignTarget env (failedIds results) (settleBuys env s) creativeId packageId
        = assignTarget env (failedIds results) rows creativeId packageId := by
    intro creativeId packageId
    exact (hsettled.assignTarget creativeId packageId).trans (hstage.target creativeId packageId)
  have hkept : (settleBuys env s).assignments = s.rows.assignments := hsettled.assignments
  have hrow : ∀ pair ∈ pairsOf (normaliseAssignments entries), ∀ target,
      assignTarget env (failedIds results) (settleBuys env s) pair.1 pair.2.1 = .ok target →
      (settleBuys env s).assignments.find (env.pairKey pair.1 target)
        = some (env.pairRow pair.1 target pair.2.2) := by
    intro pair hpair target hfound
    rw [htarget] at hfound
    rw [hkept]
    exact hstage.stored pair hpair target hfound
  obtain ⟨t, hfold⟩ := foldlM_assignPair_ok hnodup
    (fun pair hpair target hfound => ⟨_, hrow pair hpair target hfound, rfl⟩)
  have hagain := stage_of_foldlM hnodup hfold
  have hassigned : t.assigned = s.assigned := by
    rw [hagain.assigned, hstage.assigned]
    congr 2
    funext pair
    rw [hasTarget, hasTarget, htarget]
  have hfaults : t.faults = s.faults := by
    rw [hagain.faults, hstage.faults]
    congr 1
    funext pair
    rw [htarget]
  have hwaits : ∀ mediaBuyId ∈ t.reached,
      awaitsCreatives t.rows env.tenantId mediaBuyId = false := by
    intro mediaBuyId hreached
    have hfirst : mediaBuyId ∈ s.reached := by
      obtain ⟨pair, hpair, target, hfound, hid⟩ := (hagain.reached mediaBuyId).mp hreached
      rw [htarget] at hfound
      exact (hstage.reached mediaBuyId).mpr ⟨pair, hpair, target, hfound, hid⟩
    rw [awaitsCreatives, BuyRows.getById, hagain.mediaBuys]
    exact hidle mediaBuyId hfirst
  refine ⟨settleBuys env t, ?_, ?_⟩
  · rw [processAssignments, foldlM_assignCreative, hfold]
    dsimp only
    rw [finishResults_congr hassigned hfaults]
  · have hsettle : settleBuys env t = t.rows := foldl_markPendingCreatives_idle hwaits
    rw [hsettle]
    refine ⟨hagain.mediaBuys, hagain.packages, hagain.creatives, ?_⟩
    intro key
    by_cases hfree : ∀ pair ∈ pairsOf (normaliseAssignments entries), ∀ target,
        assignTarget env (failedIds results) (settleBuys env s) pair.1 pair.2.1 = .ok target →
        env.pairKey pair.1 target ≠ key
    · exact hagain.others key hfree
    · push Not at hfree
      obtain ⟨pair, hpair, target, hfound, rfl⟩ := hfree
      rw [hagain.stored pair hpair target hfound]
      exact (hrow pair hpair target hfound).symm

theorem accounting_of_processAssignments
    (hblank : Blank results)
    (h : processAssignments env false entries results rows = .ok (rows', results')) :
    AssignmentAccounting env entries results rows rows' results' := by
  obtain ⟨s, hfold, rfl, rfl⟩ := processAssignments_eq_ok h
  rw [foldlM_assignCreative] at hfold
  have hdistinct := distinct_normaliseAssignments entries
  have hnodup := nodup_pairsOf hdistinct
  have hstage := stage_of_foldlM hnodup hfold
  obtain ⟨hsettled, -⟩ := @settles_foldl env s.reached s.rows
  have hkept : (settleBuys env s).assignments = s.rows.assignments := hsettled.assignments
  have houtcome : ∀ r ∈ finishResults (normaliseAssignments entries) s results, Outcome s r :=
    fun r hr => outcome_of_finishResults hblank hr
  have hresult : ∀ {creativeId packageId terms},
      (creativeId, packageId, terms) ∈ pairsOf (normaliseAssignments entries) →
      ∃ r ∈ finishResults (normaliseAssignments entries) s results, r.creativeId = creativeId := by
    intro creativeId packageId terms hpair
    have hkey : creativeId ∈ (normaliseAssignments entries).map (·.1) := by
      obtain ⟨creative, hcreative, hpackage⟩ := List.mem_flatMap.mp hpair
      obtain ⟨package, -, heq⟩ := List.mem_map.mp hpackage
      cases heq
      exact List.mem_map.mpr ⟨creative, hcreative, rfl⟩
    refine exists_result hkey ?_
    cases htarget : assignTarget env (failedIds results) rows creativeId packageId with
    | ok target =>
        exact .inl (List.ne_nil_of_mem ((mem_assignedTo hstage).mpr ⟨terms, target, hpair, htarget⟩))
    | error fault =>
        refine .inr fun hnil => ?_
        have hmem := (@mem_faultsOf env _ rows s _ creativeId packageId hstage).mpr
          ⟨terms, fault, hpair, htarget⟩
        rw [hnil] at hmem
        exact absurd hmem List.not_mem_nil
  constructor
  case reported =>
    intro e he hnamed
    obtain ⟨terms, hpair⟩ := exists_pair he hnamed
    refine ⟨hresult hpair, fun r hr hid => ?_⟩
    rw [← hid] at hpair
    exact reportsOnce_of_outcome hstage hnodup (houtcome r hr) hpair
  case distinct => exact nodup_finishResults hdistinct.creatives
  case agree =>
    intro r hr r' hr' hid
    rw [(houtcome r hr).1, (houtcome r hr).2, (houtcome r' hr').1, (houtcome r' hr').2, hid]
    exact ⟨rfl, rfl⟩
  case named =>
    intro r hr packageId hreported
    rw [SyncCreativeResult.faulty, (houtcome r hr).1, (houtcome r hr).2] at hreported
    rcases hreported with hassigned | hfaulty
    · obtain ⟨terms, _, hpair, -⟩ := (mem_assignedTo hstage).mp hassigned
      exact exists_entry hpair
    · obtain ⟨terms, _, hpair, -⟩ := (mem_faultsOf hstage).mp hfaulty
      exact exists_entry hpair
  case stored =>
    intro r hr packageId hassigned
    have hmem := hassigned
    rw [(houtcome r hr).1] at hmem
    obtain ⟨terms, target, hpair, htarget⟩ := (mem_assignedTo hstage).mp hmem
    obtain ⟨-, -, package, buy, hfound, rfl⟩ := packageId_of_assignTarget htarget
    refine ⟨package, buy, terms, ⟨hfound, r, hr, rfl, hassigned⟩, (mem_pairsOf.mp hpair).2.2, ?_,
      storedWeight_eq_zero_iff terms⟩
    rw [hkept]
    exact hstage.stored _ hpair _ htarget
  case others =>
    intro key hfree
    rw [hkept]
    refine hstage.others key fun pair hpair target htarget heq => ?_
    obtain ⟨creativeId, packageId, terms⟩ := pair
    obtain ⟨-, -, package, buy, hfound, rfl⟩ := packageId_of_assignTarget htarget
    obtain ⟨r, hr, hid⟩ := hresult hpair
    refine hfree creativeId packageId package buy ⟨hfound, r, hr, hid, ?_⟩ heq.symm
    rw [(houtcome r hr).1, hid]
    exact (mem_assignedTo hstage).mpr ⟨terms, _, hpair, htarget⟩
  case again => exact processAssignments_again hstage

/-- Every assignment of a lenient request is accounted for, and the list can be sent again. -/
theorem assignment_accounting
    {req : SyncCreativesRequest} {store : SyncStore} {s : SyncState}
    (hsync : syncLibrary env req store = .ok s)
    (hlenient : req.strict = false)
    (hassign : processAssignments env req.strict req.assignments s.results s.store.rows
      = .ok (rows', results')) :
    AssignmentAccounting env req.assignments s.results s.store.rows rows' results' := by
  rw [hlenient] at hassign
  exact accounting_of_processAssignments (blank_syncLibrary hsync) hassign

end Laws

section Samples

/-- A buy of the caller. -/
def bannerBuy : MediaBuy where
  mediaBuyId := "mb_1"
  tenantId := "t1"
  principalId := "p1"
  accountId := none
  idempotencyKey := none
  currency := none
  startDate := 0
  endDate := 0
  startTime := none
  endTime := none
  status := .draft
  isPaused := false
  revision := 1
  confirmedAt := none
  approvedAt := some 5
  approvedBy := none
  createdAt := 0

/-- Its one package, of no product. -/
def bannerPackage : MediaPackage where
  mediaBuyId := "mb_1"
  packageId := "pkg_1"
  budget := none
  config := ⟨none, none, none, none, none⟩

/-- A store with that buy. -/
def bannerStore : SyncStore where
  library := .empty
  rows :=
    { mediaBuys := IndexedTable.empty.put bannerBuy
      packages := IndexedTable.empty.put bannerPackage
      creatives := .empty
      assignments := .empty
      packagesOwned := by
        intro p hp
        rcases (IndexedTable.mem_put _).mp hp with rfl | hold
        · decide
        · exact absurd hold.1 (IndexedTable.not_mem_empty p) }
  coherent := rfl

/-- A new creative that is assigned with some weight to the package, to one that does not exist,
and by an entry without its own id. -/
def bannerRequest
    (weight : Decimal) : SyncCreativesRequest where
  creatives :=
    [{ creativeId := "c1"
       name := "Spring banner"
       formatId := some ⟨"adapter://display", "banner", none⟩ }]
  assignments :=
    [{ creativeId := "c1", packageId := "pkg_1" },
      { creativeId := "c1", packageId := "pkg_9" },
      { creativeId := "", packageId := "pkg_1" },
      { creativeId := "c1", packageId := "pkg_1", terms := ⟨some weight, none⟩ }]
  strict := false
  wholeLibrary := wholeLibrary_of_kept

/-- The request is answered, and its assignments are accounted for. -/
theorem assignment_accounting_banner :
    ∃ s rows' results', syncLibrary sampleEnv (bannerRequest 40) bannerStore = .ok s
      ∧ AssignmentAccounting sampleEnv (bannerRequest 40).assignments s.results s.store.rows rows'
        results' := by
  have hanswered :
      (syncCreatives sampleEnv (bannerRequest 40) bannerStore).response.toOption.isSome = true := by
    decide +kernel
  cases hresponse : (syncCreatives sampleEnv (bannerRequest 40) bannerStore).response with
  | error err =>
      rw [hresponse] at hanswered
      cases hanswered
  | ok results' =>
      obtain ⟨s, rows', hsync, hassign, -⟩ := syncCreatives_answered sampleEnv hresponse
      exact ⟨s, rows', results', hsync, assignment_accounting hsync rfl hassign⟩

/-- Counterexample: of a request whose last entry of a pair asks for half a weight, the pair is
stored as paused, and the entry without a creative is in no result. -/
theorem half_weight_is_paused :
    ((syncCreatives sampleEnv (bannerRequest (1 / 2)) bannerStore).store.rows.assignments.find
        ("t1", "c1", "mb_1", "pkg_1")).map (·.weight) = some 0
      ∧ (syncCreatives sampleEnv (bannerRequest (1 / 2)) bannerStore).response.toOption.map
          (fun results => results.map fun r => (r.creativeId, r.assignedTo, r.faulty))
        = some [("c1", ["pkg_1"], ["pkg_9"])] := by
  decide +kernel

end Samples

end CreativeSync
end SalesAgent
