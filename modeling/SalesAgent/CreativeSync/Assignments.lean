import SalesAgent.CreativeSync.Processing
import SalesAgent.MediaBuy.SyncCreatives
import Mathlib.Data.List.Sort

/-!
# Assigning synced creatives to packages

The assignments of a request are a list of pairs with terms; the stage reads them as a
map from creatives to packages.  A creative whose sync failed is skipped, a creative is
looked up under the caller's key, and a package by its id alone, within the tenant.
In strict mode the first assignment that cannot be made ends the stage, otherwise it is
recorded.

The outcome is entered into the results of the sync, and a creative that only the
assignments name gets a result of its own.

**Results.**
* `namedBy_normaliseAssignments`: what the map holds, the request named.
* `reportsFailed_finishResults`: the creatives the results report as failed.
-/

namespace SalesAgent
namespace CreativeSync

open MediaBuys (BuyRows Creative CreativeAssignment Decimal MediaBuy MediaPackage Product
  markPendingCreatives)
open Runs (FoldStep Preserved Run run_of_foldlM)

section Map

variable {α : Type}

/-- Set the value of a key, which keeps its place. -/
def dictSet
    (key : String)
    (value : α) : List (String × α) → List (String × α)
  | [] => [(key, value)]
  | entry :: rest =>
      if entry.1 = key then (key, value) :: rest else entry :: dictSet key value rest

/-- The value of a key. -/
def dictGet
    (key : String)
    (dict : List (String × α)) : Option α :=
  (dict.find? (·.1 = key)).map (·.2)

/-- The terms of each package, by creative. -/
abbrev AssignmentMap := List (String × List (String × AssignmentTerms))

/-- Enter one assignment; a later one of the same pair replaces its terms. -/
def enterAssignment
    (map : AssignmentMap)
    (entry : AssignmentEntry) : AssignmentMap :=
  dictSet entry.creativeId
    (dictSet entry.packageId entry.terms ((dictGet entry.creativeId map).getD [])) map

/-- `_normalise_assignments`; an entry without one of its ids is dropped. -/
def normaliseAssignments
    (entries : List AssignmentEntry) : AssignmentMap :=
  (entries.filter (fun e => e.creativeId ≠ "" ∧ e.packageId ≠ "")).foldl enterAssignment []

theorem mem_dictSet
    {key : String} {value : α} {dict : List (String × α)} {entry : String × α}
    (h : entry ∈ dictSet key value dict) :
    entry = (key, value) ∨ entry ∈ dict := by
  induction dict with
  | nil => exact .inl (List.mem_singleton.mp h)
  | cons first rest ih =>
      unfold dictSet at h
      split at h
      · rcases List.mem_cons.mp h with hnew | hrest
        · exact .inl hnew
        · exact .inr (List.mem_cons_of_mem _ hrest)
      · rcases List.mem_cons.mp h with rfl | hrest
        · exact .inr List.mem_cons_self
        · exact (ih hrest).imp_right (List.mem_cons_of_mem _)

theorem mem_of_dictGet
    {key : String} {value : α} {dict : List (String × α)}
    (h : dictGet key dict = some value) :
    (key, value) ∈ dict := by
  obtain ⟨entry, hfind, rfl⟩ := Option.map_eq_some_iff.mp h
  have hkey : entry.1 = key := by simpa using List.find?_some hfind
  rw [← hkey]
  exact List.mem_of_find?_eq_some hfind

/-- The pairs of the map are named by entries. -/
def AssignmentMap.NamedBy
    (entries : List AssignmentEntry)
    (map : AssignmentMap) : Prop :=
  ∀ c ∈ map, ∀ p ∈ c.2, ∃ e ∈ entries, e.creativeId = c.1 ∧ e.packageId = p.1

theorem AssignmentMap.NamedBy.enterAssignment
    {entries : List AssignmentEntry} {map : AssignmentMap} {entry : AssignmentEntry}
    (hmap : map.NamedBy entries)
    (hentry : entry ∈ entries) :
    NamedBy entries (enterAssignment map entry) := by
  intro c hc p hp
  rcases mem_dictSet hc with rfl | hold
  · rcases mem_dictSet hp with rfl | hpackage
    · exact ⟨entry, hentry, rfl, rfl⟩
    · cases hget : dictGet entry.creativeId map with
      | none => simp [hget] at hpackage
      | some packages =>
          rw [hget] at hpackage
          exact hmap _ (mem_of_dictGet hget) p hpackage
  · exact hmap c hold p hp

theorem dictSet_ne_nil
    (key : String)
    (value : α)
    (dict : List (String × α)) :
    dictSet key value dict ≠ [] := by
  cases dict with
  | nil => exact List.cons_ne_nil _ _
  | cons first rest =>
      unfold dictSet
      split <;> exact List.cons_ne_nil _ _

theorem normaliseAssignments_ne_nil
    {entries : List AssignmentEntry} {c : String × List (String × AssignmentTerms)}
    (hc : c ∈ normaliseAssignments entries) :
    c.2 ≠ [] := by
  have hfold : ∀ (es : List AssignmentEntry) (map : AssignmentMap), (∀ c ∈ map, c.2 ≠ []) →
      ∀ c ∈ es.foldl enterAssignment map, c.2 ≠ [] := by
    intro es
    induction es with
    | nil => exact fun _ hmap => hmap
    | cons e es ih =>
        refine fun map hmap => ih _ (fun c hc => ?_)
        rcases mem_dictSet hc with rfl | hold
        · exact dictSet_ne_nil _ _ _
        · exact hmap c hold
  exact hfold _ [] (fun c hc => absurd hc List.not_mem_nil) c hc

/-- What the map holds, the request named. -/
theorem namedBy_normaliseAssignments
    (entries : List AssignmentEntry) :
    (normaliseAssignments entries).NamedBy entries := by
  have hfold : ∀ (es : List AssignmentEntry) (map : AssignmentMap), (∀ e ∈ es, e ∈ entries) →
      map.NamedBy entries → (es.foldl enterAssignment map).NamedBy entries := by
    intro es
    induction es with
    | nil => exact fun _ _ hmap => hmap
    | cons e es ih =>
        exact fun map hes hmap => ih _ (fun e' he' => hes e' (List.mem_cons_of_mem _ he'))
          (hmap.enterAssignment (hes e List.mem_cons_self))
  refine hfold _ [] (fun e he => List.mem_of_mem_filter he) ?_
  intro c hc
  cases hc

end Map

/-- The stage in progress. -/
structure AssignState where
  rows : BuyRows
  /-- the packages assigned so far, with their creatives -/
  assigned : List (String × String) := []
  /-- the faults recorded so far, by creative and package -/
  faults : List (String × String × AssignmentFault) := []
  /-- the buys of the assigned packages -/
  reached : List String := []

section Stage

variable (env : SyncEnv) (strict : Bool)

/-- The assignment row of a creative and a package. -/
def SyncEnv.newAssignment
    (buy : MediaBuy)
    (package : MediaPackage)
    (creativeId : String)
    (weight : Int)
    (placementIds : Option (List String)) : CreativeAssignment where
  tenantId := env.tenantId
  principalId := env.principalId
  mediaBuyId := buy.mediaBuyId
  packageId := package.packageId
  creativeId := creativeId
  weight := weight
  placementIds := placementIds

/-- The weight an assignment asks for. -/
def AssignmentTerms.storedWeight
    (terms : AssignmentTerms) : Int :=
  (terms.weight.map Decimal.truncate).getD 100

/-- Write the assignment: over the caller's row of that key, or as a new row. -/
def storeAssignment
    (rows : BuyRows)
    (assignment : CreativeAssignment) : Except SyncError BuyRows :=
  let key := (assignment.tenantId, assignment.creativeId, assignment.mediaBuyId,
    assignment.packageId)
  if (rows.assignments.find key).any (fun a => a.principalId = assignment.principalId) then
    .ok { rows with assignments := rows.assignments.put assignment }
  else match rows.assignments.insert assignment with
    -- the index does not look at the principal, the lookup before it does
    | none => .error ⟨.internalError, none⟩
    | some assignments => .ok { rows with assignments := assignments }

/-- Record a fault, or end the stage with its error in strict mode. -/
def AssignState.fault
    (s : AssignState)
    (creativeId packageId : String)
    (fault : AssignmentFault)
    (err : SyncError) : Except SyncError AssignState :=
  if strict then .error err
  else .ok { s with faults := s.faults ++ [(creativeId, packageId, fault)] }

/-- Assign the creative to one package, wherever in the tenant it is found. -/
def assignPackage
    (creativeId : String)
    (creative : Creative)
    (s : AssignState)
    (entry : String × AssignmentTerms) : Except SyncError AssignState :=
  match s.rows.findPackageWithMediaBuy env.tenantId entry.1 with
  | none => s.fault strict creativeId entry.1 .packageNotFound ⟨.packageNotFound, none⟩
  | some (package, buy) =>
      let product := (package.config.productId.filter (· ≠ "")).bind env.product
      if ! Product.accepts product creative.format then
        s.fault strict creativeId entry.1
          (.formatMismatch ((product.map (·.name)).getD "") ((product.map (·.formatIds)).getD []))
          ⟨.validationError, none⟩
      else
        match storeAssignment s.rows
          (env.newAssignment buy package creativeId entry.2.storedWeight entry.2.placementIds) with
        | .error err => .error err
        | .ok rows =>
            .ok { s with
              rows := rows
              assigned := s.assigned ++ [(creativeId, package.packageId)]
              reached := if buy.mediaBuyId ∈ s.reached then s.reached
                else s.reached ++ [buy.mediaBuyId] }

/-- Assign one creative to its packages. -/
def assignCreative
    (failed : List String)
    (s : AssignState)
    (entry : String × List (String × AssignmentTerms)) : Except SyncError AssignState :=
  if entry.1 ∈ failed then
    .ok { s with faults := s.faults ++ entry.2.map (fun p => (entry.1, p.1, .notSynced)) }
  else match s.rows.creatives.find (env.creativeKey entry.1) with
    | none =>
        if strict then .error ⟨.creativeNotFound, some "assignments"⟩
        else
          .ok { s with
            faults := s.faults ++ entry.2.map (fun p => (entry.1, p.1, .creativeNotFound)) }
    | some creative => entry.2.foldlM (assignPackage env strict entry.1 creative) s

/-- Move the buys that were waiting for creatives. -/
def settleBuys
    (s : AssignState) : BuyRows :=
  s.reached.foldl
    (fun rows mediaBuyId => markPendingCreatives env.tenantId mediaBuyId env.assignedAt rows rows)
    s.rows

end Stage

section Results

/-- The packages a creative was assigned to. -/
def AssignState.assignedTo
    (s : AssignState)
    (creativeId : String) : List String :=
  (s.assigned.filter (·.1 = creativeId)).map (·.2)

/-- The faults recorded for a creative, by package. -/
def AssignState.faultsOf
    (s : AssignState)
    (creativeId : String) : List (String × AssignmentFault) :=
  (s.faults.filter (·.1 = creativeId)).map (·.2)

/-- Enter the outcome of the stage into a result. -/
def annotate
    (s : AssignState)
    (r : SyncCreativeResult) : SyncCreativeResult :=
  { r with
    assignedTo :=
      if (s.assignedTo r.creativeId).isEmpty then r.assignedTo else s.assignedTo r.creativeId
    assignmentErrors :=
      if (s.faultsOf r.creativeId).isEmpty then r.assignmentErrors else s.faultsOf r.creativeId }

/-- The error of a creative no package of which was assigned. -/
def assignmentCause
    (faults : List (String × AssignmentFault)) : SyncError :=
  if faults.any (·.2 = .creativeNotFound) then ⟨.creativeNotFound, none⟩
  else if faults.all (·.2 = .packageNotFound) then ⟨.packageNotFound, none⟩
  else ⟨.validationError, none⟩

/-- The result of a creative that only the assignments name. -/
def synthesize
    (s : AssignState)
    (creativeId : String) : Option SyncCreativeResult :=
  let assigned := s.assignedTo creativeId
  let faults := s.faultsOf creativeId
  if assigned.isEmpty && faults.isEmpty then none
  else if assigned.isEmpty then
    some { failedSyncResult creativeId (assignmentCause faults) with assignmentErrors := faults }
  else
    some
      { creativeId := creativeId
        action := .unchanged
        assignedTo := assigned
        assignmentErrors := faults }

/-- Enter the outcome of the stage into the results. -/
def finishResults
    (map : AssignmentMap)
    (s : AssignState)
    (results : List SyncCreativeResult) : List SyncCreativeResult :=
  let named := (map.map (·.1)).insertionSort (· ≤ ·)
  let unmentioned := named.filter (fun c => c ∉ results.map (·.creativeId))
  results.map (annotate s) ++ unmentioned.filterMap (synthesize s)

end Results

/-- The ids the results report as failed. -/
def failedIds
    (results : List SyncCreativeResult) : List String :=
  (results.filter (·.action = .failed)).map (·.creativeId)

/-- `_process_assignments`. -/
def processAssignments
    (env : SyncEnv)
    (strict : Bool)
    (entries : List AssignmentEntry)
    (results : List SyncCreativeResult)
    (rows : BuyRows) : Except SyncError (BuyRows × List SyncCreativeResult) :=
  let map := normaliseAssignments entries
  match map.foldlM (assignCreative env strict (failedIds results)) { rows := rows } with
  | .error err => .error err
  | .ok s => .ok (settleBuys env s, finishResults map s results)

section Buys

variable {env : SyncEnv} {strict : Bool}

theorem storeAssignment_mediaBuys
    {rows rows' : BuyRows} {assignment : CreativeAssignment}
    (h : storeAssignment rows assignment = .ok rows') :
    rows'.mediaBuys = rows.mediaBuys := by
  unfold storeAssignment at h
  simp only at h
  split at h
  · cases h
    rfl
  · split at h
    · cases h
    · cases h
      rfl

theorem fault_rows
    {s s' : AssignState} {creativeId packageId : String} {fault : AssignmentFault}
    {err : SyncError}
    (h : s.fault strict creativeId packageId fault err = .ok s') :
    s'.rows = s.rows := by
  unfold AssignState.fault at h
  split at h
  · cases h
  · cases h
    rfl

theorem assignPackage_mediaBuys
    {s s' : AssignState} {creativeId : String} {creative : Creative}
    {entry : String × AssignmentTerms}
    (h : assignPackage env strict creativeId creative s entry = .ok s') :
    s'.rows.mediaBuys = s.rows.mediaBuys := by
  unfold assignPackage at h
  simp only at h
  split at h
  · rw [fault_rows h]
  · split at h
    · rw [fault_rows h]
    · split at h
      · cases h
      · next hstore =>
          cases h
          exact storeAssignment_mediaBuys hstore

/-- The stage writes nothing of a buy before it settles the waiting ones. -/
theorem assignCreative_mediaBuys
    {s s' : AssignState} {failed : List String}
    {entry : String × List (String × AssignmentTerms)}
    (h : assignCreative env strict failed s entry = .ok s') :
    s'.rows.mediaBuys = s.rows.mediaBuys := by
  unfold assignCreative at h
  split at h
  · cases h
    rfl
  · split at h
    · split at h
      · cases h
      · cases h
        rfl
    · next creative _ =>
        have hinv : Preserved (FoldStep (assignPackage env strict entry.1 creative))
            (fun t => t.rows.mediaBuys = s.rows.mediaBuys) :=
          fun _ _ _ hstep hst => (assignPackage_mediaBuys hstep).trans hst
        exact (run_of_foldlM h).preserves hinv rfl

end Buys

section Reported

variable {results : List SyncCreativeResult} {creativeId : String}

theorem reportsFailed_annotate
    (s : AssignState) :
    ReportsFailed (results.map (annotate s)) creativeId ↔ ReportsFailed results creativeId := by
  simp [ReportsFailed, annotate]

theorem synthesize_creativeId
    {s : AssignState} {named : String} {r : SyncCreativeResult}
    (h : synthesize s named = some r) :
    r.creativeId = named := by
  unfold synthesize at h
  simp only at h
  split at h
  · cases h
  · split at h
    · cases h
      rfl
    · cases h
      rfl

/-- A creative that is reported as failed failed in the sync, or only the assignments
name it. -/
theorem reportsFailed_finishResults
    {map : AssignmentMap} {s : AssignState}
    (h : ReportsFailed (finishResults map s results) creativeId) :
    ReportsFailed results creativeId ∨ ¬ Mentions results creativeId := by
  rcases reportsFailed_append.mp h with hold | ⟨r, hr, -, rfl⟩
  · exact .inl ((reportsFailed_annotate s).mp hold)
  · refine .inr ?_
    obtain ⟨named, hnamed, hsynthesize⟩ := List.mem_filterMap.mp hr
    have hunmentioned := (List.mem_filter.mp hnamed).2
    rw [synthesize_creativeId hsynthesize]
    rintro ⟨r', hr', hid⟩
    simp only [List.mem_map, not_exists, not_and, decide_eq_true_eq] at hunmentioned
    exact hunmentioned r' hr' hid

theorem ReportsFailed.finishResults
    (map : AssignmentMap)
    (s : AssignState)
    (h : ReportsFailed results creativeId) :
    ReportsFailed (finishResults map s results) creativeId :=
  reportsFailed_append.mpr (.inl ((reportsFailed_annotate s).mpr h))

theorem processAssignments_eq_ok
    {env : SyncEnv} {strict : Bool} {entries : List AssignmentEntry}
    {rows rows' : BuyRows} {results' : List SyncCreativeResult}
    (h : processAssignments env strict entries results rows = .ok (rows', results')) :
    ∃ s, (normaliseAssignments entries).foldlM (assignCreative env strict (failedIds results))
        { rows := rows } = .ok s ∧
      rows' = settleBuys env s ∧
      results' = CreativeSync.finishResults (normaliseAssignments entries) s results := by
  unfold processAssignments at h
  simp only at h
  split at h
  · cases h
  · next s hs =>
      cases h
      exact ⟨s, hs, rfl, rfl⟩

end Reported

end CreativeSync
end SalesAgent
