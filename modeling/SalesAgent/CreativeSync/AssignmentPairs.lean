import Mathlib.Data.List.Induction
import Mathlib.Data.List.Nodup
import SalesAgent.CreativeSync.Isolation

/-!
# The pairs of an assignment stage

The assignments of a request are read as a map from creatives to packages, so an entry is known by
its pair of ids and a later entry of a pair replaces the terms of an earlier one.  In lenient mode
every pair ends as an assignment or as a fault of its creative, and what becomes of it depends on
rows that the stage does not write.

**Results.**
* `mem_pairsOf`: the pairs of the map, with the terms of their last entries.
* `foldlM_assignCreative`: the two loops of the stage are one loop over the pairs.
* `Stage.assignPair`, `stage_of_foldlM`: what the loop has done after some pairs.
* `settles_foldl`: the buys that were reached do not wait any more.
-/

namespace SalesAgent
namespace CreativeSync

open MediaBuys (BuyRows Creative CreativeAssignment Decimal MediaBuy MediaPackage Product
  awaitsCreatives markPendingCreatives)

section Pairs

variable {α : Type}

theorem dictGet_dictSet_self
    (key : String)
    (value : α)
    (dict : List (String × α)) :
    dictGet key (dictSet key value dict) = some value := by
  induction dict with
  | nil => simp [dictSet, dictGet]
  | cons first rest ih =>
      rw [dictSet]
      by_cases hkey : first.1 = key
      · rw [if_pos hkey]
        simp [dictGet]
      · rw [if_neg hkey]
        rw [dictGet, List.find?_cons_of_neg (by simpa using hkey)]
        exact ih

theorem dictGet_dictSet_of_ne
    {key other : String}
    (hne : key ≠ other)
    (value : α)
    (dict : List (String × α)) :
    dictGet other (dictSet key value dict) = dictGet other dict := by
  induction dict with
  | nil => simp [dictSet, dictGet, hne]
  | cons first rest ih =>
      rw [dictSet]
      by_cases hkey : first.1 = key
      · rw [if_pos hkey, dictGet, dictGet, List.find?_cons_of_neg (by simpa using hne),
          List.find?_cons_of_neg (by simpa [hkey] using hne)]
      · rw [if_neg hkey]
        by_cases hother : first.1 = other
        · rw [dictGet, dictGet, List.find?_cons_of_pos (by simpa using hother),
            List.find?_cons_of_pos (by simpa using hother)]
        · rw [dictGet, dictGet, List.find?_cons_of_neg (by simpa using hother),
            List.find?_cons_of_neg (by simpa using hother)]
          exact ih

/-- Setting a key of a dictionary keeps its keys distinct. -/
theorem nodup_dictSet
    {key : String} {value : α} {dict : List (String × α)}
    (h : (dict.map (·.1)).Nodup) :
    ((dictSet key value dict).map (·.1)).Nodup := by
  induction dict with
  | nil => simp [dictSet]
  | cons first rest ih =>
      rw [List.map_cons, List.nodup_cons] at h
      rw [dictSet]
      by_cases hkey : first.1 = key
      · rw [if_pos hkey, List.map_cons, List.nodup_cons]
        exact ⟨hkey ▸ h.1, h.2⟩
      · rw [if_neg hkey, List.map_cons, List.nodup_cons]
        refine ⟨fun hmem => ?_, ih h.2⟩
        obtain ⟨entry, hentry, heq⟩ := List.mem_map.mp hmem
        rcases mem_dictSet hentry with rfl | hold
        · exact hkey heq.symm
        · exact h.1 (List.mem_map.mpr ⟨entry, hold, heq⟩)

theorem dictGet_of_mem
    {key : String} {value : α} {dict : List (String × α)}
    (hnodup : (dict.map (·.1)).Nodup)
    (h : (key, value) ∈ dict) :
    dictGet key dict = some value := by
  induction dict with
  | nil => exact absurd h List.not_mem_nil
  | cons first rest ih =>
      rw [List.map_cons, List.nodup_cons] at hnodup
      rcases List.mem_cons.mp h with rfl | hrest
      · simp [dictGet]
      · have hne : first.1 ≠ key := by
          rintro rfl
          exact hnodup.1 (List.mem_map.mpr ⟨_, hrest, rfl⟩)
        rw [dictGet, List.find?_cons_of_neg (by simpa using hne)]
        exact ih hnodup.2 hrest

/-- The entry names a creative and a package. -/
def AssignmentEntry.Named
    (entry : AssignmentEntry) : Prop :=
  entry.creativeId ≠ "" ∧ entry.packageId ≠ ""

/-- The terms of the last entry of a pair. -/
def lastTerms
    (entries : List AssignmentEntry)
    (creativeId packageId : String) : Option AssignmentTerms :=
  (entries.reverse.find? fun entry =>
    decide (entry.creativeId = creativeId ∧ entry.packageId = packageId)).map (·.terms)

/-- The terms of a pair in a map. -/
def AssignmentMap.termsOf
    (map : AssignmentMap)
    (creativeId packageId : String) : Option AssignmentTerms :=
  dictGet packageId ((dictGet creativeId map).getD [])

/-- The pairs of a map, with their terms. -/
def pairsOf
    (map : AssignmentMap) : List (String × String × AssignmentTerms) :=
  map.flatMap fun creative => creative.2.map fun package => (creative.1, package.1, package.2)

theorem termsOf_enterAssignment
    (map : AssignmentMap)
    (entry : AssignmentEntry)
    (creativeId packageId : String) :
    (enterAssignment map entry).termsOf creativeId packageId
      = if entry.creativeId = creativeId ∧ entry.packageId = packageId then some entry.terms
        else map.termsOf creativeId packageId := by
  rw [AssignmentMap.termsOf, enterAssignment, AssignmentMap.termsOf]
  by_cases hcreative : entry.creativeId = creativeId
  · subst hcreative
    rw [dictGet_dictSet_self, Option.getD_some]
    by_cases hpackage : entry.packageId = packageId
    · subst hpackage
      rw [dictGet_dictSet_self, if_pos ⟨rfl, rfl⟩]
    · rw [dictGet_dictSet_of_ne hpackage, if_neg (fun h => hpackage h.2)]
  · rw [dictGet_dictSet_of_ne hcreative, if_neg (fun h => hcreative h.1)]

theorem termsOf_foldl
    (entries : List AssignmentEntry)
    (creativeId packageId : String) :
    (entries.foldl enterAssignment []).termsOf creativeId packageId
      = lastTerms entries creativeId packageId := by
  induction entries using List.reverseRecOn with
  | nil => rfl
  | append_singleton entries entry ih =>
      rw [List.foldl_append, List.foldl_cons, List.foldl_nil, termsOf_enterAssignment, ih,
        lastTerms, lastTerms, List.reverse_append, List.reverse_singleton, List.singleton_append]
      by_cases h : entry.creativeId = creativeId ∧ entry.packageId = packageId
      · rw [if_pos h, List.find?_cons_of_pos (by simpa using h)]
        rfl
      · rw [if_neg h, List.find?_cons_of_neg (by simpa using h)]

theorem termsOf_normaliseAssignments
    (entries : List AssignmentEntry)
    {creativeId packageId : String}
    (hcreative : creativeId ≠ "")
    (hpackage : packageId ≠ "") :
    (normaliseAssignments entries).termsOf creativeId packageId
      = lastTerms entries creativeId packageId := by
  rw [normaliseAssignments, termsOf_foldl, lastTerms, lastTerms, ← List.filter_reverse,
    List.find?_filter]
  congr 2
  funext entry
  by_cases h : entry.creativeId = creativeId ∧ entry.packageId = packageId
  · obtain ⟨rfl, rfl⟩ := h
    simp [hcreative, hpackage]
  · simp [h]

/-- The keys of a map are distinct, those of the creatives and those of each one's packages. -/
structure AssignmentMap.Distinct
    (map : AssignmentMap) : Prop where
  creatives : (map.map (·.1)).Nodup
  packages : ∀ creative ∈ map, (creative.2.map (·.1)).Nodup

theorem distinct_normaliseAssignments
    (entries : List AssignmentEntry) :
    (normaliseAssignments entries).Distinct := by
  have hfold : ∀ (es : List AssignmentEntry) (map : AssignmentMap), map.Distinct →
      AssignmentMap.Distinct (es.foldl enterAssignment map) := by
    intro es
    induction es with
    | nil => exact fun _ hmap => hmap
    | cons e es ih =>
        refine fun map hmap => ih _ ⟨nodup_dictSet hmap.creatives, fun creative hcreative => ?_⟩
        rcases mem_dictSet hcreative with rfl | hold
        · refine nodup_dictSet ?_
          cases hget : dictGet e.creativeId map with
          | none => exact List.nodup_nil
          | some packages => exact hmap.packages _ (mem_of_dictGet hget)
        · exact hmap.packages creative hold
  exact hfold _ [] ⟨List.nodup_nil, fun creative h => absurd h List.not_mem_nil⟩

theorem mem_pairsOf_iff
    {map : AssignmentMap}
    (hmap : map.Distinct)
    {creativeId packageId : String} {terms : AssignmentTerms} :
    (creativeId, packageId, terms) ∈ pairsOf map
      ↔ map.termsOf creativeId packageId = some terms := by
  rw [pairsOf, List.mem_flatMap]
  constructor
  · rintro ⟨⟨c, packages⟩, hcreative, hpair⟩
    obtain ⟨⟨p, t⟩, hpackage, heq⟩ := List.mem_map.mp hpair
    cases heq
    rw [AssignmentMap.termsOf, dictGet_of_mem hmap.creatives hcreative, Option.getD_some]
    exact dictGet_of_mem (hmap.packages _ hcreative) hpackage
  · intro h
    rw [AssignmentMap.termsOf] at h
    cases hget : dictGet creativeId map with
    | none =>
        rw [hget] at h
        cases h
    | some packages =>
        rw [hget, Option.getD_some] at h
        exact ⟨_, mem_of_dictGet hget, List.mem_map.mpr ⟨_, mem_of_dictGet h, rfl⟩⟩

/-- The pairs of a request, with the terms of their last entries. -/
theorem mem_pairsOf
    {entries : List AssignmentEntry} {creativeId packageId : String} {terms : AssignmentTerms} :
    (creativeId, packageId, terms) ∈ pairsOf (normaliseAssignments entries)
      ↔ creativeId ≠ "" ∧ packageId ≠ "" ∧ lastTerms entries creativeId packageId = some terms := by
  rw [mem_pairsOf_iff (distinct_normaliseAssignments entries)]
  constructor
  · intro h
    have hempty : creativeId ≠ "" ∧ packageId ≠ "" := by
      rw [normaliseAssignments, termsOf_foldl, lastTerms] at h
      obtain ⟨entry, hfind, -⟩ := Option.map_eq_some_iff.mp h
      have hids := List.find?_some hfind
      rw [decide_eq_true_eq] at hids
      have hnamed := List.mem_filter.mp (List.mem_reverse.mp (List.mem_of_find?_eq_some hfind))
      rw [decide_eq_true_eq] at hnamed
      exact hids.1 ▸ hids.2 ▸ hnamed.2
    rw [termsOf_normaliseAssignments entries hempty.1 hempty.2] at h
    exact ⟨hempty.1, hempty.2, h⟩
  · rintro ⟨hcreative, hpackage, h⟩
    rw [termsOf_normaliseAssignments entries hcreative hpackage]
    exact h

/-- No pair occurs twice. -/
theorem nodup_pairsOf
    {map : AssignmentMap}
    (hmap : map.Distinct) :
    ((pairsOf map).map fun pair => (pair.1, pair.2.1)).Nodup := by
  rw [pairsOf, List.map_flatMap, List.nodup_flatMap]
  constructor
  · intro creative hcreative
    rw [List.map_map]
    have hpackages := hmap.packages creative hcreative
    rw [List.nodup_iff_pairwise_ne, List.pairwise_map] at hpackages ⊢
    exact hpackages.imp fun hne heq => hne (Prod.mk.inj heq).2
  · have hcreatives := hmap.creatives
    rw [List.nodup_iff_pairwise_ne, List.pairwise_map] at hcreatives
    refine hcreatives.imp fun {first second} hne => ?_
    intro pair hfirst hsecond
    obtain ⟨_, hpair, rfl⟩ := List.mem_map.mp hfirst
    obtain ⟨_, -, rfl⟩ := List.mem_map.mp hpair
    obtain ⟨_, hpair', heq⟩ := List.mem_map.mp hsecond
    obtain ⟨_, -, rfl⟩ := List.mem_map.mp hpair'
    exact hne (Prod.mk.inj heq).1.symm

end Pairs

section Targets

variable (env : SyncEnv)

/-- The buy and the package that a pair is assigned to, or its fault. -/
def assignTarget
    (failed : List String)
    (rows : BuyRows)
    (creativeId packageId : String) : Except AssignmentFault (String × String) :=
  if creativeId ∈ failed then .error .notSynced
  else
    match rows.creatives.find (env.creativeKey creativeId) with
    | none => .error .creativeNotFound
    | some creative =>
        match rows.findPackageWithMediaBuy env.tenantId packageId with
        | none => .error .packageNotFound
        | some (package, buy) =>
            let product := (package.config.productId.filter (· ≠ "")).bind env.product
            if ! Product.accepts product creative.format then
              .error (.formatMismatch ((product.map (·.name)).getD "")
                ((product.map (·.formatIds)).getD []))
            else .ok (buy.mediaBuyId, package.packageId)

/-- The row of an assignment. -/
def SyncEnv.pairRow
    (creativeId : String)
    (target : String × String)
    (terms : AssignmentTerms) : CreativeAssignment where
  tenantId := env.tenantId
  principalId := env.principalId
  mediaBuyId := target.1
  packageId := target.2
  creativeId := creativeId
  weight := terms.storedWeight
  placementIds := terms.placementIds

/-- The key of the row of an assignment. -/
def SyncEnv.pairKey
    (creativeId : String)
    (target : String × String) : String × String × String × String :=
  (env.tenantId, creativeId, target.1, target.2)

/-- One pair, in lenient mode. -/
def assignPair
    (failed : List String)
    (s : AssignState)
    (pair : String × String × AssignmentTerms) : Except SyncError AssignState :=
  match assignTarget env failed s.rows pair.1 pair.2.1 with
  | .error fault => .ok { s with faults := s.faults ++ [(pair.1, pair.2.1, fault)] }
  | .ok target =>
      match storeAssignment s.rows (env.pairRow pair.1 target pair.2.2) with
      | .error err => .error err
      | .ok rows =>
          .ok { s with
            rows := rows
            assigned := s.assigned ++ [(pair.1, target.2)]
            reached := if target.1 ∈ s.reached then s.reached else s.reached ++ [target.1] }

variable {env} {failed : List String} {rows rows' : BuyRows} {s s' : AssignState}
variable {creativeId packageId : String}

theorem foldlM_faults
    (fault : AssignmentFault)
    (htarget : ∀ rows packageId, rows.creatives = s.rows.creatives →
      assignTarget env failed rows creativeId packageId = .error fault)
    (packages : List (String × AssignmentTerms)) :
    (packages.map fun p => (creativeId, p.1, p.2)).foldlM (assignPair env failed) s
      = .ok { s with faults := s.faults ++ packages.map fun p => (creativeId, p.1, fault) } := by
  induction packages generalizing s with
  | nil =>
      rw [List.map_nil, List.map_nil, List.append_nil]
      rfl
  | cons package packages ih =>
      rw [List.map_cons, List.foldlM_cons, assignPair, htarget s.rows _ rfl]
      change ((packages.map fun p => (creativeId, p.1, p.2)).foldlM (assignPair env failed)
        { s with faults := s.faults ++ [(creativeId, package.1, fault)] }) = _
      rw [@ih { s with faults := s.faults ++ [(creativeId, package.1, fault)] } htarget,
        List.map_cons, List.append_assoc, List.singleton_append]

theorem assignPackage_eq_pair
    {creative : Creative}
    (hfailed : creativeId ∉ failed)
    (hcreative : s.rows.creatives.find (env.creativeKey creativeId) = some creative)
    (entry : String × AssignmentTerms) :
    assignPackage env false creativeId creative s entry
      = assignPair env failed s (creativeId, entry.1, entry.2) := by
  rw [assignPackage, assignPair, assignTarget, if_neg hfailed, hcreative]
  dsimp only
  cases s.rows.findPackageWithMediaBuy env.tenantId entry.1 with
  | none => rfl
  | some found =>
      dsimp only
      by_cases haccepts : (! Product.accepts
          ((found.1.config.productId.filter (· ≠ "")).bind env.product) creative.format) = true
      · rw [if_pos haccepts, if_pos haccepts]
        rfl
      · rw [if_neg haccepts, if_neg haccepts]
        rfl

theorem creatives_storeAssignment
    {a : CreativeAssignment}
    (h : storeAssignment rows a = .ok rows') :
    rows'.mediaBuys = rows.mediaBuys ∧ rows'.packages = rows.packages
      ∧ rows'.creatives = rows.creatives := by
  obtain ⟨assignments, rfl, -⟩ := storeAssignment_eq_ok h
  exact ⟨rfl, rfl, rfl⟩

/-- A pair leaves everything but the assignments. -/
theorem assignPair_rows
    {pair : String × String × AssignmentTerms}
    (h : assignPair env failed s pair = .ok s') :
    s'.rows.mediaBuys = s.rows.mediaBuys ∧ s'.rows.packages = s.rows.packages
      ∧ s'.rows.creatives = s.rows.creatives := by
  rw [assignPair] at h
  cases htarget : assignTarget env failed s.rows pair.1 pair.2.1 with
  | error fault =>
      rw [htarget] at h
      cases h
      exact ⟨rfl, rfl, rfl⟩
  | ok target =>
      rw [htarget] at h
      dsimp only at h
      cases hstore : storeAssignment s.rows (env.pairRow pair.1 target pair.2.2) with
      | error err =>
          rw [hstore] at h
          cases h
      | ok rows =>
          rw [hstore] at h
          cases h
          exact creatives_storeAssignment hstore

theorem assignCreative_eq_pairs
    (entry : String × List (String × AssignmentTerms)) :
    assignCreative env false failed s entry
      = (entry.2.map fun p => (entry.1, p.1, p.2)).foldlM (assignPair env failed) s := by
  rw [assignCreative]
  by_cases hfailed : entry.1 ∈ failed
  · rw [if_pos hfailed, foldlM_faults .notSynced]
    intro rows packageId _
    rw [assignTarget, if_pos hfailed]
  · rw [if_neg hfailed]
    cases hcreative : s.rows.creatives.find (env.creativeKey entry.1) with
    | none =>
        rw [foldlM_faults .creativeNotFound]
        · rfl
        · intro rows packageId hrows
          rw [assignTarget, if_neg hfailed, hrows, hcreative]
    | some creative =>
        dsimp only
        generalize entry.2 = packages
        induction packages generalizing s with
        | nil => rfl
        | cons package packages ih =>
            rw [List.map_cons, List.foldlM_cons, List.foldlM_cons,
              assignPackage_eq_pair hfailed hcreative]
            cases hpair : assignPair env failed s (entry.1, package.1, package.2) with
            | error err => rfl
            | ok s' =>
                refine ih ?_
                rw [(assignPair_rows hpair).2.2]
                exact hcreative

/-- The stage is one loop over the pairs of the map. -/
theorem foldlM_assignCreative
    (map : AssignmentMap) :
    map.foldlM (assignCreative env false failed) s
      = (pairsOf map).foldlM (assignPair env failed) s := by
  induction map generalizing s with
  | nil => rfl
  | cons entry map ih =>
      rw [List.foldlM_cons, assignCreative_eq_pairs, pairsOf, List.flatMap_cons,
        List.foldlM_append]
      cases (entry.2.map fun p => (entry.1, p.1, p.2)).foldlM (assignPair env failed) s with
      | error err => rfl
      | ok s' => exact ih

end Targets

section Stages

variable {env : SyncEnv} {failed : List String} {rows rows' : BuyRows} {s s' : AssignState}
variable {done : List (String × String × AssignmentTerms)}
variable {pair : String × String × AssignmentTerms}

theorem find_storeAssignment
    {a : CreativeAssignment} {key : String × String × String × String}
    (hkey : a.uniqueKey = some key)
    (h : storeAssignment rows a = .ok rows') :
    rows'.assignments.find key = some a
      ∧ ∀ other, other ≠ key → rows'.assignments.find other = rows.assignments.find other := by
  have hother : ∀ other, other ≠ key → a.uniqueKey ≠ some other := by
    intro other hne heq
    rw [hkey] at heq
    exact hne (Option.some.inj heq).symm
  rw [storeAssignment] at h
  split_ifs at h with hown
  · cases h
    exact ⟨IndexedTable.find_put_self _ hkey,
      fun other hne => IndexedTable.find_put_of_ne _ (hother other hne)⟩
  · cases hinsert : rows.assignments.insert a with
    | none =>
        rw [hinsert] at h
        cases h
    | some assignments =>
        rw [hinsert] at h
        cases h
        exact ⟨IndexedTable.find_insert_self hinsert hkey,
          fun other hne => IndexedTable.find_insert_of_ne hinsert (hother other hne)⟩

theorem storeAssignment_own
    {a x : CreativeAssignment}
    (hfind : rows.assignments.find (a.tenantId, a.creativeId, a.mediaBuyId, a.packageId) = some x)
    (hown : x.principalId = a.principalId) :
    ∃ rows', storeAssignment rows a = .ok rows' := by
  rw [storeAssignment, hfind, if_pos]
  · exact ⟨_, rfl⟩
  · simp [hown]

theorem assignTarget_congr
    {creativeId packageId : String}
    (hbuys : rows'.mediaBuys = rows.mediaBuys)
    (hpackages : rows'.packages = rows.packages)
    (hcreatives : rows'.creatives = rows.creatives) :
    assignTarget env failed rows' creativeId packageId
      = assignTarget env failed rows creativeId packageId := by
  have hfound : rows'.findPackageWithMediaBuy env.tenantId packageId
      = rows.findPackageWithMediaBuy env.tenantId packageId := by
    rw [BuyRows.findPackageWithMediaBuy, BuyRows.findPackageWithMediaBuy, hpackages]
    simp only [BuyRows.getById, hbuys]
  rw [assignTarget, assignTarget, hcreatives, hfound]

theorem packageId_of_assignTarget
    {creativeId packageId : String} {target : String × String}
    (h : assignTarget env failed rows creativeId packageId = .ok target) :
    target.2 = packageId ∧ creativeId ∉ failed
      ∧ ∃ package buy, rows.findPackageWithMediaBuy env.tenantId packageId = some (package, buy)
        ∧ target = (buy.mediaBuyId, package.packageId) := by
  rw [assignTarget] at h
  by_cases hfailed : creativeId ∈ failed
  · rw [if_pos hfailed] at h
    cases h
  · rw [if_neg hfailed] at h
    cases hcreative : rows.creatives.find (env.creativeKey creativeId) with
    | none =>
        rw [hcreative] at h
        cases h
    | some creative =>
        rw [hcreative] at h
        dsimp only at h
        cases hfound : rows.findPackageWithMediaBuy env.tenantId packageId with
        | none =>
            rw [hfound] at h
            cases h
        | some found =>
            obtain ⟨package, buy⟩ := found
            rw [hfound] at h
            dsimp only at h
            split_ifs at h
            cases h
            exact ⟨(findPackage_eq_some hfound).2.1, hfailed, package, buy, rfl, rfl⟩

/-- Whether a pair has a target. -/
def hasTarget
    (env : SyncEnv)
    (failed : List String)
    (rows : BuyRows)
    (pair : String × String × AssignmentTerms) : Bool :=
  (assignTarget env failed rows pair.1 pair.2.1).toOption.isSome

/-- What the loop has done after some pairs, from the rows that it began with. -/
structure Stage
    (env : SyncEnv)
    (failed : List String)
    (rows : BuyRows)
    (done : List (String × String × AssignmentTerms))
    (s : AssignState) : Prop where
  mediaBuys : s.rows.mediaBuys = rows.mediaBuys
  packages : s.rows.packages = rows.packages
  creatives : s.rows.creatives = rows.creatives
  assigned : s.assigned
    = (done.filter (hasTarget env failed rows)).map fun pair => (pair.1, pair.2.1)
  faults : s.faults = done.filterMap fun pair =>
    match assignTarget env failed rows pair.1 pair.2.1 with
    | .ok _ => none
    | .error fault => some (pair.1, pair.2.1, fault)
  stored : ∀ pair ∈ done, ∀ target, assignTarget env failed rows pair.1 pair.2.1 = .ok target →
    s.rows.assignments.find (env.pairKey pair.1 target)
      = some (env.pairRow pair.1 target pair.2.2)
  others : ∀ key, (∀ pair ∈ done, ∀ target,
      assignTarget env failed rows pair.1 pair.2.1 = .ok target → env.pairKey pair.1 target ≠ key) →
    s.rows.assignments.find key = rows.assignments.find key
  reached : ∀ mediaBuyId, mediaBuyId ∈ s.reached ↔ ∃ pair ∈ done, ∃ target,
    assignTarget env failed rows pair.1 pair.2.1 = .ok target ∧ target.1 = mediaBuyId

theorem Stage.nil :
    Stage env failed rows [] { rows := rows } where
  mediaBuys := rfl
  packages := rfl
  creatives := rfl
  assigned := rfl
  faults := rfl
  stored := fun _ hpair => absurd hpair List.not_mem_nil
  others := fun _ _ => rfl
  reached := fun _ =>
    ⟨fun h => absurd h List.not_mem_nil, fun ⟨_, hpair, _⟩ => absurd hpair List.not_mem_nil⟩

theorem Stage.target
    (h : Stage env failed rows done s)
    (creativeId packageId : String) :
    assignTarget env failed s.rows creativeId packageId
      = assignTarget env failed rows creativeId packageId :=
  assignTarget_congr h.mediaBuys h.packages h.creatives

theorem pairKey_ne
    {creativeId packageId creativeId' packageId' : String} {target target' : String × String}
    (htarget : assignTarget env failed rows creativeId packageId = .ok target)
    (htarget' : assignTarget env failed rows creativeId' packageId' = .ok target')
    (hne : (creativeId, packageId) ≠ (creativeId', packageId')) :
    env.pairKey creativeId target ≠ env.pairKey creativeId' target' := by
  intro heq
  simp only [SyncEnv.pairKey, Prod.mk.injEq] at heq
  refine hne ?_
  rw [← (packageId_of_assignTarget htarget).1, ← (packageId_of_assignTarget htarget').1, heq.2.1,
    heq.2.2.2]

/-- One more pair. -/
theorem Stage.assignPair
    (h : Stage env failed rows done s)
    (hfresh : ∀ earlier ∈ done, (earlier.1, earlier.2.1) ≠ (pair.1, pair.2.1))
    (hpair : CreativeSync.assignPair env failed s pair = .ok s') :
    Stage env failed rows (done ++ [pair]) s' := by
  rw [CreativeSync.assignPair, h.target] at hpair
  cases htarget : assignTarget env failed rows pair.1 pair.2.1 with
  | error fault =>
      rw [htarget] at hpair
      cases hpair
      have hno : hasTarget env failed rows pair = false := by
        rw [hasTarget, htarget]
        rfl
      refine ⟨h.mediaBuys, h.packages, h.creatives, ?_, ?_, ?_, ?_, ?_⟩
      · rw [List.filter_append, List.filter_cons_of_neg (by rw [hno]; exact Bool.false_ne_true),
          List.filter_nil, List.append_nil]
        exact h.assigned
      · rw [List.filterMap_append, List.filterMap_cons, htarget, ← h.faults]
        rfl
      · intro earlier hearlier target hfound
        rcases List.mem_append.mp hearlier with hold | hnew
        · exact h.stored earlier hold target hfound
        · cases List.mem_singleton.mp hnew
          rw [htarget] at hfound
          cases hfound
      · intro key hkey
        exact h.others key fun earlier hearlier =>
          hkey earlier (List.mem_append_left _ hearlier)
      · intro mediaBuyId
        rw [h.reached]
        constructor
        · rintro ⟨earlier, hearlier, hrest⟩
          exact ⟨earlier, List.mem_append_left _ hearlier, hrest⟩
        · rintro ⟨earlier, hearlier, target, hfound, hid⟩
          rcases List.mem_append.mp hearlier with hold | hnew
          · exact ⟨earlier, hold, target, hfound, hid⟩
          · cases List.mem_singleton.mp hnew
            rw [htarget] at hfound
            cases hfound
  | ok target =>
      rw [htarget] at hpair
      dsimp only at hpair
      cases hstore : storeAssignment s.rows (env.pairRow pair.1 target pair.2.2) with
      | error err =>
          rw [hstore] at hpair
          cases hpair
      | ok stored =>
          rw [hstore] at hpair
          cases hpair
          obtain ⟨hbuys, hpackages, hcreatives⟩ := creatives_storeAssignment hstore
          have hkey : (env.pairRow pair.1 target pair.2.2).uniqueKey
              = some (env.pairKey pair.1 target) := rfl
          obtain ⟨hself, hothers⟩ := find_storeAssignment hkey hstore
          have hyes : hasTarget env failed rows pair = true := by
            rw [hasTarget, htarget]
            rfl
          refine ⟨hbuys.trans h.mediaBuys, hpackages.trans h.packages,
            hcreatives.trans h.creatives, ?_, ?_, ?_, ?_, ?_⟩
          · rw [List.filter_append, List.filter_cons_of_pos hyes, List.filter_nil,
              List.map_append, List.map_singleton, ← h.assigned,
              ← (packageId_of_assignTarget htarget).1]
          · rw [List.filterMap_append, List.filterMap_cons, htarget, ← h.faults]
            exact (List.append_nil _).symm
          · intro earlier hearlier target' hfound
            rcases List.mem_append.mp hearlier with hold | hnew
            · rw [hothers _ (pairKey_ne hfound htarget (hfresh earlier hold))]
              exact h.stored earlier hold target' hfound
            · cases List.mem_singleton.mp hnew
              rw [htarget] at hfound
              cases hfound
              exact hself
          · intro key hfree
            rw [hothers key (hfree pair (List.mem_append_right _ (List.mem_singleton.mpr rfl))
              target htarget).symm]
            exact h.others key fun earlier hearlier =>
              hfree earlier (List.mem_append_left _ hearlier)
          · intro mediaBuyId
            have hreached : mediaBuyId ∈ (if target.1 ∈ s.reached then s.reached
                else s.reached ++ [target.1]) ↔ mediaBuyId ∈ s.reached ∨ mediaBuyId = target.1 := by
              split_ifs with hin
              · exact ⟨.inl, fun hor => hor.elim id fun heq => heq ▸ hin⟩
              · rw [List.mem_append, List.mem_singleton]
            rw [hreached, h.reached]
            constructor
            · rintro (⟨earlier, hearlier, hrest⟩ | heq)
              · exact ⟨earlier, List.mem_append_left _ hearlier, hrest⟩
              · exact ⟨pair, List.mem_append_right _ (List.mem_singleton.mpr rfl), target, htarget,
                  heq.symm⟩
            · rintro ⟨earlier, hearlier, target', hfound, hid⟩
              rcases List.mem_append.mp hearlier with hold | hnew
              · exact .inl ⟨earlier, hold, target', hfound, hid⟩
              · cases List.mem_singleton.mp hnew
                rw [htarget] at hfound
                cases hfound
                exact .inr hid.symm

/-- The whole loop. -/
theorem stage_of_foldlM
    {pairs : List (String × String × AssignmentTerms)}
    (hnodup : (pairs.map fun pair => (pair.1, pair.2.1)).Nodup)
    (h : pairs.foldlM (CreativeSync.assignPair env failed) { rows := rows } = .ok s) :
    Stage env failed rows pairs s := by
  induction pairs using List.reverseRecOn generalizing s with
  | nil =>
      cases h
      exact .nil
  | append_singleton pairs pair ih =>
      rw [List.map_append, List.map_singleton] at hnodup
      obtain ⟨hpairs, -, hlast⟩ := List.nodup_append.mp hnodup
      rw [List.foldlM_append] at h
      cases hfold : pairs.foldlM (CreativeSync.assignPair env failed) { rows := rows } with
      | error err =>
          rw [hfold] at h
          cases h
      | ok middle =>
          rw [hfold] at h
          have hstep : CreativeSync.assignPair env failed middle pair = .ok s := by
            change (CreativeSync.assignPair env failed middle pair).bind pure = .ok s at h
            cases hpair : CreativeSync.assignPair env failed middle pair with
            | error err =>
                rw [hpair] at h
                cases h
            | ok next =>
                rw [hpair] at h
                cases h
                rfl
          refine (ih hpairs hfold).assignPair ?_ hstep
          intro earlier hearlier
          exact hlast _ (List.mem_map.mpr ⟨earlier, hearlier, rfl⟩) _ (List.mem_singleton.mpr rfl)

end Stages

section Settling

variable {env : SyncEnv} {failed : List String} {rows rows' rows'' : BuyRows}

/-- Buys were moved on from waiting, and nothing else was done. -/
structure Settles
    (env : SyncEnv)
    (rows rows' : BuyRows) : Prop where
  packages : rows'.packages = rows.packages
  creatives : rows'.creatives = rows.creatives
  assignments : rows'.assignments = rows.assignments
  buyIds : ∀ mediaBuyId, (rows'.getById env.tenantId mediaBuyId).map (·.mediaBuyId)
    = (rows.getById env.tenantId mediaBuyId).map (·.mediaBuyId)
  awaits : ∀ mediaBuyId, awaitsCreatives rows' env.tenantId mediaBuyId = true →
    awaitsCreatives rows env.tenantId mediaBuyId = true

theorem Settles.refl
    (rows : BuyRows) :
    Settles env rows rows :=
  ⟨rfl, rfl, rfl, fun _ => rfl, fun _ => id⟩

theorem Settles.trans
    (h : Settles env rows rows')
    (h' : Settles env rows' rows'') :
    Settles env rows rows'' where
  packages := h'.packages.trans h.packages
  creatives := h'.creatives.trans h.creatives
  assignments := h'.assignments.trans h.assignments
  buyIds := fun mediaBuyId => (h'.buyIds mediaBuyId).trans (h.buyIds mediaBuyId)
  awaits := fun mediaBuyId hawaits => h.awaits mediaBuyId (h'.awaits mediaBuyId hawaits)

/-- One buy is moved on, and does not wait then. -/
theorem settles_markPendingCreatives
    (rows : BuyRows)
    (mediaBuyId : String) :
    Settles env rows (markPendingCreatives env.tenantId mediaBuyId env.assignedAt rows rows)
      ∧ awaitsCreatives (markPendingCreatives env.tenantId mediaBuyId env.assignedAt rows rows)
        env.tenantId mediaBuyId = false := by
  rw [markPendingCreatives_eq]
  by_cases hawaits : awaitsCreatives rows env.tenantId mediaBuyId = true
  · rw [if_pos hawaits]
    have hmoved : awaitsCreatives (rows.modifyBuy env.tenantId mediaBuyId env.pendingChange)
        env.tenantId mediaBuyId = false := by
      rw [awaitsCreatives, BuyRows.getById_modifyBuy]
      cases rows.getById env.tenantId mediaBuyId with
      | none => rfl
      | some buy =>
          simp [SyncEnv.pendingChange, BuyRows.BuyChange.updateStatus, MediaBuy.updateStatus,
            MediaBuy.bumpRevision]
    refine ⟨⟨rfl, rfl, rfl, fun other => ?_, fun other hother => ?_⟩, hmoved⟩
    · by_cases hid : other = mediaBuyId
      · rw [hid, BuyRows.getById_modifyBuy, Option.map_map]
        congr 1
        funext buy
        exact env.pendingChange.mediaBuyId buy
      · rw [BuyRows.getById_modifyBuy_of_ne rows _ hid]
    · by_cases hid : other = mediaBuyId
      · rw [hid, hmoved] at hother
        cases hother
      · rw [awaitsCreatives, BuyRows.getById_modifyBuy_of_ne rows _ hid] at hother
        exact hother
  · rw [if_neg hawaits]
    exact ⟨.refl rows, Bool.eq_false_iff.mpr hawaits⟩

/-- After buys were settled, none of them waits. -/
theorem settles_foldl
    (ids : List String)
    (rows : BuyRows) :
    Settles env rows (ids.foldl (fun rows mediaBuyId =>
        markPendingCreatives env.tenantId mediaBuyId env.assignedAt rows rows) rows)
      ∧ ∀ mediaBuyId ∈ ids, awaitsCreatives (ids.foldl (fun rows mediaBuyId =>
        markPendingCreatives env.tenantId mediaBuyId env.assignedAt rows rows) rows)
        env.tenantId mediaBuyId = false := by
  induction ids generalizing rows with
  | nil => exact ⟨.refl rows, fun mediaBuyId h => absurd h List.not_mem_nil⟩
  | cons id ids ih =>
      obtain ⟨hfirst, hgone⟩ := @settles_markPendingCreatives env rows id
      obtain ⟨hrest, hall⟩ := ih (markPendingCreatives env.tenantId id env.assignedAt rows rows)
      refine ⟨hfirst.trans hrest, List.forall_mem_cons.mpr ⟨?_, hall⟩⟩
      rw [Bool.eq_false_iff]
      intro hawaits
      rw [hrest.awaits id hawaits] at hgone
      cases hgone

theorem foldl_markPendingCreatives_idle
    {ids : List String}
    (h : ∀ mediaBuyId ∈ ids, awaitsCreatives rows env.tenantId mediaBuyId = false) :
    ids.foldl (fun rows mediaBuyId =>
      markPendingCreatives env.tenantId mediaBuyId env.assignedAt rows rows) rows = rows := by
  induction ids with
  | nil => rfl
  | cons id ids ih =>
      obtain ⟨hfirst, hrest⟩ := List.forall_mem_cons.mp h
      rw [List.foldl_cons, markPendingCreatives, hfirst, if_neg Bool.false_ne_true]
      exact ih hrest

/-- A pair is assigned alike after buys were settled. -/
theorem Settles.assignTarget
    (h : Settles env rows rows')
    (creativeId packageId : String) :
    CreativeSync.assignTarget env failed rows' creativeId packageId
      = CreativeSync.assignTarget env failed rows creativeId packageId := by
  have hfound : (rows'.findPackageWithMediaBuy env.tenantId packageId).map
        (fun found => (found.1, found.2.mediaBuyId))
      = (rows.findPackageWithMediaBuy env.tenantId packageId).map
        (fun found => (found.1, found.2.mediaBuyId)) := by
    rw [BuyRows.findPackageWithMediaBuy, BuyRows.findPackageWithMediaBuy, h.packages,
      List.map_findSome?, List.map_findSome?]
    congr 1
    funext package
    dsimp only [Function.comp_apply]
    by_cases hid : package.packageId = packageId
    · rw [if_pos hid, if_pos hid, Option.map_map, Option.map_map]
      have hbuy := congrArg (Option.map fun id => (package, id)) (h.buyIds package.mediaBuyId)
      rw [Option.map_map, Option.map_map] at hbuy
      exact hbuy
    · rw [if_neg hid, if_neg hid]
  rw [CreativeSync.assignTarget, CreativeSync.assignTarget, h.creatives]
  cases hfirst : rows.findPackageWithMediaBuy env.tenantId packageId with
  | none =>
      rw [hfirst, Option.map_none, Option.map_eq_none_iff] at hfound
      rw [hfound]
  | some found =>
      rw [hfirst, Option.map_some] at hfound
      obtain ⟨found', hsecond, heq⟩ := Option.map_eq_some_iff.mp hfound
      obtain ⟨hpackage, hbuy⟩ := Prod.mk.inj heq
      rw [hsecond]
      dsimp only
      rw [hpackage, hbuy]

theorem foldlM_assignPair_ok
    {pairs : List (String × String × AssignmentTerms)}
    (hnodup : (pairs.map fun pair => (pair.1, pair.2.1)).Nodup)
    (hown : ∀ pair ∈ pairs, ∀ target,
      CreativeSync.assignTarget env failed rows pair.1 pair.2.1 = .ok target →
      ∃ row, rows.assignments.find (env.pairKey pair.1 target) = some row
        ∧ row.principalId = env.principalId) :
    ∃ s, pairs.foldlM (CreativeSync.assignPair env failed) { rows := rows } = .ok s := by
  induction pairs using List.reverseRecOn with
  | nil => exact ⟨_, rfl⟩
  | append_singleton pairs pair ih =>
      have hboth := hnodup
      rw [List.map_append, List.map_singleton] at hboth
      obtain ⟨hpairs, -, hlast⟩ := List.nodup_append.mp hboth
      obtain ⟨middle, hfold⟩ := ih hpairs fun earlier hearlier =>
        hown earlier (List.mem_append_left _ hearlier)
      have hstage := stage_of_foldlM hpairs hfold
      have hmem : pair ∈ pairs ++ [pair] := List.mem_append_right _ (List.mem_singleton.mpr rfl)
      rw [List.foldlM_append, hfold]
      change ∃ s, (CreativeSync.assignPair env failed middle pair).bind pure = .ok s
      rw [CreativeSync.assignPair, hstage.target]
      cases htarget : CreativeSync.assignTarget env failed rows pair.1 pair.2.1 with
      | error fault => exact ⟨_, rfl⟩
      | ok target =>
          obtain ⟨row, hrow, hprincipal⟩ := hown pair hmem target htarget
          have hfree : middle.rows.assignments.find (env.pairKey pair.1 target) = some row := by
            rw [hstage.others, hrow]
            intro earlier hearlier target' htarget'
            exact pairKey_ne htarget' htarget
              (hlast _ (List.mem_map.mpr ⟨earlier, hearlier, rfl⟩) _ (List.mem_singleton.mpr rfl))
          obtain ⟨stored, hstore⟩ := @storeAssignment_own middle.rows
            (env.pairRow pair.1 target pair.2.2) row hfree hprincipal
          dsimp only
          rw [hstore]
          exact ⟨_, rfl⟩

end Settling

end CreativeSync
end SalesAgent
