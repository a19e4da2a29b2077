import SalesAgent.CreativeSync.Isolation
import Mathlib.Data.Fintype.EquivFin

/-!
# A package id that another principal uses

Package ids are unique within a buy only, so another principal of the tenant may have a
package of any id.  Whenever a request assigns a creative, the outcome then depends on
whether someone else has that package: with it, the assignment is made there, or refused
because an assignment of the same creative id is already there.

**Results.**
* `syncCreatives_isolated`: isolation where no other principal has what the request names.
* `assignment_isolation_iff`: for a request alone, isolation holds exactly where the
  request assigns nothing.
-/

namespace SalesAgent
namespace CreativeSync

open MediaBuys (BuyRows Creative CreativeAssignment MediaBuy MediaPackage Product)
open TwoRuns (Alike)

section Request

variable {env : SyncEnv} {req : SyncCreativesRequest} {store store' : SyncStore}

/-- What the caller sees of an outcome: the response and the caller's rows. -/
structure SameOutcome
    (env : SyncEnv)
    (out out' : SyncOutcome) : Prop where
  response : out.response = out'.response
  rows : SameView env out.store out'.store

theorem SameRows.onlyCreatives
    {s s' : SyncStore}
    (h : SameRows env store.rows store'.rows)
    (hs : OnlyCreatives store s)
    (hs' : OnlyCreatives store' s') :
    SameRows env s.rows s'.rows := by
  obtain ⟨_, rfl⟩ := hs
  obtain ⟨_, rfl⟩ := hs'
  exact ⟨h.buys, h.packages, h.assignments⟩

theorem Unshared.onlyCreatives
    {entries : List AssignmentEntry} {s : SyncStore}
    (h : Unshared env entries store.rows)
    (hs : OnlyCreatives store s) :
    Unshared env entries s.rows := by
  obtain ⟨_, rfl⟩ := hs
  exact ⟨h.packages, h.assignments⟩

theorem find_creatives_of_same
    {s s' : SyncStore}
    (h : s.library.part env.ownsCreative = s'.library.part env.ownsCreative)
    (creativeId : String) :
    s.rows.creatives.find (env.creativeKey creativeId) =
      s'.rows.creatives.find (env.creativeKey creativeId) := by
  rw [s.find_creatives, s'.find_creatives, find_creativeKey h creativeId]

theorem syncCreatives_alike
    (h : SameView env store store')
    (hstage : ∀ s s', syncLibrary env req store = .ok s → syncLibrary env req store' = .ok s' →
      SameCreatives env s s' →
      Alike (fun r r' => SameRows env r.1 r'.1 ∧ r.2 = r'.2)
        (processAssignments env req.strict req.assignments s.results s.store.rows)
        (processAssignments env req.strict req.assignments s'.results s'.store.rows)) :
    SameOutcome env (syncCreatives env req store) (syncCreatives env req store') := by
  have hlibrary := syncLibrary_alike h.creatives req
  unfold syncCreatives
  cases hs : syncLibrary env req store with
  | error err =>
      rw [hs] at hlibrary
      rw [hlibrary.error_left]
      exact ⟨rfl, h⟩
  | ok s =>
      rw [hs] at hlibrary
      obtain ⟨s', hs', hsame⟩ := hlibrary.ok_left
      have halike := hstage s s' hs hs' hsame
      have hrows := h.toSameRows.onlyCreatives (syncLibrary_onlyCreatives hs)
        (syncLibrary_onlyCreatives hs')
      rw [hs']
      simp only
      cases hassign : processAssignments env req.strict req.assignments s.results s.store.rows with
      | error err =>
          rw [hassign] at halike
          rw [halike.error_left]
          refine ⟨rfl, ?_⟩
          simp only
          split
          · exact h
          · exact ⟨hrows, hsame.creatives⟩
      | ok outcome =>
          rw [hassign] at halike
          obtain ⟨outcome', hassign', hsettled, hresults⟩ := halike.ok_left
          rw [hassign']
          refine ⟨congrArg Except.ok hresults, ?_⟩
          simp only
          split
          · exact h
          · exact ⟨⟨hsettled.buys, hsettled.packages, hsettled.assignments⟩, hsame.creatives⟩

/-- A request writes on the caller's packages only, where its assignment stage does. -/
theorem syncCreatives_confined
    (hstage : ∀ s rows results, syncLibrary env req store = .ok s →
      processAssignments env req.strict req.assignments s.results s.store.rows =
        .ok (rows, results) →
      Confined env s.store.rows rows) :
    Confined env store.rows (syncCreatives env req store).store.rows := by
  unfold syncCreatives
  cases hs : syncLibrary env req store with
  | error err => exact .refl _
  | ok s =>
      obtain ⟨library, hstore⟩ := syncLibrary_onlyCreatives hs
      simp only
      cases hassign : processAssignments env req.strict req.assignments s.results s.store.rows with
      | error err =>
          simp only
          split
          · exact .refl _
          · rw [hstore]
            exact ⟨fun _ ha hnew => absurd ha hnew, fun _ hne => absurd rfl hne⟩
      | ok outcome =>
          simp only
          split
          · exact .refl _
          · have hconfined := hstage s outcome.1 outcome.2 hs hassign
            rw [hstore] at hconfined
            exact ⟨hconfined.assignments, hconfined.buys⟩

/-- A request writes and reveals no row of another principal, where no other principal
has a package, or an assignment on the caller's package, that the request names. -/
theorem syncCreatives_isolated
    (h : SameView env store store')
    (hunshared : Unshared env req.assignments store.rows)
    (hunshared' : Unshared env req.assignments store'.rows) :
    Confined env store.rows (syncCreatives env req store).store.rows ∧
      SameOutcome env (syncCreatives env req store) (syncCreatives env req store') := by
  refine ⟨syncCreatives_confined (fun s rows results hs hassign => ?_),
    syncCreatives_alike h (fun s s' hs hs' hsame => ?_)⟩
  · exact processAssignments_confined
      (hunshared.onlyCreatives (syncLibrary_onlyCreatives hs)) hassign
  · rw [← hsame.results]
    exact processAssignments_alike
      (h.toSameRows.onlyCreatives (syncLibrary_onlyCreatives hs) (syncLibrary_onlyCreatives hs'))
      (find_creatives_of_same hsame.creatives)
      (hunshared.onlyCreatives (syncLibrary_onlyCreatives hs))
      (hunshared'.onlyCreatives (syncLibrary_onlyCreatives hs'))

end Request

section Nothing

variable (env : SyncEnv)

/-- The stage comes to a creative of the caller that did not fail: in strict mode, before
any creative that is not on file. -/
def assignsSomething
    (strict : Bool)
    (failed : List String)
    (known : String → Bool) : AssignmentMap → Bool
  | [] => false
  | entry :: rest =>
      if entry.1 ∈ failed then assignsSomething strict failed known rest
      else if known entry.1 then true
      else if strict then false
      else assignsSomething strict failed known rest

/-- The creatives of the caller the assignment stage finds. -/
def creativeOnFile
    (rows : BuyRows) : String → Bool :=
  fun creativeId => (rows.creatives.find (env.creativeKey creativeId)).isSome

/-- The request assigns nothing to any package. -/
def AssignsNothing
    (req : SyncCreativesRequest)
    (store : SyncStore) : Prop :=
  ∀ s, syncLibrary env req store = .ok s →
    assignsSomething req.strict (failedIds s.results) (creativeOnFile env s.store.rows)
      (normaliseAssignments req.assignments) = false

/-- The request of the caller has nothing to do with other principals' rows: it writes
on packages and buys of the caller only, and every store with the same rows of the caller
gives the same response and the same rows of the caller. -/
structure IsolatedFor
    (req : SyncCreativesRequest)
    (store : SyncStore) : Prop where
  confined : Confined env store.rows (syncCreatives env req store).store.rows
  same : ∀ store', SameView env store store' →
    SameOutcome env (syncCreatives env req store) (syncCreatives env req store')

end Nothing

section Idle

variable {env : SyncEnv} {strict : Bool} {failed : List String} {map : AssignmentMap}

theorem idle_of_not_assignsSomething
    (env : SyncEnv)
    {known : String → Bool}
    (h : assignsSomething strict failed known map = false) :
    (∃ err, ∀ s, creativeOnFile env s.rows = known →
        map.foldlM (assignCreative env strict failed) s = .error err) ∨
      ∃ faults, ∀ s, creativeOnFile env s.rows = known →
        map.foldlM (assignCreative env strict failed) s =
          .ok { s with faults := s.faults ++ faults } := by
  induction map with
  | nil =>
      refine .inr ⟨[], fun s _ => ?_⟩
      simp only [List.append_nil]
      rfl
  | cons entry rest ih =>
      unfold assignsSomething at h
      -- a creative that failed or is not on file leaves its faults and nothing else
      have hskip : ∀ entryFaults : List (String × String × AssignmentFault),
          (∀ s, creativeOnFile env s.rows = known →
            assignCreative env strict failed s entry =
              .ok { s with faults := s.faults ++ entryFaults }) →
          assignsSomething strict failed known rest = false →
          (∃ err, ∀ s, creativeOnFile env s.rows = known →
              (entry :: rest).foldlM (assignCreative env strict failed) s = .error err) ∨
            ∃ faults, ∀ s, creativeOnFile env s.rows = known →
              (entry :: rest).foldlM (assignCreative env strict failed) s =
                .ok { s with faults := s.faults ++ faults } := by
        intro entryFaults hentry hrest
        rcases ih hrest with ⟨err, htail⟩ | ⟨faults, htail⟩
        · refine .inl ⟨err, fun s hs => ?_⟩
          rw [List.foldlM_cons, hentry s hs]
          exact htail { s with faults := s.faults ++ entryFaults } hs
        · refine .inr ⟨entryFaults ++ faults, fun s hs => ?_⟩
          rw [List.foldlM_cons, hentry s hs]
          have hdone := htail { s with faults := s.faults ++ entryFaults } hs
          rw [List.append_assoc] at hdone
          exact hdone
      split at h
      · next hfailed =>
          refine hskip (entry.2.map (fun p => (entry.1, p.1, .notSynced))) (fun s _ => ?_) h
          rw [assignCreative, if_pos hfailed]
      · next hfailed =>
          split at h
          · cases h
          · next hunknown =>
              have hmissing : ∀ s : AssignState, creativeOnFile env s.rows = known →
                  s.rows.creatives.find (env.creativeKey entry.1) = none := by
                intro s hs
                have hnone : creativeOnFile env s.rows entry.1 = false := by
                  rw [hs]
                  exact Bool.eq_false_iff.mpr hunknown
                simpa [creativeOnFile] using hnone
              split at h
              · next hstrict =>
                  refine .inl ⟨⟨.creativeNotFound, some "assignments"⟩, fun s hs => ?_⟩
                  rw [List.foldlM_cons, assignCreative, if_neg hfailed, hmissing s hs, hstrict]
                  rfl
              · next hlenient =>
                  refine hskip (entry.2.map (fun p => (entry.1, p.1, .creativeNotFound)))
                    (fun s hs => ?_) h
                  rw [assignCreative, if_neg hfailed, hmissing s hs]
                  simp only [hlenient, if_false, Bool.false_eq_true]

theorem processAssignments_idle
    (env : SyncEnv)
    {entries : List AssignmentEntry} {results : List SyncCreativeResult} {known : String → Bool}
    (h : assignsSomething strict (failedIds results) known (normaliseAssignments entries) = false) :
    (∃ err, ∀ rows, creativeOnFile env rows = known →
        processAssignments env strict entries results rows = .error err) ∨
      ∃ results', ∀ rows, creativeOnFile env rows = known →
        processAssignments env strict entries results rows = .ok (rows, results') := by
  rcases idle_of_not_assignsSomething env h with ⟨err, hfold⟩ | ⟨faults, hfold⟩
  · refine .inl ⟨err, fun rows hrows => ?_⟩
    simp only [processAssignments, hfold { rows := rows } hrows]
  · refine .inr ⟨finishResults (normaliseAssignments entries) { rows := .empty, faults := faults }
      results, fun rows hrows => ?_⟩
    simp only [processAssignments, hfold { rows := rows } hrows]
    rfl

end Idle

section First

variable {env : SyncEnv} {strict : Bool} {failed : List String} {map : AssignmentMap}

theorem exists_first_package
    {known : String → Bool}
    (h : assignsSomething strict failed known map = true)
    (hne : ∀ entry ∈ map, entry.2 ≠ []) :
    ∃ entry ∈ map, ∃ first ∈ entry.2, ∀ s err, creativeOnFile env s.rows = known →
      (∀ creative faults, assignPackage env strict entry.1 creative
        { s with faults := faults } first = .error err) →
      map.foldlM (assignCreative env strict failed) s = .error err := by
  induction map with
  | nil => cases h
  | cons entry rest ih =>
      have htail : ∀ entry' ∈ rest, entry'.2 ≠ [] :=
        fun entry' hentry' => hne entry' (List.mem_cons_of_mem _ hentry')
      unfold assignsSomething at h
      split at h
      · next hfailed =>
          obtain ⟨entry', hentry', first, hfirst, hends⟩ := ih h htail
          refine ⟨entry', List.mem_cons_of_mem _ hentry', first, hfirst, fun s err hs herr => ?_⟩
          rw [List.foldlM_cons, assignCreative, if_pos hfailed]
          exact hends { s with faults := s.faults ++ _ } err hs herr
      · next hfailed =>
          split at h
          · next hknown =>
              obtain ⟨first, others, hpackages⟩ :=
                List.exists_cons_of_ne_nil (hne entry List.mem_cons_self)
              refine ⟨entry, List.mem_cons_self, first, hpackages ▸ List.mem_cons_self,
                fun s err hs herr => ?_⟩
              have hfound : creativeOnFile env s.rows entry.1 = true := by
                rw [hs]
                exact hknown
              obtain ⟨creative, hcreative⟩ := Option.isSome_iff_exists.mp hfound
              rw [List.foldlM_cons, assignCreative, if_neg hfailed, hcreative]
              simp only
              rw [hpackages, List.foldlM_cons, herr creative s.faults]
              rfl
          · next hunknown =>
              split at h
              · cases h
              · next hlenient =>
                  obtain ⟨entry', hentry', first, hfirst, hends⟩ := ih h htail
                  refine ⟨entry', List.mem_cons_of_mem _ hentry', first, hfirst,
                    fun s err hs herr => ?_⟩
                  have hmissing : s.rows.creatives.find (env.creativeKey entry.1) = none := by
                    have hnone : creativeOnFile env s.rows entry.1 = false := by
                      rw [hs]
                      exact Bool.eq_false_iff.mpr hunknown
                    simpa [creativeOnFile] using hnone
                  rw [List.foldlM_cons, assignCreative, if_neg hfailed, hmissing]
                  simp only
                  rw [if_neg hlenient]
                  exact hends { s with faults := s.faults ++ _ } err hs herr

end First

section Own

variable {env : SyncEnv}

/-- The rows of the caller and no others. -/
def ownRows
    (env : SyncEnv)
    (rows : BuyRows) : BuyRows where
  mediaBuys := rows.mediaBuys.deleteWhere (fun b => ! env.ownsBuy b)
  packages := rows.packages.deleteWhere (fun p => ! env.ownsPackage rows p)
  creatives := rows.creatives
  assignments := rows.assignments.deleteWhere (fun a => ! env.ownsAssignment a)
  packagesOwned := by
    intro p hp
    have hown : env.ownsPackage rows p = true := by
      simpa using ((IndexedTable.mem_deleteWhere _ _ _).mp hp).2
    unfold SyncEnv.ownsPackage SyncEnv.ownsBuyId at hown
    cases hbuy : rows.getById env.tenantId p.mediaBuyId with
    | none => simp [hbuy] at hown
    | some b =>
        have howned : env.ownsBuy b = true := by simpa [hbuy] using hown
        rw [IndexedTable.find_deleteWhere_of_keep (BuyRows.getById_eq_some hbuy).1
          (by simp [howned])]
        rfl

theorem ownsBuyId_ownRows
    (rows : BuyRows)
    (mediaBuyId : String) :
    env.ownsBuyId (ownRows env rows) mediaBuyId = env.ownsBuyId rows mediaBuyId := by
  unfold SyncEnv.ownsBuyId BuyRows.getById ownRows
  cases hfind : rows.mediaBuys.find mediaBuyId with
  | none =>
      have hnone : (rows.mediaBuys.deleteWhere (fun b => ! env.ownsBuy b)).find mediaBuyId = none := by
        refine (IndexedTable.find_eq_none_iff _).mpr (fun b hb => ?_)
        exact (IndexedTable.find_eq_none_iff _).mp hfind b ((IndexedTable.mem_deleteWhere _ _ _).mp hb).1
      simp [hnone]
  | some b =>
      by_cases hown : env.ownsBuy b = true
      · rw [IndexedTable.find_deleteWhere_of_keep hfind (by simp [hown])]
      · have hnone : (rows.mediaBuys.deleteWhere (fun b => ! env.ownsBuy b)).find mediaBuyId =
            none := by
          refine (IndexedTable.find_eq_none_iff _).mpr (fun b' hb' hkey => ?_)
          obtain ⟨hmem, hkeep⟩ := (IndexedTable.mem_deleteWhere _ _ _).mp hb'
          have hsame := IndexedTable.eq_of_key_eq _ hmem
            ((IndexedTable.find_eq_some_iff _).mp hfind).1 hkey
            ((IndexedTable.find_eq_some_iff _).mp hfind).2
          rw [hsame] at hkeep
          exact hown (by simpa using hkeep)
        have hforeign : env.ownsBuy b = false := Bool.eq_false_iff.mpr hown
        simp only [hnone, Option.filter_none, Option.any_none]
        cases hfilter : Option.filter (fun b => decide (b.tenantId = env.tenantId)) (some b) with
        | none => rfl
        | some b' =>
            have hb' := (Option.filter_eq_some_iff.mp hfilter).1
            cases hb'
            simp [hforeign]

theorem sameRows_ownRows
    (env : SyncEnv)
    (rows : BuyRows) :
    SameRows env rows (ownRows env rows) := by
  refine ⟨?_, ?_, ?_⟩
  · exact (IndexedTable.part_deleteWhere_not _ _).symm
  · have howner : env.ownsPackage (ownRows env rows) = env.ownsPackage rows := by
      funext p
      exact ownsBuyId_ownRows rows p.mediaBuyId
    rw [howner]
    exact (IndexedTable.part_deleteWhere_not _ _).symm
  · exact (IndexedTable.part_deleteWhere_not _ _).symm

/-- The store with the caller's buys, packages and assignments only. -/
def ownStore
    (env : SyncEnv)
    (s : SyncStore) : SyncStore where
  library := s.library
  rows := ownRows env s.rows
  coherent := s.coherent

theorem sameView_ownStore
    (env : SyncEnv)
    (s : SyncStore) :
    SameView env s (ownStore env s) :=
  ⟨sameRows_ownRows env s.rows, rfl⟩

/-- Every assignment is the caller's. -/
def AllOwn
    (env : SyncEnv)
    (s : AssignState) : Prop :=
  ∀ a ∈ s.rows.assignments, env.ownsAssignment a = true

theorem ownsAssignment_newAssignment
    (buy : MediaBuy)
    (package : MediaPackage)
    (creativeId : String)
    (weight : Int)
    (placementIds : Option (List String)) :
    env.ownsAssignment (env.newAssignment buy package creativeId weight placementIds) = true := by
  simp [SyncEnv.ownsAssignment, SyncEnv.newAssignment]

theorem AllOwn.assignPackage
    {s s' : AssignState} {strict : Bool} {creativeId : String} {creative : Creative}
    {entry : String × AssignmentTerms}
    (hs : AllOwn env s)
    (h : assignPackage env strict creativeId creative s entry = .ok s') :
    AllOwn env s' := by
  unfold CreativeSync.assignPackage at h
  simp only [AssignState.fault] at h
  split at h
  · split at h
    · cases h
    · cases h
      exact hs
  · split at h
    · split at h
      · cases h
      · cases h
        exact hs
    · split at h
      · cases h
      · next hstore =>
          cases h
          obtain ⟨assignments, rfl, hmem⟩ := storeAssignment_eq_ok hstore
          intro a ha
          rcases hmem a ha with rfl | hold
          · exact ownsAssignment_newAssignment _ _ _ _ _
          · exact hs a hold

theorem AllOwn.assignCreative
    {s s' : AssignState} {strict : Bool} {failed : List String}
    {entry : String × List (String × AssignmentTerms)}
    (hs : AllOwn env s)
    (h : assignCreative env strict failed s entry = .ok s') :
    AllOwn env s' := by
  unfold CreativeSync.assignCreative at h
  split at h
  · cases h
    exact hs
  · split at h
    · split at h
      · cases h
      · cases h
        exact hs
    · next creative _ =>
      have hpreserved : Runs.Preserved
          (Runs.FoldStep (CreativeSync.assignPackage env strict entry.1 creative)) (AllOwn env) :=
        fun _ _ _ hstep hst => hst.assignPackage hstep
      exact (Runs.run_of_foldlM h).preserves hpreserved hs

theorem AllOwn.storeAssignment_ne_error
    {rows : BuyRows} {a : CreativeAssignment} {err : SyncError}
    (hrows : ∀ x ∈ rows.assignments, env.ownsAssignment x = true)
    (hown : env.ownsAssignment a = true) :
    storeAssignment rows a ≠ .error err := by
  intro h
  unfold storeAssignment at h
  simp only at h
  split at h
  · cases h
  · next hother =>
      split at h
      · next hrefused =>
          have hkey : a.uniqueKey = some (a.tenantId, a.creativeId, a.mediaBuyId, a.packageId) := rfl
          have htaken := (IndexedTable.conflicts_iff_find _ hkey).mp
            ((IndexedTable.insert_eq_none_iff _).mp hrefused)
          obtain ⟨x, hx⟩ := Option.isSome_iff_exists.mp htaken
          have hxown := hrows x ((IndexedTable.find_eq_some_iff _).mp hx).1
          simp only [SyncEnv.ownsAssignment, decide_eq_true_eq] at hxown hown
          rw [hx] at hother
          simp [hxown.2, hown.2] at hother
      · cases h

theorem AllOwn.assignPackage_ne_internal
    {s : AssignState} {strict : Bool} {creativeId : String} {creative : Creative}
    {entry : String × AssignmentTerms}
    (hs : AllOwn env s) :
    CreativeSync.assignPackage env strict creativeId creative s entry ≠
      .error ⟨.internalError, none⟩ := by
  intro h
  unfold CreativeSync.assignPackage at h
  simp only [AssignState.fault] at h
  split at h
  · split at h
    · cases h
    · cases h
  · split at h
    · split at h
      · cases h
      · cases h
    · split at h
      · next hstore =>
          exact AllOwn.storeAssignment_ne_error hs (ownsAssignment_newAssignment _ _ _ _ _) hstore
      · cases h

theorem AllOwn.assignCreative_ne_internal
    {s : AssignState} {strict : Bool} {failed : List String}
    {entry : String × List (String × AssignmentTerms)}
    (hs : AllOwn env s) :
    CreativeSync.assignCreative env strict failed s entry ≠ .error ⟨.internalError, none⟩ := by
  intro h
  unfold CreativeSync.assignCreative at h
  split at h
  · cases h
  · split at h
    · split at h
      · cases h
      · cases h
    · obtain ⟨done, last, u, hrun, -, hfail⟩ := Runs.exists_step_of_foldlM_error h
      have hu : AllOwn env u := hrun.preserves (fun _ _ _ hstep hst => hst.assignPackage hstep) hs
      exact hu.assignPackage_ne_internal hfail

/-- Among assignments of the caller only, the stage meets no internal error. -/
theorem processAssignments_ne_internal
    {rows : BuyRows} {strict : Bool} {entries : List AssignmentEntry}
    {results : List SyncCreativeResult}
    (hrows : ∀ a ∈ rows.assignments, env.ownsAssignment a = true) :
    processAssignments env strict entries results rows ≠ .error ⟨.internalError, none⟩ := by
  intro h
  unfold processAssignments at h
  simp only at h
  split at h
  · next hfold =>
      cases h
      obtain ⟨done, last, u, hrun, -, hfail⟩ := Runs.exists_step_of_foldlM_error hfold
      have hu : AllOwn env u :=
        hrun.preserves (fun _ _ _ hstep hst => hst.assignCreative hstep) hrows
      exact hu.assignCreative_ne_internal hfail
  · cases h

end Own

section Foreign

variable (env : SyncEnv) (mediaBuyId packageId creativeId : String)

/-- Another principal of the tenant. -/
def SyncEnv.otherPrincipal : String :=
  env.principalId ++ "'"

theorem otherPrincipal_ne :
    env.otherPrincipal ≠ env.principalId := by
  intro h
  have hlength := congrArg String.length h
  simp [SyncEnv.otherPrincipal, String.length_append] at hlength

/-- A buy of the other principal. -/
def foreignBuy : MediaBuy where
  mediaBuyId := mediaBuyId
  tenantId := env.tenantId
  principalId := env.otherPrincipal
  accountId := none
  idempotencyKey := none
  currency := none
  startDate := 0
  endDate := 0
  startTime := none
  endTime := none
  status := .draft
  isPaused := false
  revision := 1
  confirmedAt := none
  approvedAt := none
  approvedBy := none
  createdAt := 0

/-- A package of that buy, of no product. -/
def foreignPackage : MediaPackage where
  mediaBuyId := mediaBuyId
  packageId := packageId
  budget := none
  config := ⟨none, none, none, none, none⟩

/-- A creative of the other principal. -/
def foreignCreative : CreativeRow where
  creativeId := creativeId
  tenantId := env.tenantId
  principalId := env.otherPrincipal
  format := none
  status := .approved
  createdAt := 0
  updatedAt := none
  name := creativeId
  agentUrl := ""
  formatId := ""
  formatParameters := none
  data := {}

/-- Its assignment to that package. -/
def foreignAssignment : CreativeAssignment where
  tenantId := env.tenantId
  principalId := env.otherPrincipal
  mediaBuyId := mediaBuyId
  packageId := packageId
  creativeId := creativeId
  weight := 100
  placementIds := none

variable {mediaBuyId} in
theorem find_put_foreignBuy_of_ne
    (t : IndexedTable MediaBuy String MediaBuy.primaryKey)
    {id : String}
    (hne : id ≠ mediaBuyId) :
    (t.put (foreignBuy env mediaBuyId)).find id = t.find id :=
  t.find_put_of_ne (fun heq => hne (Option.some.inj heq).symm)

theorem find_put_foreignBuy_self
    (t : IndexedTable MediaBuy String MediaBuy.primaryKey) :
    (t.put (foreignBuy env mediaBuyId)).find mediaBuyId = some (foreignBuy env mediaBuyId) :=
  t.find_put_self rfl

theorem toCreative_key
    (row : CreativeRow) :
    row.toCreative.primaryKey = row.primaryKey :=
  rfl

/-- The caller's rows together with a buy of the other principal that has the package,
with a creative of the same id assigned to it. -/
def collisionStore
    (s : SyncStore) : SyncStore where
  library := s.library.put (foreignCreative env creativeId)
  rows :=
    { mediaBuys := (ownRows env s.rows).mediaBuys.put (foreignBuy env mediaBuyId)
      packages := (ownRows env s.rows).packages.put (foreignPackage mediaBuyId packageId)
      creatives := (s.library.put (foreignCreative env creativeId)).map
        CreativeRow.toCreative toCreative_key
      assignments := (ownRows env s.rows).assignments.put
        (foreignAssignment env mediaBuyId packageId creativeId)
      packagesOwned := by
        intro p hp
        by_cases hid : p.mediaBuyId = mediaBuyId
        · rw [hid, find_put_foreignBuy_self]
          rfl
        · have hold : p ∈ (ownRows env s.rows).packages := by
            rcases (IndexedTable.mem_put _).mp hp with rfl | hold
            · exact absurd rfl hid
            · exact hold.1
          rw [find_put_foreignBuy_of_ne env _ hid]
          exact (ownRows env s.rows).packagesOwned p hold }
  coherent := rfl

/-- The id names no buy of the caller, and no assignment of the caller is on it. -/
structure FreshBuyId
    (rows : BuyRows) : Prop where
  buys : ∀ b ∈ rows.mediaBuys, b.mediaBuyId ≠ mediaBuyId
  packages : ∀ p ∈ rows.packages, p.mediaBuyId ≠ mediaBuyId
  assignments : ∀ a ∈ rows.assignments, a.mediaBuyId ≠ mediaBuyId

theorem exists_freshBuyId
    (rows : BuyRows) :
    ∃ mediaBuyId, FreshBuyId mediaBuyId rows := by
  obtain ⟨mediaBuyId, hfresh⟩ := Infinite.exists_notMem_finset
    (rows.mediaBuys.rows.map (·.mediaBuyId) ++ rows.packages.rows.map (·.mediaBuyId) ++
      rows.assignments.rows.map (·.mediaBuyId)).toFinset
  simp only [List.mem_toFinset, List.mem_append, not_or, List.mem_map, not_exists, not_and] at hfresh
  exact ⟨mediaBuyId, fun b hb => hfresh.1.1 b hb, fun p hp => hfresh.1.2 p hp,
    fun a ha => hfresh.2 a ha⟩

variable {env mediaBuyId packageId creativeId}

theorem ownsCreative_foreignCreative :
    env.ownsCreative (foreignCreative env creativeId) = false := by
  simp [SyncEnv.ownsCreative, foreignCreative, otherPrincipal_ne env]

theorem ownsBuy_foreignBuy :
    env.ownsBuy (foreignBuy env mediaBuyId) = false := by
  simp [SyncEnv.ownsBuy, foreignBuy, otherPrincipal_ne env]

theorem ownsAssignment_foreignAssignment :
    env.ownsAssignment (foreignAssignment env mediaBuyId packageId creativeId) = false := by
  simp [SyncEnv.ownsAssignment, foreignAssignment, otherPrincipal_ne env]

theorem getById_collisionStore
    (s : SyncStore)
    {id : String}
    (hne : id ≠ mediaBuyId) :
    (collisionStore env mediaBuyId packageId creativeId s).rows.getById env.tenantId id =
      (ownRows env s.rows).getById env.tenantId id := by
  unfold BuyRows.getById collisionStore
  simp only
  rw [find_put_foreignBuy_of_ne env _ hne]

/-- The caller's rows are the same beside the collision. -/
theorem sameView_collisionStore
    (packageId creativeId : String)
    {s : SyncStore}
    (hfresh : FreshBuyId mediaBuyId (ownRows env s.rows)) :
    SameView env s (collisionStore env mediaBuyId packageId creativeId s) := by
  have hown := sameRows_ownRows env s.rows
  refine ⟨⟨?_, ?_, ?_⟩, ?_⟩
  · rw [hown.buys]
    refine (IndexedTable.part_put_of_not _ ownsBuy_foreignBuy (fun b hb _ heq => ?_)).symm
    exact hfresh.buys b hb (Option.some.inj heq)
  · rw [hown.packages]
    have hnew : env.ownsPackage (collisionStore env mediaBuyId packageId creativeId s).rows
        (foreignPackage mediaBuyId packageId) = false := by
      have hbuy : (collisionStore env mediaBuyId packageId creativeId s).rows.getById env.tenantId
          mediaBuyId = some (foreignBuy env mediaBuyId) := by
        unfold BuyRows.getById collisionStore
        simp only
        rw [find_put_foreignBuy_self]
        simp [foreignBuy, Option.filter]
      simp [SyncEnv.ownsPackage, SyncEnv.ownsBuyId, foreignPackage, hbuy, ownsBuy_foreignBuy]
    have hold : (ownRows env s.rows).packages.part
          (env.ownsPackage (collisionStore env mediaBuyId packageId creativeId s).rows) =
        (ownRows env s.rows).packages.part (env.ownsPackage (ownRows env s.rows)) := by
      refine List.filter_congr (fun p hp => ?_)
      unfold SyncEnv.ownsPackage SyncEnv.ownsBuyId
      rw [getById_collisionStore s (hfresh.packages p hp)]
    rw [← hold]
    refine (IndexedTable.part_put_of_not _ hnew (fun p hp _ heq => ?_)).symm
    have hpair := Option.some.inj heq
    exact hfresh.packages p hp (Prod.mk.inj hpair).1
  · rw [hown.assignments]
    refine (IndexedTable.part_put_of_not _ ownsAssignment_foreignAssignment
      (fun a ha _ heq => ?_)).symm
    have htuple := Option.some.inj heq
    simp only [foreignAssignment, Prod.mk.injEq] at htuple
    exact hfresh.assignments a ha htuple.2.2.1
  · refine (IndexedTable.part_put_of_not _ ownsCreative_foreignCreative
      (fun row hrow hownrow heq => ?_)).symm
    have htuple := Option.some.inj heq
    simp only [foreignCreative, Prod.mk.injEq] at htuple
    simp only [SyncEnv.ownsCreative, decide_eq_true_eq] at hownrow
    exact otherPrincipal_ne env (htuple.2.2.symm.trans hownrow.2)

theorem storeAssignment_of_other
    {rows : BuyRows} {a x : CreativeAssignment}
    (hfind : rows.assignments.find (a.tenantId, a.creativeId, a.mediaBuyId, a.packageId) = some x)
    (hother : x.principalId ≠ a.principalId) :
    storeAssignment rows a = .error ⟨.internalError, none⟩ := by
  unfold storeAssignment
  simp only
  split
  · next hsame => simp [hfind, hother] at hsame
  · split
    · rfl
    · next hinsert =>
        have hkey : a.uniqueKey = some (a.tenantId, a.creativeId, a.mediaBuyId, a.packageId) := rfl
        refine absurd ((IndexedTable.conflicts_iff_find _ hkey).mpr ?_)
          ((IndexedTable.insert_eq_some_iff _).mp hinsert).1
        rw [hfind]
        rfl

theorem assignPackage_collision
    {rows : BuyRows} {s : AssignState} {strict : Bool} {creative : Creative}
    {terms : AssignmentTerms}
    (hpackages : rows.packages.rows.head? = some (foreignPackage mediaBuyId packageId))
    (hbuy : rows.getById env.tenantId mediaBuyId = some (foreignBuy env mediaBuyId))
    (hassignment : rows.assignments.find (env.tenantId, creativeId, mediaBuyId, packageId) =
      some (foreignAssignment env mediaBuyId packageId creativeId))
    (hs : s.rows = rows) :
    assignPackage env strict creativeId creative s (packageId, terms) =
      .error ⟨.internalError, none⟩ := by
  have hfound : rows.findPackageWithMediaBuy env.tenantId packageId =
      some (foreignPackage mediaBuyId packageId, foreignBuy env mediaBuyId) := by
    obtain ⟨rest, hrows⟩ : ∃ rest, rows.packages.rows =
        foreignPackage mediaBuyId packageId :: rest := by
      cases hlist : rows.packages.rows with
      | nil => simp [hlist] at hpackages
      | cons p rest =>
          rw [hlist] at hpackages
          exact ⟨rest, by rw [Option.some.inj hpackages]⟩
    have hid : (foreignPackage mediaBuyId packageId).packageId = packageId := rfl
    have hbuyId : (foreignPackage mediaBuyId packageId).mediaBuyId = mediaBuyId := rfl
    unfold BuyRows.findPackageWithMediaBuy
    rw [hrows, List.findSome?_cons, if_pos hid, hbuyId, hbuy]
    rfl
  have hrefused : ∀ weight placementIds, storeAssignment rows
      (env.newAssignment (foreignBuy env mediaBuyId) (foreignPackage mediaBuyId packageId)
        creativeId weight placementIds) = .error ⟨.internalError, none⟩ := by
    intro weight placementIds
    refine storeAssignment_of_other hassignment ?_
    exact otherPrincipal_ne env
  unfold assignPackage
  rw [hs, hfound]
  simp only [foreignPackage, Option.filter_none, Option.bind_none, Product.accepts, Bool.not_true,
    Bool.false_eq_true, if_false]
  have hrefused' := hrefused terms.storedWeight terms.placementIds
  simp only [foreignPackage] at hrefused'
  rw [hrefused']

end Foreign

section Exactly

variable {env : SyncEnv} {req : SyncCreativesRequest} {store : SyncStore}

theorem isolatedFor_of_assignsNothing
    (h : AssignsNothing env req store) :
    IsolatedFor env req store where
  confined := by
    refine syncCreatives_confined (fun s rows results hs hassign => ?_)
    rcases processAssignments_idle env (h s hs) with ⟨err, hfails⟩ | ⟨results', hdone⟩
    · rw [hfails s.store.rows rfl] at hassign
      cases hassign
    · rw [hdone s.store.rows rfl] at hassign
      cases hassign
      exact .refl _
  same := by
    refine fun store' hview => syncCreatives_alike hview (fun s s' hs hs' hsame => ?_)
    have hrows := hview.toSameRows.onlyCreatives (syncLibrary_onlyCreatives hs)
      (syncLibrary_onlyCreatives hs')
    have hknown : creativeOnFile env s'.store.rows = creativeOnFile env s.store.rows := by
      funext creativeId
      rw [creativeOnFile, ← find_creatives_of_same hsame.creatives]
      rfl
    rw [← hsame.results]
    rcases processAssignments_idle env (h s hs) with ⟨err, hfails⟩ | ⟨results', hdone⟩
    · rw [hfails s.store.rows rfl, hfails s'.store.rows hknown]
      exact .error err
    · rw [hdone s.store.rows rfl, hdone s'.store.rows hknown]
      exact .ok ⟨hrows, rfl⟩

theorem response_of_syncLibrary
    {s : SyncState}
    (hs : syncLibrary env req store = .ok s) :
    (syncCreatives env req store).response =
      (processAssignments env req.strict req.assignments s.results s.store.rows).map Prod.snd := by
  unfold syncCreatives
  rw [hs]
  simp only
  cases processAssignments env req.strict req.assignments s.results s.store.rows with
  | error err => rfl
  | ok outcome => rfl

theorem assignsNothing_of_isolatedFor
    (h : IsolatedFor env req store) :
    AssignsNothing env req store := by
  intro s hs
  by_contra hsomething
  obtain ⟨entry, hentry, first, hfirst, hends⟩ := exists_first_package
    (Bool.not_eq_false _ ▸ hsomething) (fun _ he => normaliseAssignments_ne_nil he)
  obtain ⟨mediaBuyId, hfresh⟩ := exists_freshBuyId (ownRows env store.rows)
  -- beside a collision the first assignment is refused by the index
  have hcollision : (syncCreatives env req
      (collisionStore env mediaBuyId first.1 entry.1 store)).response =
        .error ⟨.internalError, none⟩ := by
    have hview := sameView_collisionStore first.1 entry.1 hfresh
    have halike := syncLibrary_alike hview.creatives req
    rw [hs] at halike
    obtain ⟨s', hs', hsame⟩ := halike.ok_left
    obtain ⟨library, hstore⟩ := syncLibrary_onlyCreatives hs'
    have hknown : creativeOnFile env s'.store.rows = creativeOnFile env s.store.rows := by
      funext creativeId
      rw [creativeOnFile, ← find_creatives_of_same hsame.creatives]
      rfl
    have hbuy : s'.store.rows.getById env.tenantId mediaBuyId = some (foreignBuy env mediaBuyId) := by
      rw [hstore]
      simp only [SyncStore.withLibrary, collisionStore, BuyRows.getById, find_put_foreignBuy_self]
      simp [foreignBuy, Option.filter]
    have hassignment : s'.store.rows.assignments.find
        (env.tenantId, entry.1, mediaBuyId, first.1) =
          some (foreignAssignment env mediaBuyId first.1 entry.1) := by
      rw [hstore]
      exact IndexedTable.find_put_self _ rfl
    have hpackages : s'.store.rows.packages.rows.head? =
        some (foreignPackage mediaBuyId first.1) := by
      rw [hstore]
      rfl
    have hfold := hends { rows := s'.store.rows } ⟨.internalError, none⟩ hknown
      (fun creative faults => assignPackage_collision hpackages hbuy hassignment rfl)
    rw [response_of_syncLibrary hs', ← hsame.results]
    simp only [processAssignments, hfold, Except.map]
  -- without other principals' rows no assignment is refused so
  have halone : (syncCreatives env req (ownStore env store)).response ≠
      .error ⟨.internalError, none⟩ := by
    have halike := syncLibrary_alike (sameView_ownStore env store).creatives req
    rw [hs] at halike
    obtain ⟨s', hs', hsame⟩ := halike.ok_left
    obtain ⟨library, hstore⟩ := syncLibrary_onlyCreatives hs'
    have hrows : ∀ a ∈ s'.store.rows.assignments, env.ownsAssignment a = true := by
      rw [hstore]
      intro a ha
      simpa using ((IndexedTable.mem_deleteWhere _ _ _).mp ha).2
    rw [response_of_syncLibrary hs']
    cases hassign : processAssignments env req.strict req.assignments s'.results s'.store.rows with
    | ok outcome => exact fun heq => by cases heq
    | error err =>
        intro heq
        simp only [Except.map, Except.error.injEq] at heq
        rw [heq] at hassign
        exact processAssignments_ne_internal hrows hassign
  have hfirst := (h.same _ (sameView_collisionStore first.1 entry.1 hfresh)).response
  have hsecond := (h.same _ (sameView_ownStore env store)).response
  exact halone (hsecond.symm.trans (hfirst.trans hcollision))

/-- A request is isolated from other principals' rows exactly where it assigns nothing;
between stores in which no other principal has a package, or an assignment on the caller's
package, that the request names, it is isolated in any case. -/
theorem assignment_isolation_iff :
    (IsolatedFor env req store ↔ AssignsNothing env req store) ∧
      ∀ store', SameView env store store' → Unshared env req.assignments store.rows →
        Unshared env req.assignments store'.rows →
        Confined env store.rows (syncCreatives env req store).store.rows ∧
          SameOutcome env (syncCreatives env req store) (syncCreatives env req store') :=
  ⟨⟨assignsNothing_of_isolatedFor, isolatedFor_of_assignsNothing⟩,
    fun _ hview hunshared hunshared' => syncCreatives_isolated hview hunshared hunshared'⟩

end Exactly

section Sample

/-- A buy of another principal, approved and waiting for its creatives. -/
def waitingBuy : MediaBuy :=
  { foreignBuy sampleEnv "mb_2" with approvedAt := some 5 }

/-- The store with that buy and its one package. -/
def foreignRows : BuyRows where
  mediaBuys := IndexedTable.empty.put waitingBuy
  packages := IndexedTable.empty.put (foreignPackage "mb_2" "pkg_2")
  creatives := .empty
  assignments := .empty
  packagesOwned := by
    intro p hp
    rcases (IndexedTable.mem_put _).mp hp with rfl | hold
    · decide
    · exact absurd hold.1 (IndexedTable.not_mem_empty p)

/-- A store in which the caller has nothing. -/
def foreignStore : SyncStore where
  library := .empty
  rows := foreignRows
  coherent := rfl

/-- A new creative, assigned to a package. -/
def assigningRequest
    (packageId : String) : SyncCreativesRequest where
  creatives :=
    [{ creativeId := "c1"
       name := "Spring banner"
       formatId := some ⟨"adapter://display", "banner", none⟩ }]
  assignments := [{ creativeId := "c1", packageId := packageId }]

/-- The principal of that buy. -/
def waitingEnv : SyncEnv :=
  { sampleEnv with principalId := sampleEnv.otherPrincipal }

theorem eq_of_mem_foreignRows
    {p : MediaPackage}
    (hp : p ∈ foreignRows.packages) :
    p = foreignPackage "mb_2" "pkg_2" := by
  rcases (IndexedTable.mem_put _).mp hp with rfl | hold
  · rfl
  · exact absurd hold.1 (IndexedTable.not_mem_empty p)

/-- Where no one else has the package, the request is isolated: it assigns nothing, or it moves
the buy of its own principal. -/
theorem unshared_package_isolated :
    (Confined sampleEnv SyncStore.empty.rows
        (syncCreatives sampleEnv (assigningRequest "pkg_1") .empty).store.rows ∧
      SameOutcome sampleEnv (syncCreatives sampleEnv (assigningRequest "pkg_1") .empty)
        (syncCreatives sampleEnv (assigningRequest "pkg_1") foreignStore)) ∧
      Confined waitingEnv foreignRows
        (syncCreatives waitingEnv (assigningRequest "pkg_2") foreignStore).store.rows := by
  have hbuy : sampleEnv.ownsBuyId foreignRows "mb_2" = false := by decide
  have hunshared : Unshared waitingEnv (assigningRequest "pkg_2").assignments foreignRows := by
    refine ⟨fun e _ p hp _ => ?_, fun e _ a ha => absurd ha (IndexedTable.not_mem_empty a)⟩
    rw [eq_of_mem_foreignRows hp]
    decide
  refine ⟨?_, (assignment_isolation_iff.2 foreignStore ⟨⟨rfl, rfl, rfl⟩, rfl⟩ hunshared
    hunshared).1⟩
  refine assignment_isolation_iff.2 foreignStore ⟨⟨rfl, ?_, rfl⟩, rfl⟩ ⟨?_, ?_⟩ ⟨?_, ?_⟩
  · have hforeign :
        sampleEnv.ownsPackage foreignStore.rows (foreignPackage "mb_2" "pkg_2") = false :=
      hbuy
    change [] = List.filter _ [foreignPackage "mb_2" "pkg_2"]
    rw [List.filter_cons, hforeign]
    rfl
  · intro e _ p hp
    exact absurd hp (IndexedTable.not_mem_empty p)
  · intro e _ a ha
    exact absurd ha (IndexedTable.not_mem_empty a)
  · intro e he p hp hid
    have hentry : e.packageId = "pkg_1" := by
      rw [List.mem_singleton.mp he]
    rw [eq_of_mem_foreignRows hp, hentry] at hid
    exact absurd hid (by decide)
  · intro e _ a ha
    exact absurd ha (IndexedTable.not_mem_empty a)

/-- A creative assigned to the package of someone else moves that principal's buy. -/
theorem foreign_buy_is_moved :
    ¬ IsolatedFor sampleEnv (assigningRequest "pkg_2") foreignStore := by
  intro h
  have hmoved :
      (syncCreatives sampleEnv (assigningRequest "pkg_2") foreignStore).store.rows.mediaBuys.find
        "mb_2" ≠ foreignRows.mediaBuys.find "mb_2" := by
    decide +kernel
  obtain ⟨b, hfind, hown⟩ := h.confined.buys "mb_2" hmoved
  have hb : foreignRows.mediaBuys.find "mb_2" = some waitingBuy := by decide +kernel
  rw [show foreignStore.rows = foreignRows from rfl, hb] at hfind
  cases hfind
  exact absurd hown (by decide +kernel)

end Sample

end CreativeSync
end SalesAgent
