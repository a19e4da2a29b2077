import SalesAgent.CreativeSync.Transactions

/-!
# A preview of a sync

A dry run takes the path of a live request in one transaction that rolls back, and the
calls that would build or preview a creative are not made.  What it reports about a
creative must be what the live request would report, wherever no agent is asked.

A creative about which an agent is asked may fare differently in the two, and so may
whatever is reported under its id.  The proof runs both requests side by side and relates
what they hold of all other ids.

Both modes look formats up and write the entries of the audit log, after the transactions
and in sessions of their own; an entry about a failure is sent to Slack.

**Results.**
* `response_agree`: the two answers agree on what no agent is asked about.
* `preview_faithful`: a preview leaves only audit entries and answers so.
-/

namespace SalesAgent
namespace CreativeSync

open MediaBuys (BuyRows Creative CreativeAssignment MediaBuy MediaPackage)
open Database (Thread runThread)
open Runs (run_of_foldlM)
open TwoRuns (Alike EndsAt)

section Stage

variable {env : SyncEnv} {shown : String → Bool} {strict : Bool}

/-- The observer sees the same assignments and faults in both stages, which read the same
buys, packages and seen creatives. -/
structure AgreeStage
    (env : SyncEnv)
    (shown : String → Bool)
    (s t : AssignState) : Prop where
  buys : s.rows.mediaBuys = t.rows.mediaBuys
  packages : s.rows.packages = t.rows.packages
  creatives : ∀ creativeId, shown creativeId = true →
    s.rows.creatives.find (env.creativeKey creativeId) =
      t.rows.creatives.find (env.creativeKey creativeId)
  assignments : s.rows.assignments.part (shown ·.creativeId) =
    t.rows.assignments.part (shown ·.creativeId)
  assigned : s.assigned.filter (shown ·.1) = t.assigned.filter (shown ·.1)
  faults : s.faults.filter (shown ·.1) = t.faults.filter (shown ·.1)

theorem AgreeStage.refl
    (s : AssignState) :
    AgreeStage env shown s s :=
  ⟨rfl, rfl, fun _ _ => rfl, rfl, rfl, rfl⟩

theorem AgreeStage.trans
    {s t u : AssignState}
    (h : AgreeStage env shown s t)
    (h' : AgreeStage env shown t u) :
    AgreeStage env shown s u where
  buys := h.buys.trans h'.buys
  packages := h.packages.trans h'.packages
  creatives := fun c hc => (h.creatives c hc).trans (h'.creatives c hc)
  assignments := h.assignments.trans h'.assignments
  assigned := h.assigned.trans h'.assigned
  faults := h.faults.trans h'.faults

theorem AgreeStage.symm
    {s t : AssignState}
    (h : AgreeStage env shown s t) :
    AgreeStage env shown t s where
  buys := h.buys.symm
  packages := h.packages.symm
  creatives := fun c hc => (h.creatives c hc).symm
  assignments := h.assignments.symm
  assigned := h.assigned.symm
  faults := h.faults.symm

theorem AgreeStage.faulted
    {s t : AssignState}
    (h : AgreeStage env shown s t)
    (faults : List (String × String × AssignmentFault)) :
    AgreeStage env shown { s with faults := s.faults ++ faults }
      { t with faults := t.faults ++ faults } :=
  { h with faults := by simp only [List.filter_append, h.faults] }

theorem fault_agree
    {s t : AssignState}
    (h : AgreeStage env shown s t)
    (creativeId packageId : String)
    (fault : AssignmentFault)
    (err : SyncError) :
    Alike (AgreeStage env shown) (s.fault strict creativeId packageId fault err)
      (t.fault strict creativeId packageId fault err) := by
  unfold AssignState.fault
  split
  · exact .error err
  · exact .ok (h.faulted _)

theorem findPackage_agree
    {rows rows' : BuyRows}
    (hbuys : rows.mediaBuys = rows'.mediaBuys)
    (hpackages : rows.packages = rows'.packages)
    (tenantId packageId : String) :
    rows.findPackageWithMediaBuy tenantId packageId =
      rows'.findPackageWithMediaBuy tenantId packageId := by
  simp only [BuyRows.findPackageWithMediaBuy, BuyRows.getById, hbuys, hpackages]

/-- A seen creative is assigned to a package alike. -/
theorem assignPackage_agree
    {s t : AssignState} {creativeId : String} {creative : Creative}
    {entry : String × AssignmentTerms}
    (h : AgreeStage env shown s t)
    (hshown : shown creativeId = true) :
    Alike (AgreeStage env shown) (assignPackage env strict creativeId creative s entry)
      (assignPackage env strict creativeId creative t entry) := by
  unfold assignPackage
  rw [findPackage_agree h.buys h.packages]
  cases t.rows.findPackageWithMediaBuy env.tenantId entry.1 with
  | none => exact fault_agree h _ _ _ _
  | some found =>
      obtain ⟨package, buy⟩ := found
      simp only
      split
      · exact fault_agree h _ _ _ _
      · have hkey : ∀ x : CreativeAssignment, x.uniqueKey = (env.newAssignment buy package creativeId
            entry.2.storedWeight entry.2.placementIds).uniqueKey → shown x.creativeId = true := by
          intro x hx
          simp only [CreativeAssignment.uniqueKey, SyncEnv.newAssignment, Option.some.injEq,
            Prod.mk.injEq] at hx
          rw [hx.2.1]
          exact hshown
        have hstore := storeAssignment_alike h.assignments (hkey _ rfl) (fun x _ => hkey x)
          (fun x _ => hkey x)
        cases hs : storeAssignment s.rows (env.newAssignment buy package creativeId
            entry.2.storedWeight entry.2.placementIds) with
        | error err =>
            rw [hs] at hstore
            rw [hstore.error_left]
            exact .error err
        | ok r =>
            rw [hs] at hstore
            obtain ⟨r', ht, hpart⟩ := hstore.ok_left
            obtain ⟨a, rfl, -⟩ := storeAssignment_eq_ok hs
            obtain ⟨a', rfl, -⟩ := storeAssignment_eq_ok ht
            rw [ht]
            exact .ok ⟨h.buys, h.packages, h.creatives, hpart,
              by simp only [List.filter_append, h.assigned], h.faults⟩

/-- Assigning a creative that is not seen leaves no trace. -/
theorem assignPackage_unseen
    {s s' : AssignState} {creativeId : String} {creative : Creative}
    {entry : String × AssignmentTerms}
    (hunseen : shown creativeId = false)
    (h : assignPackage env strict creativeId creative s entry = .ok s') :
    AgreeStage env shown s s' := by
  have hfault : ∀ fault err, s.fault strict creativeId entry.1 fault err = .ok s' →
      AgreeStage env shown s s' := by
    intro fault err hf
    unfold AssignState.fault at hf
    split at hf
    · cases hf
    · cases hf
      exact { AgreeStage.refl s with faults := by simp [hunseen] }
  unfold assignPackage at h
  cases hfound : s.rows.findPackageWithMediaBuy env.tenantId entry.1 with
  | none =>
      rw [hfound] at h
      exact hfault _ _ h
  | some found =>
      obtain ⟨package, buy⟩ := found
      rw [hfound] at h
      simp only at h
      split at h
      · exact hfault _ _ h
      · split at h
        · cases h
        · next r hstore =>
            cases h
            have hpart : r.assignments.part (shown ·.creativeId) =
                s.rows.assignments.part (shown ·.creativeId) := by
              refine storeAssignment_unseen ?_ hstore
              intro x hx
              simp only [CreativeAssignment.uniqueKey, SyncEnv.newAssignment, Option.some.injEq,
                Prod.mk.injEq] at hx
              rw [hx.2.1]
              exact hunseen
            obtain ⟨a, rfl, -⟩ := storeAssignment_eq_ok hstore
            exact ⟨rfl, rfl, fun _ _ => rfl, hpart.symm, by simp [hunseen], rfl⟩

/-- A seen creative is assigned alike. -/
theorem assignCreative_agree
    {s t : AssignState} {failed failed' : List String}
    {entry : String × List (String × AssignmentTerms)}
    (h : AgreeStage env shown s t)
    (hfailed : entry.1 ∈ failed ↔ entry.1 ∈ failed')
    (hshown : shown entry.1 = true) :
    Alike (AgreeStage env shown) (assignCreative env strict failed s entry)
      (assignCreative env strict failed' t entry) := by
  unfold assignCreative
  simp only [hfailed]
  split
  · exact .ok (h.faulted _)
  · rw [h.creatives entry.1 hshown]
    cases t.rows.creatives.find (env.creativeKey entry.1) with
    | none =>
        simp only
        split
        · exact .error _
        · exact .ok (h.faulted _)
    | some creative =>
        exact Alike.foldlM (fun _ _ _ _ hst => assignPackage_agree hst hshown) h

theorem assignCreative_unseen
    {s s' : AssignState} {failed : List String}
    {entry : String × List (String × AssignmentTerms)}
    (hunseen : shown entry.1 = false)
    (h : assignCreative env strict failed s entry = .ok s') :
    AgreeStage env shown s s' := by
  have hfaults : ∀ fault : AssignmentFault,
      AgreeStage env shown s
        { s with faults := s.faults ++ entry.2.map (fun p => (entry.1, p.1, fault)) } := by
    intro fault
    exact { AgreeStage.refl s with faults := by simp [List.filter_map, Function.comp_def, hunseen] }
  unfold assignCreative at h
  split at h
  · cases h
    exact hfaults _
  · split at h
    · split at h
      · cases h
      · cases h
        exact hfaults _
    · exact (run_of_foldlM h).relates (R := AgreeStage env shown) (fun _ => .refl _)
        (fun _ _ _ => .trans) (fun _ _ _ hstep => assignPackage_unseen hunseen hstep)

end Stage

section Answer

variable {env : SyncEnv} {shown : String → Bool} {strict : Bool}

theorem filter_key_of_shown
    {β : Type} {creativeId : String}
    (hshown : shown creativeId = true)
    (pairs : List (String × β)) :
    pairs.filter (·.1 = creativeId) = (pairs.filter (shown ·.1)).filter (·.1 = creativeId) := by
  rw [List.filter_filter]
  refine List.filter_congr ?_
  intro pair _
  by_cases hid : pair.1 = creativeId
  · simp [hid, hshown]
  · simp [hid]

theorem assignedTo_agree
    {s t : AssignState}
    (h : AgreeStage env shown s t)
    {creativeId : String}
    (hshown : shown creativeId = true) :
    s.assignedTo creativeId = t.assignedTo creativeId := by
  rw [AssignState.assignedTo, AssignState.assignedTo, filter_key_of_shown hshown, h.assigned,
    ← filter_key_of_shown hshown]

theorem faultsOf_agree
    {s t : AssignState}
    (h : AgreeStage env shown s t)
    {creativeId : String}
    (hshown : shown creativeId = true) :
    s.faultsOf creativeId = t.faultsOf creativeId := by
  rw [AssignState.faultsOf, AssignState.faultsOf, filter_key_of_shown hshown, h.faults,
    ← filter_key_of_shown hshown]

theorem filter_filterMap_of_key
    {α β : Type} {f : α → Option β} {p : α → Bool} {q : β → Bool}
    (hkey : ∀ a b, f a = some b → q b = p a)
    (as : List α) :
    (as.filterMap f).filter q = (as.filter p).filterMap f := by
  rw [List.filter_filterMap, List.filterMap_filter]
  refine List.filterMap_congr ?_
  intro a _
  cases hf : f a with
  | none => simp
  | some b =>
      have hsame := hkey a b hf
      cases hp : p a <;> simp [Option.filter, hsame, hp]

/-- The seen results mention the same seen ids. -/
theorem mentioned_agree
    {results results' : List SyncCreativeResult}
    (h : results.filter (shown ·.creativeId) = results'.filter (shown ·.creativeId))
    {creativeId : String}
    (hshown : shown creativeId = true) :
    creativeId ∈ results.map (·.creativeId) ↔ creativeId ∈ results'.map (·.creativeId) := by
  have hseen : ∀ rs : List SyncCreativeResult, creativeId ∈ rs.map (·.creativeId) ↔
      creativeId ∈ (rs.filter (shown ·.creativeId)).map (·.creativeId) := by
    intro rs
    simp only [List.mem_map, List.mem_filter]
    constructor
    · rintro ⟨r, hr, rfl⟩
      exact ⟨r, ⟨hr, hshown⟩, rfl⟩
    · rintro ⟨r, ⟨hr, -⟩, rfl⟩
      exact ⟨r, hr, rfl⟩
  rw [hseen, hseen results', h]

theorem failedIds_agree
    {results results' : List SyncCreativeResult}
    (h : results.filter (shown ·.creativeId) = results'.filter (shown ·.creativeId))
    {creativeId : String}
    (hshown : shown creativeId = true) :
    creativeId ∈ failedIds results ↔ creativeId ∈ failedIds results' := by
  refine mentioned_agree ?_ hshown
  rw [List.filter_comm, h, List.filter_comm]

/-- The outcome of the stage is entered alike into what is seen. -/
theorem finishResults_agree
    {s t : AssignState} {results results' : List SyncCreativeResult}
    (h : AgreeStage env shown s t)
    (hresults : results.filter (shown ·.creativeId) = results'.filter (shown ·.creativeId))
    (map : AssignmentMap) :
    (finishResults map s results).filter (shown ·.creativeId) =
      (finishResults map t results').filter (shown ·.creativeId) := by
  have hannotate : (results.map (annotate s)).filter (shown ·.creativeId) =
      (results'.map (annotate t)).filter (shown ·.creativeId) := by
    rw [List.filter_map, List.filter_map]
    change (results.filter (shown ·.creativeId)).map (annotate s) =
      (results'.filter (shown ·.creativeId)).map (annotate t)
    rw [hresults]
    refine List.map_congr_left ?_
    intro r hr
    have hshown : shown r.creativeId = true := (List.mem_filter.mp hr).2
    simp only [annotate, assignedTo_agree h hshown, faultsOf_agree h hshown]
  have hkey : ∀ u named r, synthesize u named = some r → shown r.creativeId = shown named :=
    fun u named r hr => by rw [synthesize_creativeId hr]
  unfold finishResults
  simp only [List.filter_append, hannotate]
  rw [filter_filterMap_of_key (hkey s), filter_filterMap_of_key (hkey t), List.filter_filter,
    List.filter_filter]
  congr 1
  rw [List.filter_congr (q := fun c => shown c && decide (c ∉ results'.map (·.creativeId)))]
  · refine List.filterMap_congr ?_
    intro named hnamed
    have hshown : shown named = true := by
      have hboth := (List.mem_filter.mp hnamed).2
      exact (Bool.and_eq_true_iff.mp hboth).1
    simp only [synthesize, assignedTo_agree h hshown, faultsOf_agree h hshown]
  · intro named _
    by_cases hshown : shown named = true
    · simp only [hshown, Bool.true_and, mentioned_agree hresults hshown]
    · simp [Bool.eq_false_iff.mpr hshown]

/-- The assignment of a creative that is not seen ends the stage. -/
def EndsUnseen
    (env : SyncEnv)
    (shown : String → Bool)
    (req : SyncCreativesRequest)
    (results : List SyncCreativeResult)
    (rows : BuyRows) : Prop :=
  EndsAt (assignCreative env req.strict (failedIds results)) (fun _ entry => shown entry.1 = false)
    { rows := rows } (normaliseAssignments req.assignments)

theorem processAssignments_agree
    {rows rows' : BuyRows} {results results' : List SyncCreativeResult}
    (req : SyncCreativesRequest)
    (hstage : AgreeStage env shown { rows := rows } { rows := rows' })
    (hresults : results.filter (shown ·.creativeId) = results'.filter (shown ·.creativeId)) :
    Alike (fun a b => a.2.filter (shown ·.creativeId) = b.2.filter (shown ·.creativeId))
        (processAssignments env req.strict req.assignments results rows)
        (processAssignments env req.strict req.assignments results' rows') ∨
      EndsUnseen env shown req results rows ∨ EndsUnseen env shown req results' rows' := by
  have hloop := Alike.foldlM_or
    (f := assignCreative env req.strict (failedIds results))
    (g := assignCreative env req.strict (failedIds results'))
    (P := fun _ entry => shown entry.1 = false) (Q := fun _ entry => shown entry.1 = false)
    (R := AgreeStage env shown)
    (fun pre entry post (_ : normaliseAssignments req.assignments = pre ++ entry :: post)
        s t _ _ hst => by
      by_cases hshown : shown entry.1 = true
      · exact .inl (assignCreative_agree hst (failedIds_agree hresults hshown) hshown)
      · have hunseen : shown entry.1 = false := by simpa using hshown
        cases hs : assignCreative env req.strict (failedIds results) s entry with
        | error err => exact .inr (.inl ⟨hunseen, err, rfl⟩)
        | ok s' =>
            cases ht : assignCreative env req.strict (failedIds results') t entry with
            | error err => exact .inr (.inr ⟨hunseen, err, rfl⟩)
            | ok t' =>
                exact .inl (.ok (((assignCreative_unseen hunseen hs).symm.trans hst).trans
                  (assignCreative_unseen hunseen ht)))) hstage
  refine hloop.imp_left (fun halike => ?_)
  unfold processAssignments
  simp only
  generalize (normaliseAssignments req.assignments).foldlM
    (assignCreative env req.strict (failedIds results)) { rows := rows } = a at halike
  generalize (normaliseAssignments req.assignments).foldlM
    (assignCreative env req.strict (failedIds results')) { rows := rows' } = b at halike
  cases halike with
  | error err => exact .error err
  | ok hst => exact .ok (finishResults_agree hst hresults _)

end Answer

section Entries

variable {env : SyncEnv} {req : SyncCreativesRequest} {store : SyncStore}

/-- The ids of the creatives about which the live request asks an agent. -/
def askedIds
    (env : SyncEnv)
    (req : SyncCreativesRequest)
    (store : SyncStore) : List String :=
  (env.askedFrom ⟨store, [], []⟩ req.entries).map (·.creativeId)

/-- The ids under which the request may report on those creatives: an entry without an id
is reported under the id it was given, or as unknown. -/
def reportedIds
    (env : SyncEnv)
    (req : SyncCreativesRequest)
    (store : SyncStore) : List String :=
  (req.entries.filter (fun e => env.storedId e.2 e.1 ∈ askedIds env req store)).flatMap
    (fun e => [env.storedId e.2 e.1, e.1.creativeId, e.1.idOrUnknown])

/-- No agent is asked about what the request reports under the id. -/
def unasked
    (env : SyncEnv)
    (req : SyncCreativesRequest)
    (store : SyncStore)
    (creativeId : String) : Bool :=
  creativeId ∉ reportedIds env req store

/-- The rows of the creatives about which no agent is asked. -/
def unaskedRow
    (env : SyncEnv)
    (req : SyncCreativesRequest)
    (store : SyncStore)
    (row : CreativeRow) : Bool :=
  row.creativeId ∉ askedIds env req store

theorem creativeId_of_key
    {row : CreativeRow} {creativeId : String}
    (h : row.primaryKey = some (env.creativeKey creativeId)) :
    row.creativeId = creativeId := by
  simp only [CreativeRow.primaryKey, Creative.primaryKey, SyncEnv.creativeKey,
    Option.some.injEq, Prod.mk.injEq] at h
  exact h.1

theorem askedFrom_storedId
    {s : SyncState} {entries : List (CreativeAsset × Nat)} {call : AgentCall}
    (h : call ∈ env.askedFrom s entries) :
    ∃ entry ∈ entries, env.storedId entry.2 entry.1 = call.creativeId := by
  induction entries generalizing s with
  | nil => cases h
  | cons entry rest ih =>
      rw [SyncEnv.askedFrom] at h
      rcases List.mem_append.mp h with hhere | hlater
      · exact ⟨entry, List.mem_cons_self, (creativeId_of_asks (Option.mem_toList.mp hhere)).symm⟩
      · split at hlater
        · cases hlater
        · obtain ⟨later, hmem, hid⟩ := ih hlater
          exact ⟨later, List.mem_cons_of_mem _ hmem, hid⟩

theorem unaskedRow_of_unasked
    {row : CreativeRow}
    (h : unasked env req store row.creativeId = true) :
    unaskedRow env req store row = true := by
  simp only [unasked, unaskedRow, decide_eq_true_eq] at h ⊢
  intro hasked
  obtain ⟨call, hcall, hid⟩ := List.mem_map.mp hasked
  obtain ⟨entry, hentry, hstored⟩ := askedFrom_storedId hcall
  refine h (List.mem_flatMap.mpr ⟨entry, List.mem_filter.mpr ⟨hentry, ?_⟩, ?_⟩)
  · simpa [hstored, hid] using hasked
  · simp [hstored, hid]

theorem unseen_of_asked
    {entry : CreativeAsset × Nat}
    (hentry : entry ∈ req.entries)
    (hasked : env.storedId entry.2 entry.1 ∈ askedIds env req store) :
    Unseen env (unaskedRow env req store) (unasked env req store) entry := by
  have hreported : ∀ id ∈ [env.storedId entry.2 entry.1, entry.1.creativeId, entry.1.idOrUnknown],
      unasked env req store id = false := by
    intro id hid
    have hmem : id ∈ reportedIds env req store :=
      List.mem_flatMap.mpr ⟨entry, List.mem_filter.mpr ⟨hentry, by simpa using hasked⟩, hid⟩
    simpa [unasked] using hmem
  refine ⟨?_, hreported _ (by simp), hreported _ (by simp), hreported _ (by simp)⟩
  intro row hkey
  simpa [unaskedRow, creativeId_of_key hkey] using hasked

/-- The live request asks an agent about an entry, and the answer ends it. -/
def EndsAsking
    (env : SyncEnv)
    (req : SyncCreativesRequest)
    (store : SyncStore) : Prop :=
  EndsAt (syncEntry env false) (fun s entry => (env.asks s entry).isSome = true)
    ⟨store, [], []⟩ req.entries

/-- One entry, in the preview and in the live request. -/
theorem syncEntry_preview_agree
    {s t : SyncState} {entry : CreativeAsset × Nat}
    (h : Agree (unaskedRow env req store) (unasked env req store) s t)
    (hentry : entry ∈ req.entries)
    (hasked : ∀ call, env.asks t entry = some call → call.creativeId ∈ askedIds env req store) :
    Alike (Agree (unaskedRow env req store) (unasked env req store))
        (syncEntry env true s entry) (syncEntry env false t entry) ∨
      ((env.asks t entry).isSome = true ∧ ∃ err, syncEntry env false t entry = .error err) := by
  by_cases hid : env.storedId entry.2 entry.1 ∈ askedIds env req store
  · have hunseen := unseen_of_asked hentry hid
    cases hadmitted : env.admission entry with
    | error refusal =>
        rw [syncEntry_eq, syncEntry_eq, hadmitted]
        exact .inl (refuse_agree h entry.1 refusal)
    | ok ref =>
        obtain ⟨s', hs⟩ := syncEntry_preview s hadmitted
        cases ht : syncEntry env false t entry with
        | error err => exact .inr ⟨asks_of_error hadmitted ht, err, rfl⟩
        | ok t' =>
            rw [hs]
            exact .inl (.ok (((syncEntry_unseen hunseen hs).symm.trans h).trans
              (syncEntry_unseen hunseen ht)))
  · have hnone : env.asks t entry = none := by
      cases hasks : env.asks t entry with
      | none => rfl
      | some call =>
          refine absurd ?_ hid
          rw [← creativeId_of_asks hasks]
          exact hasked call hasks
    have hlive : syncEntry env false t entry = syncEntry env true t entry :=
      syncEntry_of_not_asked hnone env.agents.buildCreative env.agents.previewCreative true false
    rw [hlive]
    refine .inl (syncEntry_agree h ?_)
    intro row hkey
    simpa [unaskedRow, creativeId_of_key hkey] using hid

/-- The creatives stages of the preview and of the live request agree on what no agent is
asked about, unless an answer ends the live one. -/
theorem syncLibrary_preview_agree :
    Alike (Agree (unaskedRow env req store) (unasked env req store))
        (syncLibrary env { req with dryRun := true } store)
        (syncLibrary env { req with dryRun := false } store) ∨
      EndsAsking env req store := by
  have hloop := Alike.foldlM_or
    (f := syncEntry env true) (g := syncEntry env false) (P := fun _ _ => False)
    (Q := fun t entry => (env.asks t entry).isSome = true)
    (R := Agree (unaskedRow env req store) (unasked env req store))
    (s := ⟨store, [], []⟩) (t := ⟨store, [], []⟩)
    (fun pre entry post (hsplit : req.entries = pre ++ entry :: post) s t _ ht hst => by
      refine (syncEntry_preview_agree hst ?_ ?_).imp_right .inr
      · rw [hsplit]
        exact List.mem_append_right _ List.mem_cons_self
      · intro call hcall
        refine List.mem_map.mpr ⟨call, ?_, rfl⟩
        rw [hsplit]
        exact mem_askedFrom ht hcall)
    ⟨rfl, rfl, rfl⟩
  rcases hloop with halike | hfalse | hends
  · refine .inl ?_
    rw [syncLibrary_eq_map, syncLibrary_eq_map]
    change Alike _ ((req.entries.foldlM (syncEntry env true) ⟨store, [], []⟩).map
        (fun s => if req.deleteMissing then archiveMissing env req.payloadIds s else s))
      ((req.entries.foldlM (syncEntry env false) ⟨store, [], []⟩).map
        (fun s => if req.deleteMissing then archiveMissing env req.payloadIds s else s))
    generalize req.entries.foldlM (syncEntry env true) ⟨store, [], []⟩ = a at halike
    generalize req.entries.foldlM (syncEntry env false) ⟨store, [], []⟩ = b at halike
    cases halike with
    | error err => exact .error err
    | ok hst =>
        refine .ok ?_
        split
        · refine archiveMissing_agree hst ?_ ?_
          · intro row
            unfold archiveRow
            split <;> rfl
          · intro row _ hshown
            exact unaskedRow_of_unasked hshown
        · exact hst
  · obtain ⟨_, _, hnever⟩ := hfalse.exists_kind
    exact hnever.elim
  · exact .inr hends

theorem askedFrom_ne_nil
    {s : SyncState} {entries : List (CreativeAsset × Nat)}
    (h : EndsAt (syncEntry env false) (fun s entry => (env.asks s entry).isSome = true) s entries) :
    env.askedFrom s entries ≠ [] := by
  induction h with
  | @here s entry _ _ hasks _ =>
      cases hcall : env.asks s entry with
      | none => simp [hcall] at hasks
      | some call => simp [SyncEnv.askedFrom, hcall]
  | later hstep _ ih =>
      rw [SyncEnv.askedFrom, hstep]
      exact fun hnil => ih (List.append_eq_nil_iff.mp hnil).2

/-- A creative about which an agent is asked ends the preview or the live request: by the
answer, or by its assignment. -/
inductive EndedByAsked
    (env : SyncEnv)
    (req : SyncCreativesRequest)
    (store : SyncStore) : Prop
  | answer (h : EndsAsking env req store)
  | previewAssignment {s : SyncState}
      (hlibrary : syncLibrary env { req with dryRun := true } store = .ok s)
      (h : EndsUnseen env (unasked env req store) req s.results s.store.rows)
  | liveAssignment {s : SyncState}
      (hlibrary : syncLibrary env { req with dryRun := false } store = .ok s)
      (h : EndsUnseen env (unasked env req store) req s.results s.store.rows)

theorem agreeStage_of_agree
    {s t : SyncState}
    (h : Agree (unaskedRow env req store) (unasked env req store) s t)
    (hs : OnlyCreatives store s.store)
    (ht : OnlyCreatives store t.store) :
    AgreeStage env (unasked env req store) { rows := s.store.rows } { rows := t.store.rows } := by
  have hcreatives : ∀ creativeId, unasked env req store creativeId = true →
      s.store.rows.creatives.find (env.creativeKey creativeId) =
        t.store.rows.creatives.find (env.creativeKey creativeId) := by
    intro creativeId hshown
    rw [SyncStore.find_creatives, SyncStore.find_creatives, find_agree h.creatives]
    intro row hkey
    refine unaskedRow_of_unasked ?_
    rwa [creativeId_of_key hkey]
  obtain ⟨library, hlibrary⟩ := hs
  obtain ⟨library', hlibrary'⟩ := ht
  refine ⟨?_, ?_, hcreatives, ?_, rfl, rfl⟩
  all_goals
    rw [hlibrary, hlibrary']
    rfl

/-- The preview and the live request answer alike about what no agent is asked about,
unless a creative an agent is asked about ends one of them. -/
theorem response_agree :
    Alike (fun results results' => results.filter (unasked env req store ·.creativeId) =
          results'.filter (unasked env req store ·.creativeId))
        (syncCreatives env { req with dryRun := true } store).response
        (syncCreatives env { req with dryRun := false } store).response ∨
      EndedByAsked env req store := by
  rcases @syncLibrary_preview_agree env req store with halike | hends
  · unfold syncCreatives
    cases hpreview : syncLibrary env { req with dryRun := true } store with
    | error err =>
        rw [hpreview] at halike
        rw [halike.error_left]
        exact .inl (.error err)
    | ok s =>
        rw [hpreview] at halike
        obtain ⟨t, hlive, hst⟩ := halike.ok_left
        rw [hlive]
        have hstage := agreeStage_of_agree hst (syncLibrary_onlyCreatives hpreview)
          (syncLibrary_onlyCreatives hlive)
        rcases processAssignments_agree req hstage hst.results with hassigned | hends | hends
        · refine .inl ?_
          dsimp only
          generalize processAssignments env req.strict req.assignments s.results s.store.rows = a
            at hassigned
          generalize processAssignments env req.strict req.assignments t.results t.store.rows = b
            at hassigned
          cases hassigned with
          | error err => exact .error err
          | ok hsame => exact .ok hsame
        · exact .inr (.previewAssignment hpreview hends)
        · exact .inr (.liveAssignment hlive hends)
  · exact .inr (.answer hends)

end Entries

section Footprint

/-- An entry of the audit log, with the counts among its details. -/
structure AuditEntry where
  operation : String
  success : Bool
  counts : List (String × Nat)
  creativeIdsFilter : List String
  dryRun : Bool
  deriving DecidableEq, Repr

/-- `log_operation` notifies of a failure; the operation is not among the sensitive ones. -/
def AuditEntry.notifies
    (e : AuditEntry) : Bool :=
  ! e.success

/-- The number of results of an action. -/
def countAction
    (results : List SyncCreativeResult)
    (action : CreativeAction) : Nat :=
  (results.filter (·.action = action)).length

/-- `_audit_log_sync`, with the results of the creatives stage and the number of
assignments; the second entry is written for a principal that is found. -/
def auditLogSync
    (env : SyncEnv)
    (principalFound : Bool)
    (req : SyncCreativesRequest)
    (results : List SyncCreativeResult)
    (assignments : Nat) : List AuditEntry :=
  let created := countAction results .created
  let updated := countAction results .updated
  let unchanged := countAction results .unchanged
  let failed := countAction results .failed
  let success : Bool := failed = 0
  [{ operation := "AdCP.sync_creatives"
     success := success
     counts := [("synced_count", created + updated + unchanged), ("failed_count", failed),
       ("assignment_count", assignments)]
     creativeIdsFilter := req.creativeIds
     dryRun := req.dryRun }] ++
  (if principalFound then
    [{ operation := "sync_creatives.sync_creatives"
       success := success
       counts := [("created_count", created), ("updated_count", updated),
         ("unchanged_count", unchanged), ("failed_count", failed),
         ("assignment_count", assignments),
         ("approval_required_count", (env.needingApproval results).length)]
       creativeIdsFilter := req.creativeIds
       dryRun := req.dryRun }]
  else [])

/-- The audit entries of a request; one that raises writes none. -/
def auditOf
    (env : SyncEnv)
    (principalFound : Bool)
    (req : SyncCreativesRequest)
    (store : SyncStore) : List AuditEntry :=
  match syncLibrary env req store with
  | .error _ => []
  | .ok s =>
      match (normaliseAssignments req.assignments).foldlM
          (assignCreative env req.strict (failedIds s.results)) { rows := s.store.rows } with
      | .error _ => []
      | .ok stage => auditLogSync env principalFound req s.results stage.assigned.length

/-- What a request does and answers. -/
structure SyncTrace where
  /-- its units of work: what they commit, the effects that run, the calls through the seam -/
  thread : Thread SyncWrite AgentCall
  formatLookups : List FormatLookup
  audit : List AuditEntry
  response : Except SyncError (List SyncCreativeResult)

/-- A request, with all it does. -/
def traceSync
    (env : SyncEnv)
    (registry : Registry)
    (principalFound : Bool)
    (req : SyncCreativesRequest)
    (store : SyncStore) : SyncTrace where
  thread := runThread (requestUnits env req store)
  formatLookups := env.formatLookups registry req store
  audit := auditOf env principalFound req store
  response := (syncCreatives env req store).response

/-- The rows of the store after a request. -/
def SyncTrace.rowsAfter
    (t : SyncTrace)
    (store : SyncStore) : SyncStore :=
  t.thread.durable.foldl SyncWrite.apply store

variable {env : SyncEnv} {registry : Registry} {principalFound : Bool}
variable {req : SyncCreativesRequest} {store : SyncStore}

theorem dryRun_of_mem_auditOf
    {e : AuditEntry}
    (he : e ∈ auditOf env principalFound req store) :
    e.dryRun = req.dryRun := by
  unfold auditOf auditLogSync at he
  split at he
  · cases he
  · split at he
    · cases he
    · simp only at he
      rcases List.mem_append.mp he with hfirst | hsecond
      · rw [List.mem_singleton.mp hfirst]
      · split at hsecond
        · rw [List.mem_singleton.mp hsecond]
        · cases hsecond

/-- A preview against the live request on the same store. -/
structure Faithful
    (env : SyncEnv)
    (req : SyncCreativesRequest)
    (store : SyncStore)
    (preview live : SyncTrace) : Prop where
  commits : preview.thread.durable = []
  rows : preview.rowsAfter store = store
  effects : preview.thread.ran = []
  calls : preview.thread.performed = []
  audit : ∀ e ∈ preview.audit, e.dryRun = true
  /-- the answers agree on every id that no agent is asked about -/
  answers : Alike (fun results results' =>
      results.filter (unasked env req store ·.creativeId) =
        results'.filter (unasked env req store ·.creativeId))
      preview.response live.response ∨ EndedByAsked env req store
  /-- the answers are the same where no agent is asked -/
  unasked : live.thread.performed = [] → preview.response = live.response

theorem response_of_unasked
    (h : env.askedFrom ⟨store, [], []⟩ req.entries = []) :
    (syncCreatives env { req with dryRun := true } store).response =
      (syncCreatives env { req with dryRun := false } store).response := by
  have hshown : ∀ creativeId, CreativeSync.unasked env req store creativeId = true := by
    intro creativeId
    simp [CreativeSync.unasked, reportedIds, askedIds, h]
  have hall : ∀ results : List SyncCreativeResult,
      results.filter (CreativeSync.unasked env req store ·.creativeId) = results := fun results =>
    List.filter_eq_self.mpr (fun r _ => hshown r.creativeId)
  have hunseen : ∀ results rows,
      ¬ EndsUnseen env (CreativeSync.unasked env req store) req results rows := by
    intro results rows hends
    obtain ⟨_, _, hfalse⟩ := hends.exists_kind
    rw [hshown] at hfalse
    cases hfalse
  rcases @response_agree env req store with halike | hended
  · cases hpreview : (syncCreatives env { req with dryRun := true } store).response with
    | error err =>
        rw [hpreview] at halike
        exact halike.error_left.symm
    | ok results =>
        rw [hpreview] at halike
        obtain ⟨results', hlive, hsame⟩ := halike.ok_left
        rw [hlive]
        rw [hall, hall] at hsame
        rw [hsame]
  · cases hended with
    | answer hends => exact absurd (askedFrom_ne_nil hends) (fun hne => hne h)
    | previewAssignment _ hends => exact absurd hends (hunseen _ _)
    | liveAssignment _ hends => exact absurd hends (hunseen _ _)

/-- A preview commits nothing, runs no effect, makes no call through the seam, and answers
as the live request does wherever no agent is asked. -/
theorem preview_faithful
    (env : SyncEnv)
    (registry : Registry)
    (principalFound : Bool)
    (req : SyncCreativesRequest)
    (store : SyncStore) :
    Faithful env req store
      (traceSync env registry principalFound { req with dryRun := true } store)
      (traceSync env registry principalFound { req with dryRun := false } store) := by
  obtain ⟨hdurable, hran, hperformed⟩ := @runThread_preview env
    { req with dryRun := true } store rfl
  obtain ⟨-, -, hasked⟩ := @runThread_live env
    { req with dryRun := false } store rfl
  refine ⟨hdurable, ?_, hran, hperformed, fun e he => dryRun_of_mem_auditOf he, response_agree, ?_⟩
  · simp only [SyncTrace.rowsAfter, traceSync, hdurable, List.foldl_nil]
  · intro hnone
    exact response_of_unasked (hasked.symm.trans hnone)

end Footprint

section Samples

/-- A registry that has the formats of the operator's agents at hand. -/
def sampleRegistry : Registry where
  prefetched := []
  isOperatorAgent := fun url => url = "https://creative.example"
  atHand := fun _ => true

/-- A dry run of one creative, of a format of the buyer's agent. -/
def unservedDryRun : SyncCreativesRequest where
  creatives :=
    [{ creativeId := "c1"
       name := "Banner"
       formatId := some ⟨"https://agent.buyer.example", "banner", none⟩ }]
  dryRun := true
  wholeLibrary := wholeLibrary_of_kept

/-- A dry run dials the agent a creative names, writes two audit entries, and notifies of
the creative that failed. -/
theorem preview_dials_and_audits :
    let trace := traceSync unservedEnv sampleRegistry true unservedDryRun .empty
    trace.formatLookups = [⟨"https://agent.buyer.example", some 0⟩] ∧
      trace.audit.map (·.operation) =
        ["AdCP.sync_creatives", "sync_creatives.sync_creatives"] ∧
      trace.audit.all (fun e => e.dryRun && e.notifies) = true := by
  decide +kernel

end Samples

end CreativeSync
end SalesAgent
