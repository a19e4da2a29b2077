import SalesAgent.CreativeSync.Sync

/-!
# A creative reported as failed

A buyer that is told a creative failed must find its row as it was: nothing of the
failed entry is kept, and no AI review starts for it.

An update writes the row before it consults the agent and returns most failures of the
agent as results, so its savepoint is left in the ordinary way and its writes stay.
`entryFate` says of an entry, from what the agents answer and the ids on file, what it
reports as failed and which row it writes.

**Results.**
* `syncEntry_cases`: what one entry can do follows its fate.
* `follows_plan`: what the entries of a request do together.
* `failed_untouched_iff`: the creatives reported as failed are untouched exactly where
  no entry writes a row of theirs.
-/

namespace SalesAgent
namespace CreativeSync

open MediaBuys (BuyRows Creative CreativeStatus)

section Fate

variable (env : SyncEnv) (dryRun : Bool)

/-- What an entry reports as failed, and the row it writes. -/
structure Fate where
  reported : Option String
  written : Option String
  deriving DecidableEq, Repr

/-- The creatives of the caller on file. -/
def onFile
    (store : SyncStore) : String → Bool :=
  fun creativeId => (store.library.find (env.creativeKey creativeId)).isSome

/-- The fate of an entry that reaches its savepoint. -/
def savepointFate
    (known : String → Bool)
    (creative : CreativeAsset)
    (index : Nat)
    (ref : FormatRef) : Fate :=
  if creative.creativeId ≠ "" ∧ known creative.creativeId then
    match (Consulted.of (consultForUpdate env dryRun index creative ref {})).verdict with
    | .accepted => ⟨none, some creative.creativeId⟩
    | .failed => ⟨some creative.creativeId, some creative.creativeId⟩
    | .raised => ⟨some creative.creativeId, none⟩
  else
    match (Consulted.of (consultForCreate env dryRun index creative ref)).verdict with
    | .accepted =>
        if known (env.storedId index creative) then ⟨some creative.creativeId, none⟩
        else ⟨none, some (env.storedId index creative)⟩
    | .failed => ⟨some creative.idOrUnknown, none⟩
    | .raised => ⟨some creative.creativeId, none⟩

/-- The fate of an entry. -/
def entryFate
    (known : String → Bool)
    (entry : CreativeAsset × Nat) : Fate :=
  let creative := entry.1
  if ! env.normalises creative then ⟨some creative.creativeId, none⟩
  else match validateCreativeInput env entry.2 creative with
    | .error .invalid => ⟨some creative.idOrUnknown, none⟩
    | .error (.typed _) => ⟨some creative.creativeId, none⟩
    | .ok ref =>
        match env.provenancePolicies.head?.elim (.ok ()) (checkProvenancePolicy creative) with
        | .error _ => ⟨some creative.creativeId, none⟩
        | .ok () => savepointFate env dryRun known creative entry.2 ref

/-- The fates of the entries, each with the rows of those before it on file. -/
def plan
    (known : String → Bool) : List (CreativeAsset × Nat) → List Fate
  | [] => []
  | entry :: entries =>
      let fate := entryFate env dryRun known entry
      fate :: plan (fun id => known id || fate.written = some id) entries

end Fate

section Entry

variable {env : SyncEnv} {dryRun : Bool}

/-- Of the library, one row of the caller is written: it is new or carries the time. -/
structure WritesRow
    (env : SyncEnv)
    (creativeId : String)
    (old new : SyncStore) : Prop where
  others : ∀ id, id ≠ creativeId →
    new.library.find (env.creativeKey id) = old.library.find (env.creativeKey id)
  written : ∃ row, new.library.find (env.creativeKey creativeId) = some row ∧
    (old.library.find (env.creativeKey creativeId) = none ∨
      ∃ i, row.updatedAt = some (env.clock i))

theorem creativeKey_injective
    {id id' : String}
    (h : env.creativeKey id = env.creativeKey id') :
    id = id' := by
  simpa [SyncEnv.creativeKey] using h

/-- What one entry does, given its fate. -/
inductive EntryStep (env : SyncEnv) (s : SyncState) : Fate → SyncState → Prop
  | refused (id : String) (err : SyncError) :
      EntryStep env s ⟨some id, none⟩ (s.fail id err)
  | wrote {fate : Fate} {id : String} {store : SyncStore} {r : SyncCreativeResult} :
      fate.written = some id →
      (r.action = .failed ↔ fate.reported = some id) →
      (fate.reported = none ∨ fate.reported = some id) →
      r.creativeId = id →
      WritesRow env id s.store store →
      EntryStep env s fate ⟨store, s.queued ++ env.reviews id, s.results ++ [r]⟩

theorem handleException_ok
    {creative : CreativeAsset} {s s' : SyncState} {err : SyncError}
    (h : handleException creative s err = .ok s') :
    EntryStep env s ⟨some creative.creativeId, none⟩ s' := by
  unfold handleException at h
  split at h
  · cases h
  · cases h
    exact .refused _ err

theorem writesRow_put
    {index : Nat} {s : SyncStore} {stored row : CreativeRow} {creativeId : String}
    (hfind : s.library.find (env.creativeKey creativeId) = some stored)
    (hkey : row.primaryKey = stored.primaryKey)
    (hstamp : row.updatedAt = some (env.clock index)) :
    WritesRow env creativeId s (s.withLibrary (s.library.put row)) := by
  have hrow : row.primaryKey = some (env.creativeKey creativeId) := by
    rw [hkey]
    exact ((IndexedTable.find_eq_some_iff _).mp hfind).2
  refine ⟨fun id hne => IndexedTable.find_put_of_ne _ ?_,
    row, IndexedTable.find_put_self _ hrow, .inr ⟨index, hstamp⟩⟩
  rw [hrow]
  intro heq
  exact hne (creativeKey_injective (Option.some.inj heq)).symm

theorem updateExistingCreative_step
    {index : Nat} {creative : CreativeAsset} {ref : FormatRef} {s s' : SyncState}
    {stored : CreativeRow}
    (hfind : s.store.library.find (env.creativeKey creative.creativeId) = some stored)
    (hid : creative.creativeId ≠ "")
    (h : updateExistingCreative env dryRun index creative ref s stored = .ok s') :
    EntryStep env s (savepointFate env dryRun (onFile env s.store) creative index ref) s' := by
  have hknown : creative.creativeId ≠ "" ∧ onFile env s.store creative.creativeId = true :=
    ⟨hid, by simp [onFile, hfind]⟩
  have hstored : stored.creativeId = creative.creativeId := by
    have hkey := ((IndexedTable.find_eq_some_iff _).mp hfind).2
    simp only [CreativeRow.primaryKey, Creative.primaryKey, SyncEnv.creativeKey,
      Option.some.injEq, Prod.mk.injEq] at hkey
    exact hkey.1
  unfold savepointFate
  rw [if_pos hknown, verdict_consultForUpdate env dryRun index creative ref {} stored.data]
  unfold updateExistingCreative at h
  simp only at h
  cases hconsult : Consulted.of (consultForUpdate env dryRun index creative ref stored.data) with
  | raised err =>
      rw [hconsult] at h
      cases h
  | failed err =>
      rw [hconsult] at h
      cases h
      rw [hstored]
      exact .wrote rfl (by simp [failedSyncResult, Consulted.verdict]) (.inr rfl) rfl
        (writesRow_put hfind rfl rfl)
  | accepted data changes =>
      rw [hconsult] at h
      cases h
      rw [hstored]
      refine .wrote rfl ?_ (.inl rfl) rfl (writesRow_put hfind rfl rfl)
      simp only [Consulted.verdict, reduceCtorEq, iff_false]
      split <;> simp

theorem createNewCreative_step
    {index : Nat} {creative : CreativeAsset} {ref : FormatRef} {s s' : SyncState}
    (hnew : ¬ (creative.creativeId ≠ "" ∧ onFile env s.store creative.creativeId = true))
    (h : createNewCreative env dryRun index creative ref s = .ok s') :
    EntryStep env s (savepointFate env dryRun (onFile env s.store) creative index ref) s' := by
  unfold savepointFate
  rw [if_neg hnew]
  unfold createNewCreative at h
  cases hconsult : Consulted.of (consultForCreate env dryRun index creative ref) with
  | raised err =>
      rw [hconsult] at h
      cases h
  | failed err =>
      rw [hconsult] at h
      cases h
      exact .refused _ err
  | accepted data changes =>
      rw [hconsult] at h
      simp only at h
      split at h
      · cases h
      · next library hinsert =>
          cases h
          have hkey : (newRow env index creative ref data).primaryKey =
              some (env.creativeKey (env.storedId index creative)) := rfl
          have hfree : s.store.library.find (env.creativeKey (env.storedId index creative)) = none := by
            have hno := (IndexedTable.insert_eq_some_iff _).mp hinsert
            rw [IndexedTable.conflicts_iff_find _ hkey] at hno
            simpa using hno.1
          have hunknown : onFile env s.store (env.storedId index creative) = false := by
            simp [onFile, hfree]
          simp only [Consulted.verdict, hunknown]
          refine .wrote rfl (by simp) (.inl rfl) rfl
            ⟨?_, newRow env index creative ref data, ?_, .inl hfree⟩
          · intro id hne
            refine IndexedTable.find_insert_of_ne hinsert ?_
            rw [hkey]
            intro heq
            exact hne (creativeKey_injective (Option.some.inj heq)).symm
          · exact IndexedTable.find_insert_self hinsert hkey

theorem syncInSavepoint_step
    {index : Nat} {creative : CreativeAsset} {ref : FormatRef} {s s' : SyncState}
    (h : syncInSavepoint env dryRun index creative ref s = .ok s') :
    EntryStep env s (savepointFate env dryRun (onFile env s.store) creative index ref) s' := by
  unfold syncInSavepoint at h
  simp only at h
  by_cases hid : creative.creativeId = ""
  · rw [if_pos hid] at h
    exact createNewCreative_step (fun hknown => hknown.1 hid) h
  · rw [if_neg hid] at h
    cases hfind : s.store.library.find (env.creativeKey creative.creativeId) with
    | none =>
        rw [hfind] at h
        exact createNewCreative_step (fun hknown => by simp [onFile, hfind] at hknown) h
    | some stored =>
        rw [hfind] at h
        exact updateExistingCreative_step hfind hid h

theorem updateExistingCreative_raised
    {index : Nat} {creative : CreativeAsset} {ref : FormatRef} {s : SyncState}
    {stored : CreativeRow} {err : SyncError}
    (hfind : s.store.library.find (env.creativeKey creative.creativeId) = some stored)
    (hid : creative.creativeId ≠ "")
    (h : updateExistingCreative env dryRun index creative ref s stored = .error err) :
    savepointFate env dryRun (onFile env s.store) creative index ref =
      ⟨some creative.creativeId, none⟩ := by
  have hknown : creative.creativeId ≠ "" ∧ onFile env s.store creative.creativeId = true :=
    ⟨hid, by simp [onFile, hfind]⟩
  unfold savepointFate
  rw [if_pos hknown, verdict_consultForUpdate env dryRun index creative ref {} stored.data]
  unfold updateExistingCreative at h
  cases hconsult : Consulted.of (consultForUpdate env dryRun index creative ref stored.data) with
  | raised err => rfl
  | failed err =>
      simp only [hconsult] at h
      cases h
  | accepted data changes =>
      simp only [hconsult] at h
      cases h

theorem createNewCreative_raised
    {index : Nat} {creative : CreativeAsset} {ref : FormatRef} {s : SyncState} {err : SyncError}
    (hnew : ¬ (creative.creativeId ≠ "" ∧ onFile env s.store creative.creativeId = true))
    (h : createNewCreative env dryRun index creative ref s = .error err) :
    savepointFate env dryRun (onFile env s.store) creative index ref =
      ⟨some creative.creativeId, none⟩ := by
  unfold savepointFate
  rw [if_neg hnew]
  unfold createNewCreative at h
  cases hconsult : Consulted.of (consultForCreate env dryRun index creative ref) with
  | raised err => rfl
  | failed err =>
      rw [hconsult] at h
      cases h
  | accepted data changes =>
      rw [hconsult] at h
      simp only at h
      split at h
      · next hconflict =>
          have hkey : (newRow env index creative ref data).primaryKey =
              some (env.creativeKey (env.storedId index creative)) := rfl
          have htaken : onFile env s.store (env.storedId index creative) = true :=
            (IndexedTable.conflicts_iff_find _ hkey).mp
              ((IndexedTable.insert_eq_none_iff _).mp hconflict)
          simp [Consulted.verdict, htaken]
      · cases h

theorem savepointFate_of_raised
    {index : Nat} {creative : CreativeAsset} {ref : FormatRef} {s : SyncState} {err : SyncError}
    (h : syncInSavepoint env dryRun index creative ref s = .error err) :
    savepointFate env dryRun (onFile env s.store) creative index ref =
      ⟨some creative.creativeId, none⟩ := by
  unfold syncInSavepoint at h
  simp only at h
  by_cases hid : creative.creativeId = ""
  · rw [if_pos hid] at h
    exact createNewCreative_raised (fun hknown => hknown.1 hid) h
  · rw [if_neg hid] at h
    cases hfind : s.store.library.find (env.creativeKey creative.creativeId) with
    | none =>
        rw [hfind] at h
        exact createNewCreative_raised (fun hknown => by simp [onFile, hfind] at hknown) h
    | some stored =>
        rw [hfind] at h
        exact updateExistingCreative_raised hfind hid h

/-- What one entry can do follows its fate. -/
theorem syncEntry_cases
    {entry : CreativeAsset × Nat} {s s' : SyncState}
    (h : syncEntry env dryRun s entry = .ok s') :
    EntryStep env s (entryFate env dryRun (onFile env s.store) entry) s' := by
  unfold syncEntry at h
  unfold entryFate
  simp only at h ⊢
  split at h
  · next hnormal =>
      rw [if_pos hnormal]
      exact handleException_ok h
  · next hnormal =>
      rw [if_neg hnormal]
      cases hvalid : validateCreativeInput env entry.2 entry.1 with
      | error refusal =>
          rw [hvalid] at h
          cases refusal with
          | invalid =>
              cases h
              exact .refused _ _
          | typed err => exact handleException_ok h
      | ok ref =>
          rw [hvalid] at h
          simp only at h ⊢
          cases hpolicy : env.provenancePolicies.head?.elim (.ok ())
              (checkProvenancePolicy entry.1) with
          | error err =>
              rw [hpolicy] at h
              exact handleException_ok h
          | ok checked =>
              rw [hpolicy] at h
              simp only at h ⊢
              cases hraised : syncInSavepoint env dryRun entry.2 entry.1 ref s with
              | error err =>
                  rw [hraised] at h
                  rw [savepointFate_of_raised hraised]
                  exact handleException_ok h
              | ok written =>
                  rw [hraised] at h
                  cases h
                  exact syncInSavepoint_step hraised

end Entry

section Run

variable {env : SyncEnv} {dryRun : Bool}

/-- What entries of these fates do together. -/
structure Follows
    (env : SyncEnv)
    (fates : List Fate)
    (s s' : SyncState) : Prop where
  reported : ∀ id, ReportsFailed s'.results id ↔
    ReportsFailed s.results id ∨ ∃ f ∈ fates, f.reported = some id
  mentions : ∀ id, (∃ f ∈ fates, f.written = some id) ∨ Mentions s.results id →
    Mentions s'.results id
  kept : ∀ id, (∀ f ∈ fates, f.written ≠ some id) →
    s'.store.library.find (env.creativeKey id) = s.store.library.find (env.creativeKey id)
  queued : ∀ job ∈ s'.queued, job ∈ s.queued ∨ ∃ f ∈ fates, f.written = some job.creativeId
  changed : ∀ id, (∃ f ∈ fates, f.written = some id) →
    ∃ row, s'.store.library.find (env.creativeKey id) = some row ∧
      (s.store.library.find (env.creativeKey id) = none ∨
        ∃ i, row.updatedAt = some (env.clock i))

theorem Follows.refl
    (s : SyncState) :
    Follows env [] s s where
  reported := by simp
  mentions := by simp
  kept := fun _ _ => rfl
  queued := fun _ hjob => .inl hjob
  changed := by simp

theorem EntryStep.follows
    {s s' : SyncState} {fate : Fate}
    (h : EntryStep env s fate s') :
    Follows env [fate] s s' := by
  cases h with
  | refused id err =>
      refine ⟨fun x => ?_, fun x hx => ?_, fun _ _ => rfl, fun _ hjob => .inl hjob, by simp⟩
      · simp [SyncState.fail, reportsFailed_append, failedSyncResult]
      · refine mentions_append.mpr (.inl ?_)
        simpa using hx
  | @wrote _ id store r hwritten hfailed hreported hid hrow =>
      refine ⟨fun x => ?_, fun x hx => ?_, fun x hx => ?_, fun job hjob => ?_, fun x hx => ?_⟩
      · rw [reportsFailed_append, reportsFailed_singleton, hfailed, hid]
        refine or_congr Iff.rfl ?_
        simp only [List.mem_singleton, exists_eq_left]
        constructor
        · rintro ⟨hfate, rfl⟩
          exact hfate
        · intro hfate
          rcases hreported with hnone | hsome
          · rw [hnone] at hfate
            cases hfate
          · rw [hsome] at hfate
            cases hfate
            exact ⟨hsome, rfl⟩
      · rw [mentions_append, mentions_singleton, hid]
        rcases hx with ⟨f, hf, hx⟩ | hx
        · rw [List.mem_singleton.mp hf, hwritten] at hx
          exact .inr (Option.some.inj hx)
        · exact .inl hx
      · refine hrow.others x ?_
        rintro rfl
        exact hx fate (List.mem_singleton.mpr rfl) hwritten
      · rcases List.mem_append.mp hjob with hold | hnew
        · exact .inl hold
        · refine .inr ⟨fate, List.mem_singleton.mpr rfl, ?_⟩
          unfold SyncEnv.reviews at hnew
          split at hnew
          · rw [List.mem_singleton.mp hnew]
            exact hwritten
          · cases hnew
      · obtain ⟨f, hf, hx⟩ := hx
        rw [List.mem_singleton.mp hf, hwritten] at hx
        cases hx
        exact hrow.written

/-- Entries one after the other. -/
theorem Follows.trans
    {s t u : SyncState} {fates fates' : List Fate}
    (h₁ : Follows env fates s t)
    (h₂ : Follows env fates' t u) :
    Follows env (fates ++ fates') s u where
  reported := fun id => by
    rw [h₂.reported, h₁.reported]
    simp only [List.mem_append, or_and_right, exists_or, or_assoc]
  mentions := fun id hid => by
    simp only [List.mem_append, or_and_right, exists_or, or_assoc] at hid
    rcases hid with hfirst | hsecond | hold
    · exact h₂.mentions id (.inr (h₁.mentions id (.inl hfirst)))
    · exact h₂.mentions id (.inl hsecond)
    · exact h₂.mentions id (.inr (h₁.mentions id (.inr hold)))
  kept := fun id hid => by
    rw [h₂.kept id (fun f hf => hid f (List.mem_append_right _ hf)),
      h₁.kept id (fun f hf => hid f (List.mem_append_left _ hf))]
  queued := fun job hjob => by
    rcases h₂.queued job hjob with hmiddle | ⟨f, hf, hwritten⟩
    · rcases h₁.queued job hmiddle with hold | ⟨f, hf, hwritten⟩
      · exact .inl hold
      · exact .inr ⟨f, List.mem_append_left _ hf, hwritten⟩
    · exact .inr ⟨f, List.mem_append_right _ hf, hwritten⟩
  changed := fun id hid => by
    by_cases hsecond : ∃ f ∈ fates', f.written = some id
    · obtain ⟨row, hrow, hstate⟩ := h₂.changed id hsecond
      refine ⟨row, hrow, ?_⟩
      rcases hstate with hnone | hstamp
      · by_cases hfirst : ∃ f ∈ fates, f.written = some id
        · obtain ⟨row', hrow', -⟩ := h₁.changed id hfirst
          rw [hnone] at hrow'
          cases hrow'
        · push Not at hfirst
          exact .inl (by rw [← h₁.kept id hfirst, hnone])
      · exact .inr hstamp
    · push Not at hsecond
      rw [h₂.kept id hsecond]
      refine h₁.changed id ?_
      obtain ⟨f, hf, hwritten⟩ := hid
      rcases List.mem_append.mp hf with hfirst | hlast
      · exact ⟨f, hfirst, hwritten⟩
      · exact absurd hwritten (hsecond f hlast)

theorem Follows.onFile
    {s s' : SyncState} {fate : Fate}
    (h : Follows env [fate] s s') :
    onFile env s'.store = fun id => onFile env s.store id || fate.written = some id := by
  funext id
  by_cases hwritten : fate.written = some id
  · obtain ⟨row, hrow, -⟩ := h.changed id ⟨fate, List.mem_singleton.mpr rfl, hwritten⟩
    simp [CreativeSync.onFile, hrow, hwritten]
  · have hkept := h.kept id (fun f hf => by rwa [List.mem_singleton.mp hf])
    simp [CreativeSync.onFile, hkept, hwritten]

/-- The entries of a request do what they were planned to do. -/
theorem follows_plan
    {entries : List (CreativeAsset × Nat)} {s s' : SyncState}
    (h : entries.foldlM (syncEntry env dryRun) s = .ok s') :
    Follows env (plan env dryRun (onFile env s.store) entries) s s' := by
  induction entries generalizing s with
  | nil =>
      cases h
      exact .refl _
  | cons entry entries ih =>
      obtain ⟨middle, hfirst, hrest⟩ := Runs.foldlM_cons_eq_ok.mp h
      have hstep := (syncEntry_cases hfirst).follows
      have hplan := ih hrest
      rw [hstep.onFile] at hplan
      exact hstep.trans hplan

end Run

section Archive

variable {env : SyncEnv}

theorem reportsFailed_archiveMissing
    {payloadIds : List String} {s : SyncState} {id : String} :
    ReportsFailed (archiveMissing env payloadIds s).results id ↔ ReportsFailed s.results id := by
  unfold archiveMissing
  rw [reportsFailed_append, or_iff_left_iff_imp]
  rintro ⟨r, hr, hfailed, -⟩
  obtain ⟨row, -, rfl⟩ := List.mem_map.mp hr
  cases hfailed

theorem mentions_archiveMissing
    {payloadIds : List String} {s : SyncState} {id : String}
    (row : CreativeRow)
    (hfind : s.store.library.find (env.creativeKey id) = some row)
    (hmissing : env.missing payloadIds row = true) :
    Mentions (archiveMissing env payloadIds s).results id := by
  have hrow := (IndexedTable.find_eq_some_iff _).mp hfind
  have hid : row.creativeId = id := by
    have hkey := hrow.2
    simp only [CreativeRow.primaryKey, Creative.primaryKey, SyncEnv.creativeKey,
      Option.some.injEq, Prod.mk.injEq] at hkey
    exact hkey.1
  refine mentions_append.mpr (.inr ⟨_, List.mem_map.mpr ⟨row, ?_, rfl⟩, hid⟩)
  exact List.mem_filter.mpr ⟨hrow.1, hmissing⟩

theorem find_archiveMissing
    {payloadIds : List String} {s : SyncState} (id : String) :
    (archiveMissing env payloadIds s).store.library.find (env.creativeKey id) =
      (s.store.library.find (env.creativeKey id)).map (archiveRow env payloadIds) :=
  IndexedTable.find_map _ _ (archiveRow_primaryKey env payloadIds) _

end Archive

section Claim

variable (env : SyncEnv) (req : SyncCreativesRequest) (store : SyncStore)

/-- A creative that the response reports as failed is as it was: its row is the same and
no AI review of it runs, and where it had no row it has none. -/
def FailedUntouched : Prop :=
  ∀ results, (syncCreatives env req store).response = .ok results →
    ∀ id, ReportsFailed results id →
      match store.library.find (env.creativeKey id) with
      | some row =>
          (syncCreatives env req store).store.library.find (env.creativeKey id) = some row ∧
            ∀ job ∈ (syncCreatives env req store).ran, job.creativeId ≠ id
      | none => (syncCreatives env req store).store.library.find (env.creativeKey id) = none

/-- The fates of the request's entries. -/
def fates : List Fate :=
  plan env req.dryRun (onFile env store) req.entries

/-- No entry writes a row that an entry reports as failed, and no such row is archived. -/
structure FailuresHarmless : Prop where
  unwritten : ∀ f ∈ fates env req store, ∀ g ∈ fates env req store, ∀ id,
    f.reported = some id → g.written ≠ some id
  unarchived : req.deleteMissing = true → ∀ f ∈ fates env req store, ∀ id,
    f.reported = some id →
      (store.library.find (env.creativeKey id)).any (env.missing req.payloadIds) = false

end Claim

section Proof

variable {env : SyncEnv} {req : SyncCreativesRequest} {store : SyncStore}

theorem syncLibrary_follows
    {s : SyncState}
    (h : syncLibrary env req store = .ok s) :
    ∃ s₀, Follows env (fates env req store) ⟨store, [], []⟩ s₀ ∧
      s = if req.deleteMissing then archiveMissing env req.payloadIds s₀ else s₀ := by
  unfold syncLibrary at h
  split at h
  · cases h
  · next s₀ hentries =>
      cases h
      exact ⟨s₀, follows_plan hentries, rfl⟩

theorem kept_of_unwritten
    {s s₀ : SyncState} {id : String}
    (hfollows : Follows env (fates env req store) ⟨store, [], []⟩ s₀)
    (hs : s = if req.deleteMissing then archiveMissing env req.payloadIds s₀ else s₀)
    (hunwritten : ∀ g ∈ fates env req store, g.written ≠ some id)
    (hspared : req.deleteMissing = true →
      (store.library.find (env.creativeKey id)).any (env.missing req.payloadIds) = false) :
    s.store.library.find (env.creativeKey id) = store.library.find (env.creativeKey id) ∧
      ∀ job ∈ s.queued, job.creativeId ≠ id := by
  have hkept := hfollows.kept id hunwritten
  have hqueued : ∀ job ∈ s₀.queued, job.creativeId ≠ id := by
    rintro job hjob rfl
    rcases hfollows.queued job hjob with hnone | ⟨g, hg, hwritten⟩
    · cases hnone
    · exact hunwritten g hg hwritten
  subst hs
  split
  · next hdelete =>
      refine ⟨?_, hqueued⟩
      rw [find_archiveMissing, hkept]
      have hspare := hspared hdelete
      cases hfind : store.library.find (env.creativeKey id) with
      | none => rfl
      | some row =>
          rw [hfind] at hspare
          have hmissing : env.missing req.payloadIds row = false := by simpa using hspare
          simp [archiveRow, hmissing]
  · exact ⟨hkept, hqueued⟩

/-- A creative the response reports as failed was failed by an entry, or was neither
written by one nor archived. -/
theorem reported_cases
    {s s₀ : SyncState} {id : String}
    (hfollows : Follows env (fates env req store) ⟨store, [], []⟩ s₀)
    (hs : s = if req.deleteMissing then archiveMissing env req.payloadIds s₀ else s₀)
    (hid : ReportsFailed s.results id ∨ ¬ Mentions s.results id) :
    (∃ f ∈ fates env req store, f.reported = some id) ∨
      (∀ g ∈ fates env req store, g.written ≠ some id) ∧
        (req.deleteMissing = true →
          (store.library.find (env.creativeKey id)).any (env.missing req.payloadIds) = false) := by
  rcases hid with hfailed | hunmentioned
  · refine .inl ?_
    have hentries : ReportsFailed s₀.results id := by
      subst hs
      split at hfailed
      · exact reportsFailed_archiveMissing.mp hfailed
      · exact hfailed
    simpa using (hfollows.reported id).mp hentries
  · refine .inr ?_
    have hentries : ¬ Mentions s₀.results id := by
      subst hs
      split at hunmentioned
      · exact fun h => hunmentioned (mentions_append.mpr (.inl h))
      · exact hunmentioned
    have hunwritten : ∀ g ∈ fates env req store, g.written ≠ some id :=
      fun g hg hwritten => hentries (hfollows.mentions id (.inl ⟨g, hg, hwritten⟩))
    refine ⟨hunwritten, fun hdelete => ?_⟩
    cases hfind : store.library.find (env.creativeKey id) with
    | none => rfl
    | some row =>
        by_contra hmissing
        rw [hs, if_pos hdelete] at hunmentioned
        refine hunmentioned (mentions_archiveMissing row ?_ (by simpa using hmissing))
        rw [hfollows.kept id hunwritten, hfind]

theorem failedUntouched_of_harmless
    (h : req.dryRun = true ∨ FailuresHarmless env req store) :
    FailedUntouched env req store := by
  intro results hanswered id hreported
  obtain ⟨s, rows, hlibrary, hassign, hout⟩ := syncCreatives_answered env hanswered
  obtain ⟨s₀, hfollows, hs⟩ := syncLibrary_follows hlibrary
  rw [hout]
  by_cases hdry : req.dryRun = true
  · simp only [hdry, if_true]
    cases store.library.find (env.creativeKey id) with
    | none => rfl
    | some row => exact ⟨rfl, by simp⟩
  · have hharmless := h.resolve_left hdry
    have hcases : ReportsFailed s.results id ∨ ¬ Mentions s.results id := by
      obtain ⟨stage, -, -, rfl⟩ := processAssignments_eq_ok hassign
      exact reportsFailed_finishResults hreported
    have hkept : s.store.library.find (env.creativeKey id) =
        store.library.find (env.creativeKey id) ∧ ∀ job ∈ s.queued, job.creativeId ≠ id := by
      rcases reported_cases hfollows hs hcases with ⟨f, hf, hid⟩ | ⟨hunwritten, hspared⟩
      · exact kept_of_unwritten hfollows hs (fun g hg => hharmless.unwritten f hf g hg id hid)
          (fun hdelete => hharmless.unarchived hdelete f hf id hid)
      · exact kept_of_unwritten hfollows hs hunwritten hspared
    simp only [hdry, if_false, Bool.false_eq_true]
    cases hfind : store.library.find (env.creativeKey id) with
    | none => exact hkept.1.trans hfind
    | some row => exact ⟨hkept.1.trans hfind, hkept.2⟩

/-- A row that an entry wrote differs from the stored one. -/
theorem written_ne_stored
    {s s₀ : SyncState} {id : String}
    (hfollows : Follows env (fates env req store) ⟨store, [], []⟩ s₀)
    (hs : s = if req.deleteMissing then archiveMissing env req.payloadIds s₀ else s₀)
    (hclock : ∀ row ∈ store.library, ∀ i, row.updatedAt ≠ some (env.clock i))
    {g : Fate}
    (hg : g ∈ fates env req store)
    (hwritten : g.written = some id) :
    s.store.library.find (env.creativeKey id) ≠ store.library.find (env.creativeKey id) := by
  obtain ⟨row, hrow, hstate⟩ := hfollows.changed id ⟨g, hg, hwritten⟩
  have hfinal : ∃ row', s.store.library.find (env.creativeKey id) = some row' ∧
      row'.updatedAt = row.updatedAt := by
    subst hs
    split
    · refine ⟨archiveRow env req.payloadIds row, ?_, ?_⟩
      · rw [find_archiveMissing, hrow]
        rfl
      · unfold archiveRow
        split <;> rfl
    · exact ⟨row, hrow, rfl⟩
  obtain ⟨row', hrow', hstamp⟩ := hfinal
  rw [hrow']
  rcases hstate with hnone | ⟨i, hi⟩
  · have hnone : store.library.find (env.creativeKey id) = none := hnone
    rw [hnone]
    exact Option.some_ne_none row'
  · intro hsame
    have hold := ((IndexedTable.find_eq_some_iff _).mp hsame.symm).1
    exact hclock row' hold i (hstamp.trans hi)

theorem harmless_of_failedUntouched
    {results : List SyncCreativeResult}
    (hanswered : (syncCreatives env req store).response = .ok results)
    (hclock : ∀ row ∈ store.library, ∀ i, row.updatedAt ≠ some (env.clock i))
    (h : FailedUntouched env req store) :
    req.dryRun = true ∨ FailuresHarmless env req store := by
  by_cases hdry : req.dryRun = true
  · exact .inl hdry
  refine .inr ?_
  obtain ⟨s, rows, hlibrary, hassign, hout⟩ := syncCreatives_answered env hanswered
  obtain ⟨s₀, hfollows, hs⟩ := syncLibrary_follows hlibrary
  have hsame : ∀ f ∈ fates env req store, ∀ id, f.reported = some id →
      s.store.library.find (env.creativeKey id) =
        store.library.find (env.creativeKey id) := by
    intro f hf id hid
    have hentries : ReportsFailed s₀.results id :=
      (hfollows.reported id).mpr (.inr ⟨f, hf, hid⟩)
    have hfailed : ReportsFailed s.results id := by
      subst hs
      split
      · exact reportsFailed_archiveMissing.mpr hentries
      · exact hentries
    have hreported : ReportsFailed results id := by
      obtain ⟨stage, -, -, rfl⟩ := processAssignments_eq_ok hassign
      exact hfailed.finishResults _ stage
    have huntouched := h results hanswered id hreported
    rw [hout] at huntouched
    simp only [hdry, if_false, Bool.false_eq_true] at huntouched
    cases hfind : store.library.find (env.creativeKey id) with
    | none =>
        rw [hfind] at huntouched
        exact huntouched
    | some row =>
        rw [hfind] at huntouched
        exact huntouched.1
  have hunwritten : ∀ f ∈ fates env req store, ∀ g ∈ fates env req store, ∀ id,
      f.reported = some id → g.written ≠ some id :=
    fun f hf g hg id hid hwritten =>
      written_ne_stored hfollows hs hclock hg hwritten (hsame f hf id hid)
  refine ⟨hunwritten, fun hdelete f hf id hid => ?_⟩
  by_contra hmissing
  have hfinal := hsame f hf id hid
  rw [hs, if_pos hdelete, find_archiveMissing,
    hfollows.kept id (fun g hg => hunwritten f hf g hg id hid)] at hfinal
  cases hfind : store.library.find (env.creativeKey id) with
  | none => simp [hfind] at hmissing
  | some row =>
      have hrow : env.missing req.payloadIds row = true := by simpa [hfind] using hmissing
      rw [hfind] at hfinal
      have harchived : archiveRow env req.payloadIds row = row := by simpa using hfinal
      -- the archived row has the status that a missing row does not have
      have hstatus : row.status = .archived := by
        rw [← harchived, archiveRow, if_pos hrow]
      simp [SyncEnv.missing, hstatus] at hrow

/-- The creatives a request reports as failed are untouched exactly where its failures
are harmless. -/
theorem failed_untouched_iff :
    (req.dryRun = true ∨ FailuresHarmless env req store → FailedUntouched env req store) ∧
      ∀ results, (syncCreatives env req store).response = .ok results →
        (∀ row ∈ store.library, ∀ i, row.updatedAt ≠ some (env.clock i)) →
        FailedUntouched env req store →
        req.dryRun = true ∨ FailuresHarmless env req store :=
  ⟨failedUntouched_of_harmless,
    fun _ hanswered hclock h => harmless_of_failedUntouched hanswered hclock h⟩

end Proof

section Sample

/-- An approved creative of the caller. -/
def sampleCreative : CreativeRow where
  creativeId := "c1"
  tenantId := "t1"
  principalId := "p1"
  format := some ⟨"adapter://display", "banner"⟩
  status := .approved
  createdAt := 10
  updatedAt := none
  name := "Spring banner"
  agentUrl := "adapter://display"
  formatId := "banner"
  formatParameters := none
  data := { url := some "https://cdn.example/spring.png" }

/-- The library with that creative. -/
def sampleLibrary : SyncStore :=
  SyncStore.empty.withLibrary (IndexedTable.empty.put sampleCreative)

/-- A resync of the creative under a new name, without any media. -/
def sampleResync : SyncCreativesRequest where
  creatives :=
    [{ creativeId := "c1"
       name := "Summer banner"
       formatId := some ⟨"adapter://display", "banner", none⟩ }]
  wholeLibrary := wholeLibrary_of_kept

theorem sampleResync_answered :
    (syncCreatives sampleEnv sampleResync sampleLibrary).response =
      .ok [failedSyncResult "c1" ⟨.creativeRejected, some "media_url"⟩] :=
  by decide +kernel

/-- A creative without a name, a new one, and one of a format that its agent does not serve. -/
def sampleNameless : SyncCreativesRequest where
  creatives :=
    [{ creativeId := "c2"
       name := " "
       formatId := some ⟨"adapter://display", "banner", none⟩ },
      { creativeId := "c3"
        name := "Autumn banner"
        formatId := some ⟨"adapter://display", "banner", none⟩ },
      { creativeId := "c4"
        name := "Winter banner"
        formatId := some ⟨"https://agent.buyer.example", "banner", none⟩ }]
  wholeLibrary := wholeLibrary_of_kept

theorem sampleNameless_fates :
    fates unservedEnv sampleNameless sampleLibrary =
      [⟨some "c2", none⟩, ⟨none, some "c3"⟩, ⟨some "c4", none⟩] := by
  decide +kernel

/-- One creative is refused before its savepoint, one is stored, and one fails inside. -/
theorem nameless_creative_untouched :
    FailedUntouched unservedEnv sampleNameless sampleLibrary ∧
      (sampleNameless.dryRun = true ∨
        FailuresHarmless unservedEnv sampleNameless sampleLibrary) := by
  have hharmless : FailuresHarmless unservedEnv sampleNameless sampleLibrary := by
    refine ⟨?_, fun hdelete => absurd hdelete (by decide)⟩
    rw [sampleNameless_fates]
    intro f hf g hg id
    simp only [List.mem_cons, List.not_mem_nil, or_false] at hf hg
    rcases hf with rfl | rfl | rfl <;> rcases hg with rfl | rfl | rfl <;> simp +contextual [eq_comm]
  have huntouched := failed_untouched_iff.1 (.inr hharmless)
  have hanswers : (syncCreatives unservedEnv sampleNameless
      sampleLibrary).response.toOption.isSome = true := by
    decide +kernel
  refine ⟨huntouched, ?_⟩
  cases hresponse : (syncCreatives unservedEnv sampleNameless sampleLibrary).response with
  | error err =>
      rw [hresponse] at hanswers
      cases hanswers
  | ok results =>
      refine failed_untouched_iff.2 results hresponse ?_ huntouched
      intro row hrow i
      have hmem : row ∈ [sampleCreative] := hrow
      rw [List.mem_singleton.mp hmem]
      exact Option.some_ne_none _ ∘ Eq.symm

/-- The resync is refused for want of a preview, and its row is renamed all the same. -/
theorem refused_update_is_kept :
    ¬ FailedUntouched sampleEnv sampleResync sampleLibrary := by
  intro h
  have huntouched := h _ sampleResync_answered "c1" ⟨_, List.mem_cons_self, rfl, rfl⟩
  have hrow : (syncCreatives sampleEnv sampleResync sampleLibrary).store.library.find
      (sampleEnv.creativeKey "c1") = some sampleCreative := huntouched.1
  have hname := congrArg (Option.map (·.name)) hrow
  exact absurd hname (by decide +kernel)

end Sample

end CreativeSync
end SalesAgent
