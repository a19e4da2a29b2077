import SalesAgent.CreativeSync.Asking
import SalesAgent.Database.Nests

/-!
# The transactions of a sync

A live request writes the creatives in one unit of work and the assignments in a second
one.  A preview does both in one unit that rolls back.  Each admitted entry is processed
in a savepoint, which an exception rolls back together with the AI review registered
inside, and its call of an agent goes through the seam that a preview suppresses.

The units are those of `Database/Effects.lean`, written with the rows each block leaves.

**Results.**
* `runThread_live`: what the units commit is what the request leaves, and they run its effects
  and make its calls.
* `runThread_preview`: what those of a preview do.
-/

namespace SalesAgent
namespace CreativeSync

open Database (DeferredEffect UnitCall UnitExit Work calls durable_of_flat ending execUnit Flat
  Outside queued released runThread survivors Thread unitDone_of_flat)
open MediaBuys (BuyRows)

/-- A write: the creatives as an entry leaves them, the waiting steps of creatives, or the rows of
the assignment stage. -/
inductive SyncWrite
  | creatives (library : IndexedTable CreativeRow (String × String × String) CreativeRow.primaryKey)
  /-- `_create_sync_workflow_steps`, in tables that a sync does not read -/
  | approvalSteps (creativeIds : List String)
  | buys (rows : BuyRows)

/-- The rows after a write. -/
def SyncWrite.apply
    (s : SyncStore) : SyncWrite → SyncStore
  | .creatives library => s.withLibrary library
  | .approvalSteps _ => s
  | .buys rows => s.withRows rows

/-- The work of a request. -/
abbrev SyncWork := Work SyncWrite AgentCall

/-- The effect of an AI review; a failure is logged and swallowed. -/
def reviewEffect
    (job : ReviewJob) : DeferredEffect where
  label := "ai_review:" ++ job.creativeId
  fatal := false
  raises := false

/-- The effect that announces the creatives that wait for approval. -/
def approvalEffect : DeferredEffect where
  label := "creative_approval_slack"
  fatal := false
  raises := false

section Work

variable (env : SyncEnv) (dryRun : Bool)

/-- `creatives_needing_approval`. -/
def SyncEnv.needingApproval
    (results : List SyncCreativeResult) : List String :=
  if env.approvalMode = .autoApprove then []
  else (results.filter (fun r => r.action ∈ [.created, .updated, .unchanged])).map (·.creativeId)

/-- The savepoint of an entry. -/
def entryBlock
    (s : SyncState)
    (entry : CreativeAsset × Nat)
    (ref : FormatRef) : SyncWork :=
  (env.asks s entry).toList.foldr .outbound
    (match syncInSavepoint env dryRun entry.2 entry.1 ref s with
      | .error _ => .done
      | .ok s' =>
          .write (.creatives s'.store.library)
            (((s'.queued.drop s.queued.length).map reviewEffect).foldr .afterCommit .done))

/-- The work of one entry, before the rest of the request. -/
def entryWork
    (s : SyncState)
    (entry : CreativeAsset × Nat)
    (rest : SyncWork) : SyncWork :=
  match env.admission entry with
  | .error _ => rest
  | .ok ref =>
      .savepoint (entryBlock env dryRun s entry ref)
        (! (syncInSavepoint env dryRun entry.2 entry.1 ref s).isOk) rest

/-- The work of the entries, with what follows them. -/
def entriesWork
    (follow : SyncState → SyncWork) : SyncState → List (CreativeAsset × Nat) → SyncWork
  | s, [] => follow s
  | s, entry :: rest =>
      entryWork env dryRun s entry
        (match syncEntry env dryRun s entry with
          | .error _ => .done
          | .ok s' => entriesWork follow s' rest)

/-- The transaction of the creatives after its entries. -/
def closeEntries
    (req : SyncCreativesRequest)
    (s : SyncState) : SyncState :=
  if req.deleteMissing then archiveMissing env req.payloadIds s else s

/-- What follows the entries in their transaction: the archive, the steps, and the announcement. -/
def closingWork
    (req : SyncCreativesRequest)
    (follow : SyncState → SyncWork)
    (s : SyncState) : SyncWork :=
  let closed := closeEntries env req s
  let needing := env.needingApproval s.results
  let announced :=
    if needing.isEmpty then follow closed
    else .write (.approvalSteps needing) (.afterCommit approvalEffect (follow closed))
  if req.deleteMissing then .write (.creatives closed.store.library) announced else announced

/-- The transaction of the creatives, with what follows in it. -/
def creativesWork
    (req : SyncCreativesRequest)
    (store : SyncStore)
    (follow : SyncState → SyncWork) : SyncWork :=
  entriesWork env req.dryRun (closingWork env req follow) ⟨store, [], []⟩ req.entries

/-- The assignment stage. -/
def assignmentsWork
    (req : SyncCreativesRequest)
    (s : SyncState) : SyncWork :=
  match processAssignments env req.strict req.assignments s.results s.store.rows with
  | .error _ => .done
  | .ok (rows, _) => .write (.buys rows) .done

/-- How the assignment stage ends its unit. -/
def assignmentsExit
    (req : SyncCreativesRequest)
    (s : SyncState) : UnitExit :=
  match processAssignments env req.strict req.assignments s.results s.store.rows with
  | .error _ => .raised
  | .ok _ => .clean

/-- The units of work of a request. -/
def requestUnits
    (req : SyncCreativesRequest)
    (store : SyncStore) : List (UnitCall SyncWrite AgentCall) :=
  match syncLibrary env req store with
  | .error _ => [⟨req.dryRun, creativesWork env req store (fun _ => .done), .raised⟩]
  | .ok s =>
      if req.dryRun then
        [⟨true, creativesWork env req store (assignmentsWork env req), assignmentsExit env req s⟩]
      else
        [⟨false, creativesWork env req store (fun _ => .done), .clean⟩,
          ⟨false, assignmentsWork env req s, assignmentsExit env req s⟩]

end Work

section Shape

variable {env : SyncEnv} {dryRun : Bool}

/-- Work that opens no unit, with its writes, effects and calls. -/
structure Does
    (work : SyncWork)
    (writes : List SyncWrite)
    (effects : List DeferredEffect)
    (made : List AgentCall) : Prop where
  flat : Flat work
  writes : survivors work = writes
  effects : queued work = effects
  made : calls false work = made

theorem Does.done :
    Does .done [] [] [] :=
  ⟨trivial, rfl, rfl, rfl⟩

theorem Does.write
    {work : SyncWork} {writes : List SyncWrite} {effects : List DeferredEffect}
    {made : List AgentCall}
    (h : Does work writes effects made)
    (w : SyncWrite) :
    Does (.write w work) (w :: writes) effects made :=
  ⟨h.flat, congrArg (w :: ·) h.writes, h.effects, h.made⟩

theorem Does.afterCommit
    {work : SyncWork} {writes : List SyncWrite} {effects : List DeferredEffect}
    {made : List AgentCall}
    (h : Does work writes effects made)
    (es : List DeferredEffect) :
    Does (es.foldr .afterCommit work) writes (es ++ effects) made := by
  induction es with
  | nil => exact h
  | cons e es ih => exact ⟨ih.flat, ih.writes, congrArg (e :: ·) ih.effects, ih.made⟩

theorem Does.outbound
    {work : SyncWork} {writes : List SyncWrite} {effects : List DeferredEffect}
    {made : List AgentCall}
    (h : Does work writes effects made)
    (cs : List AgentCall) :
    Does (cs.foldr .outbound work) writes effects (cs ++ made) := by
  induction cs with
  | nil => exact h
  | cons c cs ih => exact ⟨ih.flat, ih.writes, ih.effects, congrArg (c :: ·) ih.made⟩

theorem Does.savepoint
    {body work : SyncWork} {writes writes' : List SyncWrite} {effects effects' : List DeferredEffect}
    {made made' : List AgentCall}
    (hbody : Does body writes effects made)
    (h : Does work writes' effects' made')
    (raised : Bool) :
    Does (.savepoint body raised work) ((if raised then [] else writes) ++ writes')
      ((if raised then [] else effects) ++ effects') (made ++ made') :=
  ⟨⟨hbody.flat, h.flat⟩, by rw [survivors, hbody.writes, h.writes],
    by rw [queued, hbody.effects, h.effects], by rw [calls, hbody.made, h.made]⟩

theorem calls_preview
    {work : SyncWork}
    (hflat : Flat work) :
    calls true work = [] := by
  induction work with
  | done => rfl
  | write w rest ih => exact ih hflat
  | afterCommit e rest ih => exact ih hflat
  | outbound call rest ih => exact ih hflat
  | savepoint body raised rest ihbody ih => simp only [calls, ihbody hflat.1, ih hflat.2, List.append_nil]
  | unit _ _ _ _ => exact hflat.elim

/-- The block of an entry only adds to the queue, and writes only creatives. -/
theorem syncInSavepoint_queued
    {s s' : SyncState} {index : Nat} {creative : CreativeAsset} {ref : FormatRef}
    (h : syncInSavepoint env dryRun index creative ref s = .ok s') :
    ∃ jobs, s'.queued = s.queued ++ jobs := by
  rw [syncInSavepoint_eq] at h
  split at h
  · unfold updateExistingCreative at h
    simp only at h
    split at h
    · cases h
    · cases h
      exact ⟨_, rfl⟩
    · cases h
      exact ⟨_, rfl⟩
  · unfold createNewCreative at h
    split at h
    · cases h
    · cases h
      exact ⟨[], (List.append_nil _).symm⟩
    · simp only at h
      split at h
      · cases h
      · cases h
        exact ⟨_, rfl⟩

theorem SyncStore.withLibrary_self
    {s t : SyncStore}
    (h : OnlyCreatives s t) :
    s.withLibrary t.library = t := by
  obtain ⟨library, rfl⟩ := h
  rfl

theorem handleException_keeps
    {s s' : SyncState} {creative : CreativeAsset} {err : SyncError}
    (h : handleException creative s err = .ok s') :
    s'.store = s.store ∧ s'.queued = s.queued := by
  unfold handleException at h
  split at h
  · cases h
  · cases h
    exact ⟨rfl, rfl⟩

theorem refuse_keeps
    {s s' : SyncState} {creative : CreativeAsset} {refusal : Refusal}
    (h : refuse creative s refusal = .ok s') :
    s'.store = s.store ∧ s'.queued = s.queued := by
  cases refusal with
  | invalid =>
      cases h
      exact ⟨rfl, rfl⟩
  | typed err => exact handleException_keeps h

theorem entryWork_does
    (s : SyncState)
    (entry : CreativeAsset × Nat)
    {rest : SyncWork} {writes : List SyncWrite} {effects : List DeferredEffect}
    {made : List AgentCall}
    (hrest : Does rest writes effects made) :
    ∃ ws jobs, Does (entryWork env dryRun s entry rest) (ws ++ writes)
        (jobs.map reviewEffect ++ effects) ((env.asks s entry).toList ++ made) ∧
      ∀ s', syncEntry env dryRun s entry = .ok s' →
        ws.foldl SyncWrite.apply s.store = s'.store ∧ s'.queued = s.queued ++ jobs := by
  unfold entryWork
  cases hadmitted : env.admission entry with
  | error refusal =>
      have hnone : env.asks s entry = none := by simp [SyncEnv.asks, hadmitted]
      refine ⟨[], [], by simpa [hnone] using hrest, fun s' hs' => ?_⟩
      rw [syncEntry_eq, hadmitted] at hs'
      obtain ⟨hstore, hqueued⟩ := refuse_keeps hs'
      exact ⟨hstore.symm, by rw [hqueued, List.append_nil]⟩
  | ok ref =>
      cases hblock : syncInSavepoint env dryRun entry.2 entry.1 ref s with
      | error err =>
          have hbody : Does (entryBlock env dryRun s entry ref) [] [] (env.asks s entry).toList := by
            simpa [entryBlock, hblock] using Does.done.outbound (env.asks s entry).toList
          have hall := hbody.savepoint hrest true
          refine ⟨[], [], by simpa [hblock, Except.isOk, Except.toBool] using hall, fun s' hs' => ?_⟩
          rw [syncEntry_eq, hadmitted] at hs'
          simp only [hblock] at hs'
          obtain ⟨hstore, hqueued⟩ := handleException_keeps hs'
          exact ⟨hstore.symm, by rw [hqueued, List.append_nil]⟩
      | ok t =>
          obtain ⟨jobs, hjobs⟩ := syncInSavepoint_queued hblock
          have hbody : Does (entryBlock env dryRun s entry ref) [.creatives t.store.library]
              (jobs.map reviewEffect) (env.asks s entry).toList := by
            have hwritten := ((Does.done.afterCommit (jobs.map reviewEffect)).write
              (.creatives t.store.library)).outbound (env.asks s entry).toList
            simpa [entryBlock, hblock, hjobs] using hwritten
          have hall := hbody.savepoint hrest false
          refine ⟨[.creatives t.store.library], jobs,
            by simpa [hblock, Except.isOk, Except.toBool] using hall, fun s' hs' => ?_⟩
          rw [syncEntry_eq, hadmitted] at hs'
          simp only [hblock] at hs'
          cases hs'
          exact ⟨SyncStore.withLibrary_self (syncInSavepoint_onlyCreatives hblock), hjobs⟩

theorem entriesWork_does
    {follow : SyncState → SyncWork} {writes : SyncState → List SyncWrite}
    {effects : SyncState → List DeferredEffect}
    (hfollow : ∀ s, Does (follow s) (writes s) (effects s) [])
    (s : SyncState)
    (entries : List (CreativeAsset × Nat)) :
    ∃ ws es made, Does (entriesWork env dryRun follow s entries) ws es made ∧
      (dryRun = false → made = env.askedFrom s entries) ∧
      ∀ s', entries.foldlM (syncEntry env dryRun) s = .ok s' →
        ws.foldl SyncWrite.apply s.store = (writes s').foldl SyncWrite.apply s'.store ∧
          ∃ jobs, s'.queued = s.queued ++ jobs ∧ es = jobs.map reviewEffect ++ effects s' := by
  induction entries generalizing s with
  | nil =>
      refine ⟨_, _, _, hfollow s, fun _ => rfl, fun s' hs' => ?_⟩
      cases hs'
      exact ⟨rfl, [], (List.append_nil _).symm, rfl⟩
  | cons entry rest ih =>
      unfold entriesWork
      cases hstep : syncEntry env dryRun s entry with
      | error err =>
          obtain ⟨ws, jobs, hdoes, -⟩ := @entryWork_does env dryRun s entry .done _ _ _ .done
          refine ⟨_, _, _, hdoes, fun hlive => ?_, fun s' hs' => ?_⟩
          · subst hlive
            simp [SyncEnv.askedFrom, hstep]
          · rw [List.foldlM_cons, hstep] at hs'
            cases hs'
      | ok t =>
          obtain ⟨ws, es, made, hrest, hmade, hruns⟩ := ih t
          obtain ⟨ws', jobs, hdoes, hleft⟩ :=
            @entryWork_does env dryRun s entry _ _ _ _ hrest
          obtain ⟨hstore, hqueued⟩ := hleft t hstep
          refine ⟨_, _, _, hdoes, fun hlive => ?_, fun s' hs' => ?_⟩
          · subst hlive
            rw [SyncEnv.askedFrom, hstep, hmade rfl]
          · obtain ⟨u, hu, hfold⟩ := Runs.foldlM_cons_eq_ok.mp hs'
            rw [hstep] at hu
            cases hu
            obtain ⟨hwrites, jobs', hjobs', hes⟩ := hruns s' hfold
            refine ⟨?_, jobs ++ jobs', ?_, ?_⟩
            · rw [List.foldl_append, hstore, hwrites]
            · rw [hjobs', hqueued, List.append_assoc]
            · rw [hes, List.map_append, List.append_assoc]

end Shape

section Request

variable (env : SyncEnv) (req : SyncCreativesRequest) (store : SyncStore)

/-- The announcement of the creatives that wait for approval, where there are any. -/
def SyncEnv.announcement
    (results : List SyncCreativeResult) : List DeferredEffect :=
  if (env.needingApproval results).isEmpty then [] else [approvalEffect]

/-- The effects that the transaction of the creatives releases. -/
def releasedEffects : List DeferredEffect :=
  match req.entries.foldlM (syncEntry env req.dryRun) ⟨store, [], []⟩ with
  | .error _ => []
  | .ok s => s.queued.map reviewEffect ++ env.announcement s.results

variable {env req store}

theorem assignmentsWork_does
    (s : SyncState) :
    ∃ writes, Does (assignmentsWork env req s) writes [] [] ∧
      (assignmentsExit env req s = .clean → ∃ rows results,
        processAssignments env req.strict req.assignments s.results s.store.rows = .ok (rows, results) ∧
          writes = [.buys rows]) ∧
      (assignmentsExit env req s ≠ .clean → ∃ err,
        processAssignments env req.strict req.assignments s.results s.store.rows = .error err) := by
  unfold assignmentsWork assignmentsExit
  cases processAssignments env req.strict req.assignments s.results s.store.rows with
  | error err => exact ⟨[], .done, nofun, fun _ => ⟨err, rfl⟩⟩
  | ok outcome =>
      obtain ⟨rows, results⟩ := outcome
      exact ⟨[.buys rows], .write .done _, fun _ => ⟨rows, results, rfl, rfl⟩, fun h => absurd rfl h⟩

/-- The steps that are written for creatives to approve. -/
def stepsWritten
    (env : SyncEnv)
    (results : List SyncCreativeResult) : List SyncWrite :=
  if (env.needingApproval results).isEmpty then []
  else [.approvalSteps (env.needingApproval results)]

theorem foldl_stepsWritten
    (results : List SyncCreativeResult)
    (s : SyncStore) :
    (stepsWritten env results).foldl SyncWrite.apply s = s := by
  unfold stepsWritten
  split
  · rfl
  · rfl

/-- The transaction of the creatives, with what follows in it. -/
theorem creativesWork_does
    {follow : SyncState → SyncWork} {writes : SyncState → List SyncWrite}
    (hfollow : ∀ s, Does (follow s) (writes s) [] []) :
    ∃ ws es made, Does (creativesWork env req store follow) ws es made ∧
      (req.dryRun = false → made = env.askedFrom ⟨store, [], []⟩ req.entries) ∧
      ∀ s, syncLibrary env req store = .ok s →
        ws.foldl SyncWrite.apply store = (writes s).foldl SyncWrite.apply s.store ∧
          es = releasedEffects env req store := by
  have hclosing : ∀ s, Does (closingWork env req follow s)
      ((if req.deleteMissing then [.creatives (closeEntries env req s).store.library] else []) ++
        (stepsWritten env s.results ++ writes (closeEntries env req s)))
      (env.announcement s.results) [] := by
    intro s
    have hannounced : Does (if (env.needingApproval s.results).isEmpty
          then follow (closeEntries env req s)
          else .write (.approvalSteps (env.needingApproval s.results))
            (.afterCommit approvalEffect (follow (closeEntries env req s))))
        (stepsWritten env s.results ++ writes (closeEntries env req s))
        (env.announcement s.results) [] := by
      unfold SyncEnv.announcement stepsWritten
      split
      · exact hfollow _
      · exact ((hfollow _).afterCommit [approvalEffect]).write _
    unfold closingWork
    by_cases hdelete : req.deleteMissing = true
    · simpa only [hdelete, if_true, List.singleton_append] using hannounced.write _
    · rw [Bool.not_eq_true] at hdelete
      simpa only [hdelete, Bool.false_eq_true, if_false, List.nil_append] using hannounced
  obtain ⟨ws, es, made, hdoes, hmade, hruns⟩ :=
    @entriesWork_does env req.dryRun _ _ _ hclosing ⟨store, [], []⟩ req.entries
  refine ⟨ws, es, made, hdoes, hmade, fun s hs => ?_⟩
  unfold syncLibrary at hs
  unfold releasedEffects
  cases hloop : req.entries.foldlM (syncEntry env req.dryRun) ⟨store, [], []⟩ with
  | error err =>
      rw [hloop] at hs
      cases hs
  | ok t =>
      rw [hloop] at hs
      cases hs
      obtain ⟨hwrites, jobs, hjobs, hes⟩ := hruns t hloop
      refine ⟨?_, by simp only [hes, hjobs, List.nil_append]⟩
      rw [hwrites, List.foldl_append, List.foldl_append, foldl_stepsWritten]
      change _ = (writes (closeEntries env req t)).foldl SyncWrite.apply (closeEntries env req t).store
      congr 1
      by_cases hdelete : req.deleteMissing = true
      · simp only [closeEntries, hdelete, if_true, List.foldl_cons, List.foldl_nil,
          SyncWrite.apply, archiveMissing]
        rfl
      · simp [closeEntries, hdelete]

theorem reviewEffect_stops
    (job : ReviewJob) :
    (reviewEffect job).stops = false :=
  rfl

theorem releasedEffects_stop
    {e : DeferredEffect}
    (he : e ∈ releasedEffects env req store) :
    e.stops = false := by
  unfold releasedEffects at he
  split at he
  · cases he
  · rcases List.mem_append.mp he with hreview | hnotice
    · obtain ⟨job, -, rfl⟩ := List.mem_map.mp hreview
      exact reviewEffect_stops job
    · unfold SyncEnv.announcement at hnotice
      split at hnotice
      · cases hnotice
      · rw [List.mem_singleton.mp hnotice]
        rfl

theorem outside_start :
    Outside (Thread.start : Thread SyncWrite AgentCall) :=
  ⟨rfl, fun _ _ => rfl⟩

/-- A preview commits no write, runs no effect and makes no call. -/
theorem runThread_preview
    (hpreview : req.dryRun = true) :
    (runThread (requestUnits env req store)).durable = [] ∧
      (runThread (requestUnits env req store)).ran = [] ∧
      (runThread (requestUnits env req store)).performed = [] := by
  have hunit : ∀ (body : SyncWork) (exit : UnitExit), Flat body →
      (runThread [⟨true, body, exit⟩]).durable = [] ∧ (runThread [⟨true, body, exit⟩]).ran = [] ∧
        (runThread [⟨true, body, exit⟩]).performed = [] := by
    intro body exit hflat
    have hending : ending true exit ≠ .commits := by simp [ending]
    have hdone := unitDone_of_flat (t := (Thread.start : Thread SyncWrite AgentCall))
      ⟨true, body, exit⟩ hflat (fun hcommits => absurd hcommits hending) outside_start
    have hdurable := durable_of_flat (t := (Thread.start : Thread SyncWrite AgentCall))
      ⟨true, body, exit⟩ hflat (fun hcommits => absurd hcommits hending) outside_start
    refine ⟨hdurable.trans ?_, hdone.effects.trans ?_, hdone.outbound.trans ?_⟩
    · simp [UnitCall.work, survivors, hending, Thread.start]
    · simp [UnitCall.work, released, hending, Thread.start]
    · simp [UnitCall.work, calls, calls_preview hflat, Thread.start]
  unfold requestUnits
  cases syncLibrary env req store with
  | error err =>
      obtain ⟨ws, es, made, hdoes, -⟩ := @creativesWork_does env req store (fun _ => .done) _
        (fun _ => .done)
      simp only [hpreview]
      exact hunit _ _ hdoes.flat
  | ok s =>
      have hfollow : ∀ t, ∃ writes, Does (assignmentsWork env req t) writes [] [] := fun t =>
        (assignmentsWork_does t).imp fun _ h => h.1
      choose writes hwrites using hfollow
      obtain ⟨ws, es, made, hdoes, -⟩ := @creativesWork_does env req store _ _ hwrites
      simp only [hpreview, if_true]
      exact hunit _ _ hdoes.flat

/-- What a live request commits, runs and calls. -/
theorem runThread_live
    (hlive : req.dryRun = false) :
    (runThread (requestUnits env req store)).durable.foldl SyncWrite.apply store =
        (syncCreatives env req store).store ∧
      (∀ s, syncLibrary env req store = .ok s →
        (runThread (requestUnits env req store)).ran = releasedEffects env req store) ∧
      (runThread (requestUnits env req store)).performed =
        env.askedFrom ⟨store, [], []⟩ req.entries := by
  obtain ⟨ws, es, made, hdoes, hmade, hruns⟩ := @creativesWork_does env req store
    (fun _ => .done) _ (fun _ => .done)
  unfold requestUnits syncCreatives
  cases hlibrary : syncLibrary env req store with
  | error err =>
      simp only [hlive]
      have hdone := unitDone_of_flat (t := (Thread.start : Thread SyncWrite AgentCall))
        ⟨false, creativesWork env req store (fun _ => .done), .raised⟩ hdoes.flat (fun h => by cases h)
        outside_start
      have hdurable := durable_of_flat (t := (Thread.start : Thread SyncWrite AgentCall))
        ⟨false, creativesWork env req store (fun _ => .done), .raised⟩ hdoes.flat (fun h => by cases h)
        outside_start
      refine ⟨?_, (fun s hs => by cases hs), ?_⟩
      · rw [show runThread [⟨false, creativesWork env req store (fun _ => .done), .raised⟩] =
          execUnit .start ⟨false, creativesWork env req store (fun _ => .done), .raised⟩ from rfl,
          hdurable]
        rfl
      · refine hdone.outbound.trans ?_
        simp [UnitCall.work, calls, hdoes.made, hmade hlive, Thread.start]
  | ok s =>
      obtain ⟨hrows, heffects⟩ := hruns s hlibrary
      obtain ⟨writes, hassigns, hclean, hraised⟩ := @assignmentsWork_does env req s
      have hdrains : ∀ e ∈ (queued (creativesWork env req store (fun _ => .done))).dropLast,
          e.stops = false := by
        intro e he
        refine @releasedEffects_stop env req store _ ?_
        rw [← heffects, ← hdoes.effects]
        exact List.dropLast_subset _ he
      have hfirst := unitDone_of_flat (t := (Thread.start : Thread SyncWrite AgentCall))
        ⟨false, creativesWork env req store (fun _ => .done), .clean⟩ hdoes.flat
        (fun _ => hdrains) outside_start
      have hdurable := durable_of_flat (t := (Thread.start : Thread SyncWrite AgentCall))
        ⟨false, creativesWork env req store (fun _ => .done), .clean⟩ hdoes.flat
        (fun _ => hdrains) outside_start
      have hnone : ∀ e ∈ (queued (assignmentsWork env req s)).dropLast, e.stops = false := by
        rw [hassigns.effects]
        exact fun e he => absurd he List.not_mem_nil
      have hsecond := unitDone_of_flat ⟨false, assignmentsWork env req s,
        assignmentsExit env req s⟩ hassigns.flat (fun _ => hnone) hfirst.outside
      have hdurable' := durable_of_flat ⟨false, assignmentsWork env req s,
        assignmentsExit env req s⟩ hassigns.flat (fun _ => hnone) hfirst.outside
      simp only [hlive, Bool.false_eq_true, if_false]
      refine ⟨?_, fun t ht => ?_, ?_⟩
      · rw [show runThread [_, _] = execUnit (execUnit .start _) _ from rfl, hdurable', hdurable]
        have hcreatives : survivors (UnitCall.work ⟨false, creativesWork env req store
            (fun _ => .done), .clean⟩) = ws := by
          simp [UnitCall.work, survivors, ending, hdoes.writes]
        have hstart : (Thread.start : Thread SyncWrite AgentCall).durable = [] := rfl
        rw [hcreatives, hstart, List.nil_append, List.foldl_append, hrows, List.foldl_nil]
        by_cases hexit : assignmentsExit env req s = .clean
        · obtain ⟨rows, results, hassigned, hwrites⟩ := hclean hexit
          simp [UnitCall.work, survivors, ending, hexit, hassigns.writes, hwrites, hassigned,
            SyncWrite.apply]
        · obtain ⟨err, hassigned⟩ := hraised hexit
          simp [UnitCall.work, survivors, ending, hexit, hassigned]
      · cases ht
        refine hsecond.effects.trans ?_
        rw [hfirst.effects]
        have hreleased : ∀ work : SyncWork, Flat work → released work = [] :=
          fun _ => Database.released_of_flat
        simp [UnitCall.work, released, ending, hreleased _ hdoes.flat, hreleased _ hassigns.flat,
          hdoes.effects, hassigns.effects, heffects, Thread.start]
      · refine hsecond.outbound.trans ?_
        rw [hfirst.outbound]
        simp [UnitCall.work, calls, hdoes.made, hassigns.made, hmade hlive, Thread.start]

end Request

end CreativeSync
end SalesAgent
