import SalesAgent.CreativeSync.Observer

/-!
# What a sync asks of the creative agents

An entry that is admitted consults the agent of its format, and some consultations make
a call: a generative format is built, a static one is previewed.  Both calls go through
the outbound seam of the transaction, which a preview suppresses.

Apart from that seam the formats themselves are looked up: those of every agent of the
tenant before the entries, and that of an entry while it is validated.  The registry may
have the formats of the operator's agents at hand; any other agent is dialled.

**Results.**
* `syncEntry_of_not_asked`: an entry about which no agent is asked is processed alike in
  both modes and under all answers.
-/

namespace SalesAgent
namespace CreativeSync

/-- A call through the outbound seam, with the id its creative is stored under. -/
inductive AgentCall
  | buildCreative (creativeId : String)
  | previewCreative (creativeId : String)
  deriving DecidableEq, Repr

/-- The creative a call is about. -/
def AgentCall.creativeId : AgentCall → String
  | .buildCreative creativeId => creativeId
  | .previewCreative creativeId => creativeId

section Asking

variable (env : SyncEnv)

/-- The environment in which the agents answer builds and previews so. -/
def SyncEnv.answering
    (build : Nat → Except AgentFailure (Option BuildResult))
    (preview : Nat → Except AgentFailure (Option PreviewResult)) : SyncEnv :=
  { env with agents := { env.agents with buildCreative := build, previewCreative := preview } }

/-- The call a consultation makes, of an update or of a creation. -/
def SyncEnv.consultation
    (update : Bool)
    (entry : CreativeAsset × Nat)
    (ref : FormatRef) : Option AgentCall :=
  match findFormat env ref with
  | .error _ => none
  | .ok none => none
  | .ok (some format) =>
      if ! format.isAgentBacked then none
      else if format.isGenerative then
        if ! env.geminiApiKey then none
        else if update && ! truthy (extractMessageFromAssets entry.1) then none
        else some (.buildCreative (env.storedId entry.2 entry.1))
      else if ! assetKeysNamed entry.1.assets then none
      else some (.previewCreative (env.storedId entry.2 entry.1))

/-- The call a live request makes about an entry. -/
def SyncEnv.asks
    (s : SyncState)
    (entry : CreativeAsset × Nat) : Option AgentCall :=
  match env.admission entry with
  | .error _ => none
  | .ok ref => env.consultation (env.existing s entry.1).isSome entry ref

/-- The calls a live request makes about its entries. -/
def SyncEnv.askedFrom : SyncState → List (CreativeAsset × Nat) → List AgentCall
  | _, [] => []
  | s, entry :: rest =>
      (env.asks s entry).toList ++
        match syncEntry env false s entry with
        | .error _ => []
        | .ok s' => SyncEnv.askedFrom s' rest

end Asking

/-- The registry of creative agents, as a request finds it. -/
structure Registry where
  /-- the agents of the tenant whose formats are not at hand -/
  prefetched : List String
  isOperatorAgent : String → Bool
  /-- the formats of the operator's agent are at hand when the entry of a number is validated -/
  atHand : Nat → Bool

/-- A dial of an agent for its formats, ahead of the entries or for the entry of a number. -/
structure FormatLookup where
  agentUrl : String
  index : Option Nat
  deriving DecidableEq, Repr

section Lookups

variable (env : SyncEnv) (registry : Registry)

/-- The dial made for the format of an entry while it is validated. -/
def SyncEnv.lookup
    (entry : CreativeAsset × Nat) : List FormatLookup :=
  if ! env.normalises entry.1 || ! env.fits entry.1 || blank entry.1.name then []
  else match entry.1.formatId with
    | none => []
    | some ref =>
        if ! isDialledAgentUrl ref.agentUrl then []
        -- the agents that the operator does not stand behind are always dialled
        else if registry.isOperatorAgent ref.agentUrl && registry.atHand entry.2 then []
        else [⟨ref.agentUrl, some entry.2⟩]

/-- The dials made for the formats of entries. -/
def SyncEnv.lookupsFrom
    (dryRun : Bool) : SyncState → List (CreativeAsset × Nat) → List FormatLookup
  | _, [] => []
  | s, entry :: rest =>
      env.lookup registry entry ++
        match syncEntry env dryRun s entry with
        | .error _ => []
        | .ok s' => SyncEnv.lookupsFrom dryRun s' rest

/-- The dials of a request for formats; `list_all_formats` comes first. -/
def SyncEnv.formatLookups
    (req : SyncCreativesRequest)
    (store : SyncStore) : List FormatLookup :=
  registry.prefetched.map (⟨·, none⟩) ++
    env.lookupsFrom registry req.dryRun ⟨store, [], []⟩ req.entries

end Lookups

section Consulting

variable {env : SyncEnv} {entry : CreativeAsset × Nat} {ref : FormatRef}

theorem creativeId_of_consultation
    {update : Bool} {call : AgentCall}
    (h : env.consultation update entry ref = some call) :
    call.creativeId = env.storedId entry.2 entry.1 := by
  unfold SyncEnv.consultation at h
  repeat' split at h
  all_goals first | cases h; rfl | cases h

theorem creativeId_of_asks
    {s : SyncState} {call : AgentCall}
    (h : env.asks s entry = some call) :
    call.creativeId = env.storedId entry.2 entry.1 := by
  unfold SyncEnv.asks at h
  split at h
  · cases h
  · exact creativeId_of_consultation h

theorem consultForUpdate_of_not_asked
    (h : env.consultation true entry ref = none)
    (build : Nat → Except AgentFailure (Option BuildResult))
    (preview : Nat → Except AgentFailure (Option PreviewResult))
    (dryRun dryRun' : Bool)
    (stored : CreativeData) :
    consultForUpdate (env.answering build preview) dryRun' entry.2 entry.1 ref stored =
      consultForUpdate env dryRun entry.2 entry.1 ref stored := by
  have hfind : findFormat (env.answering build preview) ref = findFormat env ref := rfl
  unfold SyncEnv.consultation at h
  unfold consultForUpdate
  rw [hfind]
  cases hformat : findFormat env ref with
  | error err => rfl
  | ok found =>
      cases found with
      | none => rfl
      | some format =>
          rw [hformat] at h
          simp only [bind, Except.bind] at h ⊢
          by_cases hbacked : format.isAgentBacked = true
          · by_cases hgenerative : format.isGenerative = true
            · by_cases hgemini : env.geminiApiKey = true
              · by_cases hmessage : truthy (extractMessageFromAssets entry.1) = true
                · simp [hbacked, hgenerative, hgemini, hmessage] at h
                · simp [SyncEnv.answering, hbacked, hgenerative, hgemini, hmessage]
              · simp [SyncEnv.answering, hbacked, hgenerative, hgemini]
            · by_cases hnamed : assetKeysNamed entry.1.assets = true
              · simp [hbacked, hgenerative, hnamed] at h
              · simp [hbacked, hgenerative, hnamed]
          · simp [hbacked]

theorem consultForCreate_of_not_asked
    (h : env.consultation false entry ref = none)
    (build : Nat → Except AgentFailure (Option BuildResult))
    (preview : Nat → Except AgentFailure (Option PreviewResult))
    (dryRun dryRun' : Bool) :
    consultForCreate (env.answering build preview) dryRun' entry.2 entry.1 ref =
      consultForCreate env dryRun entry.2 entry.1 ref := by
  have hfind : findFormat (env.answering build preview) ref = findFormat env ref := rfl
  unfold SyncEnv.consultation at h
  unfold consultForCreate
  rw [hfind]
  cases hformat : findFormat env ref with
  | error err => rfl
  | ok found =>
      cases found with
      | none => rfl
      | some format =>
          rw [hformat] at h
          simp only [bind, Except.bind] at h ⊢
          by_cases hbacked : format.isAgentBacked = true
          · by_cases hgenerative : format.isGenerative = true
            · by_cases hgemini : env.geminiApiKey = true
              · simp [hbacked, hgenerative, hgemini] at h
              · simp [SyncEnv.answering, hbacked, hgenerative, hgemini]
            · by_cases hnamed : assetKeysNamed entry.1.assets = true
              · simp [hbacked, hgenerative, hnamed] at h
              · simp [hbacked, hgenerative, hnamed]
          · simp [hbacked]

/-- An entry about which no agent is asked is processed alike in both modes and under
all answers. -/
theorem syncEntry_of_not_asked
    {s : SyncState}
    (h : env.asks s entry = none)
    (build : Nat → Except AgentFailure (Option BuildResult))
    (preview : Nat → Except AgentFailure (Option PreviewResult))
    (dryRun dryRun' : Bool) :
    syncEntry (env.answering build preview) dryRun' s entry = syncEntry env dryRun s entry := by
  have hadmission : (env.answering build preview).admission entry = env.admission entry := rfl
  have hexisting : (env.answering build preview).existing s entry.1 = env.existing s entry.1 := rfl
  unfold SyncEnv.asks at h
  rw [syncEntry_eq, syncEntry_eq, hadmission]
  cases hadmitted : env.admission entry with
  | error refusal => rfl
  | ok ref =>
      rw [hadmitted] at h
      dsimp only at h
      simp only [syncInSavepoint_eq, hexisting]
      cases hfind : env.existing s entry.1 with
      | none =>
          rw [hfind] at h
          have hconsulted := consultForCreate_of_not_asked h build preview dryRun dryRun'
          simp only [createNewCreative, hconsulted]
          rfl
      | some stored =>
          rw [hfind] at h
          have hconsulted := consultForUpdate_of_not_asked h build preview dryRun dryRun' stored.data
          simp only [updateExistingCreative, hconsulted]
          rfl

theorem findFormat_error
    {failure : AgentFailure}
    (h : findFormat env ref = .error failure) :
    failure = .other := by
  unfold findFormat at h
  split at h
  · cases h
    rfl
  · cases h

theorem consultForUpdate_preview
    (stored : CreativeData)
    (err : SyncError) :
    Consulted.of (consultForUpdate env true entry.2 entry.1 ref stored) ≠ .raised err := by
  unfold consultForUpdate
  cases hformat : findFormat env ref with
  | error failure =>
      rw [findFormat_error hformat]
      nofun
  | ok found =>
      simp only [bind, Except.bind, outbound, if_true]
      repeat' split
      all_goals simp [Consulted.of, pure, Except.pure, throw, throwThe, MonadExceptOf.throw]

theorem consultForCreate_preview
    (err : SyncError) :
    Consulted.of (consultForCreate env true entry.2 entry.1 ref) ≠ .raised err := by
  unfold consultForCreate
  cases hformat : findFormat env ref with
  | error failure =>
      rw [findFormat_error hformat]
      nofun
  | ok found =>
      simp only [bind, Except.bind, outbound, if_true]
      repeat' split
      all_goals simp [Consulted.of, pure, Except.pure, throw, throwThe, MonadExceptOf.throw]

theorem syncInSavepoint_preview
    {s : SyncState} {err : SyncError}
    (h : syncInSavepoint env true entry.2 entry.1 ref s = .error err) :
    err.code = .internalError := by
  rw [syncInSavepoint_eq] at h
  split at h
  · next stored _ =>
      unfold updateExistingCreative at h
      simp only at h
      split at h
      · next hraised => exact absurd hraised (consultForUpdate_preview _ _)
      · cases h
      · cases h
  · unfold createNewCreative at h
    split at h
    · next hraised => exact absurd hraised (consultForCreate_preview _)
    · cases h
    · simp only at h
      split at h
      · cases h
        rfl
      · cases h

theorem syncEntry_preview
    (s : SyncState)
    (h : env.admission entry = .ok ref) :
    ∃ s', syncEntry env true s entry = .ok s' := by
  rw [syncEntry_eq, h]
  dsimp only
  cases hblock : syncInSavepoint env true entry.2 entry.1 ref s with
  | ok s' => exact ⟨s', rfl⟩
  | error err =>
      have hpersistent : err.code.transient = false := by
        rw [syncInSavepoint_preview hblock]
        rfl
      refine ⟨s.fail entry.1.creativeId err, ?_⟩
      simp [handleException, hpersistent]

theorem asks_of_error
    {s : SyncState} {err : SyncError}
    (hadmitted : env.admission entry = .ok ref)
    (h : syncEntry env false s entry = .error err) :
    (env.asks s entry).isSome = true := by
  cases hasks : env.asks s entry with
  | some call => rfl
  | none =>
      obtain ⟨s', hok⟩ := syncEntry_preview s hadmitted
      have hsame : syncEntry env false s entry = syncEntry env true s entry :=
        syncEntry_of_not_asked hasks env.agents.buildCreative env.agents.previewCreative true false
      rw [h, hok] at hsame
      cases hsame

theorem mem_askedFrom
    {s t : SyncState} {pre post : List (CreativeAsset × Nat)} {call : AgentCall}
    (hreached : pre.foldlM (syncEntry env false) s = .ok t)
    (hasks : env.asks t entry = some call) :
    call ∈ env.askedFrom s (pre ++ entry :: post) := by
  induction pre generalizing s with
  | nil =>
      cases hreached
      simp [SyncEnv.askedFrom, hasks]
  | cons first pre ih =>
      obtain ⟨s', hfirst, hrest⟩ := Runs.foldlM_cons_eq_ok.mp hreached
      rw [List.cons_append, SyncEnv.askedFrom, hfirst]
      exact List.mem_append_right _ (ih hrest)

end Consulting

section Dependence

variable {env : SyncEnv} {entry : CreativeAsset × Nat} {ref : FormatRef}

end Dependence

end CreativeSync
end SalesAgent
