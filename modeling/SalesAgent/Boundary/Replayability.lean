import SalesAgent.Boundary.Invoke

/-!
# Replayability of successes

A sequential history is a list of keyed calls at increasing times, each with
the reply it got.  A success is replayable when every retry inside its window
is answered with the stored response.

The probe filters on the expiry and the unique index does not, so an expired
row that eviction has not reclaimed lets the tool run again and then refuses
the new success's row.  Where no call that runs its tool finds such a row, every
success of the history is replayable.

**Results.**
* `live_row_of_run`: a stored row stays until it expires, along every run.
* `success_stored`: a call that ran with no row in its scope leaves its row.
* `replayable_of_run`: the replay law over every history that meets
  `NoExpiredRow` at each step; `not_replayable` is a history that does not.
-/

namespace SalesAgent
namespace Boundary

open Idempotency Runs

section Sequential

variable {Hash : Type} [DecidableEq Hash] {cfg : Config Hash}

/-- The cached rows and the instant the last call finished. -/
structure SeqState (Hash : Type) where
  attempts : Attempts Hash
  clock : DateTime

/-- One call of a sequential history, with the reply it got. -/
def CallStep
    (cfg : Config Hash)
    (s : SeqState Hash)
    (e : Invocation cfg × Reply)
    (t : SeqState Hash) : Prop :=
  s.clock ≤ e.1.startedAt ∧
    e.2 = (invoke cfg s.attempts e.1).2 ∧
    t = ⟨(invoke cfg s.attempts e.1).1, e.1.finishedAt⟩

/-- Nothing cached yet. -/
def SeqState.init
    (clock : DateTime) : SeqState Hash where
  attempts := IndexedTable.empty
  clock := clock

/-- Every success is answered from storage inside its window. -/
def Replayable
    (history : List (Invocation cfg × Reply)) : Prop :=
  ∀ pre call mid retry reply post r,
    history = pre ++ (call, .ran (.ok r)) :: mid ++ (retry, reply) :: post →
    retry.request.scope = call.request.scope →
    retry.request.req.canonicalPayload = call.request.req.canonicalPayload →
    call.finishedAt < retry.startedAt →
    retry.startedAt < call.finishedAt + defaultReplayTtl →
    ∃ r', reply = .replayed r' ∧ r'.answer = r.answer

/-- The rows a call could be answered from still validate. -/
def StoredValidate
    (s : SeqState Hash)
    (call : Invocation cfg) : Prop :=
  ∀ row ∈ s.attempts, row.scope = call.request.scope →
    call.startedAt < row.expiresAt →
    (row.payloadHash = none ∨
      row.payloadHash = some (canonicalRequestHash cfg.engine call.request.req)) →
    (deserializerFor cfg.codec call.request.req.tool row.responseEnvelope).isSome

/-- A call admitted to run a tool that succeeds finds no expired row of its scope. -/
def NoExpiredRow
    (s : SeqState Hash)
    (call : Invocation cfg) : Prop :=
  (∃ r, call.outcome = .ok r) →
    enforceInsertCeiling cfg.limits s.attempts call.request.scope.scopePrefix call.startedAt =
      none →
    ∀ row ∈ s.attempts, row.scope = call.request.scope → call.startedAt < row.expiresAt

/-- The steps whose stored bodies validate and that find no expired row. -/
def CleanStep
    (cfg : Config Hash) :
    SeqState Hash → Invocation cfg × Reply → SeqState Hash → Prop :=
  Restrict (CallStep cfg) (fun s e => StoredValidate s e.1 ∧ NoExpiredRow s e.1)

theorem mem_invoke_of_live
    {attempts : Attempts Hash} {call : Invocation cfg} {row : IdempotencyAttempt Hash}
    (hmem : row ∈ attempts)
    (hlive : call.finishedAt < row.expiresAt) :
    row ∈ (invoke cfg attempts call).1 := by
  unfold invoke
  split
  · exact hmem
  · exact hmem
  · split
    · exact hmem
    · exact mem_maybeEvictExpired_of_live (mem_cacheSuccess_of_mem hmem) hlive

/-- The row has expired, or it is still stored. -/
def ExpiredOrStored
    (row : IdempotencyAttempt Hash)
    (s : SeqState Hash) : Prop :=
  row.expiresAt ≤ s.clock ∨ row ∈ s.attempts

theorem expiredOrStored_preserved
    (row : IdempotencyAttempt Hash) :
    Preserved (CallStep cfg) (ExpiredOrStored row) := by
  rintro s ⟨call, reply⟩ t ⟨hclock, -, rfl⟩ hs
  by_cases hexp : row.expiresAt ≤ call.finishedAt
  · exact .inl hexp
  · have hlive : call.finishedAt < row.expiresAt := lt_of_not_ge hexp
    rcases hs with hpast | hmem
    · exact absurd (le_trans hpast (le_trans hclock call.ordered)) hexp
    · exact .inr (mem_invoke_of_live hmem hlive)

/-- A stored row stays in the table until it expires. -/
theorem live_row_of_run
    {s t : SeqState Hash} {es : List (Invocation cfg × Reply)}
    {row : IdempotencyAttempt Hash}
    (hrun : Run (CallStep cfg) s es t)
    (hmem : row ∈ s.attempts) :
    ExpiredOrStored row t :=
  hrun.preserves (expiredOrStored_preserved row) (.inr hmem)

/-- A probe misses where nothing is live, or where the live body no longer validates. -/
theorem probe_miss
    {attempts : Attempts Hash} {k : KeyedRequest cfg} {now : DateTime}
    (h : probe cfg attempts k now = .ok none) :
    (attempts.findByKey k.scope now = none ∧
        enforceInsertCeiling cfg.limits attempts k.scope.scopePrefix now = none) ∨
      ∃ row ∈ attempts, row.scope = k.scope ∧ now < row.expiresAt ∧
        (row.payloadHash = none ∨
          row.payloadHash = some (canonicalRequestHash cfg.engine k.req)) ∧
        deserializerFor cfg.codec k.req.tool row.responseEnvelope = none := by
  unfold probe lookupCachedReplay at h
  cases hfind : attempts.findByKey k.scope now with
  | none =>
      rw [hfind] at h
      cases hceiling : enforceInsertCeiling cfg.limits attempts k.scope.scopePrefix now with
      | none => exact .inl ⟨rfl, rfl⟩
      | some retryAfter => simp [hceiling] at h
  | some row =>
      obtain ⟨hmem, hscope, hlive⟩ := attempts.findByKey_eq_some_iff.mp hfind
      refine .inr ⟨row, hmem, hscope, hlive, ?_⟩
      simp only [hfind, raiseOnPayloadConflict] at h
      by_cases hconf : row.payloadHash ≠ none ∧
          row.payloadHash ≠ some (canonicalRequestHash cfg.engine k.req)
      · simp [hconf] at h
      · simp only [hconf, if_false, Except.ok.injEq] at h
        refine ⟨?_, h⟩
        by_contra hno
        push Not at hno
        exact hconf hno

theorem invoke_ran_ok
    {attempts : Attempts Hash} {call : Invocation cfg} {r : AdcpResponse}
    (h : (invoke cfg attempts call).2 = .ran (.ok r)) :
    probe cfg attempts call.request call.startedAt = .ok none ∧
      call.outcome = .ok r ∧
      (invoke cfg attempts call).1 =
        recordAndEvict cfg attempts call.request call.finishedAt r call.evicts := by
  unfold invoke at h ⊢
  split at h
  · cases h
  · cases h
  · next hprobe =>
      split at h
      · cases h
      · next r' hout =>
          cases h
          refine ⟨hprobe, hout, ?_⟩
          simp only

/-- A call that runs its tool with no row in its scope stores its success. -/
theorem success_stored
    {attempts : Attempts Hash} {clock : DateTime} {call : Invocation cfg} {r : AdcpResponse}
    (hreply : (invoke cfg attempts call).2 = .ran (.ok r))
    (hvalid : StoredValidate ⟨attempts, clock⟩ call)
    (hclean : NoExpiredRow ⟨attempts, clock⟩ call) :
    successRow cfg call.request call.finishedAt r ∈ (invoke cfg attempts call).1 := by
  obtain ⟨hprobe, hout, htable⟩ := invoke_ran_ok hreply
  have hno : ∀ row ∈ attempts, row.scope ≠ call.request.scope := by
    rcases probe_miss hprobe with ⟨hnone, hceiling⟩ | ⟨row, hmem, hscope, hlive, hhash, hbad⟩
    · intro row hmem hscope
      have hexpired := attempts.findByKey_eq_none_iff.mp hnone row hmem hscope
      have hlive := hclean ⟨r, hout⟩ hceiling row hmem hscope
      exact absurd hexpired (not_le_of_gt hlive)
    · have hsome := hvalid row hmem hscope hlive hhash
      rw [hbad] at hsome
      cases hsome
  rw [htable]
  refine mem_maybeEvictExpired_of_live (cacheSuccess_of_no_row hno) ?_
  exact Int.lt_add_of_pos_right _ defaultReplayTtl_pos

theorem replayed_of_row
    (hcodec : cfg.codec.Faithful)
    {attempts : Attempts Hash} {clock : DateTime} {call retry : Invocation cfg}
    {r : AdcpResponse}
    (hout : call.outcome = .ok r)
    (hmem : successRow cfg call.request call.finishedAt r ∈ attempts)
    (hscope : retry.request.scope = call.request.scope)
    (hpayload : retry.request.req.canonicalPayload = call.request.req.canonicalPayload)
    (hlive : retry.startedAt < call.finishedAt + defaultReplayTtl)
    (hvalid : StoredValidate ⟨attempts, clock⟩ retry) :
    ∃ r', (invoke cfg attempts retry).2 = .replayed r' ∧ r'.answer = r.answer := by
  have hhash : canonicalRequestHash cfg.engine call.request.req =
      canonicalRequestHash cfg.engine retry.request.req := by
    rw [canonicalRequestHash, canonicalRequestHash, hpayload]
  have hstored : (successRow cfg call.request call.finishedAt r).payloadHash =
      some (canonicalRequestHash cfg.engine retry.request.req) :=
    congrArg some hhash
  have hsome := hvalid _ hmem hscope.symm hlive (.inr hstored)
  obtain ⟨r', hrevive⟩ := Option.isSome_iff_exists.mp hsome
  have hprobe : probe cfg attempts retry.request retry.startedAt = .ok (some r') := by
    rw [← hrevive]
    exact lookupCachedReplay_hit hmem hscope.symm hlive hstored
  refine ⟨r', by simp only [invoke, hprobe], ?_⟩
  rw [deserializerFor, Option.map_eq_some_iff] at hrevive
  obtain ⟨revived, hrevived, rfl⟩ := hrevive
  have htool : retry.request.req.tool = r.tool := by
    rw [call.typed r hout]
    exact BuyerRequest.tool_eq_of_canonicalPayload_eq hpayload
  rw [htool] at hrevived
  exact hcodec r revived hrevived

/-- Every success of a history is replayable, if no call finds an expired row. -/
theorem replayable_of_run
    (hcodec : cfg.codec.Faithful)
    {clock : DateTime} {history : List (Invocation cfg × Reply)} {t : SeqState Hash}
    (hrun : Run (CleanStep cfg) (SeqState.init clock) history t) :
    Replayable history := by
  intro pre call mid retry reply post r hhist hscope hpayload hlt hlive
  subst hhist
  rw [List.append_assoc] at hrun
  obtain ⟨s₁, -, hrest⟩ := hrun.split
  obtain ⟨s₂, ⟨⟨-, hreply, rfl⟩, hvalid, hclean⟩, hrest⟩ := hrest.uncons
  obtain ⟨s₃, hmid, hrest⟩ := hrest.split
  obtain ⟨s₄, ⟨⟨hclock, hreply', -⟩, hvalid', -⟩, -⟩ := hrest.uncons
  have hstored := success_stored hreply.symm hvalid hclean
  have hlate := live_row_of_run hmid.of_restrict hstored
  have hmem : successRow cfg call.request call.finishedAt r ∈ s₃.attempts := by
    rcases hlate with hexp | hmem
    · exact absurd (le_trans hexp hclock) (not_le_of_gt hlive)
    · exact hmem
  have hout := (invoke_ran_ok hreply.symm).2.1
  obtain ⟨r', hans, hsame⟩ :=
    replayed_of_row hcodec hout hmem hscope hpayload hlive hvalid'
  exact ⟨r', hreply'.trans hans, hsame⟩

end Sequential

section Samples

/-- A sync of one creative, as it is retried under its key. -/
def syncKeyed : KeyedRequest sampleConfig where
  req :=
    { tool := .syncCreatives
      fields :=
        [("account", .str "acc"),
          ("creatives", .arr [.obj [("creative_id", .str "c1"), ("name", .str "Banner")]]),
          ("idempotency_key", .str "key-0123456789abcdef")]
      idempotencyKey := some "key-0123456789abcdef"
      has_required := by
        simp [Tool.requiredFields, Fields.HasKey]
      only_declared := by
        simp [sampleConfig, sampleSchemas, Tool.requiredFields, Fields.HasKey] }
  identity := ⟨"tenant", some "principal", some "acc"⟩
  scope := ⟨"tenant", "principal", some "acc", "key-0123456789abcdef"⟩
  keyed := by
    simp [keyedScope, PublicIdentity.replayScope]

/-- What the sync answers: it creates the creative, and finds it unchanged later. -/
def syncResponse
    (action : String) : AdcpResponse where
  tool := .syncCreatives
  status := some "completed"
  body := .obj [("creatives",
    .arr [.obj [("creative_id", .str "c1"), ("action", .str action)]])]

/-- A sync that succeeds if its tool runs; eviction does not fire. -/
def syncCall
    (action : String)
    (startedAt finishedAt : DateTime)
    (ordered : startedAt ≤ finishedAt := by decide) : Invocation sampleConfig where
  request := syncKeyed
  startedAt := startedAt
  finishedAt := finishedAt
  outcome := .ok (syncResponse action)
  evicts := false
  ordered := ordered
  typed := by
    rintro r hr
    cases hr
    rfl

/-- The table after a sync that finished at instant 1. -/
def afterFirst : Attempts Json where
  rows := [successRow sampleConfig syncKeyed 1 (syncResponse "created")]
  unique := List.pairwise_singleton _ _

/-- A sync at instant 0. -/
def firstCall : Invocation sampleConfig :=
  syncCall "created" 0 1

/-- A history of a sync and a retry inside the window. -/
theorem replayable_within_window :
    Replayable
      [(firstCall, .ran (.ok (syncResponse "created"))),
        (syncCall "unchanged" 2 3,
          .replayed { syncResponse "created" with replayed := true })] := by
  have hrun : Run (CleanStep sampleConfig) (SeqState.init 0)
      [(firstCall, .ran (.ok (syncResponse "created"))),
        (syncCall "unchanged" 2 3, .replayed { syncResponse "created" with replayed := true })]
      ⟨afterFirst, 3⟩ := by
    refine .cons (t := ⟨afterFirst, 1⟩) ⟨⟨by decide, rfl, rfl⟩, ?_, ?_⟩ ?_
    · intro row hmem
      exact absurd hmem (IndexedTable.not_mem_empty row)
    · intro _ _ row hmem
      exact absurd hmem (IndexedTable.not_mem_empty row)
    refine .single ⟨⟨by decide, rfl, rfl⟩, ?_, ?_⟩
    · intro row hmem _ _ _
      rw [List.mem_singleton.mp hmem]
      rfl
    · intro _ _ row hmem _
      rw [List.mem_singleton.mp hmem]
      decide
  exact replayable_of_run sampleCodec_faithful hrun

/-- A retry of the sync once its row has expired. -/
def expiredCall : Invocation sampleConfig :=
  syncCall "unchanged" 86400000001 86400000002

/-- A retry of that retry, one microsecond later. -/
def retryCall : Invocation sampleConfig :=
  syncCall "unchanged" 86400000003 86400000004

theorem expired_row_run :
    Run (Restrict (CallStep sampleConfig) (fun s e => StoredValidate s e.1))
      (SeqState.init 0)
      [(firstCall, .ran (.ok (syncResponse "created"))),
        (expiredCall, .ran (.ok (syncResponse "unchanged"))),
        (retryCall, .ran (.ok (syncResponse "unchanged")))]
      ⟨afterFirst, 86400000004⟩ := by
  have hvalid : ∀ clock (call : Invocation sampleConfig), 86400000001 ≤ call.startedAt →
      StoredValidate ⟨afterFirst, clock⟩ call := by
    intro clock call hlate row hmem _ hlive
    have hrow := List.mem_singleton.mp hmem
    subst hrow
    exact absurd hlive (not_lt_of_ge hlate)
  refine .cons (t := ⟨afterFirst, 1⟩) ⟨⟨by decide, rfl, rfl⟩, ?_⟩ ?_
  · intro row hmem
    exact absurd hmem (IndexedTable.not_mem_empty row)
  refine .cons (t := ⟨afterFirst, 86400000002⟩) ⟨⟨by decide, rfl, rfl⟩, ?_⟩ ?_
  · exact hvalid _ _ (by decide)
  refine .single ⟨⟨by decide, rfl, rfl⟩, ?_⟩
  exact hvalid _ _ (by decide)

/-- With no eviction in between, the second success is not replayable. -/
theorem not_replayable :
    ¬ ∀ (history : List (Invocation sampleConfig × Reply)) (t : SeqState Json),
      Run (Restrict (CallStep sampleConfig) (fun s e => StoredValidate s e.1))
        (SeqState.init 0) history t →
      Replayable history := by
  intro h
  have hbad := h _ _ expired_row_run
  have hretry := hbad [_] expiredCall [] retryCall _ [] _ rfl rfl rfl (by decide) (by decide)
  obtain ⟨r', hreply, -⟩ := hretry
  cases hreply

end Samples

end Boundary
end SalesAgent
