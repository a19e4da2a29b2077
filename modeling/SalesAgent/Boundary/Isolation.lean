import SalesAgent.Boundary.Invoke

/-!
# Conflict and isolation of cached responses

The cache lookup has no tool dimension and the stored body is revived with the
model of the tool being called.  A replay is nevertheless an answer to the same
request: every cached row was written by a success of the history, the row of a
scope is found only under that scope, and two requests with one canonical
payload are requests of one tool.

**Results.**
* `Traced.of_run`: along every run, every cached row was written by a success
  of the history.
* `replay_origin`, `conflict_of_other_payload`, `attempts_of_failure`: the
  three parts of the isolation law, assembled in `conflict_and_isolation`.
-/

namespace SalesAgent
namespace Boundary

open Idempotency Runs

section Isolation

variable {Hash : Type} [DecidableEq Hash] {cfg : Config Hash}

/-- The success that wrote a row, as the history records it. -/
def WrittenBy
    (es : List (Event cfg))
    (row : IdempotencyAttempt Hash)
    (k : KeyedRequest cfg)
    (at_ : DateTime)
    (r : AdcpResponse) : Prop :=
  (∃ evicts, Event.finished k at_ (.ok r) evicts ∈ es) ∧
    r.tool = k.req.tool ∧
    row = successRow cfg k at_ r

/-- Every cached row was written by a success of the history. -/
def Traced
    (es : List (Event cfg))
    (s : State cfg) : Prop :=
  ∀ row ∈ s.attempts, ∃ k at_ r, WrittenBy es row k at_ r

omit [DecidableEq Hash] in
theorem WrittenBy.append
    {es fs : List (Event cfg)} {row : IdempotencyAttempt Hash} {k : KeyedRequest cfg}
    {at_ : DateTime} {r : AdcpResponse}
    (h : WrittenBy es row k at_ r) :
    WrittenBy (es ++ fs) row k at_ r := by
  obtain ⟨⟨evicts, hmem⟩, htool, hrow⟩ := h
  exact ⟨⟨evicts, List.mem_append_left fs hmem⟩, htool, hrow⟩

omit [DecidableEq Hash] in
theorem Traced.init :
    Traced [] (State.init cfg) := by
  intro row hrow
  exact absurd hrow (IndexedTable.not_mem_empty row)

/-- Each step keeps the rows traced to the history it extends. -/
theorem Traced.step
    {es : List (Event cfg)} {s t : State cfg} {e : Event cfg}
    (hs : Traced es s)
    (hstep : Step cfg s e t) :
    Traced (es ++ [e]) t := by
  intro row hrow
  have hold : row ∈ s.attempts → ∃ k at_ r, WrittenBy (es ++ [e]) row k at_ r := by
    intro hmem
    obtain ⟨k, at_, r, hwritten⟩ := hs row hmem
    exact ⟨k, at_, r, hwritten.append⟩
  cases hstep with
  | refused _ => exact hold hrow
  | replayed _ => exact hold hrow
  | started _ => exact hold hrow
  | failed _ => exact hold hrow
  | succeeded _ htool =>
      rcases mem_recordAndEvict hrow with hnew | hmem
      · exact ⟨_, _, _, ⟨_, List.mem_append_right es (List.mem_singleton.mpr rfl)⟩,
          htool, hnew⟩
      · exact hold hmem

/-- Along every run, the rows are traced to the history. -/
theorem Traced.of_run
    {es : List (Event cfg)} {s : State cfg}
    (hrun : Run (Step cfg) (State.init cfg) es s) :
    Traced es s := by
  have h := hrun.preserves_history (fun _ _ _ _ hs hstep => Traced.step hs hstep) Traced.init
  simpa using h

/-- A replay is the stored body of an earlier success of the same request. -/
theorem replay_origin
    (hhash : Function.Injective cfg.engine.canonicalJsonSha256)
    (hcodec : cfg.codec.Faithful)
    {es : List (Event cfg)} {s : State cfg}
    (htraced : Traced es s)
    {k : KeyedRequest cfg} {now : DateTime} {r : AdcpResponse}
    (hprobe : probe cfg s.attempts k now = .ok (some r)) :
    ∃ k₀ at_ r₀, (∃ evicts, Event.finished k₀ at_ (.ok r₀) evicts ∈ es) ∧
      k₀.scope = k.scope ∧
      k₀.req.tool = k.req.tool ∧
      k₀.req.canonicalPayload = k.req.canonicalPayload ∧
      now < at_ + defaultReplayTtl ∧
      r.answer = r₀.answer := by
  obtain ⟨row, hmem, hscope, hlive, hhashes, hrevive⟩ := lookupCachedReplay_eq_some hprobe
  obtain ⟨k₀, at_, r₀, hevent, htool, rfl⟩ := htraced row hmem
  have hpayload : k₀.req.canonicalPayload = k.req.canonicalPayload := by
    rcases hhashes with hnone | hsome
    · cases hnone
    · exact hhash (Option.some.inj hsome)
  have htools : k₀.req.tool = k.req.tool :=
    BuyerRequest.tool_eq_of_canonicalPayload_eq hpayload
  refine ⟨k₀, at_, r₀, hevent, hscope, htools, hpayload, hlive, ?_⟩
  rw [deserializerFor, Option.map_eq_some_iff] at hrevive
  obtain ⟨revived, hrevived, rfl⟩ := hrevive
  rw [← htools, ← htool] at hrevived
  exact hcodec r₀ revived hrevived

/-- A live row of another payload answers IDEMPOTENCY_CONFLICT. -/
theorem conflict_of_other_payload
    (hhash : Function.Injective cfg.engine.canonicalJsonSha256)
    {es : List (Event cfg)} {attempts : Attempts Hash} {row : IdempotencyAttempt Hash}
    {k k₀ : KeyedRequest cfg} {at_ now : DateTime} {r₀ : AdcpResponse}
    (hmem : row ∈ attempts)
    (hwritten : WrittenBy es row k₀ at_ r₀)
    (hscope : row.scope = k.scope)
    (hlive : now < row.expiresAt)
    (hne : k₀.req.canonicalPayload ≠ k.req.canonicalPayload) :
    probe cfg attempts k now = .error .idempotencyConflict := by
  obtain ⟨-, -, rfl⟩ := hwritten
  refine lookupCachedReplay_conflict hmem hscope hlive rfl ?_
  intro heq
  exact hne (hhash heq)

/-- An answer without a success leaves the cached rows as they were. -/
theorem attempts_of_failure
    {s t : State cfg} {e : Event cfg}
    (hstep : Step cfg s e t)
    (hfail : ∀ k now r evicts, e ≠ .finished k now (.ok r) evicts) :
    t.attempts = s.attempts := by
  cases hstep with
  | refused _ => rfl
  | replayed _ => rfl
  | started _ => rfl
  | failed _ => rfl
  | succeeded _ _ => exact absurd rfl (hfail _ _ _ _)

/-- What a request is answered from, over every interleaved history. -/
theorem conflict_and_isolation
    (hhash : Function.Injective cfg.engine.canonicalJsonSha256)
    (hcodec : cfg.codec.Faithful)
    {es : List (Event cfg)} {s : State cfg}
    (hrun : Run (Step cfg) (State.init cfg) es s) :
    (∀ k now r t, Step cfg s (.answered k now (.ok r)) t →
      ∃ k₀ at_ r₀, (∃ evicts, Event.finished k₀ at_ (.ok r₀) evicts ∈ es) ∧
        k₀.scope = k.scope ∧
        k₀.req.tool = k.req.tool ∧
        k₀.req.canonicalPayload = k.req.canonicalPayload ∧
        now < at_ + defaultReplayTtl ∧
        r.answer = r₀.answer) ∧
    (∀ row ∈ s.attempts, ∃ k₀ at_ r₀, WrittenBy es row k₀ at_ r₀ ∧
      ∀ (k : KeyedRequest cfg) (now : DateTime),
        row.scope = k.scope →
        now < row.expiresAt →
        k₀.req.canonicalPayload ≠ k.req.canonicalPayload →
        (∀ t, ¬ Step cfg s (.started k now) t) ∧
        Step cfg s (.answered k now (.error .idempotencyConflict)) s ∧
        ∀ answer t, Step cfg s (.answered k now answer) t →
          answer = .error .idempotencyConflict) ∧
    (∀ e t, Step cfg s e t →
      (∀ k now r evicts, e ≠ .finished k now (.ok r) evicts) →
      t.attempts = s.attempts) := by
  have htraced := Traced.of_run hrun
  refine ⟨?_, ?_, fun e t hstep hfail => attempts_of_failure hstep hfail⟩
  · intro k now r t hstep
    cases hstep with
    | replayed hprobe => exact replay_origin hhash hcodec htraced hprobe
  · intro row hmem
    obtain ⟨k₀, at_, r₀, hwritten⟩ := htraced row hmem
    refine ⟨k₀, at_, r₀, hwritten, ?_⟩
    intro k now hscope hlive hne
    have hprobe := conflict_of_other_payload hhash hmem hwritten hscope hlive hne
    refine ⟨?_, .refused hprobe, ?_⟩
    · intro t hstep
      cases hstep with
      | started hmiss =>
          rw [hprobe] at hmiss
          cases hmiss
    · intro answer t hstep
      cases hstep with
      | refused herr =>
          rw [hprobe] at herr
          cases herr
          rfl
      | replayed hhit =>
          rw [hprobe] at hhit
          cases hhit

end Isolation

section OtherPayload

/-- Once a create succeeded, its key does not serve a create of another brand. -/
theorem other_brand_conflicts :
    ∃ s, Run (Step sampleConfig) (State.init sampleConfig)
        [.started (sampleKeyed "acme") 0,
          .finished (sampleKeyed "acme") 1 (.ok (sampleResponse "acme")) false] s ∧
      Step sampleConfig s
        (.answered (sampleKeyed "rival") 2 (.error .idempotencyConflict)) s ∧
      ∀ answer t, Step sampleConfig s (.answered (sampleKeyed "rival") 2 answer) t →
        answer = .error .idempotencyConflict := by
  have hrun : Run (Step sampleConfig) (State.init sampleConfig)
      [.started (sampleKeyed "acme") 0,
        .finished (sampleKeyed "acme") 1 (.ok (sampleResponse "acme")) false]
      ⟨recordAndEvict sampleConfig IndexedTable.empty (sampleKeyed "acme") 1
        (sampleResponse "acme") false, []⟩ :=
    .cons (Step.started rfl) (.single (Step.succeeded_first rfl))
  refine ⟨_, hrun, ?_⟩
  have hmem : successRow sampleConfig (sampleKeyed "acme") 1 (sampleResponse "acme") ∈
      recordAndEvict sampleConfig IndexedTable.empty (sampleKeyed "acme") 1
        (sampleResponse "acme") false :=
    List.mem_singleton.mpr rfl
  obtain ⟨-, hrows, -⟩ :=
    conflict_and_isolation Function.injective_id sampleCodec_faithful hrun
  obtain ⟨k₀, at_, r₀, hwritten, hconflict⟩ := hrows _ hmem
  obtain ⟨⟨evicts, hevent⟩, -, -⟩ := hwritten
  have hk₀ : k₀ = sampleKeyed "acme" := by
    simp at hevent
    exact hevent.1
  subst hk₀
  exact (hconflict (sampleKeyed "rival") 2 rfl (by decide) (by decide)).2

end OtherPayload

end Boundary
end SalesAgent
