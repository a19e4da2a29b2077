import SalesAgent.Idempotency.Attempts

/-!
# The shared replay path: probe, conflict, cache, evict

A keyed request is looked up before its tool runs and stored after the tool
succeeded.  Turning a stored body back into a typed response is pydantic's
work, so the codec is a parameter; what it must do on the responses of the tool
it is asked for is `ResponseCodec.Faithful` and `ResponseCodec.Validates`.

**Results.**
* `lookupCachedReplay_eq_some`: a replay comes from the live row of the scope,
  whose hash is the request's.
* `lookupCachedReplay_conflict`: a live row with another hash is a conflict.
* `mem_cacheSuccess`: what the best-effort write can leave in the table.
-/

namespace SalesAgent
namespace Idempotency

/-- A response as the boundary handles it. -/
structure AdcpResponse where
  tool : Tool
  status : Option String
  body : Json
  replayed : Bool := false
  adcpVersion : Option String := none
  context : Option Json := none

/-- What a response says, its replay marker, version and context apart. -/
def AdcpResponse.answer
    (r : AdcpResponse) : Tool × Option String × Json :=
  (r.tool, r.status, r.body)

/-- `response_model.model_dump(mode="json")` and `AdcpResponse.revive`. -/
structure ResponseCodec where
  modelDump : AdcpResponse → Json
  revive : Tool → Json → Option AdcpResponse

namespace ResponseCodec

/-- A body that its own tool's model accepts revives to the response dumped. -/
def Faithful
    (codec : ResponseCodec) : Prop :=
  ∀ r r', codec.revive r.tool (codec.modelDump r) = some r' → r'.answer = r.answer

end ResponseCodec

/-- The failures a keyed request can be answered with. -/
inductive AdcpError
  | idempotencyConflict
  | idempotencyExpired
  | rateLimited (retryAfter : Int)
  | serviceUnavailable (retryAfter : Int)
  | configurationError (idempotencyKey : String)
  | raised (code : String)
  deriving DecidableEq, Repr

section Probe

variable {Hash : Type} [DecidableEq Hash]

/-- The same key with a different canonical payload. -/
def raiseOnPayloadConflict
    (storedHash requestHash : Option Hash) : Except AdcpError Unit :=
  if storedHash ≠ none ∧ storedHash ≠ requestHash then
    .error .idempotencyConflict
  else
    .ok ()

/-- Rebuild a stored response with the called tool's model and mark it. -/
def deserializerFor
    (codec : ResponseCodec)
    (tool : Tool)
    (envelope : Envelope) : Option AdcpResponse :=
  (codec.revive tool envelope.response).map (fun r => { r with replayed := true })

/-- The replayed response, or `none` for a miss. -/
def lookupCachedReplay
    (limits : LimitSettings)
    (attempts : Attempts Hash)
    (scope : Scope)
    (requestHash : Hash)
    (deserialize : Envelope → Option AdcpResponse)
    (now : DateTime)
    (enforceCeiling : Bool := true) : Except AdcpError (Option AdcpResponse) :=
  match attempts.findByKey scope now with
  | none =>
      match enforceCeiling, enforceInsertCeiling limits attempts scope.scopePrefix now with
      | true, some retryAfter => .error (.rateLimited retryAfter)
      | _, _ => .ok none
  | some cached =>
      match raiseOnPayloadConflict cached.payloadHash (some requestHash) with
      | .error err => .error err
      | .ok () => .ok (deserialize cached.responseEnvelope)

@[simp] theorem raiseOnPayloadConflict_some
    (stored request : Hash) :
    raiseOnPayloadConflict (some stored) (some request) =
      if stored = request then .ok () else .error .idempotencyConflict := by
  by_cases h : stored = request <;> simp [raiseOnPayloadConflict, h]

variable {limits : LimitSettings} {attempts : Attempts Hash} {scope : Scope}
variable {requestHash : Hash} {deserialize : Envelope → Option AdcpResponse}
variable {now : DateTime} {ceiling : Bool}

theorem lookupCachedReplay_of_miss
    (hmiss : attempts.findByKey scope now = none)
    {r : AdcpResponse} :
    lookupCachedReplay limits attempts scope requestHash deserialize now ceiling ≠
      .ok (some r) := by
  intro h
  simp only [lookupCachedReplay, hmiss] at h
  split at h <;> cases h

/-- A replay is the stored body of the scope's live row, under an equal hash. -/
theorem lookupCachedReplay_eq_some
    {r : AdcpResponse}
    (h : lookupCachedReplay limits attempts scope requestHash deserialize now ceiling =
      .ok (some r)) :
    ∃ row ∈ attempts, row.scope = scope ∧ now < row.expiresAt ∧
      (row.payloadHash = none ∨ row.payloadHash = some requestHash) ∧
      deserialize row.responseEnvelope = some r := by
  cases hfind : attempts.findByKey scope now with
  | none =>
      exact absurd h (lookupCachedReplay_of_miss hfind)
  | some row =>
      obtain ⟨hmem, hscope, hlive⟩ := attempts.findByKey_eq_some_iff.mp hfind
      refine ⟨row, hmem, hscope, hlive, ?_⟩
      simp only [lookupCachedReplay, hfind, raiseOnPayloadConflict] at h
      by_cases hconf : row.payloadHash ≠ none ∧ row.payloadHash ≠ some requestHash
      · simp [hconf] at h
      · simp only [hconf, if_false, Except.ok.injEq] at h
        refine ⟨?_, h⟩
        by_contra hno
        push Not at hno
        exact hconf hno

/-- A live row under another hash answers IDEMPOTENCY_CONFLICT. -/
theorem lookupCachedReplay_conflict
    {row : IdempotencyAttempt Hash} {stored : Hash}
    (hmem : row ∈ attempts)
    (hscope : row.scope = scope)
    (hlive : now < row.expiresAt)
    (hstored : row.payloadHash = some stored)
    (hne : stored ≠ requestHash) :
    lookupCachedReplay limits attempts scope requestHash deserialize now ceiling =
      .error .idempotencyConflict := by
  have hfind : attempts.findByKey scope now = some row :=
    attempts.findByKey_eq_some_iff.mpr ⟨hmem, hscope, hlive⟩
  simp [lookupCachedReplay, hfind, hstored, hne]

theorem lookupCachedReplay_hit
    {row : IdempotencyAttempt Hash}
    (hmem : row ∈ attempts)
    (hscope : row.scope = scope)
    (hlive : now < row.expiresAt)
    (hstored : row.payloadHash = some requestHash) :
    lookupCachedReplay limits attempts scope requestHash deserialize now ceiling =
      .ok (deserialize row.responseEnvelope) := by
  have hfind : attempts.findByKey scope now = some row :=
    attempts.findByKey_eq_some_iff.mpr ⟨hmem, hscope, hlive⟩
  simp [lookupCachedReplay, hfind, hstored]

end Probe

section Store

variable {Hash : Type}

/-- Store a success; a unique violation is logged and leaves the table as it was. -/
def cacheSuccess
    (attempts : Attempts Hash)
    (scope : Scope)
    (toolName : String)
    (envelope : Envelope)
    (payloadHash : Hash)
    (now : DateTime) : Attempts Hash :=
  (attempts.recordSuccess scope toolName envelope payloadHash now).getD attempts

/-- Reclaim the tenant's expired rows when the draw says so. -/
def maybeEvictExpired
    (attempts : Attempts Hash)
    (fires : Bool)
    (tenantId : String)
    (now : DateTime) : Attempts Hash :=
  if fires then attempts.expireOld tenantId now else attempts

variable {attempts : Attempts Hash} {scope : Scope} {requestHash : Hash} {now : DateTime}

/-- Whatever the best-effort write leaves was stored before or is the success's row. -/
theorem mem_cacheSuccess
    {toolName : String} {envelope : Envelope} {row : IdempotencyAttempt Hash}
    (h : row ∈ cacheSuccess attempts scope toolName envelope requestHash now) :
    row = ⟨scope, toolName, envelope, some requestHash, now + defaultReplayTtl, now⟩ ∨
      row ∈ attempts := by
  unfold cacheSuccess at h
  cases hrec : attempts.recordSuccess scope toolName envelope requestHash now with
  | none =>
      rw [hrec] at h
      exact .inr h
  | some attempts' =>
      rw [hrec] at h
      exact (Attempts.mem_recordSuccess hrec row).mp h

theorem mem_cacheSuccess_of_mem
    {toolName : String} {envelope : Envelope} {row : IdempotencyAttempt Hash}
    (h : row ∈ attempts) :
    row ∈ cacheSuccess attempts scope toolName envelope requestHash now := by
  unfold cacheSuccess
  cases hrec : attempts.recordSuccess scope toolName envelope requestHash now with
  | none =>
      exact h
  | some attempts' =>
      exact (Attempts.mem_recordSuccess hrec row).mpr (.inr h)

theorem cacheSuccess_of_no_row
    {toolName : String} {envelope : Envelope}
    (hno : ∀ row ∈ attempts, row.scope ≠ scope) :
    (⟨scope, toolName, envelope, some requestHash, now + defaultReplayTtl, now⟩ :
        IdempotencyAttempt Hash) ∈
      cacheSuccess attempts scope toolName envelope requestHash now := by
  have hsome : (attempts.recordSuccess scope toolName envelope requestHash now).isSome :=
    attempts.recordSuccess_isSome_iff.mpr hno
  obtain ⟨attempts', hrec⟩ := Option.isSome_iff_exists.mp hsome
  rw [cacheSuccess, hrec]
  exact (Attempts.mem_recordSuccess hrec _).mpr (.inl rfl)

theorem mem_maybeEvictExpired
    {fires : Bool} {tenantId : String} {row : IdempotencyAttempt Hash}
    (h : row ∈ maybeEvictExpired attempts fires tenantId now) :
    row ∈ attempts := by
  unfold maybeEvictExpired at h
  split at h
  · exact ((attempts.mem_expireOld tenantId now row).mp h).1
  · exact h

theorem mem_maybeEvictExpired_of_live
    {fires : Bool} {tenantId : String} {row : IdempotencyAttempt Hash}
    (h : row ∈ attempts)
    (hlive : now < row.expiresAt) :
    row ∈ maybeEvictExpired attempts fires tenantId now := by
  unfold maybeEvictExpired
  split
  · exact (attempts.mem_expireOld tenantId now row).mpr ⟨h, fun _ => hlive⟩
  · exact h

end Store

end Idempotency
end SalesAgent
