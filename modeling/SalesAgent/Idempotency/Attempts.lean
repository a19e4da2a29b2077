import SalesAgent.DateTime
import SalesAgent.Idempotency.Canonical
import SalesAgent.Lib.IndexedTable

/-!
# The idempotency-attempt repository and its admission policy

`IdempotencyAttempt` rows cache verbatim success envelopes.  Their unique index
is the scope (tenant, principal, account, key) exactly: the tool name and the
expiry are columns outside it.  A lookup filters on the expiry, the index does
not.

**Results.**
* `findByKey_eq_some_iff`: a lookup returns the live row of the scope.
* `recordSuccess_isSome_iff`: an insert is refused exactly when the scope has
  a row, live or expired.
-/

namespace SalesAgent
namespace Idempotency

/-- The tuple a cached success is unique under. -/
structure Scope where
  tenantId : String
  principalId : String
  accountId : Option String
  idempotencyKey : String
  deriving DecidableEq, Repr

/-- The isolation prefix every scoped query shares. -/
structure ScopePrefix where
  tenantId : String
  principalId : String
  accountId : Option String
  deriving DecidableEq, Repr

/-- The prefix of a scope. -/
def Scope.scopePrefix
    (scope : Scope) : ScopePrefix where
  tenantId := scope.tenantId
  principalId := scope.principalId
  accountId := scope.accountId

/-- The stored success: the protocol status and the dumped response. -/
structure Envelope where
  status : String
  response : Json

/-- One cached success. -/
structure IdempotencyAttempt (Hash : Type) where
  scope : Scope
  toolName : String
  responseEnvelope : Envelope
  payloadHash : Option Hash
  expiresAt : DateTime
  createdAt : DateTime

/-- The index `idx_idempotency_attempts_lookup`: every row is in it. -/
def attemptKey
    {Hash : Type}
    (row : IdempotencyAttempt Hash) : Option Scope :=
  some row.scope

/-- The table `idempotency_attempts`. -/
abbrev Attempts (Hash : Type) :=
  IndexedTable (IdempotencyAttempt Hash) Scope attemptKey

/-- `DEFAULT_REPLAY_TTL`: 24 hours. -/
def defaultReplayTtl : Timedelta :=
  Timedelta.seconds 86400

theorem defaultReplayTtl_pos :
    0 < defaultReplayTtl := by
  decide

namespace Attempts

variable {Hash : Type}

/-- The live row of a scope. -/
def findByKey
    (attempts : Attempts Hash)
    (scope : Scope)
    (now : DateTime) : Option (IdempotencyAttempt Hash) :=
  attempts.rows.find? (fun row => row.scope = scope ∧ now < row.expiresAt)

/-- The row of a scope, expired or not. -/
def findIncludingExpired
    (attempts : Attempts Hash)
    (scope : Scope) : Option (IdempotencyAttempt Hash) :=
  attempts.find scope

/-- Insert the row of a success; `none` is the unique violation. -/
def recordSuccess
    (attempts : Attempts Hash)
    (scope : Scope)
    (toolName : String)
    (responseEnvelope : Envelope)
    (payloadHash : Hash)
    (now : DateTime) : Option (Attempts Hash) :=
  attempts.insert
    { scope := scope
      toolName := toolName
      responseEnvelope := responseEnvelope
      payloadHash := some payloadHash
      expiresAt := now + defaultReplayTtl
      createdAt := now }

/-- Rows of the prefix created after `since`, and the oldest creation. -/
def countInsertsSince
    (attempts : Attempts Hash)
    (scope : ScopePrefix)
    (since : DateTime) : Nat × Option DateTime :=
  let inWindow := attempts.rows.filter
    (fun row => row.scope.scopePrefix = scope ∧ since < row.createdAt)
  (inWindow.length, (inWindow.map (·.createdAt)).min?)

/-- Live rows of the prefix, and the oldest expiry. -/
def countActive
    (attempts : Attempts Hash)
    (scope : ScopePrefix)
    (now : DateTime) : Nat × Option DateTime :=
  let active := attempts.rows.filter
    (fun row => row.scope.scopePrefix = scope ∧ now < row.expiresAt)
  (active.length, (active.map (·.expiresAt)).min?)

/-- Delete the tenant's expired rows. -/
def expireOld
    (attempts : Attempts Hash)
    (tenantId : String)
    (now : DateTime) : Attempts Hash :=
  attempts.deleteWhere
    (fun row => decide (row.scope.tenantId = tenantId ∧ row.expiresAt ≤ now))

theorem findByKey_eq_some_iff
    (attempts : Attempts Hash)
    {scope : Scope} {now : DateTime} {row : IdempotencyAttempt Hash} :
    attempts.findByKey scope now = some row ↔
      row ∈ attempts ∧ row.scope = scope ∧ now < row.expiresAt := by
  constructor
  · intro h
    have hlive := List.find?_some h
    exact ⟨List.mem_of_find?_eq_some h, by simpa using hlive⟩
  · rintro ⟨hmem, hscope, hlive⟩
    cases hfind : attempts.findByKey scope now with
    | none =>
        have hnone := List.find?_eq_none.mp hfind row hmem
        simp [hscope, hlive] at hnone
    | some row' =>
        have hlive' : row'.scope = scope ∧ now < row'.expiresAt := by
          simpa using List.find?_some hfind
        have hmem' : row' ∈ attempts := List.mem_of_find?_eq_some hfind
        rw [attempts.eq_of_key_eq hmem' hmem (congrArg some hlive'.1) (congrArg some hscope)]

theorem findByKey_eq_none_iff
    (attempts : Attempts Hash)
    {scope : Scope} {now : DateTime} :
    attempts.findByKey scope now = none ↔
      ∀ row ∈ attempts, row.scope = scope → row.expiresAt ≤ now := by
  simp [findByKey, List.find?_eq_none, IndexedTable.mem_def]

/-- An insert is accepted exactly when the scope has no row, live or expired. -/
theorem recordSuccess_isSome_iff
    (attempts : Attempts Hash)
    {scope : Scope} {toolName : String} {envelope : Envelope} {hash : Hash}
    {now : DateTime} :
    (attempts.recordSuccess scope toolName envelope hash now).isSome ↔
      ∀ row ∈ attempts, row.scope ≠ scope := by
  rw [← not_iff_not, Option.not_isSome_iff_eq_none, recordSuccess,
    attempts.insert_eq_none_iff]
  simp [IndexedTable.Conflicts, attemptKey]

theorem mem_recordSuccess
    {attempts attempts' : Attempts Hash}
    {scope : Scope} {toolName : String} {envelope : Envelope} {hash : Hash}
    {now : DateTime}
    (h : attempts.recordSuccess scope toolName envelope hash now = some attempts')
    (row : IdempotencyAttempt Hash) :
    row ∈ attempts' ↔
      row = ⟨scope, toolName, envelope, some hash, now + defaultReplayTtl, now⟩ ∨
        row ∈ attempts :=
  IndexedTable.mem_insert h row

@[simp] theorem mem_expireOld
    (attempts : Attempts Hash)
    (tenantId : String)
    (now : DateTime)
    (row : IdempotencyAttempt Hash) :
    row ∈ attempts.expireOld tenantId now ↔
      row ∈ attempts ∧ (row.scope.tenantId = tenantId → now < row.expiresAt) := by
  simp [expireOld]

end Attempts

section AdmissionPolicy

variable {Hash : Type}

/-- The idempotency bounds of `LimitSettings`. -/
structure LimitSettings where
  idempotencyMaxActiveAttemptsPerScope : Nat := 1000
  idempotencyInsertRateWindowSeconds : Int := 10
  idempotencyMaxInsertsPerWindow : Nat := 300

/-- Upper bound of a published `retry_after`. -/
def retryAfterMax : Int := 3600

/-- Clamp a wait to the published `[1, 3600]` seconds. -/
def clampRetryAfter
    (wait : Timedelta) : Int :=
  min (max 1 wait.ceilSeconds) retryAfterMax

/-- Refuse a probe miss whose scope has no room; `some` is the `retry_after`. -/
def enforceInsertCeiling
    (limits : LimitSettings)
    (attempts : Attempts Hash)
    (scope : ScopePrefix)
    (now : DateTime) : Option Int :=
  let window := Timedelta.seconds limits.idempotencyInsertRateWindowSeconds
  let (recent, oldestInWindow) := attempts.countInsertsSince scope (now - window)
  if limits.idempotencyMaxInsertsPerWindow ≤ recent then
    let rawWait := match oldestInWindow with
      | some oldest => window - (now - oldest)
      | none => Timedelta.seconds 1
    some (min (clampRetryAfter rawWait) limits.idempotencyInsertRateWindowSeconds)
  else
    let (active, oldestExpiry) := attempts.countActive scope now
    if active < limits.idempotencyMaxActiveAttemptsPerScope then
      none
    else
      let rawWait := match oldestExpiry with
        | some oldest => oldest - now
        | none => Timedelta.seconds 1
      some (clampRetryAfter rawWait)

end AdmissionPolicy

end Idempotency
end SalesAgent
