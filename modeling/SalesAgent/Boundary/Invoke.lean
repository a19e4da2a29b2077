import SalesAgent.Idempotency.Replay
import SalesAgent.Lib.Runs

/-!
# The transport-neutral boundary: honour the key, run the tool

`_invoke` probes the replay cache, runs the implementation on a miss, and
stores a success.  Other requests run between those steps, so the boundary is
also a step relation over the cached rows and the requests past their probe:
a request is answered by its probe, starts, or finishes.

**Results.**
* `invoke_run`: one sequential `_invoke` is one or two steps of the relation,
  with the same table and the same answer.
* `mem_recordAndEvict`: a success leaves its own row, or rows that were there.
-/

namespace SalesAgent
namespace Boundary

open Idempotency Runs

/-- The caller a request was resolved for. -/
structure PublicIdentity where
  tenantId : String
  principalId : Option String
  accountId : Option String

/-- The scope the cache keys on; an anonymous caller has none. -/
def PublicIdentity.replayScope
    (identity : PublicIdentity) : Option ScopePrefix :=
  identity.principalId.map (fun principalId =>
    { tenantId := identity.tenantId
      principalId := principalId
      accountId := identity.accountId })

/-- What the boundary is configured with. -/
structure Config (Hash : Type) where
  schemas : ToolSchemas
  engine : HashEngine Hash
  codec : ResponseCodec
  limits : LimitSettings
  servedAdcpVersion : String

/-- The cache scope of a request, where it carries a key and a principal. -/
def keyedScope
    {schemas : ToolSchemas}
    (req : BuyerRequest schemas)
    (identity : PublicIdentity) : Option Scope :=
  match req.idempotencyKey with
  | none => none
  | some key =>
      if key = "" then
        none
      else
        identity.replayScope.map (fun p =>
          { tenantId := p.tenantId
            principalId := p.principalId
            accountId := p.accountId
            idempotencyKey := key })

/-- Stamp what the boundary owns: the release and the caller's context. -/
def served
    {Hash : Type}
    (cfg : Config Hash)
    (echo : Option Json)
    (r : AdcpResponse) : AdcpResponse :=
  { r with adcpVersion := some cfg.servedAdcpVersion, context := echo }

/-- A request that is cacheable: it carries a key and a principal. -/
structure KeyedRequest {Hash : Type} (cfg : Config Hash) where
  req : BuyerRequest cfg.schemas
  identity : PublicIdentity
  scope : Scope
  keyed : keyedScope req identity = some scope

section Invoke

variable {Hash : Type} [DecidableEq Hash]

/-- The probe of a keyed request: its hash, then the cache. -/
def probe
    (cfg : Config Hash)
    (attempts : Attempts Hash)
    (k : KeyedRequest cfg)
    (now : DateTime) : Except AdcpError (Option AdcpResponse) :=
  lookupCachedReplay cfg.limits attempts k.scope (canonicalRequestHash cfg.engine k.req)
    (deserializerFor cfg.codec k.req.tool) now

omit [DecidableEq Hash] in
/-- The row that records a success. -/
def successRow
    (cfg : Config Hash)
    (k : KeyedRequest cfg)
    (now : DateTime)
    (r : AdcpResponse) : IdempotencyAttempt Hash where
  scope := k.scope
  toolName := k.req.tool.name
  responseEnvelope := ⟨r.status.getD "completed", cfg.codec.modelDump r⟩
  payloadHash := some (canonicalRequestHash cfg.engine k.req)
  expiresAt := now + defaultReplayTtl
  createdAt := now

omit [DecidableEq Hash] in
/-- What a success leaves in the table: the cache write, then eviction. -/
def recordAndEvict
    (cfg : Config Hash)
    (attempts : Attempts Hash)
    (k : KeyedRequest cfg)
    (now : DateTime)
    (r : AdcpResponse)
    (evicts : Bool) : Attempts Hash :=
  maybeEvictExpired
    (cacheSuccess attempts k.scope k.req.tool.name
      ⟨r.status.getD "completed", cfg.codec.modelDump r⟩
      (canonicalRequestHash cfg.engine k.req) now)
    evicts k.scope.tenantId now

/-- One call: when it probes and finishes, and what its tool does if it runs. -/
structure Invocation (cfg : Config Hash) where
  request : KeyedRequest cfg
  startedAt : DateTime
  finishedAt : DateTime
  outcome : Except AdcpError AdcpResponse
  evicts : Bool
  ordered : startedAt ≤ finishedAt
  typed : ∀ r, outcome = .ok r → r.tool = request.req.tool

/-- How a call was answered: by its probe, or by running its tool. -/
inductive Reply
  | refused (err : AdcpError)
  | replayed (r : AdcpResponse)
  | ran (outcome : Except AdcpError AdcpResponse)

/-- `_invoke` of a keyed request, without other requests in between. -/
def invoke
    (cfg : Config Hash)
    (attempts : Attempts Hash)
    (call : Invocation cfg) : Attempts Hash × Reply :=
  match probe cfg attempts call.request call.startedAt with
  | .error err => (attempts, .refused err)
  | .ok (some replay) => (attempts, .replayed replay)
  | .ok none =>
      match call.outcome with
      | .error err => (attempts, .ran (.error err))
      | .ok r =>
          (recordAndEvict cfg attempts call.request call.finishedAt r call.evicts,
            .ran (.ok r))

omit [DecidableEq Hash] in
theorem mem_recordAndEvict
    {cfg : Config Hash} {attempts : Attempts Hash} {k : KeyedRequest cfg}
    {now : DateTime} {r : AdcpResponse} {evicts : Bool} {row : IdempotencyAttempt Hash}
    (h : row ∈ recordAndEvict cfg attempts k now r evicts) :
    row = successRow cfg k now r ∨ row ∈ attempts :=
  mem_cacheSuccess (mem_maybeEvictExpired h)

end Invoke

section Steps

variable {Hash : Type} [DecidableEq Hash]

/-- The cached rows and the requests past their probe. -/
structure State (cfg : Config Hash) where
  attempts : Attempts Hash
  inFlight : List (KeyedRequest cfg)

/-- What a buyer or an operator can observe of one step. -/
inductive Event (cfg : Config Hash)
  | answered (k : KeyedRequest cfg) (now : DateTime) (answer : Except AdcpError AdcpResponse)
  | started (k : KeyedRequest cfg) (now : DateTime)
  | finished (k : KeyedRequest cfg) (now : DateTime)
      (outcome : Except AdcpError AdcpResponse) (evicts : Bool)

/-- One step of the boundary, any request's step between any others. -/
inductive Step (cfg : Config Hash) : State cfg → Event cfg → State cfg → Prop
  | refused {s : State cfg} {k : KeyedRequest cfg} {now : DateTime} {err : AdcpError} :
      probe cfg s.attempts k now = .error err →
      Step cfg s (.answered k now (.error err)) s
  | replayed {s : State cfg} {k : KeyedRequest cfg} {now : DateTime} {r : AdcpResponse} :
      probe cfg s.attempts k now = .ok (some r) →
      Step cfg s (.answered k now (.ok r)) s
  | started {s : State cfg} {k : KeyedRequest cfg} {now : DateTime} :
      probe cfg s.attempts k now = .ok none →
      Step cfg s (.started k now) ⟨s.attempts, k :: s.inFlight⟩
  | failed {s : State cfg} {k : KeyedRequest cfg} {pre post : List (KeyedRequest cfg)}
      {now : DateTime} {err : AdcpError} {evicts : Bool} :
      s.inFlight = pre ++ k :: post →
      Step cfg s (.finished k now (.error err) evicts) ⟨s.attempts, pre ++ post⟩
  | succeeded {s : State cfg} {k : KeyedRequest cfg} {pre post : List (KeyedRequest cfg)}
      {now : DateTime} {r : AdcpResponse} {evicts : Bool} :
      s.inFlight = pre ++ k :: post →
      r.tool = k.req.tool →
      Step cfg s (.finished k now (.ok r) evicts)
        ⟨recordAndEvict cfg s.attempts k now r evicts, pre ++ post⟩

/-- No row cached and no request under way. -/
def State.init
    (cfg : Config Hash) : State cfg where
  attempts := IndexedTable.empty
  inFlight := []

/-- The events of one sequential call. -/
def Reply.events
    {cfg : Config Hash}
    (call : Invocation cfg) : Reply → List (Event cfg)
  | .refused err => [.answered call.request call.startedAt (.error err)]
  | .replayed r => [.answered call.request call.startedAt (.ok r)]
  | .ran outcome =>
      [.started call.request call.startedAt,
        .finished call.request call.finishedAt outcome call.evicts]

theorem Step.failed_first
    {cfg : Config Hash} {attempts : Attempts Hash} {k : KeyedRequest cfg}
    {rest : List (KeyedRequest cfg)} {now : DateTime} {err : AdcpError} {evicts : Bool} :
    Step cfg ⟨attempts, k :: rest⟩ (.finished k now (.error err) evicts) ⟨attempts, rest⟩ := by
  have hin : (State.mk attempts (k :: rest)).inFlight = [] ++ k :: rest := rfl
  exact Step.failed hin

theorem Step.succeeded_first
    {cfg : Config Hash} {attempts : Attempts Hash} {k : KeyedRequest cfg}
    {rest : List (KeyedRequest cfg)} {now : DateTime} {r : AdcpResponse} {evicts : Bool}
    (htool : r.tool = k.req.tool) :
    Step cfg ⟨attempts, k :: rest⟩ (.finished k now (.ok r) evicts)
      ⟨recordAndEvict cfg attempts k now r evicts, rest⟩ := by
  have hin : (State.mk attempts (k :: rest)).inFlight = [] ++ k :: rest := rfl
  exact Step.succeeded hin htool

/-- A sequential call is a run of the interleaved relation. -/
theorem invoke_run
    {cfg : Config Hash} (s : State cfg) (call : Invocation cfg) :
    Run (Step cfg) s ((invoke cfg s.attempts call).2.events call)
      ⟨(invoke cfg s.attempts call).1, s.inFlight⟩ := by
  unfold invoke
  cases hprobe : probe cfg s.attempts call.request call.startedAt with
  | error err =>
      exact .single (.refused hprobe)
  | ok replay =>
      cases replay with
      | some r =>
          exact .single (.replayed hprobe)
      | none =>
          cases hout : call.outcome with
          | error err =>
              exact .cons (Step.started hprobe) (.single Step.failed_first)
          | ok r =>
              exact .cons (Step.started hprobe)
                (.single (Step.succeeded_first (call.typed r hout)))

end Steps

section Sample

/-- Request models that declare exactly what the tools require. -/
def sampleSchemas : ToolSchemas where
  declared := Tool.requiredFields
  ownField_only := by
    intro t t' f hown hmem
    cases t <;> simp [Tool.ownField] at hown <;> subst hown <;>
      cases t' <;> simp [Tool.requiredFields] at hmem ⊢

/-- A response model that dumps a status and a body and reads both back. -/
def sampleCodec : ResponseCodec where
  modelDump r :=
    .arr [match r.status with
      | none => .null
      | some status => .str status, r.body]
  revive tool
    | .arr [.null, body] => some { tool := tool, status := none, body := body }
    | .arr [.str status, body] => some { tool := tool, status := some status, body := body }
    | _ => none

theorem sampleCodec_revive
    (r : AdcpResponse) :
    sampleCodec.revive r.tool (sampleCodec.modelDump r) =
      some { tool := r.tool, status := r.status, body := r.body } := by
  cases hstatus : r.status <;> simp [sampleCodec, hstatus]

/-- The default limits and a digest that keeps the document. -/
def sampleConfig : Config Json where
  schemas := sampleSchemas
  engine := ⟨id⟩
  codec := sampleCodec
  limits := {}
  servedAdcpVersion := "3.1"

theorem sampleCodec_faithful :
    sampleConfig.codec.Faithful := by
  intro r r' hrevive
  rw [show sampleConfig.codec = sampleCodec from rfl, sampleCodec_revive] at hrevive
  cases hrevive
  rfl

/-- A create request for a brand. -/
def sampleCreate
    (brand : String) : BuyerRequest sampleSchemas where
  tool := .createMediaBuy
  fields :=
    [("account", .str "acc"), ("brand", .str brand), ("end_time", .str "2026-02-01"),
      ("idempotency_key", .str "key-0123456789abcdef"), ("start_time", .str "2026-01-01")]
  idempotencyKey := some "key-0123456789abcdef"
  has_required := by
    simp [Tool.requiredFields, Fields.HasKey]
  only_declared := by
    simp [sampleSchemas, Tool.requiredFields, Fields.HasKey]

/-- The create of an authenticated principal with an account. -/
def sampleKeyed
    (brand : String) : KeyedRequest sampleConfig where
  req := sampleCreate brand
  identity := ⟨"tenant", some "principal", some "acc"⟩
  scope := ⟨"tenant", "principal", some "acc", "key-0123456789abcdef"⟩
  keyed := by
    simp [keyedScope, sampleCreate, PublicIdentity.replayScope]

/-- What the create tool answers. -/
def sampleResponse
    (mediaBuyId : String) : AdcpResponse where
  tool := .createMediaBuy
  status := some "completed"
  body := .obj [("media_buy_id", .str mediaBuyId)]

end Sample

end Boundary
end SalesAgent
