import Mathlib.Data.List.Induction
import SalesAgent.Lib.CachedFetch
import SalesAgent.Signing.PostureDecision

/-!
# Resolution of a counterparty's keys

A process serves signed requests one after another and remembers two maps: the key set that was
discovered last under an agent URL, and the failure of the last walk where it failed.  Both are
what the log of all walks determines, as for any fetch that is cached.

**Results.**
* `verifyInbound_cases`: what reading one request does to the caches, and with which keys.
* `walkedResolution_recorded`: a walk and its caches are a cached fetch.
* `key_resolution_laws`: where the keys of a request come from, how old they are, when a walk is
  made, and what the refusal carries where no walk has succeeded.
-/

namespace SalesAgent
namespace Signing

open CachedFetch (Fetch Schedule Spaced consult remembered lastFailure)
open Identity (Principal TenantContext)

section Log

/-- A walk from an agent URL; where it failed, with the code that is remembered. -/
abbrev Walk :=
  Fetch String AgentResolution String

variable (config : VerifierSettings)

/-- How long keys and failures are remembered. -/
def walkSchedule : Schedule AgentResolution where
  ttl := config.agentResolutionTtl
  cooldown := config.agentResolutionRefetchCooldown
  fetchedAt := AgentResolution.fetchedAt

/-- What a walk comes to: keys at the well-known place, or the code of its failure. -/
def walkAnswer
    (checks : Checklist)
    (agentUrl : String) : Except String AgentResolution :=
  match checks.resolveAgent config.counterpartyAgentType agentUrl with
  | .error exc => .error (mapAgentResolverError exc)
  | .ok resolution =>
      if jwksIsWellKnown resolution then .ok resolution
      else .error requestSignatureJwksUntrusted

/-- The walks among the calls of a request. -/
def walksOf
    (checks : Checklist)
    (calls : List OutsideCall) : List Walk :=
  calls.filterMap fun call =>
    match call with
    | .resolveAgent url => some ⟨url, checks.now, walkAnswer config checks url⟩
    | .verifyRequestSignature _ => none

/-- The caches hold what a log of walks determines. -/
structure KeyCache.Recorded
    (cache : KeyCache)
    (log : List Walk) : Prop where
  resolutions : ∀ url, cache.resolutions url = remembered log url
  failures : ∀ url, cache.failures url
    = (lastFailure log url).map fun failure => ⟨failure.1, failure.2⟩

/-- A request that reaches the verifier, with the answers that it gets outside. -/
structure IncomingRequest where
  checks : Checklist
  subject : SignatureSubject
  headers : Headers
  tenant : TenantContext
  principal : Option Principal

namespace IncomingRequest

variable (req : IncomingRequest) (cache : KeyCache)

/-- The agent URL on record of the principal of the bearer. -/
def agentUrl : Option String :=
  req.principal.bind Principal.agentUrl

/-- What the verifier calls for the request. -/
def calls : List OutsideCall :=
  verifyInboundCalls config req.checks cache req.subject req.headers req.tenant req.principal

/-- The keys that the request is verified against. -/
def found : KeyCache × Option AgentResolution :=
  resolutionFor config req.checks cache req.agentUrl (parseKeyid req.checks req.headers)

/-- The verdict on the request. -/
def verdict : Except SignatureVerificationError (Option VerifiedSigner) :=
  Signing.verdict config req.checks cache req.subject req.headers req.tenant req.principal

/-- The caches after the request. -/
def cacheAfter : KeyCache :=
  (verifyInboundSignature config req.checks cache req.subject req.headers req.tenant
    req.principal).1

end IncomingRequest

/-- What a process remembers, and all the walks that it has made, the newest first. -/
structure Process where
  cache : KeyCache
  log : List Walk

/-- A request is served. -/
def serve
    (process : Process)
    (req : IncomingRequest) : Process where
  cache := req.cacheAfter config process.cache
  log := walksOf config req.checks (req.calls config process.cache) ++ process.log

/-- A process that has served requests, from its start. -/
def served
    (requests : List IncomingRequest) : Process :=
  requests.foldl (serve config) ⟨.empty, []⟩

end Log

section Steps

variable {config : VerifierSettings} {checks : Checklist} {cache : KeyCache}
variable {posture : RequestSigningPosture} {subject : SignatureSubject} {exchange : HttpExchange}
variable {bucket : PostureBucket} {headers : Headers} {agentUrl : Option String}

/-- A request that does not look for keys. -/
structure IncomingRequest.Offline
    (req : IncomingRequest)
    (config : VerifierSettings)
    (cache : KeyCache) : Prop where
  cacheAfter : req.cacheAfter config cache = cache
  calls : ∀ call ∈ req.calls config cache, ∃ options, call = .verifyRequestSignature options
    ∧ options.hasStores = false ∧ options.jwksResolver = .static []

/-- A request that is verified against the keys it looked for. -/
structure IncomingRequest.Online
    (req : IncomingRequest)
    (config : VerifierSettings)
    (cache : KeyCache)
    (options : VerifyOptions) : Prop where
  cacheAfter : req.cacheAfter config cache = (req.found config cache).1
  calls : req.calls config cache
    = resolutionCalls config req.checks cache req.agentUrl ++ [.verifyRequestSignature options]
  hasStores : options.hasStores = true
  keys : options.jwksResolver
    = jwksResolver (req.found config cache).1 (req.found config cache).2 req.agentUrl
  verdict : ∃ exchange bucket, bucket ≠ .none ∧ req.verdict config cache
    = graded (req.checks.verifyRequestSignature exchange req.headers options) bucket

/-- What reading one request does: it looks for no keys, or it is verified against those it found. -/
theorem verifyInbound_cases
    (req : IncomingRequest) :
    req.Offline config cache ∨ ∃ options, req.Online config cache options := by
  have hoffline : req.cacheAfter config cache = cache → req.calls config cache = [] →
      req.Offline config cache := by
    intro hcache hcalls
    refine ⟨hcache, fun call hcall => ?_⟩
    rw [hcalls] at hcall
    exact absurd hcall List.not_mem_nil
  cases henabled : config.verifierEnabled with
  | false =>
      refine .inl (hoffline ?_ ?_)
      · rw [IncomingRequest.cacheAfter, verifyInboundSignature, henabled]
        rfl
      · rw [IncomingRequest.calls, verifyInboundCalls, henabled]
        rfl
  | true =>
      cases hexchange : signedExchange req.subject with
      | none =>
          have hpresents := hexchange
          rw [signedExchange] at hpresents
          refine .inl (hoffline ?_ ?_)
          · rw [IncomingRequest.cacheAfter, verifyInboundSignature, henabled, hpresents]
            rfl
          · rw [IncomingRequest.calls, verifyInboundCalls, henabled, hpresents]
            rfl
      | some exchange =>
          have hcache : req.cacheAfter config cache
              = (verifySigned config req.checks cache (enforcedPosture config req.tenant)
                req.subject exchange (enforcedBucket config req.subject req.tenant) req.headers
                req.agentUrl).1 := by
            have hpresents := hexchange
            rw [signedExchange] at hpresents
            rw [IncomingRequest.cacheAfter, verifyInboundSignature, henabled, enforcedBucket,
              enforcedPosture, henabled, hpresents]
            rfl
          have hcalls : req.calls config cache
              = verifySignedCalls config req.checks cache (enforcedPosture config req.tenant)
                req.subject exchange (enforcedBucket config req.subject req.tenant) req.headers
                req.agentUrl := by
            rw [IncomingRequest.calls, calls_signed henabled hexchange]
            rfl
          have hverdict : req.verdict config cache
              = (verifySigned config req.checks cache (enforcedPosture config req.tenant)
                req.subject exchange (enforcedBucket config req.subject req.tenant) req.headers
                req.agentUrl).2 := by
            rw [IncomingRequest.verdict, verdict_signed henabled hexchange]
            rfl
          rw [verifySigned] at hcache hverdict
          rw [verifySignedCalls] at hcalls
          by_cases hread : ((enforcedPosture config req.tenant).supported && ! exchange.overCap
              && exchange.complete) = true
          · rw [if_pos hread] at hcalls
            rw [Bool.and_eq_true, Bool.and_eq_true, Bool.not_eq_true'] at hread
            obtain ⟨⟨hsupported, hcap⟩, hcomplete⟩ := hread
            rw [hsupported, hcap, hcomplete] at hcache hverdict
            dsimp only at hcache hverdict
            rw [checkSigned] at hcache hverdict
            rw [checkSignedCalls] at hcalls
            cases hpre : req.checks.strictHeaderPrecheck exchange.rawHeaders with
            | error exc =>
                rw [hpre] at hcache hcalls
                exact .inl (hoffline hcache hcalls)
            | ok _ =>
                rw [hpre] at hcache hcalls hverdict
                dsimp only at hcache hcalls hverdict
                by_cases hnone : enforcedBucket config req.subject req.tenant = .none
                · rw [if_pos hnone] at hcache hcalls
                  refine .inl ⟨hcache, fun call hcall => ?_⟩
                  rw [hcalls] at hcall
                  refine ⟨_, List.mem_singleton.mp hcall, ?_, ?_⟩
                  · rw [verifierOptions, hnone]
                    rfl
                  · rw [verifierOptions, hnone]
                    rfl
                · rw [if_neg hnone] at hcache hcalls hverdict
                  cases htarget : req.checks.rejectMalformedTarget exchange.url with
                  | error exc =>
                      rw [htarget] at hcache hcalls
                      exact .inl (hoffline hcache hcalls)
                  | ok _ =>
                      rw [htarget] at hcache hcalls hverdict
                      dsimp only at hcache hcalls hverdict
                      rw [runVerifier_eq] at hverdict
                      refine .inr ⟨_, hcache, hcalls, ?_, ?_, exchange, _, hnone, hverdict⟩
                      · rw [verifierOptions, decide_eq_false hnone]
                        rfl
                      · rw [verifierOptions, if_neg hnone]
                        rfl
          · rw [if_neg hread] at hcalls
            refine .inl (hoffline ?_ hcalls)
            rw [hcache]
            cases hsupported : (enforcedPosture config req.tenant).supported with
            | false => rfl
            | true =>
                cases hcap : exchange.overCap with
                | true => rfl
                | false =>
                    cases hcomplete : exchange.complete with
                    | false => rfl
                    | true =>
                        rw [hsupported, hcap, hcomplete] at hread
                        exact absurd rfl hread

theorem KeyCache.Recorded.empty :
    KeyCache.empty.Recorded [] where
  resolutions := fun _ => rfl
  failures := fun _ => rfl

/-- A walk that failed, in the caches and in the log. -/
theorem KeyCache.Recorded.failed
    {log : List Walk}
    (h : cache.Recorded log)
    (url code : String) :
    (cache.failed checks url code).Recorded (⟨url, checks.now, .error code⟩ :: log) where
  resolutions := by
    intro other
    rw [CachedFetch.remembered_cons, Fetch.valueOf]
    by_cases hkey : url = other
    · rw [if_pos hkey]
      exact h.resolutions other
    · rw [if_neg hkey]
      exact h.resolutions other
  failures := by
    intro other
    by_cases hkey : other = url
    · subst hkey
      dsimp only [KeyCache.failed]
      rw [Function.update_self,
        CachedFetch.lastFailure_cons_self ⟨other, checks.now, .error code⟩]
      rfl
    · dsimp only [KeyCache.failed]
      rw [Function.update_of_ne hkey,
        CachedFetch.lastFailure_cons_of_ne (Ne.symm hkey)]
      exact h.failures other

/-- A walk that succeeded, in the caches and in the log. -/
theorem KeyCache.Recorded.resolved
    {log : List Walk}
    (h : cache.Recorded log)
    (url : String)
    (resolution : AgentResolution) :
    (cache.resolved url resolution).Recorded (⟨url, checks.now, .ok resolution⟩ :: log) where
  resolutions := by
    intro other
    rw [CachedFetch.remembered_cons, Fetch.valueOf]
    by_cases hkey : other = url
    · subst hkey
      dsimp only [KeyCache.resolved]
      rw [if_pos rfl, Function.update_self]
      rfl
    · dsimp only [KeyCache.resolved]
      rw [if_neg (Ne.symm hkey), Function.update_of_ne hkey]
      exact h.resolutions other
  failures := by
    intro other
    by_cases hkey : other = url
    · subst hkey
      dsimp only [KeyCache.resolved]
      rw [Function.update_self,
        CachedFetch.lastFailure_cons_self ⟨other, checks.now, .ok resolution⟩]
      rfl
    · dsimp only [KeyCache.resolved]
      rw [Function.update_of_ne hkey,
        CachedFetch.lastFailure_cons_of_ne (Ne.symm hkey)]
      exact h.failures other

/-- A walk and its caches are a cached fetch. -/
theorem walkedResolution_recorded
    {log : List Walk} {url : String}
    (h : cache.Recorded log) :
    (walkedResolution config checks cache url).1.Recorded
        (consult (walkSchedule config) log checks.now url (walkAnswer config checks url))
      ∧ (walkedResolution config checks cache url).2
        = remembered
          (consult (walkSchedule config) log checks.now url (walkAnswer config checks url)) url := by
  have hfresh : cache.fresh config checks url
      = CachedFetch.fresh (walkSchedule config) log checks.now url := by
    rw [KeyCache.fresh, h.resolutions]
    rfl
  have hcooling : cache.coolingDown config checks url
      = CachedFetch.coolingDown (walkSchedule config) log checks.now url := by
    rw [KeyCache.coolingDown, h.failures, CachedFetch.coolingDown, Option.any_map]
    rfl
  rw [walkedResolution, consult, hfresh, hcooling]
  by_cases hcached : (CachedFetch.fresh (walkSchedule config) log checks.now url
      || CachedFetch.coolingDown (walkSchedule config) log checks.now url) = true
  · rw [if_pos hcached, if_pos hcached]
    exact ⟨h, h.resolutions url⟩
  · rw [if_neg hcached, if_neg hcached]
    rw [walkAnswer]
    cases hwalk : checks.resolveAgent config.counterpartyAgentType url with
    | error exc =>
        have hafter := @KeyCache.Recorded.failed checks cache log h url (mapAgentResolverError exc)
        exact ⟨hafter, hafter.resolutions url⟩
    | ok resolution =>
        dsimp only
        by_cases hplace : jwksIsWellKnown resolution = true
        · rw [if_pos hplace, if_pos hplace]
          have hafter := @KeyCache.Recorded.resolved checks cache log h url resolution
          refine ⟨hafter, ?_⟩
          rw [← hafter.resolutions url]
          dsimp only [KeyCache.resolved]
          rw [Function.update_self]
        · rw [if_neg hplace, if_neg hplace]
          have hafter := @KeyCache.Recorded.failed checks cache log h url
            requestSignatureJwksUntrusted
          exact ⟨hafter, hafter.resolutions url⟩

end Steps

section Runs

variable {config : VerifierSettings} {requests : List IncomingRequest} {process : Process}
variable {req : IncomingRequest}

/-- The URL that a walk starts from: an empty one is none. -/
def IncomingRequest.walkUrl
    (req : IncomingRequest) : Option String :=
  req.agentUrl.filter (· ≠ "")

/-- What holds of a process that has served requests. -/
structure Process.Invariant
    (process : Process)
    (config : VerifierSettings)
    (requests : List IncomingRequest) : Prop where
  recorded : process.cache.Recorded process.log
  spaced : Spaced (walkSchedule config) process.log
  genuine : ∀ walk ∈ process.log, ∃ req ∈ requests, req.agentUrl = some walk.key
    ∧ walk.time = req.checks.now ∧ walk.answer = walkAnswer config req.checks walk.key

theorem serve_offline
    (h : req.Offline config process.cache) :
    serve config process req = process := by
  have hlog : walksOf config req.checks (req.calls config process.cache) = [] := by
    rw [walksOf, List.filterMap_eq_nil_iff]
    intro call hcall
    obtain ⟨options, rfl, -⟩ := h.calls call hcall
    rfl
  rw [serve, h.cacheAfter, hlog]
  rfl

theorem serve_registry
    {options : VerifyOptions}
    (h : req.Online config process.cache options)
    (hurl : req.walkUrl = none) :
    serve config process req = process := by
  rw [IncomingRequest.walkUrl] at hurl
  rw [serve, h.cacheAfter, h.calls, IncomingRequest.found, resolutionFor, resolutionCalls, hurl]
  rfl

theorem cacheAfter_walked
    {options : VerifyOptions} {url : String}
    (h : req.Online config process.cache options)
    (hurl : req.walkUrl = some url) :
    req.found config process.cache = walkedResolution config req.checks process.cache url
      ∧ (serve config process req).cache
        = (walkedResolution config req.checks process.cache url).1 := by
  rw [IncomingRequest.walkUrl] at hurl
  have hfound : req.found config process.cache
      = walkedResolution config req.checks process.cache url := by
    rw [IncomingRequest.found, resolutionFor, hurl]
  refine ⟨hfound, ?_⟩
  rw [serve, h.cacheAfter, hfound]

/-- A request of a caller with an agent URL consults the log. -/
theorem log_walked
    {options : VerifyOptions} {url : String}
    (hrecorded : process.cache.Recorded process.log)
    (h : req.Online config process.cache options)
    (hurl : req.walkUrl = some url) :
    (serve config process req).log
      = consult (walkSchedule config) process.log req.checks.now url
        (walkAnswer config req.checks url) := by
  rw [IncomingRequest.walkUrl] at hurl
  have hfresh : process.cache.fresh config req.checks url
      = CachedFetch.fresh (walkSchedule config) process.log req.checks.now url := by
    rw [KeyCache.fresh, hrecorded.resolutions]
    rfl
  have hcooling : process.cache.coolingDown config req.checks url
      = CachedFetch.coolingDown (walkSchedule config) process.log req.checks.now url := by
    rw [KeyCache.coolingDown, hrecorded.failures, CachedFetch.coolingDown, Option.any_map]
    rfl
  rw [serve, h.calls, resolutionCalls, hurl, consult, ← hfresh, ← hcooling]
  dsimp only
  by_cases hcached : (process.cache.fresh config req.checks url
      || process.cache.coolingDown config req.checks url) = true
  · rw [if_pos hcached, if_pos hcached]
    rfl
  · rw [if_neg hcached, if_neg hcached]
    rfl

theorem Process.Invariant.times
    (h : process.Invariant config requests)
    (htimes : ∀ earlier ∈ requests, earlier.checks.now ≤ req.checks.now) :
    ∀ walk ∈ process.log, walk.time ≤ req.checks.now := by
  intro walk hwalk
  obtain ⟨earlier, hearlier, -, htime, -⟩ := h.genuine walk hwalk
  rw [htime]
  exact htimes earlier hearlier

/-- A request keeps the invariant. -/
theorem Process.Invariant.serve
    (h : process.Invariant config requests)
    (htimes : ∀ earlier ∈ requests, earlier.checks.now ≤ req.checks.now) :
    (Signing.serve config process req).Invariant config (requests ++ [req]) := by
  have hgenuine : ∀ walk ∈ process.log, ∃ req' ∈ requests ++ [req], req'.agentUrl = some walk.key
      ∧ walk.time = req'.checks.now ∧ walk.answer = walkAnswer config req'.checks walk.key := by
    intro walk hwalk
    obtain ⟨earlier, hearlier, hrest⟩ := h.genuine walk hwalk
    exact ⟨earlier, List.mem_append_left _ hearlier, hrest⟩
  rcases @verifyInbound_cases config process.cache req with hoffline | ⟨options, honline⟩
  · rw [serve_offline hoffline]
    exact ⟨h.recorded, h.spaced, hgenuine⟩
  · cases hurl : req.walkUrl with
    | none =>
        rw [serve_registry honline hurl]
        exact ⟨h.recorded, h.spaced, hgenuine⟩
    | some url =>
        have hlog := log_walked h.recorded honline hurl
        obtain ⟨-, hcache⟩ := cacheAfter_walked honline hurl
        refine ⟨?_, ?_, ?_⟩
        · rw [hlog, hcache]
          exact (walkedResolution_recorded h.recorded).1
        · rw [hlog]
          exact h.spaced.consult (h.times htimes)
        · rw [hlog, consult]
          split_ifs
          · exact hgenuine
          · refine List.forall_mem_cons.mpr ⟨?_, hgenuine⟩
            refine ⟨req, List.mem_append_right _ (List.mem_singleton.mpr rfl), ?_, rfl, rfl⟩
            exact (Option.filter_eq_some_iff.mp hurl).1

theorem served_invariant
    (htimes : requests.Pairwise fun earlier later => earlier.checks.now ≤ later.checks.now) :
    (served config requests).Invariant config requests := by
  induction requests using List.reverseRecOn with
  | nil => exact ⟨.empty, .nil, fun walk hwalk => absurd hwalk List.not_mem_nil⟩
  | append_singleton requests req ih =>
      obtain ⟨hrequests, -, hlast⟩ := List.pairwise_append.mp htimes
      rw [served, List.foldl_append]
      exact (ih hrequests).serve fun earlier hearlier =>
        hlast earlier hearlier req (List.mem_singleton.mpr rfl)

end Runs

section Laws

variable (config : VerifierSettings) (requests : List IncomingRequest) (req : IncomingRequest)

/-- The discovery answers for the URL that it was asked for, with keys fetched since. -/
def Checklist.AnswersAsked
    (checks : Checklist) : Prop :=
  ∀ agentType url resolution, checks.resolveAgent agentType url = .ok resolution →
    resolution.agentUrl = url ∧ checks.now ≤ resolution.fetchedAt

/-- The checklist looks the key up at step 7, and a lookup that raises ends it there unless an
earlier step has. -/
def Checklist.RaisesLookup
    (checks : Checklist) : Prop :=
  ∀ exchange headers options exc,
    (∀ keyid, options.jwksResolver.call keyid = .error exc) →
    ∃ refusal, checks.verifyRequestSignature exchange headers options = .error refusal
      ∧ (refusal = exc ∨ ∃ step, refusal.step = some step ∧ step < 7)

/-- The walk succeeded: it was answered with keys at the well-known place of the agent URL. -/
def Succeeded
    (walk : Walk)
    (resolution : AgentResolution) : Prop :=
  walk.answer = .ok resolution ∧ ∃ origin, originOf walk.key = some origin
    ∧ resolution.jwksUri = origin ++ wellKnownJwksPath

/-- The walk failed with a code. -/
def FailedWith
    (walk : Walk)
    (code : String) : Prop :=
  walk.answer = .error code

/-- The process before a request, and after it. -/
def processBefore : Process :=
  served config requests

def processAfter : Process :=
  serve config (processBefore config requests) req

/-- What holds of a request after others. -/
structure KeyLaws : Prop where
  /-- The key of a caller with an agent URL was returned by the last walk from that URL that
  succeeded, and is older than its bound only where it came with this request or every walk since
  has failed. -/
  keys : ∀ url, req.walkUrl = some url →
    ∀ options, OutsideCall.verifyRequestSignature options
        ∈ req.calls config (processBefore config requests).cache →
    ∀ keyid jwk, options.jwksResolver.call keyid = .ok (some jwk) →
    ∃ newer walk older resolution,
      (processAfter config requests req).log = newer ++ walk :: older
        ∧ walk.key = url ∧ Succeeded walk resolution ∧ jwk ∈ resolution.jwks
        ∧ (∀ later ∈ newer, later.key = url → ∃ code, FailedWith later code)
        ∧ (resolution.fetchedAt + config.agentResolutionTtl < req.checks.now →
          newer = [] ∧ walk.time = req.checks.now ∨ ∃ later ∈ newer, later.key = url)
  /-- Every walk was made for a request, whose bearer has the URL on record. -/
  walks : ∀ walk ∈ (processAfter config requests req).log, ∃ req' ∈ requests ++ [req],
    req'.agentUrl = some walk.key ∧ walk.time = req'.checks.now
      ∧ walk.answer = walkAnswer config req'.checks walk.key
  /-- Where an agent URL is on record, the registry decides nothing. -/
  registryUnused : req.walkUrl.isSome = true →
    ∀ registry,
      req.verdict { config with counterpartyRegistry := registry }
          (processBefore config requests).cache
        = req.verdict config (processBefore config requests).cache
  /-- Where none is on record, a key is one of the registry. -/
  registry : req.walkUrl = none →
    ∀ options, OutsideCall.verifyRequestSignature options
        ∈ req.calls config (processBefore config requests).cache →
    ∀ keyid jwk, options.jwksResolver.call keyid = .ok (some jwk) →
    ∃ id entry, parseKeyid req.checks req.headers = some id
      ∧ config.counterpartyRegistry.lookup id = some entry ∧ jwk ∈ entry.jwks
  /-- A walk is not made within the cooldown after one that failed, nor within the bound after one
  that succeeded or after its keys were fetched. -/
  spacing : ∀ url, OutsideCall.resolveAgent url
      ∈ req.calls config (processBefore config requests).cache →
    ∀ walk ∈ (processBefore config requests).log, walk.key = url →
      (∀ code, FailedWith walk code →
        walk.time + config.agentResolutionRefetchCooldown ≤ req.checks.now)
      ∧ ∀ resolution, walk.answer = .ok resolution →
        walk.time + config.agentResolutionTtl < req.checks.now
          ∧ resolution.fetchedAt + config.agentResolutionTtl < req.checks.now
  /-- Where the checklist has no keys as no walk has succeeded, the refusal carries the code of the
  last failure, unless an earlier step refuses. -/
  refusal : ∀ url, req.walkUrl = some url →
    ∀ options, OutsideCall.verifyRequestSignature options
        ∈ req.calls config (processBefore config requests).cache →
    options.hasStores = true →
    (∀ walk ∈ (processAfter config requests req).log, walk.key = url →
      ∃ code, FailedWith walk code) →
    ∃ newer walk older code,
      (processAfter config requests req).log = newer ++ walk :: older
        ∧ walk.key = url ∧ FailedWith walk code ∧ (∀ later ∈ newer, later.key ≠ url)
        ∧ ∃ refusal, req.verdict config (processBefore config requests).cache = .error refusal
          ∧ (refusal = ⟨code, some 7⟩ ∨ ∃ step, refusal.step = some step ∧ step < 7)
  /-- The verdict is what becomes of the checklist's answer, and takes nothing else from outside than
  the answers to the calls. -/
  verdict : (∀ options, OutsideCall.verifyRequestSignature options
        ∈ req.calls config (processBefore config requests).cache → options.hasStores = true →
      ∃ exchange bucket, req.verdict config (processBefore config requests).cache
        = graded (req.checks.verifyRequestSignature exchange req.headers options) bucket)
    ∧ ∀ checks', (∀ exchange, req.subject.exchange = some exchange →
        req.checks.AgreesOn checks' config exchange req.headers
          (req.calls config (processBefore config requests).cache)) →
      { req with checks := checks' }.verdict config (processBefore config requests).cache
        = req.verdict config (processBefore config requests).cache

end Laws

section Proofs

variable {config : VerifierSettings} {requests : List IncomingRequest} {req : IncomingRequest}
variable {cache : KeyCache} {options options' : VerifyOptions}

theorem resolveAgent_of_resolutionCalls
    {checks : Checklist} {agentUrl : Option String} {call : OutsideCall}
    (h : call ∈ resolutionCalls config checks cache agentUrl) :
    ∃ url, call = .resolveAgent url := by
  rw [resolutionCalls] at h
  cases hurl : agentUrl.filter (· ≠ "") with
  | none =>
      rw [hurl] at h
      exact absurd h List.not_mem_nil
  | some url =>
      rw [hurl] at h
      dsimp only at h
      split_ifs at h
      · exact absurd h List.not_mem_nil
      · exact ⟨url, List.mem_singleton.mp h⟩

theorem IncomingRequest.Online.options_eq
    (h : req.Online config cache options)
    (hcall : OutsideCall.verifyRequestSignature options' ∈ req.calls config cache) :
    options' = options := by
  rw [h.calls] at hcall
  rcases List.mem_append.mp hcall with hwalk | hlast
  · obtain ⟨url, hurl⟩ := resolveAgent_of_resolutionCalls hwalk
    cases hurl
  · cases List.mem_singleton.mp hlast
    rfl

theorem IncomingRequest.found_of_key
    {keyid : String} {jwk : Jwk}
    (hcall : OutsideCall.verifyRequestSignature options ∈ req.calls config cache)
    (hkey : options.jwksResolver.call keyid = .ok (some jwk)) :
    req.Online config cache options
      ∧ ∃ resolution, (req.found config cache).2 = some resolution ∧ jwk ∈ resolution.jwks := by
  rcases @verifyInbound_cases config cache req with hoffline | ⟨options', honline⟩
  · obtain ⟨options', heq, -, hkeys⟩ := hoffline.calls _ hcall
    cases heq
    rw [hkeys] at hkey
    cases hkey
  · cases honline.options_eq hcall
    rw [honline.keys] at hkey
    exact ⟨honline, mem_of_jwksResolver hkey⟩

theorem online_of_stores
    (hcall : OutsideCall.verifyRequestSignature options ∈ req.calls config cache)
    (hstores : options.hasStores = true) :
    req.Online config cache options := by
  rcases @verifyInbound_cases config cache req with hoffline | ⟨options', honline⟩
  · obtain ⟨options', heq, hno, -⟩ := hoffline.calls _ hcall
    cases heq
    rw [hno] at hstores
    cases hstores
  · cases honline.options_eq hcall
    exact honline

theorem succeeded_of_genuine
    {walk : Walk} {resolution : AgentResolution} {checks : Checklist}
    (hanswers : checks.AnswersAsked)
    (hgenuine : walk.answer = walkAnswer config checks walk.key)
    (hok : walk.answer = .ok resolution) :
    Succeeded walk resolution ∧ checks.now ≤ resolution.fetchedAt := by
  rw [Succeeded, and_iff_right hok]
  rw [hgenuine, walkAnswer] at hok
  cases hwalk : checks.resolveAgent config.counterpartyAgentType walk.key with
  | error exc =>
      rw [hwalk] at hok
      cases hok
  | ok found =>
      rw [hwalk] at hok
      dsimp only at hok
      by_cases hplace : jwksIsWellKnown found = true
      · rw [if_pos hplace] at hok
        cases hok
        obtain ⟨hasked, hfetched⟩ := hanswers _ _ _ hwalk
        rw [jwksIsWellKnown, hasked] at hplace
        cases horigin : originOf walk.key with
        | none =>
            rw [horigin] at hplace
            cases hplace
        | some origin =>
            rw [horigin] at hplace
            exact ⟨⟨origin, rfl, of_decide_eq_true hplace⟩, hfetched⟩
      · rw [if_neg hplace] at hok
        cases hok

theorem resolutionFor_registry
    {checks : Checklist} {agentUrl keyid : Option String}
    (hurl : (agentUrl.filter (· ≠ "")).isSome = true)
    (registry : List (String × CounterpartyRegistryEntry)) :
    resolutionFor { config with counterpartyRegistry := registry } checks cache agentUrl keyid
      = resolutionFor config checks cache agentUrl keyid := by
  obtain ⟨url, hsome⟩ := Option.isSome_iff_exists.mp hurl
  rw [resolutionFor, resolutionFor, hsome]
  rfl

/-- Where an agent URL is on record, the registry decides nothing. -/
theorem verdict_registry
    (hurl : req.walkUrl.isSome = true)
    (registry : List (String × CounterpartyRegistryEntry)) :
    req.verdict { config with counterpartyRegistry := registry } cache
      = req.verdict config cache := by
  have hchecked : ∀ posture exchange bucket,
      checkSigned { config with counterpartyRegistry := registry } req.checks cache posture
          req.subject exchange bucket req.headers req.agentUrl
        = checkSigned config req.checks cache posture req.subject exchange bucket req.headers
          req.agentUrl := by
    intro posture exchange bucket
    rw [checkSigned, checkSigned, resolutionFor_registry hurl]
  have hsigned : ∀ posture exchange bucket,
      verifySigned { config with counterpartyRegistry := registry } req.checks cache posture
          req.subject exchange bucket req.headers req.agentUrl
        = verifySigned config req.checks cache posture req.subject exchange bucket req.headers
          req.agentUrl := by
    intro posture exchange bucket
    rw [verifySigned, verifySigned, hchecked]
  rw [IncomingRequest.verdict, IncomingRequest.verdict, verdict, verdict, verifyInboundSignature,
    verifyInboundSignature]
  cases config.verifierEnabled with
  | false => rfl
  | true =>
      cases req.subject.exchange.filter HttpExchange.presentsSignature with
      | none => rfl
      | some exchange =>
          exact congrArg Prod.snd (hsigned _ exchange _)

theorem found_walked
    {process : Process} {url : String}
    (hrecorded : process.cache.Recorded process.log)
    (h : req.Online config process.cache options)
    (hurl : req.walkUrl = some url) :
    (req.found config process.cache).2 = remembered (serve config process req).log url := by
  rw [log_walked hrecorded h hurl, (cacheAfter_walked h hurl).1]
  exact (walkedResolution_recorded hrecorded).2

theorem raises_of_remembered_none
    {process : Process} {url : String}
    (hinv : (serve config process req).cache.Recorded (serve config process req).log)
    (hrecorded : process.cache.Recorded process.log)
    (h : req.Online config process.cache options)
    (hurl : req.walkUrl = some url)
    (hnone : remembered (serve config process req).log url = none) :
    ∃ newer walk older code,
      (serve config process req).log = newer ++ walk :: older
        ∧ walk.key = url ∧ FailedWith walk code ∧ (∀ later ∈ newer, later.key ≠ url)
        ∧ ∀ keyid, options.jwksResolver.call keyid = .error ⟨code, some 7⟩ := by
  have hfound := found_walked hrecorded h hurl
  have hlog := log_walked hrecorded h hurl
  obtain ⟨failure, hfailure⟩ := CachedFetch.lastFailure_of_remembered_none
    (hlog ▸ hnone : remembered (consult (walkSchedule config) process.log req.checks.now url
      (walkAnswer config req.checks url)) url = none)
  rw [← hlog] at hfailure
  obtain ⟨newer, walk, older, hsplit, hkey, -, hfailed, hnewer⟩ :=
    CachedFetch.lastFailure_eq_some hfailure
  refine ⟨newer, walk, older, failure.2, hsplit, hkey, hfailed, hnewer, ?_⟩
  intro keyid
  have hagent : req.agentUrl = some url := (Option.filter_eq_some_iff.mp hurl).1
  have hcache : (req.found config process.cache).1.failures url
      = some ⟨failure.1, failure.2⟩ := by
    have hafter := hinv.failures url
    rw [hfailure] at hafter
    rw [serve, h.cacheAfter] at hafter
    exact hafter
  rw [h.keys, hfound, hnone, jwksResolver, hagent, Option.bind_some, hcache]
  rfl

/-- For every sequence of signed requests at times that do not decrease, and every outcome of the
walks. -/
theorem key_resolution_laws
    (config : VerifierSettings)
    (requests : List IncomingRequest)
    (req : IncomingRequest)
    (htimes : (requests ++ [req]).Pairwise fun earlier later =>
      earlier.checks.now ≤ later.checks.now)
    (hanswers : ∀ req' ∈ requests ++ [req], req'.checks.AnswersAsked)
    (hlookup : req.checks.RaisesLookup) :
    KeyLaws config requests req := by
  obtain ⟨hrequests, -, hlast⟩ := List.pairwise_append.mp htimes
  have hbefore : (processBefore config requests).Invariant config requests :=
    served_invariant hrequests
  have hnow : ∀ earlier ∈ requests, earlier.checks.now ≤ req.checks.now := fun earlier hearlier =>
    hlast earlier hearlier req (List.mem_singleton.mpr rfl)
  have hafter : (processAfter config requests req).Invariant config (requests ++ [req]) :=
    hbefore.serve hnow
  constructor
  case keys =>
    intro url hurl options hcall keyid jwk hkey
    obtain ⟨honline, resolution, hfound, hjwk⟩ := IncomingRequest.found_of_key hcall hkey
    have hlog : (processAfter config requests req).log = _ :=
      log_walked hbefore.recorded honline hurl
    have hremembered : (req.found config (processBefore config requests).cache).2
        = remembered (processAfter config requests req).log url :=
      found_walked hbefore.recorded honline hurl
    rw [hremembered, hlog] at hfound
    obtain ⟨newer, walk, older, hsplit, hwalk, hok, hnewer, hage⟩ :=
      CachedFetch.remembered_cases hfound
    rw [← hlog] at hsplit
    obtain ⟨req', hreq', -, -, hgenuine⟩ := hafter.genuine walk (by
      rw [hsplit]
      exact List.mem_append_right _ List.mem_cons_self)
    exact ⟨newer, walk, older, resolution, hsplit, hwalk,
      (succeeded_of_genuine (hanswers req' hreq') hgenuine hok).1, hjwk, hnewer, hage⟩
  case walks => exact hafter.genuine
  case registryUnused => exact fun hurl registry => verdict_registry hurl registry
  case registry =>
    intro hurl options hcall keyid jwk hkey
    obtain ⟨-, resolution, hfound, hjwk⟩ := IncomingRequest.found_of_key hcall hkey
    rw [IncomingRequest.walkUrl] at hurl
    rw [IncomingRequest.found, resolutionFor, hurl] at hfound
    obtain ⟨entry, hentry, rfl⟩ := Option.map_eq_some_iff.mp hfound
    obtain ⟨id, hid, hlookup⟩ := Option.bind_eq_some_iff.mp hentry
    exact ⟨id, entry, hid, hlookup, hjwk⟩
  case spacing =>
    intro url hcall walk hwalk hkey
    have hnew : (⟨url, req.checks.now, walkAnswer config req.checks url⟩ : Walk)
        ∈ walksOf config req.checks (req.calls config (processBefore config requests).cache) :=
      List.mem_filterMap.mpr ⟨_, hcall, rfl⟩
    have hapart := (List.pairwise_append.mp hafter.spaced.apart).2.2 _ hnew _ hwalk hkey.symm
    constructor
    · intro code hfailed
      rw [FailedWith] at hfailed
      rw [hfailed] at hapart
      exact hapart
    · intro resolution hok
      rw [hok] at hapart
      have hold : resolution.fetchedAt + config.agentResolutionTtl < req.checks.now := hapart
      obtain ⟨req', hreq', -, htime, hgenuine⟩ := hbefore.genuine walk hwalk
      have hfetched := (succeeded_of_genuine (hanswers req' (List.mem_append_left _ hreq'))
        hgenuine hok).2
      rw [← htime] at hfetched
      refine ⟨?_, hold⟩
      omega
  case refusal =>
    intro url hurl options hcall hstores hfailures
    have honline := online_of_stores hcall hstores
    have hnone : remembered (processAfter config requests req).log url = none := by
      cases hremembered : remembered (processAfter config requests req).log url with
      | none => rfl
      | some resolution =>
          obtain ⟨newer, walk, older, hsplit, hwalk, hok, -⟩ :=
            CachedFetch.remembered_eq_some hremembered
          obtain ⟨code, hfailed⟩ := hfailures walk (by
            rw [hsplit]
            exact List.mem_append_right _ List.mem_cons_self) hwalk
          rw [FailedWith, hok] at hfailed
          cases hfailed
    obtain ⟨newer, walk, older, code, hsplit, hwalk, hfailed, hnewer, hraises⟩ :=
      raises_of_remembered_none hafter.recorded hbefore.recorded honline hurl hnone
    obtain ⟨exchange, bucket, hbucket, hverdict⟩ := honline.verdict
    obtain ⟨refusal, hrefusal, hcode⟩ := hlookup exchange req.headers options _ hraises
    refine ⟨newer, walk, older, code, hsplit, hwalk, hfailed, hnewer, refusal, ?_, hcode⟩
    rw [hverdict, hrefusal, graded, handleRejection, if_neg hbucket, ite_self]
  case verdict =>
    refine ⟨fun options hcall hstores => ?_,
      fun checks' hagrees => congrArg Prod.snd (verifyInboundSignature_of_calls hagrees)⟩
    obtain ⟨exchange, bucket, -, hverdict⟩ := (online_of_stores hcall hstores).verdict
    exact ⟨exchange, bucket, hverdict⟩

/-- An agent that publishes one key at its well-known place, and a checklist that looks it up. -/
def publishingChecks
    (now : Int) : Checklist where
  now := now
  parseSignatureInputHeader := fun _ => none
  resolveAgent := fun _ url =>
    .ok ⟨url, "https://buyer.example.com/.well-known/jwks.json", [⟨"k1", "m1"⟩], now⟩
  strictHeaderPrecheck := fun _ => .ok ()
  rejectMalformedTarget := fun _ => .ok ()
  verifyRequestSignature := fun _ _ options =>
    match options.jwksResolver.call "k1" with
    | .error exc => .error exc
    | .ok none => .error ⟨"request_signature_key_unknown", some 7⟩
    | .ok (some jwk) => .ok ⟨jwk.kid, options.agentUrl⟩

/-- The agent cannot be reached. -/
def unreachableChecks
    (now : Int) : Checklist :=
  { publishingChecks now with
    resolveAgent := fun _ _ => .error ⟨"capabilities_unreachable", none⟩ }

theorem unreachableChecks_raises
    (now : Int) :
    (unreachableChecks now).RaisesLookup := by
  intro exchange headers options exc hraises
  refine ⟨exc, ?_, .inl rfl⟩
  rw [unreachableChecks, publishingChecks]
  dsimp only
  rw [hraises]

/-- A signed request of a buyer with an agent URL. -/
def incomingRequestAt
    (now : Int) : IncomingRequest where
  checks := publishingChecks now
  subject := ⟨"create_media_buy", false, some { cutOffExchange with complete := true }⟩
  headers := []
  tenant := requiringTenant
  principal := some ⟨"buyer", "Buyer", some "https://buyer.example.com/a2a"⟩

/-- A walk has failed after the keys ran out, and within the cooldown of that walk the next request
is verified with the old keys. -/
theorem key_resolution_laws_second :
    KeyLaws signingSettings
        [incomingRequestAt 0, { incomingRequestAt 0 with checks := unreachableChecks 4000 }]
        { incomingRequestAt 0 with checks := unreachableChecks 4030 }
      ∧ ({ incomingRequestAt 0 with checks := unreachableChecks 4030 } : IncomingRequest).verdict
          signingSettings (processBefore signingSettings
            [incomingRequestAt 0, { incomingRequestAt 0 with checks := unreachableChecks 4000 }]).cache
        = .ok (some ⟨"k1", some "https://buyer.example.com/a2a"⟩) := by
  refine ⟨key_resolution_laws signingSettings _ _ (by decide) ?_ (unreachableChecks_raises 4030),
    by decide +kernel⟩
  intro req' hreq' agentType url resolution hwalk
  rcases List.mem_cons.mp hreq' with rfl | hlater
  · cases hwalk
    exact ⟨rfl, Int.le_refl 0⟩
  · rcases List.mem_cons.mp hlater with rfl | hlast
    · cases hwalk
    · obtain rfl := List.mem_singleton.mp hlast
      cases hwalk

end Proofs

end Signing
end SalesAgent
