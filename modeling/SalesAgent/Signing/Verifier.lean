import Mathlib.Logic.Function.Basic
import SalesAgent.Identity.Directory

/-!
# Verification of inbound signatures

The verifier decides whether the checklist of the signing library runs on a request, with
which keys, and what a rejection means.  The keys of a counterparty are discovered from
its agent URL and cached by the process; a caller without an agent URL is looked up in a
configured registry by the key id its signature names.

A request that registers webhook credentials is escalated: its bucket is `required`
whatever the posture names, and a bearer does not excuse it from signing.

**Results.**
* `resolutionFor_published`: the keys come from a discovery of the agent URL, or from the
  registry where there is no agent URL.
* `registered_of_verifyInboundSignature`: the signer of a caller without a bearer.
* `escalated_cases`: what an accepted escalated request is.
-/

namespace SalesAgent
namespace Signing

open Identity (Principal TenantContext)

/-- A key of a key set. -/
structure Jwk where
  kid : String
  material : String
  deriving DecidableEq, Repr

/-- `AgentResolution`, in the fields this code reads. -/
structure AgentResolution where
  agentUrl : String
  jwksUri : String
  jwks : List Jwk
  fetchedAt : Int
  deriving DecidableEq, Repr

/-- `AgentResolverError`, with the code of its cause. -/
structure AgentResolverError where
  code : String
  cause : Option String := none
  deriving DecidableEq, Repr

/-- `SignatureVerificationError` -/
structure SignatureVerificationError where
  code : String
  step : Option Nat := none
  deriving DecidableEq, Repr

/-- `VerifiedSigner` -/
structure VerifiedSigner where
  keyId : String
  agentUrl : Option String
  deriving DecidableEq, Repr

/-- `CounterpartyRegistryEntry` -/
structure CounterpartyRegistryEntry where
  agentUrl : String
  jwks : List Jwk
  deriving DecidableEq, Repr

/-- The settings of the verifier; times are in microseconds. -/
structure VerifierSettings where
  verifierEnabled : Bool := true
  maxSignedBodyBytes : Nat
  agentResolutionTtl : Int
  agentResolutionRefetchCooldown : Int
  counterpartyAgentType : String
  counterpartyRegistry : List (String × CounterpartyRegistryEntry)

/-- `JwksResolver`: a key set, or a discovery that failed. -/
inductive JwksResolver
  | static (jwks : List Jwk)
  | failedDiscovery (code : String)
  deriving DecidableEq, Repr

/-- `__call__` -/
def JwksResolver.call
    (keyid : String) : JwksResolver → Except SignatureVerificationError (Option Jwk)
  | .static jwks => .ok (jwks.find? fun jwk => jwk.kid = keyid)
  | .failedDiscovery code => .error ⟨code, some 7⟩

/-- `VerifyOptions`; the replay store and the revocation checker come together. -/
structure VerifyOptions where
  now : Int
  capability : VerifierCapability
  operation : String
  jwksResolver : JwksResolver
  hasStores : Bool
  agentUrl : Option String
  posture : PostureBucket
  deriving DecidableEq, Repr

/-- What the verifier calls while it reads one request: the clock, the signing library, the
discovery of a counterparty, and the two gates that refuse a malformed message. -/
structure Checklist where
  now : Int
  parseSignatureInputHeader : String → Option (List (String × Option String))
  resolveAgent : String → String → Except AgentResolverError AgentResolution
  strictHeaderPrecheck : List RawHeader → Except SignatureVerificationError Unit
  rejectMalformedTarget : String → Except SignatureVerificationError Unit
  verifyRequestSignature :
    HttpExchange → Headers → VerifyOptions → Except SignatureVerificationError VerifiedSigner

/-- `SignatureSubject` -/
structure SignatureSubject where
  operation : String
  registersCredentials : Bool
  exchange : Option HttpExchange

/-- `_ResolutionFailure` -/
structure ResolutionFailure where
  failedAt : Int
  code : String
  deriving DecidableEq, Repr

/-- `AGENT_RESOLUTION_CACHE` and `_RESOLUTION_FAILURES`. -/
structure KeyCache where
  resolutions : String → Option AgentResolution
  failures : String → Option ResolutionFailure

/-- The caches of a process that has discovered nothing. -/
def KeyCache.empty : KeyCache where
  resolutions := fun _ => none
  failures := fun _ => none

section Codes

def requestSignatureHeaderMalformed : String := "request_signature_header_malformed"

def requestSignatureRequired : String := "request_signature_required"

def requestSignatureJwksUntrusted : String := "request_signature_jwks_untrusted"

def requestSignatureJwksUnavailable : String := "request_signature_jwks_unavailable"

/-- `_map_brand_json_resolver_error` -/
def mapBrandJsonResolverError
    (cause : Option String) : String :=
  match cause with
  | some code =>
      if code ∈ ["fetch_failed", "redirect_loop", "redirect_depth_exceeded"] then
        "request_signature_brand_json_unreachable"
      else if code ∈ ["invalid_body", "schema_invalid", "invalid_house", "invalid_url"] then
        "request_signature_brand_json_malformed"
      else if code = "agent_ambiguous" then
        "request_signature_brand_json_ambiguous"
      else if code = "agent_not_found" then
        "request_signature_agent_not_in_brand_json"
      else
        requestSignatureJwksUnavailable
  | none => requestSignatureJwksUnavailable

/-- `_map_agent_resolver_error` -/
def mapAgentResolverError
    (exc : AgentResolverError) : String :=
  if exc.code = "invalid_agent_url" then
    requestSignatureJwksUntrusted
  else if exc.code = "capabilities_unreachable" then
    "request_signature_capabilities_unreachable"
  else if exc.code ∈ ["capabilities_invalid", "brand_json_url_missing"] then
    "request_signature_brand_json_url_missing"
  else if exc.code = "jwks_fetch_failed" then
    requestSignatureJwksUnavailable
  else if exc.code = "brand_json_resolution_failed" then
    mapBrandJsonResolverError exc.cause
  else
    requestSignatureJwksUnavailable

end Codes

section Keys

/-- `WELL_KNOWN_JWKS_PATH` -/
def wellKnownJwksPath : String := "/.well-known/jwks.json"

/-- The scheme of a URL, in lower case, and what follows its colon. -/
def schemeOf
    (url : String) : String × List Char :=
  let scheme := url.toList.takeWhile (· ≠ ':')
  let rest := url.toList.drop (scheme.length + 1)
  if scheme.length < url.toList.length ∧ (scheme.head?.any Char.isAlpha) ∧
      (scheme.all fun c => c.isAlphanum || c ∈ ['+', '-', '.']) then
    ((String.ofList scheme).toLower, rest)
  else
    ("", url.toList)

/-- `origin_of`, for a URL that `urlsplit` accepts. -/
def originOf
    (url : String) : Option String :=
  let (scheme, rest) := schemeOf url
  let netloc :=
    if rest.take 2 = ['/', '/'] then (rest.drop 2).takeWhile (· ∉ ['/', '?', '#']) else []
  if scheme = "" ∨ netloc = [] then none else some (scheme ++ "://" ++ String.ofList netloc)

/-- `_jwks_is_well_known` -/
def jwksIsWellKnown
    (resolution : AgentResolution) : Bool :=
  (originOf resolution.agentUrl).any fun origin =>
    resolution.jwksUri = origin ++ wellKnownJwksPath

variable (config : VerifierSettings) (checks : Checklist) (cache : KeyCache)

/-- `build_registry_resolution` -/
def buildRegistryResolution
    (entry : CounterpartyRegistryEntry) : AgentResolution where
  agentUrl := entry.agentUrl
  jwksUri := ((originOf entry.agentUrl).getD "None") ++ wellKnownJwksPath
  jwks := entry.jwks
  fetchedAt := checks.now

/-- `_parse_keyid` -/
def parseKeyid
    (headers : Headers) : Option String :=
  match (headers.get "signature-input").filter (· ≠ "") with
  | none => none
  | some raw => ((checks.parseSignatureInputHeader raw).getD []).findSome? Prod.snd

/-- A walk that failed, remembered for the cooldown. -/
def KeyCache.failed
    (agentUrl code : String) : KeyCache where
  resolutions := cache.resolutions
  failures := Function.update cache.failures agentUrl (some ⟨checks.now, code⟩)

/-- A walk that succeeded. -/
def KeyCache.resolved
    (agentUrl : String)
    (resolution : AgentResolution) : KeyCache where
  resolutions := Function.update cache.resolutions agentUrl (some resolution)
  failures := Function.update cache.failures agentUrl none

/-- The cached resolution of an agent URL is young enough to be used. -/
def KeyCache.fresh
    (agentUrl : String) : Bool :=
  (cache.resolutions agentUrl).any fun cached =>
    checks.now - cached.fetchedAt ≤ config.agentResolutionTtl

/-- The last walk failed a moment ago. -/
def KeyCache.coolingDown
    (agentUrl : String) : Bool :=
  (cache.failures agentUrl).any fun failure =>
    checks.now - failure.failedAt < config.agentResolutionRefetchCooldown

/-- The branch of `_resolution_for` for a caller without an agent URL. -/
def registryResolution
    (keyid : Option String) : Option AgentResolution :=
  (keyid.bind fun id => config.counterpartyRegistry.lookup id).map (buildRegistryResolution checks)

/-- The branch of `_resolution_for` that walks from an agent URL. -/
def walkedResolution
    (agentUrl : String) : KeyCache × Option AgentResolution :=
  let cached := cache.resolutions agentUrl
  if cache.fresh config checks agentUrl || cache.coolingDown config checks agentUrl then
    (cache, cached)
  else
    match checks.resolveAgent config.counterpartyAgentType agentUrl with
    | .error exc => (cache.failed checks agentUrl (mapAgentResolverError exc), cached)
    | .ok resolution =>
        if jwksIsWellKnown resolution then
          (cache.resolved agentUrl resolution, some resolution)
        else
          (cache.failed checks agentUrl requestSignatureJwksUntrusted, cached)

/-- `_resolution_for` -/
def resolutionFor
    (agentUrl keyid : Option String) : KeyCache × Option AgentResolution :=
  match agentUrl.filter (· ≠ "") with
  | none => (cache, registryResolution config checks keyid)
  | some url => walkedResolution config checks cache url

/-- `_jwks_resolver` -/
def jwksResolver
    (resolution : Option AgentResolution)
    (agentUrl : Option String) : JwksResolver :=
  match resolution with
  | some found => .static found.jwks
  | none =>
      match agentUrl.bind cache.failures with
      | some failure => .failedDiscovery failure.code
      | none => .static []

end Keys

section Verdicts

variable (config : VerifierSettings) (checks : Checklist)

/-- `_bucket_for`, with the escalation. -/
def bucketFor
    (posture : RequestSigningPosture)
    (subject : SignatureSubject) : PostureBucket :=
  if subject.registersCredentials && posture.supported then
    .required
  else
    posture.bucketFor subject.operation

/-- `_refuse_unsigned_if_required` -/
def refuseUnsignedIfRequired
    (posture : RequestSigningPosture)
    (subject : SignatureSubject)
    (bucket : PostureBucket)
    (authenticated : Bool) : Except SignatureVerificationError Unit :=
  let escalated := subject.registersCredentials && posture.supported
  if bucket ≠ .required || (authenticated && ! escalated) then
    .ok ()
  else
    .error ⟨requestSignatureRequired, some 0⟩

/-- `_handle_rejection` -/
def handleRejection
    (exc : SignatureVerificationError)
    (bucket : PostureBucket) : Except SignatureVerificationError (Option VerifiedSigner) :=
  if exc.code = requestSignatureHeaderMalformed && exc.step = some 1 then
    .error exc
  else if bucket = .none then
    .ok none
  else
    .error exc

/-- The verdict of the checklist, as the caller gets it. -/
def graded
    (verdict : Except SignatureVerificationError VerifiedSigner)
    (bucket : PostureBucket) : Except SignatureVerificationError (Option VerifiedSigner) :=
  match verdict with
  | .ok signer => .ok (some signer)
  | .error exc => handleRejection exc bucket

/-- `_run_verifier` -/
def runVerifier
    (cache : KeyCache)
    (posture : RequestSigningPosture)
    (subject : SignatureSubject)
    (exchange : HttpExchange)
    (bucket : PostureBucket)
    (headers : Headers)
    (resolution : Option AgentResolution)
    (agentUrl : Option String) : Except SignatureVerificationError VerifiedSigner :=
  let precheckOnly : Bool := bucket = .none
  checks.verifyRequestSignature exchange headers
    { now := checks.now
      capability := posture.toVerifierCapability
      operation := subject.operation
      jwksResolver := if precheckOnly then .static [] else jwksResolver cache resolution agentUrl
      hasStores := ! precheckOnly
      agentUrl := resolution.map AgentResolution.agentUrl
      posture := bucket }

/-- The part of `_verify_signed` from the pre-check on. -/
def checkSigned
    (cache : KeyCache)
    (posture : RequestSigningPosture)
    (subject : SignatureSubject)
    (exchange : HttpExchange)
    (bucket : PostureBucket)
    (headers : Headers)
    (agentUrl : Option String) :
    KeyCache × Except SignatureVerificationError VerifiedSigner :=
  match checks.strictHeaderPrecheck exchange.rawHeaders with
  | .error exc => (cache, .error exc)
  | .ok () =>
      if bucket = .none then
        (cache, runVerifier checks cache posture subject exchange bucket headers none agentUrl)
      else
        match checks.rejectMalformedTarget exchange.url with
        | .error exc => (cache, .error exc)
        | .ok () =>
            let found := resolutionFor config checks cache agentUrl (parseKeyid checks headers)
            (found.1,
              runVerifier checks found.1 posture subject exchange bucket headers found.2 agentUrl)

/-- `_verify_signed` -/
def verifySigned
    (cache : KeyCache)
    (posture : RequestSigningPosture)
    (subject : SignatureSubject)
    (exchange : HttpExchange)
    (bucket : PostureBucket)
    (headers : Headers)
    (agentUrl : Option String) :
    KeyCache × Except SignatureVerificationError (Option VerifiedSigner) :=
  match posture.supported, exchange.overCap, exchange.complete with
  | false, _, _ => (cache, .ok none)
  | true, true, _ => (cache, .error ⟨requestSignatureHeaderMalformed, some 1⟩)
  -- the client is gone, and its handler unwinds
  | true, false, false => (cache, .ok none)
  | true, false, true =>
      let checked := checkSigned config checks cache posture subject exchange bucket headers agentUrl
      (checked.1, graded checked.2 bucket)

/-- `verify_inbound_signature` -/
def verifyInboundSignature
    (cache : KeyCache)
    (subject : SignatureSubject)
    (headers : Headers)
    (tenant : TenantContext)
    (principal : Option Principal) :
    KeyCache × Except SignatureVerificationError (Option VerifiedSigner) :=
  if ! config.verifierEnabled then
    (cache, .ok none)
  else
    let posture := postureForTenant config.verifierEnabled tenant.capabilityDeclarations
    let bucket := bucketFor posture subject
    match subject.exchange.filter HttpExchange.presentsSignature with
    | none =>
        (cache, (refuseUnsignedIfRequired posture subject bucket principal.isSome).map fun _ => none)
    | some exchange =>
        verifySigned config checks cache posture subject exchange bucket headers
          (principal.bind Principal.agentUrl)

end Verdicts

section Results

variable {config : VerifierSettings} {checks : Checklist} {cache : KeyCache}

/-- The discovery of an agent URL finds these keys at their well-known place. -/
def Checklist.Discovers
    (checks : Checklist)
    (config : VerifierSettings)
    (agentUrl : String)
    (resolution : AgentResolution) : Prop :=
  checks.resolveAgent config.counterpartyAgentType agentUrl = .ok resolution ∧
    jwksIsWellKnown resolution = true

/-- Every cached resolution was published under its agent URL. -/
def KeyCache.Published
    (published : String → AgentResolution → Prop)
    (cache : KeyCache) : Prop :=
  ∀ url resolution, cache.resolutions url = some resolution → published url resolution

/-- The checklist accepts a signature only under a key that it resolved. -/
def Checklist.Keyed
    (signs : Jwk → HttpExchange → Headers → Prop)
    (checks : Checklist) : Prop :=
  ∀ exchange headers options signer,
    checks.verifyRequestSignature exchange headers options = .ok signer →
    ∃ jwk, options.jwksResolver.call signer.keyId = .ok (some jwk) ∧ signs jwk exchange headers

/-- The signer that the checklist accepts carries the agent URL it was given with the keys. -/
def Checklist.NamesAgent
    (checks : Checklist) : Prop :=
  ∀ exchange headers options signer,
    checks.verifyRequestSignature exchange headers options = .ok signer →
    signer.agentUrl = options.agentUrl

/-- A message is signed with a key that is registered, under the agent URL, for the key id that
its signature names. -/
def RegisteredSigner
    (config : VerifierSettings)
    (checks : Checklist)
    (signs : Jwk → HttpExchange → Headers → Prop)
    (exchange : HttpExchange)
    (headers : Headers)
    (agentUrl : String) : Prop :=
  ∃ id entry jwk, parseKeyid checks headers = some id ∧
    config.counterpartyRegistry.lookup id = some entry ∧ entry.agentUrl = agentUrl ∧
    jwk ∈ entry.jwks ∧ signs jwk exchange headers

variable {published : String → AgentResolution → Prop}

theorem KeyCache.Published.resolved
    {agentUrl : String}
    {resolution : AgentResolution}
    (h : cache.Published published)
    (hnew : published agentUrl resolution) :
    (cache.resolved agentUrl resolution).Published published := by
  intro url found hfound
  by_cases hurl : url = agentUrl
  · subst hurl
    have heq : resolution = found := by
      simpa [KeyCache.resolved] using hfound
    exact heq ▸ hnew
  · exact h url found (by simpa [KeyCache.resolved, hurl] using hfound)

/-- A walk keeps the cache published, and what it returns is published. -/
theorem walkedResolution_published
    {agentUrl : String}
    (h : cache.Published published)
    (hnew : ∀ resolution, checks.Discovers config agentUrl resolution →
      published agentUrl resolution) :
    (walkedResolution config checks cache agentUrl).1.Published published ∧
      ∀ resolution, (walkedResolution config checks cache agentUrl).2 = some resolution →
        published agentUrl resolution := by
  rw [walkedResolution]
  by_cases hcached :
      (cache.fresh config checks agentUrl || cache.coolingDown config checks agentUrl) = true
  · rw [if_pos hcached]
    exact ⟨h, h agentUrl⟩
  · rw [if_neg hcached]
    cases hwalk : checks.resolveAgent config.counterpartyAgentType agentUrl with
    | error exc =>
        exact ⟨h, h agentUrl⟩
    | ok resolution =>
        by_cases hplace : jwksIsWellKnown resolution = true
        · have hpublished := hnew resolution ⟨hwalk, hplace⟩
          simp only [hplace, if_true]
          refine ⟨h.resolved hpublished, fun found hfound => ?_⟩
          cases hfound
          exact hpublished
        · simp only [hplace]
          exact ⟨h, h agentUrl⟩

/-- The keys of a caller: published under its agent URL, or registered for a key id. -/
theorem resolutionFor_published
    {agentUrl keyid : Option String}
    (h : cache.Published published)
    (hnew : ∀ url resolution, checks.Discovers config url resolution → published url resolution) :
    (resolutionFor config checks cache agentUrl keyid).1.Published published ∧
      ∀ resolution, (resolutionFor config checks cache agentUrl keyid).2 = some resolution →
        (∃ url, agentUrl = some url ∧ url ≠ "" ∧ published url resolution) ∨
          agentUrl.filter (· ≠ "") = none ∧
            ∃ id entry, keyid = some id ∧ config.counterpartyRegistry.lookup id = some entry ∧
              resolution = buildRegistryResolution checks entry := by
  cases hurl : agentUrl.filter (· ≠ "") with
  | none =>
      rw [resolutionFor, hurl]
      refine ⟨h, fun resolution hfound => Or.inr ⟨rfl, ?_⟩⟩
      obtain ⟨entry, hentry, heq⟩ := Option.map_eq_some_iff.mp hfound
      obtain ⟨id, hid, hlookup⟩ := Option.bind_eq_some_iff.mp hentry
      exact ⟨id, entry, hid, hlookup, heq.symm⟩
  | some url =>
      rw [resolutionFor, hurl]
      obtain ⟨heq, hne⟩ := Option.filter_eq_some_iff.mp hurl
      have hwalked := @walkedResolution_published config _ _ _ _ h (hnew url)
      exact ⟨hwalked.1, fun resolution hfound =>
        Or.inl ⟨url, heq, by simpa using hne, hwalked.2 resolution hfound⟩⟩

theorem mem_of_jwksResolver
    {resolution : Option AgentResolution}
    {agentUrl : Option String}
    {keyid : String}
    {jwk : Jwk}
    (h : (jwksResolver cache resolution agentUrl).call keyid = .ok (some jwk)) :
    ∃ found, resolution = some found ∧ jwk ∈ found.jwks := by
  cases resolution with
  | some found =>
      rw [jwksResolver, JwksResolver.call] at h
      have hfind : (found.jwks.find? fun jwk => jwk.kid = keyid) = some jwk := by
        injection h
      exact ⟨found, rfl, List.mem_of_find?_eq_some hfind⟩
  | none =>
      rw [jwksResolver] at h
      cases hfailure : agentUrl.bind cache.failures with
      | none =>
          rw [hfailure] at h
          cases h
      | some failure =>
          rw [hfailure] at h
          cases h

theorem graded_eq_some
    {verdict : Except SignatureVerificationError VerifiedSigner}
    {bucket : PostureBucket}
    {signer : VerifiedSigner}
    (h : graded verdict bucket = .ok (some signer)) :
    verdict = .ok signer := by
  cases verdict with
  | ok found =>
      rw [graded] at h
      have heq : found = signer := by
        injection h with h
        injection h
      rw [heq]
  | error exc =>
      rw [graded, handleRejection] at h
      split_ifs at h
      injection h with h
      cases h

theorem graded_required
    {verdict : Except SignatureVerificationError VerifiedSigner}
    {outcome : Option VerifiedSigner}
    (h : graded verdict .required = .ok outcome) :
    ∃ signer, verdict = .ok signer ∧ outcome = some signer := by
  cases verdict with
  | ok signer =>
      rw [graded] at h
      cases h
      exact ⟨signer, rfl, rfl⟩
  | error exc =>
      rw [graded, handleRejection] at h
      split_ifs at h with _ hbucket
      cases hbucket

variable {posture : RequestSigningPosture} {subject : SignatureSubject} {exchange : HttpExchange}
variable {bucket : PostureBucket} {headers : Headers} {agentUrl : Option String}

variable {signs : Jwk → HttpExchange → Headers → Prop}

theorem signer_of_runVerifier
    (hkeyed : checks.Keyed signs)
    (hnames : checks.NamesAgent)
    {resolution : Option AgentResolution}
    {signer : VerifiedSigner}
    (h : runVerifier checks cache posture subject exchange bucket headers resolution agentUrl =
      .ok signer) :
    ∃ found jwk, resolution = some found ∧ signer.agentUrl = some found.agentUrl ∧
      jwk ∈ found.jwks ∧ signs jwk exchange headers := by
  obtain ⟨jwk, hcall, hsigns⟩ := hkeyed _ _ _ _ h
  have hagent := hnames _ _ _ _ h
  dsimp only at hcall hagent
  by_cases hbucket : bucket = .none
  · rw [if_pos (decide_eq_true hbucket)] at hcall
    cases hcall
  · rw [if_neg (by simpa using hbucket)] at hcall
    obtain ⟨found, rfl, hmem⟩ := mem_of_jwksResolver hcall
    exact ⟨found, jwk, rfl, hagent, hmem, hsigns⟩

theorem runVerifier_of_checkSigned
    {signer : VerifiedSigner}
    (hbucket : bucket ≠ .none)
    (h : (checkSigned config checks cache posture subject exchange bucket headers agentUrl).2 =
      .ok signer) :
    runVerifier checks
      (resolutionFor config checks cache agentUrl (parseKeyid checks headers)).1
      posture subject exchange bucket headers
      (resolutionFor config checks cache agentUrl (parseKeyid checks headers)).2
      agentUrl = .ok signer := by
  rw [checkSigned] at h
  cases hpre : checks.strictHeaderPrecheck exchange.rawHeaders with
  | error exc =>
      rw [hpre] at h
      cases h
  | ok _ =>
      rw [hpre] at h
      simp only [hbucket, if_false] at h
      cases htarget : checks.rejectMalformedTarget exchange.url with
      | error exc =>
          rw [htarget] at h
          cases h
      | ok _ =>
          rw [htarget] at h
          exact h

theorem registered_of_checkSigned
    (hkeyed : checks.Keyed signs)
    (hnames : checks.NamesAgent)
    {signer : VerifiedSigner}
    (h : (checkSigned config checks cache posture subject exchange bucket headers none).2 =
      .ok signer) :
    ∃ url, signer.agentUrl = some url ∧
      RegisteredSigner config checks signs exchange headers url := by
  by_cases hbucket : bucket = .none
  · rw [checkSigned] at h
    cases hpre : checks.strictHeaderPrecheck exchange.rawHeaders with
    | error exc =>
        rw [hpre] at h
        cases h
    | ok _ =>
        rw [hpre] at h
        simp only [hbucket, if_true] at h
        obtain ⟨found, _, hnone, -⟩ := signer_of_runVerifier hkeyed hnames h
        cases hnone
  · obtain ⟨found, jwk, hfound, hagent, hmem, hsigns⟩ :=
      signer_of_runVerifier hkeyed hnames (runVerifier_of_checkSigned hbucket h)
    obtain ⟨entry, hentry, rfl⟩ := Option.map_eq_some_iff.mp hfound
    obtain ⟨id, hid, hlookup⟩ := Option.bind_eq_some_iff.mp hentry
    exact ⟨entry.agentUrl, hagent, id, entry, jwk, hid, hlookup, rfl, hmem, hsigns⟩

/-- Checking a signature keeps the cache published. -/
theorem checkSigned_published
    (h : cache.Published published)
    (hnew : ∀ url resolution, checks.Discovers config url resolution → published url resolution) :
    (checkSigned config checks cache posture subject exchange bucket headers
      agentUrl).1.Published published := by
  rw [checkSigned]
  cases checks.strictHeaderPrecheck exchange.rawHeaders with
  | error exc => exact h
  | ok _ =>
      by_cases hnone : bucket = .none
      · simp only [hnone, if_true]
        exact h
      · simp only [hnone, if_false]
        cases checks.rejectMalformedTarget exchange.url with
        | error exc => exact h
        | ok _ => exact (resolutionFor_published h hnew).1

theorem registered_of_verifySigned
    (hkeyed : checks.Keyed signs)
    (hnames : checks.NamesAgent)
    {signer : VerifiedSigner}
    (h : (verifySigned config checks cache posture subject exchange bucket headers none).2 =
      .ok (some signer)) :
    ∃ url, signer.agentUrl = some url ∧
      RegisteredSigner config checks signs exchange headers url := by
  rw [verifySigned] at h
  split at h
  · cases h
  · cases h
  · cases h
  · exact registered_of_checkSigned hkeyed hnames (graded_eq_some h)

theorem verifySigned_published
    (h : cache.Published published)
    (hnew : ∀ url resolution, checks.Discovers config url resolution → published url resolution) :
    (verifySigned config checks cache posture subject exchange bucket headers
      agentUrl).1.Published published := by
  rw [verifySigned]
  split
  · exact h
  · exact h
  · exact h
  · exact checkSigned_published h hnew

/-- A signed message in the bucket `required` passes only when its client went away before
its body was whole, or when it was verified with the keys of the caller. -/
theorem verifySigned_required
    {outcome : Option VerifiedSigner}
    (hsupported : posture.supported = true)
    (h : (verifySigned config checks cache posture subject exchange .required headers
      agentUrl).2 = .ok outcome) :
    exchange.complete = false ∧ exchange.overCap = false ∨
      ∃ signer,
        runVerifier checks
          (resolutionFor config checks cache agentUrl (parseKeyid checks headers)).1
          posture subject exchange .required headers
          (resolutionFor config checks cache agentUrl (parseKeyid checks headers)).2
          agentUrl = .ok signer := by
  rw [verifySigned] at h
  split at h
  · next _ _ _ hno =>
      rw [hsupported] at hno
      cases hno
  · cases h
  · next _ hcap hcomplete =>
      exact Or.inl ⟨hcomplete, hcap⟩
  · obtain ⟨signer, hverdict, _⟩ := graded_required h
    exact Or.inr ⟨signer, runVerifier_of_checkSigned (by decide) hverdict⟩

variable {tenant : TenantContext} {principal : Option Principal}

/-- A signer that reading the signature of a caller without a bearer returns is registered. -/
theorem registered_of_verifyInboundSignature
    (hkeyed : checks.Keyed signs)
    (hnames : checks.NamesAgent)
    {signer : VerifiedSigner}
    (h : (verifyInboundSignature config checks cache subject headers tenant none).2 =
      .ok (some signer)) :
    ∃ exchange url, subject.exchange = some exchange ∧ exchange.presentsSignature = true ∧
      signer.agentUrl = some url ∧
      RegisteredSigner config checks signs exchange headers url := by
  rw [verifyInboundSignature] at h
  cases henabled : config.verifierEnabled with
  | false =>
      rw [henabled] at h
      cases h
  | true =>
      rw [henabled] at h
      cases hexchange : subject.exchange.filter HttpExchange.presentsSignature with
      | none =>
          rw [hexchange] at h
          cases hrefuse : refuseUnsignedIfRequired
              (postureForTenant true tenant.capabilityDeclarations) subject
              (bucketFor (postureForTenant true tenant.capabilityDeclarations) subject) false with
          | error exc =>
              simp [hrefuse, Except.map] at h
          | ok _ =>
              simp [hrefuse, Except.map] at h
      | some exchange =>
          rw [hexchange] at h
          obtain ⟨hsubject, hpresents⟩ := Option.filter_eq_some_iff.mp hexchange
          dsimp only [Option.bind_none] at h
          obtain ⟨url, hurl, hsigned⟩ := registered_of_verifySigned hkeyed hnames h
          exact ⟨exchange, url, hsubject, hpresents, hurl, hsigned⟩

theorem verifyInboundSignature_published
    (h : cache.Published published)
    (hnew : ∀ url resolution, checks.Discovers config url resolution → published url resolution) :
    (verifyInboundSignature config checks cache subject headers tenant
      principal).1.Published published := by
  rw [verifyInboundSignature]
  split_ifs
  · exact h
  · cases subject.exchange.filter HttpExchange.presentsSignature with
    | none => exact h
    | some exchange => exact verifySigned_published h hnew

/-- The keys a caller may sign with: those published under its agent URL or, where it has
none, those registered for the key id that its signature names. -/
def CallersKey
    (config : VerifierSettings)
    (checks : Checklist)
    (published : String → AgentResolution → Prop)
    (headers : Headers)
    (agentUrl : Option String)
    (jwk : Jwk) : Prop :=
  (∃ url resolution, agentUrl = some url ∧ url ≠ "" ∧ published url resolution ∧
      jwk ∈ resolution.jwks) ∨
    agentUrl.filter (· ≠ "") = none ∧
      ∃ id entry, parseKeyid checks headers = some id ∧
        config.counterpartyRegistry.lookup id = some entry ∧ jwk ∈ entry.jwks

/-- What an accepted escalated request is: one whose client went away before its body was
whole, or one signed with a key of the caller. -/
theorem escalated_cases
    {signs : Jwk → HttpExchange → Headers → Prop}
    {outcome : Option VerifiedSigner}
    (hcache : cache.Published published)
    (hnew : ∀ url resolution, checks.Discovers config url resolution → published url resolution)
    (hkeyed : checks.Keyed signs)
    (hsupported :
      (postureForTenant config.verifierEnabled tenant.capabilityDeclarations).supported = true)
    (hregisters : subject.registersCredentials = true)
    (h : (verifyInboundSignature config checks cache subject headers tenant principal).2 =
      .ok outcome) :
    ∃ exchange, subject.exchange = some exchange ∧ exchange.presentsSignature = true ∧
      (exchange.complete = false ∧ exchange.overCap = false ∨
        ∃ jwk, signs jwk exchange headers ∧
          CallersKey config checks published headers (principal.bind Principal.agentUrl) jwk) := by
  rw [verifyInboundSignature, enabled_of_supported hsupported] at h
  rw [enabled_of_supported hsupported] at hsupported
  have hbucket : bucketFor (postureForTenant true tenant.capabilityDeclarations) subject =
      .required := by
    rw [bucketFor, hregisters, hsupported]
    rfl
  cases hexchange : subject.exchange.filter HttpExchange.presentsSignature with
  | none =>
      rw [hexchange] at h
      simp only [refuseUnsignedIfRequired, hbucket, hregisters, hsupported] at h
      cases hauthenticated : principal.isSome <;> simp [hauthenticated, Except.map] at h
  | some exchange =>
      rw [hexchange] at h
      simp only [hbucket] at h
      obtain ⟨hsubject, hpresents⟩ := Option.filter_eq_some_iff.mp hexchange
      refine ⟨exchange, hsubject, hpresents, ?_⟩
      rcases verifySigned_required hsupported h with hcut | ⟨signer, hverdict⟩
      · exact Or.inl hcut
      · obtain ⟨jwk, hcall, hsigns⟩ := hkeyed _ _ _ _ hverdict
        obtain ⟨resolution, hfound, hjwk⟩ := mem_of_jwksResolver hcall
        have hpublished :=
          (@resolutionFor_published config _ _ _ _ (parseKeyid checks headers) hcache hnew).2 resolution
            hfound
        refine Or.inr ⟨jwk, hsigns, ?_⟩
        rcases hpublished with ⟨url, hurl, hne, hpub⟩ | ⟨hnone, id, entry, hid, hentry, heq⟩
        · exact Or.inl ⟨url, resolution, hurl, hne, hpub, hjwk⟩
        · subst heq
          exact Or.inr ⟨hnone, id, entry, hid, hentry, hjwk⟩

end Results

end Signing
end SalesAgent
