import SalesAgent.Signing.Verifier

/-!
# The decision on a posture

`verify_inbound_signature` decides in five functions with early returns.  What it calls outside of
itself is recorded here: the discovery walk, and the checklist with the options that it is handed.
A checklist that is handed no stores touches no nonce row.

**Results.**
* `verifyInboundSignature_of_calls`: the verdict depends on no answer but those of its calls.
* `posture_decision`: when a request is refused, what a signed request may call, and that a
  signature that is attached to a refused request has to verify, or its client has gone away.
-/

namespace SalesAgent
namespace Signing

open Identity (Principal TenantContext)

section Calls

/-- What the verifier calls: the walk from an agent URL, and the checklist of the library. -/
inductive OutsideCall
  | resolveAgent (agentUrl : String)
  | verifyRequestSignature (options : VerifyOptions)
  deriving DecidableEq, Repr

variable (config : VerifierSettings) (checks : Checklist)

/-- The options of `_run_verifier`. -/
def verifierOptions
    (cache : KeyCache)
    (posture : RequestSigningPosture)
    (subject : SignatureSubject)
    (bucket : PostureBucket)
    (resolution : Option AgentResolution)
    (agentUrl : Option String) : VerifyOptions where
  now := checks.now
  capability := posture.toVerifierCapability
  operation := subject.operation
  jwksResolver :=
    if bucket = .none then .static [] else jwksResolver cache resolution agentUrl
  hasStores := ! decide (bucket = .none)
  agentUrl := resolution.map AgentResolution.agentUrl
  posture := bucket

/-- The walk of `_resolution_for`. -/
def resolutionCalls
    (cache : KeyCache)
    (agentUrl : Option String) : List OutsideCall :=
  match agentUrl.filter (· ≠ "") with
  | none => []
  | some url =>
      if cache.fresh config checks url || cache.coolingDown config checks url then []
      else [.resolveAgent url]

/-- The calls of `_verify_signed` from the pre-check on. -/
def checkSignedCalls
    (cache : KeyCache)
    (posture : RequestSigningPosture)
    (subject : SignatureSubject)
    (exchange : HttpExchange)
    (bucket : PostureBucket)
    (headers : Headers)
    (agentUrl : Option String) : List OutsideCall :=
  match checks.strictHeaderPrecheck exchange.rawHeaders with
  | .error _ => []
  | .ok () =>
      if bucket = .none then
        [.verifyRequestSignature
          (verifierOptions checks cache posture subject bucket none agentUrl)]
      else
        match checks.rejectMalformedTarget exchange.url with
        | .error _ => []
        | .ok () =>
            let found := resolutionFor config checks cache agentUrl (parseKeyid checks headers)
            resolutionCalls config checks cache agentUrl
              ++ [.verifyRequestSignature
                (verifierOptions checks found.1 posture subject bucket found.2 agentUrl)]

/-- The calls of `_verify_signed`. -/
def verifySignedCalls
    (cache : KeyCache)
    (posture : RequestSigningPosture)
    (subject : SignatureSubject)
    (exchange : HttpExchange)
    (bucket : PostureBucket)
    (headers : Headers)
    (agentUrl : Option String) : List OutsideCall :=
  if posture.supported && ! exchange.overCap && exchange.complete then
    checkSignedCalls config checks cache posture subject exchange bucket headers agentUrl
  else []

/-- The calls of `verify_inbound_signature`. -/
def verifyInboundCalls
    (cache : KeyCache)
    (subject : SignatureSubject)
    (headers : Headers)
    (tenant : TenantContext)
    (principal : Option Principal) : List OutsideCall :=
  if ! config.verifierEnabled then []
  else
    let posture := postureForTenant config.verifierEnabled tenant.capabilityDeclarations
    match subject.exchange.filter HttpExchange.presentsSignature with
    | none => []
    | some exchange =>
        verifySignedCalls config checks cache posture subject exchange (bucketFor posture subject)
          headers (principal.bind Principal.agentUrl)

end Calls

section Dependence

variable {config : VerifierSettings} {checks checks' : Checklist} {cache : KeyCache}
variable {posture : RequestSigningPosture} {subject : SignatureSubject} {exchange : HttpExchange}
variable {bucket : PostureBucket} {headers : Headers} {agentUrl : Option String}

theorem runVerifier_eq
    {resolution : Option AgentResolution} :
    runVerifier checks cache posture subject exchange bucket headers resolution agentUrl
      = checks.verifyRequestSignature exchange headers
        (verifierOptions checks cache posture subject bucket resolution agentUrl) := by
  rw [runVerifier, verifierOptions]
  simp only [decide_eq_true_eq]

/-- Two checklists that read a message alike and answer some calls alike. -/
structure Checklist.AgreesOn
    (checks checks' : Checklist)
    (config : VerifierSettings)
    (exchange : HttpExchange)
    (headers : Headers)
    (calls : List OutsideCall) : Prop where
  now : checks'.now = checks.now
  parses : checks'.parseSignatureInputHeader = checks.parseSignatureInputHeader
  prechecks : checks'.strictHeaderPrecheck = checks.strictHeaderPrecheck
  targets : checks'.rejectMalformedTarget = checks.rejectMalformedTarget
  walks : ∀ url, OutsideCall.resolveAgent url ∈ calls →
    checks'.resolveAgent config.counterpartyAgentType url
      = checks.resolveAgent config.counterpartyAgentType url
  verifies : ∀ options, OutsideCall.verifyRequestSignature options ∈ calls →
    checks'.verifyRequestSignature exchange headers options
      = checks.verifyRequestSignature exchange headers options

theorem resolutionFor_of_calls
    {keyid : Option String}
    (hnow : checks'.now = checks.now)
    (hwalks : ∀ url, OutsideCall.resolveAgent url ∈ resolutionCalls config checks cache agentUrl →
      checks'.resolveAgent config.counterpartyAgentType url
        = checks.resolveAgent config.counterpartyAgentType url) :
    resolutionFor config checks' cache agentUrl keyid
      = resolutionFor config checks cache agentUrl keyid := by
  rw [resolutionFor, resolutionFor]
  cases hurl : agentUrl.filter (· ≠ "") with
  | none =>
      change (cache, registryResolution config checks' keyid)
        = (cache, registryResolution config checks keyid)
      rw [registryResolution, registryResolution]
      congr 2
      funext entry
      rw [buildRegistryResolution, buildRegistryResolution, hnow]
  | some url =>
      change walkedResolution config checks' cache url = walkedResolution config checks cache url
      have hfresh : cache.fresh config checks' url = cache.fresh config checks url := by
        rw [KeyCache.fresh, KeyCache.fresh, hnow]
      have hcooling : cache.coolingDown config checks' url
          = cache.coolingDown config checks url := by
        rw [KeyCache.coolingDown, KeyCache.coolingDown, hnow]
      have hfailed : ∀ code, cache.failed checks' url code = cache.failed checks url code := by
        intro code
        rw [KeyCache.failed, KeyCache.failed, hnow]
      rw [walkedResolution, walkedResolution, hfresh, hcooling]
      by_cases hcached :
          (cache.fresh config checks url || cache.coolingDown config checks url) = true
      · rw [if_pos hcached, if_pos hcached]
      · rw [if_neg hcached, if_neg hcached]
        have hcall : OutsideCall.resolveAgent url
            ∈ resolutionCalls config checks cache agentUrl := by
          rw [resolutionCalls, hurl]
          change _ ∈ (if _ then _ else _)
          rw [if_neg hcached]
          exact List.mem_singleton.mpr rfl
        rw [hwalks url hcall]
        cases checks.resolveAgent config.counterpartyAgentType url with
        | error exc =>
            change (cache.failed checks' url _, _) = (cache.failed checks url _, _)
            rw [hfailed]
        | ok resolution =>
            change (if _ then _ else (cache.failed checks' url _, _))
              = (if _ then _ else (cache.failed checks url _, _))
            rw [hfailed]

theorem verifierOptions_congr
    {resolution : Option AgentResolution}
    (hnow : checks'.now = checks.now) :
    verifierOptions checks' cache posture subject bucket resolution agentUrl
      = verifierOptions checks cache posture subject bucket resolution agentUrl := by
  rw [verifierOptions, verifierOptions, hnow]

theorem checkSigned_of_calls
    (h : checks.AgreesOn checks' config exchange headers
      (checkSignedCalls config checks cache posture subject exchange bucket headers agentUrl)) :
    checkSigned config checks' cache posture subject exchange bucket headers agentUrl
      = checkSigned config checks cache posture subject exchange bucket headers agentUrl := by
  have hwalks := h.walks
  have hverifies := h.verifies
  rw [checkSignedCalls] at hwalks hverifies
  rw [checkSigned, checkSigned, h.prechecks, h.targets]
  cases hpre : checks.strictHeaderPrecheck exchange.rawHeaders with
  | error exc => rfl
  | ok _ =>
      rw [hpre] at hwalks hverifies
      dsimp only at hwalks hverifies ⊢
      by_cases hnone : bucket = .none
      · rw [if_pos hnone] at hverifies
        rw [if_pos hnone, if_pos hnone, runVerifier_eq, runVerifier_eq,
          verifierOptions_congr h.now, hverifies _ (List.mem_singleton.mpr rfl)]
      · rw [if_neg hnone] at hwalks hverifies
        rw [if_neg hnone, if_neg hnone]
        cases htarget : checks.rejectMalformedTarget exchange.url with
        | error exc => rfl
        | ok _ =>
            rw [htarget] at hwalks hverifies
            dsimp only at hwalks hverifies ⊢
            have hkeyid : parseKeyid checks' headers = parseKeyid checks headers := by
              rw [parseKeyid, parseKeyid, h.parses]
            have hfound := @resolutionFor_of_calls config checks checks' cache agentUrl
              (parseKeyid checks headers) h.now
              (fun url hurl => hwalks url (List.mem_append_left _ hurl))
            rw [hkeyid, hfound, runVerifier_eq, runVerifier_eq, verifierOptions_congr h.now,
              hverifies _ (List.mem_append_right _ (List.mem_singleton.mpr rfl))]

variable {tenant : TenantContext} {principal : Option Principal}

/-- The verdict, and what is remembered of the counterparties, depend on no answer of the discovery
or of the checklist but those to the calls that were made. -/
theorem verifyInboundSignature_of_calls
    (h : ∀ exchange, subject.exchange = some exchange →
      checks.AgreesOn checks' config exchange headers
        (verifyInboundCalls config checks cache subject headers tenant principal)) :
    verifyInboundSignature config checks' cache subject headers tenant principal
      = verifyInboundSignature config checks cache subject headers tenant principal := by
  rw [verifyInboundSignature, verifyInboundSignature]
  cases henabled : config.verifierEnabled with
  | false => rfl
  | true =>
      cases hexchange : subject.exchange.filter HttpExchange.presentsSignature with
      | none => rfl
      | some exchange =>
          obtain ⟨hsubject, -⟩ := Option.filter_eq_some_iff.mp hexchange
          have hagrees := h exchange hsubject
          rw [verifyInboundCalls, henabled, hexchange] at hagrees
          change verifySigned _ _ _ _ _ _ _ _ _ = verifySigned _ _ _ _ _ _ _ _ _
          change checks.AgreesOn checks' config exchange headers
            (verifySignedCalls _ _ _ _ _ _ _ _ _) at hagrees
          rw [verifySignedCalls] at hagrees
          rw [verifySigned, verifySigned]
          cases hsupported :
              (postureForTenant true tenant.capabilityDeclarations).supported with
          | false => rfl
          | true =>
              cases hcap : exchange.overCap with
              | true => rfl
              | false =>
                  cases hcomplete : exchange.complete with
                  | false => rfl
                  | true =>
                      rw [hsupported, hcap, hcomplete] at hagrees
                      dsimp only
                      rw [checkSigned_of_calls hagrees]

end Dependence

section Decision

variable (config : VerifierSettings) (checks : Checklist) (cache : KeyCache)
variable (subject : SignatureSubject) (headers : Headers) (tenant : TenantContext)
variable (principal : Option Principal)

/-- The posture that is enforced on a request. -/
def enforcedPosture : RequestSigningPosture :=
  postureForTenant config.verifierEnabled tenant.capabilityDeclarations

/-- The bucket of a request. -/
def enforcedBucket : PostureBucket :=
  bucketFor (enforcedPosture config tenant) subject

/-- The verdict on a request. -/
def verdict : Except SignatureVerificationError (Option VerifiedSigner) :=
  (verifyInboundSignature config checks cache subject headers tenant principal).2

/-- The message of a request, where it presents a signature. -/
def signedExchange : Option HttpExchange :=
  subject.exchange.filter HttpExchange.presentsSignature

/-- A request whose payload hands over credentials, where request signing is supported. -/
def Escalated : Prop :=
  subject.registersCredentials = true ∧ (enforcedPosture config tenant).supported = true

/-- The client went away before the last part of a body within the cap. -/
def Interrupted
    (exchange : HttpExchange) : Prop :=
  exchange.overCap = false ∧ exchange.complete = false

/-- A checklist with its stores accepted the message. -/
def VerifiedBy
    (exchange : HttpExchange)
    (signer : VerifiedSigner) : Prop :=
  ∃ options,
    OutsideCall.verifyRequestSignature options
        ∈ verifyInboundCalls config checks cache subject headers tenant principal
      ∧ options.hasStores = true
      ∧ checks.verifyRequestSignature exchange headers options = .ok signer

/-- A message that step 1 refuses for its headers. -/
def HeaderMalformed
    (exchange : HttpExchange)
    (exc : SignatureVerificationError) : Prop :=
  exc.code = requestSignatureHeaderMalformed ∧ exc.step = some 1
    ∧ (checks.strictHeaderPrecheck exchange.rawHeaders = .error exc
      ∨ ∃ options, checks.verifyRequestSignature exchange headers options = .error exc)

/-- What the verifier decides on a request. -/
structure PostureDecision : Prop where
  /-- A posture that does not support request signing refuses nothing. -/
  unsupported : (enforcedPosture config tenant).supported = false →
    ∃ outcome, verdict config checks cache subject headers tenant principal = .ok outcome
  /-- When an unsigned request is refused. -/
  unsigned : signedExchange subject = none →
    ((∃ exc, verdict config checks cache subject headers tenant principal = .error exc)
      ↔ enforcedBucket config subject tenant = .required
        ∧ (principal = none ∨ Escalated config subject tenant))
  /-- In the bucket `none`, what a signed request is refused for. -/
  refused : ∀ exchange, signedExchange subject = some exchange →
    enforcedBucket config subject tenant = .none →
    ∀ exc, verdict config checks cache subject headers tenant principal = .error exc →
      exchange.overCap = true ∨ HeaderMalformed checks headers exchange exc
  /-- In the bucket `none`, there is no walk, and the checklist has no keys and no stores. -/
  offline : enforcedBucket config subject tenant = .none →
    ∀ call ∈ verifyInboundCalls config checks cache subject headers tenant principal,
      ∃ options, call = .verifyRequestSignature options
        ∧ options.hasStores = false ∧ options.jwksResolver = .static []
  /-- In any other bucket, what an accepted signed request is. -/
  accepted : ∀ exchange, signedExchange subject = some exchange →
    enforcedBucket config subject tenant ≠ .none →
    ∀ outcome, verdict config checks cache subject headers tenant principal = .ok outcome →
      Interrupted exchange ∨ ∃ signer, outcome = some signer
        ∧ VerifiedBy config checks cache subject headers tenant principal exchange signer
  /-- A refused unsigned request to which signature headers are attached. -/
  attached : signedExchange subject = none →
    (∃ exc, verdict config checks cache subject headers tenant principal = .error exc) →
    ∀ exchange checks' cache' headers', exchange.presentsSignature = true →
    ∀ outcome,
      verdict config checks' cache' { subject with exchange := some exchange } headers' tenant
        principal = .ok outcome →
      Interrupted exchange ∨ ∃ signer, outcome = some signer
        ∧ VerifiedBy config checks' cache' { subject with exchange := some exchange } headers'
          tenant principal exchange signer

end Decision

section Laws

variable {config : VerifierSettings} {checks : Checklist} {cache : KeyCache}
variable {subject : SignatureSubject} {headers : Headers} {tenant : TenantContext}
variable {principal : Option Principal} {exchange : HttpExchange}

theorem enabled_of_bucket
    (hbucket : enforcedBucket config subject tenant ≠ .none) :
    config.verifierEnabled = true
      ∧ (postureForTenant true tenant.capabilityDeclarations).supported = true := by
  have hsupported : (enforcedPosture config tenant).supported = true := by
    by_contra hno
    rw [Bool.not_eq_true] at hno
    refine hbucket ?_
    rw [enforcedBucket, bucketFor, hno, Bool.and_false, RequestSigningPosture.bucketFor, hno]
    rfl
  have henabled := enabled_of_supported hsupported
  rw [enforcedPosture, henabled] at hsupported
  exact ⟨henabled, hsupported⟩

theorem verdict_signed
    (henabled : config.verifierEnabled = true)
    (hexchange : signedExchange subject = some exchange) :
    verdict config checks cache subject headers tenant principal
      = (verifySigned config checks cache (enforcedPosture config tenant) subject exchange
        (enforcedBucket config subject tenant) headers (principal.bind Principal.agentUrl)).2 := by
  rw [signedExchange] at hexchange
  rw [verdict, verifyInboundSignature, henabled, enforcedBucket, enforcedPosture, henabled,
    hexchange]
  rfl

theorem calls_signed
    (henabled : config.verifierEnabled = true)
    (hexchange : signedExchange subject = some exchange) :
    verifyInboundCalls config checks cache subject headers tenant principal
      = verifySignedCalls config checks cache (enforcedPosture config tenant) subject exchange
        (enforcedBucket config subject tenant) headers (principal.bind Principal.agentUrl) := by
  rw [signedExchange] at hexchange
  rw [verifyInboundCalls, henabled, enforcedBucket, enforcedPosture, henabled, hexchange]
  rfl

theorem verdict_unsigned
    (henabled : config.verifierEnabled = true)
    (hexchange : signedExchange subject = none) :
    verdict config checks cache subject headers tenant principal
      = (refuseUnsignedIfRequired (enforcedPosture config tenant) subject
        (enforcedBucket config subject tenant) principal.isSome).map fun _ => none := by
  rw [signedExchange] at hexchange
  rw [verdict, verifyInboundSignature, henabled, enforcedBucket, enforcedPosture, henabled,
    hexchange]
  rfl

theorem verdict_disabled
    (hdisabled : config.verifierEnabled = false) :
    verdict config checks cache subject headers tenant principal = .ok none := by
  rw [verdict, verifyInboundSignature, hdisabled]
  rfl

theorem headerMalformed_of_graded
    {posture : RequestSigningPosture} {agentUrl : Option String}
    {exc : SignatureVerificationError}
    (h : graded (checkSigned config checks cache posture subject exchange .none headers
      agentUrl).2 .none = .error exc) :
    HeaderMalformed checks headers exchange exc := by
  have hmalformed : ∀ refusal, handleRejection refusal .none = .error exc →
      refusal = exc ∧ exc.code = requestSignatureHeaderMalformed ∧ exc.step = some 1 := by
    intro refusal hrefusal
    rw [handleRejection] at hrefusal
    by_cases hpair : (decide (refusal.code = requestSignatureHeaderMalformed)
        && decide (refusal.step = some 1)) = true
    · rw [if_pos hpair] at hrefusal
      cases hrefusal
      rw [Bool.and_eq_true, decide_eq_true_eq, decide_eq_true_eq] at hpair
      exact ⟨rfl, hpair⟩
    · rw [if_neg hpair, if_pos rfl] at hrefusal
      cases hrefusal
  rw [checkSigned] at h
  cases hpre : checks.strictHeaderPrecheck exchange.rawHeaders with
  | error refusal =>
      rw [hpre] at h
      obtain ⟨rfl, hcode, hstep⟩ := hmalformed refusal h
      exact ⟨hcode, hstep, .inl hpre⟩
  | ok _ =>
      rw [hpre] at h
      dsimp only at h
      rw [if_pos rfl, runVerifier_eq] at h
      cases hverdict : checks.verifyRequestSignature exchange headers
          (verifierOptions checks cache posture subject .none none agentUrl) with
      | error refusal =>
          rw [hverdict] at h
          obtain ⟨rfl, hcode, hstep⟩ := hmalformed refusal h
          exact ⟨hcode, hstep, .inr ⟨_, hverdict⟩⟩
      | ok signer =>
          rw [hverdict] at h
          cases h

theorem verdict_of_graded
    {bucket : PostureBucket} {outcome : Option VerifiedSigner}
    {result : Except SignatureVerificationError VerifiedSigner}
    (hbucket : bucket ≠ .none)
    (h : graded result bucket = .ok outcome) :
    ∃ signer, result = .ok signer ∧ outcome = some signer := by
  cases result with
  | ok signer =>
      cases h
      exact ⟨signer, rfl, rfl⟩
  | error exc =>
      rw [graded, handleRejection] at h
      split_ifs at h

theorem checklist_of_checkSigned
    {posture : RequestSigningPosture} {bucket : PostureBucket} {agentUrl : Option String}
    {signer : VerifiedSigner}
    (hbucket : bucket ≠ .none)
    (h : (checkSigned config checks cache posture subject exchange bucket headers agentUrl).2
      = .ok signer) :
    ∃ options,
      OutsideCall.verifyRequestSignature options
          ∈ checkSignedCalls config checks cache posture subject exchange bucket headers agentUrl
        ∧ options.hasStores = true
        ∧ checks.verifyRequestSignature exchange headers options = .ok signer := by
  rw [checkSigned] at h
  rw [checkSignedCalls]
  cases hpre : checks.strictHeaderPrecheck exchange.rawHeaders with
  | error exc =>
      rw [hpre] at h
      cases h
  | ok _ =>
      rw [hpre] at h
      dsimp only at h ⊢
      rw [if_neg hbucket] at h ⊢
      cases htarget : checks.rejectMalformedTarget exchange.url with
      | error exc =>
          rw [htarget] at h
          cases h
      | ok _ =>
          rw [htarget] at h
          dsimp only at h ⊢
          rw [runVerifier_eq] at h
          refine ⟨_, List.mem_append_right _ (List.mem_singleton.mpr rfl), ?_, h⟩
          rw [verifierOptions, decide_eq_false hbucket]
          rfl

theorem calls_of_checkSigned_none
    {posture : RequestSigningPosture} {agentUrl : Option String}
    {call : OutsideCall}
    (h : call ∈ checkSignedCalls config checks cache posture subject exchange .none headers
      agentUrl) :
    ∃ options, call = .verifyRequestSignature options
      ∧ options.hasStores = false ∧ options.jwksResolver = .static [] := by
  rw [checkSignedCalls] at h
  cases hpre : checks.strictHeaderPrecheck exchange.rawHeaders with
  | error exc =>
      rw [hpre] at h
      exact absurd h List.not_mem_nil
  | ok _ =>
      rw [hpre] at h
      dsimp only at h
      rw [if_pos rfl] at h
      exact ⟨_, List.mem_singleton.mp h, rfl, rfl⟩

/-- An accepted signed request outside the bucket `none`. -/
theorem accepted_signed
    (hexchange : signedExchange subject = some exchange)
    (hbucket : enforcedBucket config subject tenant ≠ .none)
    {outcome : Option VerifiedSigner}
    (h : verdict config checks cache subject headers tenant principal = .ok outcome) :
    Interrupted exchange ∨ ∃ signer, outcome = some signer
      ∧ VerifiedBy config checks cache subject headers tenant principal exchange signer := by
  obtain ⟨henabled, hsupported⟩ := enabled_of_bucket hbucket
  rw [verdict_signed henabled hexchange, verifySigned, enforcedPosture, henabled, hsupported] at h
  cases hcap : exchange.overCap with
  | true =>
      rw [hcap] at h
      cases h
  | false =>
      cases hcomplete : exchange.complete with
      | false => exact .inl ⟨hcap, hcomplete⟩
      | true =>
          rw [hcap, hcomplete] at h
          obtain ⟨signer, hchecked, houtcome⟩ := verdict_of_graded hbucket h
          obtain ⟨options, hcall, hstores, haccepts⟩ := checklist_of_checkSigned hbucket hchecked
          refine .inr ⟨signer, houtcome, options, ?_, hstores, haccepts⟩
          rw [calls_signed henabled hexchange, verifySignedCalls, enforcedPosture, henabled,
            hsupported, hcap, hcomplete]
          exact hcall

theorem unsupported_of_disabled
    (hdisabled : config.verifierEnabled = false) :
    (enforcedPosture config tenant).supported = false := by
  cases hsupported : (enforcedPosture config tenant).supported with
  | false => rfl
  | true =>
      rw [enabled_of_supported hsupported] at hdisabled
      cases hdisabled

theorem bucket_of_unsupported
    (hunsupported : (enforcedPosture config tenant).supported = false) :
    enforcedBucket config subject tenant = .none := by
  rw [enforcedBucket, bucketFor, hunsupported, Bool.and_false, RequestSigningPosture.bucketFor,
    hunsupported]
  rfl

theorem refused_unsigned_iff
    (hexchange : signedExchange subject = none) :
    (∃ exc, verdict config checks cache subject headers tenant principal = .error exc)
      ↔ enforcedBucket config subject tenant = .required
        ∧ (principal = none ∨ Escalated config subject tenant) := by
  cases henabled : config.verifierEnabled with
  | false =>
      have hbucket := @bucket_of_unsupported config subject tenant
        (unsupported_of_disabled henabled)
      rw [verdict_disabled henabled, hbucket]
      constructor
      · rintro ⟨exc, hexc⟩
        cases hexc
      · rintro ⟨hrequired, -⟩
        cases hrequired
  | true =>
      have hescalated : Escalated config subject tenant
          ↔ (subject.registersCredentials && (enforcedPosture config tenant).supported) = true := by
        rw [Escalated, Bool.and_eq_true]
      have hprincipal : principal = none ↔ principal.isSome = false := by
        rw [← Option.not_isSome_iff_eq_none, Bool.not_eq_true]
      rw [verdict_unsigned henabled hexchange, refuseUnsignedIfRequired, hescalated, hprincipal]
      cases hbucket : decide (enforcedBucket config subject tenant = .required) with
      | false =>
          rw [decide_eq_false_iff_not] at hbucket
          rw [if_pos (by simp [hbucket])]
          constructor
          · rintro ⟨exc, hexc⟩
            cases hexc
          · rintro ⟨hrequired, -⟩
            exact absurd hrequired hbucket
      | true =>
          rw [decide_eq_true_eq] at hbucket
          rw [hbucket, and_iff_right rfl]
          cases principal.isSome with
          | false => exact ⟨fun _ => .inl rfl, fun _ => ⟨_, rfl⟩⟩
          | true =>
              cases subject.registersCredentials
                  && (enforcedPosture config tenant).supported with
              | true => exact ⟨fun _ => .inr rfl, fun _ => ⟨_, rfl⟩⟩
              | false =>
                  constructor
                  · rintro ⟨exc, hexc⟩
                    cases hexc
                  · rintro (hno | hno) <;> cases hno

/-- The decision on every posture, operation, escalation, header list, capture and caller. -/
theorem posture_decision
    (config : VerifierSettings)
    (checks : Checklist)
    (cache : KeyCache)
    (subject : SignatureSubject)
    (headers : Headers)
    (tenant : TenantContext)
    (principal : Option Principal) :
    PostureDecision config checks cache subject headers tenant principal where
  unsupported := by
    intro hunsupported
    have hbucket := @bucket_of_unsupported config subject tenant hunsupported
    cases henabled : config.verifierEnabled with
    | false => exact ⟨none, verdict_disabled henabled⟩
    | true =>
        cases hexchange : signedExchange subject with
        | none =>
            refine ⟨none, ?_⟩
            rw [verdict_unsigned henabled hexchange, hbucket]
            rfl
        | some exchange =>
            refine ⟨none, ?_⟩
            rw [verdict_signed henabled hexchange, verifySigned, hunsupported]
  unsigned := refused_unsigned_iff
  refused := by
    intro exchange hexchange hbucket exc hexc
    cases henabled : config.verifierEnabled with
    | false =>
        rw [verdict_disabled henabled] at hexc
        cases hexc
    | true =>
        rw [verdict_signed henabled hexchange, verifySigned, hbucket] at hexc
        cases hsupported : (enforcedPosture config tenant).supported with
        | false =>
            rw [hsupported] at hexc
            cases hexc
        | true =>
            cases hcap : exchange.overCap with
            | true => exact .inl rfl
            | false =>
                cases hcomplete : exchange.complete with
                | false =>
                    rw [hsupported, hcap, hcomplete] at hexc
                    cases hexc
                | true =>
                    rw [hsupported, hcap, hcomplete] at hexc
                    exact .inr (headerMalformed_of_graded hexc)
  offline := by
    intro hbucket call hcall
    cases henabled : config.verifierEnabled with
    | false =>
        rw [verifyInboundCalls, henabled] at hcall
        exact absurd hcall List.not_mem_nil
    | true =>
        cases hexchange : signedExchange subject with
        | none =>
            rw [signedExchange] at hexchange
            rw [verifyInboundCalls, henabled, hexchange] at hcall
            exact absurd hcall List.not_mem_nil
        | some exchange =>
            rw [calls_signed henabled hexchange, verifySignedCalls, hbucket] at hcall
            by_cases hread : ((enforcedPosture config tenant).supported && ! exchange.overCap
                && exchange.complete) = true
            · rw [if_pos hread] at hcall
              exact calls_of_checkSigned_none hcall
            · rw [if_neg hread] at hcall
              exact absurd hcall List.not_mem_nil
  accepted := fun exchange hexchange hbucket outcome h => accepted_signed hexchange hbucket h
  attached := by
    intro hexchange hrefused exchange checks' cache' headers' hpresents outcome houtcome
    obtain ⟨hrequired, -⟩ := (refused_unsigned_iff hexchange).mp hrefused
    have hsigned : signedExchange { subject with exchange := some exchange } = some exchange := by
      rw [signedExchange, Option.filter_some, if_pos hpresents]
    refine accepted_signed hsigned ?_ houtcome
    change enforcedBucket config subject tenant ≠ .none
    rw [hrequired]
    intro hnone
    cases hnone

end Laws

section Interruption

/-- An enabled verifier without a registry. -/
def signingSettings : VerifierSettings where
  maxSignedBodyBytes := 1024
  agentResolutionTtl := 3600
  agentResolutionRefetchCooldown := 60
  counterpartyAgentType := "buying"
  counterpartyRegistry := []

/-- A tenant that requires signatures on every `create_media_buy`. -/
def requiringTenant : TenantContext where
  tenantId := "nova"
  brandManifestPolicy := "public"
  capabilityDeclarations :=
    .readable (some { supported := true, requiredFor := some ["create_media_buy"] })

/-- A checklist that accepts nothing. -/
def refusingChecks : Checklist where
  now := 0
  parseSignatureInputHeader := fun _ => none
  resolveAgent := fun _ _ => .error { code := "capabilities_unreachable" }
  strictHeaderPrecheck := fun _ => .ok ()
  rejectMalformedTarget := fun _ => .ok ()
  verifyRequestSignature := fun _ _ _ => .error ⟨"request_signature_invalid", some 10⟩

/-- A message with a signature header whose client went away before the end of its body. -/
def cutOffExchange : HttpExchange where
  method := "POST"
  url := "https://sales.example/mcp"
  rawHeaders := [([115, 105, 103, 110, 97, 116, 117, 114, 101], [120])]
  body := []
  complete := false

/-- Counterexample: an unsigned request is refused, and with a signature header on a message that
was cut off it is accepted without a signer. -/
theorem cut_off_signature_accepted :
    enforcedBucket signingSettings ⟨"create_media_buy", false, none⟩ requiringTenant = .required
      ∧ verdict signingSettings refusingChecks .empty ⟨"create_media_buy", false, none⟩ []
          requiringTenant none = .error ⟨requestSignatureRequired, some 0⟩
      ∧ verdict signingSettings refusingChecks .empty
          ⟨"create_media_buy", false, some cutOffExchange⟩ [] requiringTenant none = .ok none := by
  decide +kernel

end Interruption

end Signing
end SalesAgent
