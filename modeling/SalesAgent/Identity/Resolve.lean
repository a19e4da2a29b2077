import SalesAgent.Signing.Verifier

/-!
# Resolution of the caller's identity

The one reader of credentials.  A request presents a bearer, a signature, both or neither;
the resolver finds the tenant that the request addresses, the principal that a credential
names in it, and the account that the request names for this principal.  A bearer that
resolves decides who the caller is; a signature names the caller only where no bearer was
presented.

**Results.**
* `admitCaller_cases`: what an identity is built from.
* `resolveIdentity_safe`: the tenant, principal and account of an identity.
* `identity_safe`: this for every request, and that a bearer which does not resolve is
  refused.
-/

namespace SalesAgent
namespace Identity

open Accounts (Account AccountRef)
open Signing (Checklist Headers HttpExchange Jwk KeyCache RegisteredSigner SignatureSubject
  SignatureVerificationError VerifiedSigner VerifierSettings getHeaderCaseInsensitive strip
  verifyInboundSignature)

/-- A refusal of the resolver. -/
inductive Refusal
  | tenantUndefined
  | authMissing
  | authInvalid
  | requestSignature (exc : SignatureVerificationError)
  | account (refusal : AccountRefusal)
  deriving DecidableEq, Repr

/-- `PublicIdentity`, `ResolvedIdentity` and `AccountIdentity`. -/
inductive CallerIdentity
  | publicIdentity (principal : Option Principal) (tenant : TenantContext)
  | resolvedIdentity (principal : Principal) (tenant : TenantContext)
  | accountIdentity (principal : Principal) (tenant : TenantContext) (account : Account)
  deriving DecidableEq

/-- The principal, for an anonymous caller none. -/
def CallerIdentity.principal : CallerIdentity → Option Principal
  | .publicIdentity principal _ => principal
  | .resolvedIdentity principal _ => some principal
  | .accountIdentity principal _ _ => some principal

/-- The tenant. -/
def CallerIdentity.tenant : CallerIdentity → TenantContext
  | .publicIdentity _ tenant => tenant
  | .resolvedIdentity _ tenant => tenant
  | .accountIdentity _ tenant _ => tenant

/-- The account, where the request named one. -/
def CallerIdentity.account : CallerIdentity → Option Account
  | .publicIdentity _ _ => none
  | .resolvedIdentity _ _ => none
  | .accountIdentity _ _ account => some account

/-- A row of the tool registry, in what its credential policy reads. -/
structure ToolSpec where
  name : String
  takesResolvedIdentity : Bool
  acceptsBrand : Bool
  deriving DecidableEq, Repr

/-- `requires_credential` -/
def ToolSpec.requiresCredential
    (spec : ToolSpec)
    (tenant : Option TenantContext) : Bool :=
  spec.takesResolvedIdentity ||
    tenant.any fun t => spec.acceptsBrand && t.brandManifestPolicy = "require_auth"

/-- `_extract_auth_token` -/
def extractAuthToken
    (headers : Headers) : Option String :=
  match getHeaderCaseInsensitive headers "Authorization" with
  | none => none
  | some authorization =>
      if "bearer ".toList.isPrefixOf authorization.toLower.toList then
        nonempty (some (strip (String.ofList (authorization.toList.drop 7))))
      else
        none

/-- `_carries_signature` -/
def carriesSignature
    (exchange : Option HttpExchange) : Bool :=
  exchange.any HttpExchange.presentsSignature

/-- The captured lines, where the request was captured. -/
def authoritativeHeaders
    (headers : Headers)
    (exchange : Option HttpExchange) : Headers :=
  match exchange with
  | some captured => captured.headers
  | none => headers

section Resolver

variable (config : VerifierSettings) (hashToken : String → String)
variable (dir : Directory) (checks : Checklist) (cache : KeyCache)

/-- The principal that a verified signature establishes. -/
def establishedPrincipal
    (tenant : TenantContext)
    (signer : Option VerifiedSigner) : Option Principal :=
  (nonempty (signer.bind VerifiedSigner.agentUrl)).bind fun agentUrl =>
    dir.getPrincipalByAgentUrl agentUrl tenant.tenantId

/-- `_signature_credential` -/
def signatureCredential
    (subject : Option SignatureSubject)
    (headers : Headers)
    (tenant : TenantContext)
    (principal : Option Principal) :
    KeyCache × Except SignatureVerificationError (Option Principal) :=
  match subject with
  | none => (cache, .ok principal)
  | some subject =>
      let read := verifyInboundSignature config checks cache subject headers tenant principal
      (read.1, read.2.map fun signer => principal.or (establishedPrincipal dir tenant signer))

/-- The part of `_resolve_identity` after both credentials were read. -/
def admitCaller
    (tenant : TenantContext)
    (requireValidToken presentedBearer bearerRejected presentedSignature : Bool)
    (principal : Option Principal)
    (accountRef : Option AccountRef) : Except Refusal CallerIdentity :=
  if bearerRejected then
    .error .authInvalid
  else if requireValidToken && ! presentedBearer && ! presentedSignature then
    .error .authMissing
  else if ! requireValidToken then
    .ok (.publicIdentity principal tenant)
  else
    match principal with
    | none => .error .authInvalid
    | some p =>
        match accountRef with
        | none => .ok (.resolvedIdentity p tenant)
        | some ref =>
            match findAccount dir.accounts tenant.tenantId p.principalId ref with
            | .error refusal => .error (.account refusal)
            | .ok account => .ok (.accountIdentity p tenant account)

/-- The principal the bearer resolves to in a tenant. -/
def bearerPrincipal
    (tenant : TenantContext)
    (headers : Headers) : Option Principal :=
  (extractAuthToken headers).bind fun token =>
    dir.getPrincipalFromToken hashToken token tenant.tenantId

/-- `_resolve_identity` -/
def resolveIdentity
    (headers : Headers)
    (requireValidToken : Bool)
    (accountRef : Option AccountRef)
    (credentialRequiredFor : Option (TenantContext → Bool))
    (signatureSubject : Option SignatureSubject) : KeyCache × Except Refusal CallerIdentity :=
  let exchange := signatureSubject.bind SignatureSubject.exchange
  let headers := authoritativeHeaders headers exchange
  let authToken := extractAuthToken headers
  match addressedTenant dir headers with
  | none => (cache, .error .tenantUndefined)
  | some tenant =>
      let requireValidToken :=
        requireValidToken || credentialRequiredFor.any fun policy => policy tenant
      let principal := bearerPrincipal hashToken dir tenant headers
      let bearerRejected := authToken.isSome && principal.isNone
      let read := signatureCredential config dir checks cache signatureSubject headers tenant principal
      match read.2 with
      | .error exc => (read.1, .error (.requestSignature exc))
      | .ok principal =>
          (read.1, admitCaller dir tenant requireValidToken authToken.isSome bearerRejected
            (carriesSignature exchange) principal accountRef)

end Resolver

section Admission

variable {dir : Directory} {tenant : TenantContext}
variable {requireValidToken presentedBearer bearerRejected presentedSignature : Bool}
variable {principal : Option Principal} {accountRef : Option AccountRef}
variable {identity : CallerIdentity}

/-- What an identity is built from. -/
structure Admitted
    (dir : Directory)
    (tenant : TenantContext)
    (requireValidToken bearerRejected : Bool)
    (principal : Option Principal)
    (identity : CallerIdentity) : Prop where
  accepted : bearerRejected = false
  tenant_eq : identity.tenant = tenant
  principal_eq : identity.principal = principal
  required : requireValidToken = true → identity.principal.isSome = true
  account : ∀ account, identity.account = some account →
    ∃ p, identity.principal = some p ∧
      Accessible dir.accounts tenant.tenantId p.principalId account

/-- An identity is built of the tenant and the principal that were resolved. -/
theorem admitCaller_cases
    (h : admitCaller dir tenant requireValidToken presentedBearer bearerRejected presentedSignature
      principal accountRef = .ok identity) :
    Admitted dir tenant requireValidToken bearerRejected principal identity := by
  unfold admitCaller at h
  cases bearerRejected with
  | true => cases h
  | false =>
      cases hmissing : requireValidToken && ! presentedBearer && ! presentedSignature with
      | true =>
          simp [hmissing] at h
      | false =>
          cases requireValidToken with
          | false =>
              simp only [hmissing] at h
              cases h
              exact ⟨rfl, rfl, rfl, fun hno => absurd hno (by decide), fun _ hno => by cases hno⟩
          | true =>
              simp only [hmissing] at h
              cases principal with
              | none => cases h
              | some p =>
                  cases accountRef with
                  | none =>
                      cases h
                      exact ⟨rfl, rfl, rfl, fun _ => rfl, fun _ hno => by cases hno⟩
                  | some ref =>
                      cases hfind : findAccount dir.accounts tenant.tenantId p.principalId ref with
                      | error refusal =>
                          simp [hfind] at h
                      | ok account =>
                          simp only [hfind] at h
                          cases h
                          refine ⟨rfl, rfl, rfl, fun _ => rfl, fun found hfound => ?_⟩
                          cases hfound
                          exact ⟨p, rfl, accessible_of_findAccount hfind⟩

end Admission

section Safety

variable {config : VerifierSettings} {hashToken : String → String}
variable {dir : Directory} {checks : Checklist} {cache : KeyCache}
variable {headers : Headers} {requireValidToken : Bool} {accountRef : Option AccountRef}
variable {credentialRequiredFor : Option (TenantContext → Bool)}
variable {signatureSubject : Option SignatureSubject}

variable {signs : Jwk → HttpExchange → Headers → Prop}

/-- The agent whose registered key signed the captured message. -/
def SignedBy
    (config : VerifierSettings)
    (checks : Checklist)
    (signs : Jwk → HttpExchange → Headers → Prop)
    (signatureSubject : Option SignatureSubject)
    (agentUrl : String) : Prop :=
  ∃ exchange, signatureSubject.bind SignatureSubject.exchange = some exchange ∧
    exchange.presentsSignature = true ∧
    RegisteredSigner config checks signs exchange exchange.headers agentUrl

/-- The credential that names a principal: the bearer or, where none was presented, a
verified signature. -/
def CredentialNames
    (config : VerifierSettings)
    (hashToken : String → String)
    (dir : Directory)
    (checks : Checklist)
    (signs : Jwk → HttpExchange → Headers → Prop)
    (headers : Headers)
    (signatureSubject : Option SignatureSubject)
    (tenantId : String)
    (p : Principal) : Prop :=
  (∃ token, extractAuthToken headers = some token ∧
      dir.HoldsToken tenantId (hashToken token) p) ∨
    extractAuthToken headers = none ∧
      ∃ agentUrl, SignedBy config checks signs signatureSubject agentUrl ∧
        dir.OnboardedAt tenantId agentUrl p

/-- What holds of an identity that a request resolved to. -/
structure SafelyResolved
    (config : VerifierSettings)
    (hashToken : String → String)
    (dir : Directory)
    (checks : Checklist)
    (signs : Jwk → HttpExchange → Headers → Prop)
    (headers : Headers)
    (requireValidToken : Bool)
    (credentialRequiredFor : Option (TenantContext → Bool))
    (signatureSubject : Option SignatureSubject)
    (identity : CallerIdentity) : Prop where
  tenant : ∃ t, dir.Named headers t ∧ identity.tenant = t.context
  principal : ∀ p, identity.principal = some p →
    CredentialNames config hashToken dir checks signs headers signatureSubject
      identity.tenant.tenantId p
  account : ∀ account, identity.account = some account →
    ∃ p, identity.principal = some p ∧
      Accessible dir.accounts identity.tenant.tenantId p.principalId account
  required : (requireValidToken = true ∨
      ∃ policy, credentialRequiredFor = some policy ∧ policy identity.tenant = true) →
    identity.principal ≠ none
  bearer : ∀ token, extractAuthToken headers = some token →
    ∃ p, dir.HoldsToken identity.tenant.tenantId (hashToken token) p ∧
      identity.principal = some p

theorem signatureCredential_cases
    {tenant : TenantContext}
    {bearer outcome : Option Principal}
    (hkeyed : checks.Keyed signs)
    (hnames : checks.NamesAgent)
    (h : (signatureCredential config dir checks cache signatureSubject
      (authoritativeHeaders headers (signatureSubject.bind SignatureSubject.exchange)) tenant
      bearer).2 = .ok outcome) :
    outcome = bearer ∨
      bearer = none ∧ ∃ p, outcome = some p ∧ ∃ agentUrl,
        SignedBy config checks signs signatureSubject agentUrl ∧
          dir.OnboardedAt tenant.tenantId agentUrl p := by
  unfold signatureCredential at h
  cases signatureSubject with
  | none =>
      cases h
      exact Or.inl rfl
  | some subject =>
      dsimp only [Option.bind_some] at h
      cases hread : (verifyInboundSignature config checks cache subject
          (authoritativeHeaders headers subject.exchange) tenant bearer).2 with
      | error exc =>
          rw [hread] at h
          cases h
      | ok signer =>
          rw [hread] at h
          have houtcome : bearer.or (establishedPrincipal dir tenant signer) = outcome := by
            injection h
          subst houtcome
          cases bearer with
          | some p => exact Or.inl rfl
          | none =>
              cases hestablished : establishedPrincipal dir tenant signer with
              | none => exact Or.inl rfl
              | some p =>
                  refine Or.inr ⟨rfl, p, rfl, ?_⟩
                  obtain ⟨agentUrl, hurl, hlookup⟩ := Option.bind_eq_some_iff.mp hestablished
                  obtain ⟨signer', hsigner, hagent⟩ :=
                    Option.bind_eq_some_iff.mp (nonempty_eq_some_iff.mp hurl).1
                  subst hsigner
                  obtain ⟨exchange, url, hexchange, hpresents, hsame, hsigned⟩ :=
                    Signing.registered_of_verifyInboundSignature hkeyed hnames hread
                  rw [hagent] at hsame
                  cases hsame
                  rw [hexchange] at hsigned
                  exact ⟨agentUrl, ⟨exchange, hexchange, hpresents, hsigned⟩,
                    getPrincipalByAgentUrl_eq_some_iff.mp hlookup⟩

/-- An identity that a request resolved to. -/
theorem resolveIdentity_safe
    {identity : CallerIdentity}
    (hkeyed : checks.Keyed signs)
    (hnames : checks.NamesAgent)
    (h : (resolveIdentity config hashToken dir checks cache headers requireValidToken accountRef
      credentialRequiredFor signatureSubject).2 = .ok identity) :
    SafelyResolved config hashToken dir checks signs
      (authoritativeHeaders headers (signatureSubject.bind SignatureSubject.exchange))
      requireValidToken credentialRequiredFor signatureSubject identity := by
  rw [resolveIdentity] at h
  cases htenant : addressedTenant dir
      (authoritativeHeaders headers (signatureSubject.bind SignatureSubject.exchange)) with
  | none =>
      simp only [htenant] at h
      cases h
  | some tenant =>
      simp only [htenant] at h
      cases hread : (signatureCredential config dir checks cache signatureSubject
          (authoritativeHeaders headers (signatureSubject.bind SignatureSubject.exchange)) tenant
          (bearerPrincipal hashToken dir tenant (authoritativeHeaders headers
            (signatureSubject.bind SignatureSubject.exchange)))).2 with
      | error exc =>
          simp only [hread] at h
          cases h
      | ok principal =>
          simp only [hread] at h
          have hadmitted := admitCaller_cases h
          have hcases := signatureCredential_cases hkeyed hnames hread
          obtain ⟨t, hnamed, hcontext⟩ := addressedTenant_eq_some_iff.mp htenant
          have hheld : ∀ token, extractAuthToken (authoritativeHeaders headers
              (signatureSubject.bind SignatureSubject.exchange)) = some token →
              ∃ p, dir.HoldsToken tenant.tenantId (hashToken token) p ∧ principal = some p := by
            intro token htoken
            have haccepted := hadmitted.accepted
            rw [bearerPrincipal, htoken] at haccepted hcases
            cases hlookup : dir.getPrincipalFromToken hashToken token tenant.tenantId with
            | none =>
                simp [hlookup] at haccepted
            | some p =>
                refine ⟨p, getPrincipalFromToken_eq_some_iff.mp hlookup, ?_⟩
                rcases hcases with heq | ⟨hno, _⟩
                · rw [heq]
                  exact hlookup
                · rw [Option.bind_some, hlookup] at hno
                  cases hno
          refine ⟨⟨t, hnamed, hadmitted.tenant_eq.trans hcontext.symm⟩, ?_, ?_, ?_, ?_⟩
          · intro p hp
            rw [hadmitted.tenant_eq]
            rw [hadmitted.principal_eq] at hp
            cases htoken : extractAuthToken (authoritativeHeaders headers
                (signatureSubject.bind SignatureSubject.exchange)) with
            | some token =>
                obtain ⟨p', hholds, hprincipal⟩ := hheld token htoken
                have heq : p' = p := Option.some.inj (hprincipal.symm.trans hp)
                exact Or.inl ⟨token, htoken, heq ▸ hholds⟩
            | none =>
                refine Or.inr ⟨htoken, ?_⟩
                rcases hcases with heq | ⟨_, p', hprincipal, agentUrl, hsigned, honboarded⟩
                · rw [bearerPrincipal, htoken, hp] at heq
                  cases heq
                · have heq : p' = p := Option.some.inj (hprincipal.symm.trans hp)
                  exact ⟨agentUrl, hsigned, heq ▸ honboarded⟩
          · rw [hadmitted.tenant_eq]
            exact hadmitted.account
          · intro hrequired hnone
            have hflag : (requireValidToken ||
                credentialRequiredFor.any fun policy => policy tenant) = true := by
              rw [hadmitted.tenant_eq] at hrequired
              rcases hrequired with hflag | ⟨policy, hpolicy, hrequires⟩
              · simp [hflag]
              · simp [hpolicy, hrequires]
            have hsome := hadmitted.required hflag
            rw [hnone] at hsome
            cases hsome
          · intro token htoken
            rw [hadmitted.tenant_eq, hadmitted.principal_eq]
            exact hheld token htoken

theorem read_of_resolveIdentity
    {subject : SignatureSubject}
    {tenant : TenantContext}
    {identity : CallerIdentity}
    (haddressed : addressedTenant dir (authoritativeHeaders headers subject.exchange) = some tenant)
    (h : (resolveIdentity config hashToken dir checks cache headers requireValidToken accountRef
      credentialRequiredFor (some subject)).2 = .ok identity) :
    ∃ signer,
      (verifyInboundSignature config checks cache subject
        (authoritativeHeaders headers subject.exchange) tenant
        (bearerPrincipal hashToken dir tenant
          (authoritativeHeaders headers subject.exchange))).2 = .ok signer := by
  rw [resolveIdentity] at h
  simp only [Option.bind_some, haddressed, signatureCredential] at h
  cases hread : (verifyInboundSignature config checks cache subject
      (authoritativeHeaders headers subject.exchange) tenant
      (bearerPrincipal hashToken dir tenant
        (authoritativeHeaders headers subject.exchange))).2 with
  | ok signer =>
      exact ⟨signer, rfl⟩
  | error exc =>
      rw [hread] at h
      cases h

/-- Every identity is safely resolved, and a bearer that no principal of the addressed
tenant holds is refused. -/
theorem identity_safe
    (config : VerifierSettings)
    (hashToken : String → String)
    (dir : Directory)
    (checks : Checklist)
    (cache : KeyCache)
    (headers : Headers)
    (requireValidToken : Bool)
    (accountRef : Option AccountRef)
    (credentialRequiredFor : Option (TenantContext → Bool))
    (signatureSubject : Option SignatureSubject)
    (hkeyed : checks.Keyed signs)
    (hnames : checks.NamesAgent) :
    (∀ identity,
      (resolveIdentity config hashToken dir checks cache headers requireValidToken accountRef
        credentialRequiredFor signatureSubject).2 = .ok identity →
      SafelyResolved config hashToken dir checks signs
        (authoritativeHeaders headers (signatureSubject.bind SignatureSubject.exchange))
        requireValidToken credentialRequiredFor signatureSubject identity) ∧
    ∀ token,
      extractAuthToken (authoritativeHeaders headers
        (signatureSubject.bind SignatureSubject.exchange)) = some token →
      (∀ t, dir.Named (authoritativeHeaders headers
          (signatureSubject.bind SignatureSubject.exchange)) t →
        ∀ p, ¬ dir.HoldsToken t.tenantId (hashToken token) p) →
      ∃ refusal,
        (resolveIdentity config hashToken dir checks cache headers requireValidToken accountRef
          credentialRequiredFor signatureSubject).2 = .error refusal := by
  refine ⟨fun identity h => resolveIdentity_safe hkeyed hnames h, fun token htoken hunknown => ?_⟩
  cases h : (resolveIdentity config hashToken dir checks cache headers requireValidToken accountRef
      credentialRequiredFor signatureSubject).2 with
  | error refusal =>
      exact ⟨refusal, rfl⟩
  | ok identity =>
      have hsafe := resolveIdentity_safe hkeyed hnames h
      obtain ⟨t, hnamed, htenant⟩ := hsafe.tenant
      obtain ⟨p, hholds, _⟩ := hsafe.bearer token htoken
      rw [htenant] at hholds
      exact absurd hholds (hunknown t hnamed p)

end Safety

section Samples

/-- A header line of ASCII texts. -/
def sampleLine
    (name value : String) : Signing.RawHeader :=
  (name.toList.map fun c => UInt8.ofNat c.toNat, value.toList.map fun c => UInt8.ofNat c.toNat)

/-- A signature that is the material of its key. -/
def sampleSigns
    (jwk : Jwk)
    (_ : HttpExchange)
    (headers : Headers) : Prop :=
  headers.get "signature" = some jwk.material

/-- A checklist that reads the key id and the signature from the two headers. -/
def sampleVerify
    (_ : HttpExchange)
    (headers : Headers)
    (options : Signing.VerifyOptions) :
    Except Signing.SignatureVerificationError Signing.VerifiedSigner :=
  let keyId := (headers.get "signature-input").getD ""
  match options.jwksResolver.call keyId with
  | .error exc => .error exc
  | .ok none => .error ⟨"request_signature_key_unknown", some 7⟩
  | .ok (some jwk) =>
      if headers.get "signature" = some jwk.material then
        .ok ⟨keyId, options.agentUrl⟩
      else
        .error ⟨"request_signature_invalid", some 10⟩

/-- No agent can be discovered. -/
def sampleChecks : Checklist where
  now := 0
  parseSignatureInputHeader := fun text => some [("sig1", some text)]
  resolveAgent := fun _ _ => .error { code := "capabilities_unreachable" }
  strictHeaderPrecheck := fun _ => .ok ()
  rejectMalformedTarget := fun _ => .ok ()
  verifyRequestSignature := sampleVerify

theorem sampleChecks_keyed : sampleChecks.Keyed sampleSigns := by
  intro exchange headers options signer h
  simp only [sampleChecks, sampleVerify] at h
  split at h
  · cases h
  · cases h
  · next jwk hcall =>
      split_ifs at h with hsigned
      cases h
      exact ⟨jwk, hcall, hsigned⟩

theorem sampleChecks_namesAgent : sampleChecks.NamesAgent := by
  intro exchange headers options signer h
  simp only [sampleChecks, sampleVerify] at h
  split at h
  · cases h
  · cases h
  · split_ifs at h
    cases h
    rfl

/-- The keys of the counterparty `nova` are registered. -/
def novaConfig : VerifierSettings where
  maxSignedBodyBytes := 100
  agentResolutionTtl := 3600
  agentResolutionRefetchCooldown := 30
  counterpartyAgentType := "buying"
  counterpartyRegistry := [("nova", ⟨"https://nova.example", [⟨"nova", "by nova"⟩]⟩)]

/-- The seller declared no posture. -/
def sampleTenant : Tenant where
  tenantId := "seller"
  virtualHostName := "seller.example"

/-- Onboarding recorded the agent URL of `nova`. -/
def novaRow : PrincipalRow where
  tenantId := "seller"
  principalId := "nova"
  name := "Nova"
  tokenHash := "token of nova"
  agentUrl := some "https://nova.example"

/-- One seller with one buyer. -/
def oneBuyer
    (row : PrincipalRow) : Directory where
  tenants := ⟨[sampleTenant], List.pairwise_singleton _ _⟩
  hostNames := List.pairwise_singleton _ _
  principals := ⟨[row], List.pairwise_singleton _ _⟩
  tokenHashes := List.pairwise_singleton _ _
  agentUrls := List.pairwise_singleton _ _
  accounts := .empty

/-- The buyer is the one that signs. -/
def novaDirectory : Directory :=
  oneBuyer novaRow

/-- A message to the seller that `nova` signed, without a bearer. -/
def novaMessage : HttpExchange where
  method := "POST"
  url := "https://seller.example/mcp"
  rawHeaders :=
    [sampleLine "Host" "seller.example", sampleLine "Signature-Input" "nova",
      sampleLine "Signature" "by nova"]
  body := []

/-- The signature of `nova` names its principal, and the identity is safely resolved. -/
theorem identity_safe_of_nova :
    (resolveIdentity novaConfig id novaDirectory sampleChecks .empty [] true none none
      (some ⟨"create_media_buy", true, some novaMessage⟩)).2 =
        .ok (.resolvedIdentity novaRow.principal sampleTenant.context) ∧
    SafelyResolved novaConfig id novaDirectory sampleChecks sampleSigns novaMessage.headers true none
      (some ⟨"create_media_buy", true, some novaMessage⟩)
      (.resolvedIdentity novaRow.principal sampleTenant.context) := by
  have hresolved : (resolveIdentity novaConfig id novaDirectory sampleChecks .empty [] true none none
      (some ⟨"create_media_buy", true, some novaMessage⟩)).2 =
        .ok (.resolvedIdentity novaRow.principal sampleTenant.context) := by
    decide +kernel
  exact ⟨hresolved, (identity_safe novaConfig id novaDirectory sampleChecks .empty [] true none none
    (some ⟨"create_media_buy", true, some novaMessage⟩) sampleChecks_keyed
    sampleChecks_namesAgent).1 _ hresolved⟩

end Samples

end Identity
end SalesAgent
