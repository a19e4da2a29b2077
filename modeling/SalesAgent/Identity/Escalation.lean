import SalesAgent.Identity.Resolve
import SalesAgent.Lib.Runs

/-!
# Requests that register webhook credentials

A process serves requests one after another and keeps the keys it discovered.  A request
whose payload hands the seller credentials of a webhook has to be signed, whatever the
posture of the seller names and whether or not a bearer resolved.

The keys are those published under the agent URL of the principal that the bearer resolved
to.  A caller without an agent URL has none to discover; its signature is verified with the
registered entry of the key id that the signature names, if a deployment registers any.

**Results.**
* `Arrives.published`: the process caches only keys that some request discovered.
* `registration_signed`: an accepted registration is signed with a key of its caller,
  unless its client went away before the body was whole.
* `registration_signed_by_other`: two registrations that no key of the bearer's principal
  signed.
-/

namespace SalesAgent
namespace Identity

open Accounts (AccountRef Authentication NotificationConfig SyncEntry)
open Runs (Run)
open Signing (AgentResolution CallersKey Checklist Headers HttpExchange Jwk KeyCache Received Scope
  SignatureSubject VerifierSettings captureExchange parseKeyid postureForTenant)

/-- `PushNotificationConfig`, in the fields the escalation reads. -/
structure PushNotificationConfig where
  url : String
  authentication : Option Authentication := none
  deriving DecidableEq, Repr

/-- A validated request, in the fields the boundary reads before it runs a tool. -/
structure BuyerRequest where
  pushNotificationConfig : Option PushNotificationConfig := none
  accounts : List SyncEntry := []
  account : Option AccountRef := none

/-- `_configs_of` -/
def configsOf
    (accounts : List SyncEntry) : List NotificationConfig :=
  accounts.flatMap fun account => account.notificationConfigs.getD []

/-- `registers_webhook_credentials` -/
def registersWebhookCredentials
    (req : BuyerRequest) : Bool :=
  req.pushNotificationConfig.any (fun config => config.authentication.isSome) ||
    (configsOf req.accounts).any fun config => config.authentication.isSome

/-- What a deployment is configured with. -/
structure Deployment where
  config : VerifierSettings
  hashToken : String → String

/-- An arrival at the boundary: the rows and answers it meets, and the message, where the
transport has one. -/
structure Arrival where
  dir : Directory
  checks : Checklist
  headers : Headers := []
  spec : ToolSpec
  payload : BuyerRequest
  message : Option (Scope × List Received)

section Boundary

variable (deployment : Deployment)

/-- The captured message. -/
def Arrival.exchange
    (arrival : Arrival) : Option HttpExchange :=
  arrival.message.map fun message =>
    captureExchange message.1 deployment.config.maxSignedBodyBytes message.2

/-- The headers the resolver reads. -/
def Arrival.lines
    (arrival : Arrival) : Headers :=
  authoritativeHeaders arrival.headers (arrival.exchange deployment)

/-- What the boundary knows of the request. -/
def Arrival.subject
    (arrival : Arrival) : SignatureSubject where
  operation := arrival.spec.name
  registersCredentials := registersWebhookCredentials arrival.payload
  exchange := arrival.exchange deployment

/-- The identity step of `invoke_tool`. -/
def identifyCaller
    (cache : KeyCache)
    (arrival : Arrival) : KeyCache × Except Refusal CallerIdentity :=
  resolveIdentity deployment.config deployment.hashToken arrival.dir arrival.checks cache
    arrival.headers
    (arrival.spec.requiresCredential none || arrival.payload.account.isSome)
    arrival.payload.account
    (some fun tenant => arrival.spec.requiresCredential (some tenant))
    (some (arrival.subject deployment))

/-- One request served by the process. -/
def Arrives
    (cache : KeyCache)
    (arrival : Arrival)
    (cache' : KeyCache) : Prop :=
  cache' = (identifyCaller deployment cache arrival).1

/-- Some request of a history discovered these keys under the agent URL. -/
def DiscoveredIn
    (history : List Arrival)
    (agentUrl : String)
    (resolution : AgentResolution) : Prop :=
  ∃ arrival ∈ history, arrival.checks.Discovers deployment.config agentUrl resolution

/-- The principal that the bearer of a request resolves to in a tenant. -/
def Arrival.bearer
    (arrival : Arrival)
    (tenant : Tenant) : Option Principal :=
  bearerPrincipal deployment.hashToken arrival.dir tenant.context (arrival.lines deployment)

/-- The request is signed with a key published under the agent URL of the principal that
its bearer resolves to. -/
def SignedByBearer
    (signs : Jwk → HttpExchange → Headers → Prop)
    (history : List Arrival)
    (tenant : Tenant)
    (arrival : Arrival) : Prop :=
  ∃ exchange p url resolution jwk, arrival.exchange deployment = some exchange ∧
    arrival.bearer deployment tenant = some p ∧ p.agentUrl = some url ∧
    DiscoveredIn deployment history url resolution ∧ jwk ∈ resolution.jwks ∧
    signs jwk exchange (arrival.lines deployment)

/-- The request is signed with a key of its caller: one published under the agent URL of
the principal that its bearer resolves to or, where there is no such URL, one registered
for the key id that the signature names. -/
def SignedByCaller
    (signs : Jwk → HttpExchange → Headers → Prop)
    (history : List Arrival)
    (tenant : Tenant)
    (arrival : Arrival) : Prop :=
  ∃ exchange jwk, arrival.exchange deployment = some exchange ∧
    exchange.presentsSignature = true ∧ signs jwk exchange (arrival.lines deployment) ∧
    CallersKey deployment.config arrival.checks (DiscoveredIn deployment history)
      (arrival.lines deployment) ((arrival.bearer deployment tenant).bind Principal.agentUrl) jwk

/-- The client of a captured request went away before its body was whole. -/
def CutOff
    (arrival : Arrival) : Prop :=
  ∃ scope received, arrival.message = some (scope, received) ∧ Signing.Disconnected received

end Boundary

section Results

variable {deployment : Deployment} {cache : KeyCache} {arrival : Arrival}

theorem DiscoveredIn.mono
    {history : List Arrival}
    {agentUrl : String}
    {resolution : AgentResolution}
    (h : DiscoveredIn deployment history agentUrl resolution) :
    DiscoveredIn deployment (history ++ [arrival]) agentUrl resolution := by
  obtain ⟨earlier, hmem, hfound⟩ := h
  exact ⟨earlier, List.mem_append_left _ hmem, hfound⟩

theorem discoveredIn_last
    {history : List Arrival}
    {agentUrl : String}
    {resolution : AgentResolution}
    (h : arrival.checks.Discovers deployment.config agentUrl resolution) :
    DiscoveredIn deployment (history ++ [arrival]) agentUrl resolution :=
  ⟨arrival, List.mem_append_right _ (List.mem_singleton_self arrival), h⟩

/-- Serving a request keeps the cache to what the history discovered. -/
theorem identifyCaller_published
    {history : List Arrival}
    (h : cache.Published (DiscoveredIn deployment history)) :
    (identifyCaller deployment cache arrival).1.Published
      (DiscoveredIn deployment (history ++ [arrival])) := by
  have hcache : cache.Published (DiscoveredIn deployment (history ++ [arrival])) :=
    fun url resolution hfound => (h url resolution hfound).mono
  rw [identifyCaller, resolveIdentity]
  cases haddressed : addressedTenant arrival.dir (authoritativeHeaders arrival.headers
      ((some (arrival.subject deployment)).bind SignatureSubject.exchange)) with
  | none =>
      exact hcache
  | some tenant =>
      dsimp only
      have hread : (signatureCredential deployment.config arrival.dir arrival.checks cache
          (some (arrival.subject deployment))
          (authoritativeHeaders arrival.headers
            ((some (arrival.subject deployment)).bind SignatureSubject.exchange)) tenant
          (bearerPrincipal deployment.hashToken arrival.dir tenant
            (authoritativeHeaders arrival.headers
              ((some (arrival.subject deployment)).bind SignatureSubject.exchange)))).1.Published
            (DiscoveredIn deployment (history ++ [arrival])) :=
        Signing.verifyInboundSignature_published hcache fun _ _ => discoveredIn_last
      split
      · exact hread
      · exact hread

/-- The process caches only keys that some request discovered. -/
theorem Arrives.published
    {history : List Arrival}
    (hrun : Run (Arrives deployment) KeyCache.empty history cache) :
    cache.Published (DiscoveredIn deployment history) := by
  have hstep : ∀ history cache arrival cache',
      cache.Published (DiscoveredIn deployment history) →
      Arrives deployment cache arrival cache' →
      cache'.Published (DiscoveredIn deployment (history ++ [arrival])) := by
    intro history cache arrival cache' hinv hserved
    rw [hserved]
    exact identifyCaller_published hinv
  have hempty : KeyCache.empty.Published (DiscoveredIn deployment []) := by
    intro url resolution hno
    cases hno
  exact Run.preserves_history hstep hrun hempty

/-- An accepted registration of webhook credentials is signed with a key of its caller, or
its client went away before the body was whole. -/
theorem registration_signed
    {signs : Jwk → HttpExchange → Headers → Prop}
    {history : List Arrival}
    {tenant : Tenant}
    {identity : CallerIdentity}
    (hrun : Run (Arrives deployment) KeyCache.empty history cache)
    (hkeyed : arrival.checks.Keyed signs)
    (hnamed : arrival.dir.Named (arrival.lines deployment) tenant)
    (hsupported : (postureForTenant deployment.config.verifierEnabled
      tenant.capabilityDeclarations).supported = true)
    (hregisters : registersWebhookCredentials arrival.payload = true)
    (haccepted : (identifyCaller deployment cache arrival).2 = .ok identity) :
    SignedByCaller deployment signs (history ++ [arrival]) tenant arrival ∨ CutOff arrival := by
  have hcache : cache.Published (DiscoveredIn deployment (history ++ [arrival])) :=
    fun url resolution hfound => (Arrives.published hrun url resolution hfound).mono
  obtain ⟨signer, hread⟩ := read_of_resolveIdentity
    (addressedTenant_eq_some_iff.mpr ⟨tenant, hnamed, rfl⟩) haccepted
  obtain ⟨exchange, hexchange, hpresents, hcases⟩ :=
    Signing.escalated_cases hcache (fun _ _ => discoveredIn_last) hkeyed hsupported hregisters hread
  rcases hcases with ⟨hcomplete, hcap⟩ | ⟨jwk, hsigns, hcallers⟩
  · obtain ⟨⟨scope, received⟩, hmessage, hcapture⟩ := Option.map_eq_some_iff.mp hexchange
    rw [← hcapture] at hcomplete hcap
    exact Or.inr ⟨scope, received, hmessage, Signing.disconnected_of_bufferBody hcomplete hcap⟩
  · exact Or.inl ⟨exchange, jwk, hexchange, hpresents, hsigns, hcallers⟩

end Results

section Samples

/-- The keys of the counterparty `nova` are registered. -/
def novaDeployment : Deployment where
  config := novaConfig
  hashToken := fun token => token

/-- Onboarding recorded no agent URL for `spark`. -/
def sparkRow : PrincipalRow where
  tenantId := "seller"
  principalId := "spark"
  name := "Spark"
  tokenHash := "token"

/-- The seller with the buyer `spark`. -/
def sampleDirectory : Directory :=
  oneBuyer sparkRow

/-- `spark` registers a webhook with credentials, under a signature. -/
def sparkRegistration
    (signature : String)
    (received : List Received) : Arrival where
  dir := sampleDirectory
  checks := sampleChecks
  spec := ⟨"create_media_buy", true, false⟩
  payload :=
    { pushNotificationConfig := some ⟨"https://spark.example/hook", some ⟨["HMAC-SHA256"], some "s"⟩⟩ }
  message := some
    ({ rawPath := none
       path := "/mcp"
       headers :=
         [sampleLine "Host" "seller.example", sampleLine "Authorization" "Bearer token",
           sampleLine "Signature-Input" "nova", sampleLine "Signature" signature] }, received)

/-- The registration arrived whole, signed by `nova`. -/
def signedByNova : Arrival :=
  sparkRegistration "by nova" [.request [] false]

theorem sampleTenant_named
    {signature : String}
    {received : List Received}
    (h : detectTenant sampleDirectory ((sparkRegistration signature received).lines novaDeployment) =
      some "seller") :
    (sparkRegistration signature received).dir.Named
      ((sparkRegistration signature received).lines novaDeployment) sampleTenant :=
  named_of_detectTenant (List.mem_singleton_self _) rfl (by decide) h

theorem signedByNova_accepted :
    (identifyCaller novaDeployment .empty signedByNova).2 =
      .ok (.resolvedIdentity sparkRow.principal sampleTenant.context) := by
  decide +kernel

/-- The theorem on a registration of `spark` that `nova` signed. -/
theorem registration_signed_of_signedByNova :
    SignedByCaller novaDeployment sampleSigns ([] ++ [signedByNova]) sampleTenant signedByNova ∨
      CutOff signedByNova :=
  registration_signed (.nil KeyCache.empty) sampleChecks_keyed
    (sampleTenant_named (by decide +kernel)) (by decide) (by decide) signedByNova_accepted

/-- Registrations that are accepted though no key of the bearer's principal signed them:
one that another counterparty signed, and one whose client went away. -/
theorem registration_signed_by_other :
    (registersWebhookCredentials signedByNova.payload = true ∧
      (postureForTenant novaDeployment.config.verifierEnabled
        sampleTenant.capabilityDeclarations).supported = true ∧
      signedByNova.bearer novaDeployment sampleTenant = some sparkRow.principal ∧
      (identifyCaller novaDeployment .empty signedByNova).2 =
        .ok (.resolvedIdentity sparkRow.principal sampleTenant.context) ∧
      ¬ SignedByBearer novaDeployment sampleSigns [signedByNova] sampleTenant signedByNova) ∧
    (identifyCaller novaDeployment .empty (sparkRegistration "" [.disconnect])).2 =
      .ok (.resolvedIdentity sparkRow.principal sampleTenant.context) ∧
    ¬ SignedByBearer novaDeployment sampleSigns [sparkRegistration "" [.disconnect]] sampleTenant
      (sparkRegistration "" [.disconnect]) := by
  have hnone : ∀ {signature received history}, ¬ SignedByBearer novaDeployment sampleSigns history
      sampleTenant (sparkRegistration signature received) := by
    rintro signature received history ⟨_, p, url, _, _, _, hbearer, hurl, _⟩
    obtain ⟨token, _, hlookup⟩ := Option.bind_eq_some_iff.mp hbearer
    obtain ⟨row, hmem, _, _, hrow⟩ := getPrincipalFromToken_eq_some_iff.mp hlookup
    have heq : row = sparkRow := List.mem_singleton.mp hmem
    subst heq
    rw [← hrow] at hurl
    cases hurl
  refine ⟨⟨by decide, by decide, by decide +kernel, signedByNova_accepted, hnone⟩, ?_, hnone⟩
  decide +kernel

end Samples

end Identity
end SalesAgent
