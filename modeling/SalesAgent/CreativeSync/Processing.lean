import SalesAgent.CreativeSync.Library
import SalesAgent.Signing.Capture

/-!
# Creating and updating one creative

An entry is validated, then checked against the provenance policy, then created or
written over the caller's row of its id.  Creation and update both consult the
creative agent of the format.  The creation consults it first and writes the row
last.  The update writes name, format, status and time of the row first and registers
the AI review, then consults the agent, and writes the data last.

A function fails in two ways: it returns a failed result, or it raises.  Most failures
of the agent are returned; only an error of the outbound seam is raised.

What the agents answer while an entry is processed is a parameter, by the number of
the entry; so are the validation of the SDK's models and its canonical URLs.

**Results.**
* `verdict_consultForUpdate`: how the consultation of an update ends does not depend on
  the stored data.
-/

namespace SalesAgent
namespace CreativeSync

open Idempotency (Json)
open MediaBuys (Creative CreativeStatus Decimal FormatIdentity)

/-- `approval_mode` of the tenant; an unknown one requires a human. -/
inductive ApprovalMode
  | autoApprove
  | aiPowered
  | requireHuman
  deriving DecidableEq, Repr

/-- A format of the registry. -/
structure Format where
  identity : FormatIdentity
  agentUrl : Option String
  outputFormatIds : List FormatIdentity
  deriving DecidableEq, Repr

/-- `is_agent_backed`. -/
def Format.isAgentBacked
    (f : Format) : Bool :=
  f.agentUrl.isSome

/-- `is_generative`. -/
def Format.isGenerative
    (f : Format) : Bool :=
  ! f.outputFormatIds.isEmpty

/-- `creative_policy` of a product, as the provenance check reads it. -/
structure CreativePolicy where
  provenanceRequired : Bool
  requireDigitalSourceType : Bool := false
  requireDisclosureMetadata : Bool := false
  requireEmbeddedProvenance : Bool := false
  deriving DecidableEq, Repr

/-- An error of the outbound seam: the dial was refused, or was not delivered. -/
inductive OutboundError
  | requestBlocked
  | deliveryFailed (httpStatus : Option Nat)
  deriving DecidableEq, Repr

/-- `raise_mapped_outbound_error`, for an endpoint of the operator. -/
def OutboundError.mapped : OutboundError → SyncError
  | .requestBlocked => ⟨.configurationError, none⟩
  | .deliveryFailed none => ⟨.serviceUnavailable, none⟩
  | .deliveryFailed (some status) =>
      if status = 429 then ⟨.rateLimited, none⟩
      else if 400 ≤ status ∧ status < 500 then ⟨.configurationError, none⟩
      else ⟨.serviceUnavailable, none⟩

/-- What a call of an agent raises. -/
inductive AgentFailure
  | configuration
  | outbound (err : OutboundError)
  | typed (err : SyncError)
  | other
  deriving DecidableEq, Repr

/-- `creative_output` of a build. -/
structure CreativeOutput where
  assets : Option AssetMap
  /-- the built assets fit the pinned asset map -/
  assetsFit : Bool
  outputFormat : Option Json
  outputUrl : Option String

/-- What `build_creative` answers. -/
structure BuildResult where
  document : Json
  status : Option String
  contextId : Option String
  creativeOutput : Option CreativeOutput

/-- One render of a preview. -/
structure Render where
  previewUrl : Option String
  width : Option Decimal
  height : Option Decimal
  duration : Option Decimal

/-- What `preview_creative` answers: its previews, each with its renders. -/
structure PreviewResult where
  document : Json
  previews : List (List Render)

/-- What the agents answer while the entry of a number is processed. -/
structure Agents where
  /-- whether the format exists; raised errors are typed -/
  fetchFormatSpec : Nat → Except SyncError Bool
  buildCreative : Nat → Except AgentFailure (Option BuildResult)
  previewCreative : Nat → Except AgentFailure (Option PreviewResult)

/-- The caller, the tenant and the world outside. -/
structure SyncEnv where
  tenantId : String
  principalId : String
  approvalMode : ApprovalMode
  formats : List Format
  provenancePolicies : List CreativePolicy
  product : String → Option MediaBuys.Product
  geminiApiKey : Bool
  agents : Agents
  /-- the time at which the entry of a number is processed -/
  clock : Nat → DateTime
  /-- the time of the assignment stage -/
  assignedAt : DateTime
  /-- the id given to the entry of a number that has none -/
  mint : Nat → String
  /-- the SDK accepts the entry as a `CreativeAsset`, and as a `Creative` -/
  normalises : CreativeAsset → Bool
  fits : CreativeAsset → Bool
  canonicalUrl : String → Option String

/-- The key of the caller's creative. -/
def SyncEnv.creativeKey
    (env : SyncEnv)
    (creativeId : String) : String × String × String :=
  (creativeId, env.tenantId, env.principalId)

/-- `format_identity_or_none`. -/
def SyncEnv.formatIdentity
    (env : SyncEnv)
    (agentUrl id : String) : Option FormatIdentity :=
  (env.canonicalUrl agentUrl).map (fun url => ⟨url, id⟩)

section Assets

/-- `_extract_message_from_assets`. -/
def extractMessageFromAssets
    (creative : CreativeAsset) : Option String :=
  let roles := creative.assets.filter (fun a => a.1 ∈ ["message", "brief", "prompt"])
  let texts := roles.filterMap (fun a => a.2.attr (·.content) <|> a.2.attr (·.text))
  texts.head? <|> creative.contextDescription

/-- `_extract_url_from_assets`. -/
def extractUrlFromAssets
    (creative : CreativeAsset) : Option String :=
  if truthy creative.url || creative.assets.isEmpty then creative.url
  else
    let common := ["main", "image", "video", "creative", "content"].filterMap (fun role =>
      (creative.assets.find? (·.1 = role)).bind (·.2.attr (·.url)))
    common.head? <|> (creative.assets.filterMap (·.2.attr (·.url))).head?

/-- `_build_creative_data`. -/
def buildCreativeData
    (creative : CreativeAsset) : CreativeData where
  url := extractUrlFromAssets creative
  clickUrl := creative.clickUrl
  width := creative.width
  height := creative.height
  duration := creative.duration
  assets := if creative.assets.isEmpty then none else some creative.assets
  snippet := (creative.snippet.filter (· ≠ "")).map (fun s => (s, creative.snippetType))
  templateVariables := creative.templateVariables
  provenance := creative.provenance

/-- Nothing is left of the string after `strip`. -/
def blank
    (s : String) : Bool :=
  s.toList.all Signing.isSpace

/-- The asset map passes `_validate_creative_assets`. -/
def assetKeysNamed
    (assets : AssetMap) : Bool :=
  assets.all (fun a => ! blank a.1)

end Assets

section Validation

/-- How the validation of an entry refuses it. -/
inductive Refusal
  /-- the SDK's model does not accept it -/
  | invalid
  | typed (err : SyncError)

/-- `is_dialled_agent_url`. -/
def isDialledAgentUrl
    (agentUrl : String) : Bool :=
  "http://".isPrefixOf agentUrl || "https://".isPrefixOf agentUrl

/-- `_validate_creative_input`; it returns the validated format. -/
def validateCreativeInput
    (env : SyncEnv)
    (index : Nat)
    (creative : CreativeAsset) : Except Refusal FormatRef :=
  if ! env.fits creative then .error .invalid
  else if blank creative.name then .error (.typed ⟨.validationError, some "name"⟩)
  else match creative.formatId with
    | none => .error (.typed ⟨.validationError, some "format_id"⟩)
    | some ref =>
        if ! isDialledAgentUrl ref.agentUrl then .ok ref
        else match env.agents.fetchFormatSpec index with
          | .error err => .error (.typed err)
          | .ok true => .ok ref
          | .ok false => .error (.typed ⟨.referenceNotFound, some "format_id"⟩)

/-- `check_provenance_policy`. -/
def checkProvenancePolicy
    (creative : CreativeAsset)
    (policy : CreativePolicy) : Except SyncError Unit :=
  if ! policy.provenanceRequired then .ok ()
  else match creative.provenance with
    | none =>
        if creative.assets.any (fun a => a.2.any (·.provenance)) then .ok ()
        else .error ⟨.provenanceRequired, some "provenance"⟩
    | some provenance =>
        if policy.requireDigitalSourceType && provenance.digitalSourceType.isNone then
          .error ⟨.provenanceDigitalSourceTypeMissing, some "provenance.digital_source_type"⟩
        else if policy.requireDisclosureMetadata &&
            (match provenance.disclosure.bind (fun d => d.required.map (fun r => (r, d))) with
              | none => true
              | some (required, disclosure) => required && disclosure.jurisdictions.isEmpty) then
          .error ⟨.provenanceDisclosureMissing, some "provenance.disclosure"⟩
        else if policy.requireEmbeddedProvenance && ! provenance.embeddedProvenance then
          .error ⟨.provenanceEmbeddedMissing, some "provenance.embedded_provenance"⟩
        else .ok ()

end Validation

section Consulting

variable (env : SyncEnv) (dryRun : Bool) (index : Nat) (creative : CreativeAsset)

/-- `find_format`; a reference without a canonical URL raises. -/
def findFormat
    (ref : FormatRef) : Except AgentFailure (Option Format) :=
  match env.formatIdentity ref.agentUrl ref.id with
  | none => .error .other
  | some identity => .ok (env.formats.find? (·.identity = identity))

/-- `outbound`: a preview does not make the call. -/
def outbound
    {α : Type}
    (call : Except AgentFailure (Option α)) : Except AgentFailure (Option α) :=
  if dryRun then .ok none else call

/-- The creative has a URL of its own. -/
def hasMediaUrl
    (data : CreativeData) : Bool :=
  truthy creative.url || truthy data.url

/-- Enter the result of a build, with the names of the members it changed. -/
def applyBuild
    (data : CreativeData)
    (build : BuildResult) : Except AgentFailure (CreativeData × List String) :=
  let built := { data with
    generativeBuildResult := some build.document
    generativeStatus := some (build.status.getD "draft")
    generativeContextId := build.contextId }
  match build.creativeOutput with
  | none => .ok (built, ["generative_build_result"])
  | some output =>
      let takesAssets := output.assets.any (! ·.isEmpty) && creative.assets.isEmpty
      if takesAssets && ! output.assetsFit then .error (.typed ⟨.serviceUnavailable, none⟩)
      else
        let withAssets := if takesAssets then { built with assets := output.assets } else built
        let withFormat := match output.outputFormat with
          | none => withAssets
          | some format => { withAssets with outputFormat := some format }
        let takesUrl := output.outputFormat.isSome && truthy output.outputUrl && ! truthy data.url
        let withUrl := if takesUrl then { withFormat with url := output.outputUrl } else withFormat
        .ok (withUrl,
          ["generative_build_result"] ++ (if takesAssets then ["assets"] else []) ++
            (if output.outputFormat.isSome then ["output_format"] else []) ++
            (if takesUrl then ["url"] else []))

/-- A number that Python takes as true. -/
def Decimal.truthy
    (x : Option Decimal) : Bool :=
  x.any (· ≠ 0)

/-- Enter the first render of a preview, with the names of the members it changed. -/
def applyPreview
    (data : CreativeData)
    (preview : PreviewResult) : CreativeData × List String :=
  let shown := { data with previewResponse := some preview.document }
  match preview.previews.head?.bind (·.head?) with
  | none => (shown, ["preview_response"])
  | some render =>
      let takesUrl := CreativeSync.truthy render.previewUrl && ! CreativeSync.truthy data.url
      let takesWidth := Decimal.truthy render.width && ! Decimal.truthy data.width
      let takesHeight := Decimal.truthy render.height && ! Decimal.truthy data.height
      let takesDuration := Decimal.truthy render.duration && ! Decimal.truthy data.duration
      ({ shown with
          url := if takesUrl then render.previewUrl else data.url
          width := if takesWidth then render.width else data.width
          height := if takesHeight then render.height else data.height
          duration := if takesDuration then render.duration else data.duration },
        ["preview_response"] ++ (if takesUrl then ["url"] else []) ++
          (if takesWidth then ["width"] else []) ++ (if takesHeight then ["height"] else []) ++
          (if takesDuration then ["duration"] else []))

/-- The members of the stored data that an update without a message keeps. -/
def keepGenerative
    (stored data : CreativeData) : CreativeData :=
  { data with
    generativeBuildResult := stored.generativeBuildResult
    generativeStatus := stored.generativeStatus
    generativeContextId := stored.generativeContextId
    outputFormat := stored.outputFormat }

/-- The part of an update inside its `try`; `none` is the return for missing previews. -/
def consultForUpdate
    (ref : FormatRef)
    (stored : CreativeData) : Except AgentFailure (Option (CreativeData × List String)) := do
  let data := buildCreativeData creative
  match ← findFormat env ref with
  | none => return if hasMediaUrl creative data then some (data, []) else none
  | some format =>
      if ! format.isAgentBacked then
        return if hasMediaUrl creative data then some (data, []) else none
      else if format.isGenerative then
        if ! env.geminiApiKey then throw .configuration
        else if ! truthy (extractMessageFromAssets creative) then
          return some (keepGenerative stored data, [])
        else match ← outbound dryRun (env.agents.buildCreative index) with
          | none => return some (data, [])
          | some build => return some (← applyBuild creative data build)
      else if ! assetKeysNamed creative.assets then throw .other
      else match ← outbound dryRun (env.agents.previewCreative index) with
        | none => return some (data, [])
        | some preview =>
            return some (if preview.previews.isEmpty then (data, []) else applyPreview data preview)

/-- The part of a creation inside its `try`; `none` is the return for missing previews. -/
def consultForCreate
    (ref : FormatRef) : Except AgentFailure (Option (CreativeData × List String)) := do
  let data := buildCreativeData creative
  match ← findFormat env ref with
  | none => return some (data, [])
  | some format =>
      if ! format.isAgentBacked then return some (data, [])
      else
        let withoutPreviews (data : CreativeData) : Option (CreativeData × List String) :=
          if dryRun || hasMediaUrl creative data then some (data, []) else none
        if format.isGenerative then
          if ! env.geminiApiKey then throw .configuration
          else match ← outbound dryRun (env.agents.buildCreative index) with
            | none => return withoutPreviews data
            | some build => return withoutPreviews (← applyBuild creative data build).1
        else if ! assetKeysNamed creative.assets then throw .other
        else match ← outbound dryRun (env.agents.previewCreative index) with
          | none => return withoutPreviews data
          | some preview =>
              if preview.previews.isEmpty then return withoutPreviews data
              else return some (applyPreview data preview)

/-- How a consultation ends the function it is made from. -/
inductive Consulted
  | accepted (data : CreativeData) (changes : List String)
  /-- the function returns a failed result -/
  | failed (err : SyncError)
  /-- the function raises -/
  | raised (err : SyncError)

/-- The `except` clauses behind a consultation. -/
def Consulted.of : Except AgentFailure (Option (CreativeData × List String)) → Consulted
  | .ok (some (data, changes)) => .accepted data changes
  | .ok none => .failed ⟨.creativeRejected, some "media_url"⟩
  | .error .configuration => .failed ⟨.configurationError, none⟩
  | .error (.outbound err) => .raised err.mapped
  | .error (.typed err) => .failed err
  | .error .other => .failed ⟨.serviceUnavailable, none⟩

/-- How a consultation ends, without what it produced. -/
inductive Verdict
  | accepted
  | failed
  | raised
  deriving DecidableEq, Repr

/-- The verdict of a consultation. -/
def Consulted.verdict : Consulted → Verdict
  | .accepted _ _ => .accepted
  | .failed _ => .failed
  | .raised _ => .raised

/-- How an update ends does not depend on the stored data. -/
theorem verdict_consultForUpdate
    (ref : FormatRef)
    (stored stored' : CreativeData) :
    (Consulted.of (consultForUpdate env dryRun index creative ref stored)).verdict =
      (Consulted.of (consultForUpdate env dryRun index creative ref stored')).verdict := by
  unfold consultForUpdate
  cases hfind : findFormat env ref with
  | error err => rfl
  | ok format =>
      cases format with
      | none => rfl
      | some format =>
          simp only [bind, Except.bind, hfind]
          split
          · rfl
          · split
            · split
              · rfl
              -- without a message the data differ in what is kept, and both are accepted
              · split <;> rfl
            · rfl

end Consulting

/-- An AI review handed to the background reviewer after the commit. -/
structure ReviewJob where
  creativeId : String
  deriving DecidableEq, Repr

/-- The transaction of the creatives: its rows, its queue and the results so far. -/
structure SyncState where
  store : SyncStore
  queued : List ReviewJob
  results : List SyncCreativeResult

section Writing

variable (env : SyncEnv) (dryRun : Bool) (index : Nat) (creative : CreativeAsset)
variable (ref : FormatRef)

/-- The status the approval mode gives a creative. -/
def ApprovalMode.status : ApprovalMode → CreativeStatus
  | .autoApprove => .approved
  | .aiPowered => .pendingReview
  | .requireHuman => .pendingReview

/-- `_defer_ai_review`, which only the AI-powered mode calls. -/
def SyncEnv.reviews
    (creativeId : String) : List ReviewJob :=
  if env.approvalMode = .aiPowered then [⟨creativeId⟩] else []

/-- `comparison_changes` and the upsert fields, around the changes the agent made. -/
def updateChanges
    (stored : CreativeRow)
    (data : CreativeData)
    (agentDerived : List String) : List String :=
  ((if creative.name ≠ stored.name then ["name"] else []) ++
    (if ref.agentUrl ≠ stored.agentUrl ∨ ref.id ≠ stored.formatId ∨
        ref.parameters ≠ stored.formatParameters then ["format"] else []) ++
    agentDerived ++
    (if data.url ≠ stored.data.url then ["url"] else []) ++
    (if data.clickUrl ≠ stored.data.clickUrl then ["click_url"] else []) ++
    (if data.width ≠ stored.data.width then ["width"] else []) ++
    (if data.height ≠ stored.data.height then ["height"] else []) ++
    (if data.duration ≠ stored.data.duration then ["duration"] else [])).eraseDups

/-- What an update writes before it consults the agent. -/
def touchRow
    (stored : CreativeRow) : CreativeRow :=
  { stored with
    updatedAt := some (env.clock index)
    name := creative.name
    agentUrl := ref.agentUrl
    formatId := ref.id
    formatParameters := ref.parameters
    format := env.formatIdentity ref.agentUrl ref.id
    status := env.approvalMode.status }

/-- `_update_existing_creative`, with the result appended. -/
def updateExistingCreative
    (s : SyncState)
    (stored : CreativeRow) : Except SyncError SyncState :=
  let touched := touchRow env index creative ref stored
  let queued := s.queued ++ env.reviews stored.creativeId
  match Consulted.of (consultForUpdate env dryRun index creative ref stored.data) with
  | .raised err => .error err
  | .failed err =>
      .ok { store := s.store.withLibrary (s.store.library.put touched)
            queued := queued
            results := s.results ++ [failedSyncResult stored.creativeId err] }
  | .accepted data agentDerived =>
      let changes := updateChanges creative ref stored data agentDerived
      .ok { store := s.store.withLibrary (s.store.library.put { touched with data := data })
            queued := queued
            results := s.results ++
              [{ creativeId := stored.creativeId
                 action := if changes.isEmpty then .unchanged else .updated
                 internalStatus := some touched.status
                 changes := changes }] }

/-- The id an entry is stored under. -/
def SyncEnv.storedId : String :=
  if creative.creativeId = "" then env.mint index else creative.creativeId

/-- The row a creation inserts. -/
def newRow
    (data : CreativeData) : CreativeRow where
  creativeId := env.storedId index creative
  tenantId := env.tenantId
  principalId := env.principalId
  format := env.formatIdentity ref.agentUrl ref.id
  status := env.approvalMode.status
  createdAt := env.clock index
  updatedAt := none
  name := creative.name
  agentUrl := ref.agentUrl
  formatId := ref.id
  formatParameters := ref.parameters
  data := data

/-- `creative.creative_id or "unknown"`. -/
def CreativeAsset.idOrUnknown : String :=
  if creative.creativeId = "" then "unknown" else creative.creativeId

/-- `_create_new_creative`, with the result appended. -/
def createNewCreative
    (s : SyncState) : Except SyncError SyncState :=
  match Consulted.of (consultForCreate env dryRun index creative ref) with
  | .raised err => .error err
  | .failed err =>
      .ok { s with results := s.results ++ [failedSyncResult creative.idOrUnknown err] }
  | .accepted data _ =>
      let row := newRow env index creative ref data
      match s.store.library.insert row with
      | none => .error ⟨.internalError, none⟩
      | some library =>
          .ok { store := s.store.withLibrary library
                queued := s.queued ++ env.reviews row.creativeId
                results := s.results ++
                  [{ creativeId := row.creativeId
                     action := .created
                     internalStatus := some row.status }] }

end Writing

end CreativeSync
end SalesAgent
