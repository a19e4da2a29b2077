import SalesAgent.DateTime
import SalesAgent.Products.Catalogue

/-!
# Dynamic product variants

A dynamic template is a product that is sold once per audience.  For a brief, the
signals agents are asked for audiences; every audience that is live on one of its
deployments gives a variant of every template, which is stored as a product of its
own.  A variant that is stored already is kept longer.

**Results.**  `generated_isEmpty_congr`: whether a brief gives any variant depends on the active
templates of the tenant only.
-/

namespace SalesAgent
namespace Products

/-- A deployment of a signal. -/
structure Deployment where
  agentUrl : Option String
  isLive : Bool
  /-- the activation key, where it has the members its type requires -/
  activationKey : Option ActivationKey
  deriving DecidableEq, Repr

/-- An audience a signals agent offers; missing texts are empty. -/
structure Signal where
  name : String := ""
  description : String := ""
  dataProvider : String := ""
  coveragePercentage : String := ""
  deployments : List Deployment := []
  deriving DecidableEq, Repr

/-- What the generator takes from outside. -/
structure SignalsEnv where
  tenantId : String
  now : DateTime
  ourAgentUrl : Option String
  /-- what the signals agents answer to a brief; `none` when asking raises -/
  getSignals : String → Option (List Signal)
  /-- `hashlib.md5(…).hexdigest()` -/
  md5Hex : String → String

/-- The usable key of a deployment. -/
def Deployment.liveKey
    (d : Deployment) : Option ActivationKey :=
  if d.isLive then d.activationKey else none

/-- `extract_activation_key`: our deployment first, then any live one. -/
def extractActivationKey
    (signal : Signal)
    (ourAgentUrl : Option String) : Option ActivationKey :=
  let ours :=
    match ourAgentUrl.filter (fun url => url ≠ "") with
    | none => none
    | some url =>
        (signal.deployments.filter (fun d : Deployment => d.agentUrl = some url)).findSome?
          Deployment.liveKey
  ours.or (signal.deployments.findSome? Deployment.liveKey)

/-- `generate_variant_id`. -/
def generateVariantId
    (md5Hex : String → String)
    (templateId : String)
    (key : ActivationKey) : String :=
  let hashInput :=
    match key with
    | .keyValue k v => k ++ ":" ++ v
    | .segmentId s => "segment:" ++ s
  templateId ++ "__variant_" ++ String.ofList ((md5Hex hashInput).toList.take 8)

/-- The macros of a template text, in the order they are replaced. -/
def macroContext
    (own : String × String)
    (signal : Signal)
    (key : ActivationKey) : List (String × String) :=
  [own,
    ("signal.name", signal.name),
    ("signal.description", signal.description),
    ("signal.data_provider", signal.dataProvider),
    ("signal.coverage_percentage", signal.coveragePercentage),
    ("activation_key.key", match key with | .keyValue k _ => k | .segmentId _ => ""),
    ("activation_key.value", match key with | .keyValue _ v => v | .segmentId _ => ""),
    ("activation_key.segment_id", match key with | .keyValue _ _ => "" | .segmentId s => s)]

/-- Replace every macro of a template text. -/
def substituteMacros
    (context : List (String × String))
    (text : String) : String :=
  context.foldl
    (fun result entry => result.replace ("\x7b\x7b" ++ entry.1 ++ "\x7d\x7d") entry.2) text

/-- `customize_name`. -/
def customizeName
    (templateName : String)
    (signal : Signal)
    (key : ActivationKey)
    (variantNameTemplate : Option String) : String :=
  match variantNameTemplate.filter (fun t => t ≠ "") with
  | some text => substituteMacros (macroContext ("name", templateName) signal key) text
  | none =>
      if signal.name ≠ "" then
        templateName ++ " - " ++ signal.name
      else
        match key with
        | .keyValue k v => templateName ++ " - " ++ k ++ "=" ++ v
        | .segmentId s => templateName ++ " - Segment " ++ s

/-- `customize_description`. -/
def customizeDescription
    (templateDescription : Option String)
    (signal : Signal)
    (key : ActivationKey)
    (variantDescriptionTemplate : Option String) : Option String :=
  let description := templateDescription.getD ""
  match variantDescriptionTemplate.filter (fun t => t ≠ "") with
  | some text =>
      some (substituteMacros (macroContext ("description", description) signal key) text)
        |>.filter (fun t => t ≠ "")
  | none =>
      if description = "" then
        if signal.description ≠ "" then some signal.description else none
      else if signal.description ≠ "" then
        some (description ++ "\n\n" ++ signal.description)
      else
        templateDescription

/-- When a variant of a template expires. -/
def variantExpiry
    (env : SignalsEnv)
    (template : ProductRow) : DateTime :=
  env.now + Timedelta.seconds (((template.variantTtlDays.filter (fun d => d ≠ 0)).getD 30) * 86400)

/-- `create_variant_from_template`: the fields it lists, and no others, come from the
template. -/
def createVariantFromTemplate
    (env : SignalsEnv)
    (template : ProductRow)
    (signal : Signal)
    (key : ActivationKey)
    (variantId : String) : ProductRow where
  tenantId := template.tenantId
  productId := variantId
  name := customizeName template.name signal key template.variantNameTemplate
  description :=
    customizeDescription template.description signal key template.variantDescriptionTemplate
  formatIds := template.formatIds
  deliveryType := template.deliveryType
  countries := template.countries
  autoCreateEnabled := template.autoCreateEnabled
  properties := template.properties
  propertyTags := template.propertyTags
  -- the tenant of the row settles its publisher domain
  publisherDomain := template.publisherDomain
  placements := template.placements
  details := template.details
  isDynamic := false
  isDynamicVariant := true
  parentProductId := some template.productId
  activationKey := some key
  lastSyncedAt := some env.now
  expiresAt := some (variantExpiry env template)
  -- prices, channels and the access list are not copied
  pricingOptions := []

/-- A stored variant that is offered again. -/
def refreshVariant
    (env : SignalsEnv)
    (template existing : ProductRow) : ProductRow :=
  let expiry := variantExpiry env template
  { existing with
    lastSyncedAt := some env.now
    expiresAt := some ((existing.expiresAt.filter (fun t => ¬ t < expiry)).getD expiry) }

/-- What the generator has so far: the variants and the table. -/
abbrev Generated := List ProductRow × Catalogue

/-- One signal for one template. -/
def offerSignal
    (env : SignalsEnv)
    (template : ProductRow)
    (generated : Generated)
    (signal : Signal) : Generated :=
  match extractActivationKey signal env.ourAgentUrl with
  | none => generated
  | some key =>
      let variantId := generateVariantId env.md5Hex template.productId key
      let variant :=
        match generated.2.find (template.tenantId, variantId) with
        | some existing => refreshVariant env template existing
        | none => createVariantFromTemplate env template signal key variantId
      (generated.1 ++ [variant], generated.2.put variant)

/-- `generate_variants_from_signals`. -/
def generateVariantsFromSignals
    (env : SignalsEnv)
    (template : ProductRow)
    (signals : List Signal)
    (generated : Generated) : Generated :=
  signals.foldl (offerSignal env template) generated

/-- A template the generator looks at. -/
def ProductRow.activeTemplate
    (tenantId : String)
    (row : ProductRow) : Bool :=
  row.tenantId = tenantId && row.isDynamic && row.archivedAt.isNone

/-- The templates that ask the signals agents: no list means every agent. -/
def ProductRow.asksSignals
    (row : ProductRow) : Bool :=
  match row.signalsAgentIds with
  | none => true
  | some ids => ids ≠ []

/-- The templates that get variants: here no list means no agent. -/
def ProductRow.takesSignals
    (row : ProductRow) : Bool :=
  match row.signalsAgentIds with
  | none => false
  | some ids => ids ≠ []

/-- The signals a template takes, up to its limit. -/
def templateSignals
    (template : ProductRow)
    (signals : List Signal) : List Signal :=
  if template.takesSignals then signals.take template.maxSignals else []

/-- `generate_variants_for_brief`. -/
def generateVariantsForBrief
    (env : SignalsEnv)
    (brief : String)
    (catalogue : Catalogue) : Generated :=
  let templates := catalogue.rows.filter (ProductRow.activeTemplate env.tenantId)
  if templates.any ProductRow.asksSignals then
    match env.getSignals brief with
    | none => ([], catalogue)
    | some signals =>
        templates.foldl
          (fun generated template =>
            generateVariantsFromSignals env template (templateSignals template signals) generated)
          ([], catalogue)
  else
    ([], catalogue)

section Emptiness

variable {env : SignalsEnv}

theorem offerSignal_eq_nil
    (template : ProductRow)
    (generated : Generated)
    (signal : Signal) :
    (offerSignal env template generated signal).1 = [] ↔
      generated.1 = [] ∧ extractActivationKey signal env.ourAgentUrl = none := by
  cases h : extractActivationKey signal env.ourAgentUrl with
  | none =>
      simp [offerSignal, h]
  | some key =>
      simp [offerSignal, h]

theorem generateVariantsFromSignals_eq_nil
    (template : ProductRow)
    (signals : List Signal)
    (generated : Generated) :
    (generateVariantsFromSignals env template signals generated).1 = [] ↔
      generated.1 = [] ∧
        ∀ signal ∈ signals, extractActivationKey signal env.ourAgentUrl = none := by
  unfold generateVariantsFromSignals
  induction signals generalizing generated with
  | nil =>
      simp
  | cons signal signals ih =>
      rw [List.foldl_cons, ih, offerSignal_eq_nil, List.forall_mem_cons, and_assoc]

theorem generateForTemplates_eq_nil
    (signals : List Signal)
    (templates : List ProductRow)
    (generated : Generated) :
    (templates.foldl
        (fun generated template =>
          generateVariantsFromSignals env template (templateSignals template signals) generated)
        generated).1 = [] ↔
      generated.1 = [] ∧ ∀ template ∈ templates, ∀ signal ∈ templateSignals template signals,
        extractActivationKey signal env.ourAgentUrl = none := by
  induction templates generalizing generated with
  | nil =>
      simp
  | cons template templates ih =>
      rw [List.foldl_cons, ih, generateVariantsFromSignals_eq_nil, List.forall_mem_cons,
        and_assoc]

theorem generated_eq_nil_iff
    (brief : String)
    (catalogue : Catalogue) :
    (generateVariantsForBrief env brief catalogue).1 = [] ↔
      ∀ signals, env.getSignals brief = some signals →
        ∀ template ∈ catalogue, template.activeTemplate env.tenantId = true →
          ∀ signal ∈ templateSignals template signals,
            extractActivationKey signal env.ourAgentUrl = none := by
  unfold generateVariantsForBrief
  dsimp only
  cases hasks : (catalogue.rows.filter (ProductRow.activeTemplate env.tenantId)).any
      ProductRow.asksSignals with
  | false =>
      rw [if_neg Bool.false_ne_true]
      refine iff_of_true rfl (fun signals _ template hmem hactive signal hsignal => ?_)
      -- a template that asks no agent takes no signal either
      have hsilent : template.asksSignals = false := by
        have := List.any_eq_false.mp hasks template (List.mem_filter.mpr ⟨hmem, hactive⟩)
        simpa using this
      have htakes : template.takesSignals = false := by
        unfold ProductRow.asksSignals at hsilent
        unfold ProductRow.takesSignals
        cases hids : template.signalsAgentIds with
        | none => rfl
        | some ids => simpa [hids] using hsilent
      simp [templateSignals, htakes] at hsignal
  | true =>
      rw [if_pos rfl]
      cases hsignals : env.getSignals brief with
      | none =>
          simp
      | some signals =>
          dsimp only
          rw [generateForTemplates_eq_nil]
          simp [List.mem_filter, IndexedTable.mem_def]

/-- Catalogues with the same active templates agree on whether a brief gives variants. -/
theorem generated_isEmpty_congr
    {brief : String} {c₁ c₂ : Catalogue}
    (h : ∀ row, row.activeTemplate env.tenantId = true → (row ∈ c₁ ↔ row ∈ c₂)) :
    (generateVariantsForBrief env brief c₁).1.isEmpty =
      (generateVariantsForBrief env brief c₂).1.isEmpty := by
  rw [Bool.eq_iff_iff, List.isEmpty_iff, List.isEmpty_iff, generated_eq_nil_iff,
    generated_eq_nil_iff]
  constructor
  · intro hall signals hsignals template hmem hactive
    exact hall signals hsignals template ((h template hactive).mpr hmem) hactive
  · intro hall signals hsignals template hmem hactive
    exact hall signals hsignals template ((h template hactive).mp hmem) hactive

end Emptiness

end Products
end SalesAgent
