import Mathlib.Data.List.Infix
import SalesAgent.Gam.Targeting
import SalesAgent.MediaBuy.Ordering

/-!
# Line items of the GAM adapter

`create_line_items` makes a line item of each package.  It takes the targeting that was built
for the package, the inventory and the caps of the product, a placeholder for each format, and a
price and a goal from the pricing terms.  The fields of a line item that are copied from the
configuration unread are left out.

**Results.**
* `linePrice_isOk_iff`, `placeholders_isOk_iff`: which packages can be priced and have formats the
  ad server takes.
* `buildLineItem_isOk_iff`: which packages a line item can be made of.
-/

namespace SalesAgent
namespace Gam

open Idempotency (Json)
open MediaBuys (Decimal DeliveryType FormatId PricedPackage PricingInfo PricingModel)
open Webhooks (truthy)

section Errors

/-- What the adapter raises. -/
inductive GamError
  /-- `AdCPCapabilityNotSupportedError` -/
  | capabilityNotSupported (details : Option CapabilityRefusalDetails)
  /-- `AdCPConfigurationError` -/
  | configuration (field : Option String)
  /-- `AdCPValidationError` -/
  | validation (field : Option String)
  | productUnavailable
  | formatNotFound
  | workflow
  | adapter
  | authorization
  | rateLimit
  | resourceNotFound
  | conflict
  | serviceUnavailable
  | internal
  | lineItem
  /-- any other exception -/
  | untyped

/-- The error of a translation that stops. -/
def TargetingRefusal.toError : TargetingRefusal → GamError
  | .capability details => .capabilityNotSupported (some details)
  | .configuration => .configuration none
  | .failure => .untyped

/-- `needle in text` -/
def isIn
    (needle text : String) : Bool :=
  decide (needle.toList <:+: text.toList)

/-- A value that the code indexes with or compares; a missing one raises. -/
def indexed
    {α : Type}
    (value : Option α) : Except GamError α :=
  match value with
  | some a => .ok a
  | none => .error .untyped

end Errors

section Pricing

/-- `GAMCostType` -/
inductive CostType
  | cpm
  | vcpm
  | cpc
  | cpd
  deriving DecidableEq, Repr

/-- `LineItemType` -/
inductive LineItemType
  | standard
  | sponsorship
  | network
  | pricePriority
  | bulk
  | house
  deriving DecidableEq, Repr

/-- `goalType` of a line item. -/
inductive GoalType
  | lifetime
  | daily
  | other (name : String)
  deriving DecidableEq, Repr

/-- `unitType` of a goal. -/
inductive UnitType
  | impressions
  | clicks
  | viewableImpressions
  | other (name : String)
  deriving DecidableEq, Repr

/-- `primaryGoal` -/
structure Goal where
  goalType : GoalType
  unitType : UnitType
  units : Int
  deriving DecidableEq, Repr

/-- The type, the price and the goal of a line item. -/
structure LinePrice where
  lineItemType : LineItemType
  priority : Nat
  costType : CostType
  currency : String
  costPerUnitMicro : Int
  goal : Goal
  deriving DecidableEq, Repr

/-- The text of a pricing model. -/
def pricingModelText : PricingModel → String
  | .cpm => "cpm"
  | .vcpm => "vcpm"
  | .cpc => "cpc"
  | .cpcv => "cpcv"
  | .cpv => "cpv"
  | .cpp => "cpp"
  | .flatRate => "flat_rate"
  | .cpa => "cpa"
  | .time => "time"

/-- `ADCP_TO_GAM_COST_TYPE` -/
def adcpToGamCostType : PricingModel → Option CostType
  | .cpm => some .cpm
  | .vcpm => some .vcpm
  | .cpc => some .cpc
  | .flatRate => some .cpd
  | _ => none

/-- `PricingCompatibility.get_gam_cost_type` -/
def getGamCostType
    (pricingModel : PricingModel) : Except GamError CostType :=
  match adcpToGamCostType pricingModel with
  | some costType => .ok costType
  | none => .error (.capabilityNotSupported
      (some ⟨"pricing_model", some (.str (pricingModelText pricingModel)), []⟩))

/-- `PricingCompatibility.select_line_item_type`, without an override. -/
def selectLineItemType
    (pricingModel : PricingModel)
    (isGuaranteed : Bool) : LineItemType :=
  match pricingModel with
  | .flatRate => .sponsorship
  | .vcpm => .standard
  | _ => if isGuaranteed then .standard else .pricePriority

/-- `PricingCompatibility.get_default_priority` -/
def getDefaultPriority : LineItemType → Nat
  | .sponsorship => 4
  | .standard => 8
  | .pricePriority => 12
  | .bulk => 12
  | .network => 16
  | .house => 16

/-- The days a price is divided by; a flight within a day has one. -/
def campaignDays
    (flightDays : Int) : Int :=
  max flightDays 1

/-- The units of the configured goal. -/
def configuredUnits
    (goalType : GoalType)
    (impressions flightDays : Int) : Int :=
  match goalType with
  | .daily => Decimal.truncate (Decimal.float ((impressions : Decimal) / campaignDays flightDays))
  | _ => impressions

/-- The goal of a line item. -/
def lineGoal
    (goalType : GoalType)
    (unitType : UnitType)
    (pricingModel : PricingModel)
    (lineItemType : LineItemType)
    (impressions flightDays : Int) : Goal where
  goalType :=
    match lineItemType with
    | .sponsorship => .daily
    | .standard => .lifetime
    | _ => goalType
  unitType :=
    match pricingModel with
    | .flatRate => .impressions
    | .cpc => .clicks
    | .vcpm => .viewableImpressions
    | _ => unitType
  -- the units are those of the configured goal, also where the type of the goal is replaced
  units :=
    match pricingModel with
    | .flatRate => 100
    | _ => configuredUnits goalType impressions flightDays

/-- The rate of a fixed price, or the bid of an auction. -/
def lineRate
    (packageId : String)
    (info : PricingInfo) : Except GamError Decimal :=
  if info.isFixed then
    match info.rate with
    | some rate => .ok rate
    | none => .error (.configuration none)
  else
    match info.bidPrice with
    | some bid => .ok bid
    | none => .error (.validation (some ("packages[" ++ packageId ++ "].bid_price")))

/-- `microAmount` of a price; a flat rate is spread over the days of the flight. -/
def costPerUnitMicro
    (pricingModel : PricingModel)
    (rate : Decimal)
    (flightDays : Int) : Int :=
  match pricingModel with
  | .flatRate =>
      Decimal.truncate
        (Decimal.float (Decimal.float (rate.float / campaignDays flightDays) * 1000000))
  | _ => Decimal.truncate (Decimal.float (rate.float * 1000000))

/-- The part of `create_line_items` that prices a package. -/
def linePrice
    (goalType : GoalType)
    (unitType : UnitType)
    (deliveryType : DeliveryType)
    (flightDays : Int)
    (pkg : PricedPackage) : Except GamError LinePrice := do
  let info ← match pkg.pricing with
    | some info => .ok info
    | none => .error (.configuration none)
  let rate ← lineRate pkg.packageId info
  let costType ← getGamCostType info.pricingModel
  let lineItemType := selectLineItemType info.pricingModel (deliveryType = .guaranteed)
  return {
    lineItemType := lineItemType
    priority := getDefaultPriority lineItemType
    costType := costType
    currency := info.currency
    costPerUnitMicro := costPerUnitMicro info.pricingModel rate flightDays
    goal := lineGoal goalType unitType info.pricingModel lineItemType pkg.impressions flightDays }

end Pricing

section Configuration

/-- A cap of an `implementation_config`, by its keys. -/
structure ConfiguredCap where
  maxImpressions : Option Int
  timeRange : Option Int
  timeUnit : Option String

/-- A placeholder of an `implementation_config`, by its keys. -/
structure ConfiguredPlaceholder where
  width : Option Int
  height : Option Int
  expectedCreativeCount : Int := 1
  isNative : Bool := false

/-- An entry of `placement_targeting`, by its keys. -/
structure PlacementRule where
  targetingName : Option String
  targeting : Json := .obj []

/-- An `implementation_config`. -/
structure ProductConfig where
  targetedAdUnitIds : List Json := []
  includeDescendants : Bool := true
  targetedPlacementIds : List Json := []
  customTargetingKeys : List (String × Json) := []
  supportedFormatTypes : List String := ["display", "video", "native"]
  creativePlaceholders : List ConfiguredPlaceholder := []
  primaryGoalType : GoalType := .lifetime
  primaryGoalUnitType : UnitType := .impressions
  frequencyCaps : List ConfiguredCap := []
  environmentType : String := "BROWSER"
  placementTargeting : List PlacementRule := []

/-- An entry of `products_map`. -/
structure OrderedProduct where
  productId : String
  deliveryType : DeliveryType
  config : ProductConfig

/-- What the targeting of a line item takes from the configuration; the caps are read later. -/
def ProductConfig.implConfig
    (config : ProductConfig) : ImplConfig where
  targetedAdUnitIds := config.targetedAdUnitIds
  includeDescendants := config.includeDescendants
  targetedPlacementIds := config.targetedPlacementIds
  customTargetingKeys := config.customTargetingKeys
  environmentType := config.environmentType

/-- A configured cap of a line item. -/
def ConfiguredCap.read
    (cap : ConfiguredCap) : Except GamError FrequencyCap := do
  return ⟨← indexed cap.maxImpressions, ← indexed cap.timeRange, ← indexed cap.timeUnit⟩

/-- An entry of `creativeTargetings`. -/
def PlacementRule.read
    (rule : PlacementRule) : Except GamError (String × Json) := do
  return (← indexed rule.targetingName, rule.targeting)

end Configuration

section Placeholders

/-- An entry of `creativePlaceholders`. -/
structure Placeholder where
  width : Int
  height : Int
  expectedCreativeCount : Int := 1
  creativeSizeType : Option String := none
  creativeTemplateId : Option Json := none

/-- `platform_config["gam"]["creative_placeholder"]` -/
structure PlaceholderConfig where
  creativeTemplateId : Option Json := none
  width : Option Int := none
  height : Option Int := none
  creativeSizeType : String := "PIXEL"

/-- A format as `get_format` finds it; a size is one of its requirements. -/
structure Format where
  formatId : String
  placeholder : Option PlaceholderConfig := none
  width : Option Int := none
  height : Option Int := none

/-- The sizes in the data of a creative: its own, and those of its assets. -/
structure CreativeData where
  width : Json := .null
  height : Json := .null
  assets : List (Option (Json × Json)) := []

/-- What line items are made of besides the packages and the products. -/
structure LineItemEnv where
  manager : TargetingManager
  /-- `get_format`, of a reference and a product id -/
  getFormat : FormatId → String → Except GamError Format
  /-- the row of a creative -/
  creative : String → Option CreativeData

/-- A placeholder of the configuration. -/
def ConfiguredPlaceholder.read
    (placeholder : ConfiguredPlaceholder) : Except GamError Placeholder := do
  let width ← indexed placeholder.width
  let height ← indexed placeholder.height
  return {
    width := width
    height := height
    expectedCreativeCount := placeholder.expectedCreativeCount
    creativeSizeType := some (if placeholder.isNative then "NATIVE" else "PIXEL") }

/-- The type of a format, from its id. -/
def formatType
    (formatId : String) : String :=
  if isIn "video" formatId then "video"
  else if isIn "native" formatId then "native"
  else if isIn "audio" formatId then "audio"
  else "display"

/-- A width and a height, neither missing nor zero. -/
def sizeOf
    (width height : Option Int) : Option (Int × Int) := do
  let w ← width.filter (· ≠ 0)
  let h ← height.filter (· ≠ 0)
  return (w, h)

/-- The number that digits write. -/
def numberOf
    (digits : List Char) : Nat :=
  digits.foldl (fun n digit => 10 * n + (digit.toNat - '0'.toNat)) 0

/-- `(\d+)x(\d+)` at the front of a text. -/
def dimensionsAt
    (text : List Char) : Option (Nat × Nat) :=
  match text.span Char.isDigit with
  | (d :: ds, 'x' :: rest) =>
      match rest.span Char.isDigit with
      | (e :: es, _) => some (numberOf (d :: ds), numberOf (e :: es))
      | ([], _) => none
  | _ => none

/-- The first dimensions that a text writes. -/
def dimensionsIn : List Char → Option (Nat × Nat)
  | [] => none
  | c :: text => dimensionsAt (c :: text) <|> dimensionsIn text

/-- The size of a format: as configured, as the reference says, or as its id is written. -/
def formatSize
    (f : FormatId)
    (configured : Option (Int × Int)) : Option (Int × Int) :=
  configured
    <|> sizeOf (f.width.map Int.ofNat) (f.height.map Int.ofNat)
    <|> (dimensionsIn f.id.toList).bind fun dims => sizeOf (some dims.1) (some dims.2)

/-- The placeholder of a format that the product supports. -/
def sizedPlaceholder
    (f : FormatId)
    (format : Format) : Except GamError Placeholder :=
  let configured := match format.placeholder with
    | some config => (sizeOf config.width config.height, config.creativeSizeType)
    | none => (sizeOf format.width format.height,
        if isIn "native" f.id.toLower then "NATIVE" else "PIXEL")
  match formatSize f configured.1 with
  | some (width, height) =>
      .ok { width := width, height := height, creativeSizeType := some configured.2 }
  | none => .error (.configuration none)

/-- A reference as the errors name it. -/
def formatDisplay
    (f : FormatId) : String :=
  if f.agentUrl = "" then f.id else f.agentUrl ++ "/" ++ f.id

/-- The placeholder of a requested format. -/
def formatPlaceholder
    (env : LineItemEnv)
    (config : ProductConfig)
    (productId : String)
    (f : FormatId) : Except GamError Placeholder := do
  let format ← env.getFormat f productId
  if formatType format.formatId ∉ config.supportedFormatTypes then
    .error (.capabilityNotSupported (some ⟨"format", some (.str (formatDisplay f)),
      config.supportedFormatTypes.insertionSort (· ≤ ·)⟩))
  else if formatType format.formatId = "audio" then
    .error (.capabilityNotSupported (some ⟨"format", some (.str (formatDisplay f)), []⟩))
  else
    match format.placeholder.bind (·.creativeTemplateId) with
    | some template => .ok { width := 1, height := 1, creativeTemplateId := some template }
    | none => sizedPlaceholder f format

/-- The first asset with both dimensions, or the last asset, has the size. -/
def assetSize : Json × Json → List (Option (Json × Json)) → Json × Json
  | size, [] => size
  | size, none :: assets => assetSize size assets
  | _, some size :: assets =>
      if truthy size.1 && truthy size.2 then size else assetSize size assets

/-- The size that the data of a creative gives. -/
def dataSize
    (data : CreativeData) : Json × Json :=
  if truthy data.width && truthy data.height then (data.width, data.height)
  else assetSize (data.width, data.height) data.assets

/-- The size of a creative, where its data has both dimensions. -/
def creativeSize
    (env : LineItemEnv)
    (data : CreativeData) : Except GamError (Option (Int × Int)) :=
  if truthy (dataSize data).1 && truthy (dataSize data).2 then do
    let width ← indexed (env.manager.values.int (dataSize data).1)
    let height ← indexed (env.manager.values.int (dataSize data).2)
    return some (width, height)
  else .ok none

/-- The placeholders of sizes. -/
def placeholdersOf
    (sizes : List (Int × Int)) : List Placeholder :=
  (sizes.insertionSort fun a b => a.1 < b.1 ∨ (a.1 = b.1 ∧ a.2 ≤ b.2)).map fun size =>
    { width := size.1, height := size.2, creativeSizeType := some "PIXEL" }

/-- The placeholders that creatives of some sizes fill. -/
def fitToCreatives
    (sizes : List (Int × Int))
    (placeholders : List Placeholder) : List Placeholder :=
  if sizes.isEmpty then placeholders
  else if placeholders.isEmpty then placeholdersOf sizes
  else
    let filled := placeholders.filter fun p =>
      (p.width = 1 && p.height = 1) || sizes.contains (p.width, p.height)
    if filled.isEmpty then placeholders else filled

/-- The placeholders of the configuration stand in where no format is requested. -/
def offeredPlaceholders
    (config : ProductConfig)
    (requested : List Placeholder) : Except GamError (List Placeholder) :=
  if requested.isEmpty then config.creativePlaceholders.mapM ConfiguredPlaceholder.read
  else .ok requested

/-- The creative placeholders of a line item. -/
def placeholders
    (env : LineItemEnv)
    (config : ProductConfig)
    (pkg : PricedPackage) : Except GamError (List Placeholder) := do
  let requested ← pkg.formatIds.mapM (formatPlaceholder env config pkg.productId)
  let offered ← offeredPlaceholders config requested
  let sizes ← (pkg.creativeIds.filterMap env.creative).mapM (creativeSize env)
  return fitToCreatives (sizes.filterMap id).dedup offered

end Placeholders

section LineItem

/-- A line item of a package. -/
structure OrderedLineItem extends LineItem where
  creativePlaceholders : List Placeholder
  price : LinePrice
  creativeTargetings : List (String × Json)

/-- `create_line_items`, up to the call of the ad server: the line item of one package. -/
def buildLineItem
    (env : LineItemEnv)
    (product : OrderedProduct)
    (targeting : GamTargeting)
    (cap : Option AdcpFrequencyCap)
    (flightDays : Int)
    (pkg : PricedPackage) : Except GamError OrderedLineItem := do
  let targeted ← (env.manager.lineItem product.config.implConfig targeting none).mapError
    TargetingRefusal.toError
  let creativePlaceholders ← placeholders env product.config pkg
  let price ← linePrice product.config.primaryGoalType product.config.primaryGoalUnitType
    product.deliveryType flightDays pkg
  let caps ← product.config.frequencyCaps.mapM ConfiguredCap.read
  let added ← indexed (buyerCaps cap)
  let rules ← product.config.placementTargeting.mapM PlacementRule.read
  return {
    toLineItem := { targeted with frequencyCaps := caps ++ added }
    creativePlaceholders := creativePlaceholders
    price := price
    creativeTargetings := rules }

end LineItem

section Readiness

variable {env : LineItemEnv}

theorem exists_bind_eq_ok
    {ε α β : Type}
    {x : Except ε α} {f : α → Except ε β} :
    (∃ b, (x >>= f) = .ok b) ↔ ∃ a, x = .ok a ∧ ∃ b, f a = .ok b := by
  constructor
  · rintro ⟨b, h⟩
    obtain ⟨a, ha, hf⟩ := bind_eq_ok.mp h
    exact ⟨a, ha, b, hf⟩
  · rintro ⟨a, ha, b, hf⟩
    exact ⟨b, bind_eq_ok.mpr ⟨a, ha, hf⟩⟩

theorem exists_indexed_eq_ok
    {α : Type}
    {value : Option α} :
    (∃ a, indexed value = .ok a) ↔ value ≠ none := by
  cases value with
  | none =>
      refine iff_of_false ?_ (fun h => h rfl)
      rintro ⟨a, ha⟩
      cases ha
  | some a => exact iff_of_true ⟨a, rfl⟩ (Option.some_ne_none a)

/-- The rate that a line item of the terms has. -/
def effectiveRate
    (info : PricingInfo) : Option Decimal :=
  if info.isFixed then info.rate else info.bidPrice

theorem lineRate_eq_ok
    {packageId : String} {info : PricingInfo} {rate : Decimal} :
    lineRate packageId info = .ok rate ↔ effectiveRate info = some rate := by
  rw [lineRate, effectiveRate]
  cases info.isFixed with
  | true =>
      cases info.rate with
      | none => exact iff_of_false (fun h => by cases h) (fun h => by cases h)
      | some r => simp
  | false =>
      cases info.bidPrice with
      | none => exact iff_of_false (fun h => by cases h) (fun h => by cases h)
      | some r => simp

theorem getGamCostType_eq_ok
    {pricingModel : PricingModel} {costType : CostType} :
    getGamCostType pricingModel = .ok costType ↔
      adcpToGamCostType pricingModel = some costType := by
  rw [getGamCostType]
  cases adcpToGamCostType pricingModel with
  | none => exact iff_of_false (fun h => by cases h) (fun h => by cases h)
  | some c => simp

theorem linePrice_eq_ok
    {goalType : GoalType} {unitType : UnitType} {deliveryType : DeliveryType} {flightDays : Int}
    {pkg : PricedPackage} {price : LinePrice} :
    linePrice goalType unitType deliveryType flightDays pkg = .ok price ↔
      ∃ info rate costType, pkg.pricing = some info ∧ effectiveRate info = some rate
        ∧ adcpToGamCostType info.pricingModel = some costType
        ∧ price =
          { lineItemType :=
              selectLineItemType info.pricingModel (deliveryType = .guaranteed)
            priority :=
              getDefaultPriority
                (selectLineItemType info.pricingModel (deliveryType = .guaranteed))
            costType := costType
            currency := info.currency
            costPerUnitMicro := costPerUnitMicro info.pricingModel rate flightDays
            goal := lineGoal goalType unitType info.pricingModel
              (selectLineItemType info.pricingModel (deliveryType = .guaranteed))
              pkg.impressions flightDays } := by
  rw [linePrice]
  cases pkg.pricing with
  | none =>
      refine iff_of_false (fun h => by cases h) ?_
      rintro ⟨info, rate, costType, h, -⟩
      cases h
  | some info =>
      constructor
      · intro h
        obtain ⟨info', hinfo, h⟩ := bind_eq_ok.mp h
        cases hinfo
        obtain ⟨rate, hrate, h⟩ := bind_eq_ok.mp h
        obtain ⟨costType, hcost, h⟩ := bind_eq_ok.mp h
        cases h
        exact ⟨info, rate, costType, rfl, lineRate_eq_ok.mp hrate,
          getGamCostType_eq_ok.mp hcost, rfl⟩
      · rintro ⟨info', rate, costType, hinfo, hrate, hcost, rfl⟩
        cases hinfo
        exact bind_eq_ok.mpr ⟨info, rfl, bind_eq_ok.mpr ⟨rate, lineRate_eq_ok.mpr hrate,
          bind_eq_ok.mpr ⟨costType, getGamCostType_eq_ok.mpr hcost, rfl⟩⟩⟩

/-- The pricing terms say at what rate, and the ad server has the pricing model. -/
def Priced
    (pkg : PricedPackage) : Prop :=
  ∃ info, pkg.pricing = some info ∧ effectiveRate info ≠ none
    ∧ info.pricingModel ∈ [PricingModel.cpm, .vcpm, .cpc, .flatRate]

theorem adcpToGamCostType_isSome_iff
    {pricingModel : PricingModel} :
    (∃ costType, adcpToGamCostType pricingModel = some costType) ↔
      pricingModel ∈ [PricingModel.cpm, .vcpm, .cpc, .flatRate] := by
  cases pricingModel <;> simp [adcpToGamCostType]

theorem linePrice_isOk_iff
    {goalType : GoalType} {unitType : UnitType} {deliveryType : DeliveryType} {flightDays : Int}
    {pkg : PricedPackage} :
    (∃ price, linePrice goalType unitType deliveryType flightDays pkg = .ok price) ↔
      Priced pkg := by
  constructor
  · rintro ⟨price, h⟩
    obtain ⟨info, rate, costType, hinfo, hrate, hcost, -⟩ := linePrice_eq_ok.mp h
    exact ⟨info, hinfo, by rw [hrate]; exact Option.some_ne_none rate,
      adcpToGamCostType_isSome_iff.mp ⟨costType, hcost⟩⟩
  · rintro ⟨info, hinfo, hrate, hmodel⟩
    obtain ⟨rate, hrate⟩ := Option.ne_none_iff_exists'.mp hrate
    obtain ⟨costType, hcost⟩ := adcpToGamCostType_isSome_iff.mpr hmodel
    exact ⟨_, linePrice_eq_ok.mpr ⟨info, rate, costType, hinfo, hrate, hcost, rfl⟩⟩

/-- A format that is found, of a type that the product supports, with a template or a size. -/
def FormatTaken
    (env : LineItemEnv)
    (config : ProductConfig)
    (productId : String)
    (f : FormatId) : Prop :=
  ∃ format, env.getFormat f productId = .ok format
    ∧ formatType format.formatId ∈ config.supportedFormatTypes
    ∧ formatType format.formatId ≠ "audio"
    ∧ (format.placeholder.bind (·.creativeTemplateId) ≠ none
      ∨ formatSize f (match format.placeholder with
        | some config => sizeOf config.width config.height
        | none => sizeOf format.width format.height) ≠ none)

theorem sizedPlaceholder_isOk_iff
    {f : FormatId} {format : Format} :
    (∃ p, sizedPlaceholder f format = .ok p) ↔
      formatSize f (match format.placeholder with
        | some config => sizeOf config.width config.height
        | none => sizeOf format.width format.height) ≠ none := by
  unfold sizedPlaceholder
  cases format.placeholder with
  | none =>
      dsimp only
      cases formatSize f (sizeOf format.width format.height) with
      | none => exact iff_of_false (fun ⟨_, h⟩ => by cases h) (fun h => h rfl)
      | some size => exact iff_of_true ⟨_, rfl⟩ (Option.some_ne_none size)
  | some config =>
      dsimp only
      cases formatSize f (sizeOf config.width config.height) with
      | none => exact iff_of_false (fun ⟨_, h⟩ => by cases h) (fun h => h rfl)
      | some size => exact iff_of_true ⟨_, rfl⟩ (Option.some_ne_none size)

theorem formatPlaceholder_isOk_iff
    {config : ProductConfig} {productId : String} {f : FormatId} :
    (∃ p, formatPlaceholder env config productId f = .ok p) ↔
      FormatTaken env config productId f := by
  rw [formatPlaceholder, exists_bind_eq_ok]
  refine exists_congr fun format => and_congr_right fun _ => ?_
  by_cases hsupported : formatType format.formatId ∈ config.supportedFormatTypes
  · rw [if_neg (not_not_intro hsupported)]
    by_cases haudio : formatType format.formatId = "audio"
    · rw [if_pos haudio]
      exact iff_of_false (fun ⟨_, h⟩ => by cases h) (fun h => h.2.1 haudio)
    · rw [if_neg haudio]
      cases htemplate : format.placeholder.bind (·.creativeTemplateId) with
      | some template =>
          exact iff_of_true ⟨_, rfl⟩ ⟨hsupported, haudio, .inl (Option.some_ne_none template)⟩
      | none =>
          dsimp only
          rw [sizedPlaceholder_isOk_iff]
          exact ⟨fun h => ⟨hsupported, haudio, .inr h⟩,
            fun h => h.2.2.resolve_left (fun h => h rfl)⟩
  · rw [if_pos hsupported]
    exact iff_of_false (fun ⟨_, h⟩ => by cases h) (fun h => hsupported h.1)

theorem ConfiguredPlaceholder.read_isOk_iff
    {placeholder : ConfiguredPlaceholder} :
    (∃ p, placeholder.read = .ok p) ↔ placeholder.width ≠ none ∧ placeholder.height ≠ none := by
  rw [ConfiguredPlaceholder.read, exists_bind_eq_ok]
  constructor
  · rintro ⟨width, hwidth, h⟩
    obtain ⟨height, hheight, -⟩ := exists_bind_eq_ok.mp h
    exact ⟨exists_indexed_eq_ok.mp ⟨width, hwidth⟩, exists_indexed_eq_ok.mp ⟨height, hheight⟩⟩
  · rintro ⟨hwidth, hheight⟩
    obtain ⟨width, hwidth⟩ := exists_indexed_eq_ok.mpr hwidth
    obtain ⟨height, hheight⟩ := exists_indexed_eq_ok.mpr hheight
    exact ⟨width, hwidth, exists_bind_eq_ok.mpr ⟨height, hheight, _, rfl⟩⟩

theorem ConfiguredCap.read_isOk_iff
    {cap : ConfiguredCap} :
    (∃ c, cap.read = .ok c) ↔
      cap.maxImpressions ≠ none ∧ cap.timeRange ≠ none ∧ cap.timeUnit ≠ none := by
  rw [ConfiguredCap.read, exists_bind_eq_ok]
  constructor
  · rintro ⟨a, ha, h⟩
    obtain ⟨b, hb, h⟩ := exists_bind_eq_ok.mp h
    obtain ⟨c, hc, -⟩ := exists_bind_eq_ok.mp h
    exact ⟨exists_indexed_eq_ok.mp ⟨a, ha⟩, exists_indexed_eq_ok.mp ⟨b, hb⟩,
      exists_indexed_eq_ok.mp ⟨c, hc⟩⟩
  · rintro ⟨ha, hb, hc⟩
    obtain ⟨a, ha⟩ := exists_indexed_eq_ok.mpr ha
    obtain ⟨b, hb⟩ := exists_indexed_eq_ok.mpr hb
    obtain ⟨c, hc⟩ := exists_indexed_eq_ok.mpr hc
    exact ⟨a, ha, exists_bind_eq_ok.mpr ⟨b, hb, exists_bind_eq_ok.mpr ⟨c, hc, _, rfl⟩⟩⟩

theorem PlacementRule.read_isOk_iff
    {rule : PlacementRule} :
    (∃ r, rule.read = .ok r) ↔ rule.targetingName ≠ none := by
  rw [PlacementRule.read, exists_bind_eq_ok]
  constructor
  · rintro ⟨name, hname, -⟩
    exact exists_indexed_eq_ok.mp ⟨name, hname⟩
  · intro h
    obtain ⟨name, hname⟩ := exists_indexed_eq_ok.mpr h
    exact ⟨name, hname, _, rfl⟩

/-- The dimensions in the data of a creative are numbers. -/
def Measured
    (env : LineItemEnv)
    (data : CreativeData) : Prop :=
  truthy (dataSize data).1 = true → truthy (dataSize data).2 = true →
    env.manager.values.int (dataSize data).1 ≠ none
      ∧ env.manager.values.int (dataSize data).2 ≠ none

theorem creativeSize_isOk_iff
    {data : CreativeData} :
    (∃ size, creativeSize env data = .ok size) ↔ Measured env data := by
  rw [creativeSize, Measured]
  by_cases hboth : (truthy (dataSize data).1 && truthy (dataSize data).2) = true
  · rw [if_pos hboth, exists_bind_eq_ok]
    obtain ⟨hwidth, hheight⟩ := Bool.and_eq_true_iff.mp hboth
    constructor
    · rintro ⟨width, hw, h⟩ - -
      obtain ⟨height, hh, -⟩ := exists_bind_eq_ok.mp h
      exact ⟨exists_indexed_eq_ok.mp ⟨width, hw⟩, exists_indexed_eq_ok.mp ⟨height, hh⟩⟩
    · intro h
      obtain ⟨hw, hh⟩ := h hwidth hheight
      obtain ⟨width, hw⟩ := exists_indexed_eq_ok.mpr hw
      obtain ⟨height, hh⟩ := exists_indexed_eq_ok.mpr hh
      exact ⟨width, hw, exists_bind_eq_ok.mpr ⟨height, hh, _, rfl⟩⟩
  · rw [if_neg hboth]
    exact iff_of_true ⟨none, rfl⟩
      (fun hwidth hheight => absurd (Bool.and_eq_true_iff.mpr ⟨hwidth, hheight⟩) hboth)

/-- The formats, the configured placeholders in their place and the creatives of a package can be
read. -/
structure PlaceholdersReady
    (env : LineItemEnv)
    (config : ProductConfig)
    (pkg : PricedPackage) : Prop where
  formats : ∀ f ∈ pkg.formatIds, FormatTaken env config pkg.productId f
  configured : pkg.formatIds = [] →
    ∀ p ∈ config.creativePlaceholders, p.width ≠ none ∧ p.height ≠ none
  creatives : ∀ data ∈ pkg.creativeIds.filterMap env.creative, Measured env data

theorem placeholders_isOk_iff
    {config : ProductConfig} {pkg : PricedPackage} :
    (∃ ps, placeholders env config pkg = .ok ps) ↔ PlaceholdersReady env config pkg := by
  rw [placeholders, exists_bind_eq_ok]
  constructor
  · rintro ⟨requested, hrequested, h⟩
    obtain ⟨offered, hoffered, h⟩ := exists_bind_eq_ok.mp h
    obtain ⟨sizes, hsizes, -⟩ := exists_bind_eq_ok.mp h
    refine ⟨fun f hf => ?_, fun hnone p hp => ?_, fun data hdata => ?_⟩
    · exact formatPlaceholder_isOk_iff.mp
        (Runs.exists_mapM_eq_ok_iff.mp ⟨requested, hrequested⟩ f hf)
    · rw [hnone] at hrequested
      cases hrequested
      exact ConfiguredPlaceholder.read_isOk_iff.mp
        (Runs.exists_mapM_eq_ok_iff.mp ⟨offered, hoffered⟩ p hp)
    · exact creativeSize_isOk_iff.mp (Runs.exists_mapM_eq_ok_iff.mp ⟨sizes, hsizes⟩ data hdata)
  · rintro ⟨hformats, hconfigured, hcreatives⟩
    obtain ⟨requested, hrequested⟩ := Runs.exists_mapM_eq_ok_iff.mpr
      (fun f hf => formatPlaceholder_isOk_iff.mpr (hformats f hf))
    obtain ⟨sizes, hsizes⟩ := Runs.exists_mapM_eq_ok_iff.mpr
      (fun data hdata => creativeSize_isOk_iff.mpr (hcreatives data hdata))
    refine ⟨requested, hrequested, exists_bind_eq_ok.mpr ?_⟩
    have hoffered : ∃ offered, offeredPlaceholders config requested = .ok offered := by
      cases hempty : requested with
      | cons p ps => exact ⟨_, rfl⟩
      | nil =>
          have hnone : pkg.formatIds = [] := by
            cases hids : pkg.formatIds with
            | nil => rfl
            | cons f fs =>
                rw [hids, hempty] at hrequested
                obtain ⟨b, rest, -, -, hcons⟩ := Runs.mapM_cons_eq_ok.mp hrequested
                cases hcons
          exact Runs.exists_mapM_eq_ok_iff.mpr
            (fun p hp => ConfiguredPlaceholder.read_isOk_iff.mpr (hconfigured hnone p hp))
    obtain ⟨offered, hoffered⟩ := hoffered
    exact ⟨offered, hoffered, exists_bind_eq_ok.mpr ⟨sizes, hsizes, _, rfl⟩⟩

/-- A cap of the buyer states its minutes. -/
def Timed
    (cap : Option AdcpFrequencyCap) : Prop :=
  ∀ stated ∈ cap, stated.suppressMinutes ≠ none

theorem buyerCaps_isOk_iff
    {cap : Option AdcpFrequencyCap} :
    (∃ added, indexed (buyerCaps cap) = .ok added) ↔ Timed cap := by
  rw [exists_indexed_eq_ok, Timed]
  cases cap with
  | none => exact iff_of_true (Option.some_ne_none _) (fun stated h => by cases h)
  | some stated =>
      rw [buyerCaps, Ne, Option.map_eq_none_iff]
      exact ⟨fun h => by rintro _ ⟨⟩; exact h, fun h => h stated rfl⟩

/-- A line item can be made of the package and the cap of its buyer. -/
structure LineReady
    (env : LineItemEnv)
    (product : OrderedProduct)
    (cap : Option AdcpFrequencyCap)
    (pkg : PricedPackage) : Prop where
  adUnits : ∀ id ∈ product.config.targetedAdUnitIds,
    env.manager.values.isDigit (env.manager.values.text id) = true
  inventory : product.config.targetedAdUnitIds ≠ [] ∨ product.config.targetedPlacementIds ≠ []
  placeholders : PlaceholdersReady env product.config pkg
  priced : Priced pkg
  caps : ∀ cap ∈ product.config.frequencyCaps,
    cap.maxImpressions ≠ none ∧ cap.timeRange ≠ none ∧ cap.timeUnit ≠ none
  buyer : Timed cap
  rules : ∀ rule ∈ product.config.placementTargeting, rule.targetingName ≠ none

theorem lineItem_isOk_iff
    {manager : TargetingManager} {config : ImplConfig} {targeting : GamTargeting} :
    (∃ item, (manager.lineItem config targeting none).mapError
        TargetingRefusal.toError = .ok item) ↔
      (∀ id ∈ config.targetedAdUnitIds,
        manager.values.isDigit (manager.values.text id) = true)
        ∧ (config.targetedAdUnitIds ≠ [] ∨ config.targetedPlacementIds ≠ []) := by
  rw [TargetingManager.lineItem]
  by_cases hdigits : (config.targetedAdUnitIds.any
      fun id => ! manager.values.isDigit (manager.values.text id)) = true
  · rw [if_pos hdigits]
    obtain ⟨id, hid, hnot⟩ := List.any_eq_true.mp hdigits
    refine iff_of_false ?_ (fun h => ?_)
    · rintro ⟨item, hitem⟩
      cases hitem
    · rw [h.1 id hid] at hnot
      cases hnot
  · rw [if_neg hdigits]
    have hall : ∀ id ∈ config.targetedAdUnitIds,
        manager.values.isDigit (manager.values.text id) = true := by
      simpa using hdigits
    by_cases hempty : (config.targetedAdUnitIds.isEmpty && config.targetedPlacementIds.isEmpty)
        = true
    · rw [if_pos hempty]
      obtain ⟨hunits, hplacements⟩ := Bool.and_eq_true_iff.mp hempty
      refine iff_of_false ?_ (fun h => ?_)
      · rintro ⟨item, hitem⟩
        cases hitem
      · exact h.2.elim (fun h => h (List.isEmpty_iff.mp hunits))
          (fun h => h (List.isEmpty_iff.mp hplacements))
    · rw [if_neg hempty]
      refine iff_of_true ⟨_, rfl⟩ ⟨hall, ?_⟩
      by_contra hneither
      obtain ⟨hunits, hplacements⟩ := not_or.mp hneither
      rw [not_not] at hunits hplacements
      exact hempty (by rw [hunits, hplacements]; rfl)

/-- Whatever its targeting, a line item is made of a package exactly if it is ready. -/
theorem buildLineItem_isOk_iff
    {product : OrderedProduct} {targeting : GamTargeting} {cap : Option AdcpFrequencyCap}
    {flightDays : Int} {pkg : PricedPackage} :
    (∃ item, buildLineItem env product targeting cap flightDays pkg = .ok item) ↔
      LineReady env product cap pkg := by
  rw [buildLineItem, exists_bind_eq_ok]
  constructor
  · rintro ⟨targeted, htargeted, h⟩
    obtain ⟨ps, hps, h⟩ := exists_bind_eq_ok.mp h
    obtain ⟨price, hprice, h⟩ := exists_bind_eq_ok.mp h
    obtain ⟨caps, hcaps, h⟩ := exists_bind_eq_ok.mp h
    obtain ⟨added, hadded, h⟩ := exists_bind_eq_ok.mp h
    obtain ⟨rules, hrules, -⟩ := exists_bind_eq_ok.mp h
    obtain ⟨hdigits, hinventory⟩ := lineItem_isOk_iff.mp ⟨targeted, htargeted⟩
    exact
      { adUnits := hdigits
        inventory := hinventory
        placeholders := placeholders_isOk_iff.mp ⟨ps, hps⟩
        priced := linePrice_isOk_iff.mp ⟨price, hprice⟩
        caps := fun cap hcap => ConfiguredCap.read_isOk_iff.mp
          (Runs.exists_mapM_eq_ok_iff.mp ⟨caps, hcaps⟩ cap hcap)
        buyer := buyerCaps_isOk_iff.mp ⟨added, hadded⟩
        rules := fun rule hrule => PlacementRule.read_isOk_iff.mp
          (Runs.exists_mapM_eq_ok_iff.mp ⟨rules, hrules⟩ rule hrule) }
  · intro h
    have htargeted : ∃ item, (env.manager.lineItem product.config.implConfig targeting
        none).mapError TargetingRefusal.toError = .ok item :=
      lineItem_isOk_iff.mpr ⟨h.adUnits, h.inventory⟩
    obtain ⟨targeted, htargeted⟩ := htargeted
    obtain ⟨ps, hps⟩ := placeholders_isOk_iff.mpr h.placeholders
    obtain ⟨price, hprice⟩ := linePrice_isOk_iff.mpr h.priced
    obtain ⟨caps, hcaps⟩ := Runs.exists_mapM_eq_ok_iff.mpr
      (fun cap hcap => ConfiguredCap.read_isOk_iff.mpr (h.caps cap hcap))
    obtain ⟨added, hadded⟩ := buyerCaps_isOk_iff.mpr h.buyer
    obtain ⟨rules, hrules⟩ := Runs.exists_mapM_eq_ok_iff.mpr
      (fun rule hrule => PlacementRule.read_isOk_iff.mpr (h.rules rule hrule))
    exact ⟨targeted, htargeted, exists_bind_eq_ok.mpr ⟨ps, hps, exists_bind_eq_ok.mpr
      ⟨price, hprice, exists_bind_eq_ok.mpr ⟨caps, hcaps, exists_bind_eq_ok.mpr
        ⟨added, hadded, exists_bind_eq_ok.mpr ⟨rules, hrules, _, rfl⟩⟩⟩⟩⟩⟩

theorem price_of_buildLineItem
    {product : OrderedProduct} {targeting : GamTargeting} {cap : Option AdcpFrequencyCap}
    {flightDays : Int} {pkg : PricedPackage} {item : OrderedLineItem}
    (h : buildLineItem env product targeting cap flightDays pkg = .ok item) :
    linePrice product.config.primaryGoalType product.config.primaryGoalUnitType
      product.deliveryType flightDays pkg = .ok item.price := by
  rw [buildLineItem] at h
  obtain ⟨targeted, -, h⟩ := bind_eq_ok.mp h
  obtain ⟨ps, -, h⟩ := bind_eq_ok.mp h
  obtain ⟨price, hprice, h⟩ := bind_eq_ok.mp h
  obtain ⟨caps, -, h⟩ := bind_eq_ok.mp h
  obtain ⟨added, -, h⟩ := bind_eq_ok.mp h
  obtain ⟨rules, -, h⟩ := bind_eq_ok.mp h
  cases h
  exact hprice

end Readiness

end Gam
end SalesAgent
