import SalesAgent.Lib.IndexedTable
import SalesAgent.MediaBuy.Store
import Mathlib.Data.List.Sort
import Mathlib.Data.String.Basic

/-!
# The product catalogue

A product is a row of `products` with its pricing options.  Buyers see it after a
conversion to the protocol's schema, which refuses rows without formats, without
prices or with prices that lack their terms.  The purchase tools read the row
itself.

A product with a non-empty `allowed_principal_ids` is meant for the principals of
that list.

**Results.**
* `listAll_visible`: the rows a caller may see, in order, are settled by what rows
  the caller may see.
* `convertAll_visible`: hidden rows that convert do not show in what the caller gets.
* `product_relabel`: the purchase tools read nothing of the access lists.
-/

namespace SalesAgent
namespace Products

open Idempotency (Json)
open MediaBuys (Decimal FormatId DeliveryType PricingModel)

/-- The percentiles of a price guidance; its floor is stored beside them. -/
structure PriceGuidance where
  p25 : Option Decimal := none
  p50 : Option Decimal := none
  p75 : Option Decimal := none
  p90 : Option Decimal := none
  deriving DecidableEq, Repr

/-- The parameters a pricing model asks for. -/
structure PricingParameters where
  eventType : Option String := none
  customEventName : Option String := none
  eventSourceId : Option String := none
  timeUnit : Option String := none
  minDuration : Option Int := none
  maxDuration : Option Int := none
  /-- the members only the schema reads -/
  type : Option String := none
  rest : String := ""
  deriving DecidableEq, Repr

/-- A row of `pricing_options`. -/
structure PricingRow extends MediaBuys.PricingOption where
  guidance : Option PriceGuidance := none
  parameters : Option PricingParameters := none
  deriving DecidableEq, Repr

/-- Whether `price_guidance` is stored. -/
def PricingRow.hasGuidance
    (row : PricingRow) : Bool :=
  row.guidance.isSome || row.floor.isSome

/-- A pricing option as buyers see it. -/
structure PricingOption where
  pricingOptionId : String
  pricingModel : PricingModel
  currency : String
  minSpendPerPackage : Option Decimal := none
  fixedPrice : Option Decimal := none
  floorPrice : Option Decimal := none
  priceGuidance : Option PriceGuidance := none
  parameters : Option PricingParameters := none
  deriving DecidableEq, Repr

/-- The event types and the time units the schema knows. -/
structure PricingVocabulary where
  eventTypes : List String
  timeUnits : List String

/-- The values Python reads as present: amounts other than zero. -/
def given?
    (amount : Option Decimal) : Option Decimal :=
  amount.filter (fun x => x ≠ 0)

section Pricing

variable (vocabulary : PricingVocabulary) (row : PricingRow)

/-- The fields every pricing option shares. -/
def commonFields : PricingOption where
  pricingOptionId := row.pricingOptionId
  pricingModel := row.pricingModel
  currency := row.currency
  minSpendPerPackage := given? row.minSpendPerPackage

/-- CPM, vCPM and CPC: a rate when fixed, a price guidance when sold by auction. -/
def fixedOrAuction : Option PricingOption :=
  if row.isFixed then
    (given? row.rate).map (fun rate => { commonFields row with fixedPrice := some rate })
  else if row.hasGuidance then
    some { commonFields row with floorPrice := row.floor, priceGuidance := row.guidance }
  else
    none

/-- CPCV: a rate and no parameters. -/
def costPerCompletedView : Option PricingOption :=
  (given? row.rate).bind (fun rate =>
    if row.parameters.isSome then none
    else some { commonFields row with fixedPrice := some rate })

/-- CPV: the rate is the price or the floor. -/
def costPerView : Option PricingOption :=
  (given? row.rate).map (fun rate =>
    if row.isFixed then
      { commonFields row with fixedPrice := some rate, parameters := row.parameters }
    else
      { commonFields row with floorPrice := some rate, parameters := row.parameters })

/-- CPP: a rate and its demographic parameters. -/
def costPerPoint : Option PricingOption :=
  (given? row.rate).bind (fun rate => row.parameters.map (fun parameters =>
    { commonFields row with fixedPrice := some rate, parameters := some parameters }))

/-- Flat rate: parameters without a type are those of digital out-of-home. -/
def flatRate : Option PricingOption :=
  (given? row.rate).map (fun rate =>
    { commonFields row with
      fixedPrice := some rate
      parameters := row.parameters.map (fun p =>
        { p with type := some (p.type.getD "dooh") }) })

/-- CPA: a rate and a known event type, with a name when it is a custom one. -/
def costPerAcquisition : Option PricingOption :=
  (given? row.rate).bind (fun rate => row.parameters.bind (fun parameters =>
    (parameters.eventType.filter (fun e => e ∈ vocabulary.eventTypes)).bind (fun event =>
      if event = "custom" ∧ parameters.customEventName.getD "" = "" then none
      else
        some
          { commonFields row with
            fixedPrice := some rate
            parameters := some
              { eventType := some event
                customEventName := if event = "custom" then parameters.customEventName else none
                eventSourceId := parameters.eventSourceId } })))

/-- Time-based: a known unit, durations in order, and a rate when fixed. -/
def timeBased : Option PricingOption :=
  row.parameters.bind (fun parameters =>
    (parameters.timeUnit.filter (fun u => u ∈ vocabulary.timeUnits)).bind (fun unit =>
      let time : PricingParameters :=
        { timeUnit := some unit
          minDuration := parameters.minDuration
          maxDuration := parameters.maxDuration }
      if parameters.minDuration.any (fun lo => parameters.maxDuration.any (fun hi => hi < lo)) then
        none
      else if row.isFixed then
        row.rate.map (fun rate =>
          { commonFields row with fixedPrice := some rate, parameters := some time })
      else
        some
          { commonFields row with
            floorPrice := row.floor
            priceGuidance := row.guidance
            parameters := some time }))

/-- `convert_pricing_option_to_adcp`; `none` where it raises a `ValueError`. -/
def convertPricingOptionToAdcp : Option PricingOption :=
  if row.pricingOptionId = "" then
    none
  else
    match row.pricingModel with
    | .cpm => fixedOrAuction row
    | .vcpm => fixedOrAuction row
    | .cpc => fixedOrAuction row
    | .cpcv => costPerCompletedView row
    | .cpv => costPerView row
    | .cpp => costPerPoint row
    | .flatRate => flatRate row
    | .cpa => costPerAcquisition vocabulary row
    | .time => timeBased vocabulary row

end Pricing

/-- Which properties of a publisher a product covers. -/
inductive Selection
  | all
  | byId (propertyIds : List String)
  | byTag (propertyTags : List String)
  deriving DecidableEq, Repr

/-- A publisher property, as buyers see it. -/
structure PublisherProperty where
  publisherDomain : String
  selection : Selection
  deriving DecidableEq, Repr

/-- A stored publisher property; older ones lack the selection type. -/
structure StoredProperty where
  publisherDomain : Option String := none
  selection : Option Selection := none
  propertyIds : List String := []
  propertyTags : List String := []
  deriving DecidableEq, Repr

/-- The pattern of property ids and tags, `^[a-z0-9_]+$`. -/
def isPropertyToken
    (s : String) : Bool :=
  s ≠ "" && s.toList.all (fun c => c.isLower || c.isDigit || c = '_')

/-- A stored property with its selection type. -/
def StoredProperty.normalized
    (p : StoredProperty) : PublisherProperty :=
  let domain := p.publisherDomain.getD "unknown"
  match p.selection with
  | some selection => ⟨domain, selection⟩
  | none =>
      match p.propertyIds.filter isPropertyToken, p.propertyTags.filter isPropertyToken with
      | id :: ids, _ => ⟨domain, .byId (id :: ids)⟩
      | [], tag :: tags => ⟨domain, .byTag (tag :: tags)⟩
      | [], [] => ⟨domain, .all⟩

/-- `ensure_selection_type`. -/
def ensureSelectionType
    (properties : List StoredProperty) : List PublisherProperty :=
  properties.map StoredProperty.normalized

/-- The inventory profile a product is sold from. -/
structure InventoryProfile where
  formatIds : List FormatId
  publisherProperties : List StoredProperty
  deriving DecidableEq, Repr

/-- The key under which an audience is activated. -/
inductive ActivationKey
  | keyValue (key value : String)
  | segmentId (segmentId : String)
  deriving DecidableEq, Repr

/-- A row of `products` with its pricing options. -/
structure ProductRow where
  tenantId : String
  productId : String
  name : String
  description : Option String := none
  formatIds : List FormatId
  deliveryType : DeliveryType
  pricingOptions : List PricingRow
  properties : List StoredProperty := []
  propertyIds : List String := []
  propertyTags : List String := []
  /-- the domain its inventory is published under -/
  publisherDomain : String := "unknown"
  inventoryProfile : Option InventoryProfile := none
  countries : List String := []
  channels : List String := []
  /-- `auto_create_enabled` of its `implementation_config` -/
  autoCreateEnabled : Option Bool := none
  /-- the `placement_id` of each placement it defines -/
  placements : List (Option String) := []
  propertyTargetingAllowed : Bool := false
  isDynamic : Bool := false
  isDynamicVariant : Bool := false
  parentProductId : Option String := none
  signalsAgentIds : Option (List String) := none
  variantNameTemplate : Option String := none
  variantDescriptionTemplate : Option String := none
  maxSignals : Nat := 5
  activationKey : Option ActivationKey := none
  lastSyncedAt : Option DateTime := none
  expiresAt : Option DateTime := none
  archivedAt : Option DateTime := none
  variantTtlDays : Option Int := none
  allowedPrincipalIds : Option (List String) := none
  /-- the columns that are copied to the schema as they are -/
  details : String := ""
  deriving DecidableEq, Repr

namespace ProductRow

/-- `effective_format_ids`. -/
def effectiveFormatIds
    (row : ProductRow) : List FormatId :=
  match row.inventoryProfile with
  | some profile => profile.formatIds
  | none => row.formatIds

/-- `effective_properties`. -/
def effectiveProperties
    (row : ProductRow) : List PublisherProperty :=
  match row.inventoryProfile with
  | some profile => ensureSelectionType profile.publisherProperties
  | none =>
      if row.properties ≠ [] then
        ensureSelectionType row.properties
      else if row.propertyIds ≠ [] then
        [⟨row.publisherDomain, .byId row.propertyIds⟩]
      else if row.propertyTags ≠ [] then
        [⟨row.publisherDomain, .byTag row.propertyTags⟩]
      else
        [⟨row.publisherDomain, .all⟩]

/-- The product as the purchase tools read it. -/
def toProduct
    (row : ProductRow) : MediaBuys.Product where
  productId := row.productId
  name := row.name
  deliveryType := row.deliveryType
  pricingOptions := row.pricingOptions.map PricingRow.toPricingOption
  formats := row.formatIds
  profileFormats := row.inventoryProfile.map InventoryProfile.formatIds
  placements := row.placements
  propertyTargetingAllowed := row.propertyTargetingAllowed
  autoCreateEnabled := row.autoCreateEnabled

/-- The same product with another access list. -/
def relabel
    (allowed : ProductRow → Option (List String))
    (row : ProductRow) : ProductRow :=
  { row with allowedPrincipalIds := allowed row }

end ProductRow

/-- The table `products`, keyed by tenant and product id. -/
abbrev Catalogue :=
  IndexedTable ProductRow (String × String) (fun row => some (row.tenantId, row.productId))

/-- What a purchase tool finds under a product id. -/
def Catalogue.product
    (catalogue : Catalogue)
    (tenantId productId : String) : Option MediaBuys.Product :=
  (catalogue.find (tenantId, productId)).map ProductRow.toProduct

/-- The same catalogue with other access lists. -/
def Catalogue.relabel
    (catalogue : Catalogue)
    (allowed : ProductRow → Option (List String)) : Catalogue :=
  catalogue.map (ProductRow.relabel allowed) (fun _ => rfl)

/-- The purchase tools find the same products whatever the access lists say. -/
theorem product_relabel
    (catalogue : Catalogue)
    (allowed : ProductRow → Option (List String)) :
    (catalogue.relabel allowed).product = catalogue.product := by
  funext tenantId productId
  have hfind : (catalogue.relabel allowed).find (tenantId, productId) =
      (catalogue.find (tenantId, productId)).map (ProductRow.relabel allowed) :=
    IndexedTable.find_map catalogue _ _ _
  rw [Catalogue.product, hfind, Option.map_map]
  rfl

/-- A product as buyers see it, with the fields kept for filtering. -/
structure Product where
  productId : String
  name : String
  description : Option String
  deliveryType : DeliveryType
  formatIds : List FormatId
  publisherProperties : List PublisherProperty
  pricingOptions : List PricingOption
  countries : List String
  channels : List String
  propertyTargetingAllowed : Bool
  expiresAt : Option DateTime
  /-- nothing in the conversion sets it -/
  estimatedExposures : Option Int := none
  allowedPrincipalIds : Option (List String)
  details : String
  deriving DecidableEq, Repr

/-- Why a row is not converted. -/
inductive ConversionError
  /-- an error that carries its own buyer-facing code -/
  | typed (error : MediaBuys.BuyerError)
  | other
  deriving DecidableEq, Repr

/-- What the conversion takes from the schema library. -/
structure Schema where
  vocabulary : PricingVocabulary
  /-- the channel names it knows -/
  mediaChannels : List String
  /-- what its validation of the converted product raises -/
  validate : Product → Option ConversionError

/-- `convert_product_model_to_schema`. -/
def convertProductModelToSchema
    (schema : Schema)
    (row : ProductRow) : Except ConversionError Product :=
  if row.effectiveFormatIds = [] then
    .error .other
  else if row.effectiveProperties = [] then
    .error .other
  else if row.pricingOptions = [] then
    .error .other
  else
    match row.pricingOptions.mapM (convertPricingOptionToAdcp schema.vocabulary) with
    | none => .error .other
    | some pricingOptions =>
        let product : Product :=
          { productId := row.productId
            name := row.name
            description := row.description
            deliveryType := row.deliveryType
            formatIds := row.effectiveFormatIds
            publisherProperties := row.effectiveProperties
            pricingOptions := pricingOptions
            countries := row.countries
            channels := row.channels.filter (fun c => c ∈ schema.mediaChannels)
            propertyTargetingAllowed := row.propertyTargetingAllowed
            expiresAt := row.expiresAt
            allowedPrincipalIds := row.allowedPrincipalIds
            details := row.details }
        match schema.validate product with
        | some error => .error error
        | none => .ok product

theorem converted_copies
    {schema : Schema} {row : ProductRow} {product : Product}
    (h : convertProductModelToSchema schema row = .ok product) :
    product.productId = row.productId ∧
      product.allowedPrincipalIds = row.allowedPrincipalIds := by
  unfold convertProductModelToSchema at h
  split_ifs at h
  split at h
  · cases h
  · dsimp only at h
    split at h
    · cases h
    · cases h
      exact ⟨rfl, rfl⟩

/-- Whether the caller may see a product with this access list. -/
def mayAccess
    (principalId : Option String)
    (allowed : Option (List String)) : Bool :=
  match principalId, allowed with
  | _, none => true
  | _, some [] => true
  | some principal, some ids => principal ∈ ids
  | none, some _ => false

theorem mem_of_mayAccess
    {principalId : Option String} {ids : List String}
    (h : mayAccess principalId (some ids) = true)
    (hids : ids ≠ []) :
    ∃ principal, principalId = some principal ∧ principal ∈ ids := by
  cases ids with
  | nil =>
      exact absurd rfl hids
  | cons id ids =>
      cases principalId with
      | none =>
          simp [mayAccess] at h
      | some principal =>
          exact ⟨principal, rfl, by simpa [mayAccess] using h⟩

/-- The rows of a tenant that the caller may see. -/
def ProductRow.visible
    (tenantId : String)
    (principalId : Option String)
    (row : ProductRow) : Bool :=
  row.tenantId = tenantId && mayAccess principalId row.allowedPrincipalIds

/-- `ProductRepository.list_all`: the rows of a tenant by product id. -/
def listAll
    (tenantId : String)
    (catalogue : Catalogue) : List ProductRow :=
  (catalogue.rows.filter (fun row => row.tenantId = tenantId)).insertionSort
    (fun row row' => row.productId ≤ row'.productId)

theorem mem_listAll
    {tenantId : String} {catalogue : Catalogue} {row : ProductRow} :
    row ∈ listAll tenantId catalogue ↔ row ∈ catalogue ∧ row.tenantId = tenantId := by
  simp [listAll, IndexedTable.mem_def]

theorem Catalogue.nodup
    (catalogue : Catalogue) :
    catalogue.rows.Nodup := by
  refine catalogue.unique.imp ?_
  rintro row _ h rfl
  exact h _ rfl rfl

theorem filter_listAll_congr
    {tenantId : String} {c₁ c₂ : Catalogue} {p : ProductRow → Bool}
    (h : ∀ row, p row = true → row.tenantId = tenantId → (row ∈ c₁ ↔ row ∈ c₂)) :
    (listAll tenantId c₁).filter p = (listAll tenantId c₂).filter p := by
  have hnodup : ∀ c : Catalogue, (listAll tenantId c).Nodup := fun c =>
    (List.perm_insertionSort _ _).nodup_iff.mpr (c.nodup.filter _)
  have hsorted : ∀ c : Catalogue, ((listAll tenantId c).filter p).Pairwise
      (fun row row' => row.productId ≤ row'.productId) := fun c =>
    (List.pairwise_insertionSort (fun row row' : ProductRow => row.productId ≤ row'.productId)
      _).sublist List.filter_sublist
  have hperm : ((listAll tenantId c₁).filter p).Perm ((listAll tenantId c₂).filter p) := by
    refine (List.perm_ext_iff_of_nodup ((hnodup c₁).filter _) ((hnodup c₂).filter _)).mpr ?_
    intro row
    simp only [List.mem_filter, mem_listAll]
    constructor
    · rintro ⟨⟨hmem, htenant⟩, hp⟩
      exact ⟨⟨(h row hp htenant).mp hmem, htenant⟩, hp⟩
    · rintro ⟨⟨hmem, htenant⟩, hp⟩
      exact ⟨⟨(h row hp htenant).mpr hmem, htenant⟩, hp⟩
  refine hperm.eq_of_pairwise ?_ (hsorted c₁) (hsorted c₂)
  intro row row' hrow hrow' hle hge
  obtain ⟨hmem, htenant⟩ := mem_listAll.mp (List.mem_of_mem_filter hrow)
  obtain ⟨hmem', htenant'⟩ := mem_listAll.mp
    (List.mem_of_mem_filter (hperm.mem_iff.mpr hrow'))
  have hkey : row'.productId = row.productId := le_antisymm hge hle
  exact c₁.eq_of_key_eq hmem hmem' rfl (by rw [hkey, htenant, htenant'])

/-- The rows a caller may see, in order, are settled by which rows those are. -/
theorem listAll_visible
    {tenantId : String} {principalId : Option String} {c₁ c₂ : Catalogue}
    (h : ∀ row, row.visible tenantId principalId = true → (row ∈ c₁ ↔ row ∈ c₂)) :
    (listAll tenantId c₁).filter (fun row => mayAccess principalId row.allowedPrincipalIds) =
      (listAll tenantId c₂).filter (fun row => mayAccess principalId row.allowedPrincipalIds) := by
  refine filter_listAll_congr (fun row hmay htenant => h row ?_)
  simp [ProductRow.visible, htenant, hmay]

/-- Where the rows a filter drops all convert, filtering before or after is the same. -/
theorem convertAll_visible
    {schema : Schema} {principalId : Option String} {rows : List ProductRow}
    (h : ∀ row ∈ rows, mayAccess principalId row.allowedPrincipalIds = false →
      ∃ product, convertProductModelToSchema schema row = .ok product) :
    (rows.mapM (convertProductModelToSchema schema)).map
        (List.filter (fun product => mayAccess principalId product.allowedPrincipalIds)) =
      (rows.filter (fun row => mayAccess principalId row.allowedPrincipalIds)).mapM
        (convertProductModelToSchema schema) := by
  induction rows with
  | nil =>
      rfl
  | cons row rows ih =>
      have ih' := ih (fun r hr => h r (List.mem_cons_of_mem row hr))
      rw [List.mapM_cons]
      cases hmay : mayAccess principalId row.allowedPrincipalIds with
      | false =>
          obtain ⟨product, hproduct⟩ := h row List.mem_cons_self hmay
          have hhidden : mayAccess principalId product.allowedPrincipalIds = false := by
            rw [(converted_copies hproduct).2, hmay]
          rw [List.filter_cons_of_neg (by simp [hmay]), ← ih', hproduct]
          cases rows.mapM (convertProductModelToSchema schema) with
          | error error =>
              rfl
          | ok products =>
              simp [Except.map, bind, Except.bind, pure, Except.pure, hhidden]
      | true =>
          rw [List.filter_cons_of_pos (by simpa using hmay), List.mapM_cons, ← ih']
          cases hproduct : convertProductModelToSchema schema row with
          | error error =>
              rfl
          | ok product =>
              have hshown : mayAccess principalId product.allowedPrincipalIds = true := by
                rw [(converted_copies hproduct).2, hmay]
              cases rows.mapM (convertProductModelToSchema schema) with
              | error error =>
                  rfl
              | ok products =>
                  simp [Except.map, bind, Except.bind, pure, Except.pure, hshown]

end Products
end SalesAgent
