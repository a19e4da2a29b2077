import SalesAgent.MediaBuy.Create
import SalesAgent.Products.Variants

/-!
# The `get_products` tool

A request that passes the gates on its content and on policy is answered from the
tenant's catalogue: every row is converted, the products the caller may not see are
dropped, and what is left is narrowed by the property list, priced, filtered, ranked
and counted.  Between the property list and the prices, the brief may give dynamic
variants; the rows the generator hands back are detached from their session, so
converting any of them raises.

**Results.**
* `shown_of_answer`: what an answer shows is a row of the catalogue that the caller
  may see.
* `answer_congr`: hidden rows that convert, and that no brief turns into variants, do
  not show in the answer.
* `restricted_products`: both, with what the purchase tools make of access lists.
-/

namespace SalesAgent
namespace Products

open MediaBuys (Decimal FormatId DeliveryType PricingModel)

/-- The filters of a request. -/
structure ProductFilters where
  deliveryType : Option DeliveryType := none
  isFixedPrice : Option Bool := none
  /-- the `id` of each format reference -/
  formatIds : List String := []
  standardFormatsOnly : Bool := false
  countries : List String := []
  channels : List String := []
  minExposures : Option Int := none
  deriving DecidableEq, Repr

/-- A validated `get_products` request. -/
structure GetProductsRequest where
  brief : Option String := none
  /-- the domain of the brand -/
  brand : Option String := none
  filters : Option ProductFilters := none
  propertyList : Option String := none
  deriving DecidableEq, Repr

/-- What a request is answered with instead of products. -/
inductive GetProductsError
  | validation
  | permissionDenied
  | policyViolation (violatedRules : List String)
  | typed (error : MediaBuys.BuyerError)
  | internal
  deriving DecidableEq, Repr

/-- The answer to a request. -/
structure GetProductsResponse where
  products : List Product
  message : String
  deriving DecidableEq, Repr

/-- The tenant's policy on what a request must name. -/
inductive BrandManifestPolicy
  | requireAuth
  | requireBrand
  | isPublic
  deriving DecidableEq, Repr

/-- The verdict of the policy service on a brief. -/
inductive PolicyStatus
  | allowed
  | restricted
  | blocked
  deriving DecidableEq, Repr

/-- The verdict with the rules it names. -/
structure PolicyCheckResult where
  status : PolicyStatus
  restrictions : List String := []
  deriving DecidableEq, Repr

/-- Prices calculated from cached performance metrics. -/
structure DynamicPricing where
  currency : String := "USD"
  floorCpm : Option Decimal
  recommendedCpm : Option Decimal
  deriving DecidableEq, Repr

/-- What asking for a ranking gives. -/
inductive RankingAnswer
  /-- no key is configured -/
  | disabled
  /-- an exception after which the order is kept -/
  | unavailable
  /-- any other exception -/
  | failed
  | ranked (scores : List (String × Decimal))

/-- The tenant's settings and what the tool takes from outside. -/
structure GetProductsEnv where
  tenantId : String
  now : DateTime
  brandManifestPolicy : BrandManifestPolicy
  policyEnabled : Bool
  requireManualReview : Bool
  hasGeminiKey : Bool
  productRankingPrompt : Option String
  agentUrl : Option String
  /-- the channels the tenant's ad server reports -/
  adapterDefaultChannels : List String
  schema : Schema
  /-- `check_brief_compliance`; `none` when it raises -/
  checkBriefCompliance : String → String → Option PolicyCheckResult
  /-- `resolve_property_list` -/
  resolvePropertyList : String → Except GetProductsError (List String)
  getSignals : String → Option (List Signal)
  md5Hex : String → String
  pricingAvailable : Bool
  /-- `_calculate_product_pricing` with the exposures asked for; `none` when it raises -/
  calculateProductPricing : Product → Option Int → Option DynamicPricing
  /-- `rank_products_async` with the tenant's prompt and the brief -/
  rankProducts : String → String → List Product → RankingAnswer
  /-- `str.upper` and `str.lower` -/
  upper : String → String
  lower : String → String

/-- The parameters of the variant generator. -/
def GetProductsEnv.signals
    (env : GetProductsEnv) : SignalsEnv where
  tenantId := env.tenantId
  now := env.now
  ourAgentUrl := env.agentUrl
  getSignals := env.getSignals
  md5Hex := env.md5Hex

/-- A text that Python reads as present. -/
def text?
    (s : Option String) : Option String :=
  s.filter (fun t => t ≠ "")

section Gates

variable (env : GetProductsEnv) (req : GetProductsRequest)

/-- The brief, where none is empty. -/
def briefText : String :=
  (text? req.brief).getD ""

/-- The offering that the policy service is told. -/
def offering : Option String :=
  (text? req.brand).map (fun domain => "Brand at " ++ domain)

/-- The verdict on the brief; a check that raises lets the request pass. -/
def policyResult : Option PolicyCheckResult :=
  if env.policyEnabled ∧ env.hasGeminiKey then
    env.checkBriefCompliance (briefText req) ((offering req).getD "Generic product inquiry")
  else
    none

/-- What is checked before the catalogue is read. -/
def requestGate : Option GetProductsError :=
  if (text? req.brief).isNone ∧ req.brand.isNone ∧ req.filters.isNone then
    some .validation
  else if env.brandManifestPolicy = .requireBrand ∧ (offering req).isNone then
    some .permissionDenied
  else
    match policyResult env req with
    | none => none
    | some result =>
        if result.status = .blocked then
          some (.policyViolation [])
        else if result.status = .restricted ∧ env.requireManualReview then
          some (.policyViolation result.restrictions)
        else
          none

end Gates

/-- The error of a conversion, as the tool raises it. -/
def ConversionError.raised : ConversionError → GetProductsError
  | .typed error => .typed error
  | .other => .internal

/-- The catalogue, converted, without what the caller may not see. -/
def accessibleProducts
    (env : GetProductsEnv)
    (principalId : Option String)
    (catalogue : Catalogue) : Except GetProductsError (List Product) :=
  match (listAll env.tenantId catalogue).mapM (convertProductModelToSchema env.schema) with
  | .error error => .error error.raised
  | .ok products =>
      .ok (products.filter (fun product => mayAccess principalId product.allowedPrincipalIds))

/-- `extract_product_property_ids`; `none` means all properties. -/
def extractProductPropertyIds
    (properties : List PublisherProperty) : Option (List String) :=
  properties.foldr
    (fun property ids =>
      match property.selection with
      | .all => none
      | .byId propertyIds => ids.map (fun rest => propertyIds ++ rest)
      | .byTag _ => ids)
    (some [])

/-- `should_include_product_for_property_list`. -/
def shouldIncludeProductForPropertyList
    (allowedProperties : List String)
    (product : Product) : Bool :=
  match extractProductPropertyIds product.publisherProperties with
  | none => true
  | some ids =>
      if product.propertyTargetingAllowed then
        ids.any (fun id => id ∈ allowedProperties)
      else
        ids ≠ [] && ids.all (fun id => id ∈ allowedProperties)

/-- The products on the buyer's property list, where it sends one. -/
def listedProducts
    (env : GetProductsEnv)
    (req : GetProductsRequest)
    (products : List Product) : Except GetProductsError (List Product) :=
  match req.propertyList with
  | none => .ok products
  | some ref =>
      (env.resolvePropertyList ref).map (fun allowed =>
        products.filter (shouldIncludeProductForPropertyList allowed))

/-- Write calculated prices into a CPM option. -/
def PricingOption.withDynamicPricing
    (pricing : DynamicPricing)
    (option : PricingOption) : PricingOption :=
  let p75 := pricing.recommendedCpm.or (option.priceGuidance.bind PriceGuidance.p75)
  { option with
    floorPrice := pricing.floorCpm.or option.floorPrice
    priceGuidance :=
      match p75 with
      | some value => some { p75 := some value }
      | none => option.priceGuidance }

/-- Change the first CPM option, where there is one. -/
def updateFirstCpm
    (pricing : DynamicPricing) : List PricingOption → Option (List PricingOption)
  | [] => none
  | option :: options =>
      if option.pricingModel = .cpm then
        some (option.withDynamicPricing pricing :: options)
      else
        (updateFirstCpm pricing options).map (fun rest => option :: rest)

/-- `_update_pricing_options`. -/
def updatePricingOptions
    (product : Product)
    (pricing : DynamicPricing) : Product :=
  match updateFirstCpm pricing product.pricingOptions, pricing.floorCpm with
  | some options, _ =>
      if pricing.floorCpm.isNone ∧ pricing.recommendedCpm.isNone then product
      else { product with pricingOptions := options }
  | none, none => product
  | none, some floor =>
      { product with
        pricingOptions := product.pricingOptions ++
          [{ pricingOptionId := product.productId ++ "_dynamic_cpm"
             pricingModel := .cpm
             currency := pricing.currency
             floorPrice := some floor
             priceGuidance := pricing.recommendedCpm.map (fun value => { p75 := some value }) }] }

/-- `enrich_products_with_pricing`: a product whose prices cannot be calculated is kept. -/
def enrichProductsWithPricing
    (env : GetProductsEnv)
    (req : GetProductsRequest)
    (products : List Product) : List Product :=
  if env.pricingAvailable then
    products.map (fun product =>
      match env.calculateProductPricing product (req.filters.bind ProductFilters.minExposures) with
      | none => product
      | some pricing => updatePricingOptions product pricing)
  else
    products

section Filters

variable (env : GetProductsEnv) (filters : ProductFilters) (product : Product)

/-- Both kinds of price may be on one product. -/
def matchesFixedPrice : Bool :=
  match filters.isFixedPrice with
  | none => true
  | some true => product.pricingOptions.any (fun po => po.fixedPrice.isSome)
  | some false => product.pricingOptions.any (fun po => po.fixedPrice.isNone)

/-- Whether one of the formats asked for is supported. -/
def matchesFormats : Bool :=
  filters.formatIds = [] ||
    filters.formatIds.any (fun id => id ∈ product.formatIds.map FormatId.id)

/-- A format whose id starts like a standard one, or is empty. -/
def isStandardFormat
    (id : String) : Bool :=
  id = "" || ["display_", "video_", "audio_", "native_"].any (fun p => p.isPrefixOf id)

def matchesStandardFormats : Bool :=
  ! filters.standardFormatsOnly || product.formatIds.all (fun f => isStandardFormat f.id)

/-- A product without countries is available everywhere. -/
def matchesCountries : Bool :=
  filters.countries = [] || product.countries = [] ||
    filters.countries.any (fun c => env.upper c ∈ product.countries)

/-- `effective_channel_names`. -/
def effectiveChannelNames : List String :=
  if product.channels ≠ [] then product.channels.map env.lower
  else env.adapterDefaultChannels.map env.lower

/-- No effective channels is no basis to narrow. -/
def matchesChannels : Bool :=
  filters.channels = [] || effectiveChannelNames env product = [] ||
    filters.channels.any (fun c => env.lower c ∈ effectiveChannelNames env product)

/-- Whether a product passes the filters. -/
def matchesFilters : Bool :=
  filters.deliveryType.all (fun d => product.deliveryType = d) &&
    matchesFixedPrice filters product && matchesFormats filters product &&
    matchesStandardFormats filters product && matchesCountries env filters product &&
    matchesChannels env filters product

/-- Guaranteed products must be known to reach the exposures asked for. -/
def meetsExposures : Bool :=
  match filters.minExposures with
  | none => true
  | some wanted =>
      match product.deliveryType with
      | .guaranteed => product.estimatedExposures.any (fun n => wanted ≤ n)
      | .nonGuaranteed => true

end Filters

/-- `check_product_eligibility`. -/
def checkProductEligibility
    (result : PolicyCheckResult)
    (_product : Product) : Bool :=
  result.status ≠ .blocked

/-- The products that pass the filters, the policy and the exposures asked for. -/
def eligibleProducts
    (env : GetProductsEnv)
    (req : GetProductsRequest)
    (products : List Product) : List Product :=
  let filtered :=
    match req.filters with
    | none => products
    | some filters => products.filter (matchesFilters env filters)
  let eligible :=
    match policyResult env req with
    | none => filtered
    | some result => filtered.filter (checkProductEligibility result)
  match req.filters with
  | none => eligible
  | some filters => eligible.filter (meetsExposures filters)

/-- The relevance of a product; the last score given for an id counts. -/
def relevance
    (scores : List (String × Decimal))
    (product : Product) : Decimal :=
  match scores.reverse.find? (fun entry => entry.1 = product.productId) with
  | some entry => entry.2
  | none => 0

/-- The ranking, where the tenant has a prompt and there is something to rank. -/
def rankedProducts
    (env : GetProductsEnv)
    (req : GetProductsRequest)
    (products : List Product) : Except GetProductsError (List Product) :=
  match text? env.productRankingPrompt with
  | none => .ok products
  | some prompt =>
      if briefText req = "" ∨ products = [] then
        .ok products
      else
        match env.rankProducts prompt (briefText req) products with
        | .disabled => .ok products
        | .unavailable => .ok products
        | .failed => .error .internal
        | .ranked scores =>
            let sorted := products.mergeSort
              (fun p q => decide (relevance scores q ≤ relevance scores p))
            .ok (sorted.filter (fun p => decide ((1 : Decimal) / 10 ≤ relevance scores p)))

/-- Anonymous callers are shown no prices. -/
def hidePrices
    (principalId : Option String)
    (products : List Product) : List Product :=
  match principalId with
  | some _ => products
  | none => products.map (fun product => { product with pricingOptions := [] })

/-- `_products_message`. -/
def productsMessage
    (count : Nat)
    (anonymous : Bool) : String :=
  if count = 0 then
    "No products matched your requirements."
  else
    let base :=
      if count = 1 then "Found 1 product that matches your requirements."
      else "Found " ++ toString count ++ " products that match your requirements."
    if anonymous then
      base ++ " Please connect through an authorized buying agent for pricing data."
    else
      base

/-- What is done with the products a caller may see, once no variant is left to convert. -/
def answerFrom
    (env : GetProductsEnv)
    (principalId : Option String)
    (req : GetProductsRequest)
    (products : List Product) : Except GetProductsError GetProductsResponse :=
  (rankedProducts env req
      (eligibleProducts env req (enrichProductsWithPricing env req products))).map
    (fun shown =>
      { products := hidePrices principalId shown
        message := productsMessage shown.length principalId.isNone })

/-- `_get_products_impl`: its answer and the catalogue it leaves. -/
def getProducts
    (env : GetProductsEnv)
    (principalId : Option String)
    (req : GetProductsRequest)
    (catalogue : Catalogue) : Except GetProductsError GetProductsResponse × Catalogue :=
  match requestGate env req with
  | some error => (.error error, catalogue)
  | none =>
      match accessibleProducts env principalId catalogue with
      | .error error => (.error error, catalogue)
      | .ok accessible =>
          match listedProducts env req accessible with
          | .error error => (.error error, catalogue)
          | .ok listed =>
              let generated := generateVariantsForBrief env.signals (briefText req) catalogue
              if generated.1.isEmpty then
                (answerFrom env principalId req listed, generated.2)
              else
                -- the rows handed back are detached, so converting the first one raises
                (.error .internal, generated.2)

section Access

variable {env : GetProductsEnv} {principalId : Option String} {req : GetProductsRequest}

/-- Two products are one entry of the catalogue. -/
def SameEntry
    (shown product : Product) : Prop :=
  shown.productId = product.productId ∧
    shown.allowedPrincipalIds = product.allowedPrincipalIds

theorem SameEntry.trans
    {p q r : Product}
    (hpq : SameEntry p q)
    (hqr : SameEntry q r) :
    SameEntry p r :=
  ⟨hpq.1.trans hqr.1, hpq.2.trans hqr.2⟩

theorem row_of_accessible
    {catalogue : Catalogue} {accessible : List Product} {product : Product}
    (h : accessibleProducts env principalId catalogue = .ok accessible)
    (hmem : product ∈ accessible) :
    ∃ row ∈ catalogue, row.tenantId = env.tenantId ∧ row.productId = product.productId ∧
      row.allowedPrincipalIds = product.allowedPrincipalIds ∧
      mayAccess principalId row.allowedPrincipalIds = true := by
  unfold accessibleProducts at h
  split at h
  · cases h
  · next products hproducts =>
      cases h
      obtain ⟨hproduct, hmay⟩ := List.mem_filter.mp hmem
      obtain ⟨row, hrow, hconv⟩ := (Runs.mem_of_mapM_eq_ok hproducts product).mp hproduct
      obtain ⟨hcat, htenant⟩ := mem_listAll.mp hrow
      obtain ⟨hid, hallowed⟩ := converted_copies hconv
      exact ⟨row, hcat, htenant, hid.symm, hallowed.symm, by rw [← hallowed]; exact hmay⟩

theorem mem_of_listed
    {products listed : List Product} {product : Product}
    (h : listedProducts env req products = .ok listed)
    (hmem : product ∈ listed) :
    product ∈ products := by
  unfold listedProducts at h
  split at h
  · cases h
    exact hmem
  · next ref hlist =>
      cases hresolved : env.resolvePropertyList ref with
      | error error =>
          rw [hresolved] at h
          cases h
      | ok allowed =>
          rw [hresolved] at h
          cases h
          exact List.mem_of_mem_filter hmem

theorem updatePricingOptions_sameEntry
    (product : Product)
    (pricing : DynamicPricing) :
    SameEntry (updatePricingOptions product pricing) product := by
  unfold updatePricingOptions
  split
  · split_ifs
    · exact ⟨rfl, rfl⟩
    · exact ⟨rfl, rfl⟩
  · exact ⟨rfl, rfl⟩
  · exact ⟨rfl, rfl⟩

theorem sameEntry_of_enriched
    {products : List Product} {shown : Product}
    (hmem : shown ∈ enrichProductsWithPricing env req products) :
    ∃ product ∈ products, SameEntry shown product := by
  unfold enrichProductsWithPricing at hmem
  split_ifs at hmem
  · obtain ⟨product, hproduct, rfl⟩ := List.mem_map.mp hmem
    refine ⟨product, hproduct, ?_⟩
    split
    · exact ⟨rfl, rfl⟩
    · exact updatePricingOptions_sameEntry _ _
  · exact ⟨shown, hmem, rfl, rfl⟩

theorem mem_of_eligible
    {products : List Product} {product : Product}
    (hmem : product ∈ eligibleProducts env req products) :
    product ∈ products := by
  unfold eligibleProducts at hmem
  cases hfilters : req.filters with
  | none =>
      cases hpolicy : policyResult env req with
      | none =>
          simpa [hfilters, hpolicy] using hmem
      | some result =>
          rw [hfilters, hpolicy] at hmem
          exact List.mem_of_mem_filter hmem
  | some filters =>
      cases hpolicy : policyResult env req with
      | none =>
          rw [hfilters, hpolicy] at hmem
          exact List.mem_of_mem_filter (List.mem_of_mem_filter hmem)
      | some result =>
          rw [hfilters, hpolicy] at hmem
          exact List.mem_of_mem_filter
            (List.mem_of_mem_filter (List.mem_of_mem_filter hmem))

theorem mem_of_ranked
    {products ranked : List Product} {product : Product}
    (h : rankedProducts env req products = .ok ranked)
    (hmem : product ∈ ranked) :
    product ∈ products := by
  unfold rankedProducts at h
  split at h
  · cases h
    exact hmem
  · split_ifs at h
    · cases h
      exact hmem
    · split at h
      · cases h
        exact hmem
      · cases h
        exact hmem
      · cases h
      · cases h
        exact List.mem_mergeSort.mp (List.mem_of_mem_filter hmem)

theorem sameEntry_of_hidden
    {products : List Product} {shown : Product}
    (hmem : shown ∈ hidePrices principalId products) :
    ∃ product ∈ products, SameEntry shown product := by
  cases principalId with
  | some principal =>
      exact ⟨shown, hmem, rfl, rfl⟩
  | none =>
      obtain ⟨product, hproduct, rfl⟩ := List.mem_map.mp hmem
      exact ⟨product, hproduct, rfl, rfl⟩

theorem sameEntry_of_answerFrom
    {products : List Product} {response : GetProductsResponse} {shown : Product}
    (h : answerFrom env principalId req products = .ok response)
    (hmem : shown ∈ response.products) :
    ∃ product ∈ products, SameEntry shown product := by
  unfold answerFrom at h
  cases hranked : rankedProducts env req
      (eligibleProducts env req (enrichProductsWithPricing env req products)) with
  | error error =>
      rw [hranked] at h
      cases h
  | ok ranked =>
      rw [hranked] at h
      cases h
      obtain ⟨p, hp, hshown⟩ := sameEntry_of_hidden hmem
      obtain ⟨q, hq, hpq⟩ := sameEntry_of_enriched (mem_of_eligible (mem_of_ranked hranked hp))
      exact ⟨q, hq, hshown.trans hpq⟩

/-- What an answer shows is a row of the tenant's catalogue that the caller may see. -/
theorem shown_of_answer
    {catalogue : Catalogue} {response : GetProductsResponse} {shown : Product}
    (h : (getProducts env principalId req catalogue).1 = .ok response)
    (hmem : shown ∈ response.products) :
    ∃ row ∈ catalogue, row.tenantId = env.tenantId ∧ row.productId = shown.productId ∧
      row.allowedPrincipalIds = shown.allowedPrincipalIds ∧
      mayAccess principalId row.allowedPrincipalIds = true := by
  unfold getProducts at h
  split at h
  · cases h
  · split at h
    · cases h
    · next accessible haccessible =>
        split at h
        · cases h
        · next listed hlisted =>
            dsimp only at h
            split_ifs at h
            obtain ⟨product, hproduct, hid, hallowed⟩ := sameEntry_of_answerFrom h hmem
            obtain ⟨row, hrow, htenant, hrowId, hrowAllowed, hmay⟩ :=
              row_of_accessible haccessible (mem_of_listed hlisted hproduct)
            exact ⟨row, hrow, htenant, hrowId.trans hid.symm, hrowAllowed.trans hallowed.symm, hmay⟩

/-- A row that leaves no trace in the answers to callers who may not see it: it converts,
and no brief turns it into variants. -/
def Unnoticed
    (env : GetProductsEnv)
    (row : ProductRow) : Prop :=
  (∃ product, convertProductModelToSchema env.schema row = .ok product) ∧
    row.activeTemplate env.tenantId = false

/-- Two catalogues differ only in rows of the tenant that the caller may not see. -/
structure AlikeFor
    (env : GetProductsEnv)
    (principalId : Option String)
    (c₁ c₂ : Catalogue) : Prop where
  seen : ∀ row, row.visible env.tenantId principalId = true → (row ∈ c₁ ↔ row ∈ c₂)
  unseen : ∀ row, row ∈ c₁ ∨ row ∈ c₂ → row.tenantId = env.tenantId →
    mayAccess principalId row.allowedPrincipalIds = false → Unnoticed env row

theorem accessibleProducts_eq
    {catalogue : Catalogue}
    (h : ∀ row ∈ catalogue, row.tenantId = env.tenantId →
      mayAccess principalId row.allowedPrincipalIds = false → Unnoticed env row) :
    accessibleProducts env principalId catalogue =
      match ((listAll env.tenantId catalogue).filter
          (fun row => mayAccess principalId row.allowedPrincipalIds)).mapM
            (convertProductModelToSchema env.schema) with
      | .error error => .error error.raised
      | .ok products => .ok products := by
  have hconverts : ∀ row ∈ listAll env.tenantId catalogue,
      mayAccess principalId row.allowedPrincipalIds = false →
        ∃ product, convertProductModelToSchema env.schema row = .ok product := by
    intro row hrow hhidden
    obtain ⟨hmem, htenant⟩ := mem_listAll.mp hrow
    exact (h row hmem htenant hhidden).1
  rw [← convertAll_visible hconverts]
  unfold accessibleProducts
  cases (listAll env.tenantId catalogue).mapM (convertProductModelToSchema env.schema) with
  | error error => rfl
  | ok products => rfl

/-- A row of another tenant, or one that leaves no trace, is no template the brief finds. -/
theorem AlikeFor.templates
    {c₁ c₂ : Catalogue}
    (h : AlikeFor env principalId c₁ c₂)
    {row : ProductRow}
    (hactive : row.activeTemplate env.tenantId = true) :
    row ∈ c₁ ↔ row ∈ c₂ := by
  have htenant : row.tenantId = env.tenantId := by
    simp only [ProductRow.activeTemplate, Bool.and_eq_true, decide_eq_true_eq] at hactive
    exact hactive.1.1
  cases hmay : mayAccess principalId row.allowedPrincipalIds with
  | true =>
      exact h.seen row (by simp [ProductRow.visible, htenant, hmay])
  | false =>
      have hno : ¬ (row ∈ c₁ ∨ row ∈ c₂) := by
        intro hmem
        rw [(h.unseen row hmem htenant hmay).2] at hactive
        cases hactive
      exact iff_of_false (fun hmem => hno (.inl hmem)) (fun hmem => hno (.inr hmem))

/-- Catalogues that differ only in rows without trace give the same answer or error. -/
theorem answer_congr
    {c₁ c₂ : Catalogue}
    (h : AlikeFor env principalId c₁ c₂) :
    (getProducts env principalId req c₁).1 = (getProducts env principalId req c₂).1 := by
  have haccessible : accessibleProducts env principalId c₁ =
      accessibleProducts env principalId c₂ := by
    rw [accessibleProducts_eq (fun row hmem => h.unseen row (.inl hmem)),
      accessibleProducts_eq (fun row hmem => h.unseen row (.inr hmem)), listAll_visible h.seen]
  have hvariants : (generateVariantsForBrief env.signals (briefText req) c₁).1.isEmpty =
      (generateVariantsForBrief env.signals (briefText req) c₂).1.isEmpty :=
    generated_isEmpty_congr (fun row hactive => h.templates hactive)
  unfold getProducts
  rw [haccessible]
  cases requestGate env req with
  | some error => rfl
  | none =>
      cases accessibleProducts env principalId c₂ with
      | error error => rfl
      | ok accessible =>
          dsimp only
          cases listedProducts env req accessible with
          | error error => rfl
          | ok listed =>
              dsimp only
              rw [hvariants]
              cases (generateVariantsForBrief env.signals (briefText req) c₂).1.isEmpty with
              | false => rfl
              | true => rfl

end Access

section Purchase

open MediaBuys (CreateEnv UpdateEnv createMediaBuy updateMediaBuy)

/-- The create tool of a tenant, selling from a catalogue. -/
def selling
    (env : CreateEnv)
    (catalogue : Catalogue) : CreateEnv :=
  { env with product := catalogue.product env.tenantId }

/-- The update tool of a tenant, selling from a catalogue. -/
def reselling
    (env : UpdateEnv)
    (catalogue : Catalogue) : UpdateEnv :=
  { env with product := catalogue.product env.tenantId }

theorem selling_relabel
    (env : CreateEnv)
    (catalogue : Catalogue)
    (allowed : ProductRow → Option (List String)) :
    selling env (catalogue.relabel allowed) = selling env catalogue := by
  unfold selling
  rw [product_relabel]

theorem reselling_relabel
    (env : UpdateEnv)
    (catalogue : Catalogue)
    (allowed : ProductRow → Option (List String)) :
    reselling env (catalogue.relabel allowed) = reselling env catalogue := by
  unfold reselling
  rw [product_relabel]

/-- An access list settles who is shown a product in the catalogue, and hidden rows that
leave no trace do not change the answer.  Who may buy the product it does not settle. -/
theorem restricted_products
    (env : GetProductsEnv)
    (principalId : Option String)
    (req : GetProductsRequest) :
    (∀ catalogue response, (getProducts env principalId req catalogue).1 = .ok response →
      ∀ shown ∈ response.products, ∀ row ∈ catalogue,
        row.tenantId = env.tenantId → row.productId = shown.productId →
        ∀ ids, row.allowedPrincipalIds = some ids → ids ≠ [] →
          ∃ principal, principalId = some principal ∧ principal ∈ ids) ∧
    (∀ c₁ c₂, AlikeFor env principalId c₁ c₂ →
      (getProducts env principalId req c₁).1 = (getProducts env principalId req c₂).1) ∧
    (∀ catalogue allowed,
      (∀ createEnv createReq (store : MediaBuys.Store) (ids : MediaBuys.GeneratedIds store),
        createMediaBuy (selling createEnv (Catalogue.relabel catalogue allowed)) createReq ids =
          createMediaBuy (selling createEnv catalogue) createReq ids) ∧
      (∀ updateEnv updateReq store,
        updateMediaBuy (reselling updateEnv (Catalogue.relabel catalogue allowed)) updateReq store =
          updateMediaBuy (reselling updateEnv catalogue) updateReq store)) := by
  refine ⟨?_, fun c₁ c₂ h => answer_congr h, ?_⟩
  · intro catalogue response hresponse shown hshown row hrow htenant hid ids hids hne
    obtain ⟨row', hrow', htenant', hid', -, hmay⟩ := shown_of_answer hresponse hshown
    have hsame : row' = row :=
      catalogue.eq_of_key_eq hrow' hrow rfl (by rw [htenant, htenant', hid, hid'])
    rw [hsame, hids] at hmay
    exact mem_of_mayAccess hmay hne
  · intro catalogue allowed
    constructor
    · intro createEnv createReq store ids
      rw [selling_relabel]
    · intro updateEnv updateReq store
      rw [reselling_relabel]

end Purchase

section Samples

open MediaBuys (sampleFormat sampleCreateEnv sampleCreateRequest sampleIds createMediaBuy)

/-- A tenant without policy checks, whose signals agents offer one audience. -/
def sampleGetProductsEnv : GetProductsEnv where
  tenantId := "tenant"
  now := 1000000
  brandManifestPolicy := .isPublic
  policyEnabled := false
  requireManualReview := false
  hasGeminiKey := false
  productRankingPrompt := none
  agentUrl := none
  adapterDefaultChannels := []
  schema :=
    { vocabulary := ⟨[], []⟩
      mediaChannels := []
      validate := fun _ => none }
  checkBriefCompliance := fun _ _ => none
  resolvePropertyList := fun _ => .ok []
  getSignals := fun _ => some [{ deployments := [⟨none, true, some (.segmentId "seg_1")⟩] }]
  md5Hex := fun _ => "00000000"
  pricingAvailable := false
  calculateProductPricing := fun _ _ => none
  rankProducts := fun _ _ _ => .disabled
  upper := id
  lower := id

/-- A product of a fixed price for one principal only. -/
def restrictedRow : ProductRow where
  tenantId := "tenant"
  productId := "prod_1"
  name := "Homepage"
  formatIds := [sampleFormat]
  deliveryType := .guaranteed
  pricingOptions :=
    [{ pricingOptionId := "cpm_usd_fixed"
       pricingModel := .cpm
       currency := "USD"
       isFixed := true
       rate := some 10
       floor := none
       minSpendPerPackage := none }]
  autoCreateEnabled := some true
  allowedPrincipalIds := some ["buyer_1"]

/-- A catalogue of one product. -/
def Catalogue.single
    (row : ProductRow) : Catalogue where
  rows := [row]
  unique := List.pairwise_singleton _ _

theorem seen_single
    {tenantId : String} {principalId : Option String} {hidden : ProductRow}
    (h : hidden.visible tenantId principalId = false)
    (row : ProductRow)
    (hrow : row.visible tenantId principalId = true) :
    row ∈ Catalogue.single hidden ↔ row ∈ (IndexedTable.empty : Catalogue) := by
  refine iff_of_false ?_ (IndexedTable.not_mem_empty row)
  intro hmem
  rw [List.mem_singleton.mp hmem, h] at hrow
  cases hrow

/-- The sample product is shown to its principal, and leaves the answer to another one as
an empty catalogue does. -/
theorem restricted_products_sample :
    (∃ principal, some "buyer_1" = some principal ∧ principal ∈ ["buyer_1"]) ∧
      (getProducts sampleGetProductsEnv (some "buyer_2") { brief := some "shoes" }
          (Catalogue.single restrictedRow)).1 =
        (getProducts sampleGetProductsEnv (some "buyer_2") { brief := some "shoes" }
          IndexedTable.empty).1 := by
  constructor
  · have hshown : ((getProducts sampleGetProductsEnv (some "buyer_1") { brief := some "shoes" }
        (Catalogue.single restrictedRow)).1.map
          (fun r => r.products.map Product.productId)) = .ok ["prod_1"] := by
      decide +kernel
    cases hresponse : (getProducts sampleGetProductsEnv (some "buyer_1") { brief := some "shoes" }
        (Catalogue.single restrictedRow)).1 with
    | error error =>
        rw [hresponse] at hshown
        cases hshown
    | ok response =>
        rw [hresponse] at hshown
        have hids : response.products.map Product.productId = ["prod_1"] := by
          injection hshown
        obtain ⟨shown, hshown, hid⟩ := List.mem_map.mp
          (hids ▸ List.mem_singleton_self "prod_1" :
            "prod_1" ∈ response.products.map Product.productId)
        exact (restricted_products sampleGetProductsEnv (some "buyer_1")
          { brief := some "shoes" }).1 _ response hresponse shown hshown restrictedRow
            (List.mem_singleton_self _) rfl hid.symm _ rfl (List.cons_ne_nil _ _)
  · refine (restricted_products sampleGetProductsEnv (some "buyer_2")
      { brief := some "shoes" }).2.1 _ _ ⟨seen_single (by decide +kernel), ?_⟩
    intro row hmem htenant hhidden
    rcases hmem with hmem | hmem
    · rw [List.mem_singleton.mp hmem]
      have hconverts : (convertProductModelToSchema sampleGetProductsEnv.schema
          restrictedRow).isOk = true := by decide +kernel
      refine ⟨?_, by decide +kernel⟩
      cases hconv : convertProductModelToSchema sampleGetProductsEnv.schema restrictedRow with
      | error error =>
          rw [hconv] at hconverts
          cases hconverts
      | ok product =>
          exact ⟨product, rfl⟩
    · exact absurd hmem (IndexedTable.not_mem_empty row)

/-- The same product without a price. -/
def unpricedRow : ProductRow :=
  { restrictedRow with pricingOptions := [] }

/-- The same product as a template for audiences. -/
def templateRow : ProductRow :=
  { restrictedRow with isDynamic := true, signalsAgentIds := some ["signals_1"] }

/-- The variant of the template, once a price is added to it. -/
def pricedVariant : ProductRow :=
  { createVariantFromTemplate sampleGetProductsEnv.signals templateRow {}
      (.segmentId "seg_1") "prod_1__variant_00000000" with
    pricingOptions := restrictedRow.pricingOptions }

/-- Counterexample: a hidden row that does not convert turns the answer to another caller
into an error, and another principal's create commits the budget to a restricted product. -/
theorem restricted_products_leak :
    (∀ row, row.visible "tenant" (some "buyer_2") = true →
      (row ∈ Catalogue.single unpricedRow ↔ row ∈ (IndexedTable.empty : Catalogue))) ∧
    (getProducts sampleGetProductsEnv (some "buyer_2") { brief := some "shoes" }
        (Catalogue.single unpricedRow)).1 = .error .internal ∧
    (getProducts sampleGetProductsEnv (some "buyer_2") { brief := some "shoes" }
        IndexedTable.empty).1 = .ok ⟨[], "No products matched your requirements."⟩ ∧
    (createMediaBuy (selling (sampleCreateEnv false true) (Catalogue.single restrictedRow))
      sampleCreateRequest sampleIds).reply = .completed "order_1" 1 :=
  ⟨seen_single (by decide +kernel), by decide +kernel, by decide +kernel, by decide +kernel⟩

/-- Two slips besides: a hidden template fails the call, and its variant is shown to a caller
that the list of the template does not name. -/
theorem templates_leak :
    (getProducts sampleGetProductsEnv (some "buyer_2") { brief := some "shoes" }
        (Catalogue.single templateRow)).1 = .error .internal ∧
    pricedVariant.parentProductId = some "prod_1" ∧
    ((getProducts sampleGetProductsEnv (some "buyer_2") { brief := some "shoes" }
      (Catalogue.single pricedVariant)).1.map (fun r => r.products.map Product.productId)) =
        .ok ["prod_1__variant_00000000"] := by
  decide +kernel

end Samples

end Products
end SalesAgent
