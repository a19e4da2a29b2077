import SalesAgent.MediaBuy.Financial

/-!
# The packages an ad server is asked to order

An adapter is handed the packages of a buy with the pricing terms of each.  A buy
that is created at once has them built from its request; a buy that waited for
approval has them built again from its stored packages.

The catalogue converts a product before the first of the two reads it, and reads
the formats of its inventory profile.  The second reads the stored product.

**Results.**
* `directCpm_eq`: the price basis of a buy that is created at once.
* `rebuildFormats_ok`: which formats a rebuilt package has.
* `rebuildPackage_eq_ok`: what else it has of its row and its product.
-/

namespace SalesAgent
namespace MediaBuys

/-- A package an adapter is asked to order, with its pricing terms. -/
structure PricedPackage where
  packageId : String
  name : String
  deliveryType : DeliveryType
  cpm : Decimal
  impressions : Int
  formatIds : List FormatId
  targetingOverlay : Option Targeting
  productId : String
  budget : Option Decimal
  creativeIds : List String
  pricing : Option PricingInfo

/-- A package of the adapter's answer; no adapter answers with a budget. -/
structure AdapterPackage where
  packageId : String
  productId : Option String
  paused : Bool
  deriving DecidableEq, Repr

/-- `AdapterCreateResult`. -/
structure AdapterCreateResult where
  mediaBuyId : String
  packages : List AdapterPackage
  deriving DecidableEq, Repr

section Direct

/-- A pricing option as the catalogue converts it. -/
structure ConvertedOption where
  pricingOptionId : String
  pricingModel : PricingModel
  currency : String
  fixedPrice : Option Decimal
  floorPrice : Option Decimal
  deriving DecidableEq, Repr

/-- `convert_pricing_option_to_adcp`. -/
def PricingOption.convert
    (o : PricingOption) : ConvertedOption where
  pricingOptionId := o.pricingOptionId
  pricingModel := o.pricingModel
  currency := o.currency
  fixedPrice := if o.isFixed then o.rate else none
  floorPrice := if o.isFixed then none else o.floor

/-- `getattr(option, "rate", None)`: no converted option has an attribute of that name. -/
def ConvertedOption.rate
    (_ : ConvertedOption) : Option Decimal :=
  none

/-- The price basis of a buy that is created at once. -/
def directCpm
    (product : Product) : Decimal :=
  match (product.pricingOptions.map PricingOption.convert).head? with
  | none => 10
  | some first => (CurrencyLimit.truthy first.rate).getD 10

/-- The dimensions of the last format of the product with the identity. -/
def productDimensions
    (product : Product)
    (identity : FormatIdentity) : Option FormatId :=
  product.effectiveFormats.reverse.find? (fun f => f.identity = some identity)

/-- A requested format without dimensions takes those of the product. -/
def mergeDimensions
    (product : Product)
    (requested : FormatId) : FormatId :=
  if requested.width.isSome && requested.height.isSome then requested
  else match requested.identity.bind (productDimensions product) with
    | none => requested
    | some f =>
        if f.width.isSome || f.height.isSome then
          { requested with
            width := f.width
            height := f.height
            durationMs := f.durationMs <|> requested.durationMs }
        else requested

/-- The formats of a buy that is created at once. -/
def directFormats
    (product : Product)
    (requested : List FormatId) : List FormatId :=
  if requested.isEmpty then product.effectiveFormats
  else requested.map (mergeDimensions product)

/-- Whatever the product charges, the price basis is the default. -/
theorem directCpm_eq
    (product : Product) :
    directCpm product = 10 := by
  unfold directCpm
  cases product.pricingOptions with
  | nil => rfl
  | cons first rest => rfl

end Direct

/-- `pricing_info_for`; a rate or a bid of zero counts as none. -/
def pricingInfoFor
    (option : PricingOption)
    (bidPrice : Option Decimal) : PricingInfo where
  pricingModel := option.pricingModel
  rate := CurrencyLimit.truthy option.rate
  currency := option.currency
  isFixed := option.isFixed
  bidPrice := CurrencyLimit.truthy bidPrice

section Rebuild

/-- What the rebuilding of packages reads besides the rows. -/
structure RebuildEnv where
  product : String → Option Product
  /-- validates a stored overlay; `some none` is an empty document -/
  readOverlay : Targeting → Option (Option Targeting)

/-- Why a package cannot be rebuilt. -/
inductive RebuildError
  | missingProductId
  | productNotFound
  | noPricingOptions
  | corruptOverlay
  | missingPackageId
  | formatNotHttp
  | noFormats
  | noPackages
  deriving DecidableEq, Repr

/-- `agent_url` is an `http://` or `https://` URL. -/
def isHttpUrl
    (url : String) : Bool :=
  "http://".toList.isPrefixOf url.toList || "https://".toList.isPrefixOf url.toList

/-- The price basis of a rebuilt package: the rate of the first option. -/
def rebuiltCpm
    (option : PricingOption) : Decimal :=
  (CurrencyLimit.truthy option.rate).getD 0

/-- The impressions that a total buys, `int(total / cpm * 1000)` of floats. -/
def boughtImpressions
    (total cpm : Decimal) : Int :=
  Decimal.truncate (Decimal.float (Decimal.float (total.float / cpm.float) * 1000))

/-- The impressions of a rebuilt package. -/
def rebuiltImpressions
    (total cpm : Decimal) : Int :=
  if 0 < cpm then boughtImpressions total cpm else 0

/-- What a stored overlay says. -/
def rebuildOverlay
    (env : RebuildEnv)
    (stored : Option Targeting) : Except RebuildError (Option Targeting) :=
  match stored with
  | none => .ok none
  | some raw =>
      match env.readOverlay raw with
      | none => .error .corruptOverlay
      | some overlay => .ok overlay

/-- The formats of the stored product, if each can be dialled. -/
def rebuildFormats
    (formats : List FormatId) : Except RebuildError (List FormatId) :=
  if formats.any (fun f => ! isHttpUrl f.agentUrl) then .error .formatNotHttp
  else if formats.isEmpty then .error .noFormats
  else .ok formats

/-- Rebuild one package from its row. -/
def rebuildPackage
    (env : RebuildEnv)
    (row : MediaPackage) : Except RebuildError PricedPackage :=
  match row.config.productId.filter (fun p => p ≠ "") with
  | none => .error .missingProductId
  | some productId =>
      match env.product productId with
      | none => .error .productNotFound
      | some product =>
          -- no writer stores a `pricing_model`, so the first option is the one
          match product.pricingOptions with
          | [] => .error .noPricingOptions
          | option :: _ =>
              match rebuildOverlay env row.config.targetingOverlay with
              | .error err => .error err
              | .ok overlay =>
                  if row.packageId = "" then .error .missingPackageId
                  else match rebuildFormats product.formats with
                    | .error err => .error err
                    | .ok formats =>
                        let budget := row.config.budget.map ConfigBudget.amount
                        .ok
                          { packageId := row.packageId
                            name := product.name
                            deliveryType := product.deliveryType
                            cpm := rebuiltCpm option
                            impressions := rebuiltImpressions (budget.getD 0) (rebuiltCpm option)
                            formatIds := formats
                            targetingOverlay := overlay
                            productId := productId
                            budget := budget
                            creativeIds := []
                            pricing := some
                              (row.config.pricingInfo.getD (pricingInfoFor option none)) }

/-- Rebuild the packages of a buy. -/
def rebuildPackages
    (env : RebuildEnv)
    (rows : BuyRows)
    (mediaBuyId : String) : Except RebuildError (List PricedPackage) :=
  match rows.packages.rows.filter (fun p => p.mediaBuyId = mediaBuyId) with
  | [] => .error .noPackages
  | first :: rest => (first :: rest).mapM (rebuildPackage env)

variable {env : RebuildEnv}

theorem rebuildFormats_ok
    {formats built : List FormatId} :
    rebuildFormats formats = .ok built ↔
      built = formats ∧ formats ≠ [] ∧ ∀ f ∈ formats, isHttpUrl f.agentUrl = true := by
  unfold rebuildFormats
  split
  · next hany =>
      simp only [reduceCtorEq, false_iff, not_and]
      intro _ _ hall
      obtain ⟨f, hf, hurl⟩ := List.any_eq_true.mp hany
      simp [hall f hf] at hurl
  · next hnone =>
      have hall : ∀ f ∈ formats, isHttpUrl f.agentUrl = true := by simpa using hnone
      split
      · next hempty =>
          simp only [reduceCtorEq, false_iff, not_and]
          intro _ hne
          exact absurd (List.isEmpty_iff.mp hempty) hne
      · next hempty =>
          simp only [Except.ok.injEq]
          constructor
          · rintro rfl
            exact ⟨rfl, by simpa using hempty, hall⟩
          · rintro ⟨rfl, -, -⟩
            rfl

/-- A rebuilt package is its row's, with the impressions of its own budget at the first rate. -/
theorem rebuildPackage_eq_ok
    {row : MediaPackage} {built : PricedPackage}
    (h : rebuildPackage env row = .ok built) :
    ∃ product option rest, env.product built.productId = some product
      ∧ product.pricingOptions = option :: rest
      ∧ built.packageId = row.packageId
      ∧ built.impressions = rebuiltImpressions (built.budget.getD 0) (rebuiltCpm option) := by
  rw [rebuildPackage] at h
  cases hproductId : row.config.productId.filter (fun p => p ≠ "") with
  | none =>
      rw [hproductId] at h
      cases h
  | some productId =>
      rw [hproductId] at h
      dsimp only at h
      cases hproduct : env.product productId with
      | none =>
          rw [hproduct] at h
          cases h
      | some product =>
          rw [hproduct] at h
          dsimp only at h
          cases hoptions : product.pricingOptions with
          | nil =>
              rw [hoptions] at h
              cases h
          | cons option rest =>
              rw [hoptions] at h
              dsimp only at h
              cases hoverlay : rebuildOverlay env row.config.targetingOverlay with
              | error err =>
                  rw [hoverlay] at h
                  cases h
              | ok overlay =>
                  rw [hoverlay] at h
                  dsimp only at h
                  by_cases hid : row.packageId = ""
                  · rw [if_pos hid] at h
                    cases h
                  · rw [if_neg hid] at h
                    cases hformats : rebuildFormats product.formats with
                    | error err =>
                        rw [hformats] at h
                        cases h
                    | ok formats =>
                        rw [hformats] at h
                        cases h
                        exact ⟨product, option, rest, hproduct, hoptions, rfl, rfl⟩

end Rebuild

end MediaBuys
end SalesAgent
