import SalesAgent.MediaBuy.SameOrder

/-!
# Pricing admission

A package names a pricing option of its product, or none.  The option as it is stored carries a
JSON column of price guidance, from which the validation reads the floor of an auction; what
cannot be read raises an exception outside the taxonomy of errors.

**Results.**
* `validateStoredSelection_eq`: where every guidance can be read, the validation of the stored
  options is the validation the create tool is modelled with.
* `optionTerms_of_validate`, `meetsCurrency_of_minimumGate`: what holds of the pricing of an
  accepted package.
* `pricing_admission_laws`: both together.
-/

namespace SalesAgent
namespace MediaBuys

open Idempotency (Json)

section Stored

/-- A value of `decimal.Decimal`. -/
inductive PyDecimal
  | finite (q : Decimal)
  | infinite (negative : Bool)
  | nan
  deriving DecidableEq, Repr

/-- The exceptions that are not errors of the taxonomy. -/
inductive UntypedException
  | attributeError
  | invalidOperation
  deriving DecidableEq, Repr

/-- Why the pricing of a package fails. -/
inductive PricingFailure
  | typed (err : BuyerError)
  | untyped (exception : UntypedException)

/-- What the column `price_guidance` holds where it is not null. -/
inductive GuidanceDocument
  | object (fields : List (String × Json))
  | array (items : List Json)

/-- A row of `pricing_options`. -/
structure StoredOption where
  pricingOptionId : String
  pricingModel : PricingModel
  currency : String
  isFixed : Bool
  rate : Option Decimal
  priceGuidance : Option GuidanceDocument
  minSpendPerPackage : Option Decimal

variable (decimal : String → Option PyDecimal)

/-- `Decimal(str(value))`; the texts of null, of a boolean and of a container are no decimals. -/
def decimalOfJson : Json → Except UntypedException PyDecimal
  | .num text => (decimal text).elim (.error .invalidOperation) .ok
  | .str s => (decimal s).elim (.error .invalidOperation) .ok
  | .null => .error .invalidOperation
  | .bool _ => .error .invalidOperation
  | .arr _ => .error .invalidOperation
  | .obj _ => .error .invalidOperation

/-- The floor price; an empty column asks for none. -/
def StoredOption.floorPrice
    (option : StoredOption) : Except UntypedException PyDecimal :=
  match option.priceGuidance with
  | none => .ok (.finite 0)
  | some (.object []) => .ok (.finite 0)
  | some (.array []) => .ok (.finite 0)
  | some (.array (_ :: _)) => .error .attributeError
  | some (.object fields) =>
      match fields.lookup "floor" with
      | none => .ok (.finite 0)
      | some value => decimalOfJson decimal value

/-- `bid_decimal < floor_price`; an order with what is not a number is refused. -/
def bidBelow
    (bid : Decimal) : PyDecimal → Except UntypedException Bool
  | .finite floor => .ok (bid < floor)
  | .infinite negative => .ok (! negative)
  | .nan => .error .invalidOperation

/-- The check of an auction. -/
def validateAuction
    (option : StoredOption)
    (bidPrice : Option Decimal) : Option PricingFailure :=
  match CurrencyLimit.truthy bidPrice with
  | none =>
      -- the details of the error read the floor from the guidance
      match option.priceGuidance with
      | some (.array (_ :: _)) => some (.untyped .attributeError)
      | _ => some (.typed ⟨.validationError, some "bid_price"⟩)
  | some bid =>
      match (option.floorPrice decimal).bind (bidBelow bid) with
      | .error exception => some (.untyped exception)
      | .ok true => some (.typed ⟨.validationError, none⟩)
      | .ok false => none

/-- `pricing_info_for`, of a row. -/
def StoredOption.pricingInfo
    (option : StoredOption)
    (bidPrice : Option Decimal) : PricingInfo where
  pricingModel := option.pricingModel
  rate := CurrencyLimit.truthy option.rate
  currency := option.currency
  isFixed := option.isFixed
  bidPrice := CurrencyLimit.truthy bidPrice

/-- `_validate_pricing_model_selection`, over the rows of a product's options. -/
def validateStoredSelection
    (lower : String → String)
    (campaignCurrency : String)
    (pricingOptionId : String)
    (bidPrice budget : Option Decimal)
    (options : List StoredOption) : Except PricingFailure PricingInfo :=
  match options with
  | [] => .error (.typed ⟨.configurationError, none⟩)
  | first :: _ =>
      if pricingOptionId = "" then
        .ok { first.pricingInfo bidPrice with
          currency := if first.currency = "" then campaignCurrency else first.currency }
      else match options.find? (fun o => lower pricingOptionId = lower o.pricingOptionId) with
        | none => .error (.typed ⟨.validationError, some "pricing_option_id"⟩)
        | some option =>
            match (if option.isFixed then none else validateAuction decimal option bidPrice) with
            | some failure => .error failure
            | none =>
                if option.isFixed && option.rate.all (fun rate => rate = 0) then
                  .error (.typed ⟨.configurationError, none⟩)
                else if (CurrencyLimit.truthy option.minSpendPerPackage).any
                    (fun m => budget.any (fun b => b ≠ 0 ∧ b < m)) then
                  .error (.typed ⟨.validationError, none⟩)
                else .ok (option.pricingInfo bidPrice)

/-- A guidance whose floor, if it has one, is a finite number. -/
def StoredOption.Readable
    (option : StoredOption) : Prop :=
  ∃ floor, option.floorPrice decimal = .ok (.finite floor)

/-- The option of a row; an unreadable guidance has no floor. -/
def StoredOption.option
    (option : StoredOption) : PricingOption where
  pricingOptionId := option.pricingOptionId
  pricingModel := option.pricingModel
  currency := option.currency
  isFixed := option.isFixed
  rate := option.rate
  floor := match option.floorPrice decimal with
    | .ok (.finite floor) => some floor
    | _ => none
  minSpendPerPackage := option.minSpendPerPackage

end Stored

section Refinement

variable {decimal : String → Option PyDecimal}

theorem floor_of_readable
    {option : StoredOption} {floor : Decimal}
    (h : option.floorPrice decimal = .ok (.finite floor)) :
    (option.option decimal).floor = some floor := by
  rw [StoredOption.option]
  dsimp only
  rw [h]

theorem guidance_of_readable
    {option : StoredOption}
    (h : option.Readable decimal)
    (item : Json)
    (items : List Json) :
    option.priceGuidance ≠ some (.array (item :: items)) := by
  intro hguidance
  obtain ⟨floor, hfloor⟩ := h
  rw [StoredOption.floorPrice, hguidance] at hfloor
  cases hfloor

theorem validateAuction_of_readable
    {option : StoredOption} {floor : Decimal}
    (bidPrice : Option Decimal)
    (h : option.floorPrice decimal = .ok (.finite floor)) :
    validateAuction decimal option bidPrice
      = if bidPrice.all (fun bid => bid = 0) then
          some (.typed ⟨.validationError, some "bid_price"⟩)
        else if bidPrice.any (fun bid => bid < floor) then
          some (.typed ⟨.validationError, none⟩)
        else none := by
  have harray := guidance_of_readable ⟨floor, h⟩
  have hnone : (match option.priceGuidance with
      | some (.array (_ :: _)) => some (PricingFailure.untyped .attributeError)
      | _ => some (.typed ⟨.validationError, some "bid_price"⟩))
        = some (.typed ⟨.validationError, some "bid_price"⟩) := by
    cases hguidance : option.priceGuidance with
    | none => rfl
    | some document =>
        cases document with
        | object fields => rfl
        | array items =>
            cases items with
            | nil => rfl
            | cons item items => exact absurd hguidance (harray item items)
  cases bidPrice with
  | none => exact hnone
  | some bid =>
      by_cases hbid : bid = 0
      · have htruthy : CurrencyLimit.truthy (some bid) = none := by
          rw [hbid]
          rfl
        rw [validateAuction, htruthy, Option.all_some, decide_eq_true hbid]
        exact hnone
      · have htruthy : CurrencyLimit.truthy (some bid) = some bid :=
          Option.filter_some_pos (decide_eq_true hbid)
        rw [validateAuction, htruthy, h, Option.all_some, decide_eq_false hbid, Option.any_some]
        by_cases hlow : bid < floor
        · rw [decide_eq_true hlow]
          show (match bidBelow bid (.finite floor) with
            | .error exception => some (PricingFailure.untyped exception)
            | .ok true => some (.typed ⟨.validationError, none⟩)
            | .ok false => none) = _
          rw [bidBelow, decide_eq_true hlow]
          rfl
        · rw [decide_eq_false hlow]
          show (match bidBelow bid (.finite floor) with
            | .error exception => some (PricingFailure.untyped exception)
            | .ok true => some (.typed ⟨.validationError, none⟩)
            | .ok false => none) = _
          rw [bidBelow, decide_eq_false hlow]
          rfl

theorem find_option
    (lower : String → String)
    (pricingOptionId : String)
    (options : List StoredOption) :
    (options.map (·.option decimal)).find?
        (fun o => lower pricingOptionId = lower o.pricingOptionId)
      = (options.find? fun o => lower pricingOptionId = lower o.pricingOptionId).map
          (·.option decimal) := by
  rw [List.find?_map]
  rfl

/-- Where every guidance can be read, the rows are validated as the create tool is modelled. -/
theorem validateStoredSelection_eq
    {env : CreateEnv} {req : CreateRequest} {pkg : PackageRequest} {product : Product}
    {options : List StoredOption}
    (hoptions : product.pricingOptions = options.map (·.option decimal))
    (hreadable : ∀ option ∈ options, option.Readable decimal) :
    validateStoredSelection decimal env.lower (campaignCurrency env req)
        (selectedOptionId pkg product) pkg.bidPrice pkg.budget options
      = (validatePricingModelSelection env req pkg product).mapError .typed := by
  cases options with
  | nil =>
      rw [List.map_nil] at hoptions
      simp only [validatePricingModelSelection, hoptions]
      rfl
  | cons first rest =>
      rw [List.map_cons] at hoptions
      by_cases hid : selectedOptionId pkg product = ""
      · simp only [validatePricingModelSelection, hoptions, hid, if_true, validateStoredSelection]
        rfl
      · have hfind := @find_option decimal env.lower (selectedOptionId pkg product) (first :: rest)
        rw [List.map_cons] at hfind
        simp only [validatePricingModelSelection, hoptions, if_neg hid, validateStoredSelection,
          hfind]
        cases hselected : (first :: rest).find? fun o =>
            env.lower (selectedOptionId pkg product) = env.lower o.pricingOptionId with
        | none => rfl
        | some option =>
            obtain ⟨floor, hfloor⟩ := hreadable option (List.mem_of_find?_eq_some hselected)
            dsimp only [Option.map_some]
            rw [floor_of_readable hfloor, validateAuction_of_readable _ hfloor]
            have hkept : (option.option decimal).isFixed = option.isFixed
                ∧ (option.option decimal).rate = option.rate
                ∧ (option.option decimal).minSpendPerPackage = option.minSpendPerPackage :=
              ⟨rfl, rfl, rfl⟩
            rw [hkept.1, hkept.2.1, hkept.2.2]
            cases hfixed : option.isFixed with
            | true =>
                simp only [Bool.not_true, Bool.false_and, Bool.true_and, if_true,
                  Bool.false_eq_true, if_false]
                split
                · rfl
                · split
                  · rfl
                  · rfl
            | false =>
                simp only [Bool.not_false, Bool.false_and, Bool.true_and, Bool.false_eq_true,
                  if_false, Option.getD_some]
                by_cases hall : pkg.bidPrice.all (fun bid => bid = 0) = true
                · rw [if_pos hall, if_pos hall]
                  rfl
                · rw [if_neg hall, if_neg hall]
                  by_cases hlow : pkg.bidPrice.any (fun bid => bid < floor) = true
                  · rw [if_pos hlow, if_pos hlow]
                    rfl
                  · rw [if_neg hlow, if_neg hlow]
                    dsimp only
                    split
                    · rfl
                    · rfl

end Refinement

section Admission

variable {env : CreateEnv} {req : CreateRequest} {pkg : PackageRequest} {product : Product}

/-- An option meets a bid and a budget: an auction has a bid at or above its floor, a fixed
price has a rate, and the budget reaches the minimum spend. -/
structure MeetsOption
    (option : PricingOption)
    (bidPrice budget : Option Decimal) : Prop where
  auction :
    option.isFixed = false → ∃ bid, bidPrice = some bid ∧ bid ≠ 0 ∧ option.floor.getD 0 ≤ bid
  fixed : option.isFixed = true → ∃ rate, option.rate = some rate ∧ rate ≠ 0
  minimum :
    ∀ m, option.minSpendPerPackage = some m → m ≠ 0 → ∀ b, budget = some b → b ≠ 0 → m ≤ b

/-- The terms are those of an option of the product: of the option the package names, which it
then meets, or of the first where it names none. -/
inductive OptionTerms
    (env : CreateEnv)
    (req : CreateRequest)
    (pkg : PackageRequest)
    (product : Product) : PricingInfo → Prop
  | first {option : PricingOption} {rest : List PricingOption}
      (hid : selectedOptionId pkg product = "")
      (hfirst : product.pricingOptions = option :: rest) :
      OptionTerms env req pkg product
        { pricingInfoFor option pkg.bidPrice with
          currency := if option.currency = "" then campaignCurrency env req else option.currency }
  | named {option : PricingOption}
      (hid : selectedOptionId pkg product ≠ "")
      (hnamed : product.pricingOptions.find?
        (fun o => env.lower (selectedOptionId pkg product) = env.lower o.pricingOptionId)
          = some option)
      (hmeets : MeetsOption option pkg.bidPrice pkg.budget) :
      OptionTerms env req pkg product (pricingInfoFor option pkg.bidPrice)

theorem all_zero_eq_false
    {amount : Option Decimal} :
    amount.all (fun x => x = 0) = false ↔ ∃ x, amount = some x ∧ x ≠ 0 := by
  cases amount with
  | none =>
      refine iff_of_false (fun h => by cases h) ?_
      rintro ⟨x, hx, -⟩
      cases hx
  | some x =>
      rw [Option.all_some, decide_eq_false_iff_not]
      constructor
      · intro hne
        exact ⟨x, rfl, hne⟩
      · rintro ⟨y, hy, hne⟩
        cases hy
        exact hne

theorem minimum_met_iff
    {minimum budget : Option Decimal} :
    (CurrencyLimit.truthy minimum).any (fun m => budget.any (fun b => b ≠ 0 ∧ b < m)) = false
      ↔ ∀ m, minimum = some m → m ≠ 0 → ∀ b, budget = some b → b ≠ 0 → m ≤ b := by
  rw [← Bool.not_eq_true, Option.any_eq_true]
  constructor
  · intro h m hm hne b hb hnonzero
    refine le_of_not_gt fun hlt => h ⟨m, ?_, ?_⟩
    · rw [hm]
      exact Option.filter_some_pos (decide_eq_true hne)
    · rw [hb, Option.any_some]
      exact decide_eq_true ⟨hnonzero, hlt⟩
  · rintro h ⟨m, hm, hbudget⟩
    obtain ⟨hminimum, hne⟩ := Option.filter_eq_some_iff.mp hm
    rw [Option.any_eq_true] at hbudget
    obtain ⟨b, hb, hlow⟩ := hbudget
    obtain ⟨hnonzero, hlt⟩ := of_decide_eq_true hlow
    exact absurd hlt (not_lt_of_ge (h m hminimum (of_decide_eq_true hne) b hb hnonzero))

theorem meetsOption_iff
    {option : PricingOption}
    {bidPrice budget : Option Decimal} :
    MeetsOption option bidPrice budget
      ↔ (! option.isFixed && bidPrice.all (fun bid => bid = 0)) = false
        ∧ (! option.isFixed && bidPrice.any (fun bid => bid < option.floor.getD 0)) = false
        ∧ (option.isFixed && option.rate.all (fun rate => rate = 0)) = false
        ∧ (CurrencyLimit.truthy option.minSpendPerPackage).any
            (fun m => budget.any (fun b => b ≠ 0 ∧ b < m)) = false := by
  rw [minimum_met_iff]
  cases hfixed : option.isFixed with
  | true =>
      rw [Bool.not_true, Bool.false_and, Bool.false_and, Bool.true_and, all_zero_eq_false]
      constructor
      · intro h
        exact ⟨rfl, rfl, h.fixed hfixed, h.minimum⟩
      · rintro ⟨-, -, hrate, hminimum⟩
        refine ⟨fun hauction => ?_, fun _ => hrate, hminimum⟩
        rw [hfixed] at hauction
        cases hauction
  | false =>
      rw [Bool.not_false, Bool.true_and, Bool.true_and, Bool.false_and, all_zero_eq_false]
      constructor
      · intro h
        obtain ⟨bid, hbid, hne, hfloor⟩ := h.auction hfixed
        refine ⟨⟨bid, hbid, hne⟩, ?_, rfl, h.minimum⟩
        rw [hbid, Option.any_some]
        exact decide_eq_false (not_lt_of_ge hfloor)
      · rintro ⟨⟨bid, hbid, hne⟩, hfloor, -, hminimum⟩
        refine ⟨fun _ => ⟨bid, hbid, hne, ?_⟩, fun hrate => ?_, hminimum⟩
        · rw [hbid, Option.any_some] at hfloor
          exact le_of_not_gt (of_decide_eq_false hfloor)
        · rw [hfixed] at hrate
          cases hrate

/-- The terms a package is accepted with. -/
theorem optionTerms_of_validate
    {info : PricingInfo}
    (h : validatePricingModelSelection env req pkg product = .ok info) :
    OptionTerms env req pkg product info := by
  cases hoptions : product.pricingOptions with
  | nil =>
      simp only [validatePricingModelSelection, hoptions] at h
      cases h
  | cons first rest =>
      simp only [validatePricingModelSelection, hoptions] at h
      by_cases hid : selectedOptionId pkg product = ""
      · rw [if_pos hid] at h
        cases h
        exact .first hid hoptions
      · rw [if_neg hid] at h
        cases hselected : (first :: rest).find? fun o =>
            env.lower (selectedOptionId pkg product) = env.lower o.pricingOptionId with
        | none =>
            rw [hselected] at h
            cases h
        | some option =>
            rw [hselected] at h
            dsimp only at h
            have hnamed : product.pricingOptions.find?
                (fun o => env.lower (selectedOptionId pkg product) = env.lower o.pricingOptionId)
                  = some option := by
              rw [hoptions]
              exact hselected
            by_cases hbid : (! option.isFixed && pkg.bidPrice.all (fun bid => bid = 0)) = true
            · rw [if_pos hbid] at h
              cases h
            · rw [if_neg hbid] at h
              by_cases hfloor : (! option.isFixed
                  && pkg.bidPrice.any (fun bid => bid < option.floor.getD 0)) = true
              · rw [if_pos hfloor] at h
                cases h
              · rw [if_neg hfloor] at h
                by_cases hrate : (option.isFixed && option.rate.all (fun rate => rate = 0)) = true
                · rw [if_pos hrate] at h
                  cases h
                · rw [if_neg hrate] at h
                  by_cases hminimum : (CurrencyLimit.truthy option.minSpendPerPackage).any
                      (fun m => pkg.budget.any (fun b => b ≠ 0 ∧ b < m)) = true
                  · rw [if_pos hminimum] at h
                    cases h
                  · rw [if_neg hminimum] at h
                    cases h
                    exact .named hid hnamed (meetsOption_iff.mpr
                      ⟨Bool.eq_false_of_not_eq_true hbid, Bool.eq_false_of_not_eq_true hfloor,
                        Bool.eq_false_of_not_eq_true hrate,
                        Bool.eq_false_of_not_eq_true hminimum⟩)

/-- The minimum spend of a buy's currency, for a package: a minimum of the product's first
option in that currency takes its place. -/
def MeetsCurrency
    (env : CreateEnv)
    (req : CreateRequest)
    (pkg : PackageRequest)
    (product : Product) : Prop :=
  ∀ limit, env.currencyLimit (campaignCurrency env req) = some limit →
    ∀ m, limit.minPackageBudget = some m → m ≠ 0 →
    ∀ b, pkg.budget = some b → b ≠ 0 →
      match (product.pricingOptions.find? fun o => o.currency = campaignCurrency env req).bind
          (·.minSpendPerPackage) with
      | some own => own ≠ 0 → own ≤ b
      | none => m ≤ b

theorem meetsCurrency_of_minimumGate
    (hgate : minimumGate env req = none)
    (hpkg : pkg ∈ req.packages)
    (hproduct : env.product pkg.productId = some product) :
    MeetsCurrency env req pkg product := by
  intro limit hlimit m hm hne b hb hnonzero
  have htruthy : CurrencyLimit.truthy (some m) = some m :=
    Option.filter_some_pos (decide_eq_true hne)
  have hmeets : ∀ own, packageMinimum env req limit product = some own → own ≤ b := by
    intro own hown
    refine le_of_not_gt fun hlow => ?_
    rw [minimumGate, hlimit] at hgate
    dsimp only at hgate
    rw [if_pos] at hgate
    · cases hgate
    · rw [Bool.and_eq_true, List.any_eq_true]
      refine ⟨?_, pkg, hpkg, ?_⟩
      · rw [hm, htruthy]
        rfl
      · rw [hb, hproduct, Option.any_some, Option.any_some, hown, Option.any_some,
          Option.any_some, decide_eq_true hnonzero, Bool.true_and]
        exact decide_eq_true hlow
  rw [packageMinimum, hm, htruthy] at hmeets
  cases hown : (product.pricingOptions.find? fun o => o.currency = campaignCurrency env req).bind
      (·.minSpendPerPackage) with
  | none =>
      dsimp only
      rw [hown] at hmeets
      exact hmeets m htruthy
  | some own =>
      dsimp only
      intro hzero
      rw [hown] at hmeets
      exact hmeets own (Option.filter_some_pos (decide_eq_true hzero))

/-- The pricing of the packages of an accepted request, and of rows whose guidance can be
read. -/
theorem pricing_admission_laws
    (env : CreateEnv)
    (req : CreateRequest)
    (decimal : String → Option PyDecimal) :
    (createGate env req = none →
      ∀ pkg ∈ req.packages, ∃ product info,
        env.product pkg.productId = some product
          ∧ packagePricing env req pkg = some info
          ∧ OptionTerms env req pkg product info
          ∧ MeetsCurrency env req pkg product)
    ∧ ∀ (pkg : PackageRequest) (product : Product) (options : List StoredOption),
      product.pricingOptions = options.map (·.option decimal) →
      (∀ option ∈ options, option.Readable decimal) →
      validateStoredSelection decimal env.lower (campaignCurrency env req)
          (selectedOptionId pkg product) pkg.bidPrice pkg.budget options
        = (validatePricingModelSelection env req pkg product).mapError .typed
      ∧ ∀ exception, validateStoredSelection decimal env.lower (campaignCurrency env req)
          (selectedOptionId pkg product) pkg.bidPrice pkg.budget options
        ≠ .error (.untyped exception) := by
  refine ⟨?_, ?_⟩
  · intro hgate pkg hpkg
    obtain ⟨-, product, info, hproduct, hinfo⟩ := validated_package hgate hpkg
    refine ⟨product, info, hproduct, hinfo, ?_, ?_⟩
    · rw [packagePricing, hproduct, Option.bind_some] at hinfo
      cases hvalidated : validatePricingModelSelection env req pkg product with
      | error err =>
          rw [hvalidated] at hinfo
          cases hinfo
      | ok terms =>
          rw [hvalidated] at hinfo
          cases hinfo
          exact optionTerms_of_validate hvalidated
    · refine meetsCurrency_of_minimumGate ?_ hpkg hproduct
      simp only [createGate, Option.orElse_eq_orElse, Option.orElse_eq_or,
        Option.or_eq_none_iff] at hgate
      exact hgate.2.2.2.2.2.2.1
  · intro pkg product options hoptions hreadable
    have heq := @validateStoredSelection_eq decimal env req pkg product options hoptions hreadable
    refine ⟨heq, fun exception huntyped => ?_⟩
    rw [heq] at huntyped
    cases hvalidated : validatePricingModelSelection env req pkg product with
    | error err =>
        rw [hvalidated] at huntyped
        cases huntyped
    | ok info =>
        rw [hvalidated] at huntyped
        cases huntyped

end Admission

section Override

theorem noDailyLimit_isCents :
    ∀ m ∈ (none : Option Decimal), m.IsCents := by
  intro m hm
  cases hm

/-- A tenant whose minimum is a hundred dollars, with a product whose own minimum is fifty. -/
def overrideEnv : CreateEnv :=
  { sampleCreateEnv false true with
    product := fun p =>
      if p = "prod_1" then
        some { sampleProduct true with
          pricingOptions :=
            [{ pricingOptionId := "cpm_usd_fixed"
               pricingModel := .cpm
               currency := "USD"
               isFixed := true
               rate := some 10
               floor := none
               minSpendPerPackage := some 50 }] }
      else none
    currencyLimit := fun _ => some ⟨some 100, none, noDailyLimit_isCents⟩ }

/-- Ten days for sixty dollars. -/
def overrideRequest : CreateRequest :=
  { sampleCreateRequest with
    packages := [{ productId := "prod_1", budget := some 60, pricingOptionId := "cpm_usd_fixed" }] }

/-- A package under the currency's minimum is accepted where its product has a lower one. -/
theorem minimum_overridden :
    createGate overrideEnv overrideRequest = none
      ∧ ∃ pkg ∈ overrideRequest.packages, ∃ budget limit minimum,
        pkg.budget = some budget
          ∧ overrideEnv.currencyLimit (campaignCurrency overrideEnv overrideRequest) = some limit
          ∧ limit.minPackageBudget = some minimum
          ∧ budget < minimum := by
  refine ⟨by decide +kernel, _, List.mem_cons_self, 60, _, 100, rfl, rfl, rfl, by norm_num⟩

end Override

end MediaBuys
end SalesAgent
