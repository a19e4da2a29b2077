import SalesAgent.MediaBuy.Lifecycle
import SalesAgent.MediaBuy.Ordering
import SalesAgent.MediaBuy.Update

/-!
# The `create_media_buy` tool

A create stores a workflow step first and validates the request next.  It then
uploads the creatives written inside the packages, each package in a sync of its
own, and decides on a branch:

* with manual approval the buy, its packages, the mapping of the step and the
  assignments are stored, each in a transaction of its own, and the step waits;
* where a product of the buy disables auto-creation, only the step waits;
* otherwise the ad server is asked at once, and what it answers is stored.

An exception fails the step.  What earlier transactions committed stays.

The checks of minimum and daily spend have a mode for requests without package
budgets.  It is not modelled: `exists_budget_of_totalBudget_pos` says that no
request that passes the budget check is in it.

**Results.**
* `uploadCreatives_ok`: an upload adds creatives and names them in the packages.
* `storePackages_ok`, `storePackages_keys`: what a transaction of packages stores.
* `createMediaBuy_accepted`: the three ways a create is accepted.
-/

namespace SalesAgent
namespace MediaBuys

open Runs (FoldStep Preserved run_of_foldlM)

/-- A package entry of a create request. -/
structure PackageRequest where
  productId : String
  budget : Option Decimal := none
  bidPrice : Option Decimal := none
  pricingOptionId : String := ""
  formatIds : List FormatId := []
  targetingOverlay : Option Targeting := none
  creativeIds : List String := []
  creatives : List CreativeUpload := []

/-- A validated `create_media_buy` request. -/
structure CreateRequest where
  idempotencyKey : Option String := none
  startTime : Option StartTiming
  endTime : Option DateTime
  packages : List PackageRequest

/-- What the tool asks of an ad-server adapter. -/
structure CreateAdapter where
  manualApprovalRequired : Bool
  manualApprovalOperations : List String
  /-- whether `validate_media_buy_request` reports a problem -/
  reportsProblem : List PricedPackage → Bool
  /-- `create_media_buy` -/
  createMediaBuy : List PricedPackage → Except BuyerError AdapterCreateResult
  /-- what `add_creative_assets` raises, for a creative that is uploaded at once -/
  addCreativeAssets : String → Creative → Option BuyerError

/-- What the tool is given besides the request and the rows. -/
structure CreateEnv where
  tenantId : String
  principalId : String
  accountId : String
  /-- the clock at the checks and the uploads -/
  now : DateTime
  /-- the clock at the row writes -/
  later : DateTime
  humanReviewRequired : Bool
  /-- what the gates on webhook URLs and on the tenant's setup answer -/
  registrationGate : Option BuyerError
  product : String → Option Product
  currencyLimit : String → Option CurrencyLimit
  /-- the currencies of the ad-server network, where one is configured -/
  networkCurrencies : Option (List String)
  /-- `str.lower` -/
  lower : String → String
  collectTargetingViolations : Targeting → List String
  hasPropertyList : Targeting → Bool
  verdict : CreativeUpload → Option Creative → CreativeVerdict
  /-- whether a creative has no usable assets or format for the product of a package -/
  creativeProblem : PackageRequest → Creative → Bool
  /-- whether the ad server refuses the configuration of one of the products -/
  configurationProblem : List Product → Bool
  /-- what a create that lost the race for its key is answered -/
  lostRace : BuyerError
  adapter : CreateAdapter

/-- The ids a create generates; they are in no row yet. -/
structure GeneratedIds (store : Store) where
  stepId : String
  mediaBuyId : String
  packageToken : Nat → String
  stepId_fresh : store.steps.find stepId = none
  stepId_unmapped : ∀ m ∈ store.mappings, m.stepId ≠ stepId
  mediaBuyId_fresh : store.mediaBuys.find mediaBuyId = none

/-- The caller and the parameters of the creative sync. -/
def CreateEnv.sync
    (env : CreateEnv) : SyncEnv where
  tenantId := env.tenantId
  principalId := env.principalId
  now := env.now
  verdict := env.verdict
  product := env.product

section Validation

variable (env : CreateEnv) (req : CreateRequest)

/-- `get_total_budget`. -/
def totalBudget : Decimal :=
  (req.packages.map (fun p => p.budget.getD 0)).sum

/-- The total of the package budgets must be positive. -/
def budgetGate : Option BuyerError :=
  if validateBudgetPositive (totalBudget req) then some ⟨.budgetTooLow, some "packages"⟩ else none

/-- The start, resolved. -/
def requestedStart : DateTime :=
  match req.startTime with
  | some (.at t) => t
  | _ => env.now

/-- The end; a request without one is refused. -/
def requestedEnd : DateTime :=
  req.endTime.getD (requestedStart env req)

/-- The start is now or later. -/
def startGate : Option BuyerError :=
  match req.startTime with
  | none => some ⟨.validationError, some "start_time"⟩
  | some .asap => none
  | some (.at t) => if t < env.now then some ⟨.invalidRequest, some "start_time"⟩ else none

/-- The flight ends after it starts. -/
def endGate : Option BuyerError :=
  match req.endTime with
  | none => some ⟨.validationError, some "end_time"⟩
  | some t =>
      if t ≤ requestedStart env req then some ⟨.invalidRequest, some "end_time"⟩ else none

/-- Whether a package's overlay breaks the property rule of its product. -/
def breaksPropertyTargeting
    (pkg : PackageRequest) : Bool :=
  pkg.targetingOverlay.any env.hasPropertyList &&
    (env.product pkg.productId).any (fun p => ! p.propertyTargetingAllowed)

/-- Every package names one product of the catalogue, and no two the same. -/
def productGate : Option BuyerError :=
  let productIds := (req.packages.map (·.productId)).filter (fun p => p ≠ "")
  if productIds.isEmpty then some ⟨.validationError, some "packages"⟩
  else match req.packages.findIdx? (fun p => p.productId = "") with
    | some index => some ⟨.validationError, some (packageFieldPath "product_id" index)⟩
    | none =>
        if ¬ productIds.Nodup then some ⟨.validationError, none⟩
        else if productIds.any (fun p => (env.product p).isNone) then
          some ⟨.productNotFound, some "packages"⟩
        else if req.packages.any (breaksPropertyTargeting env) then
          some ⟨.validationError, some "packages"⟩
        else none

/-- The currency of the buy: the first pricing option of the first package's product. -/
def campaignCurrency : String :=
  match (req.packages.head?.bind (fun p => env.product p.productId)).bind
      (·.pricingOptions.head?) with
  | some option => if option.currency = "" then "USD" else option.currency
  | none => "USD"

/-- The seller supports the currency, and so does the ad-server network. -/
def currencyGate : Option BuyerError :=
  match env.currencyLimit (campaignCurrency env req) with
  | none => some ⟨.unsupportedFeature, none⟩
  | some _ =>
      if env.networkCurrencies.any (fun cs => campaignCurrency env req ∉ cs) then
        some ⟨.unsupportedFeature, none⟩
      else none

/-- The pricing option a package names; a converted legacy request names the first. -/
def selectedOptionId
    (pkg : PackageRequest)
    (product : Product) : String :=
  match product.pricingOptions with
  | first :: _ =>
      if pkg.pricingOptionId = "legacy_conversion" then first.pricingOptionId
      else pkg.pricingOptionId
  | [] => pkg.pricingOptionId

/-- `_validate_pricing_model_selection`: the terms of the selected option. -/
def validatePricingModelSelection
    (pkg : PackageRequest)
    (product : Product) : Except BuyerError PricingInfo :=
  match product.pricingOptions with
  | [] => .error ⟨.configurationError, none⟩
  | first :: _ =>
      let optionId := selectedOptionId pkg product
      if optionId = "" then
        .ok { pricingInfoFor first pkg.bidPrice with
          currency := if first.currency = "" then campaignCurrency env req else first.currency }
      else match product.pricingOptions.find?
          (fun o => env.lower optionId = env.lower o.pricingOptionId) with
        | none => .error ⟨.validationError, some "pricing_option_id"⟩
        | some option =>
            if ! option.isFixed && pkg.bidPrice.all (fun bid => bid = 0) then
              .error ⟨.validationError, some "bid_price"⟩
            else if ! option.isFixed && pkg.bidPrice.any (fun bid => bid < option.floor.getD 0) then
              .error ⟨.validationError, none⟩
            else if option.isFixed && option.rate.all (fun rate => rate = 0) then
              .error ⟨.configurationError, none⟩
            else if (CurrencyLimit.truthy option.minSpendPerPackage).any
                (fun m => pkg.budget.any (fun b => b ≠ 0 ∧ b < m)) then
              .error ⟨.validationError, none⟩
            else .ok (pricingInfoFor option pkg.bidPrice)

/-- The pricing of every package. -/
def pricingGate : Option BuyerError :=
  req.packages.findSome? (fun pkg =>
    (env.product pkg.productId).bind (fun product =>
      match validatePricingModelSelection env req pkg product with
      | .error err => some err
      | .ok _ => none))

/-- The validated terms of a package. -/
def packagePricing
    (pkg : PackageRequest) : Option PricingInfo :=
  (env.product pkg.productId).bind (fun product =>
    (validatePricingModelSelection env req pkg product).toOption)

/-- The currency a package is priced in. -/
def packageCurrency
    (pkg : PackageRequest) : String :=
  (packagePricing env req pkg).elim (campaignCurrency env req) (·.currency)

/-- The minimum of a package: its product's in the currency, else the currency's. -/
def packageMinimum
    (limit : CurrencyLimit)
    (product : Product) : Option Decimal :=
  let matching := product.pricingOptions.find? (fun o => o.currency = campaignCurrency env req)
  CurrencyLimit.truthy
    (matching.bind (·.minSpendPerPackage) <|> CurrencyLimit.truthy limit.minPackageBudget)

/-- Minimum spend, where the currency has one; a budget of zero is skipped. -/
def minimumGate : Option BuyerError :=
  match env.currencyLimit (campaignCurrency env req) with
  | none => none
  | some limit =>
      if (CurrencyLimit.truthy limit.minPackageBudget).isSome &&
          req.packages.any (fun pkg =>
            pkg.budget.any (fun b => b ≠ 0) &&
              (env.product pkg.productId).any (fun product =>
                (packageMinimum env req limit product).any (fun m =>
                  pkg.budget.any (fun b => validateMinPackageBudget b m)))) then
        some ⟨.budgetTooLow, none⟩
      else none

/-- Daily spend, where the currency has a ceiling; a budget of zero is skipped. -/
def createDailySpendGate : Option BuyerError :=
  match env.currencyLimit (campaignCurrency env req) with
  | none => none
  | some limit =>
      match CurrencyLimit.truthy limit.maxDailyPackageSpend with
      | none => none
      | some maxDaily =>
          let days := flightDays (requestedStart env req) (requestedEnd env req)
          if req.packages.any (fun pkg =>
              pkg.budget.any (fun b => b ≠ 0 ∧ validateMaxDailyPackageSpend b days maxDaily)) then
            some ⟨.budgetExceeded, none⟩
          else none

/-- Overlays use no dimension that only the seller manages. -/
def overlayGate : Option BuyerError :=
  if req.packages.any (fun p =>
      p.targetingOverlay.any (fun t => ! (env.collectTargetingViolations t).isEmpty)) then
    some ⟨.invalidRequest, some "targeting_overlay"⟩
  else none

/-- The validation of a request. -/
def createGate : Option BuyerError :=
  budgetGate req <|> startGate env req <|> endGate env req <|> productGate env req <|>
    currencyGate env req <|> pricingGate env req <|> minimumGate env req <|>
    createDailySpendGate env req <|> overlayGate env req

end Validation

section Booking

variable (env : CreateEnv) (req : CreateRequest)

/-- Upload the creatives of one package, in a sync without assignments. -/
def uploadPackage
    (pkg : PackageRequest)
    (rows : BuyRows) : BuyRows × Except BuyerError PackageRequest :=
  if pkg.creatives.isEmpty then (rows, .ok pkg)
  else match pkg.creatives.foldlM (syncCreative env.sync) (rows, []) with
    | .error err => (rows, .error err)
    | .ok (synced, failed) =>
        if failed.isEmpty then
          let uploaded := (pkg.creatives.map (·.creativeId)).filter (fun c => c ≠ "")
          (synced, .ok { pkg with creativeIds := pkg.creativeIds ++ uploaded })
        else (synced, .error ⟨.creativeRejected, none⟩)

/-- `process_and_upload_package_creatives`. -/
def uploadCreatives :
    List PackageRequest → BuyRows → BuyRows × Except BuyerError (List PackageRequest)
  | [], rows => (rows, .ok [])
  | pkg :: pkgs, rows =>
      match uploadPackage env pkg rows with
      | (synced, .error err) => (synced, .error err)
      | (synced, .ok updated) =>
          match uploadCreatives pkgs synced with
          | (rest, .error err) => (rest, .error err)
          | (rest, .ok updates) => (rest, .ok (updated :: updates))

/-- `_pre_validate_package_creatives`. -/
def preValidatePackageCreatives
    (packages : List PackageRequest)
    (rows : BuyRows) : Option BuyerError :=
  let creative := fun c => rows.creatives.find (env.sync.creativeKey c)
  let creativeIds := packages.flatMap (·.creativeIds)
  if creativeIds.any (fun c => (creative c).isNone) then
    some ⟨.creativeNotFound, some "packages"⟩
  else if creativeIds.any (fun c =>
      (creative c).any (fun row => row.status = .error ∨ row.status = .rejected)) then
    some ⟨.invalidState, some "packages"⟩
  else if packages.any (fun pkg =>
      pkg.creativeIds.any (fun c => (creative c).any (env.creativeProblem pkg))) then
    some ⟨.validationError, some "packages"⟩
  else none

/-- What a column of thirteen digits before the point cannot hold. -/
def overflowsColumn
    (amount : Decimal) : Bool :=
  10000000000000 ≤ amount.toCents

/-- Another buy holds the idempotency key under the same scope. -/
def holdsKeyOf
    (b row : MediaBuy) : Bool :=
  b.idempotencyKey.isSome ∧ row.idempotencyKey = b.idempotencyKey ∧
    row.tenantId = b.tenantId ∧ row.principalId = b.principalId ∧ row.accountId = b.accountId

/-- The transaction that inserts the buy. -/
def bookBuy
    (b : MediaBuy)
    (rows : BuyRows) : Except BuyerError BuyRows :=
  if overflowsColumn (totalBudget req) then .error ⟨.internalError, none⟩
  else if rows.mediaBuys.rows.any (holdsKeyOf b) then .error env.lostRace
  else match rows.insertBuy b with
    | none => .error ⟨.internalError, none⟩
    | some booked => .ok booked

/-- Insert one package; its budget column holds a positive amount. -/
def storePackage
    (rows : BuyRows)
    (p : MediaPackage) : Except BuyerError BuyRows :=
  if p.budget.any (fun b => b ≤ 0 ∨ overflowsColumn b) then .error ⟨.internalError, none⟩
  else match rows.insertPackage p with
    | none => .error ⟨.internalError, none⟩
    | some stored => .ok stored

/-- Insert one assignment; a creative that is not there is skipped. -/
def assignCreative
    (upload : Creative → Option BuyerError)
    (mediaBuyId packageId : String)
    (rows : BuyRows)
    (creativeId : String) : Except BuyerError BuyRows :=
  match rows.creatives.find (env.sync.creativeKey creativeId) with
  | none => .ok rows
  | some creative =>
      match upload creative with
      | some err => .error err
      | none =>
          match rows.assignments.insert
              { tenantId := env.tenantId
                principalId := env.principalId
                mediaBuyId := mediaBuyId
                packageId := packageId
                creativeId := creativeId
                weight := 100
                placementIds := none } with
          | none => .error ⟨.internalError, none⟩
          | some assignments => .ok { rows with assignments := assignments }

/-- The assignments of one package, under its stored id. -/
def assignPackage
    (upload : Creative → Option BuyerError)
    (mediaBuyId : String)
    (rows : BuyRows)
    (named : PackageRequest × String) : Except BuyerError BuyRows :=
  if ! named.1.creativeIds.isEmpty && named.2 = "" then .error ⟨.serviceUnavailable, none⟩
  else named.1.creativeIds.foldlM (assignCreative env upload mediaBuyId named.2) rows

/-- What the request decides about the buy. -/
def newBuy
    (mediaBuyId : String)
    (packages : List PackageRequest) : NewBuy where
  mediaBuyId := mediaBuyId
  tenantId := env.tenantId
  principalId := env.principalId
  accountId := some env.accountId
  idempotencyKey := req.idempotencyKey
  currency := some (campaignCurrency env req)
  startTime := requestedStart env req
  endTime := requestedEnd env req
  hasCreatives := packages.any (fun p => ! p.creativeIds.isEmpty)

end Booking

/-- `link_workflow_to_object`: only a step of the tenant is linked. -/
def Store.linkStepToObject
    (store : Store)
    (tenantId : String)
    (mapping : ObjectWorkflowMapping) : Store :=
  if (store.steps.find mapping.stepId).any (fun s => s.tenantId = tenantId) then
    store.linkWorkflowToObject mapping
  else store

/-- What the buyer is told. -/
inductive CreateReply
  | failed (err : BuyerError)
  | submitted (taskId : String)
  | completed (mediaBuyId : String) (revision : Nat)
  deriving DecidableEq, Repr

/-- The store after a create, the order the ad server answered with, and the reply. -/
structure CreateOutcome where
  store : Store
  order : Option AdapterCreateResult
  reply : CreateReply

section Tool

variable (env : CreateEnv) (req : CreateRequest) {store : Store} (ids : GeneratedIds store)

/-- The workflow step of the call. -/
def createStep : WorkflowStep where
  stepId := ids.stepId
  tenantId := env.tenantId
  principalId := env.principalId
  toolName := "create_media_buy"
  status := .inProgress

/-- The mapping of the call's step to the buy. -/
def createMapping
    (mediaBuyId : String) : ObjectWorkflowMapping where
  stepId := ids.stepId
  objectType := "media_buy"
  objectId := mediaBuyId
  action := "create"

/-- An exception fails the step; what was committed stays. -/
def failCreate
    (order : Option AdapterCreateResult)
    (err : BuyerError)
    (reached : Store) : CreateOutcome :=
  ⟨reached.updateWorkflowStep ids.stepId .failed, order, .failed err⟩

/-- Whether the create waits for a human. -/
def createNeedsApproval : Bool :=
  (env.humanReviewRequired || env.adapter.manualApprovalRequired) &&
    "create_media_buy" ∈ env.adapter.manualApprovalOperations

/-- The products of the buy. -/
def productsInBuy : List Product :=
  req.packages.filterMap (fun p => env.product p.productId)

/-- Whether every product of the buy may be created without a human. -/
def productAutoCreate : Bool :=
  (productsInBuy env req).all (fun p => p.autoCreateEnabled.getD true)

/-- The id of a package, from its place in the request. -/
def GeneratedIds.packageId
    (pkg : PackageRequest)
    (index : Nat) : String :=
  "pkg_" ++ pkg.productId ++ "_" ++ ids.packageToken index ++ "_" ++ toString (index + 1)

/-- The packages beside their generated ids. -/
def GeneratedIds.named
    (packages : List PackageRequest) : List (PackageRequest × String) :=
  packages.zipIdx.map (fun (pkg, index) => (pkg, ids.packageId pkg index))

/-- A package that waits for approval with its buy. -/
def pendingPackage
    (named : PackageRequest × String) : MediaPackage where
  mediaBuyId := ids.mediaBuyId
  packageId := named.2
  budget := named.1.budget.map Decimal.toCents
  config :=
    { productId := some named.1.productId
      budget := named.1.budget.map (fun b => .object b (packageCurrency env req named.1))
      targetingOverlay := named.1.targetingOverlay
      paused := some false
      pricingInfo := packagePricing env req named.1 }

/-- The manual-approval branch. -/
def createPending
    (packages : List PackageRequest)
    (uploaded : Store) : CreateOutcome :=
  match preValidatePackageCreatives env packages uploaded.toBuyRows with
  | some err => failCreate ids none err uploaded
  | none =>
      let pending := uploaded.updateWorkflowStep ids.stepId .requiresApproval
      let row := (newBuy env req ids.mediaBuyId packages).manualRow env.later
      match bookBuy env req row pending.toBuyRows with
      | .error err => failCreate ids none err pending
      | .ok booked =>
          match ((ids.named packages).map (pendingPackage env req ids)).foldlM storePackage
              booked with
          | .error err => failCreate ids none err { pending with toBuyRows := booked }
          | .ok packaged =>
              let linked := ({ pending with toBuyRows := packaged } : Store).linkStepToObject
                env.tenantId (createMapping ids ids.mediaBuyId)
              match (ids.named packages).foldlM
                  (assignPackage env (fun _ => none) ids.mediaBuyId) packaged with
              | .error err => failCreate ids none err linked
              | .ok assigned =>
                  ⟨{ linked with toBuyRows := assigned }, none, .submitted ids.stepId⟩

/-- A package as the adapter answered with it, at the terms of the package ordered under its id. -/
def orderedPackage
    (ordered : List PricedPackage)
    (mediaBuyId : String)
    (p : AdapterPackage) : MediaPackage where
  mediaBuyId := mediaBuyId
  packageId := p.packageId
  budget := none
  config :=
    { productId := p.productId
      budget := none
      targetingOverlay := none
      paused := some p.paused
      pricingInfo := (ordered.find? (fun pkg => pkg.packageId = p.packageId)).bind (·.pricing) }

/-- A package as the adapter is asked to order it. -/
def directPackage
    (named : PackageRequest × String) : Option PricedPackage :=
  (env.product named.1.productId).map (fun product =>
    { packageId := named.2
      name := product.name
      deliveryType := product.deliveryType
      cpm := directCpm product
      impressions := boughtImpressions (totalBudget req) (directCpm product)
      formatIds := directFormats product named.1.formatIds
      targetingOverlay := named.1.targetingOverlay
      productId := named.1.productId
      budget := named.1.budget
      creativeIds := named.1.creativeIds
      pricing := packagePricing env req named.1 })

/-- What the adapter is asked to order at once. -/
def directOrder
    (packages : List PackageRequest) : List PricedPackage :=
  (ids.named packages).filterMap (directPackage env req)

/-- The formats of a package must be formats of its product. -/
def formatGate : Option BuyerError :=
  (req.packages.findIdx? (fun pkg =>
    (pkg.formatIds.filterMap FormatId.identity).any (fun f =>
      ! (env.product pkg.productId).any
        (fun p => f ∈ p.effectiveFormats.filterMap FormatId.identity)))).map
    (fun index => ⟨.validationError, some (packageFieldPath "format_ids" index)⟩)

/-- The creatives are checked once more when they are assigned. -/
def assignmentGate
    (packages : List PackageRequest)
    (rows : BuyRows) : Option BuyerError :=
  let creative := fun c => rows.creatives.find (env.sync.creativeKey c)
  if packages.any (fun pkg => pkg.creativeIds.any (fun c => (creative c).isNone)) then
    some ⟨.creativeNotFound, some "packages"⟩
  else if packages.any (fun pkg => pkg.creativeIds.any (fun c =>
      (creative c).any (fun row =>
        ! Product.accepts (env.product pkg.productId) row.format))) then
    some ⟨.validationError, none⟩
  else none

/-- Each package of the request beside the id of the adapter's package in its place. -/
def namedByAdapter
    (packages : List PackageRequest)
    (answered : List AdapterPackage) : List (PackageRequest × String) :=
  packages.zipIdx.map (fun (pkg, index) => (pkg, (answered[index]?).elim "" (·.packageId)))

/-- What follows the insert of an ordered buy: packages, assignments, the mapping. -/
def storeOrder
    (packages : List PackageRequest)
    (ordered : List PricedPackage)
    (order : AdapterCreateResult)
    (booked : BuyRows)
    (uploaded : Store) : CreateOutcome :=
  let withBuy : Store := { uploaded with toBuyRows := booked }
  if order.packages.any (fun p => p.packageId = "") then
    failCreate ids (some order) ⟨.serviceUnavailable, none⟩ withBuy
  else match
      (order.packages.map (orderedPackage ordered order.mediaBuyId)).foldlM storePackage booked with
    | .error err => failCreate ids (some order) err withBuy
    | .ok packaged =>
        let withPackages : Store := { uploaded with toBuyRows := packaged }
        match assignmentGate env packages packaged with
        | some err => failCreate ids (some order) err withPackages
        | none =>
            match (namedByAdapter packages order.packages).foldlM
                (assignPackage env (env.adapter.addCreativeAssets order.mediaBuyId)
                  order.mediaBuyId) packaged with
            | .error err => failCreate ids (some order) err withPackages
            | .ok assigned =>
                let withCreatives : Store := { uploaded with toBuyRows := assigned }
                if order.packages.length < packages.length then
                  failCreate ids (some order) ⟨.serviceUnavailable, none⟩ withCreatives
                else
                  let linked := withCreatives.linkStepToObject env.tenantId
                    (createMapping ids order.mediaBuyId)
                  ⟨linked.updateWorkflowStep ids.stepId .completed, some order,
                    .completed order.mediaBuyId 1⟩

/-- The branch that asks the ad server at once. -/
def createOrdered
    (packages : List PackageRequest)
    (uploaded : Store) : CreateOutcome :=
  match formatGate env req <|> preValidatePackageCreatives env packages uploaded.toBuyRows with
  | some err => failCreate ids none err uploaded
  | none =>
      let ordered := directOrder env req ids packages
      if env.adapter.reportsProblem ordered then
        failCreate ids none ⟨.validationError, none⟩ uploaded
      else match env.adapter.createMediaBuy ordered with
        | .error err => failCreate ids none err uploaded
        | .ok order =>
            let row := (newBuy env req order.mediaBuyId packages).syncRow env.later
            match bookBuy env req row uploaded.toBuyRows with
            | .error err => failCreate ids (some order) err uploaded
            | .ok booked => storeOrder env ids packages ordered order booked uploaded

/-- `_create_media_buy_impl`. -/
def createMediaBuy : CreateOutcome :=
  match env.registrationGate with
  | some err => ⟨store, none, .failed err⟩
  | none =>
      let started := store.createWorkflowStep (createStep env ids)
      match createGate env req with
      | some err => failCreate ids none err started
      | none =>
          match uploadCreatives env req.packages started.toBuyRows with
          | (rows, .error err) => failCreate ids none err { started with toBuyRows := rows }
          | (rows, .ok packages) =>
              let uploaded : Store := { started with toBuyRows := rows }
              if createNeedsApproval env then createPending env req ids packages uploaded
              else if env.configurationProblem (productsInBuy env req) then
                failCreate ids none ⟨.validationError, none⟩ uploaded
              else if ! productAutoCreate env req then
                -- the id of a buy is generated here, but no buy is stored under it
                ⟨uploaded.updateWorkflowStep ids.stepId .requiresApproval, none,
                  .submitted ids.stepId⟩
              else createOrdered env req ids packages uploaded

end Tool

section Inversion

variable {env : CreateEnv} {req : CreateRequest} {store : Store} {ids : GeneratedIds store}

theorem budgetGate_of_createGate
    (hgate : createGate env req = none) :
    budgetGate req = none := by
  simp only [createGate, Option.orElse_eq_orElse, Option.orElse_eq_or,
    Option.or_eq_none_iff] at hgate
  exact hgate.1

/-- Some package of a request that passes the budget check has a budget. -/
theorem exists_budget_of_totalBudget_pos
    (h : budgetGate req = none) :
    ∃ pkg ∈ req.packages, ∃ b, pkg.budget = some b ∧ b ≠ 0 := by
  by_contra hnone
  push Not at hnone
  have hzero : totalBudget req = 0 := by
    refine List.sum_eq_zero ?_
    intro x hx
    obtain ⟨pkg, hpkg, rfl⟩ := List.mem_map.mp hx
    cases hbudget : pkg.budget with
    | none => rfl
    | some b => exact hnone pkg hpkg b hbudget
  simp [budgetGate, validateBudgetPositive, hzero] at h

/-- An upload names creatives in the package and changes nothing else of it. -/
def UploadedAs
    (pkg updated : PackageRequest) : Prop :=
  ∃ creativeIds, updated = { pkg with creativeIds := creativeIds }

theorem uploadPackage_ok
    {pkg updated : PackageRequest} {rows rows' : BuyRows}
    (h : uploadPackage env pkg rows = (rows', .ok updated)) :
    UploadedAs pkg updated := by
  unfold uploadPackage at h
  split at h
  · cases h
    exact ⟨_, rfl⟩
  · split at h
    · cases h
    · split at h
      · cases h
        exact ⟨_, rfl⟩
      · cases h

theorem uploadPackage_keeps
    {Inv : BuyRows → Prop}
    (hcreative : ∀ rows row, Creative.WrittenAt row env.now → Inv rows →
      Inv { rows with creatives := rows.creatives.put row })
    (pkg : PackageRequest)
    {rows : BuyRows}
    (hrows : Inv rows) :
    Inv (uploadPackage env pkg rows).1 := by
  unfold uploadPackage
  split
  · exact hrows
  · split
    · exact hrows
    · next hsync =>
        have hsynced := run_syncCreative_keeps hcreative (run_of_foldlM hsync) hrows
        split
        · exact hsynced
        · exact hsynced

theorem uploadCreatives_keeps
    {Inv : BuyRows → Prop}
    (hcreative : ∀ rows row, Creative.WrittenAt row env.now → Inv rows →
      Inv { rows with creatives := rows.creatives.put row })
    (packages : List PackageRequest)
    {rows : BuyRows}
    (hrows : Inv rows) :
    Inv (uploadCreatives env packages rows).1 := by
  induction packages generalizing rows with
  | nil => exact hrows
  | cons pkg pkgs ih =>
      have hfirst : Inv (uploadPackage env pkg rows).1 := uploadPackage_keeps hcreative pkg hrows
      unfold uploadCreatives
      split
      · next hupload =>
          rw [hupload] at hfirst
          exact hfirst
      · next hupload =>
          rw [hupload] at hfirst
          have hrest := ih hfirst
          split
          · next hrests =>
              rw [hrests] at hrest
              exact hrest
          · next hrests =>
              rw [hrests] at hrest
              exact hrest

theorem uploadCreatives_ok
    {packages updated : List PackageRequest} {rows rows' : BuyRows}
    (h : uploadCreatives env packages rows = (rows', .ok updated)) :
    List.Forall₂ UploadedAs packages updated := by
  induction packages generalizing rows rows' updated with
  | nil =>
      cases h
      exact .nil
  | cons pkg pkgs ih =>
      unfold uploadCreatives at h
      split at h
      · cases h
      · next hupload =>
          split at h
          · cases h
          · next hrest =>
              cases h
              exact .cons (uploadPackage_ok hupload) (ih hrest)

theorem bookBuy_ok
    {b : MediaBuy} {rows booked : BuyRows}
    (h : bookBuy env req b rows = .ok booked) :
    rows.insertBuy b = some booked := by
  unfold bookBuy at h
  split at h
  · cases h
  · split at h
    · cases h
    · split at h
      · cases h
      · next hinsert =>
          cases h
          exact hinsert

theorem storePackage_ok
    {rows rows' : BuyRows} {p : MediaPackage}
    (h : storePackage rows p = .ok rows') :
    (∀ b ∈ p.budget, 0 < b) ∧ rows.insertPackage p = some rows' := by
  unfold storePackage at h
  split at h
  · cases h
  · next hcolumn =>
      split at h
      · cases h
      · next hinsert =>
          cases h
          refine ⟨?_, hinsert⟩
          intro b hb
          by_contra hneg
          refine hcolumn ?_
          rw [Option.mem_def.mp hb]
          simp [not_lt.mp hneg]

/-- The packages of a transaction are stored beside the ones before. -/
theorem storePackages_ok
    {packages : List MediaPackage} {rows rows' : BuyRows}
    (h : packages.foldlM storePackage rows = .ok rows') :
    rows'.mediaBuys = rows.mediaBuys ∧
      (∀ p, p ∈ rows'.packages ↔ p ∈ packages ∨ p ∈ rows.packages) ∧
      ∀ p ∈ packages, ∀ b ∈ p.budget, 0 < b := by
  induction packages generalizing rows with
  | nil =>
      cases h
      exact ⟨rfl, by simp, by simp⟩
  | cons q qs ih =>
      rw [List.foldlM_cons] at h
      cases hstored : storePackage rows q with
      | error err =>
          rw [hstored] at h
          cases h
      | ok stored =>
          rw [hstored] at h
          obtain ⟨hpositive, hinserted⟩ := storePackage_ok hstored
          obtain ⟨hinsert, hbuys, -, -⟩ := BuyRows.insertPackage_eq_some hinserted
          obtain ⟨hbuys', hmem, hpositives⟩ := ih h
          refine ⟨hbuys'.trans hbuys, ?_, ?_⟩
          · intro p
            rw [hmem, IndexedTable.mem_insert hinsert, List.mem_cons]
            tauto
          · intro p hp
            rcases List.mem_cons.mp hp with rfl | hp
            · exact hpositive
            · exact hpositives p hp

/-- The packages of a transaction have keys of their own. -/
theorem storePackages_keys
    {packages : List MediaPackage} {rows rows' : BuyRows}
    (h : packages.foldlM storePackage rows = .ok rows') :
    (packages.map MediaPackage.primaryKey).Nodup ∧
      ∀ p ∈ packages, rows.packages.find (p.mediaBuyId, p.packageId) = none := by
  induction packages generalizing rows with
  | nil => exact ⟨List.nodup_nil, by simp⟩
  | cons q qs ih =>
      rw [List.foldlM_cons] at h
      cases hstored : storePackage rows q with
      | error err =>
          rw [hstored] at h
          cases h
      | ok stored =>
          rw [hstored] at h
          obtain ⟨hinsert, -, -, -⟩ := BuyRows.insertPackage_eq_some (storePackage_ok hstored).2
          obtain ⟨hnodup, hfree⟩ := ih h
          have hq : q.primaryKey = some (q.mediaBuyId, q.packageId) := rfl
          have hself : stored.packages.find (q.mediaBuyId, q.packageId) = some q :=
            IndexedTable.find_insert_self hinsert hq
          have hother : ∀ p ∈ qs, q.primaryKey ≠ some (p.mediaBuyId, p.packageId) := by
            intro p hp hsame
            have htaken := hfree p hp
            rw [IndexedTable.find_insert_self hinsert hsame] at htaken
            cases htaken
          refine ⟨?_, ?_⟩
          · rw [List.map_cons, List.nodup_cons]
            refine ⟨?_, hnodup⟩
            intro hmem
            obtain ⟨p, hp, hsame⟩ := List.mem_map.mp hmem
            exact hother p hp hsame.symm
          · intro p hp
            rcases List.mem_cons.mp hp with rfl | hp
            · have hclear := ((IndexedTable.insert_eq_some_iff _).mp hinsert).1
              rw [IndexedTable.conflicts_iff_find _ hq] at hclear
              simpa using hclear
            · rw [← IndexedTable.find_insert_of_ne hinsert (hother p hp)]
              exact hfree p hp

theorem assignCreative_keeps
    {Inv : BuyRows → Prop}
    (hassignment : ∀ (rows : BuyRows) table, Inv rows → Inv { rows with assignments := table })
    {upload : Creative → Option BuyerError} {mediaBuyId packageId creativeId : String}
    {rows rows' : BuyRows}
    (h : assignCreative env upload mediaBuyId packageId rows creativeId = .ok rows')
    (hrows : Inv rows) :
    Inv rows' := by
  unfold assignCreative at h
  split at h
  · cases h
    exact hrows
  · split at h
    · cases h
    · split at h
      · cases h
      · cases h
        exact hassignment _ _ hrows

theorem assignPackages_keeps
    {Inv : BuyRows → Prop}
    (hassignment : ∀ (rows : BuyRows) table, Inv rows → Inv { rows with assignments := table })
    {upload : Creative → Option BuyerError} {mediaBuyId : String}
    {named : List (PackageRequest × String)} {rows rows' : BuyRows}
    (h : named.foldlM (assignPackage env upload mediaBuyId) rows = .ok rows')
    (hrows : Inv rows) :
    Inv rows' := by
  have hinv : Preserved (FoldStep (assignPackage env upload mediaBuyId)) Inv := by
    intro r entry r' hstep hr
    have hentry : assignPackage env upload mediaBuyId r entry = .ok r' := hstep
    unfold assignPackage at hentry
    split at hentry
    · cases hentry
    · have hcreatives : Preserved
          (FoldStep (assignCreative env upload mediaBuyId entry.2)) Inv := by
        intro s c t hcreative hs
        exact assignCreative_keeps hassignment hcreative hs
      exact (run_of_foldlM hentry).preserves hcreatives hr
  exact (run_of_foldlM h).preserves hinv hrows

/-- A create stored a buy with its packages and mapped its step to it. -/
structure Booked
    (env : CreateEnv)
    (ids : GeneratedIds store)
    (row : MediaBuy)
    (packages : List MediaPackage)
    (status : WorkflowStepStatus)
    (after : Store) : Prop where
  unbooked : store.mediaBuys.find row.mediaBuyId = none
  mediaBuy : after.mediaBuys.find row.mediaBuyId = some row
  mem_packages : ∀ p, p ∈ after.packages ↔ p ∈ packages ∨ p ∈ store.packages
  columns_pos : ∀ p ∈ packages, ∀ b ∈ p.budget, 0 < b
  keys_nodup : (packages.map MediaPackage.primaryKey).Nodup
  mappings : after.mappings = store.mappings ++ [createMapping ids row.mediaBuyId]
  step : after.steps.find ids.stepId = some ((createStep env ids).withStatus status)

/-- A create has stored its step, perhaps some creatives, and nothing else. -/
structure StepOnly
    (env : CreateEnv)
    (ids : GeneratedIds store)
    (status : WorkflowStepStatus)
    (after : Store) : Prop where
  mediaBuys : after.mediaBuys = store.mediaBuys
  packages : after.packages = store.packages
  mappings : after.mappings = store.mappings
  step : after.steps.find ids.stepId = some ((createStep env ids).withStatus status)

/-- The columns of an inserted row. -/
structure InsertedAs
    (b : NewBuy)
    (row : MediaBuy) : Prop where
  mediaBuyId : row.mediaBuyId = b.mediaBuyId
  tenantId : row.tenantId = b.tenantId
  principalId : row.principalId = b.principalId
  currency : row.currency = b.currency
  startTime : row.startTime = some b.startTime
  endTime : row.endTime = some b.endTime

/-- The ways a create is accepted. -/
inductive CreateAccepted
    (env : CreateEnv)
    (req : CreateRequest)
    (ids : GeneratedIds store) : CreateOutcome → Prop
  /-- the buy waits for approval -/
  | pending {packages : List PackageRequest} {rows : BuyRows} {after : Store}
      (hmanual : createNeedsApproval env = true)
      (hupload : uploadCreatives env req.packages store.toBuyRows = (rows, .ok packages))
      (hbooked : Booked env ids ((newBuy env req ids.mediaBuyId packages).manualRow env.later)
        ((ids.named packages).map (pendingPackage env req ids)) .requiresApproval after) :
      CreateAccepted env req ids ⟨after, none, .submitted ids.stepId⟩
  /-- the step waits, on account of a product -/
  | configured {after : Store}
      (hmanual : createNeedsApproval env = false)
      (hauto : productAutoCreate env req = false)
      (hstep : StepOnly env ids .requiresApproval after) :
      CreateAccepted env req ids ⟨after, none, .submitted ids.stepId⟩
  /-- the ad server has the order -/
  | ordered {packages : List PackageRequest} {order : AdapterCreateResult} {after : Store}
      (hmanual : createNeedsApproval env = false)
      (hauto : productAutoCreate env req = true)
      (hbooked : Booked env ids ((newBuy env req order.mediaBuyId packages).syncRow env.later)
        (order.packages.map (orderedPackage (directOrder env req ids packages)
          order.mediaBuyId)) .completed after) :
      CreateAccepted env req ids ⟨after, some order, .completed order.mediaBuyId 1⟩

theorem insertedAs_of_createFromRequest
    (b : NewBuy)
    (status : PersistedMediaBuyStatus)
    (now : DateTime)
    (sellerCommitted : Bool) :
    InsertedAs b (MediaBuy.createFromRequest b.mediaBuyId b.tenantId b.principalId b.accountId
      b.idempotencyKey b.currency b.startTime b.endTime status now sellerCommitted) := by
  unfold MediaBuy.createFromRequest
  obtain ⟨confirmedAt, hstamp⟩ := MediaBuy.stamp_eq _ sellerCommitted now
  rw [hstamp]
  exact ⟨rfl, rfl, rfl, rfl, rfl, rfl⟩

theorem NewBuy.manualRow_inserted
    (b : NewBuy)
    (now : DateTime) :
    InsertedAs b (b.manualRow now) :=
  insertedAs_of_createFromRequest b .pendingApproval now false

theorem NewBuy.syncRow_inserted
    (b : NewBuy)
    (now : DateTime) :
    InsertedAs b (b.syncRow now) :=
  insertedAs_of_createFromRequest b _ now true

theorem linkStepToObject_of_step
    {reached : Store} {status : WorkflowStepStatus}
    (hstep : reached.steps.find ids.stepId = some ((createStep env ids).withStatus status))
    (rows : BuyRows)
    (mediaBuyId : String) :
    ({ reached with toBuyRows := rows } : Store).linkStepToObject env.tenantId
        (createMapping ids mediaBuyId) =
      ({ reached with toBuyRows := rows } : Store).linkWorkflowToObject
        (createMapping ids mediaBuyId) := by
  unfold Store.linkStepToObject
  rw [if_pos]
  simp only [createMapping, hstep]
  simp [WorkflowStep.withStatus, createStep]

theorem StepOnly.withStatus
    {status status' : WorkflowStepStatus} {reached : Store}
    (h : StepOnly env ids status reached) :
    StepOnly env ids status' (reached.updateWorkflowStep ids.stepId status') where
  mediaBuys := h.mediaBuys
  packages := h.packages
  mappings := h.mappings
  step := by
    rw [Store.find_updateWorkflowStep, h.step]
    rfl

theorem booked_of_stored
    {row : MediaBuy} {packages : List MediaPackage} {status : WorkflowStepStatus}
    {reached after : Store} {booked packaged : BuyRows}
    (hreached : StepOnly env ids status reached)
    (hbook : reached.toBuyRows.insertBuy row = some booked)
    (hstore : packages.foldlM storePackage booked = .ok packaged)
    (hbuys : after.mediaBuys = packaged.mediaBuys)
    (hpackages : after.packages = packaged.packages)
    (hmappings : after.mappings = reached.mappings ++ [createMapping ids row.mediaBuyId])
    {status' : WorkflowStepStatus}
    (hstep : after.steps.find ids.stepId = some ((createStep env ids).withStatus status')) :
    Booked env ids row packages status' after := by
  obtain ⟨hinsert, hold, -, -⟩ := BuyRows.insertBuy_eq_some hbook
  obtain ⟨hsame, hmem, hpositive⟩ := storePackages_ok hstore
  have hkey : row.primaryKey = some row.mediaBuyId := rfl
  have hfree : reached.mediaBuys.find row.mediaBuyId = none := by
    have hclear := ((IndexedTable.insert_eq_some_iff _).mp hinsert).1
    rw [IndexedTable.conflicts_iff_find _ hkey] at hclear
    simpa using hclear
  refine ⟨?_, ?_, ?_, hpositive, (storePackages_keys hstore).1, ?_, hstep⟩
  · rw [← hreached.mediaBuys]
    exact hfree
  · rw [hbuys, hsame]
    exact IndexedTable.find_insert_self hinsert hkey
  · intro p
    rw [hpackages, hmem, hold, hreached.packages]
  · rw [hmappings, hreached.mappings]

theorem assignPackages_frame
    {upload : Creative → Option BuyerError} {mediaBuyId : String}
    {named : List (PackageRequest × String)} {rows rows' : BuyRows}
    (h : named.foldlM (assignPackage env upload mediaBuyId) rows = .ok rows') :
    rows'.mediaBuys = rows.mediaBuys ∧ rows'.packages = rows.packages := by
  have hassignment : ∀ (r : BuyRows) table,
      r.mediaBuys = rows.mediaBuys ∧ r.packages = rows.packages →
      ({ r with assignments := table } : BuyRows).mediaBuys = rows.mediaBuys ∧
        ({ r with assignments := table } : BuyRows).packages = rows.packages :=
    fun _ _ hr => hr
  exact assignPackages_keeps hassignment h ⟨rfl, rfl⟩

theorem createPending_accepted
    {packages : List PackageRequest} {uploaded : Store} {status : WorkflowStepStatus}
    (huploaded : StepOnly env ids status uploaded)
    (h : ∀ err, (createPending env req ids packages uploaded).reply ≠ .failed err) :
    ∃ after, createPending env req ids packages uploaded = ⟨after, none, .submitted ids.stepId⟩ ∧
      Booked env ids ((newBuy env req ids.mediaBuyId packages).manualRow env.later)
        ((ids.named packages).map (pendingPackage env req ids)) .requiresApproval after := by
  unfold createPending at h ⊢
  split
  · next err hgate =>
      rw [hgate] at h
      exact absurd rfl (h err)
  · next hgate =>
      rw [hgate] at h
      simp only at h ⊢
      split
      · next err hbook =>
          rw [hbook] at h
          exact absurd rfl (h err)
      · next booked hbook =>
          rw [hbook] at h
          simp only at h
          split
          · next err hstore =>
              rw [hstore] at h
              exact absurd rfl (h err)
          · next packaged hstore =>
              rw [hstore] at h
              simp only at h
              split
              · next err hassign =>
                  rw [hassign] at h
                  exact absurd rfl (h err)
              · next assigned hassign =>
                  have hpending : StepOnly env ids .requiresApproval
                      (uploaded.updateWorkflowStep ids.stepId .requiresApproval) :=
                    huploaded.withStatus
                  have hid : ((newBuy env req ids.mediaBuyId packages).manualRow
                      env.later).mediaBuyId = ids.mediaBuyId :=
                    (NewBuy.manualRow_inserted _ _).mediaBuyId
                  obtain ⟨hbuys, hpackages⟩ := assignPackages_frame hassign
                  refine ⟨_, rfl, booked_of_stored hpending (bookBuy_ok hbook) hstore hbuys
                    hpackages ?_ ?_⟩
                  · rw [linkStepToObject_of_step hpending.step packaged, hid]
                    rfl
                  · rw [linkStepToObject_of_step hpending.step packaged]
                    exact hpending.step

theorem storeOrder_accepted
    {packages : List PackageRequest} {ordered : List PricedPackage} {order : AdapterCreateResult}
    {row : MediaBuy} {booked : BuyRows} {uploaded : Store} {status : WorkflowStepStatus}
    (huploaded : StepOnly env ids status uploaded)
    (hbook : uploaded.toBuyRows.insertBuy row = some booked)
    (hid : row.mediaBuyId = order.mediaBuyId)
    (h : ∀ err, (storeOrder env ids packages ordered order booked uploaded).reply ≠ .failed err) :
    ∃ after, storeOrder env ids packages ordered order booked uploaded =
        ⟨after, some order, .completed order.mediaBuyId 1⟩ ∧
      Booked env ids row (order.packages.map (orderedPackage ordered order.mediaBuyId)) .completed
        after := by
  unfold storeOrder at h ⊢
  simp only at h ⊢
  split
  · next hanswer =>
      rw [if_pos hanswer] at h
      exact absurd rfl (h _)
  · next hanswer =>
      rw [if_neg hanswer] at h
      split
      · next err hstore =>
          rw [hstore] at h
          exact absurd rfl (h err)
      · next packaged hstore =>
          rw [hstore] at h
          simp only at h
          split
          · next err hgate =>
              rw [hgate] at h
              exact absurd rfl (h err)
          · next hgate =>
              rw [hgate] at h
              simp only at h
              split
              · next err hassign =>
                  rw [hassign] at h
                  exact absurd rfl (h err)
              · next assigned hassign =>
                  rw [hassign] at h
                  simp only at h
                  split
                  · next hfewer =>
                      rw [if_pos hfewer] at h
                      exact absurd rfl (h _)
                  · obtain ⟨hbuys, hpackages⟩ := assignPackages_frame hassign
                    refine ⟨_, rfl, ?_⟩
                    rw [linkStepToObject_of_step huploaded.step assigned]
                    refine booked_of_stored huploaded hbook hstore hbuys hpackages ?_ ?_
                    · rw [hid]
                      rfl
                    · rw [Store.find_updateWorkflowStep]
                      simp only [Store.linkWorkflowToObject, huploaded.step]
                      rfl

theorem createOrdered_accepted
    {packages : List PackageRequest} {uploaded : Store} {status : WorkflowStepStatus}
    (huploaded : StepOnly env ids status uploaded)
    (h : ∀ err, (createOrdered env req ids packages uploaded).reply ≠ .failed err) :
    ∃ order after, createOrdered env req ids packages uploaded =
        ⟨after, some order, .completed order.mediaBuyId 1⟩ ∧
      Booked env ids ((newBuy env req order.mediaBuyId packages).syncRow env.later)
        (order.packages.map (orderedPackage (directOrder env req ids packages)
          order.mediaBuyId)) .completed after := by
  unfold createOrdered at h ⊢
  split
  · next err hgate =>
      rw [hgate] at h
      exact absurd rfl (h err)
  · next hgate =>
      rw [hgate] at h
      simp only at h ⊢
      split
      · next hproblem =>
          rw [if_pos hproblem] at h
          exact absurd rfl (h _)
      · next hproblem =>
          rw [if_neg hproblem] at h
          split
          · next err hadapter =>
              rw [hadapter] at h
              exact absurd rfl (h err)
          · next order hadapter =>
              rw [hadapter] at h
              simp only at h ⊢
              split
              · next err hbook =>
                  rw [hbook] at h
                  exact absurd rfl (h err)
              · next booked hbook =>
                  rw [hbook] at h
                  simp only at h
                  have hid : ((newBuy env req order.mediaBuyId packages).syncRow
                      env.later).mediaBuyId = order.mediaBuyId :=
                    (NewBuy.syncRow_inserted _ _).mediaBuyId
                  obtain ⟨after, heq, hbooked⟩ :=
                    storeOrder_accepted huploaded (bookBuy_ok hbook) hid h
                  exact ⟨order, after, heq, hbooked⟩

theorem started_stepOnly :
    StepOnly env ids .inProgress (store.createWorkflowStep (createStep env ids)) where
  mediaBuys := rfl
  packages := rfl
  mappings := rfl
  step := Store.find_createWorkflowStep store (createStep env ids)

theorem StepOnly.uploaded
    {status : WorkflowStepStatus} {started : Store}
    (h : StepOnly env ids status started)
    (packages : List PackageRequest) :
    StepOnly env ids status
      { started with toBuyRows := (uploadCreatives env packages started.toBuyRows).1 } := by
  have hcreative : ∀ (r : BuyRows) (row : Creative), Creative.WrittenAt row env.now →
      r.mediaBuys = store.mediaBuys ∧ r.packages = store.packages →
      ({ r with creatives := r.creatives.put row } : BuyRows).mediaBuys = store.mediaBuys ∧
        ({ r with creatives := r.creatives.put row } : BuyRows).packages = store.packages :=
    fun _ _ _ hr => hr
  have hkept := uploadCreatives_keeps hcreative packages ⟨h.mediaBuys, h.packages⟩
  exact ⟨hkept.1, hkept.2, h.mappings, h.step⟩

/-- A create that does not fail passed its checks and is accepted in one of three ways. -/
theorem createMediaBuy_accepted
    (h : ∀ err, (createMediaBuy env req ids).reply ≠ .failed err) :
    createGate env req = none ∧ CreateAccepted env req ids (createMediaBuy env req ids) := by
  unfold createMediaBuy at h ⊢
  split
  · next err hregistration =>
      rw [hregistration] at h
      exact absurd rfl (h err)
  · next hregistration =>
      rw [hregistration] at h
      simp only at h ⊢
      split
      · next err hgate =>
          rw [hgate] at h
          exact absurd rfl (h err)
      · next hgate =>
          rw [hgate] at h
          refine ⟨hgate, ?_⟩
          have hstarted : StepOnly env ids .inProgress
              (store.createWorkflowStep (createStep env ids)) := started_stepOnly
          have hstored := hstarted.uploaded req.packages
          simp only at h ⊢
          split
          · next rows err hupload =>
              rw [hupload] at h
              exact absurd rfl (h err)
          · next rows packages hupload =>
              rw [hupload] at h hstored
              simp only at h hstored
              split
              · next hmanual =>
                  rw [if_pos hmanual] at h
                  obtain ⟨after, heq, hbooked⟩ := createPending_accepted hstored h
                  rw [heq]
                  exact .pending hmanual hupload hbooked
              · next hmanual =>
                  rw [if_neg hmanual] at h
                  split
                  · next hproblem =>
                      rw [if_pos hproblem] at h
                      exact absurd rfl (h _)
                  · next hproblem =>
                      rw [if_neg hproblem] at h
                      split
                      · next hauto =>
                          exact .configured (by simpa using hmanual) (by simpa using hauto)
                            hstored.withStatus
                      · next hauto =>
                          rw [if_neg hauto] at h
                          obtain ⟨order, after, heq, hbooked⟩ := createOrdered_accepted hstored h
                          rw [heq]
                          exact .ordered (by simpa using hmanual) (by simpa using hauto) hbooked

end Inversion

section Samples

/-- A banner of 300 by 250. -/
def sampleFormat : FormatId where
  agentUrl := "https://creative.adcontextprotocol.org"
  id := "display_300x250"
  width := some 300
  height := some 250
  durationMs := none
  canonicalUrl := some "https://creative.adcontextprotocol.org/"

/-- A product of a fixed price; whether it may be created without a human is a parameter. -/
def sampleProduct
    (autoCreate : Bool) : Product where
  productId := "prod_1"
  name := "Homepage"
  deliveryType := .guaranteed
  pricingOptions :=
    [{ pricingOptionId := "cpm_usd_fixed"
       pricingModel := .cpm
       currency := "USD"
       isFixed := true
       rate := some 10
       floor := none
       minSpendPerPackage := none }]
  formats := [sampleFormat]
  profileFormats := none
  placements := []
  propertyTargetingAllowed := false
  autoCreateEnabled := some autoCreate

/-- An adapter that books one package under the id it was given. -/
def sampleCreateAdapter : CreateAdapter where
  manualApprovalRequired := false
  manualApprovalOperations := ["create_media_buy"]
  reportsProblem := fun _ => false
  createMediaBuy := fun packages =>
    .ok ⟨"order_1", packages.map (fun p => ⟨p.packageId, some p.productId, false⟩)⟩
  addCreativeAssets := fun _ _ => none

/-- A tenant with the ceiling of the sample limit; human review and automatic creation
are parameters. -/
def sampleCreateEnv
    (humanReview autoCreate : Bool) : CreateEnv where
  tenantId := "tenant"
  principalId := "principal"
  accountId := "account"
  now := 1000000
  later := 2000000
  humanReviewRequired := humanReview
  registrationGate := none
  product := fun p => if p = "prod_1" then some (sampleProduct autoCreate) else none
  currencyLimit := fun _ => some sampleLimit
  networkCurrencies := none
  lower := id
  collectTargetingViolations := fun _ => []
  hasPropertyList := fun _ => false
  verdict := fun _ _ => .accepted .approved none
  creativeProblem := fun _ _ => false
  configurationProblem := fun _ => false
  lostRace := ⟨.internalError, none⟩
  adapter := sampleCreateAdapter

/-- Ten days for 900 dollars. -/
def sampleCreateRequest : CreateRequest where
  startTime := some (.at 86400000000)
  endTime := some (86400000000 * 11)
  packages := [{ productId := "prod_1", budget := some 900, pricingOptionId := "cpm_usd_fixed" }]

/-- The first ids of a fresh store. -/
def sampleIds : GeneratedIds Store.empty where
  stepId := "step_1"
  mediaBuyId := "mb_1"
  packageToken := fun _ => "token"
  stepId_fresh := rfl
  stepId_unmapped := by simp [Store.empty]
  mediaBuyId_fresh := rfl

end Samples

end MediaBuys
end SalesAgent
