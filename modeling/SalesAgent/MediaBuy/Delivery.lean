import SalesAgent.MediaBuy.Financial
import SalesAgent.MediaBuy.ReadStatus
import SalesAgent.Webhooks.Registration

/-!
# The `get_media_buy_delivery` tool

A report goes over the buys of the caller that the request selects.  For each it asks the
adapter, takes the figures of a package from the adapter's answer or an equal part of the totals
where the answer lacks the package, and states the terms of the package.  What the adapter fails
at, and what a buy crashes at, becomes an advisory error; terms that nothing states fail the
whole request.

**Results.**
* `packageDelivery_untermed`: when an item of `by_package` fails the request.
* `processBuy_spec`: what becomes of one buy, and why.
-/

namespace SalesAgent
namespace MediaBuys

open Idempotency (Json)
open Webhooks (pyStr truthy)

section Rows

/-- A pricing option of some product of the tenant. -/
structure TenantOption where
  productId : String
  pricingOptionId : String
  pricingModel : String
  rate : Option Decimal
  currency : String
  deriving DecidableEq, Repr

/-- A buy as the report reads it, with the ids and configurations of its packages. -/
structure DeliveryRow where
  stored : StoredBuy
  tenantId : String
  principalId : String
  rawRequest : Json
  packages : List (String × Json)

def DeliveryRow.mediaBuyId
    (row : DeliveryRow) : String :=
  row.stored.mediaBuyId

/-- The rows the report reads; the ids of buys are unique. -/
structure DeliveryStore where
  mediaBuys : List DeliveryRow
  pricingOptions : List TenantOption
  /-- the largest sequence number of the polls of a buy -/
  maxSequence : String → Nat
  unique : (mediaBuys.map DeliveryRow.mediaBuyId).Nodup

end Rows

section Figures

/-- A package in an adapter's answer. -/
structure AdapterPackageDelivery where
  packageId : String
  impressions : Int
  spend : Decimal
  /-- the rows by placement, region and device -/
  breakdown : Json

/-- The totals of an adapter's answer. -/
structure AdapterTotals where
  impressions : Option Decimal
  spend : Option Decimal
  conversions : Option Decimal := none
  conversionValue : Option Decimal := none
  viewability : Option Json := none

/-- What an adapter answers for a buy. -/
structure AdapterDelivery where
  byPackage : List AdapterPackageDelivery
  totals : AdapterTotals

/-- The terms a package is reported with. -/
structure PackageTerms where
  pricingModel : Json
  rate : Decimal
  currency : Json
  deriving DecidableEq

/-- An item of `by_package`. -/
structure PackageDelivery where
  packageId : Json
  impressions : Decimal
  spend : Decimal
  clicks : Option Int
  pacingIndex : Decimal
  terms : PackageTerms
  breakdowns : Json

/-- The statuses of a report. -/
inductive DeliveryStatus
  | canonical (status : CanonicalStatus)
  | reportingDelayed
  deriving DecidableEq, Repr

/-- The totals of an entry. -/
structure DeliveryTotals where
  impressions : Int
  spend : Decimal
  clicks : Int
  ctr : Option Decimal
  conversions : Option Decimal
  conversionValue : Option Decimal
  viewability : Option Json

/-- An entry of `media_buy_deliveries`. -/
structure BuyDelivery where
  mediaBuyId : String
  status : DeliveryStatus
  totals : DeliveryTotals
  byPackage : List PackageDelivery

/-- What a report is given besides the request and the rows. -/
structure DeliveryEnv where
  tenantId : String
  principalId : String
  /-- the clock at the period and at the response -/
  now : DateTime
  later : DateTime
  /-- `get_media_buy_delivery` of the adapter; `none` where it raises -/
  adapter : String → Option AdapterDelivery
  reportingCircuitOpen : Bool
  /-- `float`, of a stored rate -/
  float : Json → Option Decimal
  /-- the text of a container -/
  reprOf : Json → String
  /-- the breakdowns of a package from its raw rows and figures; `none` where a row is refused -/
  breakdowns : Option Json → Decimal → Decimal → Option Int → Option Json
  /-- whether the models of the report accept a value -/
  fitsPackage : PackageDelivery → Bool
  fitsBuy : BuyDelivery → Bool

end Figures

section Packages

variable (env : DeliveryEnv)

/-- What the processing of a buy raises: terms that nothing states, or anything else. -/
inductive BuyFailure
  | untermed (packageId : Json)
  | crash

/-- A package of a raw request, which is read as a dictionary. -/
def rawPackage : Json → Except BuyFailure (List (String × Json))
  | .obj pkg => .ok pkg
  | _ => .error .crash

/-- The packages of a raw request; iterating over something else raises. -/
def rawPackages : Json → Except BuyFailure (List (List (String × Json)))
  | .obj fields =>
      match fields.lookup "packages" with
      | none => .ok []
      | some (.arr items) => items.mapM rawPackage
      | some (.obj []) => .ok []
      | some (.str "") => .ok []
      | some _ => .error .crash
  | _ => .ok []

/-- A key of a dictionary has a hash. -/
def hashable : Json → Bool
  | .arr _ => false
  | .obj _ => false
  | _ => true

/-- `dict.get`, the last entry of a key winning. -/
def dictGet
    {α : Type}
    (entries : List (String × α)) : Json → Except BuyFailure (Option α)
  | .str key => .ok (entries.reverse.lookup key)
  | .arr _ => .error .crash
  | .obj _ => .error .crash
  | _ => .ok none

/-- The pricing that was agreed for one package. -/
def agreedPricing
    (pkg : String × Json) : Except BuyFailure (Option (String × Json)) :=
  if truthy pkg.2 then
    match pkg.2 with
    | .obj config =>
        .ok (((config.lookup "pricing_info").filter truthy).map fun info => (pkg.1, info))
    | _ => .error .crash
  else .ok none

/-- `package_pricing_map` -/
def packagePricingMap
    (packages : List (String × Json)) : Except BuyFailure (List (String × Json)) :=
  (packages.mapM agreedPricing).map fun entries => entries.filterMap id

/-- The id of a package of a raw request, made up where it has none. -/
def packageIdOf
    (index : Nat)
    (pkg : List (String × Json)) : Json :=
  match (pkg.lookup "package_id").filter truthy with
  | some packageId => packageId
  | none =>
      .str ("pkg_" ++ pyStr env.reprOf ((pkg.lookup "product_id").getD (.str "unknown"))
        ++ "_" ++ toString index)

/-- The pricing option that a package of a raw request names. -/
def pricingOptionIdOf
    (pkg : List (String × Json)) : Option Json :=
  (pkg.lookup "pricing_option_id").filter truthy

/-- The terms of one source, where it states all three. -/
def termsOfInfo : Json → Except BuyFailure (Option PackageTerms)
  | .obj info =>
      match (info.lookup "pricing_model").filter (· ≠ .null),
          (info.lookup "rate").filter (· ≠ .null),
          (info.lookup "currency").filter (· ≠ .null) with
      | some pricingModel, some rate, some currency =>
          match env.float rate with
          | some amount => .ok (some ⟨pricingModel, amount, currency⟩)
          | none => .error .crash
      | _, _, _ => .ok none
  | _ => .ok none

/-- The terms of an option, where it has a rate. -/
def TenantOption.terms
    (option : TenantOption) : Option PackageTerms :=
  option.rate.map fun rate => ⟨.str option.pricingModel, rate, .str option.currency⟩

/-- `_package_pricing` -/
def statedTerms
    (packageId : Json)
    (info : Option Json)
    (option : Option TenantOption) : Except BuyFailure PackageTerms :=
  match (info.elim (.ok none) (termsOfInfo env) : Except BuyFailure (Option PackageTerms)) with
  | .error failure => .error failure
  | .ok (some terms) => .ok terms
  | .ok none =>
      match option.bind TenantOption.terms with
      | some terms => .ok terms
      | none => .error (.untermed packageId)

/-- The clicks that the spend of the buy buys, of an option that charges by click. -/
def clicksOf
    (spend : Decimal)
    (option : Option TenantOption) : Option Int :=
  match option with
  | none => none
  | some option =>
      if option.pricingModel = "cpc" then
        (CurrencyLimit.truthy option.rate).map fun rate => ⌊spend / rate⌋
      else none

/-- The answer of the adapter for a package, the last one winning. -/
def adapterMetrics
    (answer : AdapterDelivery)
    (packageId : Json) : Option AdapterPackageDelivery :=
  match packageId with
  | .str key => answer.byPackage.reverse.find? fun pkg => pkg.packageId = key
  | _ => none

/-- The figures of a package: the adapter's, or an equal part of the totals. -/
def packageFigures
    (reported : Option AdapterPackageDelivery)
    (impressions : Int)
    (spend : Decimal)
    (count : Nat) : Decimal × Decimal :=
  match reported with
  | some pkg => (pkg.impressions, pkg.spend)
  | none => (impressions / count, spend / count)

/-- The pacing index, which only a serving buy has. -/
def pacingIndexOf
    (status : DeliveryStatus) : Decimal :=
  if status = .canonical .active then 1 else 0

/-- One item of `by_package`. -/
def packageDelivery
    (options : List (String × TenantOption))
    (pricing : List (String × Json))
    (answer : AdapterDelivery)
    (status : DeliveryStatus)
    (impressions : Int)
    (spend : Decimal)
    (count index : Nat)
    (pkg : List (String × Json)) : Except BuyFailure PackageDelivery :=
  let packageId := packageIdOf env index pkg
  match dictGet pricing packageId with
  | .error failure => .error failure
  | .ok info =>
      match ((pricingOptionIdOf pkg).elim (.ok none) (dictGet options) :
          Except BuyFailure (Option TenantOption)) with
      | .error failure => .error failure
      | .ok option =>
          let reported := adapterMetrics answer packageId
          let figures := packageFigures reported impressions spend count
          let clicks := clicksOf spend option
          match env.breakdowns (reported.map (·.breakdown)) figures.1 figures.2 clicks with
          | none => .error .crash
          | some breakdowns =>
              match statedTerms env packageId info option with
              | .error failure => .error failure
              | .ok terms =>
                  let item : PackageDelivery :=
                    { packageId := packageId
                      impressions := figures.1
                      spend := figures.2
                      clicks := clicks
                      pacingIndex := pacingIndexOf status
                      terms := terms
                      breakdowns := breakdowns }
                  if env.fitsPackage item then .ok item else .error .crash

/-- The items of `by_package`, numbered from an index. -/
def packageDeliveries
    (options : List (String × TenantOption))
    (pricing : List (String × Json))
    (answer : AdapterDelivery)
    (status : DeliveryStatus)
    (impressions : Int)
    (spend : Decimal)
    (count : Nat) :
    Nat → List (List (String × Json)) → Except BuyFailure (List PackageDelivery)
  | _, [] => .ok []
  | index, pkg :: pkgs =>
      match packageDelivery env options pricing answer status impressions spend count index pkg with
      | .error failure => .error failure
      | .ok item =>
          match packageDeliveries options pricing answer status impressions spend count
              (index + 1) pkgs with
          | .error failure => .error failure
          | .ok items => .ok (item :: items)

end Packages

section Buys

variable (env : DeliveryEnv)

/-- The codes of advisory errors. -/
inductive AdvisoryCode
  | mediaBuyNotFound
  | serviceUnavailable
  | internalError
  deriving DecidableEq, Repr

/-- An item of `errors`. -/
structure Advisory where
  code : AdvisoryCode
  mediaBuyId : String
  deriving DecidableEq, Repr

/-- Why a whole request fails. -/
inductive RequestFailure
  | validation (field : String)
  | persistedState (refusal : PersistedStateError)
  | untermed (packageId : Json)
  | untyped

/-- What becomes of one buy. -/
inductive BuyOutcome
  | delivered (entry : BuyDelivery)
  | advised (code : AdvisoryCode)
  | raised (failure : RequestFailure)

/-- The status of an entry; an open breaker delays the reports of a serving buy. -/
def deliveryStatus
    (status : CanonicalStatus) : DeliveryStatus :=
  if status = .active ∧ env.reportingCircuitOpen then .reportingDelayed else .canonical status

/-- The figures that every entry has: whole impressions and the spend. -/
def reportedTotals
    (answer : AdapterDelivery) : Option (Int × Decimal) :=
  match answer.totals.spend, answer.totals.impressions with
  | some spend, some impressions => some (impressions.truncate, spend)
  | _, _ => none

/-- `by_package`, of a raw request that is an object. -/
def byPackage
    (options : List (String × TenantOption))
    (pricing : List (String × Json))
    (answer : AdapterDelivery)
    (status : DeliveryStatus)
    (impressions : Int)
    (spend : Decimal)
    (rawRequest : Json) : Except BuyFailure (List PackageDelivery) :=
  match rawPackages rawRequest with
  | .error failure => .error failure
  | .ok pkgs =>
      packageDeliveries env options pricing answer status impressions spend pkgs.length 0 pkgs

/-- The entry of a buy; its clicks are not calculated. -/
def buyEntry
    (mediaBuyId : String)
    (status : DeliveryStatus)
    (answer : AdapterDelivery)
    (impressions : Int)
    (spend : Decimal)
    (items : List PackageDelivery) : BuyDelivery where
  mediaBuyId := mediaBuyId
  status := status
  totals :=
    { impressions := impressions
      spend := spend
      clicks := 0
      ctr := if 0 < impressions then some (0 / impressions) else none
      conversions := answer.totals.conversions
      conversionValue := answer.totals.conversionValue
      viewability := answer.totals.viewability }
  byPackage := items

/-- The body of the loop over buys. -/
def processBuy
    (options : List (String × TenantOption))
    (referenceDate : Int)
    (row : DeliveryRow) : BuyOutcome :=
  match row.stored.resolveCanonicalStatus referenceDate with
  | .error refusal => .raised (.persistedState refusal)
  | .ok canonical =>
      let status := deliveryStatus env canonical
      match env.adapter row.mediaBuyId with
      | none => .advised .serviceUnavailable
      | some answer =>
          match reportedTotals answer with
          | none => .advised .serviceUnavailable
          | some (impressions, spend) =>
              match packagePricingMap row.packages with
              | .error _ => .advised .internalError
              | .ok pricing =>
                  match byPackage env options pricing answer status impressions spend
                      row.rawRequest with
                  | .error (.untermed packageId) => .raised (.untermed packageId)
                  | .error .crash => .advised .internalError
                  | .ok items =>
                      let entry := buyEntry row.mediaBuyId status answer impressions spend items
                      if env.fitsBuy entry then .delivered entry else .advised .internalError

/-- The accumulators of the loop. -/
structure Tally where
  deliveries : List BuyDelivery
  totalSpend : Decimal
  totalImpressions : Int
  mediaBuyCount : Nat
  totalClicks : Int
  totalConversions : Option Decimal
  totalConversionValue : Option Decimal
  adapterErrors : List Advisory

def Tally.empty : Tally where
  deliveries := []
  totalSpend := 0
  totalImpressions := 0
  mediaBuyCount := 0
  totalClicks := 0
  totalConversions := none
  totalConversionValue := none
  adapterErrors := []

/-- An optional total, which a metric that is there is added to. -/
def addMetric
    (total metric : Option Decimal) : Option Decimal :=
  match metric with
  | none => total
  | some x => some (total.getD 0 + x)

/-- An entry joins the report. -/
def Tally.deliver
    (tally : Tally)
    (entry : BuyDelivery) : Tally where
  deliveries := tally.deliveries ++ [entry]
  totalSpend := tally.totalSpend + entry.totals.spend
  totalImpressions := tally.totalImpressions + entry.totals.impressions
  mediaBuyCount := tally.mediaBuyCount + 1
  totalClicks := tally.totalClicks + entry.totals.clicks
  totalConversions := addMetric tally.totalConversions entry.totals.conversions
  totalConversionValue := addMetric tally.totalConversionValue entry.totals.conversionValue
  adapterErrors := tally.adapterErrors

/-- A buy is left out with an advisory error. -/
def Tally.advise
    (tally : Tally)
    (error : Advisory) : Tally :=
  { tally with adapterErrors := tally.adapterErrors ++ [error] }

/-- One turn of the loop. -/
def tallyBuy
    (options : List (String × TenantOption))
    (referenceDate : Int)
    (tally : Tally)
    (row : DeliveryRow) : Except RequestFailure Tally :=
  match processBuy env options referenceDate row with
  | .delivered entry => .ok (tally.deliver entry)
  | .advised code => .ok (tally.advise ⟨code, row.mediaBuyId⟩)
  | .raised failure => .error failure

end Buys

section Report

variable (env : DeliveryEnv)

/-- `status_filter`. -/
inductive StatusFilter
  | absent
  | many (statuses : List String)
  | single (status : String)

/-- What the report reads of a `get_media_buy_delivery` request; dates are numbers of days. -/
structure DeliveryRequest where
  mediaBuyIds : List String := []
  statusFilter : StatusFilter := .absent
  startDate : Option Int := none
  endDate : Option Int := none

/-- The text of a canonical status. -/
def CanonicalStatus.wire : CanonicalStatus → String
  | .pendingCreatives => "pending_creatives"
  | .pendingStart => "pending_start"
  | .active => "active"
  | .paused => "paused"
  | .completed => "completed"
  | .rejected => "rejected"
  | .canceled => "canceled"
  | .failed => "failed"

/-- `CANONICAL_STATUSES` -/
def canonicalStatuses : List String :=
  ["pending_creatives", "pending_start", "active", "paused", "completed", "rejected", "canceled",
    "failed"]

/-- `_resolve_delivery_status_filter` -/
def resolveDeliveryStatusFilter : StatusFilter → List String
  | .absent => ["active"]
  | .many [] => ["active"]
  | .many statuses => statuses.filter fun status => status ∈ canonicalStatuses
  | .single status => [status]

/-- Whether a status filter is given. -/
def StatusFilter.given : StatusFilter → Bool
  | .absent => false
  | .many statuses => ! statuses.isEmpty
  | .single _ => true

/-- The statuses that are selected. -/
def filterStatuses
    (req : DeliveryRequest) : List String :=
  if req.mediaBuyIds ≠ [] ∧ ¬ req.statusFilter.given then canonicalStatuses
  else resolveDeliveryStatusFilter req.statusFilter

/-- The buys of the caller, of the ids it names where it names any. -/
def fetchedBuys
    (store : DeliveryStore)
    (req : DeliveryRequest) : List DeliveryRow :=
  store.mediaBuys.filter fun row =>
    row.tenantId = env.tenantId ∧ row.principalId = env.principalId
      ∧ (req.mediaBuyIds = [] ∨ row.mediaBuyId ∈ req.mediaBuyIds)

/-- `_matches` -/
def matchesFilter
    (req : DeliveryRequest)
    (referenceDate : Int)
    (row : DeliveryRow) : Except RequestFailure (Option DeliveryRow) :=
  match row.stored.resolveCanonicalStatus referenceDate with
  | .error refusal => .error (.persistedState refusal)
  | .ok status => .ok (if status.wire ∈ filterStatuses req then some row else none)

/-- `_get_target_media_buys` -/
def targetMediaBuys
    (store : DeliveryStore)
    (req : DeliveryRequest)
    (referenceDate : Int) : Except RequestFailure (List DeliveryRow) :=
  ((fetchedBuys env store req).mapM (matchesFilter req referenceDate)).map fun rows =>
    rows.filterMap id

/-- The pricing options that the packages of a buy name, as the first pass collects them. -/
def wantedOptions
    (row : DeliveryRow) : Except RequestFailure (List Json) :=
  match rawPackages row.rawRequest with
  | .error _ => .error .untyped
  | .ok pkgs =>
      let wanted := pkgs.filterMap fun pkg => (pkg.lookup "pricing_option_id").filter (· ≠ .null)
      if wanted.all hashable then .ok wanted else .error .untyped

/-- `_get_pricing_options`: the options of all products, pooled by their id. -/
def pooledOptions
    (store : DeliveryStore)
    (wanted : List Json) : List (String × TenantOption) :=
  (store.pricingOptions.filter fun option => .str option.pricingOptionId ∈ wanted).map fun option =>
    (option.pricingOptionId, option)

/-- `notification_type`. -/
inductive NotificationType
  | final
  | scheduled
  deriving DecidableEq, Repr

/-- `NO_MORE_DATA_STATUSES` -/
def DeliveryStatus.noMoreData : DeliveryStatus → Bool
  | .canonical .completed => true
  | .canonical .rejected => true
  | .canonical .canceled => true
  | .canonical .failed => true
  | _ => false

/-- The type of notification that a report announces. -/
def notificationTypeOf
    (deliveries : List BuyDelivery) : Option NotificationType :=
  if deliveries = [] then none
  else if deliveries.all fun entry => entry.status.noMoreData then some .final
  else some .scheduled

/-- `aggregated_totals`. -/
structure DeliveryAggregate where
  impressions : Decimal
  spend : Decimal
  clicks : Option Decimal
  conversions : Option Decimal
  conversionValue : Option Decimal
  roas : Option Decimal
  costPerAcquisition : Option Decimal
  mediaBuyCount : Nat

def aggregateOf
    (tally : Tally) : DeliveryAggregate where
  impressions := tally.totalImpressions
  spend := tally.totalSpend
  clicks := if tally.totalClicks = 0 then none else some tally.totalClicks
  conversions := tally.totalConversions
  conversionValue := tally.totalConversionValue
  roas :=
    if 0 < tally.totalSpend then tally.totalConversionValue.map fun x => x / tally.totalSpend
    else none
  costPerAcquisition :=
    (tally.totalConversions.filter fun x => 0 < x).map fun x => tally.totalSpend / x
  mediaBuyCount := tally.mediaBuyCount

/-- A response of `get_media_buy_delivery`. -/
structure DeliveryReport where
  periodStart : DateTime
  periodEnd : DateTime
  aggregatedTotals : DeliveryAggregate
  mediaBuyDeliveries : List BuyDelivery
  errors : List Advisory
  notificationType : Option NotificationType
  sequenceNumber : Option Nat
  nextExpectedAt : Option DateTime

/-- The reporting period, by default the last thirty days. -/
def reportingPeriod
    (req : DeliveryRequest) : Except RequestFailure (DateTime × DateTime) :=
  match req.startDate, req.endDate with
  | some start, some «end» =>
      if «end» ≤ start then .error (.validation "start_date")
      else .ok (start * dayLength, «end» * dayLength)
  | _, _ => .ok (env.now - 30 * dayLength, env.now)

/-- The ids that are requested and not found, once for each time they are requested. -/
def notFoundErrors
    (req : DeliveryRequest)
    (targets : List DeliveryRow) : List Advisory :=
  (req.mediaBuyIds.filter fun mediaBuyId =>
    mediaBuyId ∉ targets.map DeliveryRow.mediaBuyId).map (Advisory.mk .mediaBuyNotFound)

/-- The response over the accumulators. -/
def reportOf
    (store : DeliveryStore)
    (period : DateTime × DateTime)
    (notFound : List Advisory)
    (tally : Tally) : DeliveryReport where
  periodStart := period.1
  periodEnd := period.2
  aggregatedTotals := aggregateOf tally
  mediaBuyDeliveries := tally.deliveries
  errors := notFound ++ tally.adapterErrors
  notificationType := notificationTypeOf tally.deliveries
  sequenceNumber := tally.deliveries.head?.map fun entry => store.maxSequence entry.mediaBuyId + 1
  nextExpectedAt :=
    if notificationTypeOf tally.deliveries = some .scheduled then some (env.later + dayLength)
    else none

/-- `get_media_buy_delivery` -/
def getMediaBuyDelivery
    (store : DeliveryStore)
    (req : DeliveryRequest) : Except RequestFailure DeliveryReport := do
  let period ← reportingPeriod env req
  let referenceDate := dateOf period.2
  let targets ← targetMediaBuys env store req referenceDate
  let wanted ← targets.mapM wantedOptions
  let options := pooledOptions store wanted.flatten
  let tally ← targets.foldlM (tallyBuy env options referenceDate) Tally.empty
  return reportOf env store period (notFoundErrors req targets) tally

end Report

section Inversion

variable {env : DeliveryEnv} {options : List (String × TenantOption)} {pricing : List (String × Json)}
variable {answer : AdapterDelivery} {status : DeliveryStatus} {impressions : Int} {spend : Decimal}

theorem dictGet_ne_untermed
    {α : Type}
    (entries : List (String × α))
    (key packageId : Json) :
    dictGet entries key ≠ .error (.untermed packageId) := by
  cases key with
  | null => exact fun h => by cases h
  | bool b => exact fun h => by cases h
  | num text => exact fun h => by cases h
  | str s => exact fun h => by cases h
  | arr items => exact fun h => by cases h
  | obj fields => exact fun h => by cases h

/-- A package fails the request only where its terms are stated nowhere. -/
theorem packageDelivery_untermed
    {count index : Nat}
    {pkg : List (String × Json)}
    {packageId : Json}
    (h : packageDelivery env options pricing answer status impressions spend count index pkg
      = .error (.untermed packageId)) :
    ∃ info option,
      dictGet pricing (packageIdOf env index pkg) = .ok info
        ∧ (pricingOptionIdOf pkg).elim (.ok none) (dictGet options) = .ok option
        ∧ statedTerms env (packageIdOf env index pkg) info option
          = .error (.untermed packageId) := by
  rw [packageDelivery] at h
  dsimp only at h
  cases hinfo : dictGet pricing (packageIdOf env index pkg) with
  | error failure =>
      rw [hinfo] at h
      cases h
      exact absurd hinfo (dictGet_ne_untermed _ _ _)
  | ok info =>
      rw [hinfo] at h
      dsimp only at h
      cases hoption : ((pricingOptionIdOf pkg).elim (.ok none) (dictGet options) :
          Except BuyFailure (Option TenantOption)) with
      | error failure =>
          rw [hoption] at h
          cases h
          cases hid : pricingOptionIdOf pkg with
          | none =>
              rw [hid] at hoption
              cases hoption
          | some optionId =>
              rw [hid] at hoption
              exact absurd hoption (dictGet_ne_untermed _ _ _)
      | ok option =>
          rw [hoption] at h
          dsimp only at h
          split at h
          · cases h
          · cases hterms : statedTerms env (packageIdOf env index pkg) info option with
            | error failure =>
                rw [hterms] at h
                cases h
                exact ⟨info, option, rfl, rfl, hterms⟩
            | ok terms =>
                rw [hterms] at h
                dsimp only at h
                split at h
                · cases h
                · cases h

theorem packageDeliveries_eq_error
    {count index : Nat}
    {pkgs : List (List (String × Json))}
    {failure : BuyFailure}
    (h : packageDeliveries env options pricing answer status impressions spend count index pkgs
      = .error failure) :
    ∃ pkg ∈ pkgs.zipIdx index,
      packageDelivery env options pricing answer status impressions spend count pkg.2 pkg.1
        = .error failure := by
  induction pkgs generalizing index with
  | nil => cases h
  | cons pkg pkgs ih =>
      rw [packageDeliveries] at h
      rw [List.zipIdx_cons]
      cases hitem : packageDelivery env options pricing answer status impressions spend count index
          pkg with
      | error failure' =>
          rw [hitem] at h
          cases h
          exact ⟨(pkg, index), List.mem_cons_self, hitem⟩
      | ok item =>
          rw [hitem] at h
          dsimp only at h
          cases hrest : packageDeliveries env options pricing answer status impressions spend count
              (index + 1) pkgs with
          | error failure' =>
              rw [hrest] at h
              cases h
              obtain ⟨found, hmem, hfails⟩ := ih hrest
              exact ⟨found, List.mem_cons_of_mem _ hmem, hfails⟩
          | ok rest =>
              rw [hrest] at h
              cases h

theorem mapM_rawPackage_ne_untermed
    (items : List Json)
    (packageId : Json) :
    items.mapM rawPackage ≠ .error (.untermed packageId) := by
  induction items with
  | nil => exact fun h => by cases h
  | cons item items ih =>
      rw [List.mapM_cons]
      cases item with
      | obj pkg =>
          intro h
          cases hrest : items.mapM rawPackage with
          | error failure =>
              rw [hrest] at h ih
              cases h
              exact ih rfl
          | ok pkgs =>
              rw [hrest] at h
              cases h
      | null => exact fun h => by cases h
      | bool b => exact fun h => by cases h
      | num text => exact fun h => by cases h
      | str s => exact fun h => by cases h
      | arr items => exact fun h => by cases h

theorem rawPackages_ne_untermed
    (rawRequest packageId : Json) :
    rawPackages rawRequest ≠ .error (.untermed packageId) := by
  rw [rawPackages.eq_def]
  split
  · split
    · exact fun h => by cases h
    · exact mapM_rawPackage_ne_untermed _ _
    · exact fun h => by cases h
    · exact fun h => by cases h
    · exact fun h => by cases h
  · exact fun h => by cases h

/-- What becomes of a buy, and why. -/
inductive BuyStep
    (env : DeliveryEnv)
    (options : List (String × TenantOption))
    (referenceDate : Int)
    (row : DeliveryRow) : BuyOutcome → Prop
  | unreadable {refusal : PersistedStateError}
      (hstatus : row.stored.resolveCanonicalStatus referenceDate = .error refusal) :
      BuyStep env options referenceDate row (.raised (.persistedState refusal))
  | unanswered
      (hanswer : (env.adapter row.mediaBuyId).bind reportedTotals = none) :
      BuyStep env options referenceDate row (.advised .serviceUnavailable)
  | crashed :
      BuyStep env options referenceDate row (.advised .internalError)
  | untermed {packageId : Json} {canonical : CanonicalStatus} {answer : AdapterDelivery}
      {impressions : Int} {spend : Decimal} {pricing : List (String × Json)}
      {pkgs : List (List (String × Json))}
      (hpricing : packagePricingMap row.packages = .ok pricing)
      (hpkgs : rawPackages row.rawRequest = .ok pkgs)
      (hitems : packageDeliveries env options pricing answer (deliveryStatus env canonical)
        impressions spend pkgs.length 0 pkgs = .error (.untermed packageId)) :
      BuyStep env options referenceDate row (.raised (.untermed packageId))
  | delivered {canonical : CanonicalStatus} {answer : AdapterDelivery}
      {impressions : Int} {spend : Decimal} {pricing : List (String × Json)}
      {pkgs : List (List (String × Json))} {items : List PackageDelivery}
      (hstatus : row.stored.resolveCanonicalStatus referenceDate = .ok canonical)
      (hanswer : env.adapter row.mediaBuyId = some answer)
      (htotals : reportedTotals answer = some (impressions, spend))
      (hpricing : packagePricingMap row.packages = .ok pricing)
      (hpkgs : rawPackages row.rawRequest = .ok pkgs)
      (hitems : packageDeliveries env options pricing answer (deliveryStatus env canonical)
        impressions spend pkgs.length 0 pkgs = .ok items) :
      BuyStep env options referenceDate row
        (.delivered (buyEntry row.mediaBuyId (deliveryStatus env canonical) answer impressions spend
          items))

theorem processBuy_spec
    (env : DeliveryEnv)
    (options : List (String × TenantOption))
    (referenceDate : Int)
    (row : DeliveryRow) :
    BuyStep env options referenceDate row (processBuy env options referenceDate row) := by
  rw [processBuy]
  cases hstatus : row.stored.resolveCanonicalStatus referenceDate with
  | error refusal => exact .unreadable hstatus
  | ok canonical =>
      dsimp only
      cases hanswer : env.adapter row.mediaBuyId with
      | none =>
          refine .unanswered ?_
          rw [hanswer]
          rfl
      | some answer =>
          dsimp only
          cases htotals : reportedTotals answer with
          | none =>
              refine .unanswered ?_
              rw [hanswer]
              exact htotals
          | some totals =>
              obtain ⟨impressions, spend⟩ := totals
              dsimp only
              cases hpricing : packagePricingMap row.packages with
              | error failure => exact .crashed
              | ok pricing =>
                  dsimp only
                  cases hpkgs : rawPackages row.rawRequest with
                  | error failure =>
                      rw [byPackage, hpkgs]
                      cases failure with
                      | crash => exact .crashed
                      | untermed packageId => exact absurd hpkgs (rawPackages_ne_untermed _ _)
                  | ok pkgs =>
                      rw [byPackage, hpkgs]
                      dsimp only
                      cases hitems : packageDeliveries env options pricing answer
                          (deliveryStatus env canonical) impressions spend pkgs.length 0 pkgs with
                      | error failure =>
                          cases failure with
                          | crash => exact .crashed
                          | untermed packageId => exact .untermed hpricing hpkgs hitems
                      | ok items =>
                          dsimp only
                          split
                          · exact .delivered hstatus hanswer htotals hpricing hpkgs hitems
                          · exact .crashed

end Inversion

end MediaBuys
end SalesAgent
