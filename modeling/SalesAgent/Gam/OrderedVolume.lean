import Mathlib.Algebra.Order.BigOperators.Group.List
import Mathlib.Tactic.FieldSimp
import SalesAgent.Gam.BudgetUpdates
import SalesAgent.Lib.WholeUnits
import SalesAgent.MediaBuy.SameOrder

/-!
# The volume a package is ordered with

A line item has a price and a goal.  What they commit over the flight ought to be the budget of
the package, as near as whole units of the goal come to it.

The impressions of a package are computed before the adapter is asked: at once, from the total of
the request at the default price basis; of an approved buy, from the budget of the package at the
rate of the first pricing option.  The adapter takes the number for a number of clicks as well, and
prices the line item at the terms the package is sold at.  An update computes the goal anew.
The source divides floats and cuts off the fraction; what a line item commits is exact.

**Results.**
* `matches_iff`: the budget is matched exactly if the goal is the whole units in it.
* `ownBudget_sum_direct`: the packages of a buy created at once share its total budget.
* `volumeMatches_booked_iff`: when a buy is ordered with the volume its budgets pay for.
* `volumeMatches_updated_iff`: when the update of a budget keeps the volume right.
* `ordered_volume`: the same, of every run of updates.
-/

namespace SalesAgent
namespace Gam

open MediaBuys (BuyRows CreateEnv CreateRequest Decimal DeliveryType GeneratedIds PackageRequest
  PricedPackage PricingInfo PricingModel RebuildEnv UploadedAs boughtImpressions createGate
  directOrder directPackage rebuildPackage_eq_ok rebuildPackages rebuiltCpm rebuiltImpressions
  totalBudget)
open MediaBuys (dearerEnv sampleCreateEnv sampleCreateRequest sampleIds)
open Runs (Preserved Restrict Run)

section Volume

/-- The days a goal counts for: a daily goal counts every day of the flight. -/
def goalDays
    (goalType : GoalType)
    (flightDays : Int) : Int :=
  match goalType with
  | .daily => campaignDays flightDays
  | _ => 1

/-- What the price and the goal commit over the flight; a price per day commits it every day. -/
def LinePrice.committed
    (flightDays : Int)
    (price : LinePrice) : Decimal :=
  match price.costType with
  | .cpm | .vcpm =>
      price.unitPrice / 1000 * goalDays price.goal.goalType flightDays * price.goal.units
  | .cpc => price.unitPrice * goalDays price.goal.goalType flightDays * price.goal.units
  | .cpd => price.unitPrice * campaignDays flightDays

/-- What one more unit of the goal commits; a price per day has one more micro amount a day. -/
def LinePrice.goalUnitPrice
    (flightDays : Int)
    (price : LinePrice) : Decimal :=
  match price.costType with
  | .cpm | .vcpm => price.unitPrice / 1000 * goalDays price.goal.goalType flightDays
  | .cpc => price.unitPrice * goalDays price.goal.goalType flightDays
  | .cpd => campaignDays flightDays / 1000000

/-- The line item commits no more than the budget, and less than one unit too little. -/
def LinePrice.Matches
    (flightDays : Int)
    (price : LinePrice)
    (budget : Decimal) : Prop :=
  price.committed flightDays ≤ budget
    ∧ budget - price.committed flightDays < price.goalUnitPrice flightDays

/-- Every package has its own line item, which matches its own budget; together they commit no
more than the budgets. -/
structure VolumeMatches
    (flightDays : Int)
    (buy : PlacedBuy) : Prop where
  each : ∀ row ∈ buy.rows, ∃ placed ∈ buy.lineItems,
    row.platformLineItemId = some placed.lineItemId ∧ placed.packageId = row.packageId
      ∧ placed.item.price.Matches flightDays row.ownBudget
  total : (buy.lineItems.map fun placed => placed.item.price.committed flightDays).sum ≤
    (buy.rows.map (·.ownBudget)).sum

end Volume

section Source

/-- Where the packages of an order come from: a request that is carried out at once, or the rows
of an approved buy. -/
inductive OrderSource
  | direct (env : CreateEnv) (req : CreateRequest)
  | approved (env : RebuildEnv)

/-- The packages are built from the source. -/
inductive OrderSource.Builds : OrderSource → List PricedPackage → Prop
  | direct {env : CreateEnv} {req : CreateRequest} {store : MediaBuys.Store}
      (ids : GeneratedIds store) {uploaded : List PackageRequest}
      (hgate : createGate env req = none)
      (huploaded : List.Forall₂ UploadedAs req.packages uploaded) :
      Builds (.direct env req) (directOrder env req ids uploaded)
  | approved {env : RebuildEnv} {rows : BuyRows} {mediaBuyId : String}
      {packages : List PricedPackage}
      (hrebuilt : rebuildPackages env rows mediaBuyId = .ok packages) :
      Builds (.approved env) packages

/-- The price basis of a product of an approved buy. -/
def firstCpm
    (env : RebuildEnv)
    (productId : String) : Decimal :=
  ((env.product productId).bind (·.pricingOptions.head?)).elim 0 rebuiltCpm

/-- The impressions a package of the source has: those of the whole request at the default price
basis, or those of its own budget at the rate of the first pricing option. -/
def OrderSource.impressions : OrderSource → PricedPackage → Int
  | .direct _ req, _ => boughtImpressions (totalBudget req) 10
  | .approved env, pkg => rebuiltImpressions (pkg.budget.getD 0) (firstCpm env pkg.productId)

/-- The budget in the row of a package; the answer of the ad server has none. -/
def OrderSource.storedBudget : OrderSource → PricedPackage → Option Decimal
  | .direct _ _, _ => none
  | .approved _, pkg => pkg.budget

/-- The row of a package once its line item is ordered. -/
def bookedRow
    (source : OrderSource)
    (created : CreatedOrder)
    (pkg : PricedPackage) : AdapterRow where
  packageId := pkg.packageId
  orderedBudget := pkg.budget.getD 0
  budget := source.storedBudget pkg
  platformLineItemId := created.platformLineItemIds.lookup pkg.packageId

/-- A buy that the adapter has ordered. -/
def booked
    (source : OrderSource)
    (request : OrderRequest)
    (created : CreatedOrder)
    (server : AdServer) : PlacedBuy where
  rows := request.packages.map (bookedRow source created)
  lineItems := server.lineItems

end Source

section Conditions

/-- The days the goal of a line item counts for, by what it is sold as. -/
def soldDays
    (goalType : GoalType)
    (pricingModel : PricingModel)
    (deliveryType : DeliveryType)
    (flightDays : Int) : Int :=
  match selectLineItemType pricingModel (deliveryType = .guaranteed) with
  | .standard => 1
  | _ => goalDays goalType flightDays

/-- The impressions of a package are the whole units in its budget, at the micro amount of its
rate; a flat rate is, to the micro amount, the budget. -/
def TermsFit
    (goalType : GoalType)
    (deliveryType : DeliveryType)
    (flightDays : Int)
    (pricingModel : PricingModel)
    (rate budget : Decimal)
    (impressions : Int) : Prop :=
  let micro := Decimal.truncate (Decimal.float (rate.float * 1000000))
  let days := soldDays goalType pricingModel deliveryType flightDays
  match pricingModel with
  | .flatRate =>
      Decimal.truncate
          (Decimal.float (Decimal.float (rate.float / campaignDays flightDays) * 1000000)) =
        ⌊budget * 1000000 / campaignDays flightDays⌋
  | .cpc =>
      0 < micro
        ∧ configuredUnits goalType impressions flightDays = ⌊budget / (micro / 1000000 * days)⌋
  | _ =>
      0 < micro ∧ configuredUnits goalType impressions flightDays =
        ⌊budget / (micro / 1000000 / 1000 * days)⌋

/-- The terms of a package fit its budget. -/
def OrderFits
    (source : OrderSource)
    (env : GamAdapter)
    (flightDays : Int)
    (pkg : PricedPackage) : Prop :=
  ∀ product info rate, env.orderedProduct pkg = some product → pkg.pricing = some info →
    effectiveRate info = some rate →
      TermsFit product.config.primaryGoalType product.deliveryType flightDays info.pricingModel
        rate (pkg.budget.getD 0) (source.impressions pkg)

/-- Every line item is created, and the terms of every package fit. -/
structure OrderedInFull
    (source : OrderSource)
    (env : GamAdapter)
    (request : OrderRequest)
    (answers : Answers) : Prop where
  created : ∀ k < request.packages.length, ∃ id, answers.lineItem k = .created id
  fits : ∀ pkg ∈ request.packages, OrderFits source env request.flightDays pkg

/-- Floating point carries the quotient of a total and the unit price over no whole number. -/
def LinePrice.DividesTrue
    (price : LinePrice)
    (total : Decimal) : Prop :=
  price.boughtUnits total = ⌊total / price.unitPrice⌋

/-- The goal that an update writes, of the impressions the budget buys at a price per thousand, is
the whole units in the budget. -/
def LinePrice.TakesBudget
    (flightDays : Int)
    (price : LinePrice)
    (budget : Decimal) : Prop :=
  match price.costType with
  | .cpm | .vcpm =>
      price.DividesTrue (budget * 1000)
        ∧ (goalDays price.goal.goalType flightDays = 1 ∨ budget * 1000 < price.unitPrice)
  | .cpc => price.DividesTrue (budget * 1000) ∧ budget * 1000 < price.unitPrice
  | .cpd => price.costPerUnitMicro = ⌊budget * 1000000 / campaignDays flightDays⌋

/-- An update is parked, or the line item of its package takes the budget. -/
def UpdateFits
    (flightDays : Int)
    (buy : PlacedBuy)
    (update : BudgetUpdate) : Prop :=
  update.parks = true
    ∨ ∀ placed ∈ buy.lineItems, placed.packageId = update.packageId →
      placed.item.price.TakesBudget flightDays update.budget

/-- The ids of line items are told apart by the ad server. -/
def FreshIds
    (answers : Answers) : Prop :=
  ∀ j k id, answers.lineItem j = .created id → answers.lineItem k = .created id → j = k

end Conditions

section Units

variable {flightDays : Int} {price : LinePrice} {budget : Decimal}

theorem campaignDays_pos
    (flightDays : Int) :
    0 < campaignDays flightDays :=
  lt_of_lt_of_le Int.one_pos (le_max_right flightDays 1)

theorem goalDays_pos
    (goalType : GoalType)
    (flightDays : Int) :
    0 < goalDays goalType flightDays := by
  cases goalType with
  | daily => exact campaignDays_pos flightDays
  | lifetime => exact Int.one_pos
  | other name => exact Int.one_pos

/-- The units a line item commits: those of its goal, or the micro amounts of a day. -/
def LinePrice.goalCount
    (price : LinePrice) : Int :=
  match price.costType with
  | .cpd => price.costPerUnitMicro
  | _ => price.goal.units

theorem LinePrice.committed_eq :
    price.committed flightDays = price.goalUnitPrice flightDays * price.goalCount := by
  rw [LinePrice.committed, LinePrice.goalUnitPrice, LinePrice.goalCount]
  cases price.costType with
  | cpm => rfl
  | vcpm => rfl
  | cpc => rfl
  | cpd =>
      dsimp only
      rw [LinePrice.unitPrice]
      ring

theorem LinePrice.matches_iff :
    price.Matches flightDays budget ↔
      0 < price.goalUnitPrice flightDays
        ∧ price.goalCount = ⌊budget / price.goalUnitPrice flightDays⌋ := by
  rw [← WholeUnits.buys_iff, LinePrice.Matches, LinePrice.committed_eq]
  exact Iff.rfl

/-- The units that an update writes are a fraction of those in the budget exactly if floating point
divides true and there is no whole unit, or nothing to divide by. -/
theorem LinePrice.boughtUnits_eq_iff
    {total days : Decimal}
    (hunit : 0 < price.unitPrice)
    (htotal : 0 < total)
    (hdays : days = 1 ∨ 2 ≤ days) :
    price.boughtUnits total = ⌊total / price.unitPrice / days⌋ ↔
      price.DividesTrue total ∧ (days = 1 ∨ total < price.unitPrice) := by
  have hquotient : 0 < total / price.unitPrice := div_pos htotal hunit
  rw [LinePrice.DividesTrue]
  rcases hdays with rfl | htwo
  · rw [div_one, and_iff_left (.inl rfl)]
  · have hne : days ≠ 1 := by linarith
    rw [or_iff_right hne, ← div_lt_one hunit]
    constructor
    · intro h
      have hsmall : total / price.unitPrice < 1 := by
        by_contra hlarge
        refine absurd h (ne_of_gt ?_)
        rw [LinePrice.boughtUnits, MediaBuys.Decimal.truncate_of_nonneg ?_]
        · exact FloatRounding.floor_div_lt_floor_nearest (by decide) hunit (not_lt.mp hlarge) htwo
        · exact (FloatRounding.nearest_pos (by decide)
            (div_pos (FloatRounding.nearest_pos (by decide) htotal)
              (FloatRounding.nearest_pos (by decide) hunit))).le
      refine ⟨?_, hsmall⟩
      rw [h, Int.floor_eq_zero_iff.mpr ⟨hquotient.le, hsmall⟩]
      have hfraction : total / price.unitPrice / days < 1 :=
        (div_le_self hquotient.le (by linarith)).trans_lt hsmall
      exact Int.floor_eq_zero_iff.mpr ⟨div_nonneg hquotient.le (by linarith), hfraction⟩
    · rintro ⟨h, hsmall⟩
      have hfraction : total / price.unitPrice / days < 1 :=
        (div_le_self hquotient.le (by linarith)).trans_lt hsmall
      rw [h, Int.floor_eq_zero_iff.mpr ⟨hquotient.le, hsmall⟩]
      exact (Int.floor_eq_zero_iff.mpr
        ⟨div_nonneg hquotient.le (by linarith), hfraction⟩).symm

theorem goalDays_one_or_two_le
    (goalType : GoalType)
    (flightDays : Int) :
    (goalDays goalType flightDays : Decimal) = 1 ∨ 2 ≤ (goalDays goalType flightDays : Decimal) := by
  have hpos := goalDays_pos goalType flightDays
  rcases eq_or_ne (goalDays goalType flightDays) 1 with hone | hne
  · exact .inl (by rw [hone, Int.cast_one])
  · exact .inr (by exact_mod_cast (show 2 ≤ goalDays goalType flightDays by omega))

theorem LinePrice.thousand_units_iff
    (hunit : 0 < price.unitPrice)
    (hbudget : 0 < budget) :
    price.boughtUnits (budget * 1000) =
        ⌊budget / (price.unitPrice / 1000 * goalDays price.goal.goalType flightDays)⌋ ↔
      price.DividesTrue (budget * 1000)
        ∧ (goalDays price.goal.goalType flightDays = 1 ∨ budget * 1000 < price.unitPrice) := by
  have hmultiple : budget / (price.unitPrice / 1000 * goalDays price.goal.goalType flightDays) =
      budget * 1000 / price.unitPrice / goalDays price.goal.goalType flightDays := by
    rw [← div_div, div_div_eq_mul_div]
  rw [hmultiple, LinePrice.boughtUnits_eq_iff hunit (by linarith) (goalDays_one_or_two_le _ _),
    Int.cast_eq_one]

theorem LinePrice.click_units_iff
    (hunit : 0 < price.unitPrice)
    (hbudget : 0 < budget) :
    price.boughtUnits (budget * 1000) =
        ⌊budget / (price.unitPrice * goalDays price.goal.goalType flightDays)⌋ ↔
      price.DividesTrue (budget * 1000) ∧ budget * 1000 < price.unitPrice := by
  have hdays : (1 : Decimal) ≤ goalDays price.goal.goalType flightDays := by
    exact_mod_cast goalDays_pos price.goal.goalType flightDays
  have htwo : (2 : Decimal) ≤ 1000 * goalDays price.goal.goalType flightDays := by linarith
  have hmultiple : budget / (price.unitPrice * goalDays price.goal.goalType flightDays) =
      budget * 1000 / price.unitPrice / (1000 * goalDays price.goal.goalType flightDays) := by
    field_simp
  rw [hmultiple, LinePrice.boughtUnits_eq_iff hunit (by linarith) (.inr htwo),
    or_iff_right (by linarith)]

theorem LinePrice.matches_withUnits_iff
    (hprice : 0 < price.costPerUnitMicro)
    (hbudget : 0 < budget) :
    (price.withUnits (price.boughtUnits (budget * 1000))).Matches flightDays budget
      ↔ price.TakesBudget flightDays budget := by
  have hunit : 0 < price.unitPrice := LinePrice.unitPrice_pos_iff.mpr hprice
  have hdays : (0 : Decimal) < goalDays price.goal.goalType flightDays :=
    Int.cast_pos.mpr (goalDays_pos _ _)
  have hcampaign : (0 : Decimal) < campaignDays flightDays :=
    Int.cast_pos.mpr (campaignDays_pos flightDays)
  have hsame : (price.withUnits (price.boughtUnits (budget * 1000))).unitPrice = price.unitPrice :=
    rfl
  rw [LinePrice.matches_iff, LinePrice.TakesBudget, LinePrice.goalUnitPrice, LinePrice.goalCount,
    hsame]
  unfold LinePrice.withUnits
  dsimp only
  cases price.costType with
  | cpm =>
      exact (and_iff_right (mul_pos (div_pos hunit (by norm_num)) hdays)).trans
        (LinePrice.thousand_units_iff hunit hbudget)
  | vcpm =>
      exact (and_iff_right (mul_pos (div_pos hunit (by norm_num)) hdays)).trans
        (LinePrice.thousand_units_iff hunit hbudget)
  | cpc =>
      exact (and_iff_right (mul_pos hunit hdays)).trans
        (LinePrice.click_units_iff hunit hbudget)
  | cpd =>
      dsimp only
      rw [and_iff_right (by positivity), div_div_eq_mul_div]

end Units

section Updates

variable {flightDays : Int} {buy after : PlacedBuy} {update : BudgetUpdate}
  {entries : List (AdapterRow × PlacedItem)}

theorem volumeMatches_iff
    (h : Ledger buy entries) :
    VolumeMatches flightDays buy ↔
      ∀ entry ∈ entries, entry.2.item.price.Matches flightDays entry.1.ownBudget := by
  constructor
  · intro hvolume entry hentry
    obtain ⟨placed, hplaced, hid, -, hmatches⟩ :=
      hvolume.each entry.1 (by rw [h.rows]; exact List.mem_map_of_mem hentry)
    rw [h.lineItems] at hplaced
    obtain ⟨entry', hentry', rfl⟩ := List.mem_map.mp hplaced
    rw [h.placed entry hentry, Option.some_inj] at hid
    obtain rfl := h.eq_of_lineItemId hentry hentry' hid
    exact hmatches
  · intro hall
    refine ⟨?_, ?_⟩
    · rw [h.rows, h.lineItems]
      refine List.forall_mem_map.mpr fun entry hentry => ?_
      exact ⟨entry.2, List.mem_map_of_mem hentry, h.placed entry hentry, h.named entry hentry,
        hall entry hentry⟩
    · rw [h.rows, h.lineItems, List.map_map, List.map_map]
      exact List.sum_le_sum fun entry hentry => (hall entry hentry).1

/-- An update keeps the volume right exactly if it fits. -/
theorem volumeMatches_updated_iff
    (h : Ledger buy entries)
    (hvolume : VolumeMatches flightDays buy)
    (hupdated : Updated buy update after) :
    (∃ entries', Ledger after entries')
      ∧ (VolumeMatches flightDays after ↔ UpdateFits flightDays buy update) := by
  rcases h.of_updated hupdated with ⟨hparks, rfl⟩ |
    ⟨hparks, hbudget, entry, hentry, hnamed, hprice, hafter⟩
  · exact ⟨⟨entries, h⟩, iff_of_true hvolume (.inl hparks)⟩
  · refine ⟨⟨_, hafter⟩, ?_⟩
    have hall := (volumeMatches_iff h).mp hvolume
    have htakes : UpdateFits flightDays buy update ↔
        entry.2.item.price.TakesBudget flightDays update.budget := by
      rw [UpdateFits, hparks, or_iff_right Bool.false_ne_true, h.lineItems, List.forall_mem_map]
      constructor
      · intro hfits
        exact hfits entry hentry ((h.named entry hentry).trans hnamed)
      · intro htakes other hother hother'
        rw [h.named other hother, ← hnamed] at hother'
        obtain rfl := h.eq_of_packageId hother hentry hother'
        exact htakes
    rw [volumeMatches_iff hafter, List.forall_mem_map, htakes,
      ← LinePrice.matches_withUnits_iff hprice (Int.cast_pos.mpr hbudget)]
    constructor
    · intro hmatches
      have hown := hmatches entry hentry
      rw [updateEntry, if_pos hnamed] at hown
      exact hown
    · intro hmatches other hother
      by_cases hother' : other.1.packageId = update.packageId
      · obtain rfl := h.eq_of_packageId hother hentry (hother'.trans hnamed.symm)
        rw [updateEntry, if_pos hother']
        exact hmatches
      · rw [updateEntry, if_neg hother']
        exact hall other hother

theorem run_volumeMatches
    {updates : List BudgetUpdate}
    (hledger : ∃ entries, Ledger buy entries)
    (hvolume : VolumeMatches flightDays buy)
    (hrun : Run (Restrict Updated (UpdateFits flightDays)) buy updates after) :
    (∃ entries, Ledger after entries) ∧ VolumeMatches flightDays after := by
  have hstep : Preserved (Restrict Updated (UpdateFits flightDays))
      (fun buy => (∃ entries, Ledger buy entries) ∧ VolumeMatches flightDays buy) := by
    rintro before update next ⟨hupdated, hfits⟩ ⟨⟨entries, hentries⟩, hright⟩
    obtain ⟨hkept, hiff⟩ := volumeMatches_updated_iff hentries hright hupdated
    exact ⟨hkept, hiff.mpr hfits⟩
  exact hrun.preserves hstep ⟨hledger, hvolume⟩

end Updates

section Orders

variable {source : OrderSource} {env : GamAdapter} {request : OrderRequest} {answers : Answers}
  {created : CreatedOrder} {server : AdServer} {pkg : PricedPackage}

/-- Every package has the impressions of its source. -/
theorem OrderSource.Builds.impressions
    {packages : List PricedPackage}
    (h : source.Builds packages)
    (hpkg : pkg ∈ packages) :
    pkg.impressions = source.impressions pkg := by
  cases h with
  | direct ids hgate huploaded =>
      obtain ⟨named, -, hnamed⟩ := List.mem_filterMap.mp hpkg
      obtain ⟨product, -, rfl⟩ := Option.map_eq_some_iff.mp hnamed
      rw [OrderSource.impressions, MediaBuys.directCpm_eq]
  | @approved renv rows mediaBuyId _ hrebuilt =>
      rw [rebuildPackages] at hrebuilt
      cases hrows : rows.packages.rows.filter (fun p => p.mediaBuyId = mediaBuyId) with
      | nil =>
          rw [hrows] at hrebuilt
          cases hrebuilt
      | cons first rest =>
          rw [hrows] at hrebuilt
          obtain ⟨row, -, hrow⟩ := (Runs.mem_of_mapM_eq_ok hrebuilt pkg).mp hpkg
          obtain ⟨product, option, rest, hproduct, hoptions, -, himpressions⟩ :=
            rebuildPackage_eq_ok hrow
          rw [himpressions, OrderSource.impressions, firstCpm, hproduct, Option.bind_some, hoptions]
          rfl

section Terms

variable {goalType : GoalType} {unitType : UnitType} {deliveryType : DeliveryType}
  {flightDays impressions : Int} {pricingModel : PricingModel}

theorem selectLineItemType_ne_sponsorship
    {isGuaranteed : Bool}
    (hmodel : pricingModel ≠ .flatRate) :
    selectLineItemType pricingModel isGuaranteed ≠ .sponsorship := by
  intro h
  cases pricingModel with
  | flatRate => exact hmodel rfl
  | _ => cases isGuaranteed <;> cases h

theorem goalDays_lineGoal
    (hmodel : pricingModel ≠ .flatRate) :
    goalDays (lineGoal goalType unitType pricingModel
        (selectLineItemType pricingModel (deliveryType = .guaranteed)) impressions
        flightDays).goalType flightDays =
      soldDays goalType pricingModel deliveryType flightDays := by
  unfold soldDays lineGoal
  cases htype : selectLineItemType pricingModel (deliveryType = .guaranteed) with
  | sponsorship => exact absurd htype (selectLineItemType_ne_sponsorship hmodel)
  | standard => rfl
  | network => rfl
  | pricePriority => rfl
  | bulk => rfl
  | house => rfl

theorem units_lineGoal
    {lineItemType : LineItemType}
    (hmodel : pricingModel ≠ .flatRate) :
    (lineGoal goalType unitType pricingModel lineItemType impressions flightDays).units =
      configuredUnits goalType impressions flightDays := by
  unfold lineGoal
  cases pricingModel with
  | flatRate => exact absurd rfl hmodel
  | _ => rfl

theorem soldDays_pos :
    0 < soldDays goalType pricingModel deliveryType flightDays := by
  rw [soldDays]
  cases selectLineItemType pricingModel (deliveryType = .guaranteed) with
  | standard => exact Int.one_pos
  | _ => exact goalDays_pos goalType flightDays

theorem matches_iff_termsFit
    {info : PricingInfo} {rate budget : Decimal} {price : LinePrice}
    (hprice : linePrice goalType unitType deliveryType flightDays pkg = .ok price)
    (hinfo : pkg.pricing = some info)
    (hrate : effectiveRate info = some rate) :
    price.Matches flightDays budget ↔
      TermsFit goalType deliveryType flightDays info.pricingModel rate budget
        pkg.impressions := by
  obtain ⟨info', rate', costType, hinfo', hrate', hcost, rfl⟩ := linePrice_eq_ok.mp hprice
  rw [hinfo] at hinfo'
  cases hinfo'
  rw [hrate] at hrate'
  cases hrate'
  have hcampaign : (0 : Decimal) < campaignDays flightDays :=
    Int.cast_pos.mpr (campaignDays_pos flightDays)
  have hsold : ∀ model, (0 : Decimal) < soldDays goalType model deliveryType flightDays :=
    fun _ => Int.cast_pos.mpr soldDays_pos
  have hclick : ∀ (micro : Int) model,
      0 < (micro : Decimal) / 1000000 * soldDays goalType model deliveryType flightDays ↔
        0 < micro := by
    intro micro model
    rw [mul_pos_iff_of_pos_right (hsold model), div_pos_iff_of_pos_right (by norm_num),
      Int.cast_pos]
  have hthousand : ∀ (micro : Int) model,
      0 < (micro : Decimal) / 1000000 / 1000 * soldDays goalType model deliveryType flightDays ↔
        0 < micro := by
    intro micro model
    rw [mul_pos_iff_of_pos_right (hsold model), div_pos_iff_of_pos_right (by norm_num),
      div_pos_iff_of_pos_right (by norm_num), Int.cast_pos]
  have hmodel := adcpToGamCostType_isSome_iff.mp ⟨costType, hcost⟩
  rw [LinePrice.matches_iff, LinePrice.goalUnitPrice, LinePrice.goalCount, LinePrice.unitPrice]
  simp only [List.mem_cons, List.not_mem_nil, or_false] at hmodel
  rcases hmodel with hcpm | hvcpm | hcpc | hflat
  · rw [hcpm] at hcost ⊢
    cases hcost
    dsimp only
    rw [goalDays_lineGoal (by decide), units_lineGoal (by decide)]
    exact and_congr (hthousand _ _) Iff.rfl
  · rw [hvcpm] at hcost ⊢
    cases hcost
    dsimp only
    rw [goalDays_lineGoal (by decide), units_lineGoal (by decide)]
    exact and_congr (hthousand _ _) Iff.rfl
  · rw [hcpc] at hcost ⊢
    cases hcost
    dsimp only
    rw [goalDays_lineGoal (by decide), units_lineGoal (by decide)]
    exact and_congr (hclick _ _) Iff.rfl
  · rw [hflat] at hcost ⊢
    cases hcost
    dsimp only
    rw [and_iff_right (div_pos hcampaign (by norm_num)), div_div_eq_mul_div]
    exact Iff.rfl

end Terms

theorem ownBudget_bookedRow :
    (bookedRow source created pkg).ownBudget = pkg.budget.getD 0 := by
  cases source with
  | direct env req => rfl
  | approved env =>
      rw [AdapterRow.ownBudget, bookedRow, OrderSource.storedBudget]
      cases pkg.budget with
      | none => rfl
      | some budget => rfl

theorem matches_iff_orderFits
    {flightDays : Int} {targeting : GamTargeting} {item : OrderedLineItem}
    (himpressions : pkg.impressions = source.impressions pkg)
    (hitem : packageLineItem env flightDays pkg targeting = .ok item) :
    item.price.Matches flightDays (pkg.budget.getD 0) ↔ OrderFits source env flightDays pkg := by
  rw [packageLineItem] at hitem
  rw [OrderFits]
  cases hproduct : env.orderedProduct pkg with
  | none =>
      rw [hproduct] at hitem
      cases hitem
  | some product =>
      rw [hproduct] at hitem
      have hprice := price_of_buildLineItem hitem
      obtain ⟨info, rate, -, hinfo, hrate, -, -⟩ := linePrice_eq_ok.mp hprice
      rw [matches_iff_termsFit hprice hinfo hrate, himpressions]
      constructor
      · intro hfits product' info' rate' hproduct' hinfo' hrate'
        cases hproduct'
        rw [hinfo] at hinfo'
        cases hinfo'
        rw [hrate] at hrate'
        cases hrate'
        exact hfits
      · intro hfits
        exact hfits product info rate rfl hinfo hrate

/-- The packages of an order and their line items. -/
def Carries
    (env : GamAdapter)
    (flightDays : Int)
    (pkg : PricedPackage)
    (item : PlacedItem) : Prop :=
  item.packageId = pkg.packageId
    ∧ ∃ targeting, packageLineItem env flightDays pkg targeting = .ok item.item

theorem carries_of_created
    {targeted : List (PricedPackage × GamTargeting)} {placed : List PlacedItem}
    (htargeted : targetPackages env answers.value request.packages = .ok targeted)
    (hplaced : Placed env request.flightDays answers.lineItem 0 targeted placed)
    (hcreated : ∀ k < request.packages.length, ∃ id, answers.lineItem k = .created id) :
    List.Forall₂ (Carries env request.flightDays) request.packages placed := by
  obtain ⟨hpackages, -⟩ := targetPackages_eq_ok htargeted
  rw [← hpackages] at hcreated ⊢
  rw [List.length_map] at hcreated
  rw [List.forall₂_map_left_iff]
  refine (hplaced.forall₂_of_created fun j hj => ?_).imp fun first item h => ?_
  · rw [Nat.zero_add]
    exact hcreated j hj
  · exact ⟨h.1, first.2, h.2⟩

/-- A buy whose packages have their line items is a ledger of them. -/
theorem ledger_booked
    {placed : List PlacedItem} {orderId : String}
    (hcarries : List.Forall₂ (Carries env request.flightDays) request.packages placed)
    (hids : (placed.map (·.lineItemId)).Nodup)
    (hcreated : created = createSuccess orderId request.packages
      ((request.packages.map (·.packageId)).zip (placed.map (·.lineItemId))))
    (hserver : server.lineItems = placed) :
    Ledger (booked source request created server)
      ((request.packages.map (bookedRow source created)).zip placed) := by
  have hlength : (request.packages.map (bookedRow source created)).length = placed.length := by
    rw [List.length_map]
    exact hcarries.length_eq
  have hpackageIds : request.packages.map (·.packageId) = placed.map (·.packageId) := by
    refine List.forall₂_eq_eq_eq ▸ ?_
    rw [List.forall₂_map_left_iff, List.forall₂_map_right_iff]
    exact hcarries.imp fun pkg item h => h.1.symm
  have hdistinct : (placed.map (·.packageId)).Nodup := hpackageIds ▸ request.distinct
  have hrows : ∀ entry ∈ (request.packages.map (bookedRow source created)).zip placed,
      ∃ pkg, entry.1 = bookedRow source created pkg ∧ entry.2.packageId = pkg.packageId := by
    rw [List.zip_map_left]
    refine List.forall_mem_map.mpr fun entry hentry => ?_
    exact ⟨entry.1, rfl, ((List.forall₂_iff_zip.mp hcarries).2 hentry).1⟩
  exact
    { rows := (List.map_fst_zip hlength.le).symm
      lineItems := hserver.trans (List.map_snd_zip hlength.ge).symm
      placed := by
        intro entry hentry
        obtain ⟨pkg, hrow, hpkg⟩ := hrows entry hentry
        rw [hrow, hcreated, bookedRow, createSuccess, ← hpkg, hpackageIds]
        exact (one_item_of_nodup hdistinct (List.of_mem_zip hentry).2).2
      named := by
        intro entry hentry
        obtain ⟨pkg, hrow, hpkg⟩ := hrows entry hentry
        rw [hrow, hpkg]
        rfl
      unpriced := by
        intro entry hentry
        obtain ⟨pkg, hrow, -⟩ := hrows entry hentry
        rw [hrow]
        rfl
      packageIds_nodup := by
        change (((request.packages.map (bookedRow source created)).zip placed).map
          (AdapterRow.packageId ∘ Prod.fst)).Nodup
        rw [← List.map_map, List.map_fst_zip hlength.le, List.map_map]
        exact request.distinct
      lineItemIds_nodup := by
        change (((request.packages.map (bookedRow source created)).zip placed).map
          (PlacedItem.lineItemId ∘ Prod.snd)).Nodup
        rw [← List.map_map, List.map_snd_zip hlength.ge]
        exact hids }

/-- A buy is ordered with the volume its budgets pay for exactly if it is ordered in full. -/
theorem volumeMatches_booked_iff
    (hparks : env.parks request = false)
    (hbuilds : source.Builds request.packages)
    (hcall : createMediaBuy env request answers = (.ok created, server))
    (hfresh : FreshIds answers) :
    VolumeMatches request.flightDays (booked source request created server) ↔
      OrderedInFull source env request answers := by
  obtain ⟨orderId, targeted, placed, htargeted, hplaced, hcreated, hserver⟩ :=
    createMediaBuy_eq_ok hparks hcall
  obtain ⟨hpackages, -⟩ := targetPackages_eq_ok htargeted
  have hvolume : (∀ k < request.packages.length, ∃ id, answers.lineItem k = .created id) →
      (VolumeMatches request.flightDays (booked source request created server) ↔
        ∀ pkg ∈ request.packages, OrderFits source env request.flightDays pkg) := by
    intro hall
    have hcarries := carries_of_created htargeted hplaced hall
    have hledger := @ledger_booked source env request created server placed orderId hcarries
      (hplaced.lineItemIds_nodup hfresh) hcreated hserver
    rw [volumeMatches_iff hledger, List.zip_map_left, List.forall_mem_map]
    have hentry : ∀ entry ∈ request.packages.zip placed,
        (entry.2.item.price.Matches request.flightDays
          (bookedRow source created entry.1).ownBudget ↔
          OrderFits source env request.flightDays entry.1) := by
      intro entry hentry
      obtain ⟨-, targeting, hitem⟩ := (List.forall₂_iff_zip.mp hcarries).2 hentry
      rw [ownBudget_bookedRow]
      exact matches_iff_orderFits (hbuilds.impressions (List.of_mem_zip hentry).1) hitem
    constructor
    · intro hmatches pkg hpkg
      rw [← List.map_fst_zip hcarries.length_eq.le] at hpkg
      obtain ⟨entry, hmem, rfl⟩ := List.mem_map.mp hpkg
      exact (hentry entry hmem).mp (hmatches entry hmem)
    · intro hfits entry hmem
      exact (hentry entry hmem).mpr (hfits entry.1 (List.of_mem_zip hmem).1)
  constructor
  · intro h
    -- a package whose answer is empty has no line item
    have hall : ∀ k < request.packages.length, ∃ id, answers.lineItem k = .created id := by
      have hdistinct : (targeted.map (·.1.packageId)).Nodup := by
        have := request.distinct
        rw [← hpackages, List.map_map] at this
        exact this
      have hcreated := hplaced.all_created hdistinct fun first hfirst => by
        have hpkg : first.1 ∈ request.packages := hpackages ▸ List.mem_map_of_mem hfirst
        obtain ⟨item, hitem, -, hnamed, -⟩ := h.each _ (List.mem_map_of_mem hpkg)
        exact ⟨item, hserver ▸ hitem, hnamed⟩
      intro k hk
      rw [← hpackages, List.length_map] at hk
      have := hcreated k hk
      rwa [Nat.zero_add] at this
    exact ⟨hall, (hvolume hall).mp h⟩
  · intro h
    exact (hvolume h.created).mpr h.fits

theorem exists_ledger_booked
    (hparks : env.parks request = false)
    (hcall : createMediaBuy env request answers = (.ok created, server))
    (hfresh : FreshIds answers)
    (hall : ∀ k < request.packages.length, ∃ id, answers.lineItem k = .created id) :
    ∃ entries, Ledger (booked source request created server) entries := by
  obtain ⟨orderId, targeted, placed, htargeted, hplaced, hcreated, hserver⟩ :=
    createMediaBuy_eq_ok hparks hcall
  exact ⟨_, @ledger_booked source env request created server placed orderId
    (carries_of_created htargeted hplaced hall) (hplaced.lineItemIds_nodup hfresh) hcreated
    hserver⟩

theorem budgets_of_uploaded
    {packages uploaded : List PackageRequest}
    (h : List.Forall₂ UploadedAs packages uploaded) :
    uploaded.map (fun pkg => pkg.budget.getD 0) = packages.map (fun pkg => pkg.budget.getD 0) := by
  induction h with
  | nil => rfl
  | cons hfirst _ ih =>
      obtain ⟨creativeIds, rfl⟩ := hfirst
      rw [List.map_cons, List.map_cons, ih]

theorem budgets_of_directPackage
    {cenv : CreateEnv} {req : CreateRequest} {named : List (PackageRequest × String)}
    (h : ∀ n ∈ named, ∃ product, cenv.product n.1.productId = some product) :
    (named.filterMap (directPackage cenv req)).map (fun pkg => pkg.budget.getD 0) =
      named.map (fun n => n.1.budget.getD 0) := by
  induction named with
  | nil => rfl
  | cons first rest ih =>
      obtain ⟨⟨product, hfirst⟩, hrest⟩ := List.forall_mem_cons.mp h
      rw [List.filterMap_cons, directPackage, hfirst, Option.map_some, List.map_cons,
        List.map_cons, ih hrest]

/-- The packages of a buy that is created at once share its total budget. -/
theorem ownBudget_sum_direct
    {cenv : CreateEnv} {req : CreateRequest} {store : MediaBuys.Store} {ids : GeneratedIds store}
    {uploaded : List PackageRequest}
    (hgate : createGate cenv req = none)
    (huploaded : List.Forall₂ UploadedAs req.packages uploaded)
    (hpackages : request.packages = directOrder cenv req ids uploaded) :
    ((booked (.direct cenv req) request created server).rows.map (·.ownBudget)).sum =
      totalBudget req := by
  have hproduct : ∀ named ∈ ids.named uploaded,
      ∃ product, cenv.product named.1.productId = some product := by
    intro named hnamed
    obtain ⟨pkg, hpkg, hsame⟩ :=
      MediaBuys.exists_of_uploaded huploaded (MediaBuys.mem_named hnamed).1
    obtain ⟨-, product, -, hproduct, -⟩ := MediaBuys.validated_package hgate hpkg
    exact ⟨product, by rw [hsame.productId, hproduct]⟩
  have hnamed : (ids.named uploaded).map (fun n => n.1.budget.getD 0) =
      uploaded.map (fun pkg => pkg.budget.getD 0) := by
    rw [GeneratedIds.named, List.map_map]
    change uploaded.zipIdx.map ((fun pkg => pkg.budget.getD 0) ∘ Prod.fst) = _
    rw [← List.map_map, List.zipIdx_map_fst]
  rw [booked, List.map_map, hpackages, directOrder, totalBudget, ← budgets_of_uploaded huploaded,
    ← hnamed, ← budgets_of_directPackage hproduct]
  exact congrArg List.sum (List.map_congr_left fun pkg _ => ownBudget_bookedRow)

/-- The volume of a buy matches its budgets exactly if every line item is created and the terms of
every package fit its budget; then it does so after every run of updates that fit, and an update
keeps it right exactly if it fits. -/
theorem ordered_volume
    (source : OrderSource)
    (env : GamAdapter)
    (request : OrderRequest)
    (answers : Answers)
    (created : CreatedOrder)
    (server : AdServer)
    (hparks : env.parks request = false)
    (hbuilds : source.Builds request.packages)
    (hcall : createMediaBuy env request answers = (.ok created, server))
    (hfresh : FreshIds answers) :
    (VolumeMatches request.flightDays (booked source request created server) ↔
        OrderedInFull source env request answers)
      ∧ (OrderedInFull source env request answers → ∀ updates after,
        Run (Restrict Updated (UpdateFits request.flightDays))
            (booked source request created server) updates after →
          VolumeMatches request.flightDays after
            ∧ ∀ update next, Updated after update next →
              (VolumeMatches request.flightDays next ↔
                UpdateFits request.flightDays after update)) := by
  have hbooked := volumeMatches_booked_iff hparks hbuilds hcall hfresh
  refine ⟨hbooked, fun hfull updates after hrun => ?_⟩
  obtain ⟨⟨entries, hledger⟩, hright⟩ :=
    run_volumeMatches (exists_ledger_booked hparks hcall hfresh hfull.created) (hbooked.mpr hfull)
      hrun
  exact ⟨hright, fun update next hupdated =>
    (volumeMatches_updated_iff hledger hright hupdated).2⟩

end Orders

section Samples

/-- The sample adapter, with every format of one size. -/
def orderingAdapter : GamAdapter :=
  { sampleAdapter with
    getFormat := fun f _ => .ok { formatId := f.id, width := some 300, height := some 250 } }

/-- The order of the sample request, ten days long. -/
def sampleOrder
    (env : CreateEnv) : OrderRequest where
  alreadyApproved := false
  startTime := 86400000000
  endTime := 86400000000 * 11
  packages := directOrder env sampleCreateRequest sampleIds sampleCreateRequest.packages
  distinct := by
    cases hproduct : env.product "prod_1" with
    | none => simp [directOrder, GeneratedIds.named, sampleCreateRequest, directPackage, hproduct]
    | some product =>
        simp [directOrder, GeneratedIds.named, sampleCreateRequest, directPackage, hproduct]

/-- The ad server creates the first line item. -/
def oneAnswer : Answers :=
  { sampleAnswers with lineItem := fun k => if k = 0 then .created "11" else .empty }


theorem freshIds_oneAnswer :
    FreshIds oneAnswer := by
  intro j k id hj hk
  rw [oneAnswer] at hj hk
  dsimp only at hj hk
  by_cases hj0 : j = 0
  · by_cases hk0 : k = 0
    · exact hj0.trans hk0.symm
    · rw [if_neg hk0] at hk
      cases hk
  · rw [if_neg hj0] at hj
    cases hj

/-- The sample price is the default price basis, so the sample buy is ordered in full. -/
theorem ordered_volume_sample :
    ∃ created server,
      createMediaBuy orderingAdapter (sampleOrder (sampleCreateEnv false true)) oneAnswer =
          (.ok created, server)
        ∧ VolumeMatches 10 (booked (.direct (sampleCreateEnv false true) sampleCreateRequest)
          (sampleOrder (sampleCreateEnv false true)) created server) := by
  have hok : (createMediaBuy orderingAdapter (sampleOrder (sampleCreateEnv false true))
      oneAnswer).1.toOption.isSome = true := by decide +kernel
  cases hcall : createMediaBuy orderingAdapter (sampleOrder (sampleCreateEnv false true))
      oneAnswer with
  | mk result server =>
      rw [hcall] at hok
      cases result with
      | error err => cases hok
      | ok created =>
          refine ⟨created, server, rfl, ?_⟩
          refine (ordered_volume (.direct (sampleCreateEnv false true) sampleCreateRequest)
            orderingAdapter (sampleOrder (sampleCreateEnv false true)) oneAnswer created server rfl
            (.direct sampleIds (by decide +kernel) ?_) hcall freshIds_oneAnswer).1.mpr ⟨?_, ?_⟩
          · exact .cons ⟨[], rfl⟩ .nil
          · intro k hk
            obtain rfl : k = 0 := Nat.lt_one_iff.mp hk
            exact ⟨"11", rfl⟩
          · intro pkg hpkg product info rate hproduct hinfo hrate
            obtain rfl := List.mem_singleton.mp hpkg
            cases hproduct
            cases hinfo
            cases hrate
            exact ⟨by decide +kernel, by decide +kernel⟩

/-- A buy of clicks, ordered with the clicks its budget pays for. -/
def clickRequest : OrderRequest where
  alreadyApproved := true
  startTime := 0
  endTime := Timedelta.seconds 864000
  packages := [{ samplePackage "pkg_1" none with
    impressions := 450
    budget := some 900
    pricing := some ⟨.cpc, some 2, "USD", true, none⟩ }]
  distinct := by decide

/-- The buy of clicks in the ad server. -/
def clickBuy : PlacedBuy where
  rows := [⟨"pkg_1", 900, some 900, some "11", none⟩]
  lineItems := (createMediaBuy orderingAdapter clickRequest oneAnswer).2.lineItems

/-- A product at twice the default price basis is ordered with twice the volume that its budget
pays for; and an update of a price per click commits a thousand times the new budget. -/
theorem volume_beyond_budget :
    (¬ ∀ source env request answers created server, env.parks request = false →
        source.Builds request.packages →
        createMediaBuy env request answers = (.ok created, server) → FreshIds answers →
        VolumeMatches request.flightDays (booked source request created server))
      ∧ (createMediaBuy orderingAdapter (sampleOrder dearerEnv) oneAnswer).2.lineItems.map
          (fun placed => placed.item.price.committed 10) = [1800]
      ∧ totalBudget sampleCreateRequest = 900
      ∧ clickBuy.lineItems.map (fun placed => placed.item.price.committed 10) = [900]
      ∧ (updatePackageBudget clickBuy
          { packageId := "pkg_1", budget := 50, parks := false, stepStored := true,
            answer := fun _ => .found .updated }).2.lineItems.map
          (fun placed => placed.item.price.committed 10) = [50000] := by
  have hcommitted : (createMediaBuy orderingAdapter (sampleOrder dearerEnv)
      oneAnswer).2.lineItems.map (fun placed => placed.item.price.committed 10) = [1800] := by
    decide +kernel
  have hok : (createMediaBuy orderingAdapter (sampleOrder dearerEnv)
      oneAnswer).1.toOption.isSome = true := by decide +kernel
  refine ⟨fun h => ?_, hcommitted, by decide +kernel, by decide +kernel, by decide +kernel⟩
  cases hcall : createMediaBuy orderingAdapter (sampleOrder dearerEnv) oneAnswer with
  | mk result server =>
      rw [hcall] at hok hcommitted
      cases result with
      | error err => cases hok
      | ok created =>
          have htotal := (h (.direct dearerEnv sampleCreateRequest) orderingAdapter
            (sampleOrder dearerEnv) oneAnswer created server rfl
            (.direct sampleIds (by decide +kernel) (.cons ⟨[], rfl⟩ .nil)) hcall
            freshIds_oneAnswer).total
          have hbudget : ((booked (.direct dearerEnv sampleCreateRequest) (sampleOrder dearerEnv)
              created server).rows.map (·.ownBudget)).sum = 900 := by
            have hpackages : (sampleOrder dearerEnv).packages =
                directOrder dearerEnv sampleCreateRequest sampleIds
                  sampleCreateRequest.packages := rfl
            refine (ownBudget_sum_direct (by decide +kernel) (.cons ⟨[], rfl⟩ .nil)
              hpackages).trans (by decide +kernel)
          rw [hbudget] at htotal
          change (server.lineItems.map fun placed => placed.item.price.committed 10).sum ≤ 900
            at htotal
          rw [hcommitted] at htotal
          norm_num at htotal

end Samples

end Gam
end SalesAgent
