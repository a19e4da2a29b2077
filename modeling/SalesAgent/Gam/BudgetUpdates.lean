import SalesAgent.Gam.OrderCreation
import SalesAgent.Lib.Runs

/-!
# Budget updates of the GAM adapter

A package keeps the id of its line item.  An update of its budget looks the line item up, computes
its goal anew from the price the ad server has, and stores the budget once the ad server has taken
the goal.  A fault for want of a forecast is tried again, five times in all.

The update reads a pricing model from the row under a name that no writer uses.  It then takes the
default, CPM.

**Results.**
* `updateLineItemBudget_eq_true`: what an update that succeeds has written.
* `updatePackageBudget_eq_ok`: the ways an update of a package succeeds.
* `Ledger.of_updated`: an update keeps each row beside its own line item.
-/

namespace SalesAgent
namespace Gam

open MediaBuys (Decimal)

section LineItem

/-- What becomes of a call of `updateLineItems`. -/
inductive WriteAnswer
  | updated
  | empty
  /-- a fault, perhaps for want of a forecast, perhaps after the write -/
  | fault (noForecast applied : Bool)

/-- What becomes of one attempt. -/
inductive UpdateAnswer
  | lookupFault (noForecast : Bool)
  | missing
  | found (write : WriteAnswer)

/-- The price of a line item, in its currency. -/
def LinePrice.unitPrice
    (price : LinePrice) : Decimal :=
  (price.costPerUnitMicro : Decimal) / 1000000

/-- `int(total / cost_per_unit)` of floats. -/
def LinePrice.boughtUnits
    (price : LinePrice)
    (total : Decimal) : Int :=
  Decimal.truncate (Decimal.float (total.float / price.unitPrice.float))

/-- The units of a new budget. -/
def newGoalUnits
    (pricingModel : String)
    (newBudget : Decimal)
    (price : LinePrice) : Option Int :=
  if price.unitPrice.float ≤ 0 then none
  else if pricingModel ∈ ["cpm", "vcpm"] then some (price.boughtUnits (newBudget * 1000))
  else if pricingModel = "cpc" then some (price.boughtUnits newBudget)
  else if pricingModel = "flat_rate" then some price.goal.units
  else none

/-- A price with other units. -/
def LinePrice.withUnits
    (price : LinePrice)
    (units : Int) : LinePrice :=
  { price with goal := { price.goal with units := units } }

/-- A placed line item with other units. -/
def PlacedItem.withUnits
    (placed : PlacedItem)
    (units : Int) : PlacedItem :=
  { placed with item := { placed.item with price := placed.item.price.withUnits units } }

/-- The goal of one line item is written. -/
def setUnits
    (lineItemId : String)
    (units : Int)
    (lineItems : List PlacedItem) : List PlacedItem :=
  lineItems.map fun placed =>
    if placed.lineItemId = lineItemId then placed.withUnits units else placed

/-- `update_line_item_budget`, with the attempts that are left and the number of the next one. -/
def updateLineItemBudget
    (lineItemId : String)
    (newBudget : Decimal)
    (pricingModel : String)
    (answer : Nat → UpdateAnswer) :
    Nat → Nat → List PlacedItem → Bool × List PlacedItem
  | 0, _, lineItems => (false, lineItems)
  | left + 1, attempt, lineItems =>
      match answer attempt with
      | .lookupFault noForecast =>
          if noForecast && 0 < left then
            updateLineItemBudget lineItemId newBudget pricingModel answer left (attempt + 1)
              lineItems
          else (false, lineItems)
      | .missing => (false, lineItems)
      | .found write =>
          match lineItems.find? (fun placed => placed.lineItemId = lineItemId) with
          | none => (false, lineItems)
          | some placed =>
              match newGoalUnits pricingModel newBudget placed.item.price with
              | none => (false, lineItems)
              | some units =>
                  let written := setUnits lineItemId units lineItems
                  match write with
                  | .updated => (true, written)
                  | .empty => (false, lineItems)
                  | .fault noForecast applied =>
                      let reached := if applied then written else lineItems
                      if noForecast && 0 < left then
                        updateLineItemBudget lineItemId newBudget pricingModel answer left
                          (attempt + 1) reached
                      else (false, reached)

/-- `max_retries` -/
def maxRetries : Nat := 5

end LineItem

section Package

/-- `package_config["pricing"]`; no writer stores one. -/
structure StoredPricing where
  model : Option String
  currency : Option String

/-- What the adapter reads of the row of a package. -/
structure AdapterRow where
  packageId : String
  /-- the budget the package was ordered with -/
  orderedBudget : Decimal
  /-- the amount of `package_config["budget"]` -/
  budget : Option Decimal
  platformLineItemId : Option String
  pricing : Option StoredPricing := none

/-- The package's own current budget: the one its row has, or the one it was ordered with. -/
def AdapterRow.ownBudget
    (row : AdapterRow) : Decimal :=
  row.budget.getD row.orderedBudget

/-- The rows of a buy and its line items in the ad server. -/
structure PlacedBuy where
  rows : List AdapterRow
  lineItems : List PlacedItem

/-- A call of `update_media_buy` for the budget of a package. -/
structure BudgetUpdate where
  packageId : String
  budget : Int
  /-- whether updates wait for a human -/
  parks : Bool
  /-- whether the step that parks the update is stored -/
  stepStored : Bool
  /-- `delivery_metrics["spend"]` of the row -/
  spend : Decimal := 0
  answer : Nat → UpdateAnswer

/-- Why an update raises. -/
inductive UpdateError
  | workflow
  | unsupportedAction
  | validation (field : Option String)
  | packageNotFound
  | budgetExceeded
  | gamUpdate
  deriving DecidableEq, Repr

/-- The budget of a row is written. -/
def setBudget
    (packageId : String)
    (budget : Decimal)
    (rows : List AdapterRow) : List AdapterRow :=
  rows.map fun row =>
    if row.packageId = packageId then { row with budget := some budget } else row

/-- The pricing model of a row, in lower case. -/
def AdapterRow.pricingModel
    (row : AdapterRow) : String :=
  ((row.pricing.bind (·.model)).getD "cpm").toLower

/-- `update_media_buy`, of the budget of a package. -/
def updatePackageBudget
    (buy : PlacedBuy)
    (update : BudgetUpdate) : Except UpdateError Unit × PlacedBuy :=
  if update.parks then
    if update.stepStored then (.ok (), buy) else (.error .workflow, buy)
  else if update.packageId = "" then (.error .unsupportedAction, buy)
  else if update.budget ≤ 0 then (.error (.validation (some "budget")), buy)
  else
    match buy.rows.find? (fun row => row.packageId = update.packageId) with
    | none => (.error .packageNotFound, buy)
    | some row =>
        if (update.budget : Decimal) < update.spend then (.error .budgetExceeded, buy)
        else
          match present row.platformLineItemId with
          | none => (.error (.validation none), buy)
          | some lineItemId =>
              match updateLineItemBudget lineItemId update.budget row.pricingModel
                  update.answer maxRetries 0 buy.lineItems with
              | (false, lineItems) => (.error .gamUpdate, { buy with lineItems := lineItems })
              | (true, lineItems) =>
                  (.ok (), ⟨setBudget update.packageId update.budget buy.rows, lineItems⟩)

/-- An update that succeeds. -/
def Updated
    (buy : PlacedBuy)
    (update : BudgetUpdate)
    (after : PlacedBuy) : Prop :=
  updatePackageBudget buy update = (.ok (), after)

end Package

section Writes

variable {lineItemId pricingModel : String} {newBudget : Decimal} {answer : Nat → UpdateAnswer}

@[simp] theorem PlacedItem.withUnits_lineItemId
    (placed : PlacedItem)
    (units : Int) :
    (placed.withUnits units).lineItemId = placed.lineItemId :=
  rfl

theorem setUnits_setUnits
    (units units' : Int)
    (lineItems : List PlacedItem) :
    setUnits lineItemId units (setUnits lineItemId units' lineItems) =
      setUnits lineItemId units lineItems := by
  rw [setUnits, setUnits, List.map_map]
  refine List.map_congr_left fun placed _ => ?_
  by_cases hid : placed.lineItemId = lineItemId
  · simp [hid, PlacedItem.withUnits, LinePrice.withUnits]
  · simp [hid]

/-- Writing the goal of a line item leaves its price, and finds it again. -/
theorem find?_setUnits
    {units : Int} {lineItems : List PlacedItem} {placed : PlacedItem}
    (h : (setUnits lineItemId units lineItems).find?
      (fun p => p.lineItemId = lineItemId) = some placed) :
    ∃ before, lineItems.find? (fun p => p.lineItemId = lineItemId) = some before
      ∧ placed = before.withUnits units := by
  induction lineItems with
  | nil => cases h
  | cons first rest ih =>
      rw [setUnits, List.map_cons] at h
      by_cases hid : first.lineItemId = lineItemId
      · have hfirst : decide (first.lineItemId = lineItemId) = true := decide_eq_true hid
        rw [if_pos hid, List.find?_cons, PlacedItem.withUnits_lineItemId, hfirst] at h
        cases h
        exact ⟨first, by rw [List.find?_cons, hfirst], rfl⟩
      · rw [if_neg hid, List.find?_cons_of_neg (by simpa using hid)] at h
        obtain ⟨before, hbefore, hplaced⟩ := ih h
        exact ⟨before, by rw [List.find?_cons_of_neg (by simpa using hid)]; exact hbefore, hplaced⟩

theorem LinePrice.unitPrice_pos_iff
    {price : LinePrice} :
    0 < price.unitPrice ↔ 0 < price.costPerUnitMicro := by
  rw [LinePrice.unitPrice, div_pos_iff_of_pos_right (by norm_num)]
  exact Int.cast_pos

theorem LinePrice.costPerUnitMicro_pos
    {price : LinePrice}
    (h : 0 < price.unitPrice.float) :
    0 < price.costPerUnitMicro := by
  refine LinePrice.unitPrice_pos_iff.mp ?_
  by_contra hprice
  exact absurd (FloatRounding.nearest_nonpos 53 (not_lt.mp hprice)) (not_le.mpr h)

/-- An update that succeeds has written the units of the new budget at the price in the ad
server, whatever earlier attempts wrote. -/
theorem updateLineItemBudget_eq_true
    {left attempt : Nat} {lineItems written : List PlacedItem}
    (hmodel : pricingModel ∈ ["cpm", "vcpm"])
    (h : updateLineItemBudget lineItemId newBudget pricingModel answer left attempt lineItems =
      (true, written)) :
    ∃ placed, lineItems.find? (fun p => p.lineItemId = lineItemId) = some placed
      ∧ 0 < placed.item.price.costPerUnitMicro
      ∧ written = setUnits lineItemId (placed.item.price.boughtUnits (newBudget * 1000))
          lineItems := by
  induction left generalizing attempt lineItems with
  | zero => cases h
  | succ left ih =>
      rw [updateLineItemBudget] at h
      cases hanswer : answer attempt with
      | missing =>
          rw [hanswer] at h
          cases h
      | lookupFault noForecast =>
          rw [hanswer] at h
          dsimp only at h
          by_cases hagain : (noForecast && decide (0 < left)) = true
          · rw [if_pos hagain] at h
            exact ih h
          · rw [if_neg hagain] at h
            cases h
      | found write =>
          rw [hanswer] at h
          dsimp only at h
          cases hfind : lineItems.find? (fun p => p.lineItemId = lineItemId) with
          | none =>
              rw [hfind] at h
              cases h
          | some placed =>
              rw [hfind] at h
              dsimp only at h
              by_cases hprice : placed.item.price.unitPrice.float ≤ 0
              · rw [newGoalUnits, if_pos hprice] at h
                cases h
              · rw [newGoalUnits, if_neg hprice, if_pos hmodel] at h
                dsimp only at h
                have hpositive : 0 < placed.item.price.costPerUnitMicro :=
                  LinePrice.costPerUnitMicro_pos (not_le.mp hprice)
                cases write with
                | updated =>
                    cases h
                    exact ⟨placed, rfl, hpositive, rfl⟩
                | empty => cases h
                | fault noForecast applied =>
                    dsimp only at h
                    by_cases hagain : (noForecast && decide (0 < left)) = true
                    · rw [if_pos hagain] at h
                      cases applied with
                      | false =>
                          rw [if_neg Bool.false_ne_true] at h
                          obtain ⟨placed', hfind', hpositive', hwritten⟩ := ih h
                          rw [hfind] at hfind'
                          cases hfind'
                          exact ⟨placed, rfl, hpositive, hwritten⟩
                      | true =>
                          -- the goal was written before; the price is the same
                          rw [if_pos rfl] at h
                          obtain ⟨placed', hfind', -, hwritten⟩ := ih h
                          obtain ⟨before, hbefore, rfl⟩ := find?_setUnits hfind'
                          rw [hfind] at hbefore
                          cases hbefore
                          rw [setUnits_setUnits] at hwritten
                          exact ⟨placed, rfl, hpositive, hwritten⟩
                    · rw [if_neg hagain] at h
                      cases h

/-- The ways an update of a package whose row has no pricing succeeds. -/
theorem updatePackageBudget_eq_ok
    {buy after : PlacedBuy} {update : BudgetUpdate}
    (hpricing : ∀ row ∈ buy.rows, row.pricing = none)
    (h : Updated buy update after) :
    (update.parks = true ∧ after = buy)
      ∨ (update.parks = false ∧ 0 < update.budget ∧ ∃ row lineItemId placed,
        buy.rows.find? (fun row => row.packageId = update.packageId) = some row
          ∧ row.platformLineItemId = some lineItemId
          ∧ buy.lineItems.find? (fun p => p.lineItemId = lineItemId) = some placed
          ∧ 0 < placed.item.price.costPerUnitMicro
          ∧ after = ⟨setBudget update.packageId update.budget buy.rows,
            setUnits lineItemId (placed.item.price.boughtUnits (update.budget * 1000))
              buy.lineItems⟩) := by
  rw [Updated, updatePackageBudget] at h
  cases hparks : update.parks with
  | true =>
      rw [hparks, if_pos rfl] at h
      cases hstored : update.stepStored with
      | false =>
          rw [hstored] at h
          cases h
      | true =>
          rw [hstored] at h
          cases h
          exact .inl ⟨rfl, rfl⟩
  | false =>
      rw [hparks, if_neg Bool.false_ne_true] at h
      by_cases hnamed : update.packageId = ""
      · rw [if_pos hnamed] at h
        cases h
      rw [if_neg hnamed] at h
      by_cases hbudget : update.budget ≤ 0
      · rw [if_pos hbudget] at h
        cases h
      rw [if_neg hbudget] at h
      cases hrow : buy.rows.find? (fun row => row.packageId = update.packageId) with
      | none =>
          rw [hrow] at h
          cases h
      | some row =>
          rw [hrow] at h
          dsimp only at h
          by_cases hspend : (update.budget : Decimal) < update.spend
          · rw [if_pos hspend] at h
            cases h
          rw [if_neg hspend] at h
          cases hid : row.platformLineItemId with
          | none =>
              rw [hid] at h
              cases h
          | some lineItemId =>
              rw [hid, present] at h
              by_cases hempty : lineItemId = ""
              · rw [if_pos hempty] at h
                cases h
              rw [if_neg hempty] at h
              dsimp only at h
              have hmodel : row.pricingModel ∈ ["cpm", "vcpm"] := by
                rw [AdapterRow.pricingModel, hpricing row (List.mem_of_find?_eq_some hrow)]
                decide +kernel
              cases hwrite : updateLineItemBudget lineItemId update.budget row.pricingModel
                  update.answer maxRetries 0 buy.lineItems with
              | mk success lineItems =>
                  rw [hwrite] at h
                  cases success with
                  | false => cases h
                  | true =>
                      cases h
                      obtain ⟨placed, hfind, hpositive, rfl⟩ :=
                        updateLineItemBudget_eq_true hmodel hwrite
                      exact .inr ⟨rfl, not_le.mp hbudget, row, lineItemId, placed, rfl, hid, hfind,
                        hpositive, rfl⟩

end Writes

section Rows

variable {buy after : PlacedBuy} {update : BudgetUpdate}
  {entries : List (AdapterRow × PlacedItem)}

/-- The rows of a buy, each beside its own line item. -/
structure Ledger
    (buy : PlacedBuy)
    (entries : List (AdapterRow × PlacedItem)) : Prop where
  rows : buy.rows = entries.map (·.1)
  lineItems : buy.lineItems = entries.map (·.2)
  placed : ∀ entry ∈ entries, entry.1.platformLineItemId = some entry.2.lineItemId
  named : ∀ entry ∈ entries, entry.2.packageId = entry.1.packageId
  unpriced : ∀ entry ∈ entries, entry.1.pricing = none
  packageIds_nodup : (entries.map (·.1.packageId)).Nodup
  lineItemIds_nodup : (entries.map (·.2.lineItemId)).Nodup

/-- An entry after the update of the budget of a package. -/
def updateEntry
    (packageId : String)
    (budget : Decimal)
    (units : Int)
    (entry : AdapterRow × PlacedItem) : AdapterRow × PlacedItem :=
  if entry.1.packageId = packageId then
    ({ entry.1 with budget := some budget }, entry.2.withUnits units)
  else entry

theorem updateEntry_keeps
    (packageId : String)
    (budget : Decimal)
    (units : Int)
    (entry : AdapterRow × PlacedItem) :
    (updateEntry packageId budget units entry).1.packageId = entry.1.packageId
      ∧ (updateEntry packageId budget units entry).1.platformLineItemId =
        entry.1.platformLineItemId
      ∧ (updateEntry packageId budget units entry).1.pricing = entry.1.pricing
      ∧ (updateEntry packageId budget units entry).2.lineItemId = entry.2.lineItemId
      ∧ (updateEntry packageId budget units entry).2.packageId = entry.2.packageId := by
  rw [updateEntry]
  by_cases hnamed : entry.1.packageId = packageId
  · rw [if_pos hnamed]
    exact ⟨rfl, rfl, rfl, rfl, rfl⟩
  · rw [if_neg hnamed]
    exact ⟨rfl, rfl, rfl, rfl, rfl⟩

namespace Ledger

theorem eq_of_packageId
    (h : Ledger buy entries)
    {entry entry' : AdapterRow × PlacedItem}
    (hentry : entry ∈ entries)
    (hentry' : entry' ∈ entries)
    (hsame : entry.1.packageId = entry'.1.packageId) :
    entry = entry' :=
  List.inj_on_of_nodup_map h.packageIds_nodup hentry hentry' hsame

theorem eq_of_lineItemId
    (h : Ledger buy entries)
    {entry entry' : AdapterRow × PlacedItem}
    (hentry : entry ∈ entries)
    (hentry' : entry' ∈ entries)
    (hsame : entry.2.lineItemId = entry'.2.lineItemId) :
    entry = entry' :=
  List.inj_on_of_nodup_map h.lineItemIds_nodup hentry hentry' hsame

/-- Writing a budget to the row of an entry and units to its line item updates the entry. -/
theorem write
    (h : Ledger buy entries)
    {entry : AdapterRow × PlacedItem}
    (hentry : entry ∈ entries)
    (budget : Decimal)
    (units : Int) :
    Ledger ⟨setBudget entry.1.packageId budget buy.rows,
        setUnits entry.2.lineItemId units buy.lineItems⟩
      (entries.map (updateEntry entry.1.packageId budget units)) where
  rows := by
    rw [h.rows, setBudget, List.map_map, List.map_map]
    refine List.map_congr_left fun other _ => ?_
    by_cases hnamed : other.1.packageId = entry.1.packageId
    · simp [updateEntry, hnamed]
    · simp [updateEntry, hnamed]
  lineItems := by
    rw [h.lineItems, setUnits, List.map_map, List.map_map]
    refine List.map_congr_left fun other hother => ?_
    by_cases hnamed : other.1.packageId = entry.1.packageId
    · obtain rfl := h.eq_of_packageId hother hentry hnamed
      simp [updateEntry]
    · have hother' : other.2.lineItemId ≠ entry.2.lineItemId := by
        intro hsame
        exact hnamed (congrArg (·.1.packageId) (h.eq_of_lineItemId hother hentry hsame))
      simp [updateEntry, hnamed, hother']
  placed := by
    refine List.forall_mem_map.mpr fun other hother => ?_
    obtain ⟨-, hplatform, -, hid, -⟩ := updateEntry_keeps entry.1.packageId budget units other
    rw [hplatform, hid]
    exact h.placed other hother
  named := by
    refine List.forall_mem_map.mpr fun other hother => ?_
    obtain ⟨hrow, -, -, -, hitem⟩ := updateEntry_keeps entry.1.packageId budget units other
    rw [hrow, hitem]
    exact h.named other hother
  unpriced := by
    refine List.forall_mem_map.mpr fun other hother => ?_
    obtain ⟨-, -, hpricing, -, -⟩ := updateEntry_keeps entry.1.packageId budget units other
    rw [hpricing]
    exact h.unpriced other hother
  packageIds_nodup := by
    rw [List.map_map]
    refine (List.map_congr_left fun other _ => ?_) ▸ h.packageIds_nodup
    exact (updateEntry_keeps entry.1.packageId budget units other).1.symm
  lineItemIds_nodup := by
    rw [List.map_map]
    refine (List.map_congr_left fun other _ => ?_) ▸ h.lineItemIds_nodup
    exact (updateEntry_keeps entry.1.packageId budget units other).2.2.2.1.symm

/-- An update that succeeds is parked, or updates the entry of its package. -/
theorem of_updated
    (h : Ledger buy entries)
    (hupdated : Updated buy update after) :
    (update.parks = true ∧ after = buy)
      ∨ (update.parks = false ∧ 0 < update.budget ∧ ∃ entry ∈ entries,
        entry.1.packageId = update.packageId ∧ 0 < entry.2.item.price.costPerUnitMicro
          ∧ Ledger after (entries.map (updateEntry update.packageId update.budget
            (entry.2.item.price.boughtUnits (update.budget * 1000))))) := by
  have hunpriced : ∀ row ∈ buy.rows, row.pricing = none := by
    rw [h.rows]
    exact List.forall_mem_map.mpr h.unpriced
  rcases updatePackageBudget_eq_ok hunpriced hupdated with hparked |
    ⟨hparks, hbudget, row, lineItemId, placed, hrow, hid, hplaced, hprice, rfl⟩
  · exact .inl hparked
  · have hnamed : row.packageId = update.packageId := by simpa using List.find?_some hrow
    have hitem : placed.lineItemId = lineItemId := by simpa using List.find?_some hplaced
    have hrow := List.mem_of_find?_eq_some hrow
    have hplaced := List.mem_of_find?_eq_some hplaced
    rw [h.rows] at hrow
    rw [h.lineItems] at hplaced
    obtain ⟨entry, hentry, rfl⟩ := List.mem_map.mp hrow
    obtain ⟨entry', hentry', rfl⟩ := List.mem_map.mp hplaced
    rw [h.placed entry hentry, Option.some_inj] at hid
    obtain rfl := h.eq_of_lineItemId hentry hentry' (hid.trans hitem.symm)
    refine .inr ⟨hparks, hbudget, entry, hentry, hnamed, hprice, ?_⟩
    rw [← hnamed, ← hid]
    exact h.write hentry _ _

end Ledger

end Rows

end Gam
end SalesAgent
