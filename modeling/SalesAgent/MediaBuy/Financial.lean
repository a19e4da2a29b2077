import SalesAgent.MediaBuy.Store
import Mathlib.Algebra.Order.Field.Rat
import Mathlib.Data.Rat.Floor
import Mathlib.Tactic.Linarith
import Mathlib.Tactic.NormNum

/-!
# Financial validation

The validators that create and update share.  Each compares a package budget
with a limit of the tenant's currency; the sentence a validator returns is
logged and never reaches the buyer, so a validator answers only whether it
objects.

The columns of limits and of package budgets hold two decimal places.

**Results.**
* `dailyDivisor_pos`: the daily check divides by a positive number, whatever the
  flight.
* `validateMaxDailyPackageSpend_eq_false_iff`: when a daily budget is accepted.
* `Decimal.toCents_le`: a column stays under what the budget stays under.
-/

namespace SalesAgent
namespace MediaBuys

/-- An amount a `DECIMAL(15, 2)` column can hold. -/
def Decimal.IsCents
    (x : Decimal) : Prop :=
  ∃ cents : Int, x * 100 = cents

/-- What a `DECIMAL(15, 2)` column stores of a positive amount. -/
def Decimal.toCents
    (x : Decimal) : Decimal :=
  (⌊x * 100 + 1 / 2⌋ : ℚ) / 100

/-- A row of `currency_limits`. -/
structure CurrencyLimit where
  minPackageBudget : Option Decimal
  maxDailyPackageSpend : Option Decimal
  maxDaily_isCents : ∀ m ∈ maxDailyPackageSpend, m.IsCents

/-- A limit counts when it is present and not zero. -/
def CurrencyLimit.truthy
    (limit : Option Decimal) : Option Decimal :=
  limit.filter (fun m => m ≠ 0)

/-- Objects to a budget that is not positive. -/
def validateBudgetPositive
    (budget : Decimal) : Bool :=
  budget ≤ 0

/-- Objects to a package budget under the minimum. -/
def validateMinPackageBudget
    (packageBudget minPackageBudget : Decimal) : Bool :=
  packageBudget < minPackageBudget

/-- Days of a flight as the tools count them: whole days, at least one. -/
def flightDays
    (startTime endTime : DateTime) : Int :=
  let days := Timedelta.days (endTime - startTime)
  if days ≤ 0 then 1 else days

/-- What the daily check divides by. -/
def dailyDivisor
    (flightDays : Int) : Int :=
  if flightDays ≤ 0 then 1 else flightDays

/-- Objects to a daily budget over the limit. -/
def validateMaxDailyPackageSpend
    (packageBudget : Decimal)
    (flightDays : Int)
    (maxDailySpend : Decimal) : Bool :=
  maxDailySpend < packageBudget / dailyDivisor flightDays

theorem dailyDivisor_pos
    (flightDays : Int) :
    0 < dailyDivisor flightDays := by
  unfold dailyDivisor
  split
  · exact Int.one_pos
  · next h => exact not_le.mp h

theorem flightDays_pos
    (startTime endTime : DateTime) :
    0 < flightDays startTime endTime :=
  dailyDivisor_pos (Timedelta.days (endTime - startTime))

/-- An accepted daily budget stays under the limit over the whole flight. -/
theorem validateMaxDailyPackageSpend_eq_false_iff
    {packageBudget maxDailySpend : Decimal} {days : Int}
    (hdays : 0 < days) :
    validateMaxDailyPackageSpend packageBudget days maxDailySpend = false ↔
      packageBudget ≤ maxDailySpend * days := by
  have hpos : (0 : ℚ) < days := Int.cast_pos.mpr hdays
  unfold validateMaxDailyPackageSpend dailyDivisor
  rw [if_neg (not_le_of_gt hdays)]
  simp only [decide_eq_false_iff_not, not_lt]
  exact div_le_iff₀ hpos

/-- Rounding to cents does not lift an amount over one in cents. -/
theorem Decimal.toCents_le
    {x bound : Decimal}
    (hbound : bound.IsCents)
    (hle : x ≤ bound) :
    x.toCents ≤ bound := by
  obtain ⟨k, hk⟩ := hbound
  have hscaled : x * 100 + 1 / 2 < ((k + 1 : Int) : ℚ) := by
    push_cast
    linarith
  have hfloor : ⌊x * 100 + 1 / 2⌋ ≤ k := Int.lt_add_one_iff.mp (Int.floor_lt.mpr hscaled)
  have hcast : ((⌊x * 100 + 1 / 2⌋ : Int) : ℚ) ≤ k := Int.cast_le.mpr hfloor
  rw [Decimal.toCents, div_le_iff₀ (by norm_num), hk]
  exact hcast

theorem Decimal.IsCents.mul_days
    {x : Decimal}
    (hx : x.IsCents)
    (days : Int) :
    Decimal.IsCents (x * days) := by
  obtain ⟨k, hk⟩ := hx
  refine ⟨k * days, ?_⟩
  push_cast
  rw [← hk]
  ring

theorem Decimal.truncate_of_nonneg
    {x : Decimal}
    (hx : 0 ≤ x) :
    x.truncate = ⌊x⌋ := by
  rw [Decimal.truncate, Rat.floor_def', Int.tdiv_eq_ediv_of_nonneg (Rat.num_nonneg.mpr hx)]

theorem Decimal.truncate_le
    {x : Decimal}
    (hx : 0 ≤ x) :
    (x.truncate : ℚ) ≤ x := by
  rw [Decimal.truncate_of_nonneg hx]
  exact Int.floor_le x

end MediaBuys
end SalesAgent
