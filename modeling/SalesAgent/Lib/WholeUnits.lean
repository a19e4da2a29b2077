import Mathlib.Algebra.Order.Floor.Ring
import Mathlib.Tactic.Linarith

/-!
# Whole units for an amount

Who spends an amount on units of one price buys as many whole units as the amount allows: they
cost no more than the amount, and one more would.  The number of units is determined, and it is a
floor.

**Results.**  `buys_iff`: so many whole units is a floor.
-/

namespace SalesAgent
namespace WholeUnits

variable {α : Type*} [Field α] [LinearOrder α] [IsStrictOrderedRing α]

/-- So many units of a price are what an amount buys. -/
def Buys
    (price : α)
    (units : Int)
    (amount : α) : Prop :=
  price * units ≤ amount ∧ amount - price * units < price

variable {price amount : α} {units : Int}

theorem Buys.price_pos
    (h : Buys price units amount) :
    0 < price := by
  obtain ⟨hle, hlt⟩ := h
  linarith

variable [FloorRing α]

/-- The units that an amount buys are the whole ones in it. -/
theorem buys_iff :
    Buys price units amount ↔ 0 < price ∧ units = ⌊amount / price⌋ := by
  constructor
  · intro h
    have hprice := h.price_pos
    obtain ⟨hle, hlt⟩ := h
    refine ⟨hprice, (Int.floor_eq_iff.mpr ⟨?_, ?_⟩).symm⟩
    · rw [le_div_iff₀ hprice, mul_comm]
      exact hle
    · rw [div_lt_iff₀ hprice]
      linarith
  · rintro ⟨hprice, rfl⟩
    have hle := Int.floor_le (amount / price)
    have hlt := Int.lt_floor_add_one (amount / price)
    rw [le_div_iff₀ hprice] at hle
    rw [div_lt_iff₀ hprice] at hlt
    constructor
    · linarith
    · linarith

end WholeUnits
end SalesAgent
