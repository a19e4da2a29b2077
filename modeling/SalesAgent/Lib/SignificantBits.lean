import Mathlib.Data.Rat.Cast.Order
import Mathlib.Data.Nat.Log
import Mathlib.Tactic.Linarith
import Mathlib.Tactic.Ring
import Mathlib.Tactic.Positivity

/-!
# Numbers of a fixed number of significant bits

A binary floating-point number is an integer of at most `p` bits, times a power of two.
An integer is rounded to the nearest such number, and halfway between two of them to the
one whose last bit is even.

**Results.**
* `roundBits_fits`: rounding gives a number of `p` bits.
* `roundBits_eq_iff`: exactly the numbers of `p` bits are not changed.
* `Binary.ofInt_toInt`: a whole floating-point number is the number its integer gives.
-/

namespace SalesAgent

/-- The number has at most `p` significant bits. -/
def Fits
    (p n : Nat) : Prop :=
  ∃ m e, m < 2 ^ p ∧ n = m * 2 ^ e

/-- The bits of a number beyond the first `p`. -/
def excessBits
    (p n : Nat) : Nat :=
  Nat.log2 n + 1 - p

/-- Round to `p` significant bits, half to even. -/
def roundBits
    (p n : Nat) : Nat :=
  let unit := 2 ^ excessBits p n
  let quotient := n / unit
  let rest := n % unit
  if 2 * rest < unit ∨ (2 * rest = unit ∧ quotient % 2 = 0) then quotient * unit
  else (quotient + 1) * unit

theorem div_unit_lt
    (p n : Nat) :
    n / 2 ^ excessBits p n < 2 ^ p := by
  rcases Nat.eq_zero_or_pos n with rfl | hn
  · rw [Nat.zero_div]
    positivity
  · rw [Nat.div_lt_iff_lt_mul (by positivity), ← Nat.pow_add]
    have hlog : n < 2 ^ (Nat.log2 n + 1) := Nat.lt_log2_self
    refine lt_of_lt_of_le hlog (Nat.pow_le_pow_right (by omega) ?_)
    unfold excessBits
    omega

/-- What rounding gives has at most `p` bits. -/
theorem roundBits_fits
    {p : Nat}
    (hp : 0 < p)
    (n : Nat) :
    Fits p (roundBits p n) := by
  have hlt := div_unit_lt p n
  simp only [roundBits]
  split
  · exact ⟨_, _, hlt, rfl⟩
  · rcases Nat.lt_or_ge (n / 2 ^ excessBits p n + 1) (2 ^ p) with hcarry | hcarry
    · exact ⟨_, _, hcarry, rfl⟩
    · -- rounding up carries into a new bit
      have hfull : n / 2 ^ excessBits p n + 1 = 2 ^ p := by omega
      refine ⟨1, p + excessBits p n, Nat.one_lt_two_pow (by omega), ?_⟩
      rw [hfull, one_mul, Nat.pow_add]

theorem unit_dvd_of_fits
    {p n : Nat}
    (h : Fits p n) :
    2 ^ excessBits p n ∣ n := by
  obtain ⟨m, e, hm, rfl⟩ := h
  rcases Nat.eq_zero_or_pos m with rfl | hpos
  · rw [Nat.zero_mul]
    exact dvd_zero _
  · have hlt : m * 2 ^ e < 2 ^ (p + e) := by
      rw [Nat.pow_add]
      exact Nat.mul_lt_mul_of_pos_right hm (by positivity)
    have hne : m * 2 ^ e ≠ 0 := by positivity
    have hlog : Nat.log2 (m * 2 ^ e) < p + e := (Nat.log2_lt hne).mpr hlt
    have hexcess : excessBits p (m * 2 ^ e) ≤ e := by
      unfold excessBits
      omega
    exact Dvd.dvd.mul_left (Nat.pow_dvd_pow 2 hexcess) m

/-- Exactly the numbers of `p` bits are left as they are. -/
theorem roundBits_eq_iff
    {p : Nat}
    (hp : 0 < p)
    (n : Nat) :
    roundBits p n = n ↔ Fits p n := by
  constructor
  · intro h
    rw [← h]
    exact roundBits_fits hp n
  · intro h
    have hdvd := unit_dvd_of_fits h
    have hrest : n % 2 ^ excessBits p n = 0 := Nat.mod_eq_zero_of_dvd hdvd
    have hunit : 0 < 2 ^ excessBits p n := by positivity
    simp only [roundBits, hrest, Nat.mul_zero, hunit, true_or, if_true]
    exact Nat.div_mul_cancel hdvd

/-- A finite binary floating-point number of `p` significant bits. -/
structure Binary (p : Nat) where
  value : ℚ
  fits : ∃ m e : Int, m.natAbs < 2 ^ p ∧ value = m * (2 : ℚ) ^ e

namespace Binary

variable {p : Nat}

theorem eq_of_value
    {x y : Binary p}
    (h : x.value = y.value) :
    x = y := by
  cases x
  cases y
  simpa using h

instance : DecidableEq (Binary p) :=
  fun x y => decidable_of_iff (x.value = y.value) ⟨eq_of_value, fun h => h ▸ rfl⟩

/-- The number is whole. -/
def isInteger
    (x : Binary p) : Bool :=
  x.value.den = 1

/-- The integer a whole number is. -/
def toInt
    (x : Binary p) : Int :=
  x.value.num

theorem value_of_isInteger
    {x : Binary p}
    (h : x.isInteger = true) :
    x.value = (x.toInt : ℚ) := by
  have hden : x.value.den = 1 := of_decide_eq_true h
  exact (Rat.den_eq_one_iff x.value).mp hden |>.symm

variable [NeZero p]

theorem zero_lt_bits : 0 < p :=
  Nat.pos_of_ne_zero (NeZero.ne p)

/-- The number nearest to an integer. -/
def ofInt
    (n : Int) : Binary p where
  value := ((n.sign * (roundBits p n.natAbs : Int) : Int) : ℚ)
  fits := by
    obtain ⟨m, e, hm, heq⟩ := roundBits_fits (@zero_lt_bits p _) n.natAbs
    refine ⟨n.sign * m, e, ?_, ?_⟩
    · rw [Int.natAbs_mul]
      have hsign : n.sign.natAbs ≤ 1 := by
        rcases Int.lt_trichotomy n 0 with h | rfl | h
        · simp [Int.sign_eq_neg_one_of_neg h]
        · simp
        · simp [Int.sign_eq_one_of_pos h]
      calc
        n.sign.natAbs * (m : Int).natAbs ≤ 1 * m := Nat.mul_le_mul hsign (by simp)
        _ < 2 ^ p := by simpa using hm
    · rw [heq]
      push_cast
      rw [zpow_natCast, mul_assoc]

theorem ofInt_value_eq_iff
    (n : Int) :
    (ofInt n : Binary p).value = n ↔ Fits p n.natAbs := by
  rw [← roundBits_eq_iff (@zero_lt_bits p _)]
  simp only [ofInt]
  constructor
  · intro h
    have hint : n.sign * (roundBits p n.natAbs : Int) = n := by exact_mod_cast h
    have hsame : n.sign * (roundBits p n.natAbs : Int) = n.sign * (n.natAbs : Int) :=
      hint.trans (Int.sign_mul_natAbs n).symm
    rcases eq_or_ne n 0 with rfl | hne
    · simp [roundBits]
    · have hsign : n.sign ≠ 0 := fun h => hne (Int.sign_eq_zero_iff_zero.mp h)
      exact_mod_cast mul_left_cancel₀ hsign hsame
  · intro h
    rw [h, Int.sign_mul_natAbs]

theorem isInteger_ofInt
    (n : Int) :
    (ofInt n : Binary p).isInteger = true :=
  decide_eq_true (Rat.den_intCast _)

theorem toInt_ofInt_eq_iff
    (n : Int) :
    (ofInt n : Binary p).toInt = n ↔ Fits p n.natAbs := by
  rw [← ofInt_value_eq_iff, value_of_isInteger (isInteger_ofInt n)]
  exact Iff.symm Int.cast_inj

/-- The integer of a whole number gives back the number. -/
theorem ofInt_toInt
    {x : Binary p}
    (h : x.isInteger = true) :
    ofInt x.toInt = x := by
  have hvalue := value_of_isInteger h
  refine eq_of_value (((ofInt_value_eq_iff x.toInt).mpr ?_).trans hvalue.symm)
  obtain ⟨m, e, hm, heq⟩ := x.fits
  rw [hvalue] at heq
  rcases le_or_gt 0 e with he | he
  · refine ⟨m.natAbs, e.toNat, hm, ?_⟩
    have hpow : (2 : ℚ) ^ e = ((2 ^ e.toNat : Int) : ℚ) := by
      rw [← Int.toNat_of_nonneg he, zpow_natCast, Int.toNat_natCast]
      push_cast
      rfl
    have hint : x.toInt = m * 2 ^ e.toNat := by
      rw [hpow] at heq
      exact_mod_cast heq
    rw [hint, Int.natAbs_mul, Int.natAbs_pow]
    rfl
  · -- a negative exponent divides the mantissa, so the integer is no larger than it
    refine ⟨x.toInt.natAbs, 0, ?_, by simp⟩
    have hpow : m = x.toInt * 2 ^ (-e).toNat := by
      have hne : (2 : ℚ) ^ e ≠ 0 := zpow_ne_zero e two_ne_zero
      have hm' : (m : ℚ) = x.toInt * (2 : ℚ) ^ (-e) := by
        rw [heq, zpow_neg, mul_assoc, mul_inv_cancel₀ hne, mul_one]
      have hcast : (2 : ℚ) ^ (-e) = ((2 ^ (-e).toNat : Int) : ℚ) := by
        rw [← Int.toNat_of_nonneg (by omega : 0 ≤ -e), zpow_natCast, Int.toNat_natCast]
        push_cast
        rfl
      rw [hcast] at hm'
      exact_mod_cast hm'
    have habs : m.natAbs = x.toInt.natAbs * 2 ^ (-e).toNat := by
      rw [hpow, Int.natAbs_mul, Int.natAbs_pow]
      rfl
    have hle : x.toInt.natAbs ≤ m.natAbs := by
      rw [habs]
      exact Nat.le_mul_of_pos_right _ (by positivity)
    omega

end Binary
end SalesAgent
