import Mathlib.Data.Int.Log
import Mathlib.Data.Rat.Floor
import Mathlib.Tactic.Linarith
import Mathlib.Tactic.Positivity

/-!
# Rounding to a floating-point number

The result of an arithmetic operation on binary floating-point numbers of `p` significant bits is
the exact result, rounded to the nearest such number; halfway between two of them, to the one
whose last bit is even.  Exponents are not bounded here.

**Results.**
* `nearest_mono`: rounding keeps the order of positive numbers.
* `nearest_zpow_mul`: rounding commutes with a power of two.
* `floor_div_lt_floor_nearest`: the whole part of a quotient of rounded numbers is above half the
  exact quotient.
-/

namespace SalesAgent
namespace FloatRounding

/-- The nearest integer, half to even. -/
def roundEven
    (x : ℚ) : Int :=
  if x - ⌊x⌋ < 1 / 2 ∨ (x - ⌊x⌋ = 1 / 2 ∧ ⌊x⌋ % 2 = 0) then ⌊x⌋ else ⌊x⌋ + 1

/-- The distance of the numbers of `p` bits around a number. -/
def spacing
    (p : Nat)
    (x : ℚ) : ℚ :=
  (2 : ℚ) ^ (Int.log 2 |x| - (p - 1 : Int))

/-- The nearest number of `p` significant bits. -/
def nearest
    (p : Nat)
    (x : ℚ) : ℚ :=
  roundEven (x / spacing p x) * spacing p x

section Integers

theorem floor_le_roundEven
    (x : ℚ) :
    ⌊x⌋ ≤ roundEven x := by
  rw [roundEven]
  split
  · exact le_rfl
  · exact Int.le_add_one le_rfl

theorem roundEven_le_floor_add_one
    (x : ℚ) :
    roundEven x ≤ ⌊x⌋ + 1 := by
  rw [roundEven]
  split
  · exact Int.le_add_one le_rfl
  · exact le_rfl

theorem roundEven_intCast
    (n : Int) :
    roundEven n = n := by
  rw [roundEven, Int.floor_intCast, sub_self, if_pos (.inl (by norm_num))]

theorem roundEven_mono
    {x y : ℚ}
    (h : x ≤ y) :
    roundEven x ≤ roundEven y := by
  rcases (Int.floor_mono h).lt_or_eq with hlt | heq
  · exact (roundEven_le_floor_add_one x).trans
      ((Int.add_one_le_of_lt hlt).trans (floor_le_roundEven y))
  · -- between the same integers, what rounds up stays above what rounds down
    by_cases hdown : y - ⌊y⌋ < 1 / 2 ∨ (y - ⌊y⌋ = 1 / 2 ∧ ⌊y⌋ % 2 = 0)
    · have hdown' : x - ⌊x⌋ < 1 / 2 ∨ (x - ⌊x⌋ = 1 / 2 ∧ ⌊x⌋ % 2 = 0) := by
        rw [heq]
        rcases hdown with hless | ⟨hhalf, heven⟩
        · exact .inl (lt_of_le_of_lt (sub_le_sub_right h _) hless)
        · have hle : x - ⌊y⌋ ≤ 1 / 2 := (sub_le_sub_right h _).trans_eq hhalf
          exact (lt_or_eq_of_le hle).imp id fun hsame => ⟨hsame, heven⟩
      rw [roundEven, if_pos hdown', heq]
      exact floor_le_roundEven y
    · rw [show roundEven y = ⌊y⌋ + 1 from if_neg hdown, ← heq]
      exact roundEven_le_floor_add_one x

end Integers

section Bits

variable {p : Nat} {x y : ℚ}

theorem spacing_pos
    (p : Nat)
    (x : ℚ) :
    0 < spacing p x :=
  zpow_pos (by norm_num) _

theorem log_eq
    {e : Int}
    (hlow : (2 : ℚ) ^ e ≤ x)
    (hhigh : x < (2 : ℚ) ^ (e + 1)) :
    Int.log 2 x = e := by
  have hpos : 0 < x := lt_of_lt_of_le (zpow_pos (by norm_num) e) hlow
  have hle : e ≤ Int.log 2 x := (Int.zpow_le_iff_le_log (by norm_num) hpos).mp hlow
  have hlt : Int.log 2 x < e + 1 := (Int.lt_zpow_iff_log_lt (by norm_num) hpos).mp hhigh
  omega

theorem log_zpow_mul
    (e : Int)
    (hx : 0 < x) :
    Int.log 2 ((2 : ℚ) ^ e * x) = e + Int.log 2 x := by
  have hpos : (0 : ℚ) < 2 ^ e := zpow_pos (by norm_num) e
  refine log_eq ?_ ?_
  · rw [zpow_add₀ (by norm_num)]
    exact mul_le_mul_of_nonneg_left (Int.zpow_log_le_self (by norm_num) hx) hpos.le
  · rw [add_assoc, zpow_add₀ (by norm_num)]
    exact mul_lt_mul_of_pos_left (Int.lt_zpow_succ_log_self (by norm_num) x) hpos

theorem spacing_of_pos
    (hx : 0 < x) :
    spacing p x = (2 : ℚ) ^ (Int.log 2 x - (p - 1 : Int)) := by
  rw [spacing, abs_of_pos hx]

/-- Rounding commutes with a power of two. -/
theorem nearest_zpow_mul
    (e : Int)
    (hx : 0 < x) :
    nearest p ((2 : ℚ) ^ e * x) = (2 : ℚ) ^ e * nearest p x := by
  have hpos : (0 : ℚ) < 2 ^ e := zpow_pos (by norm_num) e
  have hspacing : spacing p ((2 : ℚ) ^ e * x) = (2 : ℚ) ^ e * spacing p x := by
    rw [spacing_of_pos (mul_pos hpos hx), spacing_of_pos hx, log_zpow_mul e hx,
      ← zpow_add₀ (by norm_num)]
    congr 1
    ring
  rw [nearest, nearest, hspacing, mul_div_mul_left _ _ hpos.ne']
  ring

theorem natCast_mul_spacing
    (hx : 0 < x)
    {k : Nat}
    {e : Int}
    (he : (k : Int) + Int.log 2 x - (p - 1 : Int) = e) :
    ((2 ^ k : Int) : ℚ) * spacing p x = (2 : ℚ) ^ e := by
  rw [spacing_of_pos hx, Int.cast_pow, Int.cast_ofNat, ← zpow_natCast, ← zpow_add₀ (by norm_num),
    ← he]
  congr 1
  ring

theorem zpow_log_le_nearest
    (hp : 0 < p)
    (hx : 0 < x) :
    (2 : ℚ) ^ Int.log 2 x ≤ nearest p x := by
  have hunit := @natCast_mul_spacing p x hx (p - 1) (Int.log 2 x) (by omega)
  have hle : ((2 ^ (p - 1) : Int) : ℚ) ≤ x / spacing p x := by
    rw [le_div_iff₀ (spacing_pos p x), hunit]
    exact Int.zpow_log_le_self (by norm_num) hx
  have hround := roundEven_mono hle
  rw [roundEven_intCast] at hround
  rw [← hunit, nearest]
  exact mul_le_mul_of_nonneg_right (by exact_mod_cast hround) (spacing_pos p x).le

theorem nearest_le_zpow
    (hx : 0 < x) :
    nearest p x ≤ (2 : ℚ) ^ (Int.log 2 x + 1) := by
  have hunit := @natCast_mul_spacing p x hx p (Int.log 2 x + 1) (by omega)
  have hle : x / spacing p x ≤ ((2 ^ p : Int) : ℚ) := by
    rw [div_le_iff₀ (spacing_pos p x), hunit]
    exact (Int.lt_zpow_succ_log_self (by norm_num) x).le
  have hround := roundEven_mono hle
  rw [roundEven_intCast] at hround
  rw [← hunit, nearest]
  exact mul_le_mul_of_nonneg_right (by exact_mod_cast hround) (spacing_pos p x).le

theorem nearest_pos
    (hp : 0 < p)
    (hx : 0 < x) :
    0 < nearest p x :=
  (zpow_pos (by norm_num) _).trans_le (zpow_log_le_nearest hp hx)

/-- Rounding keeps the order of positive numbers. -/
theorem nearest_mono
    (hp : 0 < p)
    (hx : 0 < x)
    (h : x ≤ y) :
    nearest p x ≤ nearest p y := by
  have hy := hx.trans_le h
  rcases (Int.log_mono_right (b := 2) hx h).lt_or_eq with hlt | heq
  · calc
      nearest p x ≤ (2 : ℚ) ^ (Int.log 2 x + 1) := nearest_le_zpow hx
      _ ≤ (2 : ℚ) ^ Int.log 2 y := zpow_le_zpow_right₀ (by norm_num) hlt
      _ ≤ nearest p y := zpow_log_le_nearest hp hy
  · have hspacing : spacing p x = spacing p y := by
      rw [spacing_of_pos hx, spacing_of_pos hy, heq]
    rw [nearest, nearest, hspacing]
    refine mul_le_mul_of_nonneg_right ?_ (spacing_pos p y).le
    exact_mod_cast roundEven_mono (div_le_div_of_nonneg_right h (spacing_pos p y).le)

theorem nearest_nonpos
    (p : Nat)
    (hx : x ≤ 0) :
    nearest p x ≤ 0 := by
  have hround := roundEven_mono (div_nonpos_of_nonpos_of_nonneg hx (spacing_pos p x).le)
  rw [← Int.cast_zero, roundEven_intCast] at hround
  exact mul_nonpos_of_nonpos_of_nonneg (by exact_mod_cast hround) (spacing_pos p x).le

theorem nearest_zpow
    (hp : 0 < p)
    (e : Int) :
    nearest p ((2 : ℚ) ^ e) = (2 : ℚ) ^ e := by
  have hone : nearest p 1 = 1 := by
    have hunit := @natCast_mul_spacing p 1 one_pos (p - 1) 0 (by rw [Int.log_one_right]; omega)
    rw [zpow_zero] at hunit
    have hdiv : (1 : ℚ) / spacing p 1 = ((2 ^ (p - 1) : Int) : ℚ) := by
      rw [div_eq_iff (spacing_pos p 1).ne', hunit]
    rw [nearest, hdiv, roundEven_intCast, hunit]
  have hmul := @nearest_zpow_mul p 1 e one_pos
  rw [mul_one, hone, mul_one] at hmul
  exact hmul

theorem zpow_le_nearest_div_nearest
    (hp : 0 < p)
    {e : Int}
    (hy : 0 < y)
    (h : (2 : ℚ) ^ e ≤ x / y) :
    (2 : ℚ) ^ e ≤ nearest p (nearest p x / nearest p y) := by
  have hpow : (0 : ℚ) < 2 ^ e := zpow_pos (by norm_num) e
  have hle : (2 : ℚ) ^ e * y ≤ x := (le_div_iff₀ hy).mp h
  have hround := nearest_mono hp (mul_pos hpow hy) hle
  rw [nearest_zpow_mul e hy] at hround
  have hquotient : (2 : ℚ) ^ e ≤ nearest p x / nearest p y :=
    (le_div_iff₀ (nearest_pos hp hy)).mpr hround
  have hlast := nearest_mono hp hpow hquotient
  rwa [nearest_zpow hp] at hlast

/-- The whole part of a quotient of rounded numbers is above that of a half of the exact quotient,
where this is at least one. -/
theorem floor_div_lt_floor_nearest
    (hp : 0 < p)
    {m : ℚ}
    (hy : 0 < y)
    (hone : 1 ≤ x / y)
    (hm : 2 ≤ m) :
    ⌊x / y / m⌋ < ⌊nearest p (nearest p x / nearest p y)⌋ := by
  have hquotient : 0 < x / y := one_pos.trans_le hone
  obtain ⟨k, hk⟩ : ∃ k : Nat, Int.log 2 (x / y) = k := by
    refine Int.eq_ofNat_of_zero_le ?_
    rw [← Int.zpow_le_iff_le_log (by norm_num) hquotient, zpow_zero]
    exact hone
  have hlow := Int.zpow_log_le_self (b := 2) (by norm_num) hquotient
  have hhigh := Int.lt_zpow_succ_log_self (b := 2) (by norm_num) (x / y)
  rw [hk, Nat.cast_ofNat] at hlow hhigh
  rw [zpow_add_one₀ (by norm_num)] at hhigh
  have hrounded := zpow_le_nearest_div_nearest hp hy hlow
  have hwhole : ((2 ^ k : Int) : ℚ) = (2 : ℚ) ^ (k : Int) := by
    rw [Int.cast_pow, Int.cast_ofNat, zpow_natCast]
  calc
    ⌊x / y / m⌋ < 2 ^ k := by
      rw [Int.floor_lt, hwhole]
      calc
        x / y / m ≤ x / y / 2 := div_le_div_of_nonneg_left hquotient.le (by norm_num) hm
        _ < (2 : ℚ) ^ (k : Int) := by linarith
    _ ≤ ⌊nearest p (nearest p x / nearest p y)⌋ := by
      rw [Int.le_floor, hwhole]
      exact hrounded

end Bits

end FloatRounding
end SalesAgent
