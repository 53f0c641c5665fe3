import PageExtract.Proofs.Overflow
import Mathlib.Algebra.Order.Group.Unbundled.Abs
import Mathlib.Tactic.FieldSimp

/-!
# The value that is nearest

A whole number is nearest to a ratio if it is half a unit away at most, and exactly half a unit only if it is
even. What a ratio is rounded to is nearest to it among all values of the format: those with the exponent of
the ratio or a greater one are whole numbers of units, and those with a smaller exponent lie below the binade
that the ratio is in, whose least value is a whole number of units too.
-/

namespace PageExtract

/-! ### Whole numbers -/

/-- The whole number is nearest to `q`, and the even one of two. -/
structure NearestWhole (n : Nat) (q : ℚ) : Prop where
  le_half : |(n : ℚ) - q| ≤ 1 / 2
  even_of_eq : |(n : ℚ) - q| = 1 / 2 → n % 2 = 0

/-- Either neighbour is taken if it is the nearer one, and of two that are equally near the even one. -/
theorem roundDivEven_spec (num : Nat) {den : Nat} (hden : 0 < den) :
    2 * num ≤ 2 * (roundDivEven num den * den) + den ∧ 2 * (roundDivEven num den * den) ≤ 2 * num + den ∧
      (2 * num = 2 * (roundDivEven num den * den) + den ∨ 2 * (roundDivEven num den * den) = 2 * num + den →
        roundDivEven num den % 2 = 0) := by
  have hnum := Nat.div_add_mod num den
  have hrest := Nat.mod_lt num hden
  unfold roundDivEven
  dsimp only
  generalize num / den = quotient at *
  generalize num % den = rest at *
  have hlower : quotient * den = den * quotient := Nat.mul_comm quotient den
  have hupper : (quotient + 1) * den = den * quotient + den := by ring
  split_ifs <;> simp only [hlower, hupper] <;> omega

theorem nearestWhole_roundDivEven {num den : Nat} (hden : 0 < den) :
    NearestWhole (roundDivEven num den) (num / den) := by
  obtain ⟨hlow, hhigh, heven⟩ := roundDivEven_spec num hden
  have hden' : (0 : ℚ) < den := by exact_mod_cast hden
  generalize roundDivEven num den = n at *
  have hlow' : 2 * (num : ℚ) ≤ 2 * (n * den) + den := by exact_mod_cast hlow
  have hhigh' : 2 * ((n : ℚ) * den) ≤ 2 * num + den := by exact_mod_cast hhigh
  have hratio : (num : ℚ) / den * den = num := div_mul_cancel₀ _ hden'.ne'
  constructor
  · rw [abs_sub_le_iff]
    constructor <;> nlinarith
  · intro htie
    refine heven ?_
    rcases (abs_eq (by norm_num)).1 htie with hupper | hlower
    · have hsides : 2 * ((n : ℚ) * den) = 2 * num + den := by
        calc 2 * ((n : ℚ) * den) = 2 * (num / den * den + (n - num / den) * den) := by ring
          _ = 2 * num + den := by rw [hratio, hupper]; ring
      exact .inr (by exact_mod_cast hsides)
    · have hsides : 2 * (num : ℚ) = 2 * (n * den) + den := by
        calc 2 * (num : ℚ) = 2 * (n * den - (n - num / den) * den) := by rw [sub_mul, hratio]; ring
          _ = 2 * (n * den) + den := by rw [hlower]; ring
      exact .inl (by exact_mod_cast hsides)

namespace NearestWhole

variable {n m : Nat} {q : ℚ}

theorem half_le (h : NearestWhole n q) {j : ℤ} (hj : j ≠ n) : 1 / 2 ≤ |(j : ℚ) - q| := by
  have hone : (1 : ℚ) ≤ |(j : ℚ) - n| := by
    exact_mod_cast Int.one_le_abs (sub_ne_zero.2 hj)
  have htriangle : |(j : ℚ) - n| ≤ |(j : ℚ) - q| + |(n : ℚ) - q| := by
    rw [abs_sub_comm (n : ℚ) q]
    exact abs_sub_le _ _ _
  linarith [h.le_half]

theorem le (h : NearestWhole n q) (j : ℤ) : |(n : ℚ) - q| ≤ |(j : ℚ) - q| := by
  by_cases hj : j = n
  · rw [hj, Int.cast_natCast]
  · exact h.le_half.trans (h.half_le hj)

theorem even (h : NearestWhole n q) {j : ℤ} (hj : j ≠ n) (htie : |(n : ℚ) - q| = |(j : ℚ) - q|) : n % 2 = 0 :=
  h.even_of_eq (le_antisymm h.le_half (htie ▸ h.half_le hj))

theorem unique (h : NearestWhole n q) (h' : NearestWhole m q) : n = m := by
  by_contra hne
  have hcast : (m : ℤ) ≠ n := fun heq => hne (by exact_mod_cast heq.symm)
  have hcast' : (n : ℤ) ≠ m := hcast.symm
  have hhalf : (1 : ℚ) / 2 ≤ |((m : ℤ) : ℚ) - q| := h.half_le hcast
  have hhalf' : (1 : ℚ) / 2 ≤ |((n : ℤ) : ℚ) - q| := h'.half_le hcast'
  rw [Int.cast_natCast] at hhalf hhalf'
  have hn : |(n : ℚ) - q| = 1 / 2 := le_antisymm h.le_half hhalf'
  have hm : |(m : ℚ) - q| = 1 / 2 := le_antisymm h'.le_half hhalf
  have hneven := h.even_of_eq hn
  have hmeven := h'.even_of_eq hm
  -- both are even, so they are two units apart at least, but each is half a unit from `q`
  have hfar : (2 : ℚ) ≤ |(n : ℚ) - m| := by
    have hfar : (2 : ℤ) ≤ |(n : ℤ) - m| := by
      rw [le_abs]
      omega
    exact_mod_cast hfar
  have htriangle : |(n : ℚ) - m| ≤ |(n : ℚ) - q| + |(m : ℚ) - q| := by
    rw [abs_sub_comm (m : ℚ) q]
    exact abs_sub_le _ _ _
  linarith

end NearestWhole

/-! ### Values -/

def signed (negative : Bool) (q : ℚ) : ℚ := if negative then -q else q

@[simp]
theorem signed_true (q : ℚ) : signed true q = -q := rfl

@[simp]
theorem signed_false (q : ℚ) : signed false q = q := rfl

@[simp]
theorem abs_signed (negative : Bool) (q : ℚ) : |signed negative q| = |q| := by
  cases negative
  · rfl
  · exact abs_neg q

theorem abs_signed_sub_signed (negative : Bool) (a b : ℚ) :
    |signed negative a - signed negative b| = |a - b| := by
  cases negative
  · rfl
  · rw [abs_sub_comm a b]
    exact congrArg abs (neg_sub_neg a b)

namespace Dyadic

def magnitude (x : Dyadic) : ℚ := x.significand * 2 ^ x.exponent

def value (x : Dyadic) : ℚ := signed x.negative x.magnitude

theorem magnitude_nonneg (x : Dyadic) : 0 ≤ x.magnitude :=
  mul_nonneg (Nat.cast_nonneg _) (by positivity)

theorem abs_value (x : Dyadic) : |x.value| = x.magnitude := by
  rw [value, abs_signed, abs_of_nonneg x.magnitude_nonneg]

end Dyadic

namespace BinaryFormat

variable {fmt : BinaryFormat} {negative : Bool} {num den : Nat}

/-- A value in the one form that the format has for it: the significand is as long as it can be, unless the
exponent is the least one. -/
structure Canonical (fmt : BinaryFormat) (x : Dyadic) : Prop extends fmt.Holds x where
  normal : 2 ^ (fmt.precision - 1) ≤ x.significand ∨ x.exponent = fmt.minExponent

/-- The value of the format is nearest to `q`: no other is nearer, and one that is as near is there only if
the significand is even. -/
structure NearestTo (fmt : BinaryFormat) (x : Dyadic) (q : ℚ) : Prop where
  canonical : fmt.Canonical x
  le : ∀ y, fmt.Holds y → |x.value - q| ≤ |y.value - q|
  even : ∀ y, fmt.Holds y → y.value ≠ x.value → |x.value - q| = |y.value - q| → x.significand % 2 = 0

theorem nearestWhole_units (hden : 0 < den) :
    NearestWhole (fmt.units num den) (num / den / 2 ^ fmt.unitExponent num den) := by
  have hden' : (den : ℚ) ≠ 0 := by exact_mod_cast hden.ne'
  have hscaled : ((num * 2 ^ (-fmt.unitExponent num den).toNat : Nat) : ℚ) /
      (den * 2 ^ (fmt.unitExponent num den).toNat : Nat) = num / den / 2 ^ fmt.unitExponent num den := by
    push_cast
    rw [← zpow_mul_pow_toNat two_ne_zero (fmt.unitExponent num den)]
    field_simp
  rw [← hscaled]
  exact nearestWhole_roundDivEven (unit_pos hden _)

theorem abs_mul_sub {u : ℚ} (hu : 0 < u) (a q : ℚ) : |a * u - q| = |a - q / u| * u := by
  conv_lhs => rw [← div_mul_cancel₀ q hu.ne', ← sub_mul, abs_mul, abs_of_pos hu]

variable (fmt num) in
/-- Whole numbers of units are no nearer than the rounded ratio, and only then as near if it is even. -/
theorem units_le_abs_sub (hden : 0 < den) (j : ℤ) :
    |(fmt.units num den : ℚ) * 2 ^ fmt.unitExponent num den - num / den| ≤
        |(j : ℚ) * 2 ^ fmt.unitExponent num den - num / den| ∧
      (j ≠ fmt.units num den →
        |(fmt.units num den : ℚ) * 2 ^ fmt.unitExponent num den - num / den| =
          |(j : ℚ) * 2 ^ fmt.unitExponent num den - num / den| → fmt.units num den % 2 = 0) := by
  have hunit : (0 : ℚ) < 2 ^ fmt.unitExponent num den := by positivity
  have hnearest : NearestWhole (fmt.units num den) (num / den / 2 ^ fmt.unitExponent num den) :=
    nearestWhole_units hden
  rw [abs_mul_sub hunit, abs_mul_sub hunit, mul_left_inj' hunit.ne']
  exact ⟨mul_le_mul_of_nonneg_right (hnearest.le j) hunit.le, hnearest.even⟩

/-- A value with the exponent of the unit or a greater one is a whole number of units. -/
theorem exists_units_of_le {e f : ℤ} (h : e ≤ f) (k : Nat) :
    ∃ j : ℤ, (k : ℚ) * 2 ^ f = j * 2 ^ e := by
  refine ⟨k * 2 ^ (f - e).toNat, ?_⟩
  have hsplit : (2 : ℚ) ^ f = 2 ^ (f - e).toNat * 2 ^ e := by
    rw [← zpow_natCast, ← zpow_add₀ (by norm_num)]
    congr 1
    omega
  push_cast
  rw [hsplit, mul_assoc]

/-- A value with a smaller exponent is less than the binade of the unit. -/
theorem mul_two_zpow_lt {e f : ℤ} (h : f < e) {k : Nat} (hk : k < 2 ^ fmt.precision) :
    (k : ℚ) * 2 ^ f < 2 ^ (fmt.precision - 1 : ℤ) * 2 ^ e := by
  calc (k : ℚ) * 2 ^ f < 2 ^ fmt.precision * 2 ^ f := by
        have hk' : (k : ℚ) < 2 ^ fmt.precision := by exact_mod_cast hk
        gcongr
    _ = 2 ^ (fmt.precision + f : ℤ) := by rw [zpow_add₀ (by norm_num), zpow_natCast]
    _ ≤ 2 ^ (fmt.precision - 1 + e : ℤ) := zpow_le_zpow_right₀ (by norm_num) (by omega)
    _ = 2 ^ (fmt.precision - 1 : ℤ) * 2 ^ e := zpow_add₀ (by norm_num) _ _

theorem units_nearest (hprecision : 0 < fmt.precision) (hnum : 0 < num) (hden : 0 < den) {y : Dyadic}
    (hy : fmt.Holds y) :
    |(fmt.units num den : ℚ) * 2 ^ fmt.unitExponent num den - num / den| ≤ |y.magnitude - num / den| ∧
      (y.magnitude ≠ fmt.units num den * 2 ^ fmt.unitExponent num den →
        |(fmt.units num den : ℚ) * 2 ^ fmt.unitExponent num den - num / den| = |y.magnitude - num / den| →
          fmt.units num den % 2 = 0) := by
  by_cases hexponent : fmt.unitExponent num den ≤ y.exponent
  · obtain ⟨j, hj⟩ := exists_units_of_le hexponent y.significand
    obtain ⟨hle, heven⟩ := units_le_abs_sub fmt num hden j
    rw [Dyadic.magnitude, hj]
    refine ⟨hle, fun hne => heven ?_⟩
    rintro rfl
    exact hne (by rw [Int.cast_natCast])
  · have hleast : fmt.minExponent < fmt.unitExponent num den := by
      have hmin := hy.minExponent_le
      omega
    have hbinade := two_zpow_unitExponent_le hnum hden hleast
    have hbelow : y.magnitude < 2 ^ (fmt.precision - 1 : ℤ) * 2 ^ fmt.unitExponent num den :=
      mul_two_zpow_lt (not_le.1 hexponent) hy.significand_lt
    obtain ⟨j, hj⟩ : ∃ j : ℤ, (2 : ℚ) ^ (fmt.precision - 1 : ℤ) = j := by
      refine ⟨2 ^ (fmt.precision - 1), ?_⟩
      rw [show (fmt.precision - 1 : ℤ) = (fmt.precision - 1 : Nat) by omega, zpow_natCast]
      norm_cast
    have hle := (units_le_abs_sub fmt num hden j).1
    rw [← hj, abs_of_nonpos (sub_nonpos.2 hbinade)] at hle
    rw [abs_of_neg (a := y.magnitude - _) (sub_neg.2 (hbelow.trans_le hbinade))]
    exact ⟨by linarith, fun _ htie => by linarith⟩

theorem canonical_of_round (hprecision : 0 < fmt.precision) (hexponents : fmt.minExponent ≤ fmt.maxExponent)
    (hden : 0 < den) {x : Dyadic} (h : fmt.round negative num den = some x) : fmt.Canonical x := by
  refine ⟨(holds_of_round hprecision hexponents hden h).2, ?_⟩
  rcases Nat.eq_zero_or_pos num with rfl | hnum
  · rw [round, if_pos rfl] at h
    exact .inr (congrArg Dyadic.exponent (Option.some.inj h).symm)
  rw [round_eq hnum.ne' hprecision] at h
  split_ifs at h with hunits hexponent hnone hexponent
  · obtain rfl := Option.some.inj h
    exact .inl (Nat.pow_div hprecision (by decide)).symm.le
  · obtain rfl := Option.some.inj h
    exact .inr rfl
  · obtain rfl := Option.some.inj h
    by_cases hleast : fmt.unitExponent num den = fmt.minExponent
    · exact .inr hleast
    · have hunit : fmt.minExponent < fmt.unitExponent num den :=
        lt_of_le_of_ne (Int.le_max_left _ _) (Ne.symm hleast)
      exact .inl (le_units hprecision hnum hden hunit)

/-- The rounded ratio becomes the value, with another exponent if it is carried over or none is left of it. -/
theorem magnitude_of_round (hprecision : 1 < fmt.precision) (hnum : 0 < num) {x : Dyadic}
    (h : fmt.round negative num den = some x) :
    x.magnitude = fmt.units num den * 2 ^ fmt.unitExponent num den ∧
      (fmt.units num den % 2 = 0 → x.significand % 2 = 0) := by
  rw [round_eq hnum.ne' (by omega)] at h
  split_ifs at h with hunits hexponent hnone hexponent
  · obtain rfl := Option.some.inj h
    obtain ⟨half, hhalf⟩ : ∃ half, fmt.precision = half + 2 := ⟨fmt.precision - 2, by omega⟩
    have hsignificand : 2 ^ fmt.precision / 2 = 2 * 2 ^ half := by
      rw [hhalf, pow_succ, Nat.mul_div_cancel _ (by decide), pow_succ, Nat.mul_comm]
    rw [Dyadic.magnitude, hunits, hsignificand, hhalf]
    refine ⟨?_, fun _ => Nat.mul_mod_right 2 _⟩
    push_cast
    rw [zpow_add_one₀ (by norm_num)]
    ring
  · obtain rfl := Option.some.inj h
    rw [Dyadic.magnitude, zero, hnone, Nat.cast_zero, zero_mul, zero_mul]
    exact ⟨rfl, id⟩
  · obtain rfl := Option.some.inj h
    exact ⟨rfl, id⟩

theorem abs_magnitude_sub_le (y : Dyadic) {q : ℚ} (hq : 0 ≤ q) :
    |y.magnitude - q| ≤ |y.value - signed negative q| := by
  calc |y.magnitude - q| = |(|y.value| - |signed negative q|)| := by
        rw [y.abs_value, abs_signed, abs_of_nonneg hq]
    _ ≤ |y.value - signed negative q| := abs_abs_sub_abs_le_abs_sub _ _

/-- A magnitude with the other sign is farther away, unless it is zero. -/
theorem value_eq_of_abs_sub_eq {x y : Dyadic} {q : ℚ} (hq : 0 < q) (hmagnitude : y.magnitude = x.magnitude)
    (h : |x.magnitude - q| = |y.value - signed x.negative q|) : y.value = x.value := by
  by_cases hsign : y.negative = x.negative
  · rw [Dyadic.value, Dyadic.value, hsign, hmagnitude]
  · have hfar : |y.value - signed x.negative q| = x.magnitude + q := by
      have hneg : y.negative = !x.negative := Bool.eq_not_iff.2 hsign
      have hsum : y.value - signed x.negative q = signed (!x.negative) (x.magnitude + q) := by
        rw [Dyadic.value, hneg, hmagnitude]
        cases x.negative
        · simp only [Bool.not_false, signed_true, signed_false]
          ring
        · simp only [Bool.not_true, signed_true, signed_false]
          ring
      rw [hsum, abs_signed, abs_of_nonneg (add_nonneg x.magnitude_nonneg hq.le)]
    have hzero : x.magnitude = 0 := by
      have hnonneg := x.magnitude_nonneg
      rw [hfar, abs_eq (by linarith)] at h
      rcases h with h | h <;> linarith
    rw [Dyadic.value, Dyadic.value, hmagnitude, hzero]
    cases x.negative <;> cases y.negative <;> simp

/-- **What a ratio is rounded to is nearest to it**, of all values of the format with either sign. -/
theorem nearestTo_of_round (hprecision : 1 < fmt.precision) (hexponents : fmt.minExponent ≤ fmt.maxExponent)
    (hden : 0 < den) {x : Dyadic} (h : fmt.round negative num den = some x) :
    fmt.NearestTo x (signed negative (num / den)) := by
  have hcanonical : fmt.Canonical x := canonical_of_round (by omega) hexponents hden h
  obtain ⟨rfl, -⟩ := holds_of_round (by omega) hexponents hden h
  rcases Nat.eq_zero_or_pos num with rfl | hnum
  · rw [round, if_pos rfl] at h
    have hzero : x.significand = 0 := congrArg Dyadic.significand (Option.some.inj h).symm
    have hnone : x.value - signed x.negative ((0 : Nat) / den) = 0 := by
      simp [Dyadic.value, Dyadic.magnitude, hzero, signed]
    refine ⟨hcanonical, fun y _ => ?_, fun _ _ _ _ => by rw [hzero]⟩
    rw [hnone, abs_zero]
    exact abs_nonneg _
  obtain ⟨hmagnitude, heven⟩ := magnitude_of_round hprecision hnum h
  have hratio : (0 : ℚ) < num / den := by positivity
  have hx : |x.value - signed x.negative (num / den)| = |x.magnitude - num / den| :=
    abs_signed_sub_signed _ _ _
  have hsign (y : Dyadic) : |y.magnitude - num / den| ≤ |y.value - signed x.negative (num / den)| :=
    abs_magnitude_sub_le y hratio.le
  have hnearest {y : Dyadic} (hy : fmt.Holds y) := units_nearest (by omega) hnum hden hy
  rw [← hmagnitude] at hnearest
  refine ⟨hcanonical, fun y hy => ?_, fun y hy hne htie => ?_⟩
  · rw [hx]
    exact (hnearest hy).1.trans (hsign y)
  · rw [hx] at htie
    have hsame : |x.magnitude - num / den| = |y.magnitude - num / den| :=
      le_antisymm (hnearest hy).1 (htie ▸ hsign y)
    have hother : y.magnitude ≠ x.magnitude := fun hmag => hne (value_eq_of_abs_sub_eq hratio hmag htie)
    exact heven ((hnearest hy).2 hother hsame)

end BinaryFormat

end PageExtract
