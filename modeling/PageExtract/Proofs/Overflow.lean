import PageExtract.Number.Binary
import Mathlib.Algebra.Order.Field.Power
import Mathlib.Algebra.Order.Field.Rat
import Mathlib.Tactic.Linarith
import Mathlib.Tactic.NormNum
import Mathlib.Tactic.Ring
import Mathlib.Tactic.Positivity

/-!
# Ratios that no value is near to

Rounding a ratio scales it by a power of two, so that the whole part has as many binary digits as a
significand, or fewer where the exponent would be too small. The scaled ratio then is rounded to a whole
number. What comes of it is a value of the format, unless its exponent is too great; and this is so exactly
for ratios from `BinaryFormat.limit` on, where the next power of two would be at least as near as the
greatest value.
-/

namespace PageExtract

/-! ### Whole numbers near a quotient -/

/-- An even number is reached half a unit early, because a half goes up to it. -/
theorem le_roundDivEven_iff {num den n : Nat} (hden : 0 < den) (hn : n % 2 = 0) :
    n ≤ roundDivEven num den ↔ 2 * n * den ≤ 2 * num + den := by
  have hnum := Nat.div_add_mod num den
  have hrest := Nat.mod_lt num hden
  unfold roundDivEven
  dsimp only
  generalize num / den = quotient at *
  generalize num % den = rest at *
  subst hnum
  rcases Nat.lt_trichotomy n (quotient + 1) with hlt | rfl | hlt
  · have hmul : n * den ≤ quotient * den := Nat.mul_le_mul_right den (by omega)
    have hleft : 2 * n * den = 2 * (n * den) := Nat.mul_assoc 2 n den
    have hright : den * quotient = quotient * den := Nat.mul_comm den quotient
    refine iff_of_true ?_ (by omega)
    split_ifs <;> omega
  · have hmul : 2 * (quotient + 1) * den = 2 * (den * quotient) + 2 * den := by ring
    split_ifs <;> omega
  · have hmul : (quotient + 2) * den ≤ n * den := Nat.mul_le_mul_right den (by omega)
    have hleft : 2 * n * den = 2 * (n * den) := Nat.mul_assoc 2 n den
    have hright : (quotient + 2) * den = den * quotient + 2 * den := by ring
    refine iff_of_false ?_ (by omega)
    split_ifs <;> omega

theorem roundDivEven_le {num den n : Nat} (hden : 0 < den) (h : num < n * den) : roundDivEven num den ≤ n := by
  have hquotient : num / den < n := (Nat.div_lt_iff_lt_mul hden).2 h
  unfold roundDivEven
  dsimp only
  split_ifs <;> omega

theorem le_roundDivEven {num den n : Nat} (hden : 0 < den) (h : n * den ≤ num) : n ≤ roundDivEven num den := by
  have hquotient : n ≤ num / den := (Nat.le_div_iff_mul_le hden).2 h
  unfold roundDivEven
  dsimp only
  split_ifs <;> omega

/-! ### The binade of a ratio -/

theorem zpow_mul_pow_toNat {base : ℚ} (hbase : base ≠ 0) (e : Int) :
    base ^ e * base ^ (-e).toNat = base ^ e.toNat := by
  rw [← zpow_natCast, ← zpow_natCast, ← zpow_add₀ hbase]
  congr 1
  omega

theorem mul_zpow_le_div_iff {base : ℚ} (hbase : 0 < base) {num den : Nat} (hden : 0 < den) (c : ℚ) (e : Int) :
    c * base ^ e ≤ num / den ↔ c * (den * base ^ e.toNat) ≤ num * base ^ (-e).toNat := by
  have hpos : 0 < base ^ (-e).toNat := pow_pos hbase _
  have hden' : (0 : ℚ) < den := by exact_mod_cast hden
  have hscale : c * base ^ e * den * base ^ (-e).toNat = c * (den * (base ^ e * base ^ (-e).toNat)) := by ring
  rw [le_div_iff₀ hden', ← mul_le_mul_iff_left₀ hpos, hscale, zpow_mul_pow_toNat hbase.ne']

theorem zpow_le_div_iff {base : Nat} (hbase : 0 < base) {num den : Nat} (hden : 0 < den) (e : Int) :
    (base : ℚ) ^ e ≤ num / den ↔ den * base ^ e.toNat ≤ num * base ^ (-e).toNat := by
  have h : (1 : ℚ) * base ^ e ≤ num / den ↔ (1 : ℚ) * (den * base ^ e.toNat) ≤ num * base ^ (-e).toNat :=
    mul_zpow_le_div_iff (Nat.cast_pos.2 hbase) hden 1 e
  rw [one_mul, one_mul] at h
  rw [h]
  exact_mod_cast Iff.rfl

/-- A ratio is scaled in its denominator or in its numerator, as the other power is one. -/
theorem ite_mul_pow {α : Type*} (f : Nat → Nat → α) (base num den : Nat) (e : Int) :
    (if 0 ≤ e then f num (den * base ^ e.toNat) else f (num * base ^ (-e).toNat) den) =
      f (num * base ^ (-e).toNat) (den * base ^ e.toNat) := by
  split_ifs with he
  · rw [Int.toNat_eq_zero.2 (Int.neg_nonpos_of_nonneg he), pow_zero, mul_one]
  · rw [Int.toNat_eq_zero.2 (Int.le_of_lt (Int.not_le.1 he)), pow_zero, mul_one]

theorem ite_shiftLeft {α : Type*} (f : Nat → Nat → α) (num den : Nat) (e : Int) :
    (if 0 ≤ e then f num (den <<< e.toNat) else f (num <<< (-e).toNat) den) =
      f (num * 2 ^ (-e).toNat) (den * 2 ^ e.toNat) := by
  rw [Nat.shiftLeft_eq, Nat.shiftLeft_eq]
  exact ite_mul_pow f 2 num den e

/-- The whole parts of the logarithms are off by one at most. -/
theorem two_zpow_log2_sub_le {num den : Nat} (hnum : 0 < num) (hden : 0 < den) :
    (2 : ℚ) ^ ((num.log2 : Int) - den.log2 - 1) ≤ num / den ∧
      (num : ℚ) / den < 2 ^ ((num.log2 : Int) - den.log2 + 1) := by
  have hden' : (0 : ℚ) < den := by exact_mod_cast hden
  have hnumLow : (2 : ℚ) ^ (num.log2 : Int) ≤ num := by exact_mod_cast Nat.log2_self_le hnum.ne'
  have hnumHigh : (num : ℚ) < 2 ^ ((num.log2 : Int) + 1) := by exact_mod_cast Nat.lt_log2_self
  have hdenLow : (2 : ℚ) ^ (den.log2 : Int) ≤ den := by exact_mod_cast Nat.log2_self_le hden.ne'
  have hdenHigh : (den : ℚ) < 2 ^ ((den.log2 : Int) + 1) := by exact_mod_cast Nat.lt_log2_self
  constructor
  · rw [le_div_iff₀ hden']
    calc (2 : ℚ) ^ ((num.log2 : Int) - den.log2 - 1) * den
        ≤ 2 ^ ((num.log2 : Int) - den.log2 - 1) * 2 ^ ((den.log2 : Int) + 1) := by gcongr
      _ = 2 ^ (num.log2 : Int) := by
          rw [← zpow_add₀ (by norm_num)]
          congr 1
          omega
      _ ≤ num := hnumLow
  · rw [div_lt_iff₀ hden']
    calc (num : ℚ) < 2 ^ ((num.log2 : Int) + 1) := hnumHigh
      _ = 2 ^ ((num.log2 : Int) - den.log2 + 1) * 2 ^ (den.log2 : Int) := by
          rw [← zpow_add₀ (by norm_num)]
          congr 1
          omega
      _ ≤ 2 ^ ((num.log2 : Int) - den.log2 + 1) * den := by gcongr

theorem log2Ratio_spec {num den : Nat} (hnum : 0 < num) (hden : 0 < den) :
    (2 : ℚ) ^ log2Ratio num den ≤ num / den ∧ (num : ℚ) / den < 2 ^ (log2Ratio num den + 1) := by
  obtain ⟨hlow, hhigh⟩ := two_zpow_log2_sub_le hnum hden
  have hreached : (if 0 ≤ (num.log2 : Int) - den.log2 then
        den <<< ((num.log2 : Int) - den.log2).toNat ≤ num
      else den ≤ num <<< (-((num.log2 : Int) - den.log2)).toNat) ↔
      (2 : ℚ) ^ ((num.log2 : Int) - den.log2) ≤ num / den := by
    have hpower : ((2 : Nat) : ℚ) ^ ((num.log2 : Int) - den.log2) ≤ num / den ↔ _ := zpow_le_div_iff two_pos hden _
    rw [Nat.cast_ofNat] at hpower
    rw [hpower]
    exact iff_of_eq (ite_shiftLeft (fun num den => den ≤ num) num den _)
  rw [log2Ratio]
  simp only [Int.ofNat_eq_natCast]
  by_cases hle : (2 : ℚ) ^ ((num.log2 : Int) - den.log2) ≤ num / den
  · rw [if_pos (hreached.2 hle)]
    exact ⟨hle, hhigh⟩
  · rw [if_neg (mt hreached.1 hle), Int.sub_add_cancel]
    exact ⟨hlow, not_le.1 hle⟩

/-! ### Rounding to a format -/

namespace BinaryFormat

variable {fmt : BinaryFormat} {negative : Bool} {num den : Nat}

/-- The value is one of the format. -/
structure Holds (fmt : BinaryFormat) (x : Dyadic) : Prop where
  significand_lt : x.significand < 2 ^ fmt.precision
  minExponent_le : fmt.minExponent ≤ x.exponent
  exponent_le : x.exponent ≤ fmt.maxExponent

/-- Half way from the greatest value of the format to the next power of two. -/
def limit (fmt : BinaryFormat) : ℚ := (2 ^ fmt.precision - 1 / 2) * 2 ^ fmt.maxExponent

/-- The exponent of the values next to a ratio. -/
def unitExponent (fmt : BinaryFormat) (num den : Nat) : Int :=
  max fmt.minExponent (log2Ratio num den - (fmt.precision - 1 : Int))

/-- The ratio in units of that exponent, rounded. -/
def units (fmt : BinaryFormat) (num den : Nat) : Nat :=
  roundDivEven (num * 2 ^ (-fmt.unitExponent num den).toNat) (den * 2 ^ (fmt.unitExponent num den).toNat)

theorem round_eq (hnum : num ≠ 0) (hprecision : 0 < fmt.precision) :
    fmt.round negative num den =
      if fmt.units num den = 2 ^ fmt.precision then
        if fmt.unitExponent num den + 1 ≤ fmt.maxExponent then
          some ⟨negative, 2 ^ fmt.precision / 2, fmt.unitExponent num den + 1⟩
        else none
      else if fmt.units num den = 0 then some (fmt.zero negative)
      else if fmt.unitExponent num den ≤ fmt.maxExponent then
        some ⟨negative, fmt.units num den, fmt.unitExponent num den⟩
      else none := by
  unfold round units unitExponent
  rw [if_neg hnum]
  dsimp only
  generalize max fmt.minExponent (log2Ratio num den - (fmt.precision - 1)) = e
  have hsignificand : (if 0 ≤ e then roundDivEven num (den <<< e.toNat)
      else roundDivEven (num <<< (-e).toNat) den) =
      roundDivEven (num * 2 ^ (-e).toNat) (den * 2 ^ e.toNat) := ite_shiftLeft roundDivEven num den e
  rw [hsignificand, Nat.pow_eq]
  generalize roundDivEven (num * 2 ^ (-e).toNat) (den * 2 ^ e.toNat) = significand
  by_cases hcarried : significand = 2 ^ fmt.precision
  · have hhalf : 2 ^ fmt.precision / 2 ≠ 0 := by
      have hle : 2 ^ 1 ≤ 2 ^ fmt.precision := Nat.pow_le_pow_right (by omega) hprecision
      omega
    rw [if_pos hcarried, if_pos hcarried, if_pos hcarried, hcarried, if_neg hhalf]
  · rw [if_neg hcarried, if_neg hcarried, if_neg hcarried]

theorem lt_two_zpow_unitExponent (hnum : 0 < num) (hden : 0 < den) :
    (num : ℚ) / den < 2 ^ fmt.precision * 2 ^ fmt.unitExponent num den := by
  have hle : log2Ratio num den + 1 ≤ fmt.precision + fmt.unitExponent num den := by
    have hmax := Int.le_max_right fmt.minExponent (log2Ratio num den - (fmt.precision - 1))
    rw [unitExponent]
    omega
  calc (num : ℚ) / den < 2 ^ (log2Ratio num den + 1) := (log2Ratio_spec hnum hden).2
    _ ≤ 2 ^ (fmt.precision + fmt.unitExponent num den) := zpow_le_zpow_right₀ (by norm_num) hle
    _ = 2 ^ fmt.precision * 2 ^ fmt.unitExponent num den := by
        rw [zpow_add₀ (by norm_num), zpow_natCast]

/-- Above the least exponent all digits of the significand are used. -/
theorem two_zpow_unitExponent_le (hnum : 0 < num) (hden : 0 < den)
    (h : fmt.minExponent < fmt.unitExponent num den) :
    (2 : ℚ) ^ (fmt.precision - 1 : Int) * 2 ^ fmt.unitExponent num den ≤ num / den := by
  have hexponent : fmt.precision - 1 + fmt.unitExponent num den = log2Ratio num den := by
    rw [unitExponent] at h ⊢
    omega
  rw [← zpow_add₀ (by norm_num), hexponent]
  exact (log2Ratio_spec hnum hden).1

theorem unit_pos (hden : 0 < den) (e : Int) : 0 < den * 2 ^ e.toNat :=
  Nat.mul_pos hden (Nat.two_pow_pos _)

theorem units_le (hnum : 0 < num) (hden : 0 < den) : fmt.units num den ≤ 2 ^ fmt.precision := by
  have hlt : (num : ℚ) / den < 2 ^ fmt.precision * 2 ^ fmt.unitExponent num den :=
    lt_two_zpow_unitExponent hnum hden
  rw [← not_le, mul_zpow_le_div_iff two_pos hden, not_le] at hlt
  exact roundDivEven_le (unit_pos hden _) (by exact_mod_cast hlt)

theorem units_eq_iff (hprecision : 0 < fmt.precision) (hnum : 0 < num) (hden : 0 < den) :
    fmt.units num den = 2 ^ fmt.precision ↔
      (2 ^ fmt.precision - 1 / 2) * 2 ^ fmt.unitExponent num den ≤ (num : ℚ) / den := by
  have heven : 2 ^ fmt.precision % 2 = 0 := Nat.mod_eq_zero_of_dvd (dvd_pow_self 2 hprecision.ne')
  rw [(units_le hnum hden).ge_iff_eq.symm, units, le_roundDivEven_iff (unit_pos hden _) heven,
    mul_zpow_le_div_iff two_pos hden, ← Nat.cast_le (α := ℚ)]
  push_cast
  constructor <;> intro h <;> linarith

theorem le_units (hprecision : 0 < fmt.precision) (hnum : 0 < num) (hden : 0 < den)
    (h : fmt.minExponent < fmt.unitExponent num den) : 2 ^ (fmt.precision - 1) ≤ fmt.units num den := by
  have hbinade : (2 : ℚ) ^ (fmt.precision - 1 : Int) * 2 ^ fmt.unitExponent num den ≤ num / den :=
    two_zpow_unitExponent_le hnum hden h
  have hcast : (fmt.precision - 1 : Int) = (fmt.precision - 1 : Nat) := by omega
  rw [hcast, zpow_natCast, mul_zpow_le_div_iff two_pos hden] at hbinade
  exact le_roundDivEven (unit_pos hden _) (by exact_mod_cast hbinade)

theorem two_pow_mul_le_limit {e : Int} (h : e + 1 ≤ fmt.maxExponent) :
    (2 : ℚ) ^ fmt.precision * 2 ^ e ≤ fmt.limit := by
  have hone : (1 : ℚ) ≤ 2 ^ fmt.precision := one_le_pow₀ (by norm_num)
  calc (2 : ℚ) ^ fmt.precision * 2 ^ e = 2 ^ fmt.precision / 2 * 2 ^ (e + 1) := by
        rw [zpow_add_one₀ (by norm_num)]
        ring
    _ ≤ (2 ^ fmt.precision - 1 / 2) * 2 ^ fmt.maxExponent :=
        mul_le_mul (by linarith) (zpow_le_zpow_right₀ (by norm_num) h) (by positivity) (by linarith)

theorem limit_le_of_lt {e : Int} (h : fmt.maxExponent < e) :
    fmt.limit ≤ (2 : ℚ) ^ (fmt.precision - 1 : Int) * 2 ^ e := by
  calc fmt.limit ≤ 2 ^ fmt.precision * 2 ^ fmt.maxExponent :=
        mul_le_mul_of_nonneg_right (by linarith) (by positivity)
    _ = 2 ^ (fmt.precision - 1 : Int) * 2 ^ (fmt.maxExponent + 1) := by
        rw [← zpow_natCast, ← zpow_add₀ (by norm_num), ← zpow_add₀ (by norm_num)]
        congr 1
        omega
    _ ≤ 2 ^ (fmt.precision - 1 : Int) * 2 ^ e :=
        mul_le_mul_of_nonneg_left (zpow_le_zpow_right₀ (by norm_num) h) (by positivity)

/-- A ratio has no value near to it exactly from the limit on. -/
theorem round_eq_none_iff (hprecision : 0 < fmt.precision) (hexponents : fmt.minExponent ≤ fmt.maxExponent)
    (hden : 0 < den) : fmt.round negative num den = none ↔ fmt.limit ≤ (num : ℚ) / den := by
  have hfactor : (0 : ℚ) < 2 ^ fmt.precision - 1 / 2 := by
    have hone : (1 : ℚ) ≤ 2 ^ fmt.precision := one_le_pow₀ (by norm_num)
    linarith
  have hgrow {a b : Int} (h : a ≤ b) :
      ((2 : ℚ) ^ fmt.precision - 1 / 2) * 2 ^ a ≤ (2 ^ fmt.precision - 1 / 2) * 2 ^ b :=
    mul_le_mul_of_nonneg_left (zpow_le_zpow_right₀ (by norm_num) h) hfactor.le
  rcases Nat.eq_zero_or_pos num with rfl | hnum
  · have hlimit : 0 < fmt.limit := mul_pos hfactor (by positivity)
    rw [round, if_pos rfl, Nat.cast_zero, zero_div]
    exact iff_of_false nofun (not_le.2 hlimit)
  have hcarried := units_eq_iff hprecision hnum hden
  rw [round_eq hnum.ne' hprecision]
  by_cases hunits : fmt.units num den = 2 ^ fmt.precision
  · rw [if_pos hunits]
    by_cases hexponent : fmt.unitExponent num den + 1 ≤ fmt.maxExponent
    · rw [if_pos hexponent]
      have hbelow := (lt_two_zpow_unitExponent hnum hden).trans_le (two_pow_mul_le_limit hexponent)
      exact iff_of_false nofun (not_le.2 hbelow)
    · rw [if_neg hexponent]
      exact iff_of_true rfl ((hgrow (by omega)).trans (hcarried.1 hunits))
  · rw [if_neg hunits]
    by_cases hexponent : fmt.unitExponent num den ≤ fmt.maxExponent
    · rw [if_pos hexponent]
      have hbelow := (not_le.1 (mt hcarried.2 hunits)).trans_le (hgrow hexponent)
      split_ifs <;> exact iff_of_false nofun (not_le.2 hbelow)
    · have hleast : fmt.minExponent < fmt.unitExponent num den := by omega
      have hnonzero : fmt.units num den ≠ 0 :=
        ((Nat.two_pow_pos _).trans_le (le_units hprecision hnum hden hleast)).ne'
      rw [if_neg hnonzero, if_neg hexponent]
      have hbeyond := limit_le_of_lt (Int.not_le.1 hexponent)
      exact iff_of_true rfl (hbeyond.trans (two_zpow_unitExponent_le hnum hden hleast))

theorem holds_of_round (hprecision : 0 < fmt.precision) (hexponents : fmt.minExponent ≤ fmt.maxExponent)
    (hden : 0 < den) {x : Dyadic} (h : fmt.round negative num den = some x) :
    x.negative = negative ∧ fmt.Holds x := by
  have hzero : fmt.Holds (fmt.zero negative) := ⟨Nat.two_pow_pos _, le_rfl, hexponents⟩
  have hleast : fmt.minExponent ≤ fmt.unitExponent num den := Int.le_max_left _ _
  rcases Nat.eq_zero_or_pos num with rfl | hnum
  · rw [round, if_pos rfl] at h
    obtain rfl := Option.some.inj h
    exact ⟨rfl, hzero⟩
  rw [round_eq hnum.ne' hprecision] at h
  split_ifs at h with hunits hexponent hnone hexponent
  · obtain rfl := Option.some.inj h
    exact ⟨rfl, Nat.div_lt_self (Nat.two_pow_pos _) (by decide), Int.le_add_one hleast, hexponent⟩
  · obtain rfl := Option.some.inj h
    exact ⟨rfl, hzero⟩
  · obtain rfl := Option.some.inj h
    exact ⟨rfl, Nat.lt_of_le_of_ne (units_le hnum hden) hunits, hleast, hexponent⟩

end BinaryFormat

end PageExtract
