import PageExtract.Proofs.PrintedText
import PageExtract.Proofs.Rounding

/-!
# Decimals that read back

The numbers that are rounded to a value lie around it, half a unit away at most, or a quarter below a power
of two. Seventeen digits are enough for a decimal among them: from there on the grid of decimals is finer
than a quarter of a unit. So the decimal that is looked for with more and more digits is found, and it is
rounded to the value it was made from.
-/

namespace PageExtract

namespace BinaryFormat

variable {fmt : BinaryFormat} {x : Dyadic} {negative : Bool} {num den : Nat}

/-! ### The numbers around a value -/

/-- How much less than the significand may be rounded up to it. -/
def slackBelow (fmt : BinaryFormat) (x : Dyadic) : ℚ :=
  if x.significand = 2 ^ (fmt.precision - 1) ∧ fmt.minExponent < x.exponent then 1 / 4 else 1 / 2

/-- The numbers that are rounded to a value, the ends counted if the significand is even. -/
def RoundsTo (fmt : BinaryFormat) (x : Dyadic) (q : ℚ) : Prop :=
  if x.significand % 2 = 0 then
    (x.significand - fmt.slackBelow x) * 2 ^ x.exponent ≤ q ∧ q ≤ (x.significand + 1 / 2) * 2 ^ x.exponent
  else
    (x.significand - fmt.slackBelow x) * 2 ^ x.exponent < q ∧ q < (x.significand + 1 / 2) * 2 ^ x.exponent

theorem slackBelow_le : fmt.slackBelow x ≤ 1 / 2 := by
  unfold slackBelow
  split_ifs <;> norm_num

theorem quarter_le_slackBelow : 1 / 4 ≤ fmt.slackBelow x := by
  unfold slackBelow
  split_ifs <;> norm_num

theorem RoundsTo.bounds {q : ℚ} (h : fmt.RoundsTo x q) :
    (x.significand - fmt.slackBelow x) * 2 ^ x.exponent ≤ q ∧ q ≤ (x.significand + 1 / 2) * 2 ^ x.exponent := by
  unfold RoundsTo at h
  split_ifs at h
  · exact h
  · exact ⟨h.1.le, h.2.le⟩

theorem RoundsTo.of_lt {q : ℚ} (hlow : (x.significand - fmt.slackBelow x) * 2 ^ x.exponent < q)
    (hhigh : q < (x.significand + 1 / 2) * 2 ^ x.exponent) : fmt.RoundsTo x q := by
  unfold RoundsTo
  split_ifs
  · exact ⟨hlow.le, hhigh.le⟩
  · exact ⟨hlow, hhigh⟩

theorem RoundsTo.pos {q : ℚ} (h : fmt.RoundsTo x q) (hsignificand : x.significand ≠ 0) : 0 < q := by
  have hone : (1 : ℚ) ≤ x.significand := by exact_mod_cast Nat.one_le_iff_ne_zero.2 hsignificand
  have hslack : fmt.slackBelow x ≤ 1 / 2 := slackBelow_le
  have hlow : 0 < (x.significand - fmt.slackBelow x) * 2 ^ x.exponent := mul_pos (by linarith) (by positivity)
  exact hlow.trans_le h.bounds.1

theorem unitExponent_eq (hnum : 0 < num) (hden : 0 < den) {e : Int} (hleast : fmt.minExponent ≤ e)
    (hlow : (2 : ℚ) ^ (fmt.precision - 1 : ℤ) * 2 ^ e ≤ num / den ∨ e = fmt.minExponent)
    (hhigh : (num : ℚ) / den < 2 ^ fmt.precision * 2 ^ e) : fmt.unitExponent num den = e := by
  obtain ⟨hlog, hlog'⟩ := log2Ratio_spec hnum hden
  have hle : log2Ratio num den < fmt.precision + e := by
    rw [← zpow_natCast, ← zpow_add₀ (by norm_num)] at hhigh
    exact (zpow_lt_zpow_iff_right₀ (by norm_num)).1 (hlog.trans_lt hhigh)
  rw [unitExponent]
  rcases hlow with hlow | rfl
  · have hge : fmt.precision - 1 + e < log2Ratio num den + 1 := by
      rw [← zpow_add₀ (by norm_num)] at hlow
      exact (zpow_lt_zpow_iff_right₀ (by norm_num)).1 (hlow.trans_lt hlog')
    omega
  · omega

/-- Half a unit away at most is enough if the exponent is that of the ratio. -/
theorem round_of_nearestWhole (hx : fmt.Holds x) (hsignificand : x.significand ≠ 0) (hprecision : 0 < fmt.precision)
    (hnum : 0 < num) (hden : 0 < den) (hexponent : fmt.unitExponent num den = x.exponent)
    (h : NearestWhole x.significand (num / den / 2 ^ x.exponent)) :
    fmt.round x.negative num den = some x := by
  have hunits : fmt.units num den = x.significand := by
    refine NearestWhole.unique (nearestWhole_units hden) ?_
    rw [hexponent]
    exact h
  rw [round_eq hnum.ne' hprecision, hunits, if_neg hx.significand_lt.ne, if_neg hsignificand, hexponent,
    if_pos hx.exponent_le]

theorem RoundsTo.nearestWhole {q : ℚ} (h : fmt.RoundsTo x q) :
    NearestWhole x.significand (q / 2 ^ x.exponent) := by
  have hunit : (0 : ℚ) < 2 ^ x.exponent := by positivity
  have hslack : fmt.slackBelow x ≤ 1 / 2 := slackBelow_le
  obtain ⟨hlow, hhigh⟩ := h.bounds
  have hlow' : x.significand - fmt.slackBelow x ≤ q / 2 ^ x.exponent := (le_div_iff₀ hunit).2 hlow
  have hhigh' : q / 2 ^ x.exponent ≤ x.significand + 1 / 2 := (div_le_iff₀ hunit).2 hhigh
  refine ⟨abs_sub_le_iff.2 ⟨by linarith, by linarith⟩, fun htie => ?_⟩
  by_contra hodd
  rw [RoundsTo, if_neg hodd, ← lt_div_iff₀ hunit, ← div_lt_iff₀ hunit] at h
  obtain ⟨hlow, hhigh⟩ := h
  rcases (abs_eq (by norm_num)).1 htie with htie | htie <;> linarith

/-- A number below the binade of a value with the exponent of that binade, but so near that it is carried over. -/
theorem round_of_below (hx : fmt.Holds x) (hsignificand : x.significand = 2 ^ (fmt.precision - 1))
    (hprecision : 0 < fmt.precision) (hleast : fmt.minExponent < x.exponent) (hnum : 0 < num) (hden : 0 < den)
    (hlow : (2 ^ (fmt.precision - 1) - 1 / 4) * 2 ^ x.exponent ≤ (num : ℚ) / den)
    (hhigh : (num : ℚ) / den < 2 ^ (fmt.precision - 1) * 2 ^ x.exponent) :
    fmt.round x.negative num den = some x := by
  obtain ⟨digits, hdigits⟩ : ∃ digits, fmt.precision = digits + 1 := ⟨fmt.precision - 1, by omega⟩
  rw [hdigits, Nat.add_sub_cancel] at hsignificand hlow hhigh
  obtain ⟨e, he⟩ : ∃ e, x.exponent = e + 1 := ⟨x.exponent - 1, by omega⟩
  have hone : (1 : ℚ) ≤ 2 ^ digits := one_le_pow₀ (by norm_num)
  have hunit : (0 : ℚ) < 2 ^ e := by positivity
  rw [he, zpow_add_one₀ (by norm_num)] at hlow hhigh
  have hexponent : fmt.unitExponent num den = e := by
    refine unitExponent_eq hnum hden (by omega) (.inl ?_) ?_
    · rw [hdigits, show ((digits + 1 : Nat) - 1 : ℤ) = digits by omega, zpow_natCast]
      nlinarith
    · rw [hdigits, pow_succ]
      linarith
  have hunits : fmt.units num den = 2 ^ fmt.precision := by
    rw [units_eq_iff (by omega) hnum hden, hexponent, hdigits, pow_succ]
    linarith
  rw [round_eq hnum.ne' (by omega), if_pos hunits, hexponent, ← he, if_pos hx.exponent_le, hdigits, pow_succ,
    Nat.mul_div_cancel _ (by decide), ← hsignificand]

/-- **The numbers around a value are rounded to it.** -/
theorem round_of_roundsTo (hx : fmt.Canonical x) (hsignificand : x.significand ≠ 0) (hprecision : 0 < fmt.precision)
    (hnum : 0 < num) (hden : 0 < den) (h : fmt.RoundsTo x (num / den)) :
    fmt.round x.negative num den = some x := by
  have hunit : (0 : ℚ) < 2 ^ x.exponent := by positivity
  obtain ⟨hlow, hhigh⟩ := h.bounds
  have hbelow : (num : ℚ) / den < 2 ^ fmt.precision * 2 ^ x.exponent := by
    have hsucc : (x.significand : ℚ) + 1 ≤ 2 ^ fmt.precision := by exact_mod_cast hx.significand_lt
    exact hhigh.trans_lt (mul_lt_mul_of_pos_right (by linarith) hunit)
  have hfull : (2 : ℚ) ^ (fmt.precision - 1 : ℤ) = 2 ^ (fmt.precision - 1) := by
    rw [show (fmt.precision - 1 : ℤ) = (fmt.precision - 1 : Nat) by omega, zpow_natCast]
  by_cases hbinade : (2 : ℚ) ^ (fmt.precision - 1 : ℤ) * 2 ^ x.exponent ≤ num / den ∨ x.exponent = fmt.minExponent
  · exact round_of_nearestWhole hx.toHolds hsignificand hprecision hnum hden
      (unitExponent_eq hnum hden hx.minExponent_le hbinade hbelow) h.nearestWhole
  · obtain ⟨hunder, hleast⟩ := not_or.1 hbinade
    rw [hfull, not_le] at hunder
    have hnormal : 2 ^ (fmt.precision - 1) ≤ x.significand := hx.normal.resolve_right hleast
    have hleast' : fmt.minExponent < x.exponent := lt_of_le_of_ne hx.minExponent_le (Ne.symm hleast)
    have hpower : x.significand = 2 ^ (fmt.precision - 1) := by
      refine le_antisymm (Nat.le_of_lt_succ ?_) hnormal
      have hslack : fmt.slackBelow x ≤ 1 / 2 := slackBelow_le
      have hlt : (x.significand - fmt.slackBelow x : ℚ) < 2 ^ (fmt.precision - 1) :=
        lt_of_mul_lt_mul_right (hlow.trans_lt hunder) hunit.le
      have hlt' : (x.significand : ℚ) < 2 ^ (fmt.precision - 1) + 1 := by linarith
      exact_mod_cast hlt'
    rw [slackBelow, if_pos ⟨hpower, hleast'⟩, hpower] at hlow
    push_cast at hlow
    exact round_of_below hx.toHolds hpower hprecision hleast' hnum hden hlow hunder

/-! ### The numbers around a value in whole numbers -/

theorem cast_scaled (n : Nat) (scale : ℤ) :
    ((if 0 ≤ scale then n <<< scale.toNat else n : Nat) : ℚ) =
      n * 2 ^ scale * (if 0 ≤ scale then 1 else 1 <<< (-scale).toNat : Nat) := by
  rw [Nat.shiftLeft_eq, Nat.shiftLeft_eq, Nat.one_mul]
  split_ifs with hscale
  · obtain ⟨k, rfl⟩ := Int.eq_ofNat_of_zero_le hscale
    push_cast
    rw [Int.toNat_natCast, zpow_natCast, mul_one]
  · obtain ⟨k, rfl⟩ : ∃ k : Nat, scale = -k := ⟨(-scale).toNat, by omega⟩
    push_cast
    rw [neg_neg, Int.toNat_natCast, zpow_neg, zpow_natCast, inv_mul_cancel_right₀ (by positivity)]

variable (fmt) in
theorem roundingInterval_spec (hsignificand : x.significand ≠ 0) :
    0 < (fmt.roundingInterval x).den ∧
      ((fmt.roundingInterval x).low : ℚ) =
        (x.significand - fmt.slackBelow x) * 2 ^ x.exponent * (fmt.roundingInterval x).den ∧
      ((fmt.roundingInterval x).value : ℚ) = x.magnitude * (fmt.roundingInterval x).den ∧
      ((fmt.roundingInterval x).high : ℚ) =
        (x.significand + 1 / 2) * 2 ^ x.exponent * (fmt.roundingInterval x).den := by
  have hquarter : (2 : ℚ) ^ x.exponent = 4 * 2 ^ (x.exponent - 2) := by
    rw [zpow_sub₀ (by norm_num)]
    norm_num
    ring
  have hsignificand' : 1 ≤ x.significand := Nat.one_le_iff_ne_zero.2 hsignificand
  unfold roundingInterval
  dsimp only
  refine ⟨?_, ?_, ?_, ?_⟩
  · rw [Nat.shiftLeft_eq]
    split_ifs
    · exact Nat.one_pos
    · positivity
  · rw [cast_scaled, hquarter, slackBelow, Nat.pow_eq]
    congr 1
    split_ifs
    · rw [Nat.cast_sub (by omega)]
      push_cast
      ring
    · rw [Nat.cast_sub (by omega)]
      push_cast
      ring
  · rw [cast_scaled, Dyadic.magnitude, hquarter]
    push_cast
    ring
  · rw [cast_scaled, hquarter]
    push_cast
    ring

/-- The interval holds just the numbers that are rounded to the value. -/
theorem holds_roundingInterval_iff (hsignificand : x.significand ≠ 0) (hden : 0 < den) :
    (fmt.roundingInterval x).holds num den = true ↔ fmt.RoundsTo x (num / den) := by
  obtain ⟨hwhole, hlow, -, hhigh⟩ := roundingInterval_spec fmt hsignificand
  have hden' : (0 : ℚ) < den := by exact_mod_cast hden
  have hwhole' : (0 : ℚ) < (fmt.roundingInterval x).den := by exact_mod_cast hwhole
  have hcross {a : Nat} {q : ℚ} (ha : (a : ℚ) = q * (fmt.roundingInterval x).den) :
      (a * den ≤ num * (fmt.roundingInterval x).den ↔ q ≤ num / den) ∧
        (num * (fmt.roundingInterval x).den ≤ a * den ↔ num / den ≤ q) := by
    constructor
    · rw [le_div_iff₀ hden', ← Nat.cast_le (α := ℚ)]
      push_cast
      rw [ha, mul_right_comm, mul_le_mul_iff_left₀ hwhole']
    · rw [div_le_iff₀ hden', ← Nat.cast_le (α := ℚ)]
      push_cast
      rw [ha, mul_right_comm, mul_le_mul_iff_left₀ hwhole']
  have hclosed : (fmt.roundingInterval x).closed = decide (x.significand % 2 = 0) := rfl
  rw [RoundingInterval.holds, RoundsTo, hclosed]
  simp only [decide_eq_true_eq]
  split_ifs
  · rw [Bool.and_eq_true, decide_eq_true_eq, decide_eq_true_eq, (hcross hlow).1, (hcross hhigh).2]
  · rw [Bool.and_eq_true, decide_eq_true_eq, decide_eq_true_eq, ← not_le, ← not_le, (hcross hlow).2,
      (hcross hhigh).1, not_le, not_le]

end BinaryFormat

/-! ### Grids of decimals -/

namespace RoundingInterval

variable {i : RoundingInterval} {e leading : ℤ} {point : Nat}

theorem ite_pow_ten (e : ℤ) :
    (if 0 ≤ e then Nat.pow 10 e.toNat else 1) = 10 ^ e.toNat ∧
      (if 0 ≤ e then 1 else Nat.pow 10 (-e).toNat) = 10 ^ (-e).toNat := by
  rw [Nat.pow_eq, Nat.pow_eq]
  split_ifs with he
  · rw [Int.toNat_eq_zero.2 (Int.neg_nonpos_of_nonneg he), pow_zero]
    exact ⟨rfl, rfl⟩
  · rw [Int.toNat_eq_zero.2 (Int.le_of_lt (Int.not_le.1 he)), pow_zero]
    exact ⟨rfl, rfl⟩

theorem holds_of_nearestOnGrid (h : i.nearestOnGrid e = some point) :
    i.holds (point * 10 ^ e.toNat) (10 ^ (-e).toNat) = true := by
  unfold nearestOnGrid at h
  simp only [(ite_pow_ten e).1, (ite_pow_ten e).2] at h
  split at h <;> rename_i hlower hupper
  · split_ifs at h <;> obtain rfl := Option.some.inj h <;> assumption
  · obtain rfl := Option.some.inj h
    exact hlower
  · obtain rfl := Option.some.inj h
    exact hupper
  · cases h

/-- It is enough that the point below the value is in the interval. -/
theorem nearestOnGrid_ne_none
    (h : i.holds (i.value * 10 ^ (-e).toNat / (i.den * 10 ^ e.toNat) * 10 ^ e.toNat) (10 ^ (-e).toNat) = true) :
    i.nearestOnGrid e ≠ none := by
  unfold nearestOnGrid
  simp only [(ite_pow_ten e).1, (ite_pow_ten e).2, h]
  split
  · split_ifs <;> exact Option.some_ne_none _
  · exact Option.some_ne_none _
  · contradiction
  · contradiction

theorem firstGrid_spec {count fuel : Nat}
    (h : ∃ k, count ≤ k ∧ k < count + fuel ∧ i.nearestOnGrid (leading - k) ≠ none) :
    i.nearestOnGrid (i.firstGrid leading count fuel).2 = some (i.firstGrid leading count fuel).1 := by
  induction fuel generalizing count with
  | zero =>
    obtain ⟨k, hle, hlt, -⟩ := h
    omega
  | succ fuel ih =>
    rw [firstGrid]
    cases hgrid : i.nearestOnGrid (leading - count) with
    | some point => exact hgrid
    | none =>
      refine ih ?_
      obtain ⟨k, hle, hlt, hsome⟩ := h
      have hne : k ≠ count := by
        rintro rfl
        exact hsome hgrid
      exact ⟨k, by omega, by omega, hsome⟩

end RoundingInterval

/-! ### Seventeen digits -/

theorem ten_pow_length_toDigits {n : Nat} (hn : 0 < n) :
    10 ^ ((Nat.toDigits 10 n).length - 1) ≤ n ∧ n < 10 ^ (Nat.toDigits 10 n).length := by
  have hlength : 0 < (Nat.toDigits 10 n).length := Nat.length_toDigits_pos
  refine ⟨?_, (Nat.length_toDigits_le_iff (by decide) hlength).1 le_rfl⟩
  rcases Nat.eq_zero_or_pos ((Nat.toDigits 10 n).length - 1) with hone | hmore
  · rw [hone]
    exact hn
  · rw [← not_lt, ← Nat.length_toDigits_le_iff (by decide) hmore]
    omega

theorem ten_zpow_log10Ratio_le {num den : Nat} (hnum : 0 < num) (hden : 0 < den) :
    (10 : ℚ) ^ log10Ratio num den ≤ num / den := by
  have hlow : (10 : ℚ) ^ ((Nat.toDigits 10 num).length - (Nat.toDigits 10 den).length - 1 : ℤ) ≤ num / den := by
    have hlength : 0 < (Nat.toDigits 10 num).length := Nat.length_toDigits_pos
    have hden' : (0 : ℚ) < den := by exact_mod_cast hden
    have hnumLow : (10 : ℚ) ^ ((Nat.toDigits 10 num).length - 1) ≤ num := by
      exact_mod_cast (ten_pow_length_toDigits hnum).1
    have hdenHigh : (den : ℚ) ≤ 10 ^ (Nat.toDigits 10 den).length := by
      exact_mod_cast (ten_pow_length_toDigits hden).2.le
    rw [le_div_iff₀ hden']
    calc (10 : ℚ) ^ ((Nat.toDigits 10 num).length - (Nat.toDigits 10 den).length - 1 : ℤ) * den
        ≤ 10 ^ ((Nat.toDigits 10 num).length - (Nat.toDigits 10 den).length - 1 : ℤ) *
            10 ^ (Nat.toDigits 10 den).length := by gcongr
      _ = 10 ^ ((Nat.toDigits 10 num).length - 1) := by
          rw [← zpow_natCast, ← zpow_natCast, ← zpow_add₀ (by norm_num)]
          congr 1
          omega
      _ ≤ num := hnumLow
  rw [log10Ratio]
  simp only [Int.ofNat_eq_natCast, Nat.pow_eq]
  generalize ((Nat.toDigits 10 num).length : ℤ) - (Nat.toDigits 10 den).length = guess at *
  have hreached : (if 0 ≤ guess then den * 10 ^ guess.toNat ≤ num else den ≤ num * 10 ^ (-guess).toNat) ↔
      (10 : ℚ) ^ guess ≤ num / den := by
    have hpower : ((10 : Nat) : ℚ) ^ guess ≤ num / den ↔ _ := zpow_le_div_iff (by decide) hden guess
    rw [Nat.cast_ofNat] at hpower
    rw [hpower]
    exact iff_of_eq (ite_mul_pow (fun num den => den ≤ num) 10 num den guess)
  by_cases hle : (10 : ℚ) ^ guess ≤ num / den
  · rw [if_pos (hreached.2 hle)]
    exact hle
  · rw [if_neg (mt hreached.1 hle)]
    exact hlow

namespace BinaryFormat

variable {fmt : BinaryFormat} {x : Dyadic}

theorem holds_decimal_iff (hsignificand : x.significand ≠ 0) (point : Nat) (e : ℤ) :
    (fmt.roundingInterval x).holds (point * 10 ^ e.toNat) (10 ^ (-e).toNat) = true ↔
      fmt.RoundsTo x (point * 10 ^ e) := by
  have hdecimal : ((point * 10 ^ e.toNat : Nat) : ℚ) / (10 ^ (-e).toNat : Nat) = point * 10 ^ e := by
    push_cast
    rw [← zpow_mul_pow_toNat (by norm_num) e, ← mul_assoc, mul_div_cancel_right₀ _ (by positivity)]
  rw [holds_roundingInterval_iff hsignificand (by positivity), hdecimal]

variable (fmt) in
theorem lower_spec (hsignificand : x.significand ≠ 0) {e : ℤ} {lower : Nat}
    (h : lower = (fmt.roundingInterval x).value * 10 ^ (-e).toNat / ((fmt.roundingInterval x).den * 10 ^ e.toNat)) :
    lower * 10 ^ e ≤ x.magnitude ∧ x.magnitude < (lower + 1) * 10 ^ e := by
  obtain ⟨hden, -, hvalue, -⟩ := roundingInterval_spec fmt hsignificand
  have hunit : 0 < (fmt.roundingInterval x).den * 10 ^ e.toNat := by positivity
  have hden' : (0 : ℚ) < (fmt.roundingInterval x).den * 10 ^ (-e).toNat := by positivity
  have hscale (n : ℚ) : n * ((fmt.roundingInterval x).den * 10 ^ e.toNat) =
      n * 10 ^ e * ((fmt.roundingInterval x).den * 10 ^ (-e).toNat) := by
    rw [← zpow_mul_pow_toNat (by norm_num) e]
    ring
  have hle : lower * ((fmt.roundingInterval x).den * 10 ^ e.toNat) ≤
      (fmt.roundingInterval x).value * 10 ^ (-e).toNat := h ▸ Nat.div_mul_le_self _ _
  have hlt : (fmt.roundingInterval x).value * 10 ^ (-e).toNat <
      (lower + 1) * ((fmt.roundingInterval x).den * 10 ^ e.toNat) :=
    h ▸ Nat.lt_mul_of_div_lt (Nat.lt_succ_self _) hunit
  rw [← Nat.cast_le (α := ℚ)] at hle
  rw [← Nat.cast_lt (α := ℚ)] at hlt
  push_cast at hle hlt
  rw [hvalue, hscale, mul_assoc x.magnitude, mul_le_mul_iff_left₀ hden'] at hle
  rw [hvalue, hscale, mul_assoc x.magnitude, mul_lt_mul_iff_left₀ hden'] at hlt
  exact ⟨hle, hlt⟩

/-- Seventeen digits behind the first one always suffice in the 64-bit format. -/
theorem nearestOnGrid_seventeen (hx : binary64.Holds x) (hsignificand : x.significand ≠ 0) :
    (binary64.roundingInterval x).nearestOnGrid
      (log10Ratio (binary64.roundingInterval x).value (binary64.roundingInterval x).den - (17 : Nat)) ≠ none := by
  obtain ⟨hden, -, hvalue, -⟩ := roundingInterval_spec binary64 hsignificand
  have hden' : (0 : ℚ) < (binary64.roundingInterval x).den := by exact_mod_cast hden
  have hunit : (0 : ℚ) < 2 ^ x.exponent := by positivity
  have hpositive : 0 < x.magnitude := mul_pos (by exact_mod_cast Nat.pos_of_ne_zero hsignificand) hunit
  have hnum : 0 < (binary64.roundingInterval x).value := by
    rw [← Nat.cast_pos (α := ℚ), hvalue]
    exact mul_pos hpositive hden'
  have hleading := ten_zpow_log10Ratio_le hnum hden
  rw [hvalue, mul_div_cancel_right₀ _ hden'.ne'] at hleading
  generalize log10Ratio (binary64.roundingInterval x).value (binary64.roundingInterval x).den = leading at *
  -- the grid is finer than a quarter of a unit
  have hstep : (10 : ℚ) ^ (leading - (17 : Nat)) < 1 / 4 * 2 ^ x.exponent := by
    have hlt : (x.significand : ℚ) < 2 ^ 53 := by exact_mod_cast hx.significand_lt
    have hmagnitude : x.magnitude < 2 ^ 53 * 2 ^ x.exponent := mul_lt_mul_of_pos_right hlt hunit
    rw [zpow_sub₀ (by norm_num), zpow_natCast, div_lt_iff₀ (by positivity)]
    norm_num at hmagnitude ⊢
    linarith
  obtain ⟨hlower, hupper⟩ := lower_spec binary64 (e := leading - (17 : Nat)) hsignificand rfl
  refine RoundingInterval.nearestOnGrid_ne_none ((holds_decimal_iff hsignificand _ _).2 (.of_lt ?_ ?_))
  · have hslack : 1 / 4 ≤ binary64.slackBelow x := quarter_le_slackBelow
    rw [Dyadic.magnitude] at hupper
    nlinarith
  · rw [Dyadic.magnitude] at hlower
    nlinarith

end BinaryFormat

/-! ### The decimal that is found -/

/-- The number that digits say with a point behind the first of them and a power of ten. -/
def DecimalDigits.value (d : DecimalDigits) : ℚ :=
  Nat.ofDigitChars 10 d.digits 0 * 10 ^ (d.exponent - (d.digits.length - 1))

theorem exists_zeros (digits : List Char) :
    ∃ count, digits = dropTrailingZeros digits ++ List.replicate count '0' := by
  refine ⟨(digits.reverse.takeWhile (· == '0')).length, ?_⟩
  have hzeros : digits.reverse.takeWhile (· == '0') =
      List.replicate (digits.reverse.takeWhile (· == '0')).length '0' :=
    List.eq_replicate_iff.2 ⟨rfl, fun c hc => eq_of_beq (List.all_eq_true.1 List.all_takeWhile c hc)⟩
  rw [dropTrailingZeros, ← List.reverse_replicate, ← hzeros, ← List.reverse_append, List.takeWhile_append_dropWhile,
    List.reverse_reverse]

/-- Zeros at the end of a whole number are as good as a greater power of ten. -/
theorem value_dropTrailingZeros (point : Nat) (e : ℤ) :
    DecimalDigits.value ⟨dropTrailingZeros (Nat.toDigits 10 point), e + (Nat.toDigits 10 point).length - 1⟩ =
      point * 10 ^ e := by
  obtain ⟨count, hdigits⟩ := exists_zeros (Nat.toDigits 10 point)
  have hpoint : point = 10 ^ count * Nat.ofDigitChars 10 (dropTrailingZeros (Nat.toDigits 10 point)) 0 := by
    conv_lhs => rw [← Nat.ofDigitChars_ten_toDigits (n := point), hdigits]
    rw [Nat.ofDigitChars_append, Nat.ofDigitChars_replicate_zero]
  have hlength : (Nat.toDigits 10 point).length = (dropTrailingZeros (Nat.toDigits 10 point)).length + count := by
    conv_lhs => rw [hdigits]
    rw [List.length_append, List.length_replicate]
  have hpower : (10 : ℚ) ^ (e + (Nat.toDigits 10 point).length - 1 -
      ((dropTrailingZeros (Nat.toDigits 10 point)).length - 1)) = 10 ^ count * 10 ^ e := by
    rw [← zpow_natCast, ← zpow_add₀ (by norm_num), hlength]
    congr 1
    push_cast
    ring
  have hcast : (point : ℚ) = 10 ^ count * Nat.ofDigitChars 10 (dropTrailingZeros (Nat.toDigits 10 point)) 0 := by
    exact_mod_cast hpoint
  rw [DecimalDigits.value, hpower]
  conv_rhs => rw [hcast]
  ring

namespace BinaryFormat

variable {x : Dyadic}

theorem shortest_value (fmt : BinaryFormat) (x : Dyadic) :
    ∃ point e, (fmt.roundingInterval x).firstGrid
        (log10Ratio (fmt.roundingInterval x).value (fmt.roundingInterval x).den) 0 18 = (point, e) ∧
      (fmt.shortest x).value = point * 10 ^ e := by
  refine ⟨_, _, rfl, ?_⟩
  rw [shortest]
  exact value_dropTrailingZeros _ _

/-- **The decimal that is found is rounded to the value.** -/
theorem roundsTo_shortest (hx : binary64.Holds x) (hsignificand : x.significand ≠ 0) :
    binary64.RoundsTo x (binary64.shortest x).value := by
  obtain ⟨point, e, hgrid, hvalue⟩ := shortest_value binary64 x
  have hfound := RoundingInterval.firstGrid_spec
    ⟨17, Nat.zero_le 17, (by decide : 17 < 0 + 18), nearestOnGrid_seventeen hx hsignificand⟩
  rw [hgrid] at hfound
  rw [hvalue]
  exact (holds_decimal_iff hsignificand point e).1 (RoundingInterval.holds_of_nearestOnGrid hfound)

theorem shortest_digits (hx : binary64.Holds x) (hsignificand : x.significand ≠ 0) :
    (binary64.shortest x).digits ≠ [] ∧ ∀ c ∈ (binary64.shortest x).digits, c.isDigit := by
  constructor
  · intro hnil
    have hpositive := (roundsTo_shortest hx hsignificand).pos hsignificand
    rw [DecimalDigits.value, hnil, Nat.ofDigitChars_nil, Nat.cast_zero, zero_mul] at hpositive
    exact lt_irrefl 0 hpositive
  · intro c hc
    exact Nat.isDigit_of_mem_toDigits (by decide) (by decide) (mem_of_mem_dropTrailingZeros hc)

theorem RoundsTo.nearestTo {fmt : BinaryFormat} {q : ℚ} (h : fmt.RoundsTo x q) (hx : fmt.Canonical x)
    (hsignificand : x.significand ≠ 0) (hprecision : 1 < fmt.precision) : fmt.NearestTo x (signed x.negative q) := by
  have hpositive : 0 < q := h.pos hsignificand
  have hnum : 0 < q.num := Rat.num_pos.2 hpositive
  have hratio : (q.num.toNat : ℚ) / q.den = q := by
    rw [← Int.cast_natCast, Int.toNat_of_nonneg hnum.le, Rat.num_div_den]
  have hround := round_of_roundsTo hx hsignificand (by omega) (Int.lt_toNat.2 hnum) q.den_pos (hratio.symm ▸ h)
  rw [← hratio]
  exact nearestTo_of_round hprecision (hx.minExponent_le.trans hx.exponent_le) q.den_pos hround

end BinaryFormat

end PageExtract
