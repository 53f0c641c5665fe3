import PageExtract.Proofs.Prices
import PageExtract.Proofs.ShortestDecimal

/-!
# What a printed float says

A float is printed as a sign and a numeral, and the numeral has a point or an exponent or both. It says the
decimal that was found for the float, wherever its point is put, and no float is nearer to this than the one
that was printed.
-/

namespace PageExtract

open Price (written shown shown_eq IsDigits)

/-- A numeral, with a fraction or an exponent if there is one, and the number that it says. -/
inductive Numeral : List Char → ℚ → Prop where
  | plain {whole fraction : List Char} (hwhole : IsDigits whole) (hfraction : ∀ c ∈ fraction, c.isDigit) :
      Numeral (written whole fraction) (shown whole fraction)
  | up {whole fraction exponent : List Char} (hwhole : IsDigits whole) (hfraction : ∀ c ∈ fraction, c.isDigit)
      (hexponent : IsDigits exponent) :
      Numeral (written whole fraction ++ 'e' :: '+' :: exponent)
        (shown whole fraction * 10 ^ Nat.ofDigitChars 10 exponent 0)
  | down {whole fraction exponent : List Char} (hwhole : IsDigits whole) (hfraction : ∀ c ∈ fraction, c.isDigit)
      (hexponent : IsDigits exponent) :
      Numeral (written whole fraction ++ 'e' :: '-' :: exponent)
        (shown whole fraction / 10 ^ Nat.ofDigitChars 10 exponent 0)

theorem isDigits_toDigits (n : Nat) : IsDigits (Nat.toDigits 10 n) :=
  ⟨List.ne_nil_of_length_pos Nat.length_toDigits_pos, fun _ => Nat.isDigit_of_mem_toDigits (by decide) (by decide)⟩

theorem isDigits_zero : IsDigits ['0'] := ⟨List.cons_ne_nil _ _, List.all_eq_true.1 rfl⟩

theorem isDigit_of_mem_zeros {count : Nat} : ∀ c ∈ List.replicate count '0', c.isDigit := by
  intro c hc
  rw [List.eq_of_mem_replicate hc]
  rfl

theorem ofDigitChars_zeros_append (count : Nat) (digits : List Char) :
    Nat.ofDigitChars 10 (List.replicate count '0' ++ digits) 0 = Nat.ofDigitChars 10 digits 0 := by
  rw [Nat.ofDigitChars_append, Nat.ofDigitChars_replicate_zero, Nat.mul_zero]

namespace DecimalDigits

variable {d : DecimalDigits}

/-- The digits with the point among them, or with zeros up to it, say the same number. -/
theorem positional_spec (hdigits : IsDigits d.digits) :
    IsDigits d.positional.1 ∧ IsDigits d.positional.2 ∧ shown d.positional.1 d.positional.2 = d.value := by
  have hlength : 0 < d.digits.length := List.length_pos_iff.2 hdigits.ne_nil
  rw [shown_eq, value]
  unfold positional
  split_ifs with hexponent
  · refine ⟨isDigits_zero, ⟨List.append_ne_nil_of_right_ne_nil _ hdigits.ne_nil,
      List.forall_mem_append.2 ⟨isDigit_of_mem_zeros, hdigits.isDigit⟩⟩, ?_⟩
    have hzeros := ofDigitChars_zeros_append ((-d.exponent - 1).toNat + 1) d.digits
    rw [List.replicate_succ, List.cons_append] at hzeros
    dsimp only
    rw [List.singleton_append, hzeros, List.length_append, List.length_replicate, div_eq_mul_inv, ← zpow_natCast,
      ← zpow_neg]
    congr 2
    push_cast
    omega
  · dsimp only
    obtain ⟨k, hk⟩ := Int.eq_ofNat_of_zero_le (not_lt.1 hexponent)
    rw [hk, Int.toNat_natCast]
    rcases Nat.lt_or_ge (k + 1) d.digits.length with hmany | hfew
    · have hbefore : (d.digits.take (k + 1)).length = k + 1 := List.length_take_of_le hmany.le
      have hafter : d.digits.drop (k + 1) ≠ [] := by
        rw [ne_eq, List.drop_eq_nil_iff]
        omega
      rw [hbefore, Nat.sub_self, List.replicate_zero, List.append_nil, if_neg (by simpa using hmany),
        List.take_append_drop, List.length_drop]
      refine ⟨⟨List.ne_nil_of_length_pos (by omega), fun c hc => hdigits.isDigit c (List.mem_of_mem_take hc)⟩,
        ⟨hafter, fun c hc => hdigits.isDigit c (List.mem_of_mem_drop hc)⟩, ?_⟩
      rw [div_eq_mul_inv, ← zpow_natCast, ← zpow_neg]
      congr 2
      push_cast [hmany.le]
      omega
    · rw [List.take_of_length_le hfew, List.drop_of_length_le hfew, List.isEmpty_nil, if_pos rfl]
      refine ⟨⟨List.append_ne_nil_of_left_ne_nil hdigits.ne_nil _,
        List.forall_mem_append.2 ⟨hdigits.isDigit, isDigit_of_mem_zeros⟩⟩, isDigits_zero, ?_⟩
      -- the zero behind the point is one more of the zeros before it
      rw [List.append_assoc, ← List.replicate_succ', Nat.ofDigitChars_append, Nat.ofDigitChars_replicate_zero,
        show ((k : ℤ) - (d.digits.length - 1)) = (k + 1 - d.digits.length : Nat) by omega, zpow_natCast]
      push_cast
      rw [List.length_singleton, pow_one, pow_succ]
      ring

theorem scientific_spec (hdigits : IsDigits d.digits) :
    IsDigits (d.digits.take 1) ∧ (∀ c ∈ d.digits.drop 1, c.isDigit) ∧
      shown (d.digits.take 1) (d.digits.drop 1) * 10 ^ d.exponent = d.value := by
  have hlength : 0 < d.digits.length := List.length_pos_iff.2 hdigits.ne_nil
  refine ⟨⟨?_, fun c hc => hdigits.isDigit c (List.mem_of_mem_take hc)⟩,
    fun c hc => hdigits.isDigit c (List.mem_of_mem_drop hc), ?_⟩
  · rw [ne_eq, List.take_eq_nil_iff]
    exact not_or.2 ⟨one_ne_zero, hdigits.ne_nil⟩
  · rw [shown_eq, List.take_append_drop, List.length_drop, value, zpow_sub₀ (by norm_num),
      show ((d.digits.length : ℤ) - 1) = (d.digits.length - 1 : Nat) by omega, zpow_natCast]
    ring

end DecimalDigits

@[simp]
theorem signed_zero (negative : Bool) : signed negative 0 = 0 := by
  cases negative
  · rfl
  · exact neg_zero

theorem BinaryFormat.nearestTo_zero {fmt : BinaryFormat} {x : Dyadic} (hx : fmt.Canonical x)
    (hsignificand : x.significand = 0) : fmt.NearestTo x 0 := by
  have hvalue : x.value = 0 := by
    rw [← abs_eq_zero, x.abs_value, Dyadic.magnitude, hsignificand, Nat.cast_zero, zero_mul]
  refine ⟨hx, fun y _ => ?_, fun _ _ _ _ => by rw [hsignificand]⟩
  rw [hvalue, sub_zero, abs_zero]
  exact abs_nonneg _

/-- A text says a float: it is a sign and a numeral, and no float is nearer to what they say. -/
inductive Dyadic.ToldBy (x : Dyadic) : List Char → Prop where
  | positive {numeral : List Char} {q : ℚ} (hsign : x.negative = false) (hnumeral : Numeral numeral q)
      (h : binary64.NearestTo x q) : ToldBy x numeral
  | negative {numeral : List Char} {q : ℚ} (hsign : x.negative = true) (hnumeral : Numeral numeral q)
      (h : binary64.NearestTo x (-q)) : ToldBy x ('-' :: numeral)

theorem Dyadic.ToldBy.of_numeral {x : Dyadic} {numeral : List Char} {q : ℚ} (hnumeral : Numeral numeral q)
    (h : binary64.NearestTo x (signed x.negative q)) :
    x.ToldBy ((if x.negative then "-" else "").toList ++ numeral) := by
  cases hsign : x.negative with
  | false =>
    rw [hsign, signed_false] at h
    exact .positive hsign hnumeral h
  | true =>
    rw [hsign, signed_true] at h
    exact .negative hsign hnumeral h

theorem numeral_of_exponent {whole fraction : List Char} (hwhole : IsDigits whole)
    (hfraction : ∀ c ∈ fraction, c.isDigit) (e : ℤ) :
    Numeral (written whole fraction ++ 'e' :: (if e < 0 then '-' else '+') :: Nat.toDigits 10 e.natAbs)
      (shown whole fraction * 10 ^ e) := by
  have hexponent : IsDigits (Nat.toDigits 10 e.natAbs) := isDigits_toDigits _
  split_ifs with he
  · have hdown := Numeral.down hwhole hfraction hexponent
    rwa [Nat.ofDigitChars_ten_toDigits, div_eq_mul_inv, ← zpow_natCast, ← zpow_neg,
      show -(e.natAbs : ℤ) = e by omega] at hdown
  · have hup := Numeral.up hwhole hfraction hexponent
    rwa [Nat.ofDigitChars_ten_toDigits, ← zpow_natCast, show (e.natAbs : ℤ) = e by omega] at hup

namespace DecimalDigits

theorem numeral_positional {d : DecimalDigits} (hdigits : IsDigits d.digits) :
    Numeral (String.ofList d.positional.1 ++ "." ++ String.ofList d.positional.2).toList d.value := by
  obtain ⟨hbefore, hafter, hvalue⟩ := positional_spec hdigits
  have hnumeral := Numeral.plain hbefore hafter.isDigit
  rw [written, if_neg (by simpa using hafter.ne_nil), hvalue] at hnumeral
  simpa using hnumeral

theorem numeral_scientific {d : DecimalDigits} (hdigits : IsDigits d.digits) :
    Numeral (String.ofList (d.digits.take 1)
        ++ (if (d.digits.drop 1).isEmpty then "" else "." ++ String.ofList (d.digits.drop 1))
        ++ "e" ++ (if d.exponent < 0 then "-" else "+") ++ toString d.exponent.natAbs).toList d.value := by
  obtain ⟨hbefore, hafter, hvalue⟩ := scientific_spec hdigits
  have hnumeral := numeral_of_exponent hbefore hafter d.exponent
  rw [hvalue] at hnumeral
  convert hnumeral using 1
  rw [written]
  split_ifs <;> simp [Nat.repr_eq_ofList_toDigits]

end DecimalDigits

/-- **A printed float says the float.** -/
theorem Dyadic.toldBy_jsonText {x : Dyadic} (hx : binary64.Canonical x) : x.ToldBy x.jsonText.toList := by
  unfold jsonText
  dsimp only
  by_cases hzero : x.isZero = true
  · have hnumeral : Numeral "0.0".toList (shown ['0'] ['0']) := .plain isDigits_zero isDigits_zero.isDigit
    have hnone : shown ['0'] ['0'] = 0 := by simp [shown, Nat.ofDigitChars]
    have hnearest : binary64.NearestTo x (signed x.negative 0) := by
      rw [signed_zero]
      exact BinaryFormat.nearestTo_zero hx (eq_of_beq hzero)
    rw [if_pos hzero, String.toList_append]
    exact .of_numeral hnumeral (hnone ▸ hnearest)
  have hsignificand : x.significand ≠ 0 := fun h => hzero (beq_iff_eq.2 h)
  obtain ⟨hne, hdigit⟩ := BinaryFormat.shortest_digits hx.toHolds hsignificand
  have hdigits : IsDigits (binary64.shortest x).digits := ⟨hne, hdigit⟩
  have hnearest : binary64.NearestTo x (signed x.negative (binary64.shortest x).value) :=
    (BinaryFormat.roundsTo_shortest hx.toHolds hsignificand).nearestTo hx hsignificand (by decide)
  rw [if_neg hzero]
  by_cases hsmall : -5 ≤ (binary64.shortest x).exponent ∧ (binary64.shortest x).exponent ≤ 15
  · have hnumeral := DecimalDigits.numeral_positional hdigits
    simp only [String.append_assoc] at hnumeral
    rw [if_pos hsmall, String.append_assoc, String.append_assoc, String.toList_append]
    exact .of_numeral hnumeral hnearest
  · have hnumeral := DecimalDigits.numeral_scientific hdigits
    simp only [String.append_assoc] at hnumeral
    simp only [if_neg hsmall, String.append_assoc]
    rw [String.toList_append]
    exact .of_numeral hnumeral hnearest

end PageExtract
