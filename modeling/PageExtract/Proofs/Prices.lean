import PageExtract.Hook.Price
import PageExtract.Proofs.Rounding
import Mathlib.Data.List.DropRight
import Mathlib.Data.List.TakeWhile
import Mathlib.Tactic.FieldSimp

/-!
# What is read as a price

A text is gone through once. Up to its first digit nothing counts; from there to the next separator, and behind
that separator to the end, it is the digits that count. So a price is written as `wholeDigits` and
`fractionDigits` say, with a point between them if there are digits on both sides, and the number is what these
digits show.

Where a text holds one numeral, that is the number it shows, except that a separator in front of all digits is
no decimal point.
-/

namespace PageExtract.Price

def isSeparator (c : Char) : Bool := c == '.' || c == ','

/-- The text from its first digit on. -/
def fromDigit (text : List Char) : List Char := text.dropWhile fun c => !c.isDigit

/-- The digits up to the first separator behind a digit. -/
def wholeDigits (text : List Char) : List Char :=
  ((fromDigit text).takeWhile fun c => !isSeparator c).filter Char.isDigit

/-- The digits behind the first separator behind a digit. -/
def fractionDigits (text : List Char) : List Char :=
  ((fromDigit text).dropWhile fun c => !isSeparator c).filter Char.isDigit

/-- Digits with a point between them, if there are some behind it. -/
def written (whole fraction : List Char) : List Char :=
  if fraction.isEmpty then whole else whole ++ '.' :: fraction

/-- The number that digits before and behind a decimal point show. -/
def shown (whole fraction : List Char) : ℚ :=
  Nat.ofDigitChars 10 whole 0 + Nat.ofDigitChars 10 fraction 0 / 10 ^ fraction.length

/-! ### The numeral in a text -/

theorem isDigit_of_isSeparator {c : Char} (h : isSeparator c) : c.isDigit = false := by
  rw [isSeparator, Bool.or_eq_true, beq_iff_eq, beq_iff_eq] at h
  rcases h with rfl | rfl <;> rfl

theorem isSeparator_of_isDigit {c : Char} (h : c.isDigit) : isSeparator c = false :=
  Bool.eq_false_of_not_eq_true fun hseparator => by simp [isDigit_of_isSeparator hseparator] at h

theorem gather_pointed (begun : Bool) (text : List Char) : gather begun true text = text.filter Char.isDigit := by
  induction text generalizing begun with
  | nil => rfl
  | cons c rest ih =>
    rw [gather]
    by_cases hdigit : c.isDigit
    · rw [if_pos hdigit, ih, List.filter_cons_of_pos hdigit]
    · rw [if_neg hdigit, if_neg (by simp), ih, List.filter_cons_of_neg hdigit]

/-- Behind a digit the next separator is the decimal point. -/
theorem gather_begun (text : List Char) :
    gather true false text = (text.takeWhile fun c => !isSeparator c).filter Char.isDigit ++
      match text.dropWhile fun c => !isSeparator c with
      | [] => []
      | _ :: behind => '.' :: behind.filter Char.isDigit := by
  induction text with
  | nil => rfl
  | cons c rest ih =>
    rw [gather]
    by_cases hdigit : c.isDigit
    · have hseparator := isSeparator_of_isDigit hdigit
      simp [hdigit, hseparator, ih]
    · by_cases hseparator : isSeparator c
      · have hpoint : (c == '.' || c == ',') = true := hseparator
        simp [hdigit, hseparator, hpoint, gather_pointed]
      · have hpoint : (c == '.' || c == ',') = false := Bool.eq_false_of_not_eq_true hseparator
        simp [hdigit, hseparator, hpoint, ih]

/-- Before the first digit nothing counts. -/
theorem gather_fresh (text : List Char) : gather false false text = gather true false (fromDigit text) := by
  induction text with
  | nil => rfl
  | cons c rest ih =>
    rw [gather, fromDigit]
    by_cases hdigit : c.isDigit
    · simp [hdigit, gather]
    · simp [hdigit, ih, fromDigit]

theorem rdropWhile_append_digits (start : List Char) {digits : List Char} (hne : digits ≠ [])
    (hdigits : ∀ c ∈ digits, c.isDigit) : (start ++ digits).rdropWhile (· == '.') = start ++ digits := by
  rw [List.rdropWhile_eq_self_iff]
  intro h hpoint
  have hlast := hdigits _ (List.getLast_mem hne)
  rw [List.getLast_append_of_ne_nil h hne, beq_iff_eq] at hpoint
  rw [hpoint] at hlast
  exact absurd hlast (by decide)

theorem rdropWhile_digits {digits : List Char} (hdigits : ∀ c ∈ digits, c.isDigit) :
    digits.rdropWhile (· == '.') = digits := by
  by_cases hne : digits = []
  · rw [hne, List.rdropWhile_nil]
  · exact rdropWhile_append_digits [] hne hdigits

theorem isDigit_of_mem_filter {text : List Char} : ∀ c ∈ text.filter Char.isDigit, c.isDigit :=
  fun _ hc => (List.mem_filter.1 hc).2

/-- A decimal point is dropped only if no digit is behind it. -/
theorem numeral_eq (text : List Char) : numeral text = written (wholeDigits text) (fractionDigits text) := by
  have hnumeral : numeral text = (gather false false text).rdropWhile (· == '.') := rfl
  rw [hnumeral, gather_fresh, gather_begun, ← wholeDigits, fractionDigits]
  cases hrest : (fromDigit text).dropWhile fun c => !isSeparator c with
  | nil =>
    rw [List.append_nil]
    exact rdropWhile_digits isDigit_of_mem_filter
  | cons c behind =>
    have hseparator : isSeparator c := by
      have hfound := List.head?_dropWhile_not (fun c => !isSeparator c) (fromDigit text)
      rw [hrest] at hfound
      simpa using hfound
    dsimp only
    rw [List.filter_cons_of_neg (by simp [isDigit_of_isSeparator hseparator])]
    by_cases hne : behind.filter Char.isDigit = []
    · rw [hne, List.rdropWhile_concat_pos (· == '.') _ '.' rfl]
      exact rdropWhile_digits isDigit_of_mem_filter
    · rw [written, if_neg (mt List.isEmpty_iff.1 hne), List.append_cons]
      exact rdropWhile_append_digits _ hne isDigit_of_mem_filter

/-! ### Its digits -/

theorem filter_fromDigit (text : List Char) : (fromDigit text).filter Char.isDigit = text.filter Char.isDigit := by
  induction text with
  | nil => rfl
  | cons c rest ih =>
    rw [fromDigit]
    by_cases hdigit : c.isDigit
    · rw [List.dropWhile_cons_of_neg (by simpa using hdigit)]
    · rw [List.dropWhile_cons_of_pos (by simpa using hdigit), List.filter_cons_of_neg hdigit, ← ih, fromDigit]

/-- No digit is lost, and their order stays. -/
theorem wholeDigits_append_fractionDigits (text : List Char) :
    wholeDigits text ++ fractionDigits text = text.filter Char.isDigit := by
  rw [wholeDigits, fractionDigits, ← List.filter_append, List.takeWhile_append_dropWhile, filter_fromDigit]

theorem wholeDigits_eq_nil_iff (text : List Char) :
    wholeDigits text = [] ↔ ∀ c ∈ text, c.isDigit = false := by
  constructor
  · intro h
    have hnone : fromDigit text = [] := by
      cases hfrom : fromDigit text with
      | nil => rfl
      | cons c rest =>
        have hdigit : c.isDigit := by
          have hfound := List.head?_dropWhile_not (fun c => !c.isDigit) text
          rw [← fromDigit, hfrom] at hfound
          simpa using hfound
        rw [wholeDigits, hfrom, List.takeWhile_cons_of_pos (by simp [isSeparator_of_isDigit hdigit]),
          List.filter_cons_of_pos hdigit] at h
        cases h
    rw [fromDigit, List.dropWhile_eq_nil_iff] at hnone
    simpa using hnone
  · intro h
    have hnone : fromDigit text = [] := List.dropWhile_eq_nil_iff.2 (by simpa using h)
    rw [wholeDigits, hnone]
    rfl

theorem fractionDigits_eq_nil {text : List Char} (h : wholeDigits text = []) : fractionDigits text = [] := by
  have hdigits := wholeDigits_append_fractionDigits text
  rw [h, List.nil_append, List.filter_eq_nil_iff.2 (by simpa using (wholeDigits_eq_nil_iff text).1 h)] at hdigits
  exact hdigits

theorem numeral_eq_nil_iff (text : List Char) : numeral text = [] ↔ ∀ c ∈ text, c.isDigit = false := by
  rw [numeral_eq, written, ← wholeDigits_eq_nil_iff]
  split_ifs with hfraction
  · rfl
  · refine iff_of_false (by simp) fun hwhole => hfraction ?_
    rw [fractionDigits_eq_nil hwhole]
    rfl

/-! ### The number that is handed on -/

/-- The decimal that is rounded to give the price in a text. -/
def conveyed (text : List Char) : ℚ := (decimal (numeral text)).1 / 10 ^ (decimal (numeral text)).2

theorem decimal_written {whole : List Char} (hwhole : ∀ c ∈ whole, c.isDigit) (fraction : List Char) :
    decimal (written whole fraction) = (Nat.ofDigitChars 10 (whole ++ fraction) 0, fraction.length) := by
  have hpoints : ∀ c ∈ whole, (c != '.') = true := by
    intro c hc
    have hdigit := hwhole c hc
    rw [bne_iff_ne]
    rintro rfl
    exact absurd hdigit (by decide)
  have hparts : (written whole fraction).takeWhile (· != '.') = whole ∧
      ((written whole fraction).dropWhile (· != '.')).drop 1 = fraction := by
    rw [written]
    split_ifs with hfraction
    · rw [List.takeWhile_eq_self_iff.2 hpoints, List.dropWhile_eq_nil_iff.2 hpoints,
        List.isEmpty_iff.1 hfraction]
      exact ⟨rfl, rfl⟩
    · rw [List.takeWhile_append_of_pos hpoints, List.dropWhile_append_of_pos hpoints]
      exact ⟨List.append_nil whole, rfl⟩
  simp only [decimal, hparts.1, hparts.2, Nat.ofDigitChars, Nat.mul_comm]

theorem shown_eq (whole fraction : List Char) :
    shown whole fraction = Nat.ofDigitChars 10 (whole ++ fraction) 0 / 10 ^ fraction.length := by
  have hdigits : Nat.ofDigitChars 10 (whole ++ fraction) 0 =
      10 ^ fraction.length * Nat.ofDigitChars 10 whole 0 + Nat.ofDigitChars 10 fraction 0 := by
    rw [Nat.ofDigitChars_append, Nat.ofDigitChars_eq_ofDigitChars_zero]
  rw [hdigits, shown]
  push_cast
  field_simp

theorem conveyed_eq (text : List Char) : conveyed text = shown (wholeDigits text) (fractionDigits text) := by
  have hwhole : ∀ c ∈ wholeDigits text, c.isDigit := isDigit_of_mem_filter
  rw [conveyed, numeral_eq, decimal_written hwhole, shown_eq]

theorem ofDecimal_places (fmt : BinaryFormat) (digits places : Nat) :
    fmt.ofDecimal false digits (-places) = fmt.round false digits (10 ^ places) := by
  rw [BinaryFormat.ofDecimal]
  by_cases hplaces : places = 0
  · subst hplaces
    simp
  · rw [if_neg (by omega), Int.neg_neg, Int.toNat_natCast]
    rfl

theorem nearest?_of_ne_nil {numeral : List Char} (h : numeral ≠ []) :
    nearest? numeral = binary64.round false (decimal numeral).1 (10 ^ (decimal numeral).2) := by
  rw [nearest?]
  · exact ofDecimal_places binary64 _ _
  · exact h

/-- The decimal has a number next to it exactly below the limit of the format. -/
theorem round_decimal_eq_none_iff (text : List Char) :
    binary64.round false (decimal (numeral text)).1 (10 ^ (decimal (numeral text)).2) = none ↔
      binary64.limit ≤ shown (wholeDigits text) (fractionDigits text) := by
  rw [BinaryFormat.round_eq_none_iff (by decide) (by decide) (Nat.pow_pos (by decide)), ← conveyed_eq, conveyed]
  push_cast
  rfl

theorem parse_eq_null_iff_nearest? (text : String) :
    parse text = .null ↔ nearest? (numeral text.toList) = none := by
  rw [parse]
  cases nearest? (numeral text.toList) <;> simp

theorem parse_eq_null_iff (text : String) :
    parse text = .null ↔ (∀ c ∈ text.toList, c.isDigit = false) ∨
      binary64.limit ≤ shown (wholeDigits text.toList) (fractionDigits text.toList) := by
  rw [parse_eq_null_iff_nearest?, ← numeral_eq_nil_iff, ← round_decimal_eq_none_iff]
  by_cases hnumeral : numeral text.toList = []
  · rw [hnumeral]
    exact iff_of_true rfl (.inl rfl)
  · rw [nearest?_of_ne_nil hnumeral, or_iff_right hnumeral]

/-- A price that is read is a finite number and not a negative one, and no other is nearer to what is handed on. -/
theorem parse_eq_number {text : String} (h : parse text ≠ .null) :
    ∃ x, parse text = .number (.float x) ∧ x.negative = false ∧ binary64.Holds x ∧
      binary64.NearestTo x (conveyed text.toList) := by
  obtain ⟨x, hx⟩ := Option.ne_none_iff_exists'.1 (mt (parse_eq_null_iff_nearest? text).2 h)
  have hnumeral : numeral text.toList ≠ [] := fun hnil => by rw [hnil] at hx; cases hx
  have hround := hx
  rw [nearest?_of_ne_nil hnumeral] at hround
  have hden : 0 < 10 ^ (decimal (numeral text.toList)).2 := Nat.pow_pos (by decide)
  have hnearest := BinaryFormat.nearestTo_of_round (by decide) (by decide) hden hround
  obtain ⟨hsign, hholds⟩ := BinaryFormat.holds_of_round (by decide) (by decide) hden hround
  rw [Nat.cast_pow, Nat.cast_ofNat] at hnearest
  rw [parse, hx]
  exact ⟨x, rfl, hsign, hholds, hnearest⟩

/-! ### Characters that do not count -/

def isRelevant (c : Char) : Bool := c.isDigit || isSeparator c

theorem gather_filter (begun pointed : Bool) (text : List Char) :
    gather begun pointed (text.filter isRelevant) = gather begun pointed text := by
  induction text generalizing begun pointed with
  | nil => rfl
  | cons c rest ih =>
    by_cases hrelevant : isRelevant c
    · rw [List.filter_cons_of_pos hrelevant, gather, gather, ih, ih, ih]
    · have hdigit : ¬ c.isDigit := fun hdigit => hrelevant (by simp [isRelevant, hdigit])
      have hseparator : (c == '.' || c == ',') = false :=
        Bool.eq_false_of_not_eq_true fun hseparator => hrelevant (by simp [isRelevant, isSeparator, hseparator])
      rw [List.filter_cons_of_neg hrelevant, ih, gather, if_neg hdigit, hseparator]
      rfl

theorem parse_congr {text other : String}
    (h : other.toList.filter isRelevant = text.toList.filter isRelevant) : parse other = parse text := by
  have hnumeral : numeral other.toList = numeral text.toList := by
    rw [numeral, numeral, ← gather_filter, h, gather_filter]
  rw [parse, parse, hnumeral]

/-- **Every price is read from the digits.** The numeral of a text has all its digits in their order; there is none
if there is no digit, and else it starts with a digit, and its point is where the first separator behind a digit
is, if a digit is behind that. Null stands for no digit or too great a number, and all else that is read is finite,
not negative, and nearest to what the numeral says. Other characters change nothing. -/
theorem parse_reads_digits (text : String) :
    (numeral text.toList = [] ↔ ∀ c ∈ text.toList, c.isDigit = false) ∧
    (wholeDigits text.toList = [] ↔ ∀ c ∈ text.toList, c.isDigit = false) ∧
    wholeDigits text.toList ++ fractionDigits text.toList = text.toList.filter Char.isDigit ∧
    numeral text.toList = written (wholeDigits text.toList) (fractionDigits text.toList) ∧
    conveyed text.toList = shown (wholeDigits text.toList) (fractionDigits text.toList) ∧
    (parse text = .null ↔ (∀ c ∈ text.toList, c.isDigit = false) ∨
      binary64.limit ≤ shown (wholeDigits text.toList) (fractionDigits text.toList)) ∧
    (parse text ≠ .null → ∃ x, parse text = .number (.float x) ∧ x.negative = false ∧ binary64.Holds x ∧
      binary64.NearestTo x (conveyed text.toList)) ∧
    ∀ other : String, other.toList.filter isRelevant = text.toList.filter isRelevant → parse other = parse text :=
  ⟨numeral_eq_nil_iff _, wholeDigits_eq_nil_iff _, wholeDigits_append_fractionDigits _, numeral_eq _,
    conveyed_eq _, parse_eq_null_iff text, parse_eq_number, fun _ => parse_congr⟩

theorem thousands_reads_digits :
    numeral "Rs 1.234,50 (max. 2)".toList = "1.234502".toList ∧
    parse "1.234,50.2" = parse "Rs 1.234,50 (max. 2)" ∧
    ∃ x, parse "1.234,50.2" = .number (.float x) ∧ x.negative = false ∧ binary64.Holds x ∧
      binary64.NearestTo x (conveyed "1.234,50.2".toList) := by
  have hread : parse "1.234,50.2" ≠ .null := mt (parse_eq_null_iff_nearest? _).1 (by decide +kernel)
  have htext := parse_reads_digits "1.234,50.2"
  have hwords := parse_reads_digits "Rs 1.234,50 (max. 2)"
  exact ⟨hwords.2.2.2.1.trans (by decide +kernel), hwords.2.2.2.2.2.2.2 _ (by decide +kernel),
    htext.2.2.2.2.2.2.1 hread⟩

/-! ### A text with one numeral -/

/-- A text without digits and separators. -/
def IsPlain (text : List Char) : Prop := ∀ c ∈ text, isRelevant c = false

/-- A run of digits. -/
structure IsDigits (text : List Char) : Prop where
  ne_nil : text ≠ []
  isDigit : ∀ c ∈ text, c.isDigit

/-- The number that a numeral shows if its separator is a decimal point, where `leading` says what digits behind a
leading separator show. -/
inductive Shows (leading : List Char → ℚ) : List Char → ℚ → Prop
  | whole {digits : List Char} (hdigits : IsDigits digits) : Shows leading digits (shown digits [])
  | pointed {whole fraction : List Char} {separator : Char} (hwhole : IsDigits whole)
      (hseparator : isSeparator separator) (hfraction : IsDigits fraction) :
      Shows leading (whole ++ separator :: fraction) (shown whole fraction)
  | leading {digits : List Char} {separator : Char} (hseparator : isSeparator separator)
      (hdigits : IsDigits digits) : Shows leading (separator :: digits) (leading digits)

/-- A leading separator is no decimal point: the price in ".5" is five. -/
theorem leading_not_shown :
    ¬ ∀ (before numeral behind : List Char) (value : ℚ), IsPlain before → Shows (shown []) numeral value →
      IsPlain behind → conveyed (before ++ numeral ++ behind) = value := by
  intro h
  have hshown := h [] ['.', '5'] [] _ nofun (.leading rfl ⟨nofun, List.all_eq_true.1 rfl⟩) nofun
  have hdigits : shown (wholeDigits ['.', '5']) (fractionDigits ['.', '5']) = shown ['5'] [] := by
    rw [show wholeDigits ['.', '5'] = ['5'] by decide, show fractionDigits ['.', '5'] = [] by decide]
  rw [List.append_nil, List.nil_append, conveyed_eq, hdigits] at hshown
  have hfive : '5'.toNat - '0'.toNat = 5 := rfl
  norm_num [shown, Nat.ofDigitChars, hfive] at hshown

section
variable {before whole rest : List Char}

theorem isDigit_of_isPlain (hplain : IsPlain rest) : ∀ c ∈ rest, c.isDigit = false :=
  fun c hc => (Bool.or_eq_false_iff.1 (hplain c hc)).1

theorem isSeparator_of_isPlain (hplain : IsPlain rest) : ∀ c ∈ rest, (!isSeparator c) = true :=
  fun c hc => by rw [(Bool.or_eq_false_iff.1 (hplain c hc)).2]; rfl

theorem isSeparator_of_isDigits (hdigits : IsDigits whole) : ∀ c ∈ whole, (!isSeparator c) = true :=
  fun c hc => by rw [isSeparator_of_isDigit (hdigits.isDigit c hc)]; rfl

theorem filter_of_isDigits (hdigits : IsDigits whole) : whole.filter Char.isDigit = whole :=
  List.filter_eq_self.2 hdigits.isDigit

theorem filter_of_isPlain (hplain : IsPlain rest) : rest.filter Char.isDigit = [] :=
  List.filter_eq_nil_iff.2 (by simpa using isDigit_of_isPlain hplain)

theorem fromDigit_append (hbefore : ∀ c ∈ before, c.isDigit = false) (hwhole : IsDigits whole) :
    fromDigit (before ++ (whole ++ rest)) = whole ++ rest := by
  rw [fromDigit, List.dropWhile_append_of_pos (by simpa using hbefore)]
  obtain ⟨c, digits, rfl⟩ := List.exists_cons_of_ne_nil hwhole.ne_nil
  exact List.dropWhile_cons_of_neg (by simp [hwhole.isDigit c List.mem_cons_self])

theorem conveyed_whole (hbefore : ∀ c ∈ before, c.isDigit = false) (hwhole : IsDigits whole)
    (hrest : IsPlain rest) : conveyed (before ++ (whole ++ rest)) = shown whole [] := by
  have hfrom : fromDigit (before ++ (whole ++ rest)) = whole ++ rest := fromDigit_append hbefore hwhole
  have hseparators : ∀ c ∈ whole ++ rest, (!isSeparator c) = true := List.forall_mem_append.2
    ⟨isSeparator_of_isDigits hwhole, isSeparator_of_isPlain hrest⟩
  have hdigits : wholeDigits (before ++ (whole ++ rest)) = whole := by
    rw [wholeDigits, hfrom, List.takeWhile_eq_self_iff.2 hseparators, List.filter_append, filter_of_isDigits hwhole,
      filter_of_isPlain hrest, List.append_nil]
  have hfraction : fractionDigits (before ++ (whole ++ rest)) = [] := by
    rw [fractionDigits, hfrom, List.dropWhile_eq_nil_iff.2 hseparators, List.filter_nil]
  rw [conveyed_eq, hdigits, hfraction]

theorem conveyed_pointed {fraction : List Char} {separator : Char} (hbefore : ∀ c ∈ before, c.isDigit = false)
    (hwhole : IsDigits whole) (hseparator : isSeparator separator) (hfraction : IsDigits fraction)
    (hrest : IsPlain rest) :
    conveyed (before ++ (whole ++ separator :: (fraction ++ rest))) = shown whole fraction := by
  have hfrom : fromDigit (before ++ (whole ++ separator :: (fraction ++ rest))) =
      whole ++ separator :: (fraction ++ rest) := fromDigit_append hbefore hwhole
  have hpoint : ¬ (!isSeparator separator) = true := by rw [hseparator]; decide
  have hnodigit : ¬ separator.isDigit := by rw [isDigit_of_isSeparator hseparator]; decide
  have hdigits : wholeDigits (before ++ (whole ++ separator :: (fraction ++ rest))) = whole := by
    rw [wholeDigits, hfrom, List.takeWhile_append_of_pos (isSeparator_of_isDigits hwhole),
      List.takeWhile_cons_of_neg (p := fun c => !isSeparator c) hpoint, List.append_nil, filter_of_isDigits hwhole]
  have hplaces : fractionDigits (before ++ (whole ++ separator :: (fraction ++ rest))) = fraction := by
    rw [fractionDigits, hfrom, List.dropWhile_append_of_pos (isSeparator_of_isDigits hwhole),
      List.dropWhile_cons_of_neg (p := fun c => !isSeparator c) hpoint, List.filter_cons_of_neg hnodigit,
      List.filter_append, filter_of_isDigits hfraction, filter_of_isPlain hrest, List.append_nil]
  rw [conveyed_eq, hdigits, hplaces]

end

theorem conveyed_eq_of_shows {before numeral behind : List Char} {value : ℚ} (hbefore : IsPlain before)
    (hnumeral : Shows (fun digits => shown digits []) numeral value) (hbehind : IsPlain behind) :
    conveyed (before ++ numeral ++ behind) = value := by
  cases hnumeral with
  | whole hdigits =>
    rw [List.append_assoc]
    exact conveyed_whole (isDigit_of_isPlain hbefore) hdigits hbehind
  | pointed hwhole hseparator hfraction =>
    rw [List.append_assoc, List.append_assoc, List.cons_append]
    exact conveyed_pointed (isDigit_of_isPlain hbefore) hwhole hseparator hfraction hbehind
  | @leading digits separator hseparator hdigits =>
    -- the separator is in front of the first digit, as the plain text is
    have hleading : ∀ c ∈ before ++ [separator], c.isDigit = false := List.forall_mem_append.2
      ⟨isDigit_of_isPlain hbefore, List.forall_mem_singleton.2 (isDigit_of_isSeparator hseparator)⟩
    rw [List.append_cons, List.append_assoc]
    exact conveyed_whole hleading hdigits hbehind

theorem IsDigits.exists_isDigit {digits : List Char} (h : IsDigits digits) : ∃ c ∈ digits, c.isDigit := by
  obtain ⟨c, rest, rfl⟩ := List.exists_cons_of_ne_nil h.ne_nil
  exact ⟨c, List.mem_cons_self, h.isDigit c List.mem_cons_self⟩

theorem Shows.exists_isDigit {leading : List Char → ℚ} {numeral : List Char} {value : ℚ}
    (h : Shows leading numeral value) : ∃ c ∈ numeral, c.isDigit := by
  cases h with
  | whole hdigits => exact hdigits.exists_isDigit
  | pointed hwhole =>
    obtain ⟨c, hc, hdigit⟩ := hwhole.exists_isDigit
    exact ⟨c, List.mem_append_left _ hc, hdigit⟩
  | leading _ hdigits =>
    obtain ⟨c, hc, hdigit⟩ := hdigits.exists_isDigit
    exact ⟨c, List.mem_cons_of_mem _ hc, hdigit⟩

/-- **The one numeral in a text is its price.** Its separator is read as a decimal point if there are digits before
it, and a leading separator is not read at all. No number is nearer to what it shows than the one that is read, and
one is read unless that is beyond all of them. -/
theorem conveyed_of_shows {before numeral behind : List Char} {value : ℚ} (hbefore : IsPlain before)
    (hnumeral : Shows (fun digits => shown digits []) numeral value) (hbehind : IsPlain behind) :
    conveyed (before ++ numeral ++ behind) = value ∧
    (parse (.ofList (before ++ numeral ++ behind)) = .null ↔ binary64.limit ≤ value) ∧
    (parse (.ofList (before ++ numeral ++ behind)) ≠ .null →
      ∃ x, parse (.ofList (before ++ numeral ++ behind)) = .number (.float x) ∧ binary64.NearestTo x value) := by
  have hconveyed : conveyed (before ++ numeral ++ behind) = value := conveyed_eq_of_shows hbefore hnumeral hbehind
  have hdigits : ¬ ∀ c ∈ before ++ numeral ++ behind, c.isDigit = false := by
    obtain ⟨c, hc, hdigit⟩ := hnumeral.exists_isDigit
    intro hnone
    rw [hnone c (List.mem_append_left _ (List.mem_append_right _ hc))] at hdigit
    cases hdigit
  refine ⟨hconveyed, ?_, fun hread => ?_⟩
  · rw [parse_eq_null_iff, String.toList_ofList, or_iff_right hdigits, ← conveyed_eq, hconveyed]
  · obtain ⟨x, hparse, -, -, hnearest⟩ := parse_eq_number hread
    rw [String.toList_ofList, hconveyed] at hnearest
    exact ⟨x, hparse, hnearest⟩

theorem euros_conveyed :
    conveyed (['€', ' '] ++ (['1', '2'] ++ ',' :: ['9', '9']) ++ ['!']) = 1299 / 100 ∧
    (∃ x, parse (.ofList (['€', ' '] ++ (['1', '2'] ++ ',' :: ['9', '9']) ++ ['!'])) = .number (.float x) ∧
      binary64.NearestTo x (1299 / 100)) ∧
    conveyed (['€', ' '] ++ ',' :: ['5', '0'] ++ ['!']) = 50 := by
  have hbefore : IsPlain ['€', ' '] := List.forall_mem_cons.2 ⟨rfl, List.forall_mem_singleton.2 rfl⟩
  have hbehind : IsPlain ['!'] := List.forall_mem_singleton.2 rfl
  have hcents : shown ['1', '2'] ['9', '9'] = 1299 / 100 := by
    rw [shown_eq, show Nat.ofDigitChars 10 (['1', '2'] ++ ['9', '9']) 0 = 1299 by decide]
    norm_num
  have hfifty : shown ['5', '0'] [] = 50 := by
    rw [shown_eq, show Nat.ofDigitChars 10 (['5', '0'] ++ []) 0 = 50 by decide]
    norm_num
  rw [← hcents, ← hfifty]
  have htwelve : IsDigits ['1', '2'] := ⟨nofun, List.all_eq_true.1 rfl⟩
  have hrest : IsDigits ['9', '9'] := ⟨nofun, List.all_eq_true.1 rfl⟩
  have hleading : IsDigits ['5', '0'] := ⟨nofun, List.all_eq_true.1 rfl⟩
  have hread : parse (.ofList (['€', ' '] ++ (['1', '2'] ++ ',' :: ['9', '9']) ++ ['!'])) ≠ .null :=
    mt (parse_eq_null_iff_nearest? _).1 (by decide +kernel)
  have hcomma : isSeparator ',' := rfl
  obtain ⟨hconveyed, -, hnearest⟩ := conveyed_of_shows hbefore (.pointed htwelve hcomma hrest) hbehind
  exact ⟨hconveyed, hnearest hread, (conveyed_of_shows hbefore (.leading rfl hleading) hbehind).1⟩

end PageExtract.Price
