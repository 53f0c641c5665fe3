import PageExtract.Json.Printer

/-!
# The characters of printed JSON

No character below U+0020 stands in the compact text of a value: in a string they are escaped, and all
else is digits, words and punctuation.
-/

namespace PageExtract

/-- No character of the text is below U+0020. -/
def NoControl (text : String) : Prop := ∀ c ∈ text.toList, 0x20 ≤ c.toNat

namespace NoControl

instance : DecidablePred NoControl := fun text =>
  decidable_of_iff (text.toList.all fun c => decide (0x20 ≤ c.toNat)) (by simp [NoControl])

@[simp]
theorem append_iff {s t : String} : NoControl (s ++ t) ↔ NoControl s ∧ NoControl t := by
  simp only [NoControl, String.toList_append, List.mem_append, or_imp, forall_and]

@[simp]
theorem ofList_iff {chars : List Char} : NoControl (String.ofList chars) ↔ ∀ c ∈ chars, 0x20 ≤ c.toNat := by
  rw [NoControl, String.toList_ofList]

theorem no_null {text : String} (h : NoControl text) : '\x00' ∉ text.toList := by
  intro hmem
  exact absurd (h _ hmem) (by decide)

end NoControl

/-! ### Digits -/

theorem blank_le_digitChar (n : Nat) : 0x20 ≤ (Nat.digitChar n).toNat := by
  by_cases hn : n < 16
  · revert n
    decide
  · unfold Nat.digitChar
    iterate 16 rw [if_neg (by omega)]
    decide

theorem blank_le_of_mem_toDigitsCore {base fuel n : Nat} {found : List Char}
    (hfound : ∀ c ∈ found, 0x20 ≤ c.toNat) : ∀ c ∈ Nat.toDigitsCore base fuel n found, 0x20 ≤ c.toNat := by
  induction fuel generalizing n found with
  | zero => exact hfound
  | succ fuel ih =>
    have hnext : ∀ c ∈ (n % base).digitChar :: found, 0x20 ≤ c.toNat :=
      List.forall_mem_cons.2 ⟨blank_le_digitChar _, hfound⟩
    rw [Nat.toDigitsCore]
    split
    · exact hnext
    · exact ih hnext

theorem blank_le_of_mem_toDigits {base n : Nat} : ∀ c ∈ Nat.toDigits base n, 0x20 ≤ c.toNat :=
  blank_le_of_mem_toDigitsCore (by simp)

theorem noControl_toString_nat (n : Nat) : NoControl (toString n) :=
  NoControl.ofList_iff.2 blank_le_of_mem_toDigits

theorem noControl_toString_int (n : Int) : NoControl (toString n) := by
  cases n with
  | ofNat n => exact noControl_toString_nat n
  | negSucc n => exact NoControl.append_iff.2 ⟨by decide, noControl_toString_nat (n + 1)⟩

/-! ### Numbers -/

theorem mem_of_mem_dropTrailingZeros {digits : List Char} {c : Char} (h : c ∈ dropTrailingZeros digits) :
    c ∈ digits := by
  rw [dropTrailingZeros, List.mem_reverse] at h
  exact List.mem_reverse.1 ((List.dropWhile_sublist _).mem h)

theorem BinaryFormat.blank_le_of_mem_shortest {fmt : BinaryFormat} {x : Dyadic} :
    ∀ c ∈ (fmt.shortest x).digits, 0x20 ≤ c.toNat := fun c hc =>
  blank_le_of_mem_toDigits c (mem_of_mem_dropTrailingZeros hc)

theorem blank_le_of_mem_zeros {count : Nat} : ∀ c ∈ List.replicate count '0', 0x20 ≤ c.toNat := by
  intro c hc
  rw [List.eq_of_mem_replicate hc]
  decide

theorem DecimalDigits.blank_le_of_mem_positional {d : DecimalDigits} (h : ∀ c ∈ d.digits, 0x20 ≤ c.toNat) :
    (∀ c ∈ d.positional.1, 0x20 ≤ c.toNat) ∧ ∀ c ∈ d.positional.2, 0x20 ≤ c.toNat := by
  have hzero : ∀ c ∈ ['0'], 0x20 ≤ c.toNat := List.forall_mem_singleton.2 (by decide)
  unfold positional
  split
  · exact ⟨hzero, List.forall_mem_append.2 ⟨blank_le_of_mem_zeros, h⟩⟩
  · refine ⟨List.forall_mem_append.2 ⟨fun c hc => h c (List.mem_of_mem_take hc), blank_le_of_mem_zeros⟩, ?_⟩
    dsimp only
    split
    · exact hzero
    · exact fun c hc => h c (List.mem_of_mem_drop hc)

theorem Dyadic.noControl_jsonText (x : Dyadic) : NoControl x.jsonText := by
  have hdigits : ∀ c ∈ (binary64.shortest x).digits, 0x20 ≤ c.toNat := BinaryFormat.blank_le_of_mem_shortest
  have hsign : NoControl (if x.negative then "-" else "") := by split <;> decide
  unfold jsonText
  dsimp only
  split
  · exact NoControl.append_iff.2 ⟨hsign, by decide⟩
  · split
    · obtain ⟨hbefore, hafter⟩ := DecimalDigits.blank_le_of_mem_positional hdigits
      simp only [NoControl.append_iff, NoControl.ofList_iff]
      exact ⟨⟨⟨hsign, hbefore⟩, by decide⟩, hafter⟩
    · have hpoint : NoControl (if ((binary64.shortest x).digits.drop 1).isEmpty then ""
          else "." ++ String.ofList ((binary64.shortest x).digits.drop 1)) := by
        split
        · simp [NoControl]
        · exact NoControl.append_iff.2
            ⟨by decide, NoControl.ofList_iff.2 fun c hc => hdigits c (List.mem_of_mem_drop hc)⟩
      have hmark : NoControl (if (binary64.shortest x).exponent < 0 then "-" else "+") := by
        split <;> decide
      simp only [NoControl.append_iff, NoControl.ofList_iff]
      exact ⟨⟨⟨⟨⟨hsign, fun c hc => hdigits c (List.mem_of_mem_take hc)⟩, hpoint⟩, by decide⟩, hmark⟩,
        noControl_toString_nat _⟩

namespace Json

theorem Number.noControl_text (value : Number) : NoControl value.text := by
  cases value with
  | int value => exact noControl_toString_int value
  | float value => exact value.noControl_jsonText

/-! ### Strings -/

theorem noControl_fourHexDigits (n : Nat) : NoControl (fourHexDigits n) :=
  NoControl.ofList_iff.2 (List.forall_mem_append.2 ⟨blank_le_of_mem_zeros, blank_le_of_mem_toDigits⟩)

theorem noControl_escapeChar (c : Char) : NoControl (escapeChar c) := by
  unfold escapeChar
  split
  case h_8 =>
    split
    · exact NoControl.append_iff.2 ⟨by decide, noControl_fourHexDigits _⟩
    · simp only [NoControl, Char.toString, String.toList_singleton, List.mem_singleton, forall_eq]
      omega
  all_goals simp [NoControl]

theorem noControl_quote (s : String) : NoControl (quote s) := by
  have hinside (chars : List Char) (found : String) (hfound : NoControl found) :
      NoControl (chars.foldl (fun text c => text ++ escapeChar c) found) := by
    induction chars generalizing found with
    | nil => exact hfound
    | cons c chars ih => exact ih _ (NoControl.append_iff.2 ⟨hfound, noControl_escapeChar c⟩)
  have hquote : NoControl "\"" := by decide
  rw [quote, String.foldl_eq_foldl_toList, NoControl.append_iff, NoControl.append_iff]
  exact ⟨⟨hquote, hinside _ _ (by decide)⟩, hquote⟩

/-! ### Values -/

mutual

theorem noControl_text (value : Json) : NoControl value.text := by
  cases value with
  | null => simp [text, NoControl]
  | bool value => cases value <;> simp [text, NoControl]
  | number value => exact value.noControl_text
  | string value => exact noControl_quote value
  | array items =>
    rw [text, NoControl.append_iff, NoControl.append_iff]
    exact ⟨⟨by decide, noControl_itemsText items⟩, by decide⟩
  | object members =>
    rw [text, NoControl.append_iff, NoControl.append_iff]
    exact ⟨⟨by decide, noControl_membersText members⟩, by decide⟩

theorem noControl_itemsText (items : List Json) : NoControl (itemsText items) := by
  match items with
  | [] => simp [itemsText, NoControl]
  | [item] => exact noControl_text item
  | item :: next :: rest =>
    rw [itemsText, NoControl.append_iff, NoControl.append_iff]
    · exact ⟨⟨noControl_text item, by decide⟩, noControl_itemsText (next :: rest)⟩
    · simp

theorem noControl_membersText (members : List (String × Json)) : NoControl (membersText members) := by
  match members with
  | [] => simp [membersText, NoControl]
  | [(key, value)] =>
    rw [membersText, NoControl.append_iff, NoControl.append_iff]
    exact ⟨⟨noControl_quote key, by decide⟩, noControl_text value⟩
  | (key, value) :: next :: rest =>
    rw [membersText]
    · simp only [NoControl.append_iff]
      exact ⟨⟨⟨⟨noControl_quote key, by decide⟩, noControl_text value⟩, by decide⟩,
        noControl_membersText (next :: rest)⟩
    · simp

end

end Json

end PageExtract
