import PageExtract.Json.Printer
import PageExtract.Json.Reader
import PageExtract.Proofs.Descriptions
import PageExtract.Proofs.Keyed

/-!
# Printed JSON is read back

The text of a value is read as the value again, if its numbers are integers of 64 bits, no object has a key
twice, and lists and objects are not nested too deep. Floats are left out, as reading one rounds in several
steps. Every reader takes its part off the front of what is unread and leaves the rest as it is; the count of
bytes runs along and is of no account here.
-/

namespace PageExtract.Json

/-! ### Strings -/

theorem toDigits_sixteen {n : Nat} (h : n < 0x20) :
    List.replicate (4 - (Nat.toDigits 16 n).length) '0' ++ Nat.toDigits 16 n =
      ['0', '0', (n / 16).digitChar, (n % 16).digitChar] := by
  rcases Nat.lt_or_ge n 16 with hlt | hge
  · rw [Nat.toDigits_of_lt_base hlt, Nat.div_eq_of_lt hlt, Nat.mod_eq_of_lt hlt]
    rfl
  · rw [Nat.toDigits_of_base_le (by decide) hge, Nat.toDigits_of_lt_base (by omega)]
    rfl

theorem readFourHex_fourHexDigits {n : Nat} (h : n < 0x20) (rest : List Char) (offset : Nat) :
    readFourHex ⟨(fourHexDigits n).toList ++ rest, offset⟩ = .ok (n, ⟨rest, offset + 4⟩) := by
  have hzero : hexDigit? '0' = some 0 := rfl
  have hvalue : ((0 * 16 + 0) * 16 + n / 16) * 16 + n % 16 = n := by omega
  rw [fourHexDigits, String.toList_ofList, toDigits_sixteen h]
  simp only [List.cons_append, List.nil_append, readFourHex, hzero, hexDigit?_digitChar (show n / 16 < 16 by omega),
    hexDigit?_digitChar (show n % 16 < 16 by omega), hvalue]

theorem readStringFrom_escapeChar (fuel : Nat) (found : List Char) (c : Char) (rest : List Char) (offset : Nat) :
    ∃ behind, readStringFrom (fuel + 1) found ⟨(escapeChar c).toList ++ rest, offset⟩ =
      readStringFrom fuel (c :: found) ⟨rest, behind⟩ := by
  unfold escapeChar
  split
  -- without an escape of its own a character is written by its number if it is a control one, or as it is
  case h_8 hquote hescape _ _ _ _ _ =>
    split_ifs with hcontrol
    · have hhigh : isHighSurrogate c.toNat = false := by
        simp only [isHighSurrogate, Bool.and_eq_false_iff, decide_eq_false_iff_not]
        omega
      have hlow : isLowSurrogate c.toNat = false := by
        simp only [isLowSurrogate, Bool.and_eq_false_iff, decide_eq_false_iff_not]
        omega
      have hread (offset : Nat) : readUnicodeEscape ⟨(fourHexDigits c.toNat).toList ++ rest, offset⟩ =
          .ok (c, ⟨rest, offset + 4⟩) := by
        rw [readUnicodeEscape, readFourHex_fourHexDigits hcontrol]
        simp [bind, Except.bind, hhigh, hlow, Char.ofNat_toNat]
      refine ⟨offset + '\\'.utf8Size + 'u'.utf8Size + 4, ?_⟩
      simp [readStringFrom, readEscape, Cursor.next, hread, bind, Except.bind]
    · refine ⟨offset + c.utf8Size, ?_⟩
      rw [Char.toString, String.toList_singleton, List.singleton_append]
      simp [readStringFrom, hcontrol, Cursor.next]
  all_goals exact ⟨_, by simp [readStringFrom, readEscape, simpleEscape?, Cursor.next]; rfl⟩

theorem escapeChar_ne_nil (c : Char) : (escapeChar c).toList ≠ [] := by
  unfold escapeChar
  split
  case h_8 =>
    split_ifs
    · simp
    · rw [Char.toString, String.toList_singleton]
      exact List.cons_ne_nil _ _
  all_goals simp

/-- Readers take a step for each part of a text, and none of the parts is empty. -/
theorem length_le_flatMap {α β : Type} {f : α → List β} (h : ∀ a, f a ≠ []) (as : List α) :
    as.length ≤ (as.flatMap f).length := by
  induction as with
  | nil => exact Nat.zero_le _
  | cons a as ih =>
    have hpos : 0 < (f a).length := List.length_pos_iff.2 (h a)
    rw [List.flatMap_cons, List.length_append, List.length_cons]
    omega

theorem readStringFrom_chars {fuel : Nat} (found : List Char) {chars : List Char} (hfuel : chars.length < fuel)
    (rest : List Char) (offset : Nat) :
    ∃ behind, readStringFrom fuel found ⟨(chars.flatMap fun c => (escapeChar c).toList) ++ '"' :: rest, offset⟩ =
      .ok (String.ofList (found.reverse ++ chars), ⟨rest, behind⟩) := by
  induction chars generalizing fuel found offset with
  | nil =>
    obtain ⟨fuel, rfl⟩ : ∃ n, fuel = n + 1 := ⟨fuel - 1, by omega⟩
    rw [List.append_nil]
    exact ⟨_, rfl⟩
  | cons c chars ih =>
    obtain ⟨fuel, rfl⟩ : ∃ n, fuel = n + 1 := ⟨fuel - 1, by omega⟩
    obtain ⟨next, hnext⟩ := readStringFrom_escapeChar fuel found c
      ((chars.flatMap fun c => (escapeChar c).toList) ++ '"' :: rest) offset
    obtain ⟨behind, hrest⟩ := ih (c :: found) (Nat.lt_of_succ_lt_succ hfuel) next
    refine ⟨behind, ?_⟩
    rw [List.flatMap_cons, List.append_assoc, hnext, hrest, List.reverse_cons, List.append_assoc,
      List.singleton_append]

theorem toList_quote (s : String) :
    (quote s).toList = '"' :: ((s.toList.flatMap fun c => (escapeChar c).toList) ++ ['"']) := by
  have hinside (chars : List Char) (found : String) :
      (chars.foldl (fun text c => text ++ escapeChar c) found).toList =
        found.toList ++ chars.flatMap fun c => (escapeChar c).toList := by
    induction chars generalizing found with
    | nil => exact (List.append_nil _).symm
    | cons c chars ih => rw [List.foldl_cons, ih, String.toList_append, List.flatMap_cons, List.append_assoc]
  rw [quote, String.foldl_eq_foldl_toList, String.toList_append, String.toList_append, hinside]
  simp

/-- A string is read up to its closing quote. -/
theorem readString_quote (s : String) (rest : List Char) (offset : Nat) :
    ∃ behind, readString ⟨(s.toList.flatMap fun c => (escapeChar c).toList) ++ '"' :: rest, offset⟩ =
      .ok (s, ⟨rest, behind⟩) := by
  have hfuel : s.toList.length < ((s.toList.flatMap fun c => (escapeChar c).toList) ++ '"' :: rest).length + 1 := by
    have hle := length_le_flatMap escapeChar_ne_nil s.toList
    rw [List.length_append]
    omega
  obtain ⟨behind, hread⟩ := readStringFrom_chars [] hfuel rest offset
  rw [List.reverse_nil, List.nil_append, String.ofList_toList] at hread
  exact ⟨behind, hread⟩

/-! ### Integers -/

/-- What may stand behind a value: nothing, or what goes on with a list or an object. -/
inductive Ends : List Char → Prop where
  | nil : Ends []
  | comma (rest : List Char) : Ends (',' :: rest)
  | bracket (rest : List Char) : Ends (']' :: rest)
  | brace (rest : List Char) : Ends ('\x7d' :: rest)

variable {rest : List Char}

/-- Digits are gathered as far as they go, if the number fits. -/
theorem gatherDigits_append {digits : List Char} {significand : Nat} (hdigits : ∀ c ∈ digits, c.isDigit)
    (hfits : Nat.ofDigitChars 10 digits significand < significandLimit) (hrest : Ends rest) (count offset : Nat) :
    ∃ taken, gatherDigits significand count (digits ++ rest) offset =
      (Nat.ofDigitChars 10 digits significand, taken, ⟨rest, offset + digits.length⟩) := by
  induction digits generalizing significand count offset with
  | nil => cases hrest <;> exact ⟨count, rfl⟩
  | cons c digits ih =>
    obtain ⟨hdigit, hdigits⟩ := List.forall_mem_cons.1 hdigits
    rw [Nat.ofDigitChars_cons, Nat.mul_comm] at hfits
    -- what has been gathered is a part of the whole number, so it fits as that does
    have hnext : significand * 10 + (c.toNat - '0'.toNat) < significandLimit := by
      rw [Nat.ofDigitChars_eq_ofDigitChars_zero] at hfits
      have hone : 1 ≤ 10 ^ digits.length := Nat.one_le_pow _ _ (by decide)
      nlinarith
    obtain ⟨taken, htaken⟩ := ih hdigits hfits (count + 1) (offset + 1)
    refine ⟨taken, ?_⟩
    rw [List.cons_append, gatherDigits]
    simp only [hdigit, hnext, decide_true, Bool.and_self, if_true]
    rw [htaken, Nat.ofDigitChars_cons, Nat.mul_comm 10, List.length_cons, Nat.add_assoc, Nat.add_comm 1]

theorem exists_toDigits_eq_cons {n : Nat} (h : 0 < n) : ∃ c digits, Nat.toDigits 10 n = c :: digits ∧ c ≠ '0' := by
  induction n using Nat.strongRecOn with
  | ind n ih =>
    rcases Nat.lt_or_ge n 10 with hlt | hge
    · have hdigit : ∀ n < 10, 0 < n → n.digitChar ≠ '0' := by decide
      exact ⟨n.digitChar, [], Nat.toDigits_of_lt_base hlt, hdigit n hlt h⟩
    · obtain ⟨c, digits, hdigits, hc⟩ := ih (n / 10) (by omega) (by omega)
      refine ⟨c, digits ++ [(n % 10).digitChar], ?_, hc⟩
      rw [Nat.toDigits_of_base_le (by decide) hge, hdigits, List.cons_append]

theorem readNumber_toDigits (negative : Bool) {n : Nat} (h : n < significandLimit) (hrest : Ends rest) (offset : Nat) :
    ∃ behind, readNumber negative ⟨Nat.toDigits 10 n ++ rest, offset⟩ =
      .ok (wholeNumber negative n, ⟨rest, behind⟩) := by
  rcases Nat.eq_zero_or_pos n with rfl | hpos
  · refine ⟨offset + 1, ?_⟩
    cases hrest <;> rfl
  · obtain ⟨c, digits, hdigits, hc⟩ := exists_toDigits_eq_cons hpos
    have hall : ∀ c ∈ Nat.toDigits 10 n, c.isDigit := fun c => Nat.isDigit_of_mem_toDigits (by decide) (by decide)
    have hfits : Nat.ofDigitChars 10 (Nat.toDigits 10 n) 0 < significandLimit := by
      rwa [Nat.ofDigitChars_ten_toDigits]
    obtain ⟨taken, htaken⟩ := gatherDigits_append hall hfits hrest 0 offset
    have hdigit : c.isDigit := hall c (hdigits ▸ List.mem_cons_self)
    refine ⟨offset + (Nat.toDigits 10 n).length, ?_⟩
    rw [Nat.ofDigitChars_ten_toDigits] at htaken
    rw [hdigits, List.cons_append] at htaken ⊢
    unfold readNumber
    split
    case h_1 hnil => cases hnil
    case h_2 hzero => exact absurd (List.cons.inj hzero).1 hc
    case h_3 hcons =>
      obtain ⟨rfl, rfl⟩ := List.cons.inj hcons
      simp only [hdigit, if_true, htaken]
      cases hrest <;> rfl

/-! ### Values -/

/-- A value that is read as it was printed: its lists and objects are nested less deep than `depth`, its numbers
are integers of 64 bits, and no object has a key twice. -/
inductive FitsIn : (depth : Nat) → Json → Prop where
  | null (depth : Nat) : FitsIn (depth + 1) .null
  | bool (depth : Nat) (b : Bool) : FitsIn (depth + 1) (.bool b)
  | int (depth : Nat) {n : Int} (hlow : -2 ^ 63 ≤ n) (hhigh : n < 2 ^ 64) : FitsIn (depth + 1) (.number (.int n))
  | string (depth : Nat) (s : String) : FitsIn (depth + 1) (.string s)
  | array {depth : Nat} {items : List Json} (hitems : ∀ item ∈ items, FitsIn (depth + 1) item) :
      FitsIn (depth + 2) (.array items)
  | object {depth : Nat} {members : List (String × Json)} (hkeys : (members.map Prod.fst).Nodup)
      (hmembers : ∀ member ∈ members, FitsIn (depth + 1) member.2) : FitsIn (depth + 2) (.object members)

/-- The text of a value is taken off the front of what is unread, whatever follows it there. -/
def ReadsBack (depth : Nat) (value : Json) : Prop :=
  ∀ rest offset, Ends rest →
    ∃ behind, readValue depth ⟨value.text.toList ++ rest, offset⟩ = .ok (value, ⟨rest, behind⟩)

/-- The text of a value starts with a character of its own. -/
def Begins (value : Json) : Prop :=
  ∃ c chars, value.text.toList = c :: chars ∧ Cursor.isBlank c = false ∧ c ≠ ']'

theorem not_blank_of_isDigit {c : Char} (h : c.isDigit) : Cursor.isBlank c = false ∧ c ≠ ']' := by
  constructor
  · rw [Bool.eq_false_iff]
    intro hblank
    have hc : ((c = ' ' ∨ c = '\n') ∨ c = '\t') ∨ c = '\r' := by simpa [Cursor.isBlank] using hblank
    rcases hc with ((rfl | rfl) | rfl) | rfl <;> exact absurd h (by decide)
  · rintro rfl
    exact absurd h (by decide)

theorem toList_text_int (n : Int) :
    (Json.text (.number (.int n))).toList =
      if 0 ≤ n then Nat.toDigits 10 n.toNat else '-' :: Nat.toDigits 10 n.natAbs := by
  cases n with
  | ofNat n =>
    rw [if_pos (show 0 ≤ Int.ofNat n from Int.natCast_nonneg n)]
    exact String.toList_ofList
  | negSucc n => simp [text, Number.text, Int.repr, Nat.repr_eq_ofList_toDigits]

theorem FitsIn.begins {depth : Nat} {value : Json} (h : value.FitsIn depth) : Begins value := by
  cases h with
  | null => exact ⟨'n', _, rfl, by decide, by decide⟩
  | bool _ b => cases b <;> exact ⟨_, _, rfl, by decide, by decide⟩
  | @int _ n _ _ =>
    rw [Begins, toList_text_int]
    split_ifs
    · obtain ⟨c, digits, hdigits⟩ := List.exists_cons_of_ne_nil (isDigits_toDigits n.toNat).ne_nil
      exact ⟨c, digits, hdigits, not_blank_of_isDigit ((isDigits_toDigits _).isDigit c (hdigits ▸ List.mem_cons_self))⟩
    · exact ⟨'-', _, rfl, by decide, by decide⟩
  | string _ s => exact ⟨'"', _, toList_quote s, by decide, by decide⟩
  | array => exact ⟨'[', _, by rw [text, String.toList_append, String.toList_append]; rfl, by decide, by decide⟩
  | object => exact ⟨'\x7b', _, by rw [text, String.toList_append, String.toList_append]; rfl, by decide, by decide⟩

theorem readsBack_null (depth : Nat) : ReadsBack (depth + 1) .null := fun _ _ _ => ⟨_, rfl⟩

theorem readsBack_bool (depth : Nat) (b : Bool) : ReadsBack (depth + 1) (.bool b) := by
  cases b <;> exact fun _ _ _ => ⟨_, rfl⟩

theorem readsBack_string (depth : Nat) (s : String) : ReadsBack (depth + 1) (.string s) := by
  intro rest offset hrest
  obtain ⟨behind, hread⟩ := readString_quote s rest (offset + '"'.utf8Size)
  refine ⟨behind, ?_⟩
  rw [text, toList_quote, List.cons_append, List.append_assoc, List.singleton_append]
  simp [readValue, Cursor.skipBlanks, Cursor.skipWhile, Cursor.isBlank, Cursor.next, hread, bind, Except.bind]
  rfl

theorem skipBlanks_cons {c : Char} (h : Cursor.isBlank c = false) (chars : List Char) (offset : Nat) :
    Cursor.skipBlanks ⟨c :: chars, offset⟩ = ⟨c :: chars, offset⟩ := by
  rw [Cursor.skipBlanks, Cursor.skipWhile, h]
  rfl

theorem readValue_of_isDigit {c : Char} (h : c.isDigit) (depth : Nat) (chars : List Char) (offset : Nat) :
    readValue (depth + 1) ⟨c :: chars, offset⟩ =
      (readNumber false ⟨c :: chars, offset⟩).map fun (value, c) => (.number value, c) := by
  rw [readValue, skipBlanks_cons (not_blank_of_isDigit h).1]
  split
  case h_9 hcons =>
    obtain ⟨rfl, rfl⟩ := List.cons.inj hcons
    rw [if_pos h]
    cases readNumber false ⟨c :: chars, offset⟩ <;> rfl
  case h_1 hnil => cases hnil
  all_goals
    rename_i hcons
    obtain ⟨rfl, -⟩ := List.cons.inj hcons
    exact absurd h (by decide)

theorem wholeNumber_natAbs {n : Int} (hlow : -2 ^ 63 ≤ n) (hn : n < 0) : wholeNumber true n.natAbs = .int n := by
  have hlimit : n.natAbs ≠ 0 ∧ n.natAbs ≤ Nat.pow 2 63 := by
    rw [Nat.pow_eq]
    omega
  rw [wholeNumber, Bool.not_true, if_neg Bool.false_ne_true, if_pos hlimit]
  congr 1
  omega

theorem readsBack_int (depth : Nat) {n : Int} (hlow : -2 ^ 63 ≤ n) (hhigh : n < 2 ^ 64) :
    ReadsBack (depth + 1) (.number (.int n)) := by
  intro rest offset hrest
  rw [toList_text_int]
  split_ifs with hn
  · have hfits : n.toNat < significandLimit := by
      rw [significandLimit, Nat.pow_eq]
      omega
    obtain ⟨behind, hread⟩ := readNumber_toDigits false hfits hrest offset
    have hwhole : wholeNumber false n.toNat = .int n := by
      rw [wholeNumber, Bool.not_false, if_pos rfl, Int.toNat_of_nonneg hn]
    obtain ⟨c, digits, hdigits⟩ := List.exists_cons_of_ne_nil (isDigits_toDigits n.toNat).ne_nil
    have hdigit : c.isDigit := (isDigits_toDigits _).isDigit c (hdigits ▸ List.mem_cons_self)
    refine ⟨behind, ?_⟩
    rw [hdigits, List.cons_append] at hread ⊢
    rw [readValue_of_isDigit hdigit, hread, hwhole]
    rfl
  · have hfits : n.natAbs < significandLimit := by
      rw [significandLimit, Nat.pow_eq]
      omega
    obtain ⟨behind, hread⟩ := readNumber_toDigits true hfits hrest (offset + '-'.utf8Size)
    rw [wholeNumber_natAbs hlow (by omega)] at hread
    refine ⟨behind, ?_⟩
    rw [List.cons_append]
    simp [readValue, Cursor.skipBlanks, Cursor.skipWhile, Cursor.isBlank, Cursor.next, hread, bind, Except.bind]
    rfl

/-! ### Lists -/

/-- The characters of items that others stand before. -/
def moreItems (items : List Json) : List Char := items.flatMap fun item => ',' :: item.text.toList

theorem toList_itemsText (item : Json) (items : List Json) :
    (itemsText (item :: items)).toList = item.text.toList ++ moreItems items := by
  induction items generalizing item with
  | nil =>
    rw [itemsText, moreItems, List.flatMap_nil, List.append_nil]
  | cons next items ih =>
    rw [itemsText, String.toList_append, String.toList_append, ih, List.append_assoc]
    · rfl
    · simp

theorem ends_moreItems (items : List Json) (rest : List Char) : Ends (moreItems items ++ ']' :: rest) := by
  cases items with
  | nil => exact .bracket rest
  | cons item items =>
    rw [moreItems, List.flatMap_cons, List.cons_append, List.cons_append]
    exact .comma _

theorem nextItem_first {value : Json} (h : Begins value) (rest : List Char) (offset : Nat) :
    nextItem true ⟨value.text.toList ++ rest, offset⟩ = .ok (true, ⟨value.text.toList ++ rest, offset⟩) := by
  obtain ⟨c, chars, htext, hblank, hbracket⟩ := h
  rw [htext, List.cons_append, nextItem, skipBlanks_cons hblank]
  simp

theorem nextItem_comma {value : Json} (h : Begins value) (rest : List Char) (offset : Nat) :
    nextItem false ⟨',' :: (value.text.toList ++ rest), offset⟩ =
      .ok (true, ⟨value.text.toList ++ rest, offset + ','.utf8Size⟩) := by
  obtain ⟨c, chars, htext, hblank, hbracket⟩ := h
  have hcomma : Cursor.isBlank ',' = false := rfl
  rw [htext, List.cons_append, nextItem, skipBlanks_cons hcomma]
  simp [Cursor.next, skipBlanks_cons hblank, hbracket]

variable {depth : Nat}

theorem readItems_more {items : List Json} (hitems : ∀ item ∈ items, Begins item ∧ ReadsBack depth item)
    {fuel : Nat} (hfuel : items.length < fuel) {found : List Json} (hfound : found ≠ []) (rest : List Char)
    (offset : Nat) :
    ∃ behind, readItems (readValue depth) fuel found ⟨moreItems items ++ ']' :: rest, offset⟩ =
      .ok (.array (found.reverse ++ items), ⟨rest, behind⟩) := by
  have hfirst : found.isEmpty = false := by simpa using hfound
  induction items generalizing fuel found offset with
  | nil =>
    obtain ⟨fuel, rfl⟩ : ∃ n, fuel = n + 1 := ⟨fuel - 1, by omega⟩
    rw [List.append_nil]
    exact ⟨_, rfl⟩
  | cons item items ih =>
    obtain ⟨fuel, rfl⟩ : ∃ n, fuel = n + 1 := ⟨fuel - 1, by omega⟩
    obtain ⟨⟨hbegins, hitem⟩, hitems⟩ := List.forall_mem_cons.1 hitems
    obtain ⟨next, hnext⟩ := hitem _ (offset + ','.utf8Size) (ends_moreItems items rest)
    obtain ⟨behind, hrest⟩ := ih hitems (Nat.lt_of_succ_lt_succ hfuel) (List.cons_ne_nil item found) next rfl
    refine ⟨behind, ?_⟩
    rw [moreItems, List.flatMap_cons, ← moreItems, List.cons_append, List.cons_append, List.append_assoc, readItems,
      hfirst, nextItem_comma hbegins]
    rw [List.reverse_cons, List.append_assoc, List.singleton_append] at hrest
    simp only [bind, Except.bind, if_true, hnext, hrest]

theorem readItems_all {items : List Json} (hitems : ∀ item ∈ items, Begins item ∧ ReadsBack depth item)
    {fuel : Nat} (hfuel : items.length < fuel) (rest : List Char) (offset : Nat) :
    ∃ behind, readItems (readValue depth) fuel [] ⟨(itemsText items).toList ++ ']' :: rest, offset⟩ =
      .ok (.array items, ⟨rest, behind⟩) := by
  obtain ⟨fuel, rfl⟩ : ∃ n, fuel = n + 1 := ⟨fuel - 1, by omega⟩
  cases items with
  | nil => exact ⟨_, rfl⟩
  | cons item items =>
    obtain ⟨⟨hbegins, hitem⟩, hitems⟩ := List.forall_mem_cons.1 hitems
    obtain ⟨next, hnext⟩ := hitem _ offset (ends_moreItems items rest)
    obtain ⟨behind, hrest⟩ := readItems_more hitems (Nat.lt_of_succ_lt_succ hfuel) (List.cons_ne_nil item []) rest next
    refine ⟨behind, ?_⟩
    rw [toList_itemsText, List.append_assoc, readItems, List.isEmpty_nil, nextItem_first hbegins]
    simp only [bind, Except.bind, if_true, hnext, hrest]
    rfl

theorem readsBack_array {items : List Json} (hitems : ∀ item ∈ items, Begins item ∧ ReadsBack (depth + 1) item) :
    ReadsBack (depth + 2) (.array items) := by
  intro rest offset hrest
  have hfuel : items.length < ((itemsText items).toList ++ ']' :: rest).length + 2 := by
    cases items with
    | nil => exact Nat.zero_lt_succ _
    | cons item items =>
      have hmore : items.length ≤ (moreItems items).length := by
        rw [moreItems]
        exact length_le_flatMap (fun _ => List.cons_ne_nil _ _) items
      rw [toList_itemsText, List.length_append, List.length_append, List.length_cons]
      omega
  obtain ⟨behind, hread⟩ := readItems_all hitems hfuel rest (offset + '['.utf8Size)
  refine ⟨behind, ?_⟩
  have htext : (text (.array items)).toList ++ rest = '[' :: ((itemsText items).toList ++ ']' :: rest) := by
    simp [text]
  rw [htext, readValue, skipBlanks_cons rfl]
  exact hread

/-! ### Objects -/

def memberChars (member : String × Json) : List Char := (quote member.1).toList ++ ':' :: member.2.text.toList

def moreMembers (members : List (String × Json)) : List Char :=
  members.flatMap fun member => ',' :: memberChars member

theorem toList_membersText (member : String × Json) (members : List (String × Json)) :
    (membersText (member :: members)).toList = memberChars member ++ moreMembers members := by
  induction members generalizing member with
  | nil =>
    simp [membersText, moreMembers, memberChars]
  | cons next members ih =>
    rw [membersText]
    · simp [ih, moreMembers, memberChars]
    · simp

theorem ends_moreMembers (members : List (String × Json)) (rest : List Char) :
    Ends (moreMembers members ++ '\x7d' :: rest) := by
  cases members with
  | nil => exact .brace rest
  | cons member members =>
    rw [moreMembers, List.flatMap_cons, List.cons_append, List.cons_append]
    exact .comma _

theorem nextKey_first (key : String) (rest : List Char) (offset : Nat) :
    ∃ behind, nextKey true ⟨(quote key).toList ++ rest, offset⟩ = .ok (some key, ⟨rest, behind⟩) := by
  obtain ⟨behind, hread⟩ := readString_quote key rest (offset + '"'.utf8Size)
  refine ⟨behind, ?_⟩
  rw [toList_quote, List.cons_append, List.append_assoc, List.singleton_append, nextKey, skipBlanks_cons rfl]
  simp [Cursor.next, hread, bind, Except.bind]
  rfl

theorem nextKey_comma (key : String) (rest : List Char) (offset : Nat) :
    ∃ behind, nextKey false ⟨',' :: ((quote key).toList ++ rest), offset⟩ = .ok (some key, ⟨rest, behind⟩) := by
  obtain ⟨behind, hread⟩ := readString_quote key rest (offset + ','.utf8Size + '"'.utf8Size)
  refine ⟨behind, ?_⟩
  have hquote : Cursor.isBlank '"' = false := rfl
  rw [toList_quote, List.cons_append, List.append_assoc, List.singleton_append, nextKey, skipBlanks_cons rfl]
  simp [Cursor.next, skipBlanks_cons hquote, hread, bind, Except.bind]
  rfl

theorem readColon_colon (rest : List Char) (offset : Nat) :
    readColon ⟨':' :: rest, offset⟩ = .ok ⟨rest, offset + ':'.utf8Size⟩ := rfl

theorem readMembers_more {members : List (String × Json)} (hmembers : ∀ member ∈ members, ReadsBack depth member.2)
    {fuel : Nat} (hfuel : members.length < fuel) {found : List (String × Json)} (hfound : found ≠ [])
    (rest : List Char) (offset : Nat) :
    ∃ behind, readMembers (readValue depth) fuel found ⟨moreMembers members ++ '\x7d' :: rest, offset⟩ =
      .ok (.object (Keyed.ofEntries (found.reverse ++ members)), ⟨rest, behind⟩) := by
  have hfirst : found.isEmpty = false := by simpa using hfound
  induction members generalizing fuel found offset with
  | nil =>
    obtain ⟨fuel, rfl⟩ : ∃ n, fuel = n + 1 := ⟨fuel - 1, by omega⟩
    rw [List.append_nil]
    refine ⟨offset + '\x7d'.utf8Size, ?_⟩
    rw [moreMembers, List.flatMap_nil, List.nil_append, readMembers, hfirst]
    rfl
  | cons member members ih =>
    obtain ⟨fuel, rfl⟩ : ∃ n, fuel = n + 1 := ⟨fuel - 1, by omega⟩
    obtain ⟨key, value⟩ := member
    obtain ⟨hvalue, hmembers⟩ := List.forall_mem_cons.1 hmembers
    obtain ⟨colon, hkey⟩ :=
      nextKey_comma key (':' :: (value.text.toList ++ (moreMembers members ++ '\x7d' :: rest))) offset
    obtain ⟨next, hnext⟩ := hvalue _ (colon + ':'.utf8Size) (ends_moreMembers members rest)
    obtain ⟨behind, hrest⟩ :=
      ih hmembers (Nat.lt_of_succ_lt_succ hfuel) (List.cons_ne_nil (key, value) found) next rfl
    refine ⟨behind, ?_⟩
    have htext : moreMembers ((key, value) :: members) ++ '\x7d' :: rest =
        ',' :: ((quote key).toList ++ ':' :: (value.text.toList ++ (moreMembers members ++ '\x7d' :: rest))) := by
      simp [moreMembers, memberChars]
    rw [List.reverse_cons, List.append_assoc, List.singleton_append] at hrest
    rw [htext, readMembers, hfirst, hkey]
    simp only [bind, Except.bind, readColon_colon, hnext, hrest]

theorem readMembers_all {members : List (String × Json)} (hmembers : ∀ member ∈ members, ReadsBack depth member.2)
    {fuel : Nat} (hfuel : members.length < fuel) (rest : List Char) (offset : Nat) :
    ∃ behind, readMembers (readValue depth) fuel [] ⟨(membersText members).toList ++ '\x7d' :: rest, offset⟩ =
      .ok (.object (Keyed.ofEntries members), ⟨rest, behind⟩) := by
  obtain ⟨fuel, rfl⟩ : ∃ n, fuel = n + 1 := ⟨fuel - 1, by omega⟩
  cases members with
  | nil => exact ⟨_, rfl⟩
  | cons member members =>
    obtain ⟨key, value⟩ := member
    obtain ⟨hvalue, hmembers⟩ := List.forall_mem_cons.1 hmembers
    obtain ⟨colon, hkey⟩ :=
      nextKey_first key (':' :: (value.text.toList ++ (moreMembers members ++ '\x7d' :: rest))) offset
    obtain ⟨next, hnext⟩ := hvalue _ (colon + ':'.utf8Size) (ends_moreMembers members rest)
    obtain ⟨behind, hrest⟩ :=
      readMembers_more hmembers (Nat.lt_of_succ_lt_succ hfuel) (List.cons_ne_nil (key, value) []) rest next
    refine ⟨behind, ?_⟩
    have htext : (membersText ((key, value) :: members)).toList ++ '\x7d' :: rest =
        (quote key).toList ++ ':' :: (value.text.toList ++ (moreMembers members ++ '\x7d' :: rest)) := by
      rw [toList_membersText, memberChars]
      simp
    rw [htext, readMembers, List.isEmpty_nil, hkey]
    simp only [bind, Except.bind, readColon_colon, hnext, hrest]
    rfl

theorem readsBack_object {members : List (String × Json)} (hkeys : (members.map Prod.fst).Nodup)
    (hmembers : ∀ member ∈ members, ReadsBack (depth + 1) member.2) : ReadsBack (depth + 2) (.object members) := by
  intro rest offset hrest
  have hfuel : members.length < ((membersText members).toList ++ '\x7d' :: rest).length + 2 := by
    cases members with
    | nil => exact Nat.zero_lt_succ _
    | cons member members =>
      have hmore : members.length ≤ (moreMembers members).length := by
        rw [moreMembers]
        exact length_le_flatMap (fun _ => List.cons_ne_nil _ _) members
      rw [toList_membersText, List.length_append, List.length_append, List.length_cons]
      omega
  obtain ⟨behind, hread⟩ := readMembers_all hmembers hfuel rest (offset + '\x7b'.utf8Size)
  rw [Keyed.ofEntries_of_nodup hkeys] at hread
  refine ⟨behind, ?_⟩
  have htext : (text (.object members)).toList ++ rest =
      '\x7b' :: ((membersText members).toList ++ '\x7d' :: rest) := by
    simp [text]
  rw [htext, readValue, skipBlanks_cons rfl]
  exact hread

/-! ### Texts -/

theorem FitsIn.readsBack {value : Json} (h : value.FitsIn depth) : ReadsBack depth value := by
  induction h with
  | null depth => exact readsBack_null depth
  | bool depth b => exact readsBack_bool depth b
  | int depth hlow hhigh => exact readsBack_int depth hlow hhigh
  | string depth s => exact readsBack_string depth s
  | array hitems ih => exact readsBack_array fun item hitem => ⟨(hitems item hitem).begins, ih item hitem⟩
  | object hkeys _ ih => exact readsBack_object hkeys ih

/-- **What is printed is read back.** -/
theorem parse_text {value : Json} (h : value.FitsIn greatestDepth) : parse value.text = .ok value := by
  obtain ⟨behind, hread⟩ := h.readsBack [] 0 .nil
  rw [List.append_nil] at hread
  rw [parse, Cursor.start, hread]
  rfl

end PageExtract.Json
