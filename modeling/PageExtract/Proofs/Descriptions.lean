import PageExtract.Json.Literal
import PageExtract.Schema.Fault
import PageExtract.Proofs.FloatText

/-!
# What messages say about values

A message shows a JSON value by a text of its own: a word or a numeral for null, a truth value or a number,
the kind of a list or an object, and a string between quotes. Between the quotes every character stands for
itself or is escaped, so the string can be read off again, and no two strings are shown alike.
-/

namespace PageExtract

/-! ### Quoted text -/

/-- A letter behind a backslash and the character that the two stand for. -/
def shortEscapes : List (Char × Char) :=
  [('"', '"'), ('\\', '\\'), ('n', '\n'), ('r', '\r'), ('t', '\t'), ('0', '\x00')]

/-- The number that hexadecimal digits write. -/
def hexValue? (digits : List Char) : Option Nat :=
  digits.foldlM (fun value c => (Json.hexDigit? c).map (16 * value + ·)) 0

/-- What may stand between double quotes, and the characters that it is read as. -/
inductive Spells : List Char → List Char → Prop where
  | nil : Spells [] []
  | itself {c : Char} {text source : List Char} (hshown : isShown c = true) (hquote : c ≠ '"') (hescape : c ≠ '\\')
      (h : Spells text source) : Spells (c :: text) (c :: source)
  | short {letter c : Char} {text source : List Char} (hletter : (letter, c) ∈ shortEscapes)
      (h : Spells text source) : Spells ('\\' :: letter :: text) (c :: source)
  | code {digits : List Char} {c : Char} {text source : List Char} (hshown : isShown c = false)
      (hdigits : hexValue? digits = some c.toNat) (h : Spells text source) :
      Spells ('\\' :: 'u' :: '\x7b' :: (digits ++ '\x7d' :: text)) (c :: source)

/-- The text shows the source between quotes. -/
def Quotes (source text : String) : Prop :=
  ∃ inside, text.toList = '"' :: (inside ++ ['"']) ∧ Spells inside source.toList

theorem hexDigit?_digitChar {n : Nat} (h : n < 16) : Json.hexDigit? n.digitChar = some n := by
  revert n
  decide

theorem hexValue?_append (digits : List Char) (c : Char) :
    hexValue? (digits ++ [c]) = (hexValue? digits).bind fun value => (Json.hexDigit? c).map (16 * value + ·) := by
  simp [hexValue?, List.foldlM_append]

theorem hexValue?_toDigits (n : Nat) : hexValue? (Nat.toDigits 16 n) = some n := by
  induction n using Nat.strongRecOn with
  | ind n ih =>
    rcases Nat.lt_or_ge n 16 with hlt | hge
    · rw [Nat.toDigits_of_lt_base hlt]
      simp [hexValue?, hexDigit?_digitChar hlt]
    · rw [Nat.toDigits_of_base_le (by decide) hge, hexValue?_append, ih (n / 16) (by omega), Option.bind_some,
        hexDigit?_digitChar (Nat.mod_lt n (by decide)), Option.map_some, Nat.div_add_mod]

theorem Spells.quotedChar_append {text source : List Char} (c : Char) (h : Spells text source) :
    Spells ((quotedChar c).toList ++ text) (c :: source) := by
  unfold quotedChar
  split
  case h_7 hquote hescape _ _ _ _ =>
    split
    case isTrue hshown =>
      rw [Char.toString, String.toList_singleton]
      exact .itself hshown hquote hescape h
    case isFalse hshown =>
      simpa using Spells.code (Bool.eq_false_of_not_eq_true hshown) (hexValue?_toDigits c.toNat) h
  all_goals exact .short (by decide) h

theorem spells_quoted (source : List Char) : Spells (source.flatMap fun c => (quotedChar c).toList) source := by
  induction source with
  | nil => exact .nil
  | cons c source ih => exact ih.quotedChar_append c

theorem quotes_quoted (source : String) : Quotes source (quoted source) := by
  refine ⟨_, ?_, spells_quoted source.toList⟩
  simp [quoted, String.toList_join, List.flatMap_map]

/-! ### What quoted text is read as -/

theorem eq_of_mem_shortEscapes {letter c c' : Char} (h : (letter, c) ∈ shortEscapes)
    (h' : (letter, c') ∈ shortEscapes) : c = c' := by
  have hletters : (shortEscapes.map Prod.fst).Nodup := by decide
  exact congrArg Prod.snd (List.inj_on_of_nodup_map hletters h h' rfl)

theorem not_mem_shortEscapes (c : Char) : ('u', c) ∉ shortEscapes := by
  intro h
  have hletter : 'u' ∈ shortEscapes.map Prod.fst := List.mem_map_of_mem h
  exact absurd hletter (by decide)

theorem brace_not_mem_of_hexValue? {digits : List Char} {n : Nat} (h : hexValue? digits = some n) :
    '}' ∉ digits := by
  have hdigits : ∀ value, digits.foldlM (fun value c => (Json.hexDigit? c).map (16 * value + ·)) value = some n →
      '}' ∉ digits := by
    clear h
    induction digits with
    | nil => exact fun _ _ => List.not_mem_nil
    | cons c digits ih =>
      intro value h
      rw [List.foldlM_cons] at h
      obtain ⟨next, hnext, hrest⟩ := Option.bind_eq_some_iff.1 h
      intro hmem
      rcases List.mem_cons.1 hmem with rfl | hmem
      · cases hnext
      · exact ih next hrest hmem
  exact hdigits 0 h

/-- Digits up to a brace are told from what follows. -/
theorem append_brace_inj {digits digits' text text' : List Char} (hdigits : '}' ∉ digits)
    (hdigits' : '}' ∉ digits') (h : digits ++ '}' :: text = digits' ++ '}' :: text') :
    digits = digits' ∧ text = text' := by
  have htake {digits : List Char} (hdigits : '}' ∉ digits) (text : List Char) :
      (digits ++ '}' :: text).takeWhile (· != '}') = digits := by
    rw [List.takeWhile_append_of_pos, List.takeWhile_cons_of_neg (by decide), List.append_nil]
    intro c hc
    rw [bne_iff_ne]
    rintro rfl
    exact hdigits hc
  have hsame : digits = digits' := by rw [← htake hdigits text, h, htake hdigits']
  subst hsame
  exact ⟨rfl, (List.cons.inj (List.append_cancel_left h)).2⟩

theorem Spells.unique {text source other : List Char} (h : Spells text source) (h' : Spells text other) :
    source = other := by
  induction h generalizing other with
  | nil =>
    cases h'
    rfl
  | itself _ _ hescape _ ih =>
    cases h' with
    | itself _ _ _ h' => rw [ih h']
    | short => exact absurd rfl hescape
    | code => exact absurd rfl hescape
  | short hletter _ ih =>
    cases h' with
    | itself _ _ hescape _ => exact absurd rfl hescape
    | short hletter' h' => rw [eq_of_mem_shortEscapes hletter hletter', ih h']
    | code => exact absurd hletter (not_mem_shortEscapes _)
  | @code digits c text source _ hdigits _ ih =>
    generalize htext : '\\' :: 'u' :: '\x7b' :: (digits ++ '\x7d' :: text) = whole at h'
    cases h' with
    | nil => cases htext
    | itself _ _ hescape _ => exact absurd (List.cons.inj htext).1.symm hescape
    | short hletter _ =>
      obtain ⟨rfl, -⟩ := List.cons.inj (List.cons.inj htext).2
      exact absurd hletter (not_mem_shortEscapes _)
    | code _ hdigits' h' =>
      obtain ⟨rfl, rfl⟩ := append_brace_inj (brace_not_mem_of_hexValue? hdigits) (brace_not_mem_of_hexValue? hdigits')
        (List.cons.inj (List.cons.inj (List.cons.inj htext).2).2).2
      have hcode : c.toNat = _ := Option.some.inj (hdigits.symm.trans hdigits')
      rw [Char.toNat_inj.1 hcode, ih h']

theorem Quotes.unique {source other text : String} (h : Quotes source text) (h' : Quotes other text) :
    source = other := by
  obtain ⟨inside, htext, hspells⟩ := h
  obtain ⟨inside', htext', hspells'⟩ := h'
  rw [htext] at htext'
  obtain rfl := List.append_cancel_right (List.cons.inj htext').2
  exact String.toList_injective (hspells.unique hspells')

/-! ### Values -/

/-- The text describes the value: it is the word for it or for its kind, a numeral that says the number, or the
string between quotes. -/
inductive Json.DescribedAs : Json → String → Prop where
  | null : DescribedAs .null "null"
  | yes : DescribedAs (.bool true) "true"
  | no : DescribedAs (.bool false) "false"
  | int (n : Int) : DescribedAs (.number (.int n)) (toString n)
  | float {x : Dyadic} {text : String} (h : binary64.Canonical x → x.ToldBy text.toList) :
      DescribedAs (.number (.float x)) text
  | string {source text : String} (h : Quotes source text) : DescribedAs (.string source) text
  | array (items : List Json) : DescribedAs (.array items) "an array"
  | object (members : List (String × Json)) : DescribedAs (.object members) "an object"

/-- **Every value is described by its description.** -/
theorem Json.describedAs_description (value : Json) : value.DescribedAs value.description := by
  cases value with
  | null => exact .null
  | bool b =>
    cases b with
    | false => exact .no
    | true => exact .yes
  | number n =>
    cases n with
    | int n => exact .int n
    | float x => exact .float Dyadic.toldBy_jsonText
  | string source => exact .string (quotes_quoted source)
  | array items => exact .array items
  | object members => exact .object members

end PageExtract
