import PageExtract.Hook.Registry
import Mathlib.Tactic.SplitIfs

/-!
# The names of accessors

A name is read part by part, from one point to the next. `Written` says instead how a name is put together:
a step, with its point behind it, stands before the name of any accessor, and the name of an attribute goes
to the end and may hold points, too. Both say the same, so reading finds an accessor in exactly the names
that are put together in this way, and a name belongs to one accessor only. What the accessor of a name is
called in plain digits reads back as the same accessor.
-/

namespace PageExtract

namespace Accessor

/-- The text is digits, with or without a plus sign before them, that stand for the index. -/
def WritesIndex (text : List Char) (index : Nat) : Prop :=
  ∃ digits, (text = digits ∨ text = '+' :: digits) ∧ digits ≠ [] ∧ (∀ c ∈ digits, c.isDigit) ∧
    Nat.ofDigitChars 10 digits 0 = index ∧ index < Nat.pow 2 64

/-- The ways to write an accessor. -/
inductive Written : List Char → Accessor → Prop where
  | text : Written "text".toList .text
  | outerMarkup : Written "html".toList .outerMarkup
  | innerMarkup : Written "inner_html".toList .innerMarkup
  | named {name : List Char} (hname : name ≠ []) : Written ("attr:".toList ++ name) (.attribute name)
  | parent {rest : List Char} {inner : Accessor} (h : Written rest inner) :
      Written ("parent.".toList ++ rest) (.parent inner)
  | child {place rest : List Char} {index : Nat} {inner : Accessor} (hplace : WritesIndex place index)
      (h : Written rest inner) : Written ("children.".toList ++ place ++ '.' :: rest) (.child index inner)

/-- Every attribute of the accessor has a name, and every index has its place below the bound. -/
def IsNameable : Accessor → Prop
  | .text | .outerMarkup | .innerMarkup => True
  | .attribute name => name ≠ []
  | .parent inner => inner.IsNameable
  | .child index inner => index < Nat.pow 2 64 ∧ inner.IsNameable

/-! ### Parts of a name -/

theorem partsOf_eq_splitOn (text : List Char) : partsOf text = text.splitOn '.' := by
  induction text with
  | nil => rfl
  | cons c rest ih =>
    rw [List.splitOn_cons_eq_if_modifyHead, ← ih]
    by_cases hc : c = '.'
    · subst hc
      rfl
    · rw [if_neg (by simpa using hc), partsOf.eq_3 c rest hc]
      cases hrest : partsOf rest with
      | nil => exact absurd (ih.symm.trans hrest) (List.splitOn_ne_nil _ _)
      | cons part parts => rfl

theorem intercalate_partsOf (text : List Char) : ['.'].intercalate (partsOf text) = text := by
  rw [partsOf_eq_splitOn, List.intercalate_splitOn]

theorem partsOf_append_point {part : List Char} (hpart : '.' ∉ part) (rest : List Char) :
    partsOf (part ++ '.' :: rest) = part :: partsOf rest := by
  rw [partsOf_eq_splitOn, partsOf_eq_splitOn, List.splitOn_append_cons_self_of_not_mem hpart]

theorem exists_partsOf_eq_cons (text : List Char) : ∃ part parts, partsOf text = part :: parts := by
  rw [partsOf_eq_splitOn]
  exact List.exists_cons_of_ne_nil (List.splitOn_ne_nil _ _)

theorem partsOf_append {start : List Char} (hstart : '.' ∉ start) {text part : List Char}
    {parts : List (List Char)} (h : partsOf text = part :: parts) :
    partsOf (start ++ text) = (start ++ part) :: parts := by
  induction start with
  | nil => exact h
  | cons c start ih =>
    obtain ⟨hc, hstart⟩ := not_or.1 (mt List.mem_cons.2 hstart)
    rw [List.cons_append, partsOf.eq_3 c _ (Ne.symm hc), ih hstart]
    rfl

/-! ### One part, one accessor -/

theorem digitsValue_eq (digits : List Char) : digitsValue digits = Nat.ofDigitChars 10 digits 0 := by
  simp only [digitsValue, Nat.ofDigitChars, Nat.mul_comm]

theorem indexOf?_eq_some_iff {text : List Char} {index : Nat} :
    indexOf? text = some index ↔ WritesIndex text index := by
  have hread (digits : List Char) :
      (if !digits.isEmpty && digits.all Char.isDigit && digitsValue digits < indexBound then
        some (digitsValue digits) else none) = some index ↔
      digits ≠ [] ∧ (∀ c ∈ digits, c.isDigit) ∧ Nat.ofDigitChars 10 digits 0 = index ∧
        index < Nat.pow 2 64 := by
    rw [digitsValue_eq, Option.ite_none_right_eq_some, Option.some.injEq]
    simp only [Bool.and_eq_true, Bool.not_eq_true', List.isEmpty_eq_false_iff, List.all_eq_true,
      indexBound, and_assoc]
    constructor
    · rintro ⟨hne, hdigits, hbound, rfl⟩
      exact ⟨hne, hdigits, rfl, of_decide_eq_true hbound⟩
    · rintro ⟨hne, hdigits, rfl, hbound⟩
      exact ⟨hne, hdigits, decide_eq_true hbound, rfl⟩
  unfold indexOf?
  dsimp only
  split
  next rest =>
    rw [hread]
    constructor
    · intro h
      exact ⟨rest, .inr rfl, h⟩
    · rintro ⟨digits, rfl | hrest, hne, hdigits, hvalue⟩
      · exact absurd (hdigits '+' List.mem_cons_self) (by decide)
      · obtain rfl := (List.cons.inj hrest).2
        exact ⟨hne, hdigits, hvalue⟩
  next hplus =>
    rw [hread]
    constructor
    · intro h
      exact ⟨text, .inl rfl, h⟩
    · rintro ⟨digits, rfl | htext, h⟩
      · exact h
      · exact absurd htext (hplus digits)

theorem WritesIndex.point_not_mem {text : List Char} {index : Nat} (h : WritesIndex text index) :
    '.' ∉ text := by
  obtain ⟨digits, rfl | rfl, -, hdigits, -⟩ := h
  · exact fun hpoint => absurd (hdigits '.' hpoint) (by decide)
  · intro hpoint
    rcases List.mem_cons.1 hpoint with hplus | hpoint
    · exact absurd hplus (by decide)
    · exact absurd (hdigits '.' hpoint) (by decide)

theorem attributeOf?_eq_some_iff {text : List Char} {accessor : Accessor} :
    attributeOf? text = some accessor ↔
      ∃ name, name ≠ [] ∧ text = "attr:".toList ++ name ∧ accessor = .attribute name := by
  have hmark : attributeMark = "attr:".toList := rfl
  rw [attributeOf?, Option.ite_none_right_eq_some, Bool.and_eq_true, List.isPrefixOf_iff_prefix,
    decide_eq_true_eq, hmark]
  constructor
  · rintro ⟨⟨⟨name, rfl⟩, hlength⟩, haccessor⟩
    rw [List.drop_left, Option.some.injEq] at haccessor
    refine ⟨name, ?_, rfl, haccessor.symm⟩
    rintro rfl
    simp at hlength
  · rintro ⟨name, hname, rfl, rfl⟩
    rw [List.drop_left]
    refine ⟨⟨List.prefix_append _ _, ?_⟩, rfl⟩
    rw [List.length_append]
    exact Nat.lt_add_of_pos_right (List.length_pos_iff.2 hname)

theorem attributeOf?_attribute {name : List Char} (hname : name ≠ []) :
    attributeOf? ("attr:".toList ++ name) = some (.attribute name) :=
  attributeOf?_eq_some_iff.2 ⟨name, hname, rfl, rfl⟩

theorem written_of_plainOf? {text : List Char} {accessor : Accessor} (h : plainOf? text = some accessor) :
    Written text accessor := by
  unfold plainOf? at h
  split_ifs at h with htext hmarkup hinner
  · cases h
    exact htext ▸ .text
  · cases h
    exact hmarkup ▸ .outerMarkup
  · cases h
    exact hinner ▸ .innerMarkup
  · obtain ⟨name, hname, rfl, rfl⟩ := attributeOf?_eq_some_iff.1 h
    exact .named hname

theorem plainOf?_attribute {name : List Char} (hname : name ≠ []) :
    plainOf? ("attr:".toList ++ name) = some (.attribute name) := by
  rw [plainOf?, if_neg, if_neg, if_neg, attributeOf?_attribute hname] <;> simp

/-! ### Reading finds what is written -/

theorem ofParts?_attribute {part : List Char} {parts : List (List Char)}
    (hname : ['.'].intercalate (part :: parts) ≠ []) :
    ofParts? (("attr:".toList ++ part) :: parts) = some (.attribute (['.'].intercalate (part :: parts))) := by
  cases parts with
  | nil =>
    rw [List.intercalate_singleton] at hname ⊢
    exact plainOf?_attribute hname
  | cons next parts =>
    rw [ofParts?, if_neg, if_neg]
    · rw [← attributeOf?_attribute hname, List.intercalate_cons_cons, List.intercalate_cons_cons]
      simp only [List.append_assoc]
    all_goals simp

theorem written_of_ofParts? {parts : List (List Char)} {accessor : Accessor}
    (h : ofParts? parts = some accessor) : Written (['.'].intercalate parts) accessor := by
  induction parts using ofParts?.induct generalizing accessor with
  | case1 => cases h
  | case2 part =>
    rw [List.intercalate_singleton]
    exact written_of_plainOf? h
  | case3 next rest ih =>
    rw [ofParts?, if_pos rfl] at h
    obtain ⟨inner, hinner, rfl⟩ := Option.map_eq_some_iff.1 h
    rw [List.intercalate_cons_cons]
    exact .parent (ih hinner)
  | case4 next rest index hindex hne ih =>
    rw [ofParts?, if_neg hne, if_pos rfl, hindex] at h
    obtain ⟨inner, hinner, rfl⟩ := Option.map_eq_some_iff.1 h
    cases rest with
    | nil => cases hinner
    | cons part parts =>
      have hwritten : Written ("children.".toList ++ next ++ '.' :: ['.'].intercalate (part :: parts))
          (.child index inner) := .child (indexOf?_eq_some_iff.1 hindex) (ih hinner)
      rw [List.intercalate_cons_cons, List.intercalate_cons_cons]
      have hstep : "children.".toList = "children".toList ++ ['.'] := rfl
      rw [hstep] at hwritten
      simpa only [List.append_assoc, List.cons_append, List.nil_append] using hwritten
  | case5 next rest hindex hne =>
    rw [ofParts?, if_neg hne, if_pos rfl, hindex] at h
    cases h
  | case6 part next rest hparent hchildren =>
    rw [ofParts?, if_neg hparent, if_neg hchildren] at h
    obtain ⟨name, hname, htext, rfl⟩ := attributeOf?_eq_some_iff.1 h
    exact htext ▸ .named hname

theorem ofParts?_partsOf {text : List Char} {accessor : Accessor} (h : Written text accessor) :
    ofParts? (partsOf text) = some accessor := by
  induction h with
  | text | outerMarkup | innerMarkup => decide
  | @named name hname =>
    obtain ⟨part, parts, hparts⟩ := exists_partsOf_eq_cons name
    have hjoined : ['.'].intercalate (part :: parts) = name := hparts ▸ intercalate_partsOf name
    rw [partsOf_append (by decide) hparts, ofParts?_attribute (hjoined ▸ hname), hjoined]
  | @parent rest inner h ih =>
    have hpoint : '.' ∉ "parent".toList := by decide
    have hparts : partsOf ("parent.".toList ++ rest) = "parent".toList :: partsOf rest :=
      partsOf_append_point hpoint rest
    obtain ⟨part, parts, hrest⟩ := exists_partsOf_eq_cons rest
    rw [hparts, hrest, ofParts?, if_pos rfl, ← hrest, ih, Option.map_some]
  | @child place rest index inner hplace h ih =>
    have hpoint : '.' ∉ "children".toList := by decide
    have hparts : partsOf ("children.".toList ++ place ++ '.' :: rest) =
        "children".toList :: place :: partsOf rest := by
      rw [List.append_assoc, ← partsOf_append_point hplace.point_not_mem]
      exact partsOf_append_point hpoint _
    rw [hparts, ofParts?, if_neg (by decide), if_pos rfl, indexOf?_eq_some_iff.2 hplace, ih]
    rfl

/-- Reading a name finds the accessor that is written like this. -/
theorem parse_eq_some_iff {name : String} {accessor : Accessor} :
    parse name = some accessor ↔ Written name.toList accessor := by
  constructor
  · intro h
    rw [← intercalate_partsOf name.toList]
    exact written_of_ofParts? h
  · exact ofParts?_partsOf

/-! ### The name in plain digits -/

theorem writesIndex_toDigits {index : Nat} (h : index < Nat.pow 2 64) : WritesIndex (Nat.toDigits 10 index) index :=
  ⟨_, .inl rfl, Nat.toDigits_ne_nil, fun _ => Nat.isDigit_of_mem_toDigits (by decide) (by decide),
    Nat.ofDigitChars_ten_toDigits, h⟩

theorem written_nameChars {accessor : Accessor} (h : accessor.IsNameable) :
    Written accessor.nameChars accessor := by
  induction accessor with
  | text => exact .text
  | outerMarkup => exact .outerMarkup
  | innerMarkup => exact .innerMarkup
  | «attribute» name => exact .named h
  | parent inner ih => exact .parent (ih h)
  | child index inner ih => exact .child (writesIndex_toDigits h.1) (ih h.2)

theorem Written.isNameable {text : List Char} {accessor : Accessor} (h : Written text accessor) :
    accessor.IsNameable := by
  induction h with
  | text | outerMarkup | innerMarkup => trivial
  | named hname => exact hname
  | parent _ ih => exact ih
  | child hplace _ ih =>
    obtain ⟨_, _, _, _, _, hbound⟩ := hplace
    exact ⟨hbound, ih⟩

/-! ### The accessor of a name -/

theorem Written.unique {text : List Char} {accessor other : Accessor} (h : Written text accessor)
    (h' : Written text other) : other = accessor :=
  Option.some.inj ((ofParts?_partsOf h').symm.trans (ofParts?_partsOf h))

/-- An accessor reads back from its name if it has one at all. -/
theorem parse_nameChars_iff {accessor : Accessor} :
    parse (String.ofList accessor.nameChars) = some accessor ↔ accessor.IsNameable := by
  rw [parse_eq_some_iff, String.toList_ofList]
  exact ⟨Written.isNameable, written_nameChars⟩

theorem sanitizer?_of_written {hooks : Registry} {name : String} {accessor : Accessor}
    (hnone : hooks.sanitizers.get? name = none) (h : Written name.toList accessor) :
    hooks.sanitizer? name = some accessor.sanitizer := by
  rw [Registry.sanitizer?, hnone]
  dsimp only
  rw [Sanitizer.builtin?, parse_eq_some_iff.2 h, Option.map_some]

theorem exists_written_of_sanitizer? {hooks : Registry} {name : String}
    (hnone : hooks.sanitizers.get? name = none) (h : (hooks.sanitizer? name).isSome) :
    ∃ accessor, Written name.toList accessor := by
  rw [Registry.sanitizer?, hnone] at h
  dsimp only at h
  rw [Sanitizer.builtin?, Option.isSome_map] at h
  obtain ⟨accessor, haccessor⟩ := Option.isSome_iff_exists.1 h
  exact ⟨accessor, parse_eq_some_iff.1 haccessor⟩

/-- **Reading a name and writing it belong together.** Reading finds an accessor in a name exactly if the
name is written for it, and then for no other. The name in plain digits reads back exactly if attributes
have names and indices lie below the bound, which is what all accessors that are written have in common.
So a registry finds a sanitizer under a name that nothing is registered under exactly if the name is
written for an accessor, and it finds the sanitizer of this accessor. -/
theorem parse_exact :
    (∀ (name : String) (accessor : Accessor),
        parse name = some accessor ↔ Written name.toList accessor) ∧
      (∀ (text : List Char) (accessor other : Accessor),
        Written text accessor → Written text other → other = accessor) ∧
      (∀ accessor : Accessor,
        parse (String.ofList accessor.nameChars) = some accessor ↔ accessor.IsNameable) ∧
      ∀ (hooks : Registry) (name : String), hooks.sanitizers.get? name = none →
        ((hooks.sanitizer? name).isSome ↔ ∃ accessor, Written name.toList accessor) ∧
          ∀ accessor, Written name.toList accessor → hooks.sanitizer? name = some accessor.sanitizer := by
  refine ⟨fun _ _ => parse_eq_some_iff, fun _ _ _ => Written.unique, fun _ => parse_nameChars_iff, ?_⟩
  intro hooks name hnone
  have hfound : ∀ accessor, Written name.toList accessor → hooks.sanitizer? name = some accessor.sanitizer :=
    fun _ => sanitizer?_of_written hnone
  refine ⟨⟨exists_written_of_sanitizer? hnone, ?_⟩, hfound⟩
  rintro ⟨accessor, haccessor⟩
  rw [hfound accessor haccessor, Option.isSome_some]

/-! An index with a sign and zeros, and behind another step an attribute whose name holds a point. The
registry knows a sanitizer under the name in plain digits. -/

/-- The attribute `data.x` of the parent of the child with the index 7. -/
def parentOfSeventh : Accessor := .child 7 (.parent (.attribute "data.x".toList))

theorem parentOfSeventh_parse_exact :
    parse "children.+007.parent.attr:data.x" = some parentOfSeventh ∧
      Written "children.+007.parent.attr:data.x".toList parentOfSeventh ∧
      (∀ other, Written "children.+007.parent.attr:data.x".toList other → other = parentOfSeventh) ∧
      parse (String.ofList parentOfSeventh.nameChars) = some parentOfSeventh ∧
      ∀ apply, (Registry.empty.addSanitizer "children.7.parent.attr:data.x" apply).sanitizer?
        "children.+007.parent.attr:data.x" = some parentOfSeventh.sanitizer := by
  obtain ⟨hparse, hunique, hname, hregistry⟩ := parse_exact
  have hfound : parse "children.+007.parent.attr:data.x" = some parentOfSeventh := by decide +kernel
  have hwritten := (hparse _ _).1 hfound
  refine ⟨hfound, hwritten, fun other => hunique _ _ _ hwritten, ?_, ?_⟩
  · exact (hname _).2 ⟨by decide, (by decide : "data.x".toList ≠ [])⟩
  · intro apply
    obtain ⟨-, hresolved⟩ := hregistry
      (Registry.empty.addSanitizer "children.7.parent.attr:data.x" apply) "children.+007.parent.attr:data.x" rfl
    exact hresolved _ hwritten

end Accessor

end PageExtract
