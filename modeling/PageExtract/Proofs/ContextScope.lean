import PageExtract.Extractor
import PageExtract.Proofs.HookRelation
import PageExtract.Proofs.Shape

/-!
# What a context decides

A context is looked at where something is selected, and where a record without rule and without fields
takes its value. A record that is evaluated in the whole document does neither in the context around it,
so a schema that comes to nothing but such records, and constants, is the same run in every context.

An extraction starts in the whole document, and lists and records without rule hand on the context they
are in. So as far as one gets through these alone, it makes no difference whether a record asks for the
whole document.
-/

namespace PageExtract

namespace Schema

/-- The schema comes to constants and records of the whole document through lists and through records
without rule that have fields. -/
inductive Closed : Schema → Prop where
  | constant {directives : Directives} (h : directives.constant.isSome = true)
      (fields : List (String × Schema)) : Closed (.record directives fields)
  | topLevel {directives : Directives} (h : directives.topLevel = true)
      (fields : List (String × Schema)) : Closed (.record directives fields)
  | fields {directives : Directives} {fields : List (String × Schema)} (hrule : directives.rule = none)
      (hne : fields ≠ []) (hfields : ∀ field ∈ fields, Closed field.2) : Closed (.record directives fields)
  | list {items : List Schema} (hitems : ∀ item ∈ items, Closed item) : Closed (.list items)

/-- The schemas are the same but for the flags of records that are reached from the outermost schema
through lists and records without rule alone. -/
inductive SameButFlags : Schema → Schema → Prop where
  | rule (rule : Rule) : SameButFlags (.rule rule) (.rule rule)
  | list {items others : List Schema} (hitems : List.Forall₂ SameButFlags items others) :
      SameButFlags (.list items) (.list others)
  | record (directives : Directives) (flag : Bool) (fields : List (String × Schema)) :
      SameButFlags (.record directives fields) (.record { directives with topLevel := flag } fields)
  | inFields {directives : Directives} {fields others : List (String × Schema)} (hrule : directives.rule = none)
      (flag : Bool) (hnames : others.map Prod.fst = fields.map Prod.fst)
      (hfields : List.Forall₂ SameButFlags (fields.map Prod.snd) (others.map Prod.snd)) :
      SameButFlags (.record directives fields) (.record { directives with topLevel := flag } others)

variable {d : Document} {params : Json}

/-! ### Contexts that make no difference -/

theorem buildAll_of_rule_eq_none {directives : Directives} (hrule : directives.rule = none)
    (build : Context → Run RawValue) (scope : Context) :
    buildAll d params directives build scope = do return [← build scope] := by
  rw [buildAll, hrule]

theorem build_congr_place {directives : Directives} {fields : List (String × Schema)} (hne : fields ≠ [])
    {place other : Context}
    (h : ∀ field ∈ fields, ∀ own, evaluate d params field.2 place own = evaluate d params field.2 other own)
    (ambient : Option Sanitizer) :
    build d params directives fields ambient place = build d params directives fields ambient other := by
  have hfields : fields.isEmpty = false := List.isEmpty_eq_false_iff.2 hne
  have heach : Run.each (evaluateField d params place directives.sanitizer) fields =
      Run.each (evaluateField d params other directives.sanitizer) fields := by
    refine Run.each_congr fun field hfield => ?_
    rw [evaluateField, evaluateField, h field hfield]
  simp only [build, hfields, Bool.false_eq_true, if_false, heach]

theorem Closed.evaluate_eq {schema : Schema} (h : schema.Closed) (ambient : Option Sanitizer)
    (context other : Context) :
    evaluate d params schema context ambient = evaluate d params schema other ambient := by
  induction schema using Schema.induct generalizing context other ambient with
  | rule rule => cases h
  | list items ih =>
    cases h with
    | list hitems =>
      rw [evaluate_list, evaluate_list,
        Run.each_congr fun item hitem => ih item hitem (hitems item hitem) ambient context other]
  | record directives fields ih =>
    cases hconstant : directives.constant with
    | some value => rw [evaluate_constant d params hconstant, evaluate_constant d params hconstant]
    | none =>
      rw [evaluate_record d params hconstant, evaluate_record d params hconstant]
      cases h with
      | constant h =>
        rw [hconstant] at h
        cases h
      | topLevel h =>
        have hscope : scope directives context = scope directives other := by
          rw [scope, scope, if_pos h, if_pos h]
        rw [hscope]
      | fields hrule hne hfields =>
        have hbuild : build d params directives fields ambient (scope directives context) =
            build d params directives fields ambient (scope directives other) :=
          build_congr_place hne (fun field hfield own => ih field hfield (hfields field hfield) own _ _) ambient
        rw [buildAll_of_rule_eq_none hrule, buildAll_of_rule_eq_none hrule, hbuild]

/-! ### Flags that make no difference -/

theorem scope_document (directives : Directives) : scope directives .document = .document := by
  rw [scope, ite_self]

/-- In the whole document the flag of a record is not needed. Its fields may differ as well, as long as
its instances do not. -/
theorem evaluate_record_flag (directives : Directives) (flag : Bool)
    {fields others : List (String × Schema)} {ambient : Option Sanitizer}
    (h : buildAll d params directives (build d params directives others ambient) .document =
      buildAll d params directives (build d params directives fields ambient) .document) :
    evaluate d params (.record { directives with topLevel := flag } others) .document ambient =
      evaluate d params (.record directives fields) .document ambient := by
  -- the other record repeats the constant, so the cases are not those of the term in the goal
  obtain hconstant | ⟨value, hconstant⟩ := Option.eq_none_or_eq_some directives.constant
  · have hflagged : ({ directives with topLevel := flag } : Directives).constant = none := hconstant
    rw [evaluate_record d params hflagged, evaluate_record d params hconstant, scope_document,
      scope_document, ← h]
    rfl
  · have hflagged : ({ directives with topLevel := flag } : Directives).constant = some value := hconstant
    rw [evaluate_constant d params hflagged, evaluate_constant d params hconstant]

theorem SameButFlags.evaluate_document {schema other : Schema} (h : schema.SameButFlags other)
    (ambient : Option Sanitizer) :
    evaluate d params other .document ambient = evaluate d params schema .document ambient := by
  induction schema using Schema.induct generalizing other ambient with
  | rule rule =>
    cases h
    rfl
  | list items ih =>
    cases h with
    | list hitems =>
      have hboth := (List.forall₂_and_left _ _).2 ⟨fun item hitem => @ih item hitem, hitems⟩
      rw [evaluate_list, evaluate_list,
        Run.each_eq_of_forall₂ (hboth.imp fun item other hitem => (hitem.1 hitem.2 ambient).symm)]
  | record directives fields ih =>
    cases h with
    | record _ flag => exact evaluate_record_flag directives flag rfl
    | @inFields _ _ others hrule flag hnames hfields =>
      refine evaluate_record_flag directives flag ?_
      rw [buildAll_of_rule_eq_none hrule, buildAll_of_rule_eq_none hrule]
      have hboth := (List.forall₂_and_left _ _).2 ⟨fun field hfield => @ih field hfield,
        Keyed.forall₂_entries hnames hfields⟩
      have heach : Run.each (evaluateField d params .document directives.sanitizer) fields =
          Run.each (evaluateField d params .document directives.sanitizer) others := by
        refine Run.each_eq_of_forall₂ (hboth.imp fun field other hfield => ?_)
        rw [evaluateField, evaluateField, hfield.2.1, hfield.1 hfield.2.2]
      have hempty : others.isEmpty = fields.isEmpty := by
        cases hboth <;> rfl
      simp only [build, hempty, heach]

end Schema

open Schema

/-- **What does not depend on the context.** A closed schema is the same run in the whole document and at
every element of it, with the same result or failure and the same calls. An extraction is the same run
whatever the flags of the records that are reached through lists and records without rule alone. -/
theorem evaluate_closed_and_extract_flags (d : Document) (params : Json) :
    (∀ schema : Schema, schema.Closed → ∀ (ambient : Option Sanitizer) (context other : Context),
        evaluate d params schema context ambient = evaluate d params schema other ambient) ∧
      ∀ schema other : Schema, schema.SameButFlags other → ∀ options : ExtractorOptions,
        Extractor.extract ⟨other, options⟩ d params = Extractor.extract ⟨schema, options⟩ d params := by
  refine ⟨fun schema hclosed => hclosed.evaluate_eq, fun schema other hsame options => ?_⟩
  rw [Extractor.extract, Extractor.extract, hsame.evaluate_document none]

/-! Records of the whole document in a list, beside a constant and in a record without rule. -/

/-- The list items of the whole document, or of the context. -/
def itemsOf (topLevel : Bool) : Schema := .record { rule := some (named "li"), topLevel } []

/-- A list of a constant and of a record with a field, which comes to the list items. -/
def itemsBeside (topLevel : Bool) : Schema :=
  .list [.constant (.number (.int 1)), .record {} [("items", itemsOf topLevel)]]

theorem itemsBeside_in_any_context :
    (itemsBeside true).Closed ∧ (itemsBeside true).SameButFlags (itemsBeside false) ∧
      (∀ id, evaluate itemsPage .null (itemsBeside true) (.element id) none =
        evaluate itemsPage .null (itemsBeside true) .document none) ∧
      Extractor.extract ⟨itemsBeside false, {}⟩ itemsPage .null =
        Extractor.extract ⟨itemsBeside true, {}⟩ itemsPage .null := by
  have hclosed : (itemsBeside true).Closed := by
    refine .list (List.forall_mem_cons.2 ⟨.constant rfl _, List.forall_mem_singleton.2 ?_⟩)
    exact .fields rfl (List.cons_ne_nil _ _) (List.forall_mem_singleton.2 (.topLevel rfl _))
  have hsame : (itemsBeside true).SameButFlags (itemsBeside false) := by
    refine .list (.cons (.record _ false _) (.cons (.inFields rfl false rfl ?_) .nil))
    exact .cons (.record _ false _) .nil
  obtain ⟨hcontexts, hflags⟩ := evaluate_closed_and_extract_flags itemsPage .null
  exact ⟨hclosed, hsame, fun id => hcontexts _ hclosed none _ _, hflags _ _ hsame {}⟩

end PageExtract
