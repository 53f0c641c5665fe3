import PageExtract.Extractor
import PageExtract.Proofs.Layout

/-!
# Rules written as records

A rule can be written in JSON as a text or as an object that holds only the text. The first loads as a rule
and the second as a record, and the two are evaluated in different ways; still nothing can tell them apart.
`spellOut` turns every rule of a schema into such a record. Values that differ in how their rules are
written load as schemas that `spellOut` makes equal, or are refused with the same fault, and spelling rules
out changes no run.
-/

namespace PageExtract

/-- A text in schema position, not empty, gives way to an object that holds only the text, as its rule. -/
inductive Json.RuleStep : Json → Json → Prop where
  | rule {source : String} (hne : source ≠ "") :
      RuleStep (.string source) (.object [("$rule", .string source)])
  | item (before behind : List Json) {item other : Json} (h : RuleStep item other) :
      RuleStep (.array (before ++ item :: behind)) (.array (before ++ other :: behind))
  | field (before behind : Keyed Json) {key : String} (hkey : IsFieldKey key) {item other : Json}
      (h : RuleStep item other) :
      RuleStep (.object (before ++ (key, item) :: behind)) (.object (before ++ (key, other) :: behind))

/-- Any number of texts are written as records. -/
abbrev Json.SpelledOut : Json → Json → Prop := Relation.ReflTransGen Json.RuleStep

namespace Schema

mutual

/-- The schema with every rule as a record that holds only the rule. -/
def spellOut : Schema → Schema
  | .rule r => .record { rule := some r } []
  | .list items => .list (spellOutItems items)
  | .record directives fields => .record directives (spellOutFields fields)

def spellOutItems : List Schema → List Schema
  | [] => []
  | item :: items => spellOut item :: spellOutItems items

def spellOutFields : List (String × Schema) → List (String × Schema)
  | [] => []
  | (name, schema) :: fields => (name, spellOut schema) :: spellOutFields fields

end

theorem spellOutItems_eq_map (items : List Schema) : spellOutItems items = items.map spellOut := by
  induction items with
  | nil => rfl
  | cons item items ih => rw [spellOutItems, ih, List.map_cons]

def spellOutField (field : String × Schema) : String × Schema := (field.1, spellOut field.2)

theorem spellOutFields_eq_map (fields : List (String × Schema)) :
    spellOutFields fields = fields.map spellOutField := by
  induction fields with
  | nil => rfl
  | cons field fields ih => rw [spellOutFields, ih, List.map_cons, spellOutField]

/-! ### Evaluation -/

variable {d : Document} {params : Json}

/-- A rule and the record that holds only the rule make the same of every context: the record has no
sanitizer of its own, so the one in force is in force for its values as well. -/
theorem evaluate_record_of_rule (r : Rule) (context : Context) (ambient : Option Sanitizer) :
    evaluate d params (.record { rule := some r } []) context ambient =
      evaluate d params (.rule r) context ambient := by
  rw [evaluate_record d params rfl, evaluate_rule]
  simp only [buildAll, buildMatches, finish, scope, pure_bind]
  rfl

theorem evaluate_spellOut (schema : Schema) (context : Context) (ambient : Option Sanitizer) :
    evaluate d params schema.spellOut context ambient = evaluate d params schema context ambient := by
  induction schema using Schema.induct generalizing context ambient with
  | rule r => exact evaluate_record_of_rule r context ambient
  | list items ih =>
    rw [spellOut, spellOutItems_eq_map, evaluate_list, evaluate_list, Run.each_map,
      Run.each_congr fun item hitem => ih item hitem context ambient]
  | record directives fields ih =>
    rw [spellOut, spellOutFields_eq_map]
    refine evaluate_record_congr d params ?_ directives context ambient
    rw [List.forall₂_map_right_iff, List.forall₂_same]
    exact fun field hfield => ⟨rfl, ih field hfield⟩

/-! ### Loading -/

variable {hooks : Registry}

theorem load_record_of_rule {source : String} (hne : source ≠ "") (route : Route) :
    load hooks route (.object [("$rule", .string source)]) =
      (Directives.ruleOf source).map fun rule => .record { rule := some rule } [] := by
  have hset : (Json.string source).setsDirective = true := by simpa [Json.setsDirective] using hne
  have hrule : Directives.loadRule route (some (.string source)) = (Directives.ruleOf source).map some := by
    rw [Directives.loadRule_some, if_pos hset]
    rfl
  have hget : Keyed.get? [("$rule", Json.string source)] "$rule" = some (.string source) := rfl
  rw [load, Directives.load, hget, hrule]
  cases Directives.ruleOf source <;> rfl

theorem map_loadItems_cons (route : Route) (position : Nat) (item : Json) (items : List Json) :
    (loadItems hooks route position (item :: items)).map (List.map spellOut) = do
      return (← (load hooks (route ++ [.index position]) item).map spellOut) ::
        (← (loadItems hooks route (position + 1) items).map (List.map spellOut)) := by
  rw [loadItems]
  cases load hooks (route ++ [.index position]) item with
  | error fault => rfl
  | ok schema => cases loadItems hooks route (position + 1) items <;> rfl

theorem map_load_array (route : Route) (items : List Json) :
    (load hooks route (.array items)).map spellOut =
      ((loadItems hooks route 0 items).map (List.map spellOut)).map .list := by
  rw [load]
  cases loadItems hooks route 0 items with
  | error fault => rfl
  | ok schemas => exact congrArg (fun items => Except.ok (Schema.list items)) (spellOutItems_eq_map schemas)

theorem map_loadFields_cons (route : Route) {key : String} (hkey : IsFieldKey key) (value : Json)
    (members : Keyed Json) :
    (loadFields hooks route ((key, value) :: members)).map (List.map spellOutField) = do
      return (key, ← (load hooks (route ++ [.key key]) value).map spellOut) ::
        (← (loadFields hooks route members).map (List.map spellOutField)) := by
  rw [loadFields_cons, if_pos hkey]
  cases load hooks (route ++ [.key key]) value with
  | error fault => rfl
  | ok schema => cases loadFields hooks route members <;> rfl

theorem map_load_object (route : Route) (members : Keyed Json) :
    (load hooks route (.object members)).map spellOut = do
      return .record (← Directives.load hooks route members)
        (← (loadFields hooks route members).map (List.map spellOutField)) := by
  rw [load]
  cases Directives.load hooks route members with
  | error fault => rfl
  | ok directives =>
    cases loadFields hooks route members with
    | error fault => rfl
    | ok fields =>
      exact congrArg (fun fields => Except.ok (Schema.record directives fields)) (spellOutFields_eq_map fields)

theorem map_loadItems_congr {item other : Json}
    (h : ∀ route, (load hooks route other).map spellOut = (load hooks route item).map spellOut)
    (route : Route) (position : Nat) (before behind : List Json) :
    (loadItems hooks route position (before ++ other :: behind)).map (List.map spellOut) =
      (loadItems hooks route position (before ++ item :: behind)).map (List.map spellOut) := by
  induction before generalizing position with
  | nil => rw [List.nil_append, List.nil_append, map_loadItems_cons, map_loadItems_cons, h]
  | cons first before ih =>
    rw [List.cons_append, List.cons_append, map_loadItems_cons, map_loadItems_cons, ih]

theorem map_loadFields_congr {item other : Json}
    (h : ∀ route, (load hooks route other).map spellOut = (load hooks route item).map spellOut)
    (route : Route) {key : String} (hkey : IsFieldKey key) (before behind : Keyed Json) :
    (loadFields hooks route (before ++ (key, other) :: behind)).map (List.map spellOutField) =
      (loadFields hooks route (before ++ (key, item) :: behind)).map (List.map spellOutField) := by
  induction before with
  | nil =>
    rw [List.nil_append, List.nil_append, map_loadFields_cons route hkey, map_loadFields_cons route hkey, h]
  | cons member before ih =>
    obtain ⟨name, value⟩ := member
    rw [List.cons_append, List.cons_append]
    by_cases hname : IsFieldKey name
    · rw [map_loadFields_cons route hname, map_loadFields_cons route hname, ih]
    · rw [loadFields_cons, loadFields_cons, if_neg hname, if_neg hname, ih]

/-- Wherever a text stands, it loads as the record does, up to how rules are written. -/
theorem map_load_of_ruleStep {value other : Json} (h : value.RuleStep other) (route : Route) :
    (load hooks route other).map spellOut = (load hooks route value).map spellOut := by
  induction h generalizing route with
  | @rule source hne =>
    rw [load_record_of_rule hne, load]
    cases Directives.ruleOf source <;> rfl
  | item before behind _ ih =>
    rw [map_load_array, map_load_array, map_loadItems_congr ih]
  | @field before behind key hkey item other _ ih =>
    have hread := readAlike_field before behind hkey other item
    rw [map_load_object, map_load_object, map_loadFields_congr ih route hkey, hread.load_eq]

theorem map_ofJson_of_spelledOut {value other : Json} (h : value.SpelledOut other) :
    (ofJson hooks other).map spellOut = (ofJson hooks value).map spellOut := by
  induction h with
  | refl => rfl
  | @tail middle other _ step ih =>
    have hload : (load hooks [] other).map spellOut = (load hooks [] middle).map spellOut :=
      map_load_of_ruleStep step []
    -- a step is never from or to an atom, and the other values load at the root as they do elsewhere
    refine Eq.trans ?_ ih
    cases step <;> exact hload

theorem extract_eq_of_spellOut_eq {schema other : Schema} (h : other.spellOut = schema.spellOut)
    (options : ExtractorOptions) (d : Document) (params : Json) :
    Extractor.extract ⟨other, options⟩ d params = Extractor.extract ⟨schema, options⟩ d params := by
  rw [Extractor.extract, Extractor.extract, ← evaluate_spellOut other, h, evaluate_spellOut]

/-- **A text is shorthand for a record that holds only that rule.** Let some texts in schema position be
written as such records, at whatever depth and under whatever records and lists. Then the values are refused
with the same fault or both load, and the schemas that they load as make the same of every document: the
same results or the same failure, with the same calls. -/
theorem ofJson_spelledOut {value other : Json} (h : value.SpelledOut other) (hooks : Registry) :
    (∀ fault, ofJson hooks other = .error fault ↔ ofJson hooks value = .error fault) ∧
      ∀ schema, ofJson hooks value = .ok schema →
        ∃ spelled, ofJson hooks other = .ok spelled ∧
          ∀ (options : ExtractorOptions) (d : Document) (params : Json),
            Extractor.extract ⟨spelled, options⟩ d params = Extractor.extract ⟨schema, options⟩ d params := by
  have hmap : (ofJson hooks other).map spellOut = (ofJson hooks value).map spellOut :=
    map_ofJson_of_spelledOut h
  cases hvalue : ofJson hooks value with
  | error fault =>
    cases hother : ofJson hooks other with
    | error fault' =>
      rw [hvalue, hother] at hmap
      obtain rfl : fault' = fault := Except.error.inj hmap
      exact ⟨fun _ => Iff.rfl, nofun⟩
    | ok spelled =>
      rw [hvalue, hother] at hmap
      cases hmap
  | ok schema =>
    cases hother : ofJson hooks other with
    | error fault' =>
      rw [hvalue, hother] at hmap
      cases hmap
    | ok spelled =>
      rw [hvalue, hother] at hmap
      have hsame : spelled.spellOut = schema.spellOut := Except.ok.inj hmap
      refine ⟨fun fault => iff_of_false nofun nofun, ?_⟩
      rintro _ ⟨⟩
      exact ⟨spelled, rfl, extract_eq_of_spellOut_eq hsame⟩

/-! Two texts are written as records: one in a list in a field, the other in the field beside it, and both
under a sanitizer. -/

/-- The list items, each with the list of what `i` gives in it and with what `b` gives in it. -/
def cellsSchema (i b : Json) : Json :=
  .array [.object [("$rule", .string "li"), ("$sanitizer", .string "html"), ("all", .array [i]), ("one", b)]]

def ruleObject (source : String) : Json := .object [("$rule", .string source)]

theorem cellsSchema_spelledOut :
    (cellsSchema (.string "i") (.string "b")).SpelledOut (cellsSchema (ruleObject "i") (ruleObject "b")) ∧
      ∃ schema spelled, ofJson .empty (cellsSchema (.string "i") (.string "b")) = .ok schema ∧
        ofJson .empty (cellsSchema (ruleObject "i") (ruleObject "b")) = .ok spelled ∧
        ∀ d params, Extractor.extract ⟨spelled, {}⟩ d params = Extractor.extract ⟨schema, {}⟩ d params := by
  have hfirst : (cellsSchema (.string "i") (.string "b")).RuleStep
      (cellsSchema (ruleObject "i") (.string "b")) := by
    have hlist : Json.RuleStep (.array [.string "i"]) (.array [ruleObject "i"]) := .item [] [] (.rule (by decide))
    exact .item [] [] (.field [("$rule", _), ("$sanitizer", _)] [("one", _)] (by decide) hlist)
  have hsecond : (cellsSchema (ruleObject "i") (.string "b")).RuleStep
      (cellsSchema (ruleObject "i") (ruleObject "b")) :=
    .item [] [] (.field [("$rule", _), ("$sanitizer", _), ("all", _)] [] (by decide) (.rule (by decide)))
  have hspelled : Json.SpelledOut (cellsSchema (.string "i") (.string "b"))
      (cellsSchema (ruleObject "i") (ruleObject "b")) := .tail (.single hfirst) hsecond
  have hloads : (ofJson .empty (cellsSchema (.string "i") (.string "b"))).toOption.isSome = true := by
    decide +kernel
  cases h : ofJson .empty (cellsSchema (.string "i") (.string "b")) with
  | error fault =>
    rw [h] at hloads
    cases hloads
  | ok schema =>
    obtain ⟨spelled, hother, hextract⟩ := (ofJson_spelledOut hspelled .empty).2 schema h
    exact ⟨hspelled, schema, spelled, rfl, hother, hextract {}⟩

end Schema

end PageExtract
