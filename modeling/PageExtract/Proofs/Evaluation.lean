import PageExtract.Evaluation
import PageExtract.Proofs.Run

/-!
# Evaluation, one equation per kind of schema

The evaluator goes through items and fields by recursions of its own. Here these are runs over lists,
so that a fact about the evaluation of a schema follows from the same fact about the schemas right below
it, which is what `Schema.induct` asks for. The rest of the proofs reach the evaluator only through the
four equations for a rule, a list, a constant and a record without constant.
-/

namespace PageExtract

namespace Schema

/-- What holds of a schema if it does of its items or fields holds of every schema. -/
@[elab_as_elim] theorem induct {motive : Schema → Prop} (rule : ∀ r, motive (.rule r))
    (list : ∀ items, (∀ item ∈ items, motive item) → motive (.list items))
    (record : ∀ directives fields, (∀ field ∈ fields, motive field.2) →
      motive (.record directives fields))
    (schema : Schema) : motive schema := by
  refine @Schema.rec motive (fun items => ∀ item ∈ items, motive item)
    (fun fields => ∀ field ∈ fields, motive field.2) (fun field => motive field.2)
    rule list record ?_ ?_ ?_ ?_ ?_ schema
  · simp only [List.not_mem_nil, false_implies, implies_true]
  · exact fun item items hitem hitems => List.forall_mem_cons.2 ⟨hitem, hitems⟩
  · simp only [List.not_mem_nil, false_implies, implies_true]
  · exact fun field fields hfield hfields => List.forall_mem_cons.2 ⟨hfield, hfields⟩
  · exact fun name schema hschema => hschema

variable (d : Document) (params : Json)

theorem evaluateItems_eq_each (items : List Schema) (context : Context) (ambient : Option Sanitizer) :
    evaluateItems d params items context ambient = Run.each (evaluate d params · context ambient) items := by
  induction items with
  | nil => rfl
  | cons item items ih => rw [evaluateItems, Run.each, ih]

/-- The run of a field: that of its schema, with the name of the field. -/
def evaluateField (place : Context) (own : Option Sanitizer) (field : String × Schema) :
    Run (String × RawValue) := do
  return (field.1, ← evaluate d params field.2 place own)

theorem evaluateFields_eq_each (fields : List (String × Schema)) (place : Context) (own : Option Sanitizer) :
    evaluateFields d params fields place own = Run.each (evaluateField d params place own) fields := by
  induction fields with
  | nil => rfl
  | cons field fields ih =>
    obtain ⟨name, schema⟩ := field
    simp only [evaluateFields, Run.each, evaluateField, ih, bind_assoc, pure_bind]

theorem evaluateField_outcome_eq_ok_iff {place : Context} {own : Option Sanitizer} {field : String × Schema}
    {entry : String × RawValue} :
    (evaluateField d params place own field).outcome = .ok entry ↔
      entry.1 = field.1 ∧ (evaluate d params field.2 place own).outcome = .ok entry.2 := by
  rw [evaluateField, Run.bind_outcome_eq_ok_iff]
  constructor
  · rintro ⟨raw, hraw, hentry⟩
    obtain rfl : (field.1, raw) = entry := Except.ok.inj hentry
    exact ⟨rfl, hraw⟩
  · rintro ⟨hname, hraw⟩
    exact ⟨entry.2, hraw, by rw [← hname]; rfl⟩

theorem map_fst_of_each_evaluateField {place : Context} {own : Option Sanitizer}
    {fields : List (String × Schema)} {entries : List (String × RawValue)}
    (h : (Run.each (evaluateField d params place own) fields).outcome = .ok entries) :
    entries.map Prod.fst = fields.map Prod.fst := by
  replace h := Run.each_outcome_eq_ok_iff.1 h
  induction h with
  | nil => rfl
  | cons hentry _ ih =>
    obtain ⟨hname, -⟩ := (evaluateField_outcome_eq_ok_iff d params).1 hentry
    rw [List.map_cons, List.map_cons, ih, hname]

/-- One instance of a record: the value of the place if there are no fields, otherwise its fields. -/
def build (directives : Directives) (fields : List (String × Schema)) (ambient : Option Sanitizer)
    (place : Context) : Run RawValue :=
  if fields.isEmpty then leaf d params (directives.sanitizer.or ambient) place
  else do return .record (← Run.each (evaluateField d params place directives.sanitizer) fields)

def scope (directives : Directives) (context : Context) : Context :=
  if directives.topLevel then .document else context

theorem evaluate_rule (r : Rule) (context : Context) (ambient : Option Sanitizer) :
    evaluate d params (.rule r) context ambient = do
      return .matched (← Run.each (fun id => leaf d params ambient (.element id)) (d.select context r)) := by
  rw [evaluate]

theorem evaluate_list (items : List Schema) (context : Context) (ambient : Option Sanitizer) :
    evaluate d params (.list items) context ambient = do
      return .declared (← Run.each (evaluate d params · context ambient) items) := by
  rw [evaluate, evaluateItems_eq_each]

theorem evaluate_constant {directives : Directives} {value : Json} (h : directives.constant = some value)
    (fields : List (String × Schema)) (context : Context) (ambient : Option Sanitizer) :
    evaluate d params (.record directives fields) context ambient = pure (.scalar value) := by
  rw [evaluate, h]

theorem evaluate_record {directives : Directives} (h : directives.constant = none)
    (fields : List (String × Schema)) (context : Context) (ambient : Option Sanitizer) :
    evaluate d params (.record directives fields) context ambient = do
      let results ← buildAll d params directives (build d params directives fields ambient)
        (scope directives context)
      return .matched (← finish params directives.post results) := by
  rw [evaluate, h]
  simp only [evaluateFields_eq_each]
  rfl

/-- The rule and the ignore filter of a record do not read what is built, so two runs over the same places
compare like those in each place. -/
theorem buildAll_compare (c : Run.Comparison) {directives others : Directives}
    (hrule : others.rule = directives.rule) (hignore : others.ignore = directives.ignore)
    {build build' : Context → Run RawValue} {r : RawValue → RawValue → Prop}
    (h : ∀ place, c.holds r (build place) (build' place)) (scope : Context) :
    c.holds (List.Forall₂ r) (buildAll d params directives build scope)
      (buildAll d params others build' scope) := by
  rw [buildAll, buildAll, hrule, hignore]
  cases directives.rule with
  | none => exact c.bind (h scope) fun raw raw' hraw => c.pure (.cons hraw .nil)
  | some rule =>
    simp only [buildMatches]
    cases directives.ignore with
    | none => exact c.each (List.forall₂_same.2 fun id _ => h (.element id))
    | some hook => exact c.eachKept _ (fun id => h (.element id)) _

/-- One result after the post-processor, if there is one. -/
def finishOne (post : Option PostProcessor) (result : RawValue) : Run RawValue :=
  match post with
  | some hook => do return .scalar (← hook.call params result.canonicalJson)
  | none => pure result

theorem finish_eq_each (post : Option PostProcessor) (results : List RawValue) :
    finish params post results = Run.each (finishOne params post) results := by
  cases post with
  | some hook => rfl
  | none =>
    induction results with
    | nil => rfl
    | cons result results ih =>
      rw [Run.each, ← ih]
      rfl

theorem evaluate_record_congr {fields others : List (String × Schema)}
    (h : List.Forall₂ (fun field other => other.1 = field.1 ∧ ∀ place own,
      evaluate d params other.2 place own = evaluate d params field.2 place own) fields others)
    (directives : Directives) (context : Context) (ambient : Option Sanitizer) :
    evaluate d params (.record directives others) context ambient =
      evaluate d params (.record directives fields) context ambient := by
  cases hconstant : directives.constant with
  | some value => rw [evaluate_constant d params hconstant, evaluate_constant d params hconstant]
  | none =>
    have hempty : others.isEmpty = fields.isEmpty := by
      cases h <;> rfl
    have heach (place : Context) : Run.each (evaluateField d params place directives.sanitizer) fields =
        Run.each (evaluateField d params place directives.sanitizer) others := by
      refine Run.each_eq_of_forall₂ (h.imp fun field other hfield => ?_)
      rw [evaluateField, evaluateField, hfield.1, hfield.2]
    have hbuild : build d params directives others ambient = build d params directives fields ambient := by
      funext place
      rw [build, build, hempty, heach]
    rw [evaluate_record d params hconstant, evaluate_record d params hconstant, hbuild]

end Schema

end PageExtract
