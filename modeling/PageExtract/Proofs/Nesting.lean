import PageExtract.Extractor
import PageExtract.Proofs.Evaluation
import PageExtract.Proofs.RawValue

/-!
# Schemas on their own and inside others

The outermost list of results never collapses, and a constant that is an array stands there for its
items. Inside another schema a selection of one match is that match, a declared list stays a list
whatever is in it, and a constant stays as it is. Beyond that the place makes no difference: a schema
does inside a list or a record without rule what it does on its own, and `Schema.inside` tells what its
results are there.
-/

namespace PageExtract

/-- The results that a constant stands for where it is the whole schema. -/
def Json.results : Json → List Json
  | .array items => items
  | value => [value]

namespace Schema

/-- What a schema gives inside a list or a field, if `values` are its results on its own. -/
def inside : Schema → (values : List Json) → Json
  | .rule _, values => .gather values
  | .list _, values => .array values
  | .record directives _, values =>
    match directives.constant with
    | some value => value
    | none => .gather values

variable {d : Document} {params : Json}

theorem canonicalJson_eq_inside {schema : Schema} {context : Context} {ambient : Option Sanitizer}
    {raw : RawValue} (h : (evaluate d params schema context ambient).outcome = .ok raw) :
    raw.canonicalJson = schema.inside raw.topLevel := by
  cases schema with
  | rule r =>
    rw [evaluate_rule] at h
    obtain ⟨results, -, hraw⟩ := Run.bind_outcome_eq_ok_iff.1 h
    obtain rfl : RawValue.matched results = raw := Except.ok.inj hraw
    exact RawValue.canonicalJson_matched results
  | list items =>
    rw [evaluate_list] at h
    obtain ⟨results, -, hraw⟩ := Run.bind_outcome_eq_ok_iff.1 h
    obtain rfl : RawValue.declared results = raw := Except.ok.inj hraw
    exact RawValue.canonicalJson_declared results
  | record directives fields =>
    cases hconstant : directives.constant with
    | some value =>
      rw [evaluate_constant d params hconstant] at h
      obtain rfl : RawValue.scalar value = raw := Except.ok.inj h
      simp only [inside, hconstant, RawValue.canonicalJson_scalar]
    | none =>
      rw [evaluate_record d params hconstant] at h
      obtain ⟨results, -, h⟩ := Run.bind_outcome_eq_ok_iff.1 h
      obtain ⟨finished, -, hraw⟩ := Run.bind_outcome_eq_ok_iff.1 h
      obtain rfl : RawValue.matched finished = raw := Except.ok.inj hraw
      simp only [inside, hconstant]
      exact RawValue.canonicalJson_matched finished

theorem evaluate_single_field (name : String) (schema : Schema) (context : Context)
    (ambient : Option Sanitizer) :
    evaluate d params (.record {} [(name, schema)]) context ambient = do
      return .matched [.record [(name, ← evaluate d params schema context none)]] := by
  rw [evaluate_record d params rfl]
  simp only [buildAll, build, finish, scope, Run.each, evaluateField, List.isEmpty_cons, Bool.false_eq_true,
    if_false, bind_assoc, pure_bind]

end Schema

namespace Extractor

open Schema

variable (options : ExtractorOptions) (d : Document) (params : Json)

/-- The value of a schema in the whole document, as it stands inside another schema. -/
theorem evaluate_canonicalJson (schema : Schema) :
    (do return (← schema.evaluate d params .document none).canonicalJson : Run Json) = do
      return schema.inside (← extract ⟨schema, options⟩ d params) := by
  simp only [extract, bind_assoc, pure_bind]
  refine Run.bind_congr_of_ok fun raw hraw => ?_
  rw [canonicalJson_eq_inside hraw]

theorem extract_list (items : List Schema) :
    extract ⟨.list items, options⟩ d params =
      Run.each (fun item => do return item.inside (← extract ⟨item, options⟩ d params)) items := by
  have htop (results : List RawValue) :
      (RawValue.declared results).topLevel = results.map RawValue.canonicalJson := rfl
  rw [extract, evaluate_list]
  simp only [bind_assoc, pure_bind, htop]
  rw [Run.each_bind_map]
  refine Run.each_congr fun item _ => ?_
  exact evaluate_canonicalJson options d params item

theorem extract_single_field (name : String) (schema : Schema) :
    extract ⟨.record {} [(name, schema)], options⟩ d params = do
      return [.object [(name, schema.inside (← extract ⟨schema, options⟩ d params))]] := by
  have htop (raw : RawValue) : (RawValue.matched [.record [(name, raw)]]).topLevel =
      [.object [(name, raw.canonicalJson)]] := by
    have hobject : RawValue.canonicalJson (.record [(name, raw)]) = .object [(name, raw.canonicalJson)] :=
      RawValue.canonicalJson_record (List.nodup_singleton name)
    exact congrArg (fun value => [value]) hobject
  simp only [extract, evaluate_single_field, bind_assoc, pure_bind, htop]
  refine Run.bind_congr_of_ok fun raw hraw => ?_
  rw [canonicalJson_eq_inside hraw]

theorem extract_constant (directives : Directives) (value : Json) (fields : List (String × Schema)) :
    extract ⟨.record { directives with constant := some value } fields, options⟩ d params =
      pure value.results := by
  rw [extract, evaluate_constant d params rfl, pure_bind]
  cases value <;> rfl

/-- **A schema does the same inside others as on its own.** As the only field of a record, as the only item
of a list and as one item of several it makes the calls that it makes on its own, in order, and fails where
and as it fails on its own. If it does not fail, then its value there is its results made one value, as
`inside` says; the results of a constant are its items if it is an array, and otherwise the constant. -/
theorem extract_inside (schema : Schema) (name : String) :
    extract ⟨.record {} [(name, schema)], options⟩ d params = (do
        return [.object [(name, schema.inside (← extract ⟨schema, options⟩ d params))]]) ∧
      extract ⟨.list [schema], options⟩ d params = (do
        return [schema.inside (← extract ⟨schema, options⟩ d params)]) ∧
      (∀ items, extract ⟨.list items, options⟩ d params =
        Run.each (fun item => do return item.inside (← extract ⟨item, options⟩ d params)) items) ∧
      ∀ (directives : Directives) (value : Json) (fields : List (String × Schema)),
        extract ⟨.record { directives with constant := some value } fields, options⟩ d params =
          pure value.results := by
  refine ⟨extract_single_field options d params name schema, ?_, extract_list options d params,
    extract_constant options d params⟩
  rw [extract_list]
  simp only [Run.each, bind_assoc, pure_bind]

end Extractor

end PageExtract
