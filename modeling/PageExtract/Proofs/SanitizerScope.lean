import PageExtract.Proofs.Evaluation

/-!
# The scope of a sanitizer

Evaluation hands the sanitizer in force down as an argument. Where it ends up can be read off the schema
before anything is evaluated: `pushSanitizer` writes it into the rules and the records without fields
that it reaches, and lets each record with fields do the same with its own. A schema with the sanitizers
pushed down is evaluated without a sanitizer in force, and does the same in every place.
-/

namespace PageExtract

namespace Schema

mutual

/-- The schema with the sanitizer in force, and those of its records, written where they apply. Nothing
is written into a record with a constant, which takes no sanitizer. -/
def pushSanitizer : Schema → Option Sanitizer → Schema
  | .rule r, none => .rule r
  | .rule r, some hook => .record { rule := some r, sanitizer := some hook } []
  | .list items, ambient => .list (pushItems items ambient)
  | .record directives fields, ambient =>
    if directives.constant.isSome then .record directives fields
    else if fields.isEmpty then
      .record { directives with sanitizer := directives.sanitizer.or ambient } fields
    else .record { directives with sanitizer := none } (pushFields fields directives.sanitizer)

def pushItems : List Schema → Option Sanitizer → List Schema
  | [], _ => []
  | item :: items, ambient => pushSanitizer item ambient :: pushItems items ambient

def pushFields : List (String × Schema) → Option Sanitizer → List (String × Schema)
  | [], _ => []
  | (name, schema) :: fields, own => (name, pushSanitizer schema own) :: pushFields fields own

end

theorem pushItems_eq_map (items : List Schema) (ambient : Option Sanitizer) :
    pushItems items ambient = items.map (pushSanitizer · ambient) := by
  induction items with
  | nil => rfl
  | cons item items ih => rw [pushItems, ih, List.map_cons]

theorem pushFields_eq_map (fields : List (String × Schema)) (own : Option Sanitizer) :
    pushFields fields own = fields.map fun field => (field.1, pushSanitizer field.2 own) := by
  induction fields with
  | nil => rfl
  | cons field fields ih => rw [pushFields, ih, List.map_cons]

variable (d : Document) (params : Json)

theorem evaluate_rule_under (r : Rule) (hook : Sanitizer) (context : Context) :
    evaluate d params (.record { rule := some r, sanitizer := some hook } []) context none =
      evaluate d params (.rule r) context (some hook) := by
  rw [evaluate_record d params rfl, evaluate_rule]
  simp only [buildAll, buildMatches, finish, scope, pure_bind]
  rfl

/-- A record looks at its sanitizer only in what it builds. -/
theorem evaluate_record_of_build {directives : Directives} (hconstant : directives.constant = none)
    {own : Option Sanitizer} {fields pushed : List (String × Schema)} {ambient : Option Sanitizer}
    (hbuild : build d params { directives with sanitizer := own } pushed none =
      build d params directives fields ambient)
    (context : Context) :
    evaluate d params (.record { directives with sanitizer := own } pushed) context none =
      evaluate d params (.record directives fields) context ambient := by
  have hpushed : ({ directives with sanitizer := own } : Directives).constant = none := hconstant
  rw [evaluate_record d params hpushed, evaluate_record d params hconstant, hbuild]
  rfl

theorem build_of_isEmpty (directives : Directives) {fields : List (String × Schema)}
    (hfields : fields.isEmpty = true) (ambient : Option Sanitizer) :
    build d params { directives with sanitizer := directives.sanitizer.or ambient } fields none =
      build d params directives fields ambient := by
  funext place
  simp only [build, hfields, if_true, Option.or_none]

theorem build_pushFields (directives : Directives) {fields : List (String × Schema)}
    (hfields : fields.isEmpty = false)
    (ih : ∀ field ∈ fields, ∀ place ambient,
      evaluate d params (field.2.pushSanitizer ambient) place none = evaluate d params field.2 place ambient)
    (ambient : Option Sanitizer) :
    build d params { directives with sanitizer := none } (pushFields fields directives.sanitizer) none =
      build d params directives fields ambient := by
  funext place
  have hpushed : (pushFields fields directives.sanitizer).isEmpty = false := by
    rw [pushFields_eq_map, List.isEmpty_map, hfields]
  have heach : Run.each (evaluateField d params place none) (pushFields fields directives.sanitizer) =
      Run.each (evaluateField d params place directives.sanitizer) fields := by
    rw [pushFields_eq_map, Run.each_map]
    refine Run.each_congr fun field hfield => ?_
    simp only [evaluateField, ih field hfield]
  simp only [build, hpushed, hfields, Bool.false_eq_true, if_false, heach]

/-- **Sanitizer scoping is lexical.** A schema does under a sanitizer in force what it does with the
sanitizers pushed down and none in force: the same result or failure, and the same calls in order. -/
theorem evaluate_pushSanitizer (schema : Schema) (context : Context) (ambient : Option Sanitizer) :
    evaluate d params (schema.pushSanitizer ambient) context none =
      evaluate d params schema context ambient := by
  induction schema using Schema.induct generalizing context ambient with
  | rule r =>
    cases ambient with
    | none => rfl
    | some hook => exact evaluate_rule_under d params r hook context
  | list items ih =>
    rw [pushSanitizer, pushItems_eq_map, evaluate_list, evaluate_list, Run.each_map]
    rw [Run.each_congr fun item hitem => ih item hitem context ambient]
  | record directives fields ih =>
    cases hconstant : directives.constant with
    | some value =>
      rw [pushSanitizer, if_pos (by rw [hconstant]; rfl), evaluate_constant d params hconstant,
        evaluate_constant d params hconstant]
    | none =>
      rw [pushSanitizer, if_neg (by rw [hconstant]; exact Bool.false_ne_true)]
      by_cases hfields : fields.isEmpty = true
      · rw [if_pos hfields]
        have hbuild := build_of_isEmpty d params directives hfields ambient
        exact evaluate_record_of_build d params hconstant hbuild context
      · rw [if_neg hfields]
        have hbuild := build_pushFields d params directives (Bool.eq_false_iff.2 hfields) ih ambient
        exact evaluate_record_of_build d params hconstant hbuild context

end Schema

end PageExtract
