import PageExtract.Proofs.FirstFailure

/-!
# What a schema says in vain

A constant is the value of its record, whatever else the record says and whatever its fields are. An ignore
filter is asked about matches, so a record without rule never asks it. `prune` leaves out what is said in
vain in these two ways, at every depth at once, and a pruned schema is the same run as before. So a hook that
stands in or below a record with a constant is never called: what is called stands elsewhere.
-/

namespace PageExtract

namespace Directives

/-- Without the ignore filter, if there is no rule to give it anything to be asked about. -/
def prune (directives : Directives) : Directives :=
  if directives.rule.isNone then { directives with ignore := none } else directives

@[simp] theorem prune_sanitizer (directives : Directives) :
    directives.prune.sanitizer = directives.sanitizer := by
  rw [prune]
  split <;> rfl

@[simp] theorem prune_post (directives : Directives) : directives.prune.post = directives.post := by
  rw [prune]
  split <;> rfl

theorem exists_rule_of_prune_ignore {directives : Directives} {hook : IgnoreFilter}
    (h : directives.prune.ignore = some hook) :
    ∃ r, directives.rule = some r ∧ directives.ignore = some hook := by
  rw [prune] at h
  split at h
  next => cases h
  next hrule =>
    obtain ⟨r, hr⟩ := Option.ne_none_iff_exists'.1 (mt Option.isNone_iff_eq_none.2 hrule)
    exact ⟨r, hr, h⟩

end Directives

namespace Schema

mutual

/-- The schema with nothing beside constants, and without ignore filters where there is no rule. -/
def prune : Schema → Schema
  | .rule r => .rule r
  | .list items => .list (pruneItems items)
  | .record directives fields =>
    match directives.constant with
    | some value => .constant value
    | none => .record directives.prune (pruneFields fields)

def pruneItems : List Schema → List Schema
  | [] => []
  | item :: items => prune item :: pruneItems items

def pruneFields : List (String × Schema) → List (String × Schema)
  | [] => []
  | (name, schema) :: fields => (name, prune schema) :: pruneFields fields

end

theorem pruneItems_eq_map (items : List Schema) : pruneItems items = items.map prune := by
  induction items with
  | nil => rfl
  | cons item items ih => rw [pruneItems, ih, List.map_cons]

theorem pruneFields_eq_map (fields : List (String × Schema)) :
    pruneFields fields = fields.map fun field => (field.1, prune field.2) := by
  induction fields with
  | nil => rfl
  | cons field fields ih => rw [pruneFields, ih, List.map_cons]

theorem prune_constant {directives : Directives} {value : Json} (h : directives.constant = some value)
    (fields : List (String × Schema)) : prune (.record directives fields) = .constant value := by
  rw [prune, h]

theorem prune_record {directives : Directives} (h : directives.constant = none)
    (fields : List (String × Schema)) :
    prune (.record directives fields) =
      .record directives.prune (fields.map fun field => (field.1, prune field.2)) := by
  rw [prune, h, pruneFields_eq_map]

/-! ### Pruning changes no run -/

variable {d : Document} {params : Json}

/-- A record without rule builds in its scope, whether or not it has an ignore filter. -/
theorem evaluate_prune_directives {directives : Directives} (hconstant : directives.constant = none)
    (fields : List (String × Schema)) (context : Context) (ambient : Option Sanitizer) :
    evaluate d params (.record directives.prune fields) context ambient =
      evaluate d params (.record directives fields) context ambient := by
  rw [Directives.prune]
  split
  next hrule =>
    -- only the ignore filter is gone, and without rule `buildAll` does not read it
    have hpruned : ({ directives with ignore := none } : Directives).constant = none := hconstant
    have hscope (build : Context → Run RawValue) (scope : Context) :
        buildAll d params { directives with ignore := none } build scope =
          buildAll d params directives build scope := by
      rw [buildAll, buildAll, Option.isNone_iff_eq_none.1 hrule]
    rw [evaluate_record d params hpruned, evaluate_record d params hconstant, hscope]
    rfl
  next => rfl

theorem evaluate_prune (schema : Schema) (context : Context) (ambient : Option Sanitizer) :
    evaluate d params schema.prune context ambient = evaluate d params schema context ambient := by
  induction schema using Schema.induct generalizing context ambient with
  | rule r => rw [prune]
  | list items ih =>
    rw [prune, pruneItems_eq_map, evaluate_list, evaluate_list, Run.each_map,
      Run.each_congr fun item hitem => ih item hitem context ambient]
  | record directives fields ih =>
    cases hconstant : directives.constant with
    | some value =>
      rw [prune_constant hconstant, evaluate_constant d params hconstant]
      exact evaluate_constant d params rfl _ _ _
    | none =>
      rw [prune_record hconstant, ← evaluate_prune_directives hconstant fields]
      refine evaluate_record_congr d params ?_ directives.prune context ambient
      rw [List.forall₂_map_right_iff, List.forall₂_same]
      exact fun field hfield => ⟨rfl, ih field hfield⟩

/-! ### The hooks that are left -/

/-- The hooks of a schema that stand neither in a record with a constant nor below one, at every depth. An
ignore filter counts only where there is a rule. -/
inductive HasLiveHook : Schema → Hook → Prop where
  | sanitizer {directives : Directives} {hook : Sanitizer} (hconstant : directives.constant = none)
      (h : directives.sanitizer = some hook) (fields : List (String × Schema)) :
      HasLiveHook (.record directives fields) (.sanitizer hook)
  | post {directives : Directives} {hook : PostProcessor} (hconstant : directives.constant = none)
      (h : directives.post = some hook) (fields : List (String × Schema)) :
      HasLiveHook (.record directives fields) (.post hook)
  | ignore {directives : Directives} {hook : IgnoreFilter} (hconstant : directives.constant = none)
      {r : Rule} (hrule : directives.rule = some r) (h : directives.ignore = some hook)
      (fields : List (String × Schema)) : HasLiveHook (.record directives fields) (.ignore hook)
  | item {items : List Schema} {item : Schema} {hook : Hook} (hitem : item ∈ items)
      (h : HasLiveHook item hook) : HasLiveHook (.list items) hook
  | field {directives : Directives} {fields : List (String × Schema)} {field : String × Schema} {hook : Hook}
      (hconstant : directives.constant = none) (hfield : field ∈ fields) (h : HasLiveHook field.2 hook) :
      HasLiveHook (.record directives fields) hook

theorem not_hasHook_constant {value : Json} {hook : Hook} : ¬ HasHook (.constant value) hook := by
  intro h
  rw [constant, RecordSchema.toSchema, RecordSchema.withConstant] at h
  cases h with
  | sanitizer h => cases h
  | post h => cases h
  | ignore h => cases h
  | field hfield => cases hfield

theorem hasLiveHook_of_prune {schema : Schema} {hook : Hook} (h : schema.prune.HasHook hook) :
    schema.HasLiveHook hook := by
  induction schema using Schema.induct with
  | rule r =>
    rw [prune] at h
    cases h
  | list items ih =>
    rw [prune, pruneItems_eq_map] at h
    cases h with
    | item hitem h =>
      obtain ⟨item, hmem, rfl⟩ := List.mem_map.1 hitem
      exact .item hmem (ih item hmem h)
  | record directives fields ih =>
    cases hconstant : directives.constant with
    | some value =>
      rw [prune_constant hconstant] at h
      exact absurd h not_hasHook_constant
    | none =>
      rw [prune_record hconstant] at h
      cases h with
      | sanitizer h => exact .sanitizer hconstant (directives.prune_sanitizer ▸ h) fields
      | post h => exact .post hconstant (directives.prune_post ▸ h) fields
      | ignore h =>
        obtain ⟨r, hrule, h⟩ := Directives.exists_rule_of_prune_ignore h
        exact .ignore hconstant hrule h fields
      | field hfield h =>
        obtain ⟨field, hmem, rfl⟩ := List.mem_map.1 hfield
        exact .field hconstant hmem (ih field hmem h)

/-- **What a schema says in vain changes nothing.** A pruned schema is the same run in every context and under
every sanitizer in force: the same result or failure and the same calls in order. It has none of the hooks that
stand in or below records with a constant. So whatever is called, also if the run fails in the end, is a hook
that stands elsewhere or the sanitizer in force; and a record with a constant is that constant, as a scalar,
without any call. -/
theorem evaluate_prune_and_calls (schema : Schema) (d : Document) (params : Json) (context : Context)
    (ambient : Option Sanitizer) :
    evaluate d params schema.prune context ambient = evaluate d params schema context ambient ∧
      (∀ hook, schema.prune.HasHook hook → schema.HasLiveHook hook) ∧
      (∀ event ∈ (evaluate d params schema context ambient).calls, ∃ hook failure,
        (schema.HasLiveHook hook ∨ ∃ inForce, ambient = some inForce ∧ hook = .sanitizer inForce) ∧
          hook.Answers params event failure) ∧
      ∀ (directives : Directives) (value : Json) (fields : List (String × Schema)),
        evaluate d params (.record { directives with constant := some value } fields) context ambient =
          pure (.scalar value) := by
  refine ⟨evaluate_prune schema context ambient, fun hook => hasLiveHook_of_prune, fun event hevent => ?_,
    fun directives value fields => evaluate_constant d params rfl fields context ambient⟩
  obtain ⟨hmem, hcall⟩ := List.mem_filter.1 hevent
  rw [← evaluate_prune] at hmem
  obtain ⟨failure, hcame⟩ :=
    (endsAtFailure_evaluate d params schema.prune context ambient).exists_of_mem hmem
  cases hcame with
  | text element => cases hcall
  | own hhook h => exact ⟨_, failure, .inl (hasLiveHook_of_prune hhook), h⟩
  | inForce hhook h => exact ⟨_, failure, .inr ⟨_, hhook, rfl⟩, h⟩

/-- A constant in a list and one in a field lose what stands beside them, and the record around the second
loses its ignore filter. -/
example :
    prune (.list [.record { constant := some .null, sanitizer := some textOrFail } [("a", .rule (named "b"))],
      .record { ignore := some .blank, sanitizer := some textOrNull }
        [("a", .record { constant := some .null, ignore := some .blank } [])]]) =
      .list [.constant .null, .record { sanitizer := some textOrNull } [("a", .constant .null)]] := by
  rfl

end Schema

end PageExtract
