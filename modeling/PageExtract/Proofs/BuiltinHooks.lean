import PageExtract.Extractor
import PageExtract.Proofs.FirstFailure
import PageExtract.Proofs.Loading

/-!
# What can fail in an extraction

Once a schema is built, nothing but a call of one of its hooks can fail, and the failure of the call is
that of the extraction. Loading takes every hook of a schema from the registry, and the hooks that are
built in are steady: they never fail, and what they answer depends on nothing but what they are called
on. So a schema that names only these can be extracted from every page, whatever the external
variables are, and these make no difference.
-/

namespace PageExtract

/-- The hook never fails, and its answer depends on its argument alone. -/
def Hook.Steady : Hook → Prop
  | .sanitizer hook => ∃ f : PageElement → Json, ∀ element params, hook.apply element params = .ok (f element)
  | .post hook => ∃ f : Json → Json, ∀ value params, hook.apply value params = .ok (f value)
  | .ignore hook => ∃ f : PageElement → Bool, ∀ element params, hook.apply element params = .ok (f element)

/-! ### Runs that end well, whatever the external variables -/

/-- The two runs are the same and end well. -/
def Run.sameSuccess : Run.Relation where
  holds x y := y = x ∧ ∃ a, x.outcome = .ok a
  pure a := ⟨rfl, a, rfl⟩
  text element a := ⟨rfl, a, rfl⟩
  bind h hrest := by
    obtain ⟨rfl, a, ha⟩ := h
    obtain ⟨hsame, b, hb⟩ := hrest a
    rw [Run.bind_of_ok ha, Run.bind_of_ok ha, hsame]
    exact ⟨rfl, b, hb⟩

namespace HookRelation

/-- Both hooks are the same steady one. -/
def steady : HookRelation where
  sanitizer hook other := other = hook ∧ Hook.Steady (.sanitizer hook)
  post hook other := other = hook ∧ Hook.Steady (.post hook)
  ignore hook other := other = hook ∧ Hook.Steady (.ignore hook)

theorem steady_holdsOf {hook : Hook} (h : hook.Steady) : steady.HoldsOf hook := by
  cases hook <;> exact ⟨rfl, h⟩

theorem steady_lifts (params params' : Json) : steady.Lifts Run.sameSuccess params params' where
  sanitizer {hook other} h element := by
    obtain ⟨rfl, f, hf⟩ := h
    rw [Sanitizer.call, Sanitizer.call, hf, hf]
    exact ⟨rfl, f element, rfl⟩
  post {hook other} h value := by
    obtain ⟨rfl, f, hf⟩ := h
    rw [PostProcessor.call, PostProcessor.call, hf, hf]
    exact ⟨rfl, f value, rfl⟩
  ignore {hook other} h element := by
    obtain ⟨rfl, f, hf⟩ := h
    rw [IgnoreFilter.call, IgnoreFilter.call, hf, hf]
    exact ⟨rfl, f element, rfl⟩

end HookRelation

namespace Schema

/-- With steady hooks alone an evaluation ends well, and does so in the same way whatever the external
variables are. -/
theorem evaluate_of_steady {schema : Schema} (h : ∀ hook, schema.HasHook hook → hook.Steady) (d : Document)
    (params params' : Json) (context : Context) :
    evaluate d params' schema context none = evaluate d params schema context none ∧
      ∃ raw, (evaluate d params schema context none).outcome = .ok raw := by
  have halike : schema.Alike .steady schema :=
    alike_refl fun hook hhook => HookRelation.steady_holdsOf (h hook hhook)
  exact Alike.evaluate (HookRelation.steady_lifts params params') halike context .none

end Schema

/-! ### The hooks of a loaded schema -/

/-- The registry resolves some name to the hook. -/
inductive Registry.Provides (hooks : Registry) : Hook → Prop where
  | sanitizer {name : String} {hook : Sanitizer} (h : hooks.sanitizer? name = some hook) :
      Provides hooks (.sanitizer hook)
  | post {name : String} {hook : PostProcessor} (h : hooks.postProcessor? name = some hook) :
      Provides hooks (.post hook)
  | ignore {name : String} {hook : IgnoreFilter} (h : hooks.ignoreFilter? name = some hook) :
      Provides hooks (.ignore hook)

theorem Directives.HookIs.exists_name {α : Type} {find : String → Option α} {member : Option Json} {hook : α}
    (h : HookIs find member (some hook)) : ∃ name, find name = some hook := by
  cases h with
  | @named name _ hfind => exact ⟨name, hfind⟩

/-- Every hook of a loaded schema, at every depth, is one that the registry resolved. -/
theorem Schema.Denotes.provides {hooks : Registry} {value : Json} {schema : Schema} {hook : Hook}
    (h : Denotes hooks value schema) (hhook : schema.HasHook hook) : hooks.Provides hook := by
  induction hhook generalizing value with
  | sanitizer hsome fields =>
    cases h with
    | record hdirectives _ _ =>
      obtain ⟨name, hfind⟩ := Directives.HookIs.exists_name (hsome ▸ hdirectives.sanitizer)
      exact .sanitizer hfind
  | post hsome fields =>
    cases h with
    | record hdirectives _ _ =>
      obtain ⟨name, hfind⟩ := Directives.HookIs.exists_name (hsome ▸ hdirectives.post)
      exact .post hfind
  | ignore hsome fields =>
    cases h with
    | record hdirectives _ _ =>
      obtain ⟨name, hfind⟩ := Directives.HookIs.exists_name (hsome ▸ hdirectives.ignore)
      exact .ignore hfind
  | item hitem _ ih =>
    cases h with
    | list hitems =>
      have hdenoted := forall_mem_of_forall₂ (p := fun item => ∃ value, Denotes hooks value item) hitems
        fun value _ item hvalue => ⟨value, hvalue⟩
      obtain ⟨value, hvalue⟩ := hdenoted _ hitem
      exact ih hvalue
  | field hfield _ ih =>
    cases h with
    | record _ _ hvalues =>
      have hdenoted := forall_mem_of_forall₂ (p := fun schema => ∃ value, Denotes hooks value schema) hvalues
        fun value _ schema hvalue => ⟨value, hvalue⟩
      obtain ⟨value, hvalue⟩ := hdenoted _ (List.mem_map_of_mem hfield)
      exact ih hvalue

/-! ### The hooks that are built in -/

theorem Accessor.sanitizer_steady (accessor : Accessor) : Hook.Steady (.sanitizer accessor.sanitizer) :=
  ⟨accessor.value, fun _ _ => rfl⟩

theorem PostProcessor.ofText_steady (change : String → Json) : Hook.Steady (.post (.ofText change)) := by
  refine ⟨fun value => (value.string?.map change).getD value, ?_⟩
  intro value params
  cases value <;> rfl

theorem IgnoreFilter.blank_steady : Hook.Steady (.ignore .blank) :=
  ⟨fun element => (trim element.text).isEmpty, fun _ _ => rfl⟩

theorem PostProcessor.exists_ofText_of_builtin? {name : String} {hook : PostProcessor}
    (h : builtin? name = some hook) : ∃ change, hook = .ofText change := by
  unfold builtin? at h
  split_ifs at h <;> exact ⟨_, (Option.some.inj h).symm⟩

theorem Registry.steady_of_empty_provides {hook : Hook} (h : Registry.empty.Provides hook) : hook.Steady := by
  cases h with
  | @sanitizer name hook h =>
    have hbuiltin : (Accessor.parse name).map Accessor.sanitizer = some hook := h
    obtain ⟨accessor, -, rfl⟩ := Option.map_eq_some_iff.1 hbuiltin
    exact accessor.sanitizer_steady
  | @post name hook h =>
    have hbuiltin : PostProcessor.builtin? name = some hook := h
    obtain ⟨change, rfl⟩ := PostProcessor.exists_ofText_of_builtin? hbuiltin
    exact PostProcessor.ofText_steady change
  | @ignore name hook h =>
    have hbuiltin : (if name = "blank" then some IgnoreFilter.blank else none) = some hook := h
    split at hbuiltin
    · obtain rfl := Option.some.inj hbuiltin
      exact IgnoreFilter.blank_steady
    · cases hbuiltin

/-! ### Extractions -/

namespace Extractor

open Schema

variable (options : ExtractorOptions) (d : Document) (params : Json)

theorem extract_of_outcome_ok {schema : Schema} {raw : RawValue}
    (h : (evaluate d params schema .document none).outcome = .ok raw) :
    extract ⟨schema, options⟩ d params =
      ⟨(evaluate d params schema .document none).events, .ok raw.topLevel⟩ := by
  rw [extract, Run.bind_of_ok h, Run.events_pure, Run.outcome_pure, List.append_nil]

theorem extract_of_outcome_error {schema : Schema} {e : HookError}
    (h : (evaluate d params schema .document none).outcome = .error e) :
    extract ⟨schema, options⟩ d params =
      ⟨(evaluate d params schema .document none).events, .error e⟩ := by
  rw [extract, Run.bind_of_error h]

theorem exists_hook_of_cameOut {schema : Schema} {call : Event} {e : HookError}
    (h : call.CameOut params schema none (some e)) :
    ∃ hook, schema.HasHook hook ∧ hook.Answers params call (some e) := by
  cases h with
  | own hhook hanswers => exact ⟨_, hhook, hanswers⟩
  | inForce hhook => cases hhook

/-- **Only a hook can make an extraction fail.** An extraction has results, or it ends with the call of a
hook of its schema, at whatever depth, and its failure is the one that the hook answers this call with. A
schema that loads without registered hooks has results on every page, which it comes to in the same way
whatever the external variables are. -/
theorem extract_fails_only_in_hooks (schema : Schema) :
    ((∃ values, (extract ⟨schema, options⟩ d params).outcome = .ok values) ∨
        ∃ e, (extract ⟨schema, options⟩ d params).outcome = .error e ∧
          ∃ earlier call, (extract ⟨schema, options⟩ d params).events = earlier ++ [call] ∧
            ∃ hook, schema.HasHook hook ∧ hook.Answers params call (some e)) ∧
      ∀ value, Schema.ofJson .empty value = .ok schema →
        ∃ events values, ∀ params', extract ⟨schema, options⟩ d params' = ⟨events, .ok values⟩ := by
  constructor
  · cases houtcome : (evaluate d params schema .document none).outcome with
    | ok raw =>
      rw [extract_of_outcome_ok options d params houtcome]
      exact .inl ⟨_, rfl⟩
    | error e =>
      rw [extract_of_outcome_error options d params houtcome]
      obtain ⟨earlier, call, hevents, -, hcall⟩ :=
        (endsAtFailure_evaluate d params schema .document none).of_error houtcome
      exact .inr ⟨e, rfl, earlier, call, hevents, exists_hook_of_cameOut params hcall⟩
  · intro value hload
    have hdenotes : Denotes .empty value schema := ofJson_eq_ok_iff.1 hload
    have hsteady : ∀ hook, schema.HasHook hook → hook.Steady := fun hook hhook =>
      Registry.steady_of_empty_provides (hdenotes.provides hhook)
    obtain ⟨-, raw, hraw⟩ := evaluate_of_steady hsteady d .null .null .document
    refine ⟨(evaluate d .null schema .document none).events, raw.topLevel, fun params' => ?_⟩
    obtain ⟨hsame, -⟩ := evaluate_of_steady hsteady d .null params' .document
    have hparams : (evaluate d params' schema .document none).outcome = .ok raw := by rw [hsame, hraw]
    rw [extract_of_outcome_ok options d params' hparams, hsame]

/-! Hooks of all three kinds at two depths. -/

/-- The items that are not blank, each with the number in its `b` elements and the list of these. -/
def pricesSchema : Json :=
  .object [("$rule", .string "li"), ("$ignore", .string "blank"), ("$fn", .string "text"),
    ("price", .object [("$rule", .string "b"), ("$post", .string "parse_price")]),
    ("all", .array [.string "b"])]

theorem prices_extracted :
    ∃ schema, Schema.ofJson .empty pricesSchema = .ok schema ∧
      ∃ events values, values.length = 1 ∧
        ∀ params, extract ⟨schema, {}⟩ itemsPage params = ⟨events, .ok values⟩ := by
  have hone : (Schema.ofJson .empty pricesSchema).toOption.map (fun schema =>
      (extract ⟨schema, {}⟩ itemsPage .null).outcome.toOption.map List.length) = some (some 1) := by
    decide +kernel
  cases hload : Schema.ofJson .empty pricesSchema with
  | error fault =>
    rw [hload] at hone
    cases hone
  | ok schema =>
    obtain ⟨-, hsteady⟩ := extract_fails_only_in_hooks {} itemsPage .null schema
    obtain ⟨events, values, hvalues⟩ := hsteady pricesSchema hload
    refine ⟨schema, rfl, events, values, ?_, hvalues⟩
    have hlength : (extract ⟨schema, {}⟩ itemsPage .null).outcome.toOption.map List.length = some 1 := by
      rw [hload] at hone
      exact Option.some.inj hone
    rw [hvalues] at hlength
    exact Option.some.inj hlength

end Extractor

end PageExtract
