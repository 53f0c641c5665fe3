import PageExtract.Proofs.HookRelation
import PageExtract.Proofs.Shape

/-!
# The first failure ends a run

A hook that fails ends the evaluation there and then: what was done up to the failing call is all that is
done, and the failure is the answer. So hooks that do better where others fail, and the same elsewhere,
change nothing before the first failure, and nothing at all if there is none.
-/

namespace PageExtract

namespace Run

variable {α β : Type}

/-- The second run is the first if that ends well, and otherwise goes on where the first fails. -/
def GoesOn (x y : Run α) : Prop := (∀ a, x.outcome = .ok a → y = x) ∧ x.events <+: y.events

theorem events_prefix_bind (x : Run α) (f : α → Run β) : x.events <+: (x >>= f).events := by
  cases h : x.outcome with
  | ok a =>
    rw [bind_of_ok h]
    exact List.prefix_append _ _
  | error e =>
    have hsame : (x >>= f).events = x.events := congrArg events (bind_of_error h f)
    exact hsame ▸ List.prefix_refl _

theorem GoesOn.refl (x : Run α) : GoesOn x x := ⟨fun _ _ => rfl, List.prefix_refl _⟩

theorem GoesOn.bind {x y : Run α} {f g : α → Run β} (h : GoesOn x y) (hrest : ∀ a, GoesOn (f a) (g a)) :
    GoesOn (x >>= f) (y >>= g) := by
  cases hx : x.outcome with
  | ok a =>
    obtain rfl := h.1 a hx
    obtain ⟨hsame, hevents⟩ := hrest a
    rw [bind_of_ok hx, bind_of_ok hx]
    refine ⟨fun b hb => ?_, (List.prefix_append_right_inj _).2 hevents⟩
    rw [hsame b hb]
  | error e =>
    rw [bind_of_error hx]
    exact ⟨nofun, h.2.trans (events_prefix_bind y g)⟩

/-- The calls of one hook and of another that does the same where the first ends well. -/
theorem GoesOn.one (event : Event) {outcome outcome' : Except HookError α}
    (h : ∀ a, outcome = .ok a → outcome' = .ok a) : GoesOn (.one event outcome) (.one event outcome') := by
  refine ⟨fun a ha => ?_, List.prefix_refl _⟩
  have ha : outcome = .ok a := ha
  rw [Run.one, Run.one, ha, h a ha]

def goesOn : Run.Relation where
  holds := GoesOn
  pure a := .refl (pure a)
  text element a := .refl (.one (.text element) (.ok a))
  bind := .bind

/-- Everything a run did came out well, but for the last of a run that failed, which came out with the
failure of the run. -/
def EndsAtFailure (came : Event → Option HookError → Prop) (x : Run α) : Prop :=
  match x.outcome with
  | .ok _ => ∀ event ∈ x.events, came event none
  | .error e => ∃ earlier last, x.events = earlier ++ [last] ∧
      (∀ event ∈ earlier, came event none) ∧ came last (some e)

variable {came : Event → Option HookError → Prop}

theorem EndsAtFailure.of_ok {x : Run α} {a : α} (h : EndsAtFailure came x) (hx : x.outcome = .ok a) :
    ∀ event ∈ x.events, came event none := by
  rwa [EndsAtFailure, hx] at h

theorem EndsAtFailure.of_error {x : Run α} {e : HookError} (h : EndsAtFailure came x)
    (hx : x.outcome = .error e) :
    ∃ earlier last, x.events = earlier ++ [last] ∧
      (∀ event ∈ earlier, came event none) ∧ came last (some e) := by
  rwa [EndsAtFailure, hx] at h

theorem EndsAtFailure.exists_of_mem {x : Run α} (h : EndsAtFailure came x) {event : Event}
    (hevent : event ∈ x.events) : ∃ failure, came event failure := by
  cases hx : x.outcome with
  | ok a => exact ⟨none, h.of_ok hx event hevent⟩
  | error e =>
    obtain ⟨earlier, last, hevents, hearlier, hlast⟩ := h.of_error hx
    rw [hevents, List.mem_append, List.mem_singleton] at hevent
    rcases hevent with hevent | rfl
    · exact ⟨none, hearlier event hevent⟩
    · exact ⟨some e, hlast⟩

theorem EndsAtFailure.bind {x : Run α} {f : α → Run β} (h : EndsAtFailure came x)
    (hrest : ∀ a, EndsAtFailure came (f a)) : EndsAtFailure came (x >>= f) := by
  cases hx : x.outcome with
  | ok a =>
    have hbefore := h.of_ok hx
    rw [bind_of_ok hx]
    cases hf : (f a).outcome with
    | ok b => exact List.forall_mem_append.2 ⟨hbefore, (hrest a).of_ok hf⟩
    | error e =>
      obtain ⟨earlier, last, hevents, hearlier, hlast⟩ := (hrest a).of_error hf
      refine ⟨x.events ++ earlier, last, ?_, List.forall_mem_append.2 ⟨hbefore, hearlier⟩, hlast⟩
      rw [hevents, List.append_assoc]
  | error e =>
    rw [bind_of_error hx]
    exact h.of_error hx

def failure? : Except HookError α → Option HookError
  | .ok _ => none
  | .error e => some e

theorem EndsAtFailure.one {event : Event} {outcome : Except HookError α}
    (h : came event (failure? outcome)) : EndsAtFailure came (.one event outcome) := by
  cases outcome with
  | ok a => exact List.forall_mem_singleton.2 h
  | error e => exact ⟨[], event, rfl, nofun, h⟩

/-- What is said of the first of two runs only, as a relation of runs. -/
def endsAtFailure (came : Event → Option HookError → Prop) (htext : ∀ element, came (.text element) none) :
    Run.Relation where
  holds x _ := EndsAtFailure came x
  pure _ := (nofun : ∀ event ∈ [], came event none)
  text element _ := .one (htext element)
  bind h hrest := h.bind hrest

end Run

/-! ### Hooks of a schema, and their calls -/

/-- A hook of one of the three kinds. -/
inductive Hook where
  | sanitizer (hook : Sanitizer)
  | post (hook : PostProcessor)
  | ignore (hook : IgnoreFilter)

/-- The event is a call of the hook, and this is the failure with which the call ends, if any. -/
inductive Hook.Answers (params : Json) : Hook → Event → Option HookError → Prop where
  | sanitizer (hook : Sanitizer) (element : PageElement) :
      Answers params (.sanitizer hook) (.sanitizer hook.name element) (Run.failure? (hook.apply element params))
  | post (hook : PostProcessor) (value : Json) :
      Answers params (.post hook) (.post hook.name value) (Run.failure? (hook.apply value params))
  | ignore (hook : IgnoreFilter) (element : PageElement) :
      Answers params (.ignore hook) (.ignore hook.name element) (Run.failure? (hook.apply element params))

/-- The hooks in a schema, at every depth. -/
inductive Schema.HasHook : Schema → Hook → Prop where
  | sanitizer {directives : Directives} {hook : Sanitizer} (h : directives.sanitizer = some hook)
      (fields : List (String × Schema)) : HasHook (.record directives fields) (.sanitizer hook)
  | post {directives : Directives} {hook : PostProcessor} (h : directives.post = some hook)
      (fields : List (String × Schema)) : HasHook (.record directives fields) (.post hook)
  | ignore {directives : Directives} {hook : IgnoreFilter} (h : directives.ignore = some hook)
      (fields : List (String × Schema)) : HasHook (.record directives fields) (.ignore hook)
  | item {items : List Schema} {item : Schema} {hook : Hook} (hitem : item ∈ items) (h : HasHook item hook) :
      HasHook (.list items) hook
  | field {directives : Directives} {fields : List (String × Schema)} {field : String × Schema} {hook : Hook}
      (hfield : field ∈ fields) (h : HasHook field.2 hook) : HasHook (.record directives fields) hook

/-- How what a run did came out: reading a text never fails, and a call of a hook of the schema, or of the
sanitizer in force, as the hook answers it. -/
inductive Event.CameOut (params : Json) (schema : Schema) (ambient : Option Sanitizer) :
    Event → Option HookError → Prop where
  | text (element : PageElement) : CameOut params schema ambient (.text element) none
  | own {hook : Hook} {event : Event} {failure : Option HookError} (hhook : schema.HasHook hook)
      (h : hook.Answers params event failure) : CameOut params schema ambient event failure
  | inForce {hook : Sanitizer} {event : Event} {failure : Option HookError} (hhook : ambient = some hook)
      (h : Hook.Answers params (.sanitizer hook) event failure) : CameOut params schema ambient event failure

namespace HookRelation

/-- Each hook has the name of the other, and does what the other does wherever that ends well. -/
def agreeing (params : Json) : HookRelation where
  sanitizer hook other := other.name = hook.name ∧
    ∀ element value, hook.apply element params = .ok value → other.apply element params = .ok value
  post hook other := other.name = hook.name ∧
    ∀ value result, hook.apply value params = .ok result → other.apply value params = .ok result
  ignore hook other := other.name = hook.name ∧
    ∀ element dropped, hook.apply element params = .ok dropped → other.apply element params = .ok dropped

theorem agreeing_lifts (params : Json) : (agreeing params).Lifts Run.goesOn params params where
  sanitizer {hook other} h element := by
    rw [Sanitizer.call, Sanitizer.call, h.1]
    exact .one _ (h.2 element)
  post {hook other} h value := by
    rw [PostProcessor.call, PostProcessor.call, h.1]
    exact .one _ (h.2 value)
  ignore {hook other} h element := by
    rw [IgnoreFilter.call, IgnoreFilter.call, h.1]
    exact .one _ (h.2 element)

/-- What is said of the first of two hooks only. -/
def ofFirst (p : Hook → Prop) : HookRelation where
  sanitizer hook _ := p (.sanitizer hook)
  post hook _ := p (.post hook)
  ignore hook _ := p (.ignore hook)

/-- The relation holds between a hook and itself. -/
def HoldsOf (r : HookRelation) : Hook → Prop
  | .sanitizer hook => r.sanitizer hook hook
  | .post hook => r.post hook hook
  | .ignore hook => r.ignore hook hook

theorem ofFirst_lifts {p : Hook → Prop} {params : Json} {came : Event → Option HookError → Prop}
    (htext : ∀ element, came (.text element) none)
    (h : ∀ hook event failure, p hook → hook.Answers params event failure → came event failure) :
    (ofFirst p).Lifts (Run.endsAtFailure came htext) params params where
  sanitizer hhook element := .one (h _ _ _ hhook (.sanitizer _ element))
  post hhook value := .one (h _ _ _ hhook (.post _ value))
  ignore hhook element := .one (h _ _ _ hhook (.ignore _ element))

end HookRelation

namespace Schema

theorem option_rel_self {α : Type} {s : α → α → Prop} {a : Option α} (h : ∀ x, a = some x → s x x) :
    Option.Rel s a a := by
  cases a with
  | none => exact .none
  | some x => exact .some (h x rfl)

/-- A schema is like itself under a relation that each of its hooks has to itself. -/
theorem alike_refl {r : HookRelation} {schema : Schema} (h : ∀ hook, schema.HasHook hook → r.HoldsOf hook) :
    schema.Alike r schema := by
  induction schema using Schema.induct with
  | rule rule => exact .rule rule
  | list items ih =>
    exact .list (List.forall₂_same.2 fun item hitem => ih item hitem fun hook hhook => h hook (.item hitem hhook))
  | record directives fields ih =>
    refine .record ⟨rfl, rfl, rfl, ?_, ?_, ?_⟩ rfl ?_
    · exact option_rel_self fun hook hhook => h _ (.sanitizer hhook fields)
    · exact option_rel_self fun hook hhook => h _ (.post hhook fields)
    · exact option_rel_self fun hook hhook => h _ (.ignore hhook fields)
    · rw [List.forall₂_same, List.forall_mem_map]
      exact fun field hfield => ih field hfield fun hook hhook => h hook (.field hfield hhook)

theorem alike_self {p : Hook → Prop} {schema : Schema} (h : ∀ hook, schema.HasHook hook → p hook) :
    schema.Alike (.ofFirst p) schema := by
  refine alike_refl fun hook hhook => ?_
  cases hook <;> exact h _ hhook

theorem endsAtFailure_evaluate (d : Document) (params : Json) (schema : Schema) (context : Context)
    (ambient : Option Sanitizer) :
    Run.EndsAtFailure (Event.CameOut params schema ambient) (evaluate d params schema context ambient) := by
  let known (hook : Hook) : Prop := schema.HasHook hook ∨ ∃ s, ambient = some s ∧ hook = .sanitizer s
  have hknown : ∀ hook event failure, known hook → hook.Answers params event failure →
      event.CameOut params schema ambient failure := by
    rintro hook event failure (hhook | ⟨s, hs, rfl⟩) hanswers
    · exact .own hhook hanswers
    · exact .inForce hs hanswers
  have hschema : schema.Alike (.ofFirst known) schema := alike_self fun hook hhook => .inl hhook
  exact Alike.evaluate (HookRelation.ofFirst_lifts .text hknown) hschema context
    (option_rel_self fun s hs => .inr ⟨s, hs, rfl⟩)

/-- **The first failure ends a run and nothing else changes.** Let the hooks of a second schema do what
those of the first do wherever these end well. If the first run ends well, the second is the same run. If
it fails, then with the failure of its last call, the only one that failed, and the second run begins
with all that the first did. -/
theorem evaluate_until_failure {params : Json} {schema other : Schema} (h : schema.Alike (.agreeing params) other)
    {ambient ambient' : Option Sanitizer}
    (hambient : Option.Rel (HookRelation.agreeing params).sanitizer ambient ambient')
    (d : Document) (context : Context) :
    (∀ raw, (evaluate d params schema context ambient).outcome = .ok raw →
        evaluate d params other context ambient' = evaluate d params schema context ambient) ∧
      (∀ e, (evaluate d params schema context ambient).outcome = .error e →
        (∃ earlier last, (evaluate d params schema context ambient).events = earlier ++ [last] ∧
          (∀ event ∈ earlier, event.CameOut params schema ambient none) ∧
          last.CameOut params schema ambient (some e)) ∧
        (evaluate d params schema context ambient).events <+:
          (evaluate d params other context ambient').events) := by
  have hgoesOn : Run.GoesOn (evaluate d params schema context ambient)
      (evaluate d params other context ambient') :=
    Alike.evaluate (HookRelation.agreeing_lifts params) h context hambient
  refine ⟨hgoesOn.1, fun e he => ⟨?_, hgoesOn.2⟩⟩
  exact (endsAtFailure_evaluate d params schema context ambient).of_error he

/-! A sanitizer fails at the second of two list items, before a rule behind them is looked at. -/

/-- The text of an element that has some. -/
def textOrFail : Sanitizer where
  name := some "text"
  apply element _ := if element.text = "" then .error ⟨"no text"⟩ else .ok (.string element.text)

/-- The text of an element, or null if it has none. -/
def textOrNull : Sanitizer where
  name := some "text"
  apply element _ := .ok (if element.text = "" then .null else .string element.text)

/-- The values of the list items, and the `b` elements behind them. -/
def itemsUnder (hook : Sanitizer) : Schema :=
  .list [.record { rule := some (named "li"), sanitizer := some hook } [], .rule (named "b")]

theorem error_of_map {α β : Type} {outcome : Except HookError α} {f : α → β} {e : HookError}
    (h : outcome.map f = .error e) : outcome = .error e := by
  cases outcome with
  | ok a => cases h
  | error e' => rw [Except.error.inj h]

theorem itemsUnder_until_failure :
    (itemsUnder textOrFail).Alike (.agreeing .null) (itemsUnder textOrNull) ∧
      (evaluate itemsPage .null (itemsUnder textOrFail) .document none).outcome = .error ⟨"no text"⟩ ∧
      (∃ earlier last,
        (evaluate itemsPage .null (itemsUnder textOrFail) .document none).events = earlier ++ [last] ∧
          (∀ event ∈ earlier, event.CameOut .null (itemsUnder textOrFail) none none) ∧
          last.CameOut .null (itemsUnder textOrFail) none (some ⟨"no text"⟩)) ∧
      (evaluate itemsPage .null (itemsUnder textOrFail) .document none).events <+:
        (evaluate itemsPage .null (itemsUnder textOrNull) .document none).events := by
  have hagree : (HookRelation.agreeing .null).sanitizer textOrFail textOrNull := by
    refine ⟨rfl, fun element value h => ?_⟩
    have h : (if element.text = "" then Except.error (HookError.mk "no text")
      else .ok (.string element.text)) = .ok value := h
    show Except.ok (if element.text = "" then .null else .string element.text) = Except.ok value
    split at h
    next => cases h
    next htext => rw [if_neg htext, Except.ok.inj h]
  have halike : (itemsUnder textOrFail).Alike (.agreeing .null) (itemsUnder textOrNull) :=
    .list (.cons (.record ⟨rfl, rfl, rfl, .some hagree, .none, .none⟩ rfl .nil) (.cons (.rule _) .nil))
  have hfails : (evaluate itemsPage .null (itemsUnder textOrFail) .document none).outcome =
      .error ⟨"no text"⟩ := by
    refine error_of_map (f := fun _ => ()) ?_
    decide +kernel
  exact ⟨halike, hfails, (evaluate_until_failure halike .none itemsPage .document).2 _ hfails⟩

end Schema

end PageExtract
