import PageExtract.Extractor
import PageExtract.Proofs.Composition
import PageExtract.Proofs.HookRelation
import PageExtract.Proofs.Shape

/-!
# Post-processors that change nothing

A post-processor gets the finished value of each result of a record, and the result is from then on that
value and no longer a raw result in which lists may collapse. If it gives every value back as it is, this
cannot be told from outside, because the JSON of a raw result depends on its parts only through theirs.
So such post-processors may be given to any records of a schema that have none: the results stay the
same, and all that is done besides is to call them.

`Run.ExtendedBy` compares two such runs, and is kept when runs are put one behind the other; the results
of evaluating the two schemas are `RawValue.Alike`.
-/

namespace PageExtract

/-! ### What is done besides -/

/-- The second list is the first with more put in between, all of which is extra. -/
inductive Interleaved {α : Type} (extra : α → Prop) : List α → List α → Prop where
  | nil : Interleaved extra [] []
  | both (a : α) {as bs : List α} (h : Interleaved extra as bs) : Interleaved extra (a :: as) (a :: bs)
  | more {b : α} (hb : extra b) {as bs : List α} (h : Interleaved extra as bs) : Interleaved extra as (b :: bs)

namespace Interleaved

variable {α : Type} {extra : α → Prop} {as bs as' bs' : List α}

theorem refl (as : List α) : Interleaved extra as as := by
  induction as with
  | nil => exact .nil
  | cons a as ih => exact .both a ih

theorem of_forall (h : ∀ b ∈ bs, extra b) : Interleaved extra [] bs := by
  induction bs with
  | nil => exact .nil
  | cons b bs ih =>
    have hrest : Interleaved extra [] bs := ih fun other hother => h other (List.mem_cons_of_mem b hother)
    exact .more (h b List.mem_cons_self) hrest

theorem append (h : Interleaved extra as bs) (h' : Interleaved extra as' bs') :
    Interleaved extra (as ++ as') (bs ++ bs') := by
  induction h with
  | nil => exact h'
  | both a _ ih => exact .both a ih
  | more hb _ ih => exact .more hb ih

theorem filter_eq (h : Interleaved extra as bs) {keep : α → Bool} (hextra : ∀ b, extra b → keep b = false) :
    bs.filter keep = as.filter keep := by
  induction h with
  | nil => rfl
  | both a _ ih => simp only [List.filter_cons, ih]
  | more hb _ ih => rw [List.filter_cons_of_neg (by simp [hextra _ hb]), ih]

end Interleaved

namespace Run

variable {α β γ δ : Type}

/-- Two computations end in the same failure, or with related results. -/
inductive EndsAlike (r : α → β → Prop) : Except HookError α → Except HookError β → Prop where
  | ok {a : α} {b : β} (h : r a b) : EndsAlike r (.ok a) (.ok b)
  | error (e : HookError) : EndsAlike r (.error e) (.error e)

/-- The second run does what the first does, with extra things in between, and ends like it. -/
structure ExtendedBy (extra : Event → Prop) (r : α → β → Prop) (x : Run α) (y : Run β) : Prop where
  events : Interleaved extra x.events y.events
  outcome : EndsAlike r x.outcome y.outcome

namespace ExtendedBy

variable {extra : Event → Prop} {r : α → β → Prop} {s : γ → δ → Prop}

protected theorem pure {a : α} {b : β} (h : r a b) : ExtendedBy extra r (pure a) (pure b) :=
  ⟨.nil, .ok h⟩

theorem refl {r : α → α → Prop} (hr : ∀ a, r a a) (x : Run α) : ExtendedBy extra r x x := by
  refine ⟨.refl x.events, ?_⟩
  cases x.outcome with
  | ok a => exact .ok (hr a)
  | error e => exact .error e

protected theorem bind {x : Run α} {y : Run β} (h : ExtendedBy extra r x y) {f : α → Run γ} {g : β → Run δ}
    (hrest : ∀ a b, r a b → ExtendedBy extra s (f a) (g b)) : ExtendedBy extra s (x >>= f) (y >>= g) := by
  obtain ⟨xevents, xoutcome⟩ := x
  obtain ⟨yevents, youtcome⟩ := y
  obtain ⟨hevents, houtcome⟩ := h
  cases houtcome with
  | @ok a b hab =>
    obtain ⟨hmore, hend⟩ := hrest a b hab
    rw [bind_of_ok (x := ⟨xevents, .ok a⟩) rfl, bind_of_ok (x := ⟨yevents, .ok b⟩) rfl]
    exact ⟨hevents.append hmore, hend⟩
  | error e =>
    rw [bind_of_error (x := ⟨xevents, .error e⟩) rfl, bind_of_error (x := ⟨yevents, .error e⟩) rfl]
    exact ⟨hevents, .error e⟩

protected def comparison (extra : Event → Prop) : Comparison where
  holds := ExtendedBy extra
  refl := refl fun _ => rfl
  pure := .pure
  bind h hrest := h.bind hrest

theorem outcome_eq {x y : Run α} (h : ExtendedBy extra Eq x y) : y.outcome = x.outcome := by
  obtain ⟨xevents, xoutcome⟩ := x
  obtain ⟨yevents, youtcome⟩ := y
  obtain ⟨-, houtcome⟩ := h
  cases houtcome with
  | ok hab => rw [hab]
  | error e => rfl

end ExtendedBy

end Run

/-! ### Schemas that gain post-processors -/

/-- The directives are the same, or gain an added post-processor where they have none. -/
inductive Directives.GainPost (added : PostProcessor → Prop) (directives : Directives) : Directives → Prop where
  | same : GainPost added directives directives
  | gained {hook : PostProcessor} (hnone : directives.post = none) (hadded : added hook) :
      GainPost added directives { directives with post := some hook }

/-- Some of the records without post-processor, at whatever depth, gain an added one. -/
inductive Schema.GainPosts (added : PostProcessor → Prop) : Schema → Schema → Prop where
  | rule (r : Rule) : GainPosts added (.rule r) (.rule r)
  | list {items others : List Schema} (hitems : List.Forall₂ (GainPosts added) items others) :
      GainPosts added (.list items) (.list others)
  | record {directives directives' : Directives} {fields fields' : List (String × Schema)}
      (hdirectives : directives.GainPost added directives')
      (hnames : fields'.map Prod.fst = fields.map Prod.fst)
      (hfields : List.Forall₂ (GainPosts added) (fields.map Prod.snd) (fields'.map Prod.snd)) :
      GainPosts added (.record directives fields) (.record directives' fields')

/-- The event is a call of one of the added post-processors. -/
def Event.IsCallOf (added : PostProcessor → Prop) (event : Event) : Prop :=
  ∃ hook value, added hook ∧ event = .post hook.name value

namespace Schema

variable {d : Document} {params : Json} {added : PostProcessor → Prop}

theorem build_extended {directives directives' : Directives} (hdirectives : directives.GainPost added directives')
    {fields fields' : List (String × Schema)}
    (hfields : List.Forall₂ (fun field field' => field'.1 = field.1 ∧ ∀ place own,
      (evaluate d params field.2 place own).ExtendedBy (Event.IsCallOf added) RawValue.Alike
        (evaluate d params field'.2 place own)) fields fields')
    (ambient : Option Sanitizer) (place : Context) :
    (build d params directives fields ambient place).ExtendedBy (Event.IsCallOf added) RawValue.SameJson
      (build d params directives' fields' ambient place) := by
  have hsanitizer : directives'.sanitizer = directives.sanitizer := by
    cases hdirectives <;> rfl
  have hempty : fields'.isEmpty = fields.isEmpty := by
    cases hfields <;> rfl
  rw [build, build, hempty, hsanitizer]
  split
  · exact .refl RawValue.SameJson.refl _
  · have hentries : List.Forall₂ (fun field field' =>
        (evaluateField d params place directives.sanitizer field).ExtendedBy (Event.IsCallOf added)
          (fun entry other => other.1 = entry.1 ∧ entry.2.SameJson other.2)
          (evaluateField d params place directives.sanitizer field')) fields fields' := by
      refine hfields.imp fun field field' h => ?_
      rw [evaluateField, evaluateField, h.1]
      exact (h.2 place _).bind fun raw other hraw => .pure ⟨rfl, hraw.sameJson⟩
    refine ((Run.ExtendedBy.comparison _).each hentries).bind fun entries others h => ?_
    exact .pure (RawValue.sameJson_record h)

theorem finish_of_identity {hook : PostProcessor} (h : ∀ value, hook.apply value params = .ok value)
    (results : List RawValue) :
    finish params (some hook) results =
      ⟨results.map fun raw => .post hook.name raw.canonicalJson,
        .ok (results.map fun raw => .scalar raw.canonicalJson)⟩ := by
  have hcall (value : Json) : hook.call params value = ⟨[.post hook.name value], .ok value⟩ := by
    rw [PostProcessor.call, h, Run.one]
  rw [finish]
  induction results with
  | nil => rfl
  | cons raw results ih =>
    have hone : (do return .scalar (← hook.call params raw.canonicalJson) : Run RawValue) =
        ⟨[.post hook.name raw.canonicalJson], .ok (.scalar raw.canonicalJson)⟩ := by
      rw [hcall]
      rfl
    rw [Run.each, ih, hone, Run.bind_of_ok rfl, Run.bind_of_ok rfl]
    simp

theorem finish_extended (hadded : ∀ hook, added hook → ∀ value, hook.apply value params = .ok value)
    {directives directives' : Directives} (hdirectives : directives.GainPost added directives')
    {results others : List RawValue} (h : List.Forall₂ RawValue.SameJson results others) :
    (finish params directives.post results).ExtendedBy (Event.IsCallOf added) (List.Forall₂ RawValue.SameJson)
      (finish params directives'.post others) := by
  cases hdirectives with
  | same =>
    cases directives.post with
    | none => exact .pure h
    | some hook =>
      refine (Run.ExtendedBy.comparison _).each (h.imp fun raw other hsame => ?_)
      rw [hsame.canonicalJson_eq]
      exact .refl RawValue.SameJson.refl _
  | @gained hook hnone hhook =>
    rw [hnone, finish_of_identity (hadded hook hhook)]
    refine ⟨.of_forall ?_, .ok ?_⟩
    · intro event hevent
      obtain ⟨raw, -, rfl⟩ := List.mem_map.1 hevent
      exact ⟨hook, raw.canonicalJson, hhook, rfl⟩
    · rw [List.forall₂_map_right_iff]
      refine h.imp fun raw other hsame => ?_
      rw [RawValue.SameJson, RawValue.canonicalJson_scalar, hsame.canonicalJson_eq]

/-- Evaluation calls the added post-processors besides, and gives a result with the same JSON. -/
theorem GainPosts.evaluate (hadded : ∀ hook, added hook → ∀ value, hook.apply value params = .ok value)
    {schema other : Schema} (h : schema.GainPosts added other) (context : Context)
    (ambient : Option Sanitizer) :
    (evaluate d params schema context ambient).ExtendedBy (Event.IsCallOf added) RawValue.Alike
      (evaluate d params other context ambient) := by
  induction schema using Schema.induct generalizing other context ambient with
  | rule r =>
    cases h
    exact .refl RawValue.Alike.refl _
  | list items ih =>
    cases h with
    | list hitems =>
      rw [evaluate_list, evaluate_list]
      have hboth := (List.forall₂_and_left _ _).2 ⟨fun item hitem => @ih item hitem, hitems⟩
      refine ((Run.ExtendedBy.comparison _).each (hboth.imp fun item other h => h.1 h.2 context ambient)).bind ?_
      intro results others hresults
      exact .pure (RawValue.alike_declared (hresults.imp fun raw other h => h.sameJson))
  | record directives fields ih =>
    cases h with
    | @record _ directives' _ fields' hdirectives hnames hfields =>
      have hconstant' : directives'.constant = directives.constant := by
        cases hdirectives <;> rfl
      have hrule : directives'.rule = directives.rule := by
        cases hdirectives <;> rfl
      have hignore : directives'.ignore = directives.ignore := by
        cases hdirectives <;> rfl
      have hscope : scope directives' context = scope directives context := by
        cases hdirectives <;> rfl
      cases hconstant : directives.constant with
      | some value =>
        rw [evaluate_constant d params hconstant, evaluate_constant d params (hconstant'.trans hconstant)]
        exact .pure (.refl _)
      | none =>
        rw [evaluate_record d params hconstant, evaluate_record d params (hconstant'.trans hconstant), hscope]
        have hboth := (List.forall₂_and_left _ _).2 ⟨fun field hfield => @ih field hfield,
          Keyed.forall₂_entries hnames hfields⟩
        have hbuild := build_extended hdirectives (hboth.imp fun field field' h =>
          ⟨h.2.1, fun place own => h.1 h.2.2 place own⟩) ambient
        have hall := buildAll_compare d params (Run.ExtendedBy.comparison _) hrule hignore hbuild
        refine Run.ExtendedBy.bind (hall _) fun results others hresults => ?_
        refine (finish_extended hadded hdirectives hresults).bind fun finished others hfinished => ?_
        exact .pure (RawValue.alike_matched hfinished)

end Schema

namespace Extractor

open Schema

/-- **Post-processors that change nothing cannot be told.** Let some records of a schema that have no
post-processor, at whatever depth, gain one that gives back every value as it is. Then an extraction has the
same results or fails in the same way, and does what it did before in the same order; all that comes in
between is calls of the new post-processors. So whatever choice of events leaves these calls out finds the
same events in both. -/
theorem extract_gainPosts {params : Json} {added : PostProcessor → Prop}
    (hadded : ∀ hook, added hook → ∀ value, hook.apply value params = .ok value) {schema other : Schema}
    (h : schema.GainPosts added other) (options : ExtractorOptions) (d : Document) :
    (extract ⟨other, options⟩ d params).outcome = (extract ⟨schema, options⟩ d params).outcome ∧
      Interleaved (Event.IsCallOf added) (extract ⟨schema, options⟩ d params).events
        (extract ⟨other, options⟩ d params).events ∧
      ∀ keep : Event → Bool, (∀ event, event.IsCallOf added → keep event = false) →
        (extract ⟨other, options⟩ d params).events.filter keep =
          (extract ⟨schema, options⟩ d params).events.filter keep := by
  have hextended : (extract ⟨schema, options⟩ d params).ExtendedBy (Event.IsCallOf added) Eq
      (extract ⟨other, options⟩ d params) :=
    (h.evaluate hadded .document none).bind fun raw other halike => .pure halike.topLevel.symm
  exact ⟨hextended.outcome_eq, hextended.events, fun keep hkeep => hextended.events.filter_eq hkeep⟩

/-! A record in a list that another record declares gains a post-processor, and so does that record; the
rule of the inner one has one match. -/

def unchanged : PostProcessor := ⟨some "unchanged", fun value _ => .ok value⟩

/-- The list of the items that are not blank, with a list of their `b` elements and their `i` elements, and
the same post-processor or none at two depths. -/
def itemsWithPost (post : Option PostProcessor) : Schema :=
  .list [.record { rule := some (named "li"), ignore := some .blank, post }
    [("all", .list [.record { rule := some (named "b"), post } []]), ("none", .rule (named "i"))]]

theorem itemsWithPost_unchanged :
    (itemsWithPost none).GainPosts (· = unchanged) (itemsWithPost (some unchanged)) ∧
      (∀ hook, hook = unchanged → ∀ value, hook.apply value .null = .ok value) ∧
      (∃ values, (extract ⟨itemsWithPost none, {}⟩ itemsPage .null).outcome = .ok values ∧
        (extract ⟨itemsWithPost (some unchanged), {}⟩ itemsPage .null).outcome = .ok values) ∧
      Interleaved (Event.IsCallOf (· = unchanged)) (extract ⟨itemsWithPost none, {}⟩ itemsPage .null).events
        (extract ⟨itemsWithPost (some unchanged), {}⟩ itemsPage .null).events ∧
      (extract ⟨itemsWithPost (some unchanged), {}⟩ itemsPage .null).events.length =
        (extract ⟨itemsWithPost none, {}⟩ itemsPage .null).events.length + 2 := by
  have hgain : (itemsWithPost none).GainPosts (· = unchanged) (itemsWithPost (some unchanged)) := by
    have hinner : Schema.GainPosts (· = unchanged)
        (.list [.record { rule := some (named "b"), post := none } []])
        (.list [.record { rule := some (named "b"), post := some unchanged } []]) :=
      .list (.cons (.record (.gained rfl rfl) rfl .nil) .nil)
    exact .list (.cons (.record (.gained rfl rfl) rfl (.cons hinner (.cons (.rule _) .nil))) .nil)
  have hidentity : ∀ hook, hook = unchanged → ∀ value, hook.apply value .null = .ok value := by
    intro hook hhook value
    rw [hhook]
    rfl
  obtain ⟨houtcome, hevents, -⟩ := extract_gainPosts hidentity hgain {} itemsPage
  have hok : (extract ⟨itemsWithPost none, {}⟩ itemsPage .null).outcome.map (fun _ => ()) = .ok () := by
    decide +kernel
  obtain ⟨values, hvalues, -⟩ := exists_ok_of_map hok
  refine ⟨hgain, hidentity, ⟨values, hvalues, houtcome.trans hvalues⟩, hevents, ?_⟩
  decide +kernel

end Extractor

end PageExtract
