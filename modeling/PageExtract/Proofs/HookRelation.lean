import PageExtract.Proofs.Evaluation
import PageExtract.Proofs.Keyed

/-!
# Schemas that differ in their hooks only

Evaluation does nothing with a hook but call it. So whatever the calls of the hooks of two schemas have to
do with each other, the two evaluations have to do with each other as well, provided that this is kept when
runs are put one behind the other. `Schema.Alike.evaluate` says this once for all such relations of runs;
what one run says about its own hooks is the case of a schema and itself.
-/

namespace PageExtract

/-- A relation of runs that is kept when runs are put one behind the other. -/
structure Run.Relation where
  holds : {α : Type} → Run α → Run α → Prop
  pure {α : Type} (a : α) : holds (pure a) (pure a)
  text {α : Type} (element : PageElement) (a : α) :
    holds (Run.one (.text element) (.ok a)) (Run.one (.text element) (.ok a))
  bind {α β : Type} {x y : Run α} {f g : α → Run β} (h : holds x y) (hrest : ∀ a, holds (f a) (g a)) :
    holds (x >>= f) (y >>= g)

namespace Run.Relation

variable {α β γ : Type} (ρ : Run.Relation)

theorem each {f : α → Run γ} {g : β → Run γ} {as : List α} {bs : List β}
    (h : List.Forall₂ (fun a b => ρ.holds (f a) (g b)) as bs) :
    ρ.holds (Run.each f as) (Run.each g bs) := by
  induction h with
  | nil => exact ρ.pure []
  | cons hab _ ih => exact ρ.bind hab fun c => ρ.bind ih fun cs => ρ.pure (c :: cs)

theorem eachKept {dropped dropped' : α → Run Bool} {f g : α → Run β} (as : List α)
    (hdropped : ∀ a, ρ.holds (dropped a) (dropped' a)) (h : ∀ a, ρ.holds (f a) (g a)) :
    ρ.holds (Run.eachKept dropped f as) (Run.eachKept dropped' g as) := by
  induction as with
  | nil => exact ρ.pure []
  | cons a as ih =>
    refine ρ.bind (hdropped a) fun drop => ?_
    cases drop with
    | true => exact ih
    | false => exact ρ.bind (h a) fun b => ρ.bind ih fun bs => ρ.pure (b :: bs)

end Run.Relation

/-- A relation of hooks, for each kind. -/
structure HookRelation where
  sanitizer : Sanitizer → Sanitizer → Prop
  post : PostProcessor → PostProcessor → Prop
  ignore : IgnoreFilter → IgnoreFilter → Prop

/-- The calls of related hooks are related runs. -/
structure HookRelation.Lifts (r : HookRelation) (ρ : Run.Relation) (params params' : Json) : Prop where
  sanitizer {hook other : Sanitizer} (h : r.sanitizer hook other) (element : PageElement) :
    ρ.holds (hook.call params element) (other.call params' element)
  post {hook other : PostProcessor} (h : r.post hook other) (value : Json) :
    ρ.holds (hook.call params value) (other.call params' value)
  ignore {hook other : IgnoreFilter} (h : r.ignore hook other) (element : PageElement) :
    ρ.holds (hook.call params element) (other.call params' element)

/-- Directives that differ in their hooks only, and in those as the relation says. -/
structure Directives.Alike (r : HookRelation) (directives others : Directives) : Prop where
  rule : others.rule = directives.rule
  topLevel : others.topLevel = directives.topLevel
  constant : others.constant = directives.constant
  sanitizer : Option.Rel r.sanitizer directives.sanitizer others.sanitizer
  post : Option.Rel r.post directives.post others.post
  ignore : Option.Rel r.ignore directives.ignore others.ignore

/-- Schemas that differ in their hooks only, and in those as the relation says. -/
inductive Schema.Alike (r : HookRelation) : Schema → Schema → Prop where
  | rule (rule : Rule) : Alike r (.rule rule) (.rule rule)
  | list {items others : List Schema} (hitems : List.Forall₂ (Alike r) items others) :
      Alike r (.list items) (.list others)
  | record {directives directives' : Directives} {fields fields' : List (String × Schema)}
      (hdirectives : directives.Alike r directives')
      (hnames : fields'.map Prod.fst = fields.map Prod.fst)
      (hfields : List.Forall₂ (Alike r) (fields.map Prod.snd) (fields'.map Prod.snd)) :
      Alike r (.record directives fields) (.record directives' fields')

namespace Schema

variable {r : HookRelation} {ρ : Run.Relation} {params params' : Json} {d : Document}

theorem leaf_alike (hr : r.Lifts ρ params params') {hook other : Option Sanitizer}
    (h : Option.Rel r.sanitizer hook other) (place : Context) :
    ρ.holds (leaf d params hook place) (leaf d params' other place) := by
  cases h with
  | none => exact ρ.text _ _
  | some h => exact ρ.bind (hr.sanitizer h _) fun value => ρ.pure _

theorem buildMatches_alike (hr : r.Lifts ρ params params') {ignore ignore' : Option IgnoreFilter}
    (h : Option.Rel r.ignore ignore ignore') {build build' : Context → Run RawValue}
    (hbuild : ∀ place, ρ.holds (build place) (build' place)) (found : List Markup.NodeId) :
    ρ.holds (buildMatches d params ignore build found) (buildMatches d params' ignore' build' found) := by
  cases h with
  | none => exact ρ.each (List.forall₂_same.2 fun id _ => hbuild _)
  | some h => exact ρ.eachKept found (fun id => hr.ignore h _) fun id => hbuild _

theorem buildAll_alike (hr : r.Lifts ρ params params') {directives directives' : Directives}
    (h : directives.Alike r directives') {build build' : Context → Run RawValue}
    (hbuild : ∀ place, ρ.holds (build place) (build' place)) (scope : Context) :
    ρ.holds (buildAll d params directives build scope) (buildAll d params' directives' build' scope) := by
  rw [buildAll, buildAll, h.rule]
  cases directives.rule with
  | none => exact ρ.bind (hbuild scope) fun result => ρ.pure [result]
  | some rule => exact buildMatches_alike hr h.ignore hbuild _

theorem finish_alike (hr : r.Lifts ρ params params') {post post' : Option PostProcessor}
    (h : Option.Rel r.post post post') (results : List RawValue) :
    ρ.holds (finish params post results) (finish params' post' results) := by
  cases h with
  | none => exact ρ.pure results
  | some h =>
    exact ρ.each (List.forall₂_same.2 fun result _ => ρ.bind (hr.post h _) fun value => ρ.pure _)

theorem option_rel_or {α β : Type} {s : α → β → Prop} {a a' : Option α} {b b' : Option β}
    (h : Option.Rel s a b) (h' : Option.Rel s a' b') : Option.Rel s (a.or a') (b.or b') := by
  cases h with
  | none => exact h'
  | some h => exact .some h

/-- Related schemas below two records, under related sanitizers, make their instances related. -/
theorem build_alike (hr : r.Lifts ρ params params') {directives directives' : Directives}
    (h : directives.Alike r directives') {fields fields' : List (String × Schema)}
    (hfields : List.Forall₂ (fun field field' => field'.1 = field.1 ∧
      ∀ place own own', Option.Rel r.sanitizer own own' →
        ρ.holds (evaluate d params field.2 place own) (evaluate d params' field'.2 place own')) fields fields')
    {ambient ambient' : Option Sanitizer} (hambient : Option.Rel r.sanitizer ambient ambient')
    (place : Context) :
    ρ.holds (build d params directives fields ambient place)
      (build d params' directives' fields' ambient' place) := by
  have hempty : fields'.isEmpty = fields.isEmpty := by
    cases hfields <;> rfl
  rw [build, build, hempty]
  split
  · exact leaf_alike hr (option_rel_or h.sanitizer hambient) place
  · refine ρ.bind (ρ.each (hfields.imp ?_)) fun entries => ρ.pure _
    rintro field field' ⟨hname, hfield⟩
    rw [evaluateField, evaluateField, hname]
    exact ρ.bind (hfield place _ _ h.sanitizer) fun raw => ρ.pure _

theorem Alike.evaluate_record (hr : r.Lifts ρ params params') {directives directives' : Directives}
    (h : directives.Alike r directives') {fields fields' : List (String × Schema)}
    (hfields : List.Forall₂ (fun field field' => field'.1 = field.1 ∧
      ∀ place own own', Option.Rel r.sanitizer own own' →
        ρ.holds (evaluate d params field.2 place own) (evaluate d params' field'.2 place own')) fields fields')
    {ambient ambient' : Option Sanitizer} (hambient : Option.Rel r.sanitizer ambient ambient')
    (context : Context) :
    ρ.holds (evaluate d params (.record directives fields) context ambient)
      (evaluate d params' (.record directives' fields') context ambient') := by
  cases hconstant : directives.constant with
  | some value =>
    rw [evaluate_constant d params hconstant, evaluate_constant d params' (h.constant.trans hconstant)]
    exact ρ.pure _
  | none =>
    have hscope : scope directives' context = scope directives context := by
      rw [scope, scope, h.topLevel]
    rw [Schema.evaluate_record d params hconstant,
      Schema.evaluate_record d params' (h.constant.trans hconstant), hscope]
    refine ρ.bind (buildAll_alike hr h (build_alike hr h hfields hambient) _) fun results => ?_
    exact ρ.bind (finish_alike hr h.post results) fun finished => ρ.pure _

/-- **Schemas with related hooks are evaluated in related runs.** -/
theorem Alike.evaluate (hr : r.Lifts ρ params params') {schema other : Schema} (h : schema.Alike r other)
    (context : Context) {ambient ambient' : Option Sanitizer}
    (hambient : Option.Rel r.sanitizer ambient ambient') :
    ρ.holds (evaluate d params schema context ambient) (evaluate d params' other context ambient') := by
  induction schema using Schema.induct generalizing other context ambient ambient' with
  | rule rule =>
    cases h
    rw [evaluate_rule, evaluate_rule]
    refine ρ.bind (ρ.each (List.forall₂_same.2 fun id _ => ?_)) fun results => ρ.pure _
    exact leaf_alike hr hambient _
  | list items ih =>
    cases h with
    | list hitems =>
      rw [evaluate_list, evaluate_list]
      refine ρ.bind (ρ.each ?_) fun results => ρ.pure _
      refine ((List.forall₂_and_left _ _).2 ⟨fun item hitem => @ih item hitem, hitems⟩).imp ?_
      exact fun item other hitem => hitem.1 hitem.2 context hambient
  | record directives fields ih =>
    cases h with
    | record hdirectives hnames hfields =>
      refine Alike.evaluate_record hr hdirectives ?_ hambient context
      have hboth := (List.forall₂_and_left _ _).2 ⟨fun field hfield => @ih field hfield,
        Keyed.forall₂_entries hnames hfields⟩
      exact hboth.imp fun field field' hfield =>
        ⟨hfield.2.1, fun place own own' hown => hfield.1 hfield.2.2 place hown⟩

end Schema

end PageExtract
