import PageExtract.Proofs.Evaluation

/-!
# Where in a schema something is done

What a run did is a list of events, and an event does not tell for which part of the schema it was done.
`evaluatePlaced` evaluates a schema once more and notes with each event the schemas that one is in at that
point, from the outermost one to the rule or record that does it. `forget_evaluatePlaced` says that this is
the evaluation, and `leadsAlong_of_mem` that what is noted is a way through the schema.
-/

namespace PageExtract

/-- What a computation did, each event with the schemas that one is in, and how it ended. -/
structure PlacedRun (α : Type) where
  events : List (List Schema × Event)
  outcome : Except HookError α

namespace PlacedRun

variable {α β : Type}

instance : Monad PlacedRun where
  pure a := ⟨[], .ok a⟩
  bind x f :=
    match x.outcome with
    | .ok a => ⟨x.events ++ (f a).events, (f a).outcome⟩
    | .error e => ⟨x.events, .error e⟩

/-- A run in no schema. -/
def ofRun (x : Run α) : PlacedRun α := ⟨x.events.map fun event => ([], event), x.outcome⟩

/-- The same in one schema more, which is around all others. -/
def within (schema : Schema) (x : PlacedRun α) : PlacedRun α :=
  ⟨x.events.map fun entry => (schema :: entry.1, entry.2), x.outcome⟩

def each (f : α → PlacedRun β) : List α → PlacedRun (List β)
  | [] => pure []
  | a :: rest => do
    let b ← f a
    let bs ← each f rest
    return b :: bs

def eachKept (dropped : α → PlacedRun Bool) (f : α → PlacedRun β) : List α → PlacedRun (List β)
  | [] => pure []
  | a :: rest => do
    if ← dropped a then eachKept dropped f rest
    else
      let b ← f a
      let bs ← eachKept dropped f rest
      return b :: bs

def forget (x : PlacedRun α) : Run α := ⟨x.events.map Prod.snd, x.outcome⟩

/-- Everything that is done, is done as it should be where it is done. -/
def Always (p : List Schema → Event → Prop) (x : PlacedRun α) : Prop := ∀ entry ∈ x.events, p entry.1 entry.2

end PlacedRun

/-! ### Evaluation with places -/

/-- `buildAll` with places. -/
def buildAllPlaced (d : Document) (params : Json) (directives : Directives)
    (build : Context → PlacedRun RawValue) (scope : Context) : PlacedRun (List RawValue) :=
  match directives.rule with
  | some rule =>
    match directives.ignore with
    | some hook =>
      PlacedRun.eachKept (fun id => .ofRun (hook.call params (d.elementAt (.element id))))
        (fun id => build (.element id)) (d.select scope rule)
    | none => PlacedRun.each (fun id => build (.element id)) (d.select scope rule)
  | none => do return [← build scope]

def finishPlaced (params : Json) (post : Option PostProcessor) (results : List RawValue) :
    PlacedRun (List RawValue) :=
  match post with
  | some hook =>
    PlacedRun.each (fun result => do return .scalar (← .ofRun (hook.call params result.canonicalJson))) results
  | none => pure results

namespace Schema

mutual

/-- `evaluate` with places. -/
def evaluatePlaced (d : Document) (params : Json) : Schema → Context → Option Sanitizer → PlacedRun RawValue
  | .rule r, context, ambient => .within (.rule r) do
    return .matched (← PlacedRun.each (fun id => .ofRun (leaf d params ambient (.element id))) (d.select context r))
  | .list items, context, ambient => .within (.list items) do
    return .declared (← evaluatePlacedItems d params items context ambient)
  | .record directives fields, context, ambient =>
    match directives.constant with
    | some value => pure (.scalar value)
    | none => .within (.record directives fields) do
      let build (place : Context) : PlacedRun RawValue :=
        if fields.isEmpty then .ofRun (leaf d params (directives.sanitizer.or ambient) place)
        else do return .record (← evaluatePlacedFields d params fields place directives.sanitizer)
      let results ← buildAllPlaced d params directives build (scope directives context)
      return .matched (← finishPlaced params directives.post results)

def evaluatePlacedItems (d : Document) (params : Json) :
    List Schema → Context → Option Sanitizer → PlacedRun (List RawValue)
  | [], _, _ => pure []
  | item :: items, context, ambient => do
    let result ← evaluatePlaced d params item context ambient
    let results ← evaluatePlacedItems d params items context ambient
    return result :: results

def evaluatePlacedFields (d : Document) (params : Json) :
    List (String × Schema) → Context → Option Sanitizer → PlacedRun (List (String × RawValue))
  | [], _, _ => pure []
  | (name, schema) :: fields, context, ambient => do
    let result ← evaluatePlaced d params schema context ambient
    let results ← evaluatePlacedFields d params fields context ambient
    return (name, result) :: results

end

/-- A way through a schema: the schema itself, and from there on a way through an item or a field. -/
inductive LeadsAlong : Schema → List Schema → Prop where
  | here (schema : Schema) : LeadsAlong schema [schema]
  | item {items : List Schema} {item : Schema} {path : List Schema} (hitem : item ∈ items)
      (h : LeadsAlong item path) : LeadsAlong (.list items) (.list items :: path)
  | field {directives : Directives} {fields : List (String × Schema)} {field : String × Schema}
      {path : List Schema} (hfield : field ∈ fields) (h : LeadsAlong field.2 path) :
      LeadsAlong (.record directives fields) (.record directives fields :: path)

end Schema

/-! ### Forgetting the places -/

namespace PlacedRun

variable {α β : Type}

@[simp] theorem forget_pure (a : α) : (pure a : PlacedRun α).forget = pure a := rfl

@[simp] theorem forget_ofRun (x : Run α) : (ofRun x).forget = x := by
  simp [forget, ofRun, Function.comp_def]

@[simp] theorem forget_within (schema : Schema) (x : PlacedRun α) : (within schema x).forget = x.forget := by
  simp [forget, within, Function.comp_def]

@[simp] theorem forget_bind (x : PlacedRun α) (f : α → PlacedRun β) :
    (x >>= f).forget = x.forget >>= fun a => (f a).forget := by
  obtain ⟨events, outcome⟩ := x
  cases outcome with
  | error e => rfl
  | ok a =>
    rw [Run.bind_of_ok (a := a) rfl]
    exact congrArg (fun done => (⟨done, (f a).outcome⟩ : Run β)) List.map_append

@[simp] theorem forget_each (f : α → PlacedRun β) (as : List α) :
    (each f as).forget = Run.each (fun a => (f a).forget) as := by
  induction as with
  | nil => rfl
  | cons a as ih => simp only [each, Run.each, forget_bind, forget_pure, ih]

@[simp] theorem forget_eachKept (dropped : α → PlacedRun Bool) (f : α → PlacedRun β) (as : List α) :
    (eachKept dropped f as).forget = Run.eachKept (fun a => (dropped a).forget) (fun a => (f a).forget) as := by
  induction as with
  | nil => rfl
  | cons a as ih =>
    simp only [eachKept, Run.eachKept, forget_bind]
    congr 1
    funext drop
    cases drop with
    | true => exact ih
    | false => simp only [Bool.false_eq_true, if_false, forget_bind, forget_pure, ih]

end PlacedRun

namespace Schema

variable (d : Document) (params : Json)

theorem forget_buildAllPlaced (directives : Directives) {build : Context → PlacedRun RawValue}
    {build' : Context → Run RawValue} (h : ∀ place, (build place).forget = build' place) (scope : Context) :
    (buildAllPlaced d params directives build scope).forget = buildAll d params directives build' scope := by
  rw [buildAllPlaced, buildAll]
  cases directives.rule with
  | none => simp only [PlacedRun.forget_bind, PlacedRun.forget_pure, h]
  | some rule =>
    cases directives.ignore with
    | none => simp only [buildMatches, PlacedRun.forget_each, h]
    | some hook => simp only [buildMatches, PlacedRun.forget_eachKept, PlacedRun.forget_ofRun, h]

theorem forget_finishPlaced (post : Option PostProcessor) (results : List RawValue) :
    (finishPlaced params post results).forget = finish params post results := by
  cases post with
  | none => rfl
  | some hook =>
    simp only [finishPlaced, finish, PlacedRun.forget_each, PlacedRun.forget_bind, PlacedRun.forget_ofRun,
      PlacedRun.forget_pure]

theorem forget_evaluatePlacedItems {items : List Schema} {context : Context} {ambient : Option Sanitizer}
    (h : ∀ item ∈ items,
      (evaluatePlaced d params item context ambient).forget = evaluate d params item context ambient) :
    (evaluatePlacedItems d params items context ambient).forget =
      evaluateItems d params items context ambient := by
  induction items with
  | nil => rfl
  | cons item items ih =>
    obtain ⟨hitem, hitems⟩ := List.forall_mem_cons.1 h
    simp only [evaluatePlacedItems, evaluateItems, PlacedRun.forget_bind, PlacedRun.forget_pure, hitem,
      ih hitems]

theorem forget_evaluatePlacedFields {fields : List (String × Schema)} {place : Context}
    {own : Option Sanitizer}
    (h : ∀ field ∈ fields,
      (evaluatePlaced d params field.2 place own).forget = evaluate d params field.2 place own) :
    (evaluatePlacedFields d params fields place own).forget = evaluateFields d params fields place own := by
  induction fields with
  | nil => rfl
  | cons field fields ih =>
    obtain ⟨hfield, hfields⟩ := List.forall_mem_cons.1 h
    obtain ⟨name, schema⟩ := field
    simp only [evaluatePlacedFields, evaluateFields, PlacedRun.forget_bind, PlacedRun.forget_pure, hfield,
      ih hfields]

/-- Noting the places changes nothing. -/
theorem forget_evaluatePlaced (schema : Schema) (context : Context) (ambient : Option Sanitizer) :
    (evaluatePlaced d params schema context ambient).forget = evaluate d params schema context ambient := by
  induction schema using Schema.induct generalizing context ambient with
  | rule r =>
    simp only [evaluatePlaced, evaluate_rule, PlacedRun.forget_within, PlacedRun.forget_bind,
      PlacedRun.forget_each, PlacedRun.forget_ofRun, PlacedRun.forget_pure]
  | list items ih =>
    have hitems := forget_evaluatePlacedItems d params fun item hitem => ih item hitem context ambient
    simp only [evaluatePlaced, evaluate, PlacedRun.forget_within, PlacedRun.forget_bind, PlacedRun.forget_pure,
      hitems]
  | record directives fields ih =>
    cases hconstant : directives.constant with
    | some value =>
      rw [evaluatePlaced, hconstant, evaluate_constant d params hconstant]
      rfl
    | none =>
      simp only [evaluatePlaced, hconstant, evaluate_record d params hconstant, PlacedRun.forget_within,
        PlacedRun.forget_bind, PlacedRun.forget_pure, forget_finishPlaced]
      congr 1
      refine forget_buildAllPlaced d params directives (fun place => ?_) _
      have hfields := forget_evaluatePlacedFields d params fun field hfield =>
        ih field hfield place directives.sanitizer
      rw [build]
      split
      · rw [PlacedRun.forget_ofRun]
      · simp only [PlacedRun.forget_bind, PlacedRun.forget_pure, hfields, evaluateFields_eq_each]

end Schema

/-! ### What always holds -/

namespace PlacedRun

variable {α β : Type} {p : List Schema → Event → Prop}

theorem always_pure (a : α) : Always p (pure a) := nofun

theorem always_ofRun {x : Run α} (h : ∀ event ∈ x.events, p [] event) : Always p (ofRun x) :=
  List.forall_mem_map.2 h

theorem always_within {schema : Schema} {x : PlacedRun α}
    (h : Always (fun path event => p (schema :: path) event) x) : Always p (within schema x) :=
  List.forall_mem_map.2 h

theorem always_bind {x : PlacedRun α} {f : α → PlacedRun β} (h : Always p x) (hrest : ∀ a, Always p (f a)) :
    Always p (x >>= f) := by
  obtain ⟨events, outcome⟩ := x
  cases outcome with
  | error e => exact h
  | ok a => exact List.forall_mem_append.2 ⟨h, hrest a⟩

theorem always_each {f : α → PlacedRun β} {as : List α} (h : ∀ a ∈ as, Always p (f a)) :
    Always p (each f as) := by
  induction as with
  | nil => exact always_pure _
  | cons a as ih =>
    obtain ⟨ha, has⟩ := List.forall_mem_cons.1 h
    exact always_bind ha fun b => always_bind (ih has) fun bs => always_pure _

theorem always_eachKept {dropped : α → PlacedRun Bool} {f : α → PlacedRun β} {as : List α}
    (hdropped : ∀ a ∈ as, Always p (dropped a)) (h : ∀ a ∈ as, Always p (f a)) :
    Always p (eachKept dropped f as) := by
  induction as with
  | nil => exact always_pure _
  | cons a as ih =>
    obtain ⟨hdropped, hdroppeds⟩ := List.forall_mem_cons.1 hdropped
    obtain ⟨ha, has⟩ := List.forall_mem_cons.1 h
    refine always_bind hdropped fun drop => ?_
    cases drop with
    | true => exact ih hdroppeds has
    | false => exact always_bind ha fun b => always_bind (ih hdroppeds has) fun bs => always_pure _

end PlacedRun

/-- The element whose text is read, or on which a sanitizer or an ignore filter is called. -/
def Event.element? : Event → Option PageElement
  | .text element => some element
  | .sanitizer _ element => some element
  | .ignore _ element => some element
  | .post _ _ => none

/-- A record has an instance, or asks for one, in a place: that of a match of its rule, or its scope. -/
inductive Directives.IsPlace (d : Document) (directives : Directives) (scope : Context) : Context → Prop where
  | scope (hrule : directives.rule = none) : IsPlace d directives scope scope
  | found {rule : Rule} {id : Markup.NodeId} (hrule : directives.rule = some rule)
      (hid : id ∈ d.select scope rule) : IsPlace d directives scope (.element id)

namespace Schema

variable {d : Document} {params : Json} {p : List Schema → Event → Prop}

theorem always_leaf {place : Context} {sanitizer : Option Sanitizer}
    (h : ∀ event : Event, event.element? = some (d.elementAt place) → p [] event) :
    PlacedRun.Always p (.ofRun (leaf d params sanitizer place)) := by
  cases sanitizer with
  | none => exact PlacedRun.always_ofRun (List.forall_mem_singleton.2 (h _ rfl))
  | some hook =>
    refine PlacedRun.always_ofRun ?_
    have hcall : (leaf d params (some hook) place).events = [.sanitizer hook.name (d.elementAt place)] := by
      simp only [leaf, Sanitizer.call, Run.one]
      cases hook.apply (d.elementAt place) params <;> rfl
    rw [hcall]
    exact List.forall_mem_singleton.2 (h _ rfl)

theorem always_buildAllPlaced {directives : Directives} {build : Context → PlacedRun RawValue} {scope : Context}
    (hfilter : ∀ place, directives.IsPlace d scope place →
      ∀ event : Event, event.element? = some (d.elementAt place) → p [] event)
    (hbuild : ∀ place, directives.IsPlace d scope place → PlacedRun.Always p (build place)) :
    PlacedRun.Always p (buildAllPlaced d params directives build scope) := by
  rw [buildAllPlaced]
  cases hrule : directives.rule with
  | none => exact PlacedRun.always_bind (hbuild _ (.scope hrule)) fun result => PlacedRun.always_pure _
  | some rule =>
    have hfound : ∀ id ∈ d.select scope rule, PlacedRun.Always p (build (.element id)) :=
      fun id hid => hbuild _ (.found hrule hid)
    cases directives.ignore with
    | none => exact PlacedRun.always_each hfound
    | some hook =>
      refine PlacedRun.always_eachKept (fun id hid => ?_) hfound
      exact PlacedRun.always_ofRun (List.forall_mem_singleton.2 (hfilter _ (.found hrule hid) _ rfl))

theorem always_finishPlaced (post : Option PostProcessor) (results : List RawValue)
    (h : ∀ event : Event, event.element? = none → p [] event) :
    PlacedRun.Always p (finishPlaced params post results) := by
  cases post with
  | none => exact PlacedRun.always_pure _
  | some hook =>
    refine PlacedRun.always_each fun result _ => PlacedRun.always_bind ?_ fun value => PlacedRun.always_pure _
    exact PlacedRun.always_ofRun (List.forall_mem_singleton.2 (h _ rfl))

theorem always_evaluatePlacedItems {items : List Schema} {context : Context} {ambient : Option Sanitizer}
    (h : ∀ item ∈ items, PlacedRun.Always p (evaluatePlaced d params item context ambient)) :
    PlacedRun.Always p (evaluatePlacedItems d params items context ambient) := by
  induction items with
  | nil => exact PlacedRun.always_pure _
  | cons item items ih =>
    obtain ⟨hitem, hitems⟩ := List.forall_mem_cons.1 h
    exact PlacedRun.always_bind hitem fun raw => PlacedRun.always_bind (ih hitems) fun raws =>
      PlacedRun.always_pure _

theorem always_evaluatePlacedFields {fields : List (String × Schema)} {place : Context}
    {own : Option Sanitizer}
    (h : ∀ field ∈ fields, PlacedRun.Always p (evaluatePlaced d params field.2 place own)) :
    PlacedRun.Always p (evaluatePlacedFields d params fields place own) := by
  induction fields with
  | nil => exact PlacedRun.always_pure _
  | cons field fields ih =>
    obtain ⟨hfield, hfields⟩ := List.forall_mem_cons.1 h
    exact PlacedRun.always_bind hfield fun raw => PlacedRun.always_bind (ih hfields) fun raws =>
      PlacedRun.always_pure _

theorem always_rule {r : Rule} {context : Context} (ambient : Option Sanitizer)
    (h : ∀ id ∈ d.select context r, ∀ event : Event,
      event.element? = some (d.elementAt (.element id)) → p [.rule r] event) :
    PlacedRun.Always p (evaluatePlaced d params (.rule r) context ambient) := by
  rw [evaluatePlaced]
  refine PlacedRun.always_within (PlacedRun.always_bind (PlacedRun.always_each fun id hid => ?_) fun raws =>
    PlacedRun.always_pure _)
  exact always_leaf (h id hid)

theorem always_list {items : List Schema} {context : Context} {ambient : Option Sanitizer}
    (h : ∀ item ∈ items, PlacedRun.Always (fun path event => p (.list items :: path) event)
      (evaluatePlaced d params item context ambient)) :
    PlacedRun.Always p (evaluatePlaced d params (.list items) context ambient) := by
  rw [evaluatePlaced]
  exact PlacedRun.always_within (PlacedRun.always_bind (always_evaluatePlacedItems h) fun raws =>
    PlacedRun.always_pure _)

/-- What a record does is done to the elements of its places, or to none, or by its fields there. -/
theorem always_record {directives : Directives} {fields : List (String × Schema)} {context : Context}
    (ambient : Option Sanitizer)
    (hpost : ∀ event : Event, event.element? = none → p [.record directives fields] event)
    (hself : ∀ place, directives.IsPlace d (scope directives context) place → ∀ event : Event,
      event.element? = some (d.elementAt place) → p [.record directives fields] event)
    (hfields : ∀ place, directives.IsPlace d (scope directives context) place →
      ∀ field ∈ fields, ∀ own, PlacedRun.Always (fun path event => p (.record directives fields :: path) event)
        (evaluatePlaced d params field.2 place own)) :
    PlacedRun.Always p (evaluatePlaced d params (.record directives fields) context ambient) := by
  rw [evaluatePlaced]
  cases directives.constant with
  | some value => exact PlacedRun.always_pure _
  | none =>
    refine PlacedRun.always_within (PlacedRun.always_bind (always_buildAllPlaced hself fun place hplace => ?_)
      fun results => PlacedRun.always_bind (always_finishPlaced _ _ hpost) fun finished =>
        PlacedRun.always_pure _)
    split
    · exact always_leaf (hself place hplace)
    · exact PlacedRun.always_bind (always_evaluatePlacedFields fun field hfield =>
        hfields place hplace field hfield _) fun entries => PlacedRun.always_pure _

theorem leadsAlong_of_mem (schema : Schema) (context : Context) (ambient : Option Sanitizer) :
    PlacedRun.Always (fun path _ => schema.LeadsAlong path)
      (evaluatePlaced d params schema context ambient) := by
  induction schema using Schema.induct generalizing context ambient with
  | rule r => exact always_rule ambient fun _ _ _ _ => .here _
  | list items ih =>
    refine always_list fun item hitem => ?_
    exact fun entry hentry => .item hitem (ih item hitem context ambient entry hentry)
  | record directives fields ih =>
    refine always_record ambient (fun _ _ => .here _) (fun _ _ _ _ => .here _) ?_
    intro place hplace field hfield own entry hentry
    exact .field hfield (ih field hfield place own entry hentry)

end Schema

end PageExtract
