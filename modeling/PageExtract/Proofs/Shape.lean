import PageExtract.Proofs.Evaluation
import PageExtract.Proofs.RawValue
import PageExtract.Hook.Registry

/-!
# The shape of results

A schema says what its result looks like, whatever page it is used on. `HasShape` reads this off the
schema in one go: no raw results, no marks for lists that must not collapse, no insertion into maps.
What evaluation gives, made canonical and turned into JSON, always has that shape.
-/

namespace PageExtract

/-- The value of a place: what the sanitizer in force makes of its element, or else its text. -/
def IsLeaf (d : Document) (params : Json) (sanitizer : Option Sanitizer) (place : Context)
    (value : Json) : Prop :=
  match sanitizer with
  | some hook => hook.apply (d.elementAt place) params = .ok value
  | none => value = .string (d.text place)

/-- A value and what the post-processor, if there is one, makes of it. -/
def IsFinished (params : Json) (post : Option PostProcessor) (value finished : Json) : Prop :=
  match post with
  | some hook => hook.apply value params = .ok finished
  | none => finished = value

/-- Whether the ignore filter of a record, if there is one, keeps an element. -/
def Directives.keeps (directives : Directives) (d : Document) (params : Json) (id : Markup.NodeId) : Bool :=
  match directives.ignore with
  | some hook =>
    match hook.apply (d.elementAt (.element id)) params with
    | .ok ignored => !ignored
    | .error _ => false
  | none => true

theorem Directives.keeps_of_call {directives : Directives} {hook : IgnoreFilter}
    (hignore : directives.ignore = some hook) {d : Document} {params : Json} {id : Markup.NodeId} {ignored : Bool}
    (h : (hook.call params (d.elementAt (.element id))).outcome = .ok ignored) :
    directives.keeps d params id = !ignored := by
  have happly : hook.apply (d.elementAt (.element id)) params = .ok ignored := h
  simp only [keeps, hignore, happly]

namespace Schema

/-- The places of which a record has an instance: the matches of its rule that are kept, in order, or
where it is evaluated if it has no rule. -/
def places (d : Document) (params : Json) (directives : Directives) (context : Context) : List Context :=
  match directives.rule with
  | some r => ((d.select (scope directives context) r).filter (directives.keeps d params)).map .element
  | none => [scope directives context]

mutual

/-- A value has the shape that a schema prescribes in a context, under the sanitizer in force. -/
def HasShape (d : Document) (params : Json) : Schema → Context → Option Sanitizer → Json → Prop
  | .rule r, context, ambient, value =>
    ∃ leaves, value = .gather leaves ∧
      List.Forall₂ (fun id leaf => IsLeaf d params ambient (.element id) leaf) (d.select context r) leaves
  | .list items, context, ambient, value =>
    ∃ values, value = .array values ∧ ItemsHaveShape d params items context ambient values
  | .record directives fields, context, ambient, value =>
    match directives.constant with
    | some constant => value = constant
    | none => ∃ finished, value = .gather finished ∧
        List.Forall₂ (fun place value => ∃ built,
            (if fields.isEmpty then IsLeaf d params (directives.sanitizer.or ambient) place built
              else ∃ entries, built = .object entries ∧
                FieldsHaveShape d params fields place directives.sanitizer entries) ∧
            IsFinished params directives.post built value)
          (places d params directives context) finished

def ItemsHaveShape (d : Document) (params : Json) :
    List Schema → Context → Option Sanitizer → List Json → Prop
  | [], _, _, values => values = []
  | item :: items, context, ambient, values =>
    ∃ value rest, values = value :: rest ∧ HasShape d params item context ambient value ∧
      ItemsHaveShape d params items context ambient rest

def FieldsHaveShape (d : Document) (params : Json) :
    List (String × Schema) → Context → Option Sanitizer → List (String × Json) → Prop
  | [], _, _, entries => entries = []
  | (name, schema) :: fields, place, own, entries =>
    ∃ value rest, entries = (name, value) :: rest ∧ HasShape d params schema place own value ∧
      FieldsHaveShape d params fields place own rest

end

/-- The fields of every record, at every depth, have different names. -/
inductive DistinctNames : Schema → Prop where
  | rule (r : Rule) : DistinctNames (.rule r)
  | list {items : List Schema} (hitems : ∀ item ∈ items, DistinctNames item) : DistinctNames (.list items)
  | record (directives : Directives) {fields : List (String × Schema)} (hnames : (fields.map Prod.fst).Nodup)
      (hfields : ∀ field ∈ fields, DistinctNames field.2) : DistinctNames (.record directives fields)

variable {d : Document} {params : Json}

theorem itemsHaveShape_iff {items : List Schema} {context : Context} {ambient : Option Sanitizer}
    {values : List Json} :
    ItemsHaveShape d params items context ambient values ↔
      List.Forall₂ (fun item value => HasShape d params item context ambient value) items values := by
  induction items generalizing values with
  | nil => rw [ItemsHaveShape, List.forall₂_nil_left_iff]
  | cons item items ih =>
    simp only [ItemsHaveShape, List.forall₂_cons_left_iff, ih]
    constructor
    · rintro ⟨value, rest, rfl, hvalue, hrest⟩
      exact ⟨value, rest, hvalue, hrest, rfl⟩
    · rintro ⟨value, rest, hvalue, hrest, rfl⟩
      exact ⟨value, rest, rfl, hvalue, hrest⟩

theorem fieldsHaveShape_iff {fields : List (String × Schema)} {place : Context} {own : Option Sanitizer}
    {entries : List (String × Json)} :
    FieldsHaveShape d params fields place own entries ↔
      List.Forall₂ (fun field entry => entry.1 = field.1 ∧ HasShape d params field.2 place own entry.2)
        fields entries := by
  induction fields generalizing entries with
  | nil => rw [FieldsHaveShape, List.forall₂_nil_left_iff]
  | cons field fields ih =>
    simp only [FieldsHaveShape, List.forall₂_cons_left_iff, ih]
    constructor
    · rintro ⟨value, rest, rfl, hvalue, hrest⟩
      exact ⟨_, rest, ⟨rfl, hvalue⟩, hrest, rfl⟩
    · rintro ⟨⟨_, value⟩, rest, ⟨rfl, hvalue⟩, hrest, rfl⟩
      exact ⟨value, rest, rfl, hvalue, hrest⟩

/-! ### Runs that end well -/

theorem isLeaf_of_leaf {sanitizer : Option Sanitizer} {place : Context} {raw : RawValue}
    (h : (leaf d params sanitizer place).outcome = .ok raw) :
    IsLeaf d params sanitizer place raw.canonicalJson := by
  cases sanitizer with
  | none =>
    obtain rfl : RawValue.scalar (.string (d.text place)) = raw := Except.ok.inj h
    exact RawValue.canonicalJson_scalar _
  | some hook =>
    obtain ⟨value, hvalue, hraw⟩ := Run.bind_outcome_eq_ok_iff.1 h
    obtain rfl : RawValue.scalar value = raw := Except.ok.inj hraw
    rw [RawValue.canonicalJson_scalar]
    exact hvalue

theorem isFinished_of_finish {post : Option PostProcessor} {results finished : List RawValue}
    (h : (finish params post results).outcome = .ok finished) :
    List.Forall₂ (fun result raw => IsFinished params post result.canonicalJson raw.canonicalJson)
      results finished := by
  cases post with
  | none =>
    obtain rfl : results = finished := Except.ok.inj h
    exact List.forall₂_same.2 fun _ _ => rfl
  | some hook =>
    refine Run.forall₂_of_each h fun result _ raw hraw => ?_
    obtain ⟨value, hvalue, hraw⟩ := Run.bind_outcome_eq_ok_iff.1 hraw
    obtain rfl : RawValue.scalar value = raw := Except.ok.inj hraw
    rw [RawValue.canonicalJson_scalar]
    exact hvalue

theorem forall₂_of_buildAll {directives : Directives} {context : Context} {build : Context → Run RawValue}
    {results : List RawValue}
    (h : (buildAll d params directives build (scope directives context)).outcome = .ok results) :
    List.Forall₂ (fun place result => (build place).outcome = .ok result)
      (places d params directives context) results := by
  rw [buildAll] at h
  rw [places]
  cases hrule : directives.rule with
  | none =>
    rw [hrule] at h
    obtain ⟨result, hresult, h⟩ := Run.bind_outcome_eq_ok_iff.1 h
    obtain rfl : [result] = results := Except.ok.inj h
    exact .cons hresult .nil
  | some r =>
    rw [hrule] at h
    simp only [buildMatches] at h
    rw [List.forall₂_map_left_iff]
    cases hignore : directives.ignore with
    | none =>
      rw [hignore] at h
      rw [List.filter_eq_self.2 fun id _ => by rw [Directives.keeps, hignore]]
      exact Run.each_outcome_eq_ok_iff.1 h
    | some hook =>
      rw [hignore] at h
      exact Run.forall₂_of_eachKept (fun id ignored => Directives.keeps_of_call hignore) h

/-! ### Evaluation gives the shape -/

theorem forall₂_comp {α β γ : Type} {r : α → β → Prop} {s : β → γ → Prop}
    {as : List α} {bs : List β} {cs : List γ}
    (hr : List.Forall₂ r as bs) (hs : List.Forall₂ s bs cs) :
    List.Forall₂ (fun a c => ∃ b, r a b ∧ s b c) as cs := by
  induction hr generalizing cs with
  | nil =>
    cases hs
    exact .nil
  | cons hab _ ih =>
    cases hs with
    | cons hbc hrest => exact .cons ⟨_, hab, hbc⟩ (ih hrest)

theorem fieldsHaveShape_of_each {fields : List (String × Schema)} {place : Context} {own : Option Sanitizer}
    {entries : List (String × RawValue)}
    (ih : ∀ field ∈ fields, ∀ raw, (evaluate d params field.2 place own).outcome = .ok raw →
      HasShape d params field.2 place own raw.canonicalJson)
    (h : (Run.each (evaluateField d params place own) fields).outcome = .ok entries) :
    FieldsHaveShape d params fields place own
      (entries.map fun entry => (entry.1, entry.2.canonicalJson)) := by
  rw [fieldsHaveShape_iff, List.forall₂_map_right_iff]
  refine Run.forall₂_of_each h fun field hfield entry hentry => ?_
  obtain ⟨hname, hraw⟩ := (evaluateField_outcome_eq_ok_iff d params).1 hentry
  exact ⟨hname, ih field hfield entry.2 hraw⟩

/-- An instance of a record is a value of its place if there are no fields, and otherwise an object with
the names of the fields in order, also in JSON. -/
theorem hasShape_of_build {directives : Directives} {fields : List (String × Schema)}
    {ambient : Option Sanitizer} {place : Context} {raw : RawValue}
    (hnames : (fields.map Prod.fst).Nodup)
    (ih : ∀ field ∈ fields, ∀ raw,
      (evaluate d params field.2 place directives.sanitizer).outcome = .ok raw →
      HasShape d params field.2 place directives.sanitizer raw.canonicalJson)
    (h : (build d params directives fields ambient place).outcome = .ok raw) :
    if fields.isEmpty then IsLeaf d params (directives.sanitizer.or ambient) place raw.canonicalJson
    else ∃ entries, raw.canonicalJson = .object entries ∧
      FieldsHaveShape d params fields place directives.sanitizer entries := by
  rw [build] at h
  split at h
  next hfields =>
    rw [if_pos hfields]
    exact isLeaf_of_leaf h
  next hfields =>
    rw [if_neg hfields]
    obtain ⟨entries, hentries, hraw⟩ := Run.bind_outcome_eq_ok_iff.1 h
    obtain rfl : RawValue.record entries = raw := Except.ok.inj hraw
    have hkeys := map_fst_of_each_evaluateField d params hentries
    exact ⟨_, RawValue.canonicalJson_record (hkeys ▸ hnames), fieldsHaveShape_of_each ih hentries⟩

/-- **Results have the shape that their schema prescribes.** -/
theorem hasShape_of_evaluate {schema : Schema} (hnames : schema.DistinctNames) {context : Context}
    {ambient : Option Sanitizer} {raw : RawValue}
    (h : (evaluate d params schema context ambient).outcome = .ok raw) :
    HasShape d params schema context ambient raw.canonicalJson := by
  induction schema using Schema.induct generalizing context ambient raw with
  | rule r =>
    rw [evaluate_rule] at h
    obtain ⟨results, hresults, hraw⟩ := Run.bind_outcome_eq_ok_iff.1 h
    obtain rfl : RawValue.matched results = raw := Except.ok.inj hraw
    rw [HasShape]
    refine ⟨_, RawValue.canonicalJson_matched results, ?_⟩
    rw [List.forall₂_map_right_iff]
    exact Run.forall₂_of_each hresults fun id _ result hresult => isLeaf_of_leaf hresult
  | list items ih =>
    cases hnames with
    | list hitems =>
      rw [evaluate_list] at h
      obtain ⟨results, hresults, hraw⟩ := Run.bind_outcome_eq_ok_iff.1 h
      obtain rfl : RawValue.declared results = raw := Except.ok.inj hraw
      rw [HasShape]
      refine ⟨_, RawValue.canonicalJson_declared results, ?_⟩
      rw [itemsHaveShape_iff, List.forall₂_map_right_iff]
      refine Run.forall₂_of_each hresults fun item hitem result hresult => ?_
      exact ih item hitem (hitems item hitem) hresult
  | record directives fields ih =>
    cases hnames with
    | record _ hdistinct hfields =>
      rw [HasShape]
      cases hconstant : directives.constant with
      | some constant =>
        rw [evaluate_constant d params hconstant] at h
        obtain rfl : RawValue.scalar constant = raw := Except.ok.inj h
        exact RawValue.canonicalJson_scalar constant
      | none =>
        rw [evaluate_record d params hconstant] at h
        obtain ⟨results, hresults, h⟩ := Run.bind_outcome_eq_ok_iff.1 h
        obtain ⟨finished, hfinished, hraw⟩ := Run.bind_outcome_eq_ok_iff.1 h
        obtain rfl : RawValue.matched finished = raw := Except.ok.inj hraw
        refine ⟨_, RawValue.canonicalJson_matched finished, ?_⟩
        rw [List.forall₂_map_right_iff]
        refine (forall₂_comp (forall₂_of_buildAll hresults) (isFinished_of_finish hfinished)).imp ?_
        rintro place value ⟨result, hresult, hvalue⟩
        refine ⟨result.canonicalJson, hasShape_of_build hdistinct ?_ hresult, hvalue⟩
        exact fun field hfield raw hraw => ih field hfield (hfields field hfield) hraw

theorem exists_ok_of_map {α β : Type} {outcome : Except HookError α} {f : α → β} {b : β}
    (h : outcome.map f = .ok b) : ∃ a, outcome = .ok a ∧ f a = b := by
  cases outcome with
  | error e => cases h
  | ok a => exact ⟨a, rfl, Except.ok.inj h⟩

/-! One element of two is kept, its rule has one match and none, and a list is declared around each. -/

/-- A page of two list items, the second of them blank. -/
def itemsPage : Document := Document.parse "<li><b>1</b><li>" {}

def named (name : String) : Rule := ⟨name, [.mk [.named name name] []]⟩

/-- The items that are not blank, with a list of their `b` elements and their `i` elements. -/
def itemsSchema : Schema :=
  .list [.record { rule := some (named "li"), ignore := some .blank }
    [("all", .list [.rule (named "b")]), ("none", .rule (named "i"))]]

def itemsResult : Json := .array [.object [("all", .array [.string "1"]), ("none", .array [])]]

theorem hasShape_items :
    itemsSchema.DistinctNames ∧
      ∃ raw, (evaluate itemsPage .null itemsSchema .document none).outcome = .ok raw ∧
        raw.canonicalJson.sameValue itemsResult = true ∧
        HasShape itemsPage .null itemsSchema .document none raw.canonicalJson := by
  have hnames : itemsSchema.DistinctNames := by
    refine .list (List.forall_mem_singleton.2 (.record _ (by decide) ?_))
    refine List.forall_mem_cons.2 ⟨.list (List.forall_mem_singleton.2 (.rule _)), ?_⟩
    exact List.forall_mem_singleton.2 (.rule _)
  have hsame : (evaluate itemsPage .null itemsSchema .document none).outcome.map
      (·.canonicalJson.sameValue itemsResult) = .ok true := by
    decide +kernel
  obtain ⟨raw, hrun, hraw⟩ := exists_ok_of_map hsame
  exact ⟨hnames, raw, hrun, hraw, hasShape_of_evaluate hnames hrun⟩

end Schema

end PageExtract
