import PageExtract.Proofs.Collapse
import PageExtract.Proofs.Loading

/-!
# Where raw results come from

A raw result tells by its form which kind of schema it comes from. Only a constant is a scalar as a whole;
what a declared list gives has one tree for each of its items, and is marked as structural if there is one;
what is selected is a list of scalars or of records and never marked, even if it has one item. `StemsFrom`
says this for one step, and leaves open what is given by the schemas below and what becomes of the list of a
selection. So it also tells where canonical forms come from: there a selection with one result is the result.

A mark is therefore found on lists of one item only, also after lists have collapsed and what was selected
stands where a list stood.
-/

namespace PageExtract

namespace RawValue

/-- Every structural list, at every depth, has exactly one item. -/
inductive SoundFlags : RawValue → Prop where
  | list {items : List RawValue} {structural : Bool} (h : structural = true → items.length = 1)
      (hitems : ∀ item ∈ items, SoundFlags item) : SoundFlags (.list items structural)
  | record {entries : List (String × RawValue)} (hentries : ∀ entry ∈ entries, SoundFlags entry.2) :
      SoundFlags (.record entries)
  | scalar (value : Json) : SoundFlags (.scalar value)

theorem SoundFlags.matched {results : List RawValue} (h : ∀ result ∈ results, SoundFlags result) :
    SoundFlags (matched results) :=
  .list nofun h

theorem SoundFlags.canonicalize {raw : RawValue} (h : raw.SoundFlags) : raw.canonicalize.SoundFlags := by
  induction raw using RawValue.induct with
  | list items structural ih =>
    cases h with
    | list hlength hitems =>
      by_cases hcollapses : Collapses items structural
      · obtain ⟨item, rfl, rfl⟩ := hcollapses.exists_item
        rw [canonicalize_single]
        exact ih item List.mem_cons_self (hitems item List.mem_cons_self)
      · rw [canonicalize_list hcollapses]
        refine .list (fun hstructural => ?_) (List.forall_mem_map.2 fun item hitem => ih item hitem (hitems item hitem))
        rw [List.length_map, hlength hstructural]
  | record entries ih =>
    cases h with
    | record hentries =>
      rw [canonicalize_record]
      exact .record (List.forall_mem_map.2 fun entry hentry => ih entry hentry (hentries entry hentry))
  | scalar value =>
    rw [canonicalize_scalar]
    exact .scalar value

/-- The results of a selection in canonical form: one stands for itself. -/
def gathered (results : List RawValue) : RawValue := collapsed results false

theorem canonicalize_matched (results : List RawValue) :
    (matched results).canonicalize = gathered (results.map canonicalize) := by
  rw [matched]
  by_cases hcollapses : Collapses results false
  · obtain ⟨result, rfl, -⟩ := hcollapses.exists_item
    rw [canonicalize_single]
    rfl
  · rw [canonicalize_list hcollapses, gathered, collapsed]
    rintro result hresult -
    exact hcollapses ⟨by simpa using congrArg List.length hresult, rfl⟩

theorem canonicalize_declared (items : List RawValue) :
    (declared items).canonicalize = .list (items.map canonicalize) (items.length == 1) := by
  refine canonicalize_list fun hcollapses => ?_
  have hmarked : (items.length == 1) = false := hcollapses.2
  rw [hcollapses.1] at hmarked
  cases hmarked

end RawValue

open RawValue (matched gathered SoundFlags)

namespace Schema

def constant? : Schema → Option Json
  | .record directives _ => directives.constant
  | .rule _ | .list _ => none

/-- In one place the fields give the entries, under their names. -/
def FieldsGive (gives : Schema → Context → Option Sanitizer → RawValue → Prop) (own : Option Sanitizer)
    (fields : List (String × Schema)) (entries : List (String × RawValue)) : Prop :=
  ∃ place, List.Forall₂ (fun field entry => entry.1 = field.1 ∧ gives field.2 place own entry.2) fields entries

/-- A raw result stems from a schema. `gives` says what the schemas below give in a context under a sanitizer,
and `gather` makes one raw result of those of a selection. -/
inductive StemsFrom (gather : List RawValue → RawValue)
    (gives : Schema → Context → Option Sanitizer → RawValue → Prop) :
    Schema → Context → Option Sanitizer → RawValue → Prop where
  | rule (r : Rule) (context : Context) (ambient : Option Sanitizer) (values : List Json) :
      StemsFrom gather gives (.rule r) context ambient (gather (values.map .scalar))
  | list {items : List Schema} {trees : List RawValue} {context : Context} {ambient : Option Sanitizer}
      (h : List.Forall₂ (gives · context ambient) items trees) :
      StemsFrom gather gives (.list items) context ambient (.list trees (items.length == 1))
  | constant {directives : Directives} {value : Json} (h : directives.constant = some value)
      (fields : List (String × Schema)) (context : Context) (ambient : Option Sanitizer) :
      StemsFrom gather gives (.record directives fields) context ambient (.scalar value)
  | values {directives : Directives} {fields : List (String × Schema)} (hconstant : directives.constant = none)
      (h : fields = [] ∨ directives.post ≠ none) (context : Context) (ambient : Option Sanitizer)
      (values : List Json) :
      StemsFrom gather gives (.record directives fields) context ambient (gather (values.map .scalar))
  | records {directives : Directives} {fields : List (String × Schema)} (hconstant : directives.constant = none)
      (hfields : fields ≠ []) (hpost : directives.post = none) (context : Context) (ambient : Option Sanitizer)
      {instances : List (List (String × RawValue))}
      (h : ∀ entries ∈ instances, FieldsGive gives directives.sanitizer fields entries) :
      StemsFrom gather gives (.record directives fields) context ambient (gather (instances.map .record))

variable {d : Document} {params : Json}

variable (d params) in
def Gives (schema : Schema) (context : Context) (ambient : Option Sanitizer) (raw : RawValue) : Prop :=
  (evaluate d params schema context ambient).outcome = .ok raw

variable (d params) in
/-- Evaluation ends well with a raw result of this canonical form. -/
def GivesCanonical (schema : Schema) (context : Context) (ambient : Option Sanitizer) (tree : RawValue) : Prop :=
  ∃ raw, Gives d params schema context ambient raw ∧ tree = raw.canonicalize

/-! ### Results of a selection -/

theorem exists_eq_map {α β : Type} {f : α → β} {p : α → Prop} {bs : List β}
    (h : ∀ b ∈ bs, ∃ a, b = f a ∧ p a) : ∃ as : List α, bs = as.map f ∧ ∀ a ∈ as, p a := by
  induction bs with
  | nil => exact ⟨[], rfl, nofun⟩
  | cons b bs ih =>
    obtain ⟨⟨a, rfl, ha⟩, hrest⟩ := List.forall_mem_cons.1 h
    obtain ⟨as, rfl, has⟩ := ih hrest
    exact ⟨a :: as, rfl, List.forall_mem_cons.2 ⟨ha, has⟩⟩

theorem exists_scalars {results : List RawValue} (h : ∀ result ∈ results, ∃ value, result = .scalar value) :
    ∃ values : List Json, results = values.map .scalar := by
  obtain ⟨values, hvalues, -⟩ := exists_eq_map (p := fun _ => True) fun result hresult => by
    obtain ⟨value, hvalue⟩ := h result hresult
    exact ⟨value, hvalue, trivial⟩
  exact ⟨values, hvalues⟩

theorem forall_mem_of_each {α β : Type} {f : α → Run β} {as : List α} {bs : List β}
    (h : (Run.each f as).outcome = .ok bs) {p : β → Prop} (hp : ∀ a b, (f a).outcome = .ok b → p b) :
    ∀ b ∈ bs, p b :=
  forall_mem_of_forall₂ (Run.each_outcome_eq_ok_iff.1 h) fun a _ b => hp a b

theorem exists_eq_scalar_of_leaf {sanitizer : Option Sanitizer} {place : Context} {raw : RawValue}
    (h : (leaf d params sanitizer place).outcome = .ok raw) : ∃ value, raw = .scalar value := by
  cases sanitizer with
  | none => exact ⟨_, (Except.ok.inj h).symm⟩
  | some hook =>
    obtain ⟨value, -, hraw⟩ := Run.bind_outcome_eq_ok_iff.1 h
    exact ⟨value, (Except.ok.inj hraw).symm⟩

section Instances

variable {directives : Directives} {fields : List (String × Schema)} {ambient : Option Sanitizer} {place : Context}
  {raw : RawValue}

theorem exists_eq_scalar_of_build (hfields : fields = [])
    (h : (build d params directives fields ambient place).outcome = .ok raw) : ∃ value, raw = .scalar value := by
  rw [build, if_pos (by simpa using hfields)] at h
  exact exists_eq_scalar_of_leaf h

theorem exists_eq_record_of_build (hfields : fields ≠ [])
    (h : (build d params directives fields ambient place).outcome = .ok raw) :
    ∃ entries, raw = .record entries ∧ FieldsGive (Gives d params) directives.sanitizer fields entries := by
  rw [build, if_neg (by simpa using hfields)] at h
  obtain ⟨entries, hentries, hraw⟩ := Run.bind_outcome_eq_ok_iff.1 h
  refine ⟨entries, (Except.ok.inj hraw).symm, place, ?_⟩
  exact Run.forall₂_of_each hentries fun field _ entry hentry =>
    (evaluateField_outcome_eq_ok_iff d params).1 hentry

end Instances

theorem FieldsGive.map_fst {gives : Schema → Context → Option Sanitizer → RawValue → Prop} {own : Option Sanitizer}
    {fields : List (String × Schema)} {entries : List (String × RawValue)}
    (h : FieldsGive gives own fields entries) : entries.map Prod.fst = fields.map Prod.fst := by
  obtain ⟨place, hplace⟩ := h
  have hnames : List.Forall₂ (· = ·) (entries.map Prod.fst) (fields.map Prod.fst) := by
    rw [List.forall₂_map_left_iff, List.forall₂_map_right_iff]
    exact hplace.flip.imp fun entry field hentry => hentry.1
  rwa [List.forall₂_eq_eq_eq] at hnames

theorem FieldsGive.canonicalize {own : Option Sanitizer} {fields : List (String × Schema)}
    {entries : List (String × RawValue)} (h : FieldsGive (Gives d params) own fields entries) :
    FieldsGive (GivesCanonical d params) own fields
      (entries.map fun entry => (entry.1, entry.2.canonicalize)) := by
  obtain ⟨place, hplace⟩ := h
  refine ⟨place, List.forall₂_map_right_iff.2 (hplace.imp ?_)⟩
  exact fun field entry hgiven => ⟨hgiven.1, entry.2, hgiven.2, rfl⟩

/-- What holds of everything that is built in some place holds of all results of a record without
post-processor. -/
theorem exists_results_of_evaluate {directives : Directives} (hconstant : directives.constant = none)
    (hpost : directives.post = none) {fields : List (String × Schema)} {context : Context}
    {ambient : Option Sanitizer} {raw : RawValue}
    (h : Gives d params (.record directives fields) context ambient raw) {p : RawValue → Prop}
    (hp : ∀ place result, (build d params directives fields ambient place).outcome = .ok result → p result) :
    ∃ results, raw = matched results ∧ ∀ result ∈ results, p result := by
  rw [Gives, evaluate_record d params hconstant, hpost] at h
  obtain ⟨results, hresults, hraw⟩ := Run.bind_outcome_eq_ok_iff.1 h
  obtain rfl : matched results = raw := Except.ok.inj hraw
  exact ⟨results, rfl, forall_mem_of_forall₂ (forall₂_of_buildAll hresults) fun place _ result => hp place result⟩

/-! ### Where what is given stems from -/

theorem Gives.stemsFrom {schema : Schema} {context : Context} {ambient : Option Sanitizer} {raw : RawValue}
    (h : Gives d params schema context ambient raw) :
    StemsFrom matched (Gives d params) schema context ambient raw := by
  cases schema with
  | rule r =>
    rw [Gives, evaluate_rule] at h
    obtain ⟨results, hresults, hraw⟩ := Run.bind_outcome_eq_ok_iff.1 h
    obtain rfl : matched results = raw := Except.ok.inj hraw
    obtain ⟨values, rfl⟩ := exists_scalars (forall_mem_of_each hresults fun _ _ => exists_eq_scalar_of_leaf)
    exact .rule r context ambient values
  | list items =>
    rw [Gives, evaluate_list] at h
    obtain ⟨trees, htrees, hraw⟩ := Run.bind_outcome_eq_ok_iff.1 h
    obtain rfl : RawValue.declared trees = raw := Except.ok.inj hraw
    have hgiven := Run.each_outcome_eq_ok_iff.1 htrees
    rw [RawValue.declared, ← hgiven.length_eq]
    exact .list hgiven
  | record directives fields =>
    cases hconstant : directives.constant with
    | some value =>
      rw [Gives, evaluate_constant d params hconstant] at h
      obtain rfl : RawValue.scalar value = raw := Except.ok.inj h
      exact .constant hconstant fields context ambient
    | none =>
      cases hpost : directives.post with
      | some hook =>
        rw [Gives, evaluate_record d params hconstant, hpost] at h
        obtain ⟨results, -, h⟩ := Run.bind_outcome_eq_ok_iff.1 h
        obtain ⟨finished, hfinished, hraw⟩ := Run.bind_outcome_eq_ok_iff.1 h
        obtain rfl : matched finished = raw := Except.ok.inj hraw
        obtain ⟨values, rfl⟩ := exists_scalars <| forall_mem_of_each hfinished fun _ _ hresult => by
          obtain ⟨value, -, hvalue⟩ := Run.bind_outcome_eq_ok_iff.1 hresult
          exact ⟨value, (Except.ok.inj hvalue).symm⟩
        exact .values hconstant (.inr (by simp [hpost])) context ambient values
      | none =>
        by_cases hfields : fields = []
        · obtain ⟨results, rfl, hresults⟩ := exists_results_of_evaluate hconstant hpost h
            fun place result hresult => exists_eq_scalar_of_build hfields hresult
          obtain ⟨values, rfl⟩ := exists_scalars hresults
          exact .values hconstant (.inl hfields) context ambient values
        · obtain ⟨results, rfl, hresults⟩ := exists_results_of_evaluate hconstant hpost h
            fun place result hresult => exists_eq_record_of_build hfields hresult
          obtain ⟨instances, rfl, hinstances⟩ := exists_eq_map hresults
          exact .records hconstant hfields hpost context ambient hinstances

theorem StemsFrom.canonicalize {schema : Schema} {context : Context} {ambient : Option Sanitizer} {raw : RawValue}
    (h : StemsFrom matched (Gives d params) schema context ambient raw) :
    StemsFrom gathered (GivesCanonical d params) schema context ambient raw.canonicalize := by
  have hscalars (values : List Json) :
      (matched (values.map .scalar)).canonicalize = gathered (values.map .scalar) := by
    rw [RawValue.canonicalize_matched, List.map_map]
    exact congrArg gathered (List.map_congr_left fun value _ => RawValue.canonicalize_scalar value)
  cases h with
  | rule r _ _ values =>
    rw [hscalars]
    exact .rule r context ambient values
  | @list items trees _ _ h =>
    have hdeclared : RawValue.list trees (items.length == 1) = .declared trees := by
      rw [RawValue.declared, h.length_eq]
    rw [hdeclared, RawValue.canonicalize_declared, ← h.length_eq]
    refine .list (List.forall₂_map_right_iff.2 (h.imp ?_))
    exact fun item tree hgiven => ⟨tree, hgiven, rfl⟩
  | constant hconstant fields =>
    rw [RawValue.canonicalize_scalar]
    exact .constant hconstant fields context ambient
  | values hconstant h _ _ values =>
    rw [hscalars]
    exact .values hconstant h context ambient values
  | @records directives fields hconstant hfields hpost _ _ instances h =>
    let canonical (entries : List (String × RawValue)) := entries.map fun entry => (entry.1, entry.2.canonicalize)
    have hrecords : (matched (instances.map .record)).canonicalize =
        gathered ((instances.map canonical).map .record) := by
      rw [RawValue.canonicalize_matched, List.map_map, List.map_map]
      exact congrArg gathered (List.map_congr_left fun entries _ => RawValue.canonicalize_record entries)
    rw [hrecords]
    refine .records hconstant hfields hpost context ambient (List.forall_mem_map.2 fun entries hentries => ?_)
    exact (h entries hentries).canonicalize

/-! ### What is given as a whole, and at every depth -/

theorem soundFlags_of_gives {schema : Schema} {context : Context} {ambient : Option Sanitizer} {raw : RawValue}
    (h : Gives d params schema context ambient raw) : raw.SoundFlags := by
  have hscalars (values : List Json) : (matched (values.map .scalar)).SoundFlags :=
    .matched (List.forall_mem_map.2 fun value _ => .scalar value)
  induction schema using Schema.induct generalizing context ambient raw with
  | rule r =>
    cases h.stemsFrom with
    | rule _ _ _ values => exact hscalars values
  | list items ih =>
    cases h.stemsFrom with
    | list htrees =>
      refine .list (fun hmarked => ?_) (forall_mem_of_forall₂ htrees fun item hitem _ => ih item hitem)
      rw [← htrees.length_eq]
      exact beq_iff_eq.1 hmarked
  | record directives fields ih =>
    cases h.stemsFrom with
    | constant => exact .scalar _
    | values _ _ _ _ values => exact hscalars values
    | records _ _ _ _ _ hinstances =>
      refine .matched (List.forall_mem_map.2 fun entries hentries => .record ?_)
      obtain ⟨place, hplace⟩ := hinstances entries hentries
      exact forall_mem_of_forall₂ hplace fun field hfield entry hgiven => ih field hfield hgiven.2

theorem StemsFrom.eq_scalar_iff {gives : Schema → Context → Option Sanitizer → RawValue → Prop} {schema : Schema}
    {context : Context} {ambient : Option Sanitizer} {raw : RawValue}
    (h : StemsFrom matched gives schema context ambient raw) (value : Json) :
    raw = .scalar value ↔ schema.constant? = some value := by
  cases h with
  | rule | list => simp [constant?, matched]
  | constant hconstant => simp [constant?, hconstant]
  | values hconstant | records hconstant => simp [constant?, hconstant, matched]

theorem StemsFrom.exists_list {gives : Schema → Context → Option Sanitizer → RawValue → Prop} {schema : Schema}
    {context : Context} {ambient : Option Sanitizer} {raw : RawValue}
    (h : StemsFrom matched gives schema context ambient raw) (hconstant : schema.constant? = none) :
    ∃ items structural, raw = .list items structural ∧ (structural = true ↔ ∃ item, schema = .list [item]) := by
  cases h with
  | rule | values | records => exact ⟨_, false, rfl, by simp⟩
  | list => exact ⟨_, _, rfl, by simp [List.length_eq_one_iff]⟩
  | constant hvalue =>
    rw [constant?, hvalue] at hconstant
    cases hconstant

/-- **A raw result and its canonical form show where they come from.** The trees that the steps lead to are again
given by evaluation, or are canonical forms of such, so the same holds of them. -/
theorem evaluate_provenance {schema : Schema} {context : Context} {ambient : Option Sanitizer} {raw : RawValue}
    (h : (evaluate d params schema context ambient).outcome = .ok raw) :
    (∀ value, raw = .scalar value ↔ schema.constant? = some value) ∧
      (schema.constant? = none →
        ∃ items structural, raw = .list items structural ∧ (structural = true ↔ ∃ item, schema = .list [item])) ∧
      StemsFrom matched (Gives d params) schema context ambient raw ∧
      StemsFrom gathered (GivesCanonical d params) schema context ambient raw.canonicalize ∧
      raw.SoundFlags ∧ raw.canonicalize.SoundFlags := by
  have hgives : Gives d params schema context ambient raw := h
  have hstems := hgives.stemsFrom
  have hsound := soundFlags_of_gives hgives
  exact ⟨hstems.eq_scalar_iff, hstems.exists_list, hstems, hstems.canonicalize, hsound, hsound.canonicalize⟩

/-! A declared list of one selection is marked; the selection in it has one match and collapses. -/

theorem evaluate_provenance_items :
    ∃ raw, (evaluate itemsPage .null itemsSchema .document none).outcome = .ok raw ∧
      (∃ items, raw = .list items true) ∧
      StemsFrom gathered (GivesCanonical itemsPage .null) itemsSchema .document none raw.canonicalize ∧
      raw.SoundFlags ∧ raw.canonicalize.SoundFlags := by
  have hsame : (evaluate itemsPage .null itemsSchema .document none).outcome.map
      (·.canonicalJson.sameValue itemsResult) = .ok true := by
    decide +kernel
  obtain ⟨raw, hrun, -⟩ := exists_ok_of_map hsame
  obtain ⟨-, hlist, -, hcanonical, hsound⟩ := evaluate_provenance hrun
  obtain ⟨items, structural, hraw, hmarked⟩ := hlist rfl
  obtain rfl : structural = true := hmarked.2 ⟨_, rfl⟩
  exact ⟨raw, hrun, ⟨items, hraw⟩, hcanonical, hsound⟩

end Schema

end PageExtract
