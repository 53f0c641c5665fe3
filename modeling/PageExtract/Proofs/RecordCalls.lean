import PageExtract.Proofs.Construction
import PageExtract.Proofs.DocumentOrder
import PageExtract.Proofs.Keyed
import PageExtract.Proofs.Provenance

/-!
# Records after calls

The fields of a record are a map in which a name keeps the place of its first use. `FollowsCalls` tells from
the calls for a record what it holds when they are through: of each kind of directive the last call counts, and
every name stands once, with the schema of its last use. `makeAll` makes the calls, and what it ends with follows
them, whatever their order.

So the names are different when it comes to evaluation, and turning an instance into JSON loses no entry.
-/

namespace PageExtract

theorem RawValue.toJson_record {entries : List (String × RawValue)} (h : (entries.map Prod.fst).Nodup) :
    toJson (.record entries) = .object (entries.map fun entry => (entry.1, toJson entry.2)) := by
  rw [toJson, entriesToJson_eq_map]
  refine congrArg Json.object (Keyed.ofEntries_of_nodup ?_)
  rw [List.map_map]
  exact h

/-- The result is a record of these names, and all its entries are found in JSON, in order. -/
def RawValue.HasEntries (names : List String) (result : RawValue) : Prop :=
  ∃ entries : List (String × RawValue), result = .record entries ∧ entries.map Prod.fst = names ∧
    result.toJson = .object (entries.map fun entry => (entry.1, entry.2.toJson)) ∧
    result.canonicalJson = .object (entries.map fun entry => (entry.1, entry.2.canonicalJson))

namespace RecordSchema

def make (r : RecordSchema) : Call Schema → Except Selector.Fault RecordSchema
  | .directive setter => setter.apply r
  | .field name schema => .ok (r.withField name schema)

/-- The record after calls, if none of them fails. -/
def makeAll (r : RecordSchema) (calls : List (Call Schema)) : Except Selector.Fault RecordSchema :=
  calls.foldlM make r

/-- A record holds what calls, starting from nothing, say last. -/
structure FollowsCalls (calls : List (Call Schema)) (r : RecordSchema) : Prop where
  /-- Every text that was to be a rule is one. -/
  valid : ∀ setter ∈ calls.filterMap Call.setter?, setter.IsValid
  rule : r.directives.rule = Setter.last? Setter.rule? (calls.filterMap Call.setter?)
  topLevel : r.directives.topLevel = (Setter.last? Setter.topLevel? (calls.filterMap Call.setter?)).getD false
  sanitizer : r.directives.sanitizer = Setter.last? Setter.sanitizer? (calls.filterMap Call.setter?)
  post : r.directives.post = Setter.last? Setter.post? (calls.filterMap Call.setter?)
  ignore : r.directives.ignore = Setter.last? Setter.ignore? (calls.filterMap Call.setter?)
  constant : r.directives.constant = Setter.last? Setter.constant? (calls.filterMap Call.setter?)
  /-- Every name that is used stands where it is used first. -/
  keys : r.fields.keys = ((calls.filterMap Call.field?).map Prod.fst).eraseDups
  nodup : r.fields.keys.Nodup
  /-- Every name has the schema of its last use. -/
  get? (name : String) : r.fields.get? name = Keyed.get? (calls.filterMap Call.field?).reverse name

/-! ### What calls make of a record -/

theorem Setter.apply_eq_ok_iff {setter : Setter} {r s : RecordSchema} :
    setter.apply r = .ok s ↔ setter.IsValid ∧ { r with directives := settle r.directives [setter] } = s := by
  constructor
  · intro h
    have hvalid : setter.IsValid := by
      cases setter with
      | rule source =>
        obtain ⟨rule, hrule, -⟩ := map_eq_ok_iff.1 h
        exact ⟨rule, hrule⟩
      | _ => trivial
    rw [apply_eq_ok hvalid] at h
    exact ⟨hvalid, Except.ok.inj h⟩
  · rintro ⟨hvalid, rfl⟩
    exact apply_eq_ok hvalid r

theorem makeAll_cons (call : Call Schema) (calls : List (Call Schema)) (r : RecordSchema) :
    r.makeAll (call :: calls) = r.make call >>= fun s => s.makeAll calls :=
  List.foldlM_cons ..

/-- Calls fail only on texts that are no rules; else each changes its own part of the record. -/
theorem makeAll_eq_ok_iff {calls : List (Call Schema)} {r s : RecordSchema} :
    r.makeAll calls = .ok s ↔ (∀ setter ∈ calls.filterMap Call.setter?, setter.IsValid) ∧
      ⟨settle r.directives (calls.filterMap Call.setter?),
        (calls.filterMap Call.field?).foldl (fun found field => Keyed.set found field.1 field.2) r.fields⟩ = s := by
  induction calls generalizing r with
  | nil =>
    have hnone : settle r.directives [] = r.directives := rfl
    simp [makeAll, hnone, pure, Except.pure]
  | cons call calls ih =>
    cases call with
    | directive setter =>
      have hcons : (Call.directive setter :: calls).filterMap Call.setter? =
          setter :: calls.filterMap Call.setter? := rfl
      have hsame : (Call.directive setter :: calls).filterMap Call.field? = calls.filterMap Call.field? := rfl
      rw [makeAll_cons, make, bind_eq_ok_iff, hcons, hsame, List.forall_mem_cons, settle_cons]
      simp only [Setter.apply_eq_ok_iff, ih]
      constructor
      · rintro ⟨_, ⟨hvalid, rfl⟩, hrest, rfl⟩
        exact ⟨⟨hvalid, hrest⟩, rfl⟩
      · rintro ⟨⟨hvalid, hrest⟩, rfl⟩
        exact ⟨_, ⟨hvalid, rfl⟩, hrest, rfl⟩
    | field name schema =>
      have hmade : r.makeAll (.field name schema :: calls) = (r.withField name schema).makeAll calls := rfl
      rw [hmade, ih]
      rfl

theorem followsCalls_of_makeAll {calls : List (Call Schema)} {r : RecordSchema}
    (h : ({} : RecordSchema).makeAll calls = .ok r) : FollowsCalls calls r := by
  obtain ⟨hvalid, rfl⟩ := makeAll_eq_ok_iff.1 h
  constructor
  case valid => exact hvalid
  case topLevel => rfl
  case keys => exact Keyed.keys_ofEntries _
  case nodup => exact Keyed.nodup_keys_ofEntries _
  case get? => exact Keyed.get?_ofEntries _
  all_goals exact Option.or_none

/-! ### What comes of a record in evaluation -/

theorem scalar_or_hasEntries_of_build {d : Document} {params : Json} {directives : Directives}
    {fields : Keyed Schema} (hnames : fields.keys.Nodup) {ambient : Option Sanitizer} {place : Context}
    {result : RawValue} (h : (Schema.build d params directives fields ambient place).outcome = .ok result) :
    (fields = [] ∧ ∃ value, result = .scalar value) ∨ result.HasEntries fields.keys := by
  by_cases hfields : fields = []
  · exact .inl ⟨hfields, Schema.exists_eq_scalar_of_build hfields h⟩
  · obtain ⟨entries, rfl, hgiven⟩ := Schema.exists_eq_record_of_build hfields h
    have hdistinct : (entries.map Prod.fst).Nodup := hgiven.map_fst ▸ hnames
    exact .inr ⟨entries, rfl, hgiven.map_fst, RawValue.toJson_record hdistinct,
      RawValue.canonicalJson_record hdistinct⟩

/-- **Calls for a record act on an ordered map.** When calls in any order, with any of them repeated, are through
the record follows them. If it then has no constant and no post-processor, what evaluation gives is a selection
of records with every name of a field once, all of which JSON has in the same order; or of plain values, if there
are no fields. -/
theorem makeAll_acts_on_map {calls : List (Call Schema)} {r : RecordSchema}
    (h : ({} : RecordSchema).makeAll calls = .ok r) :
    FollowsCalls calls r ∧
      (r.directives.constant = none → r.directives.post = none →
        ∀ (d : Document) (params : Json) (context : Context) (ambient : Option Sanitizer) (raw : RawValue),
          (Schema.evaluate d params r.toSchema context ambient).outcome = .ok raw →
            ∃ results, raw = .matched results ∧ ∀ result ∈ results,
              (r.fields = [] ∧ ∃ value, result = .scalar value) ∨
                (r.fields.keys.Nodup ∧ result.HasEntries r.fields.keys)) := by
  have hfollows := followsCalls_of_makeAll h
  refine ⟨hfollows, fun hconstant hpost d params context ambient raw hraw => ?_⟩
  refine Schema.exists_results_of_evaluate hconstant hpost hraw fun place result hresult => ?_
  rcases scalar_or_hasEntries_of_build hfollows.nodup hresult with hscalar | hentries
  · exact .inl hscalar
  · exact .inr ⟨hfollows.nodup, hentries⟩

/-! A name is used twice, with that of another field in between, and a flag is set and set back. -/

/-- Calls for the elements of a page that say two things twice. -/
def elementCalls : List (Call Schema) :=
  [.field "first" (.rule (Schema.named "i")), .directive (.topLevel true), .field "second" (.rule (Schema.named "i")),
    .directive (.rule "*"), .field "first" (.rule (Schema.named "b")), .directive (.topLevel false)]

def elementRecord : RecordSchema where
  directives := { rule := some Document.anyElement }
  fields := [("first", .rule (Schema.named "b")), ("second", .rule (Schema.named "i"))]

theorem elementCalls_act_on_map :
    ({} : RecordSchema).makeAll elementCalls = .ok elementRecord ∧ FollowsCalls elementCalls elementRecord ∧
      ∃ raw, (Schema.evaluate Schema.itemsPage .null elementRecord.toSchema .document none).outcome = .ok raw ∧
        ∃ results, raw = .matched results ∧ ∀ result ∈ results, result.HasEntries ["first", "second"] := by
  have hmade : ({} : RecordSchema).makeAll elementCalls = .ok elementRecord := rfl
  have hends : (Schema.evaluate Schema.itemsPage .null elementRecord.toSchema .document none).outcome.map
      (fun _ => ()) = .ok () := by
    decide +kernel
  obtain ⟨raw, hraw, -⟩ := Schema.exists_ok_of_map hends
  obtain ⟨hfollows, hresults⟩ := makeAll_acts_on_map hmade
  obtain ⟨results, hmatched, hentries⟩ := hresults rfl rfl Schema.itemsPage .null .document none raw hraw
  refine ⟨hmade, hfollows, raw, hraw, results, hmatched, fun result hresult => ?_⟩
  rcases hentries result hresult with ⟨hfields, -⟩ | ⟨-, h⟩
  · cases hfields
  · exact h

end RecordSchema

end PageExtract
