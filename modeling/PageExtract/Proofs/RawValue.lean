import PageExtract.RawValue
import PageExtract.Proofs.Keyed

/-!
# Canonical forms, one equation per kind of raw result

A list either collapses or keeps its place, and which of the two depends only on how many items it has
and whether it is structural. The equations here say this for canonical forms and for their JSON; the
rest of the proofs reach the recursions over items and entries only through them.
-/

namespace PageExtract

namespace RawValue

/-- What holds of a raw result if it does of its items or values holds of every raw result. -/
@[elab_as_elim] theorem induct {motive : RawValue → Prop}
    (list : ∀ items structural, (∀ item ∈ items, motive item) → motive (.list items structural))
    (record : ∀ entries, (∀ entry ∈ entries, motive entry.2) → motive (.record entries))
    (scalar : ∀ value, motive (.scalar value)) (raw : RawValue) : motive raw := by
  refine @RawValue.rec motive (fun items => ∀ item ∈ items, motive item)
    (fun entries => ∀ entry ∈ entries, motive entry.2) (fun entry => motive entry.2)
    (fun items structural ih => list items structural ih) record scalar ?_ ?_ ?_ ?_ ?_ raw
  · simp only [List.not_mem_nil, false_implies, implies_true]
  · exact fun item items hitem hitems => List.forall_mem_cons.2 ⟨hitem, hitems⟩
  · simp only [List.not_mem_nil, false_implies, implies_true]
  · exact fun entry entries hentry hentries => List.forall_mem_cons.2 ⟨hentry, hentries⟩
  · exact fun key value hvalue => hvalue

/-- Whether a list stands for its only item. -/
def Collapses (items : List RawValue) (structural : Bool) : Prop := items.length = 1 ∧ structural = false

theorem Collapses.exists_item {items : List RawValue} {structural : Bool} (h : Collapses items structural) :
    ∃ item, items = [item] ∧ structural = false := by
  obtain ⟨item, hitem⟩ := List.length_eq_one_iff.1 h.1
  exact ⟨item, hitem, h.2⟩

@[simp] theorem canonicalize_single (item : RawValue) :
    canonicalize (.list [item] false) = canonicalize item := by
  rw [canonicalize]

theorem canonicalize_list {items : List RawValue} {structural : Bool} (h : ¬ Collapses items structural) :
    canonicalize (.list items structural) = .list (items.map canonicalize) structural := by
  rw [canonicalize, canonicalizeItems_eq_map]
  rintro item rfl rfl
  exact h ⟨rfl, rfl⟩

@[simp] theorem canonicalize_record (entries : List (String × RawValue)) :
    canonicalize (.record entries) = .record (entries.map fun entry => (entry.1, canonicalize entry.2)) := by
  rw [canonicalize, canonicalizeEntries_eq_map]

@[simp] theorem canonicalize_scalar (value : Json) : canonicalize (.scalar value) = .scalar value := by
  rw [canonicalize]

theorem canonicalize_list_congr {items others : List RawValue}
    (h : items.map canonicalize = others.map canonicalize) (structural : Bool) :
    canonicalize (.list items structural) = canonicalize (.list others structural) := by
  have hlength : items.length = others.length := by
    simpa only [List.length_map] using congrArg List.length h
  by_cases hitems : Collapses items structural
  · have hothers : Collapses others structural := ⟨hlength ▸ hitems.1, hitems.2⟩
    obtain ⟨item, rfl, rfl⟩ := hitems.exists_item
    obtain ⟨other, rfl, -⟩ := hothers.exists_item
    simpa using h
  · have hothers : ¬ Collapses others structural :=
      fun hothers => hitems ⟨hlength ▸ hothers.1, hothers.2⟩
    rw [canonicalize_list hitems, canonicalize_list hothers, h]

end RawValue

/-! ### The JSON of canonical forms -/

/-- Several values as one: an array, unless there is only one. -/
def Json.gather : List Json → Json
  | [value] => value
  | values => .array values

namespace RawValue

theorem canonicalJson_list {items : List RawValue} {structural : Bool} (h : ¬ Collapses items structural) :
    canonicalJson (.list items structural) = .array (items.map canonicalJson) := by
  rw [canonicalJson, canonicalize_list h, toJson, itemsToJson_eq_map, List.map_map]
  rfl

theorem canonicalJson_matched (results : List RawValue) :
    canonicalJson (.matched results) = .gather (results.map canonicalJson) := by
  by_cases hcollapses : Collapses results false
  · obtain ⟨result, rfl, -⟩ := hcollapses.exists_item
    rw [matched, canonicalJson, canonicalize_single]
    rfl
  · rw [matched, canonicalJson_list hcollapses, Json.gather]
    rintro value hvalue
    exact hcollapses ⟨by simpa using congrArg List.length hvalue, rfl⟩

theorem canonicalJson_declared (items : List RawValue) :
    canonicalJson (.declared items) = .array (items.map canonicalJson) := by
  refine canonicalJson_list fun h => ?_
  have hstructural : (items.length == 1) = false := h.2
  rw [h.1] at hstructural
  cases hstructural

/-- The JSON of a record depends on its entries only through theirs, also if a key is repeated. -/
theorem canonicalJson_entries (entries : List (String × RawValue)) :
    canonicalJson (.record entries) =
      .object (Keyed.ofEntries (entries.map fun entry => (entry.1, canonicalJson entry.2))) := by
  rw [canonicalJson, canonicalize_record, toJson, entriesToJson_eq_map, List.map_map]
  rfl

theorem canonicalJson_record {entries : List (String × RawValue)} (h : (entries.map Prod.fst).Nodup) :
    canonicalJson (.record entries) = .object (entries.map fun entry => (entry.1, canonicalJson entry.2)) := by
  rw [canonicalJson_entries]
  refine congrArg Json.object (Keyed.ofEntries_of_nodup ?_)
  rw [List.map_map]
  exact h

theorem canonicalJson_scalar (value : Json) : canonicalJson (.scalar value) = value := by
  rw [canonicalJson, canonicalize_scalar, toJson]

end RawValue

end PageExtract
