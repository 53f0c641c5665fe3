import PageExtract.Proofs.RawValue

/-!
# What a raw result holds, and where

A raw result ends in its leaves: in scalars, in lists without items and in records without entries. On the
way to a leaf one crosses keys of records and lists. Which lists one crosses changes when lists collapse,
except for structural ones, and these alone are noted here. The canonical form then has the same leaves as
the raw result, in the same order and each behind the same crossings: when a list collapses, it is the only
thing that is gone.
-/

namespace PageExtract

namespace RawValue

/-- Where a raw result ends. -/
inductive Leaf where
  | scalar (value : Json)
  | emptyList (structural : Bool)
  | emptyRecord

/-- What is crossed on the way to a leaf: the key of an entry, or a structural list. -/
inductive Crossing where
  | key (name : String)
  | structuralList

/-- What is crossed from a list to one of its items. -/
def crossings (structural : Bool) : List Crossing := if structural then [.structuralList] else []

/-- Leaves, each with what is crossed on the way to it, with more to be crossed before that. -/
def behind (crossed : List Crossing) (found : List (List Crossing × Leaf)) : List (List Crossing × Leaf) :=
  found.map fun entry => (crossed ++ entry.1, entry.2)

mutual

/-- The leaves of a raw result from left to right, each with what is crossed on the way to it from the
root. -/
def leaves : RawValue → List (List Crossing × Leaf)
  | .list items structural =>
    if items.isEmpty then [([], .emptyList structural)] else behind (crossings structural) (leavesOfItems items)
  | .record entries => if entries.isEmpty then [([], .emptyRecord)] else leavesOfEntries entries
  | .scalar value => [([], .scalar value)]

def leavesOfItems : List RawValue → List (List Crossing × Leaf)
  | [] => []
  | item :: items => leaves item ++ leavesOfItems items

def leavesOfEntries : List (String × RawValue) → List (List Crossing × Leaf)
  | [] => []
  | (key, value) :: entries => behind [.key key] (leaves value) ++ leavesOfEntries entries

end

theorem leavesOfItems_eq_flatMap (items : List RawValue) : leavesOfItems items = items.flatMap leaves := by
  induction items with
  | nil => rfl
  | cons item items ih => rw [leavesOfItems, ih, List.flatMap_cons]

theorem leavesOfEntries_eq_flatMap (entries : List (String × RawValue)) :
    leavesOfEntries entries = entries.flatMap fun entry => behind [.key entry.1] (leaves entry.2) := by
  induction entries with
  | nil => rfl
  | cons entry entries ih => rw [leavesOfEntries, ih, List.flatMap_cons]

theorem leaves_map_list {f : RawValue → RawValue} {items : List RawValue}
    (h : ∀ item ∈ items, leaves (f item) = leaves item) (structural : Bool) :
    leaves (.list (items.map f) structural) = leaves (.list items structural) := by
  rw [leaves, leaves, leavesOfItems_eq_flatMap, leavesOfItems_eq_flatMap, List.isEmpty_map, List.flatMap_map,
    List.flatMap_congr h]

theorem leaves_map_record {f : RawValue → RawValue} {entries : List (String × RawValue)}
    (h : ∀ entry ∈ entries, leaves (f entry.2) = leaves entry.2) :
    leaves (.record (entries.map fun entry => (entry.1, f entry.2))) = leaves (.record entries) := by
  rw [leaves, leaves, leavesOfEntries_eq_flatMap, leavesOfEntries_eq_flatMap, List.isEmpty_map,
    List.flatMap_map, List.flatMap_congr fun entry hentry => by rw [h entry hentry]]

theorem leaves_single (item : RawValue) : leaves (.list [item] false) = leaves item := by
  simp [leaves, leavesOfItems, crossings, behind]

/-- **The canonical form loses, repeats and moves nothing.** It has the same leaves in the same order, each
behind the same keys and structural lists. In particular scalars stay as they are, whatever is in them, and
lists without items and records without entries stay where they are. -/
theorem leaves_canonicalize (raw : RawValue) : raw.canonicalize.leaves = raw.leaves := by
  induction raw using RawValue.induct with
  | list items structural ih =>
    by_cases hcollapses : Collapses items structural
    · obtain ⟨item, rfl, rfl⟩ := hcollapses.exists_item
      rw [canonicalize_single, leaves_single, ih item List.mem_cons_self]
    · rw [canonicalize_list hcollapses, leaves_map_list ih]
  | record entries ih => rw [canonicalize_record, leaves_map_record ih]
  | scalar value => rw [canonicalize_scalar]

/-- Of four lists around leaves only the structural one is noted, and the list in the scalar is none. -/
example :
    leaves (.list [.record [("a", .list [.list [] false] false),
      ("a", .list [.list [.scalar (.array [.null])] true] false)]] false) =
        [([.key "a"], .emptyList false), ([.key "a", .structuralList], .scalar (.array [.null]))] := by
  rfl

end RawValue

end PageExtract
