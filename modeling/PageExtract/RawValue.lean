import PageExtract.Json.Basic

/-!
# Raw results and their canonical form

Evaluating a schema gives a tree in which every selection is a list, also of one match. The
canonical form collapses lists of one item into the item, apart from those that the schema declared
as lists of one item.
-/

namespace PageExtract

/-- A raw result. A structural list stands for a declared list of one item; the entries of a record
are in the order of its fields; a scalar is a JSON value that is never looked into. -/
inductive RawValue where
  | list (items : List RawValue) (structural : Bool)
  | record (entries : List (String × RawValue))
  | scalar (value : Json)
deriving Repr, Inhabited

namespace RawValue

/-- The list of the results of a selection. -/
def matched (items : List RawValue) : RawValue := .list items false

/-- The list of the results of a declared list. -/
def declared (items : List RawValue) : RawValue := .list items (items.length == 1)

mutual

/-- Collapses every list of one item that is not structural. -/
def canonicalize : RawValue → RawValue
  | .list [item] false => canonicalize item
  | .list items structural => .list (canonicalizeItems items) structural
  | .record entries => .record (canonicalizeEntries entries)
  | .scalar value => .scalar value

def canonicalizeItems : List RawValue → List RawValue
  | [] => []
  | item :: items => canonicalize item :: canonicalizeItems items

def canonicalizeEntries : List (String × RawValue) → List (String × RawValue)
  | [] => []
  | (key, value) :: entries => (key, canonicalize value) :: canonicalizeEntries entries

end

mutual

/-- The JSON value of a raw result, with nothing collapsed. An entry that repeats a key replaces the
value of the first. -/
def toJson : RawValue → Json
  | .list items _ => .array (itemsToJson items)
  | .record entries => .object (Keyed.ofEntries (entriesToJson entries))
  | .scalar value => value

def itemsToJson : List RawValue → List Json
  | [] => []
  | item :: items => toJson item :: itemsToJson items

def entriesToJson : List (String × RawValue) → List (String × Json)
  | [] => []
  | (key, value) :: entries => (key, toJson value) :: entriesToJson entries

end

mutual

/-- Equality of raw results, scalars compared as JSON values. -/
def sameValue : RawValue → RawValue → Bool
  | .list xs s, .list ys t => s == t && sameItems xs ys
  | .record xs, .record ys => sameEntries xs ys
  | .scalar x, .scalar y => x.sameValue y
  | _, _ => false

def sameItems : List RawValue → List RawValue → Bool
  | [], [] => true
  | x :: xs, y :: ys => sameValue x y && sameItems xs ys
  | _, _ => false

def sameEntries : List (String × RawValue) → List (String × RawValue) → Bool
  | [], [] => true
  | (k, x) :: xs, (l, y) :: ys => k == l && sameValue x y && sameEntries xs ys
  | _, _ => false

end

def canonicalJson (raw : RawValue) : Json := raw.canonicalize.toJson

/-- The results of a whole extraction. The outermost list never collapses, and a constant that is an
array stands for the list of its items. -/
def topLevel : RawValue → List Json
  | .list items _ => items.map canonicalJson
  | .scalar (.array items) => items
  | raw => [canonicalJson raw]

@[simp] theorem canonicalizeItems_eq_map (items : List RawValue) :
    canonicalizeItems items = items.map canonicalize := by
  induction items with
  | nil => rfl
  | cons item items ih => simp [canonicalizeItems, ih]

@[simp] theorem canonicalizeEntries_eq_map (entries : List (String × RawValue)) :
    canonicalizeEntries entries = entries.map fun entry => (entry.1, canonicalize entry.2) := by
  induction entries with
  | nil => rfl
  | cons entry entries ih => simp [canonicalizeEntries, ih]

@[simp] theorem itemsToJson_eq_map (items : List RawValue) :
    itemsToJson items = items.map toJson := by
  induction items with
  | nil => rfl
  | cons item items ih => simp [itemsToJson, ih]

@[simp] theorem entriesToJson_eq_map (entries : List (String × RawValue)) :
    entriesToJson entries = entries.map fun entry => (entry.1, toJson entry.2) := by
  induction entries with
  | nil => rfl
  | cons entry entries ih => simp [entriesToJson, ih]

end RawValue

end PageExtract
