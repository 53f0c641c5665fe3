/-!
# Entries in order of first use

A list of keyed entries in which a key that is set again keeps its place and takes the new value.
Members of a JSON object and fields of a record schema are such lists.
-/

namespace PageExtract

/-- Entries `(key, value)` in order. -/
abbrev Keyed (α : Type) := List (String × α)

namespace Keyed

variable {α : Type}

def get? (entries : Keyed α) (key : String) : Option α :=
  (entries.find? (·.1 == key)).map (·.2)

/-- Replaces the value of the first entry with the key, or adds an entry at the end. -/
def set (entries : Keyed α) (key : String) (value : α) : Keyed α :=
  match entries with
  | [] => [(key, value)]
  | (k, v) :: rest => if k == key then (k, value) :: rest else (k, v) :: set rest key value

/-- Sets the entries one after the other. -/
def ofEntries (entries : List (String × α)) : Keyed α :=
  entries.foldl (fun found entry => set found entry.1 entry.2) []

def keys (entries : Keyed α) : List String := entries.map (·.1)

@[simp] theorem get?_nil (key : String) : get? ([] : Keyed α) key = none := rfl

@[simp] theorem set_nil (key : String) (value : α) : set [] key value = [(key, value)] := rfl

theorem get?_cons (entry : String × α) (rest : Keyed α) (key : String) :
    get? (entry :: rest) key = if entry.1 == key then some entry.2 else get? rest key := by
  unfold get?
  cases h : entry.1 == key <;> simp [h]

end Keyed

end PageExtract
