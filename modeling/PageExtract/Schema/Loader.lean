import PageExtract.Hook.Registry
import PageExtract.Json.Reader
import PageExtract.Schema.Basic
import PageExtract.Schema.Fault

/-!
# Schemas in JSON

A string is a rule, an array a list, an object a record. Of the members of an object those with a
reserved key are directives, that with the empty key is passed over, and the others are fields in
order. The directives are looked at before the fields, always in the same order, and the first fault
is the answer. A schema that was loaded holds the hooks themselves, not their names.
-/

namespace PageExtract

/-- The keys of directives. -/
def reservedKeys : List String :=
  ["$rule", "$topLevel", "$sanitizer", "$fn", "$post", "$ignore", "$constant"]

/-- Whether a member with that key is a field. -/
def isFieldKey (key : String) : Bool := key != "" && !reservedKeys.contains key

/-- Whether a value sets a directive: null, false, zero and the empty text do not. -/
def Json.setsDirective : Json → Bool
  | .null => false
  | .bool value => value
  | .string text => !text.isEmpty
  | .number n => !n.isZero
  | _ => true

namespace Directives

def ruleOf (source : String) : Except SchemaFault Rule :=
  match Rule.parse source with
  | .ok rule => .ok rule
  | .error fault => .error (.selector source fault)

def loadRule (route : Route) : Option Json → Except SchemaFault (Option Rule)
  | none => .ok none
  | some value =>
    if value.setsDirective then
      match value with
      | .string source => (ruleOf source).map some
      | value => .error (.ruleType route value)
    else .ok none

def loadFlag (route : Route) : Option Json → Except SchemaFault Bool
  | none => .ok false
  | some (.bool flag) => .ok flag
  | some value => .error (.flagType route value)

def loadHook {α : Type} (route : Route) (kind : HookKind) (find : String → Option α) :
    Option (String × Json) → Except SchemaFault (Option α)
  | none => .ok none
  | some (_, .string name) =>
    match find name with
    | some hook => .ok (some hook)
    | none => .error (.unknownHook route kind name)
  | some (directive, value) => .error (.hookType route directive value)

/-- The first of the keys that is there, with its value. -/
def firstMember? (members : Keyed Json) (keys : List String) : Option (String × Json) :=
  keys.findSome? fun key => (members.get? key).map fun value => (key, value)

def load (hooks : Registry) (route : Route) (members : Keyed Json) : Except SchemaFault Directives := do
  let rule ← loadRule route (members.get? "$rule")
  let topLevel ← loadFlag route (members.get? "$topLevel")
  let sanitizer ← loadHook route .sanitizer hooks.sanitizer? (firstMember? members ["$sanitizer", "$fn"])
  let post ← loadHook route .postProcessor hooks.postProcessor? (firstMember? members ["$post"])
  let ignore ← loadHook route .ignoreFilter hooks.ignoreFilter? (firstMember? members ["$ignore"])
  let constant := (members.get? "$constant").filter Json.setsDirective
  return { rule, topLevel, sanitizer, post, ignore, constant }

end Directives

namespace Schema

mutual

/-- The schema that a value at the end of a route stands for. -/
def load (hooks : Registry) (route : Route) : Json → Except SchemaFault Schema
  | .string source => (Directives.ruleOf source).map .rule
  | .array items => (loadItems hooks route 0 items).map .list
  | .object members => do
    let directives ← Directives.load hooks route members
    let fields ← loadFields hooks route members
    return .record directives fields
  | value => .error (.shape route value)

/-- The schemas of items, counted from `position` on. -/
def loadItems (hooks : Registry) (route : Route) :
    (position : Nat) → List Json → Except SchemaFault (List Schema)
  | _, [] => .ok []
  | position, item :: items => do
    let schema ← load hooks (route ++ [.index position]) item
    let schemas ← loadItems hooks route (position + 1) items
    return schema :: schemas

def loadFields (hooks : Registry) (route : Route) :
    List (String × Json) → Except SchemaFault (List (String × Schema))
  | [] => .ok []
  | (key, value) :: members =>
    if isFieldKey key then do
      let schema ← load hooks (route ++ [.key key]) value
      let fields ← loadFields hooks route members
      return (key, schema) :: fields
    else loadFields hooks route members

end

def ofJson (hooks : Registry) (value : Json) : Except SchemaFault Schema :=
  match value with
  | .string _ | .array _ | .object _ => load hooks [] value
  | value => .error (.root value)

def parse (hooks : Registry) (source : String) : Except LoadError Schema :=
  match Json.parse source with
  | .error error => .error (.json source error)
  | .ok value =>
    match ofJson hooks value with
    | .ok schema => .ok schema
    | .error fault => .error (.schema fault)

end Schema

end PageExtract
