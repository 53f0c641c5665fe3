import PageExtract.Hook.Basic

/-!
# Schemas

A schema is a rule, of which every match gives a value; a list, of which every item is evaluated in
the same context; or a record, with directives and named fields in order. Schemas built in Lean and
schemas loaded from JSON are the same values.
-/

namespace PageExtract

/-- What a record says besides its fields. A constant, if there is one, is the value of the record and
nothing else counts. -/
structure Directives where
  rule : Option Rule := none
  topLevel : Bool := false
  sanitizer : Option Sanitizer := none
  post : Option PostProcessor := none
  ignore : Option IgnoreFilter := none
  constant : Option Json := none
deriving Inhabited

/-- What to take from a page and in which shape. -/
inductive Schema where
  | rule (rule : Rule)
  | list (items : List Schema)
  | record (directives : Directives) (fields : List (String × Schema))
deriving Inhabited

/-- A record schema while it is put together. -/
structure RecordSchema where
  directives : Directives := {}
  fields : Keyed Schema := []
deriving Inhabited

namespace RecordSchema

def toSchema (r : RecordSchema) : Schema := .record r.directives r.fields

def withRule (r : RecordSchema) (source : String) : Except Selector.Fault RecordSchema :=
  (Rule.parse source).map fun rule => { r with directives := { r.directives with rule := some rule } }

def withTopLevel (r : RecordSchema) (topLevel : Bool) : RecordSchema :=
  { r with directives := { r.directives with topLevel } }

def withSanitizer (r : RecordSchema) (sanitizer : Sanitizer) : RecordSchema :=
  { r with directives := { r.directives with sanitizer := some sanitizer } }

def withPost (r : RecordSchema) (post : PostProcessor) : RecordSchema :=
  { r with directives := { r.directives with post := some post } }

def withIgnore (r : RecordSchema) (ignore : IgnoreFilter) : RecordSchema :=
  { r with directives := { r.directives with ignore := some ignore } }

def withConstant (r : RecordSchema) (constant : Json) : RecordSchema :=
  { r with directives := { r.directives with constant := some constant } }

/-- Sets a field; a name that is set again keeps its place. -/
def withField (r : RecordSchema) (name : String) (schema : Schema) : RecordSchema :=
  { r with fields := r.fields.set name schema }

end RecordSchema

namespace Schema

def ofSelector (source : String) : Except Selector.Fault Schema := (Rule.parse source).map .rule

/-- The record that holds only a constant. -/
def constant (value : Json) : Schema := (RecordSchema.withConstant {} value).toSchema

end Schema

end PageExtract
