import PageExtract.RawValue
import PageExtract.Run
import PageExtract.Schema.Basic

/-!
# Evaluation of a schema

A schema is evaluated in a context of a document, with the sanitizer that is in force there. A
record's own sanitizer is in force for its value, if it has no fields, and for its direct fields; the
one in force around it only for its value. Lists hand it on. Every match is first put to the ignore
filter and then built, and the post-processor sees the results only after all of them are built, in
canonical form.
-/

namespace PageExtract

/-- The value of a context: what the sanitizer makes of its element, or else its text. -/
def leaf (d : Document) (params : Json) (sanitizer : Option Sanitizer) (context : Context) : Run RawValue :=
  match sanitizer with
  | some hook => do return .scalar (← hook.call params (d.elementAt context))
  | none => .one (.text (d.elementAt context)) (.ok (.scalar (.string (d.text context))))

/-- What `build` makes of the matches that an ignore filter, if there is one, lets through. -/
def buildMatches (d : Document) (params : Json) (ignore : Option IgnoreFilter)
    (build : Context → Run RawValue) (found : List Markup.NodeId) : Run (List RawValue) :=
  match ignore with
  | some hook =>
    Run.eachKept (fun id => hook.call params (d.elementAt (.element id))) (fun id => build (.element id)) found
  | none => Run.each (fun id => build (.element id)) found

/-- What `build` makes of the matches of a record's rule, or once of the scope if it has no rule; then
its ignore filter is not asked. -/
def buildAll (d : Document) (params : Json) (directives : Directives) (build : Context → Run RawValue)
    (scope : Context) : Run (List RawValue) :=
  match directives.rule with
  | some rule => buildMatches d params directives.ignore build (d.select scope rule)
  | none => do return [← build scope]

/-- The results after the post-processor, if there is one. -/
def finish (params : Json) (post : Option PostProcessor) (results : List RawValue) : Run (List RawValue) :=
  match post with
  | some hook => Run.each (fun result => do return .scalar (← hook.call params result.canonicalJson)) results
  | none => pure results

namespace Schema

mutual

/-- The raw result of a schema in a context, under the sanitizer in force. -/
def evaluate (d : Document) (params : Json) : Schema → Context → Option Sanitizer → Run RawValue
  | .rule r, context, sanitizer => do
    let results ← Run.each (fun id => leaf d params sanitizer (.element id)) (d.select context r)
    return .matched results
  | .list items, context, sanitizer => do
    let results ← evaluateItems d params items context sanitizer
    return .declared results
  | .record directives fields, context, sanitizer =>
    match directives.constant with
    | some value => pure (.scalar value)
    | none => do
      let build (place : Context) : Run RawValue :=
        if fields.isEmpty then leaf d params (directives.sanitizer.or sanitizer) place
        else do return .record (← evaluateFields d params fields place directives.sanitizer)
      let results ← buildAll d params directives build (if directives.topLevel then .document else context)
      let results ← finish params directives.post results
      return .matched results

def evaluateItems (d : Document) (params : Json) :
    List Schema → Context → Option Sanitizer → Run (List RawValue)
  | [], _, _ => pure []
  | item :: items, context, sanitizer => do
    let result ← evaluate d params item context sanitizer
    let results ← evaluateItems d params items context sanitizer
    return result :: results

def evaluateFields (d : Document) (params : Json) :
    List (String × Schema) → Context → Option Sanitizer → Run (List (String × RawValue))
  | [], _, _ => pure []
  | (name, schema) :: fields, context, sanitizer => do
    let result ← evaluate d params schema context sanitizer
    let results ← evaluateFields d params fields context sanitizer
    return (name, result) :: results

end

end Schema

end PageExtract
