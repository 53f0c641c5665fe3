import PageExtract.Hook.Basic
import PageExtract.Json.Printer
import PageExtract.Json.Fault
import PageExtract.Selector.Message
import PageExtract.Text.Quoted

/-!
# What is wrong with a schema

A fault names its cause and, where the JSON value itself is at fault, the route from the root to it.
-/

namespace PageExtract

/-- A step from a JSON value to one inside it. -/
inductive RouteStep where
  | key (name : String)
  | index (position : Nat)
deriving DecidableEq, Repr

/-- The steps from the root of a schema to a value in it. -/
abbrev Route := List RouteStep

/-- A step as it is written. -/
def RouteStep.text : RouteStep → String
  | .key name => "." ++ name
  | .index position => "[" ++ toString position ++ "]"

def Route.text (route : Route) : String := "$" ++ String.join (route.map RouteStep.text)

/-- A JSON value in the words of messages. -/
def Json.description : Json → String
  | .string text => quoted text
  | .array _ => "an array"
  | .object _ => "an object"
  | value => value.text

inductive SchemaFault where
  | root (found : Json)
  | shape (route : Route) (found : Json)
  | ruleType (route : Route) (found : Json)
  | flagType (route : Route) (found : Json)
  | hookType (route : Route) (directive : String) (found : Json)
  | unknownHook (route : Route) (kind : HookKind) (name : String)
  | selector (source : String) (fault : Selector.Fault)
deriving Repr

def SchemaFault.message : SchemaFault → String
  | .root found => "schema root must be a string, array or object, got " ++ found.description
  | .shape route found =>
    "schema values must be a string, array or object, got " ++ found.description ++ " at " ++ route.text
  | .ruleType route found => "rule at " ++ route.text ++ " must be a string, got " ++ found.description
  | .flagType route found =>
    "$topLevel at " ++ route.text ++ " must be a boolean, got " ++ found.description
  | .hookType route directive found =>
    directive ++ " at " ++ route.text ++ " must name a hook, got " ++ found.description
  | .unknownHook route kind name =>
    "no " ++ kind.noun ++ " named " ++ quoted name ++ " is registered (at " ++ route.text ++ ")"
  | .selector source fault => "invalid selector " ++ quoted source ++ ": " ++ fault.message

/-- Why JSON text could not be turned into what it should hold: it is no such JSON, or the value is no
schema. -/
inductive LoadError where
  | json (source : String) (error : Json.ReadError)
  | schema (fault : SchemaFault)
deriving Repr

def LoadError.message : LoadError → String
  | .json source error => "JSON error: " ++ error.message source
  | .schema fault => fault.message

end PageExtract
