import PageExtract.Document
import PageExtract.Json.Basic

/-!
# Hooks

A hook is a function supplied from outside: a sanitizer turns an element into a value, a
post-processor rewrites a value, an ignore filter drops elements. Every hook is also given the
external variables of the extraction, and every hook may fail.
-/

namespace PageExtract

/-- Why a hook failed, in its own words. -/
structure HookError where
  message : String
deriving DecidableEq, Repr, Inhabited

/-- The value of an element. `name` is the name under which the hook was registered; what is built in
has none. -/
structure Sanitizer where
  name : Option String
  apply : (element : PageElement) → (params : Json) → Except HookError Json

/-- The value that takes the place of a finished one. -/
structure PostProcessor where
  name : Option String
  apply : (value params : Json) → Except HookError Json

/-- Whether an element is dropped from the results. -/
structure IgnoreFilter where
  name : Option String
  apply : (element : PageElement) → (params : Json) → Except HookError Bool

inductive HookKind where
  | sanitizer
  | postProcessor
  | ignoreFilter
deriving DecidableEq, Repr

/-- The kind in the words of messages. -/
def HookKind.noun : HookKind → String
  | .sanitizer => "sanitizer"
  | .postProcessor => "post-processor"
  | .ignoreFilter => "ignore filter"

/-- What is shown in place of a hook, which cannot be looked into. -/
def HookKind.placeholder : HookKind → String
  | .sanitizer => "Sanitizer(..)"
  | .postProcessor => "PostProcessor(..)"
  | .ignoreFilter => "IgnoreFilter(..)"

end PageExtract
