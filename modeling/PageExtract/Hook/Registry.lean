import PageExtract.Hook.Accessor
import PageExtract.Hook.Price
import PageExtract.Text.Case

/-!
# The registry of hooks

Hooks are looked up by kind and name. What was registered last under a name counts; a name under
which nothing of the kind was registered may still stand for a hook that is built in.
-/

namespace PageExtract

/-- A post-processor that changes texts and leaves other values alone; it never fails. -/
def PostProcessor.ofText (change : String → Json) : PostProcessor where
  name := none
  apply value _ :=
    match value with
    | .string text => .ok (change text)
    | value => .ok value

def PostProcessor.builtin? (name : String) : Option PostProcessor :=
  if name = "trim" then some (.ofText fun text => .string (trim text))
  else if name = "lowercase" then some (.ofText fun text => .string (lowerCase text))
  else if name = "uppercase" then some (.ofText fun text => .string (upperCase text))
  else if name = "parse_price" then some (.ofText Price.parse)
  else none

/-- The filter that drops elements without text. -/
def IgnoreFilter.blank : IgnoreFilter := ⟨none, fun element _ => .ok ((trim element.text).isEmpty)⟩

def IgnoreFilter.builtin? (name : String) : Option IgnoreFilter :=
  if name = "blank" then some .blank else none

/-- The built-in sanitizers are the accessors. -/
def Sanitizer.builtin? (name : String) : Option Sanitizer := (Accessor.parse name).map Accessor.sanitizer

structure Registry where
  sanitizers : Keyed (PageElement → Json → Except HookError Json) := []
  postProcessors : Keyed (Json → Json → Except HookError Json) := []
  ignoreFilters : Keyed (PageElement → Json → Except HookError Bool) := []
deriving Inhabited

namespace Registry

def empty : Registry := {}

def addSanitizer (r : Registry) (name : String) (apply : PageElement → Json → Except HookError Json) :
    Registry :=
  { r with sanitizers := r.sanitizers.set name apply }

def addPostProcessor (r : Registry) (name : String) (apply : Json → Json → Except HookError Json) :
    Registry :=
  { r with postProcessors := r.postProcessors.set name apply }

def addIgnoreFilter (r : Registry) (name : String)
    (apply : PageElement → Json → Except HookError Bool) : Registry :=
  { r with ignoreFilters := r.ignoreFilters.set name apply }

def sanitizer? (r : Registry) (name : String) : Option Sanitizer :=
  match r.sanitizers.get? name with
  | some apply => some ⟨some name, apply⟩
  | none => Sanitizer.builtin? name

def postProcessor? (r : Registry) (name : String) : Option PostProcessor :=
  match r.postProcessors.get? name with
  | some apply => some ⟨some name, apply⟩
  | none => PostProcessor.builtin? name

def ignoreFilter? (r : Registry) (name : String) : Option IgnoreFilter :=
  match r.ignoreFilters.get? name with
  | some apply => some ⟨some name, apply⟩
  | none => IgnoreFilter.builtin? name

end Registry

end PageExtract
