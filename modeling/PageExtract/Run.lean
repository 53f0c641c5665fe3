import PageExtract.Hook.Basic

/-!
# Runs

A run is a computation that may read texts and call hooks. Besides its outcome it keeps what it
did, in order, so that statements about the order of calls are statements about a list. The first
failure of a hook ends a run.
-/

namespace PageExtract

/-- Something a run did: read the text of an element, or called a hook on its argument. -/
inductive Event where
  | text (element : PageElement)
  | sanitizer (name : Option String) (element : PageElement)
  | ignore (name : Option String) (element : PageElement)
  | post (name : Option String) (value : Json)
deriving Inhabited

/-- What a computation did and how it ended. -/
structure Run (α : Type) where
  events : List Event
  outcome : Except HookError α

namespace Run

variable {α β : Type}

instance : Monad Run where
  pure a := ⟨[], .ok a⟩
  bind x f :=
    match x.outcome with
    | .ok a => ⟨x.events ++ (f a).events, (f a).outcome⟩
    | .error e => ⟨x.events, .error e⟩

def one (event : Event) (outcome : Except HookError α) : Run α := ⟨[event], outcome⟩

/-- Runs `f` on every item in order. -/
def each (f : α → Run β) : List α → Run (List β)
  | [] => pure []
  | a :: rest => do
    let b ← f a
    let bs ← each f rest
    return b :: bs

/-- Runs `f` on every item in order that `dropped`, asked right before, does not drop. -/
def eachKept (dropped : α → Run Bool) (f : α → Run β) : List α → Run (List β)
  | [] => pure []
  | a :: rest => do
    if ← dropped a then eachKept dropped f rest
    else
      let b ← f a
      let bs ← eachKept dropped f rest
      return b :: bs

@[simp] theorem events_pure (a : α) : (pure a : Run α).events = [] := rfl

@[simp] theorem outcome_pure (a : α) : (pure a : Run α).outcome = .ok a := rfl

theorem bind_of_ok {x : Run α} {a : α} (h : x.outcome = .ok a) (f : α → Run β) :
    x >>= f = ⟨x.events ++ (f a).events, (f a).outcome⟩ := by
  show (match x.outcome with
    | .ok a => (⟨x.events ++ (f a).events, (f a).outcome⟩ : Run β)
    | .error e => ⟨x.events, .error e⟩) = _
  rw [h]

theorem bind_of_error {x : Run α} {e : HookError} (h : x.outcome = .error e) (f : α → Run β) :
    x >>= f = ⟨x.events, .error e⟩ := by
  show (match x.outcome with
    | .ok a => (⟨x.events ++ (f a).events, (f a).outcome⟩ : Run β)
    | .error e => ⟨x.events, .error e⟩) = _
  rw [h]

end Run

def Sanitizer.call (hook : Sanitizer) (params : Json) (element : PageElement) : Run Json :=
  .one (.sanitizer hook.name element) (hook.apply element params)

def IgnoreFilter.call (hook : IgnoreFilter) (params : Json) (element : PageElement) : Run Bool :=
  .one (.ignore hook.name element) (hook.apply element params)

def PostProcessor.call (hook : PostProcessor) (params value : Json) : Run Json :=
  .one (.post hook.name value) (hook.apply value params)

end PageExtract
