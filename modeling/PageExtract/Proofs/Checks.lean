import PageExtract.Proofs.Descriptions
import PageExtract.Proofs.Routes

/-!
# The checks of a schema in JSON

Before a JSON value is a schema, one check after the other is made of it. `Json.checks` lists them without
a loader: of an object first its directives, always in the same order, and then its fields; of an array its
items. `Check.Fails` says when a check fails and with which fault, which names what stands at the place of
the check; `FirstFault` which fault that of the first failing check is.
-/

namespace PageExtract

/-! ### Checks -/

/-- What is checked of a value: the value as a whole, or one kind of directive of an object. -/
inductive Aspect where
  | value
  | rule
  | topLevel
  | hook (kind : HookKind)

/-- A check that loading makes: of which value, where it stands, and of what in it. -/
structure Check where
  route : Route
  value : Json
  aspect : Aspect

/-- What is checked of an object before its fields, in order. -/
def directiveAspects : List Aspect :=
  [.rule, .topLevel, .hook .sanitizer, .hook .postProcessor, .hook .ignoreFilter]

namespace Json

mutual

/-- The checks of a value at the end of a route, in order. -/
def checks (route : Route) : Json → List Check
  | .array items => checksOfItems route 0 items
  | .object members =>
    directiveAspects.map (fun aspect => ⟨route, .object members, aspect⟩) ++ checksOfFields route members
  | value => [⟨route, value, .value⟩]

def checksOfItems (route : Route) : (position : Nat) → List Json → List Check
  | _, [] => []
  | position, item :: items =>
    checks (route ++ [.index position]) item ++ checksOfItems route (position + 1) items

def checksOfFields (route : Route) : List (String × Json) → List Check
  | [] => []
  | (key, value) :: members =>
    if IsFieldKey key then checks (route ++ [.key key]) value ++ checksOfFields route members
    else checksOfFields route members

end

/-- Null, a truth value or a number. -/
inductive IsAtom : Json → Prop where
  | null : IsAtom .null
  | bool (b : Bool) : IsAtom (.bool b)
  | number (n : Number) : IsAtom (.number n)

end Json

/-- The keys that name the hook of a kind. Each counts where those before it are absent. -/
def HookKind.keys : HookKind → List String
  | .sanitizer => ["$sanitizer", "$fn"]
  | .postProcessor => ["$post"]
  | .ignoreFilter => ["$ignore"]

/-- The member that names the hook of a kind, if there is one. -/
inductive HookMember (members : Keyed Json) (kind : HookKind) (directive : String) (value : Json) : Prop where
  | first (before behind : List String) (hkeys : kind.keys = before ++ directive :: behind)
      (hbefore : ∀ key ∈ before, members.get? key = none) (h : members.get? directive = some value) :
      HookMember members kind directive value

/-- A value stands where the check looks: the value itself or that of a directive. -/
inductive Check.Finds : Check → Json → Prop where
  | value (route : Route) (value : Json) : Finds ⟨route, value, .value⟩ value
  | rule {route : Route} {members : Keyed Json} {value : Json} (h : members.get? "$rule" = some value) :
      Finds ⟨route, .object members, .rule⟩ value
  | topLevel {route : Route} {members : Keyed Json} {value : Json} (h : members.get? "$topLevel" = some value) :
      Finds ⟨route, .object members, .topLevel⟩ value
  | hook {route : Route} {members : Keyed Json} {kind : HookKind} {directive : String} {value : Json}
      (h : HookMember members kind directive value) : Finds ⟨route, .object members, .hook kind⟩ value

/-- The registry has a hook of that kind and name. -/
def Registry.Knows (hooks : Registry) : HookKind → String → Prop
  | .sanitizer, name => (hooks.sanitizer? name).isSome = true
  | .postProcessor, name => (hooks.postProcessor? name).isSome = true
  | .ignoreFilter, name => (hooks.ignoreFilter? name).isSome = true

namespace Check

/-- A check fails with a fault. The fault shows the value that was found, or names the hook or the selector
that this value is. -/
inductive Fails (hooks : Registry) : Check → SchemaFault → Prop where
  | shape {route : Route} {value : Json} (h : value.IsAtom) :
      Fails hooks ⟨route, value, .value⟩ (.shape route value)
  | selector {route : Route} {source : String} {fault : Selector.Fault}
      (h : Rule.parse source = .error fault) :
      Fails hooks ⟨route, .string source, .value⟩ (.selector source fault)
  | ruleType {route : Route} {members : Keyed Json} {value : Json}
      (hrule : members.get? "$rule" = some value) (hset : ¬ value.IsFalsy)
      (htext : ∀ text, value ≠ .string text) :
      Fails hooks ⟨route, .object members, .rule⟩ (.ruleType route value)
  | rule {route : Route} {members : Keyed Json} {source : String} {fault : Selector.Fault}
      (hrule : members.get? "$rule" = some (.string source)) (hset : source ≠ "")
      (h : Rule.parse source = .error fault) :
      Fails hooks ⟨route, .object members, .rule⟩ (.selector source fault)
  | topLevel {route : Route} {members : Keyed Json} {value : Json}
      (hflag : members.get? "$topLevel" = some value) (hbool : ∀ flag, value ≠ .bool flag) :
      Fails hooks ⟨route, .object members, .topLevel⟩ (.flagType route value)
  | hookType {route : Route} {members : Keyed Json} {kind : HookKind} {directive : String} {value : Json}
      (hhook : HookMember members kind directive value) (htext : ∀ text, value ≠ .string text) :
      Fails hooks ⟨route, .object members, .hook kind⟩ (.hookType route directive value)
  | unknownHook {route : Route} {members : Keyed Json} {kind : HookKind} {directive name : String}
      (hhook : HookMember members kind directive (.string name)) (h : ¬ hooks.Knows kind name) :
      Fails hooks ⟨route, .object members, .hook kind⟩ (.unknownHook route kind name)

def Passes (hooks : Registry) (check : Check) : Prop := ∀ fault, ¬ check.Fails hooks fault

end Check

/-- The fault of the first check that fails: all before it pass. -/
def FirstFault (hooks : Registry) (checks : List Check) (fault : SchemaFault) : Prop :=
  ∃ before check behind, checks = before ++ check :: behind ∧
    (∀ earlier ∈ before, earlier.Passes hooks) ∧ check.Fails hooks fault

/-- What a fault shows: the value that was found, or the name or selector that it is. -/
def SchemaFault.found : SchemaFault → Json
  | .root found => found
  | .shape _ found => found
  | .ruleType _ found => found
  | .flagType _ found => found
  | .hookType _ _ found => found
  | .unknownHook _ _ name => .string name
  | .selector source _ => .string source

/-- The route that a fault shows in writing, if it shows one. -/
def SchemaFault.path? : SchemaFault → Option String
  | .root _ => none
  | .shape route _ => some route.text
  | .ruleType route _ => some route.text
  | .flagType route _ => some route.text
  | .hookType route _ _ => some route.text
  | .unknownHook route _ _ => some route.text
  | .selector _ _ => none

/-- The text is a part of the message. -/
def ShownIn (text message : String) : Prop := text.toList <:+: message.toList

namespace ShownIn

variable {text message : String}

theorem append_left (h : ShownIn text message) (before : String) : ShownIn text (before ++ message) := by
  rw [ShownIn, String.toList_append]
  exact h.trans (List.suffix_append _ _).isInfix

theorem append_right (h : ShownIn text message) (behind : String) : ShownIn text (message ++ behind) := by
  rw [ShownIn, String.toList_append]
  exact h.trans (List.prefix_append _ _).isInfix

theorem last (before text : String) : ShownIn text (before ++ text) := append_left List.infix_rfl before

end ShownIn

namespace SchemaFault

variable {fault : SchemaFault}

theorem description_shown (fault : SchemaFault) : ShownIn fault.found.description fault.message := by
  cases fault with
  | root found => exact .last _ _
  | shape route found => exact ((ShownIn.last _ _).append_right _).append_right _
  | ruleType route found => exact .last _ _
  | flagType route found => exact .last _ _
  | hookType route directive found => exact .last _ _
  | unknownHook route kind name =>
    exact (((ShownIn.last _ (quoted name)).append_right _).append_right _).append_right _
  | selector source cause => exact ((ShownIn.last _ (quoted source)).append_right _).append_right _

theorem path_shown {path : String} (h : fault.path? = some path) : ShownIn path fault.message := by
  cases fault with
  | root => cases h
  | selector => cases h
  | shape route found =>
    obtain rfl := Option.some.inj h
    exact .last _ _
  | ruleType route found =>
    obtain rfl := Option.some.inj h
    exact ((ShownIn.last _ _).append_right _).append_right _
  | flagType route found =>
    obtain rfl := Option.some.inj h
    exact ((ShownIn.last _ _).append_right _).append_right _
  | hookType route directive found =>
    obtain rfl := Option.some.inj h
    exact ((ShownIn.last _ _).append_right _).append_right _
  | unknownHook route kind name =>
    obtain rfl := Option.some.inj h
    exact (ShownIn.last _ _).append_right _

end SchemaFault

namespace Check.Fails

variable {hooks : Registry} {check : Check} {fault : SchemaFault}

theorem finds_found (h : check.Fails hooks fault) : check.Finds fault.found := by
  cases h with
  | shape => exact .value _ _
  | selector => exact .value _ _
  | ruleType hrule => exact .rule hrule
  | rule hrule => exact .rule hrule
  | topLevel hflag => exact .topLevel hflag
  | hookType hhook => exact .hook hhook
  | unknownHook hhook => exact .hook hhook

theorem path?_eq (h : check.Fails hooks fault) {path : String} (hpath : fault.path? = some path) :
    path = check.route.text := by
  cases h with
  | selector => cases hpath
  | rule => cases hpath
  | shape => exact (Option.some.inj hpath).symm
  | ruleType => exact (Option.some.inj hpath).symm
  | topLevel => exact (Option.some.inj hpath).symm
  | hookType => exact (Option.some.inj hpath).symm
  | unknownHook => exact (Option.some.inj hpath).symm

end Check.Fails

/-! ### The place of a check -/

namespace Json

theorem checks_of_isAtom (route : Route) {value : Json} (h : value.IsAtom) :
    value.checks route = [⟨route, value, .value⟩] := by
  cases h <;> simp [checks]

theorem checks_string (route : Route) (source : String) :
    checks route (.string source) = [⟨route, .string source, .value⟩] := by
  simp [checks]

/-- A check of a value is made at a place inside it. -/
def ChecksWithin (route : Route) (value : Json) (check : Check) : Prop :=
  ∃ steps, check.route = route ++ steps ∧ value.LeadsTo steps check.value

theorem checksWithin_self (route : Route) (value : Json) (aspect : Aspect) :
    ChecksWithin route value ⟨route, value, aspect⟩ :=
  ⟨[], (List.append_nil route).symm, .here value⟩

theorem ChecksWithin.of_item {route : Route} {items : List Json} {index : Nat} {item : Json} {check : Check}
    (hitem : items[index]? = some item) (h : ChecksWithin (route ++ [.index index]) item check) :
    ChecksWithin route (.array items) check := by
  obtain ⟨steps, hroute, hleads⟩ := h
  refine ⟨.index index :: steps, ?_, .index hitem hleads⟩
  rw [hroute, List.append_assoc, List.singleton_append]

theorem ChecksWithin.of_member {route : Route} {members : List (String × Json)} {key : String} {value : Json}
    {check : Check} (hmember : (key, value) ∈ members) (h : ChecksWithin (route ++ [.key key]) value check) :
    ChecksWithin route (.object members) check := by
  obtain ⟨steps, hroute, hleads⟩ := h
  refine ⟨.key key :: steps, ?_, .key hmember hleads⟩
  rw [hroute, List.append_assoc, List.singleton_append]

theorem exists_item_of_mem_checksOfItems {route : Route} {check : Check} {items : List Json} {position : Nat}
    (h : check ∈ checksOfItems route position items) :
    ∃ index item, items[index]? = some item ∧ check ∈ checks (route ++ [.index (position + index)]) item := by
  induction items generalizing position with
  | nil => cases h
  | cons item items ih =>
    rw [checksOfItems] at h
    rcases List.mem_append.1 h with hitem | hitems
    · exact ⟨0, item, rfl, hitem⟩
    · obtain ⟨index, other, hother, hcheck⟩ := ih hitems
      have hposition : position + 1 + index = position + (index + 1) := by omega
      exact ⟨index + 1, other, hother, hposition ▸ hcheck⟩

theorem exists_member_of_mem_checksOfFields {route : Route} {check : Check} {members : List (String × Json)}
    (h : check ∈ checksOfFields route members) :
    ∃ key value, (key, value) ∈ members ∧ check ∈ checks (route ++ [.key key]) value := by
  induction members with
  | nil => cases h
  | cons member members ih =>
    obtain ⟨key, value⟩ := member
    have hrest (hmem : check ∈ checksOfFields route members) :
        ∃ key' value', (key', value') ∈ (key, value) :: members ∧
          check ∈ checks (route ++ [.key key']) value' := by
      obtain ⟨key', value', hmember, hcheck⟩ := ih hmem
      exact ⟨key', value', List.mem_cons_of_mem _ hmember, hcheck⟩
    rw [checksOfFields] at h
    split at h
    · rcases List.mem_append.1 h with hvalue | hmembers
      · exact ⟨key, value, List.mem_cons_self, hvalue⟩
      · exact hrest hmembers
    · exact hrest h

/-- The route of a check leads to the value that is checked. -/
theorem checksWithin_of_mem {route : Route} {value : Json} {check : Check} (h : check ∈ value.checks route) :
    ChecksWithin route value check := by
  have hatom {value : Json} (hvalue : value.IsAtom) {route : Route} (h : check ∈ value.checks route) :
      ChecksWithin route value check := by
    rw [checks_of_isAtom route hvalue, List.mem_singleton] at h
    exact h ▸ checksWithin_self route value .value
  induction value using Json.induct generalizing route with
  | null => exact hatom .null h
  | bool b => exact hatom (.bool b) h
  | number n => exact hatom (.number n) h
  | string source =>
    rw [checks_string, List.mem_singleton] at h
    exact h ▸ checksWithin_self route _ .value
  | array items ih =>
    rw [checks] at h
    obtain ⟨index, item, hitem, hcheck⟩ := exists_item_of_mem_checksOfItems h
    rw [Nat.zero_add] at hcheck
    exact .of_item hitem (ih item (List.mem_of_getElem? hitem) hcheck)
  | object members ih =>
    rw [checks] at h
    rcases List.mem_append.1 h with hdirective | hfield
    · obtain ⟨aspect, -, rfl⟩ := List.mem_map.1 hdirective
      exact checksWithin_self route _ aspect
    · obtain ⟨key, value, hmember, hcheck⟩ := exists_member_of_mem_checksOfFields hfield
      exact .of_member hmember (ih (key, value) hmember hcheck)

theorem leadsTo_of_mem_checks {whole : Json} {check : Check} (h : check ∈ whole.checks []) :
    whole.LeadsTo check.route check.value := by
  obtain ⟨steps, hroute, hleads⟩ := checksWithin_of_mem h
  rw [hroute, List.nil_append]
  exact hleads

end Json

/-! ### First faults -/

section FirstFault

variable {hooks : Registry} {fault : SchemaFault}

theorem not_firstFault_nil : ¬ FirstFault hooks [] fault := by
  intro h
  obtain ⟨before, check, behind, hnil, -⟩ := h
  simp at hnil

theorem firstFault_cons {check : Check} {checks : List Check} :
    FirstFault hooks (check :: checks) fault ↔
      check.Fails hooks fault ∨ check.Passes hooks ∧ FirstFault hooks checks fault := by
  constructor
  · intro h
    obtain ⟨before, failing, behind, hchecks, hbefore, hfails⟩ := h
    cases before with
    | nil =>
      obtain ⟨rfl, -⟩ := List.cons.inj hchecks
      exact .inl hfails
    | cons first before =>
      obtain ⟨rfl, hrest⟩ := List.cons.inj hchecks
      obtain ⟨hfirst, hbefore⟩ := List.forall_mem_cons.1 hbefore
      exact .inr ⟨hfirst, before, failing, behind, hrest, hbefore, hfails⟩
  · intro h
    rcases h with hfails | ⟨hpasses, before, failing, behind, rfl, hbefore, hfails⟩
    · exact ⟨[], check, checks, rfl, nofun, hfails⟩
    · exact ⟨check :: before, failing, behind, rfl, List.forall_mem_cons.2 ⟨hpasses, hbefore⟩, hfails⟩

theorem firstFault_singleton {check : Check} : FirstFault hooks [check] fault ↔ check.Fails hooks fault := by
  rw [firstFault_cons]
  exact or_iff_left fun h => not_firstFault_nil h.2

theorem firstFault_append {checks others : List Check} :
    FirstFault hooks (checks ++ others) fault ↔
      FirstFault hooks checks fault ∨
        (∀ check ∈ checks, check.Passes hooks) ∧ FirstFault hooks others fault := by
  induction checks with
  | nil => simp [not_firstFault_nil]
  | cons check checks ih =>
    rw [List.cons_append, firstFault_cons, firstFault_cons, ih, List.forall_mem_cons]
    tauto

theorem forall_passes_iff {checks : List Check} :
    (∀ check ∈ checks, check.Passes hooks) ↔ ∀ fault, ¬ FirstFault hooks checks fault := by
  induction checks with
  | nil => exact iff_of_true nofun fun _ => not_firstFault_nil
  | cons check checks ih =>
    rw [List.forall_mem_cons, ih]
    constructor
    · intro h fault hfirst
      obtain ⟨hcheck, hchecks⟩ := h
      rcases firstFault_cons.1 hfirst with hfails | ⟨-, hfirst⟩
      · exact hcheck fault hfails
      · exact hchecks fault hfirst
    · intro h
      have hcheck : check.Passes hooks := fun fault hfails => h fault (firstFault_cons.2 (.inl hfails))
      exact ⟨hcheck, fun fault hfirst => h fault (firstFault_cons.2 (.inr ⟨hcheck, hfirst⟩))⟩

end FirstFault

end PageExtract
