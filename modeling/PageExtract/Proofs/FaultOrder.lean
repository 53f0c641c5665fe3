import PageExtract.Proofs.Checks

/-!
# The order of checks

A schema is refused with the fault of the first check that fails. `Reports` says so of a part of the loader
and its checks. It is kept when parts are put one behind the other, which is all that the loader does, so
that only single checks are shown by looking at what is found.
-/

namespace PageExtract

/-! ### What loading reports -/

/-- A part of the loader answers with the first fault of its checks, if there is one. -/
def Reports {α : Type} (hooks : Registry) (result : Except SchemaFault α) (checks : List Check) : Prop :=
  ∀ fault, result = .error fault ↔ FirstFault hooks checks fault

namespace Reports

variable {α β : Type} {hooks : Registry} {checks others : List Check}

protected theorem ok (a : α) : Reports hooks (.ok a) [] :=
  fun _ => iff_of_false nofun not_firstFault_nil

protected theorem bind {x : Except SchemaFault α} {f : α → Except SchemaFault β} (h : Reports hooks x checks)
    (hrest : ∀ a, Reports hooks (f a) others) : Reports hooks (x >>= f) (checks ++ others) := by
  intro fault
  rw [firstFault_append, forall_passes_iff]
  cases x with
  | error e =>
    have hfirst : FirstFault hooks checks e := (h e).1 rfl
    have hnot : ¬ ∀ fault, ¬ FirstFault hooks checks fault := fun hall => hall e hfirst
    rw [or_iff_left fun h => hnot h.1, ← h fault]
    show (Except.error e : Except SchemaFault β) = .error fault ↔
      (Except.error e : Except SchemaFault α) = .error fault
    simp only [Except.error.injEq]
  | ok a =>
    have hnone : ∀ fault, ¬ FirstFault hooks checks fault := fun fault hfirst => nomatch (h fault).2 hfirst
    rw [or_iff_right (hnone fault), ← hrest a fault]
    exact (and_iff_right hnone).symm

theorem bind_ok {x : Except SchemaFault α} (h : Reports hooks x checks) (f : α → β) :
    Reports hooks (do return f (← x)) checks := by
  have hbind := h.bind fun a => Reports.ok (f a)
  rwa [List.append_nil] at hbind

theorem map {x : Except SchemaFault α} (h : Reports hooks x checks) (f : α → β) :
    Reports hooks (x.map f) checks := by
  have hbind := h.bind_ok f
  cases x <;> exact hbind

theorem of_check {x : Except SchemaFault α} {check : Check}
    (h : ∀ fault, x = .error fault ↔ check.Fails hooks fault) : Reports hooks x [check] := by
  intro fault
  rw [firstFault_singleton]
  exact h fault

end Reports

/-! ### Directives -/

theorem map_eq_error_iff {ε α β : Type} {x : Except ε α} {f : α → β} {e : ε} :
    x.map f = .error e ↔ x = .error e := by
  cases x with
  | error other => simp only [Except.map, Except.error.injEq]
  | ok a => simp only [Except.map, reduceCtorEq]

theorem Json.setsDirective_iff {value : Json} : value.setsDirective = true ↔ ¬ value.IsFalsy := by
  rw [← setsDirective_eq_false_iff, Bool.not_eq_false]

theorem Json.string?_eq_none_iff {value : Json} :
    value.string? = none ↔ ∀ text, value ≠ .string text := by
  simp only [Option.eq_none_iff_forall_ne_some, ne_eq, string?_eq_some_iff]

theorem Json.bool?_eq_none_iff {value : Json} : value.bool? = none ↔ ∀ flag, value ≠ .bool flag := by
  simp only [Option.eq_none_iff_forall_ne_some, ne_eq, bool?_eq_some_iff]

namespace Directives

variable {hooks : Registry} {route : Route} {members : Keyed Json}

theorem ruleOf_eq_error_iff {source : String} {fault : SchemaFault} :
    ruleOf source = .error fault ↔
      ∃ cause, Rule.parse source = .error cause ∧ fault = .selector source cause := by
  unfold ruleOf
  generalize Rule.parse source = parsed
  cases parsed with
  | ok parsed => simp only [reduceCtorEq, false_and, exists_false]
  | error cause => simp only [Except.error.injEq, exists_eq_left', eq_comm]

theorem reports_loadRule :
    Reports hooks (loadRule route (members.get? "$rule")) [⟨route, .object members, .rule⟩] := by
  refine .of_check fun fault => ⟨fun h => ?_, fun h => ?_⟩
  · cases hrule : members.get? "$rule" with
    | none =>
      rw [hrule] at h
      cases h
    | some value =>
      rw [hrule, loadRule_some] at h
      cases hset : value.setsDirective with
      | false =>
        rw [hset, if_neg Bool.false_ne_true] at h
        cases h
      | true =>
        rw [if_pos hset] at h
        cases hstring : value.string? with
        | none =>
          rw [hstring] at h
          obtain rfl := Except.error.inj h
          exact .ruleType hrule (Json.setsDirective_iff.1 hset) (Json.string?_eq_none_iff.1 hstring)
        | some source =>
          rw [hstring] at h
          obtain rfl := Json.string?_eq_some_iff.1 hstring
          obtain ⟨cause, hcause, rfl⟩ := ruleOf_eq_error_iff.1 (map_eq_error_iff.1 h)
          refine .rule hrule ?_ hcause
          rintro rfl
          exact Json.setsDirective_iff.1 hset .emptyText
  · cases h with
    | ruleType hrule hset htext =>
      rw [hrule, loadRule_some, if_pos (Json.setsDirective_iff.2 hset), Json.string?_eq_none_iff.2 htext]
    | @rule _ _ source cause hrule hne hcause =>
      have hset : ¬ (Json.string source).IsFalsy := by
        intro hfalsy
        cases hfalsy
        exact hne rfl
      rw [hrule, loadRule_some, if_pos (Json.setsDirective_iff.2 hset)]
      exact map_eq_error_iff.2 (ruleOf_eq_error_iff.2 ⟨cause, hcause, rfl⟩)

theorem reports_loadFlag :
    Reports hooks (loadFlag route (members.get? "$topLevel")) [⟨route, .object members, .topLevel⟩] := by
  refine .of_check fun fault => ⟨fun h => ?_, fun h => ?_⟩
  · cases hflag : members.get? "$topLevel" with
    | none =>
      rw [hflag] at h
      cases h
    | some value =>
      rw [hflag, loadFlag_some] at h
      cases hbool : value.bool? with
      | none =>
        rw [hbool] at h
        obtain rfl := Except.error.inj h
        exact .topLevel hflag (Json.bool?_eq_none_iff.1 hbool)
      | some flag =>
        rw [hbool] at h
        cases h
  · cases h with
    | topLevel hflag hbool => rw [hflag, loadFlag_some, Json.bool?_eq_none_iff.2 hbool]

theorem firstMember?_eq_some_iff {kind : HookKind} (directive : String) (value : Json) :
    firstMember? members kind.keys = some (directive, value) ↔ HookMember members kind directive value := by
  rw [firstMember?, List.findSome?_eq_some_iff]
  constructor
  · intro h
    obtain ⟨before, key, behind, hkeys, hfound, hbefore⟩ := h
    obtain ⟨found, hget, heq⟩ := Option.map_eq_some_iff.1 hfound
    obtain ⟨rfl, rfl⟩ := Prod.mk.inj heq
    exact .first before behind hkeys (fun key hkey => Option.map_eq_none_iff.1 (hbefore key hkey)) hget
  · intro h
    obtain ⟨before, behind, hkeys, hbefore, hget⟩ := h
    refine ⟨before, directive, behind, hkeys, ?_, fun key hkey => ?_⟩
    · rw [hget, Option.map_some]
    · rw [hbefore key hkey, Option.map_none]

/-- Every kind of hook is loaded in the same way from its member. -/
theorem reports_loadHook {α : Type} {kind : HookKind} {find : String → Option α}
    (hfind : ∀ name, find name = none ↔ ¬ hooks.Knows kind name) :
    Reports hooks (loadHook route kind find (firstMember? members kind.keys))
      [⟨route, .object members, .hook kind⟩] := by
  refine .of_check fun fault => ⟨fun h => ?_, fun h => ?_⟩
  · cases hfirst : firstMember? members kind.keys with
    | none =>
      rw [hfirst] at h
      cases h
    | some member =>
      obtain ⟨directive, value⟩ := member
      have hhook : HookMember members kind directive value := (firstMember?_eq_some_iff directive value).1 hfirst
      rw [hfirst, loadHook_some] at h
      cases hstring : value.string? with
      | none =>
        rw [hstring] at h
        obtain rfl := Except.error.inj h
        exact .hookType hhook (Json.string?_eq_none_iff.1 hstring)
      | some name =>
        rw [hstring] at h
        obtain rfl := Json.string?_eq_some_iff.1 hstring
        cases hfound : find name with
        | none =>
          simp only [hfound, Except.error.injEq] at h
          exact h ▸ .unknownHook hhook ((hfind name).1 hfound)
        | some hook => simp only [hfound, reduceCtorEq] at h
  · cases h with
    | hookType hhook htext =>
      rw [(firstMember?_eq_some_iff _ _).2 hhook, loadHook_some, Json.string?_eq_none_iff.2 htext]
    | unknownHook hhook hname =>
      rw [(firstMember?_eq_some_iff _ _).2 hhook, loadHook_some]
      simp only [Json.string?, (hfind _).2 hname]

theorem reports_load :
    Reports hooks (load hooks route members)
      (directiveAspects.map fun aspect => ⟨route, .object members, aspect⟩) := by
  have hsanitizer : Reports hooks
      (loadHook route .sanitizer hooks.sanitizer? (firstMember? members ["$sanitizer", "$fn"]))
      [⟨route, .object members, .hook .sanitizer⟩] :=
    reports_loadHook fun name => by simp [Registry.Knows]
  have hpost : Reports hooks
      (loadHook route .postProcessor hooks.postProcessor? (firstMember? members ["$post"]))
      [⟨route, .object members, .hook .postProcessor⟩] :=
    reports_loadHook fun name => by simp [Registry.Knows]
  have hignore : Reports hooks
      (loadHook route .ignoreFilter hooks.ignoreFilter? (firstMember? members ["$ignore"]))
      [⟨route, .object members, .hook .ignoreFilter⟩] :=
    reports_loadHook fun name => by simp [Registry.Knows]
  exact reports_loadRule.bind fun _ => reports_loadFlag.bind fun _ => hsanitizer.bind fun _ =>
    hpost.bind fun _ => hignore.bind_ok _

end Directives

/-! ### Schemas -/

namespace Schema

variable {hooks : Registry} {route : Route}

theorem reports_loadItems {items : List Json}
    (h : ∀ item ∈ items, ∀ route, Reports hooks (load hooks route item) (item.checks route))
    (position : Nat) :
    Reports hooks (loadItems hooks route position items) (Json.checksOfItems route position items) := by
  induction items generalizing position with
  | nil =>
    rw [loadItems, Json.checksOfItems]
    exact .ok []
  | cons item items ih =>
    obtain ⟨hitem, hitems⟩ := List.forall_mem_cons.1 h
    rw [loadItems, Json.checksOfItems]
    exact (hitem _).bind fun schema => (ih hitems (position + 1)).bind_ok _

theorem reports_loadFields {members : Keyed Json}
    (h : ∀ member ∈ members, ∀ route, Reports hooks (load hooks route member.2) (member.2.checks route)) :
    Reports hooks (loadFields hooks route members) (Json.checksOfFields route members) := by
  induction members with
  | nil =>
    rw [loadFields, Json.checksOfFields]
    exact .ok []
  | cons member members ih =>
    obtain ⟨hmember, hmembers⟩ := List.forall_mem_cons.1 h
    obtain ⟨key, value⟩ := member
    rw [loadFields_cons, Json.checksOfFields]
    split
    · exact (hmember _).bind fun schema => (ih hmembers).bind_ok _
    · exact ih hmembers

theorem load_of_isAtom {value : Json} (h : value.IsAtom) :
    load hooks route value = .error (.shape route value) := by
  cases h <;> simp only [load]

/-- Loading a value, wherever it stands, answers with the first fault of its checks. -/
theorem reports_load (value : Json) (route : Route) :
    Reports hooks (load hooks route value) (value.checks route) := by
  have hatom {value : Json} (hvalue : value.IsAtom) (route : Route) :
      Reports hooks (load hooks route value) (value.checks route) := by
    rw [Json.checks_of_isAtom route hvalue, load_of_isAtom hvalue]
    refine .of_check fun fault => ?_
    rw [Except.error.injEq]
    constructor
    · intro h
      exact h ▸ .shape hvalue
    · intro h
      cases h with
      | shape => rfl
      | selector => cases hvalue
  induction value using Json.induct generalizing route with
  | null => exact hatom .null route
  | bool b => exact hatom (.bool b) route
  | number n => exact hatom (.number n) route
  | string source =>
    rw [load, Json.checks_string]
    refine Reports.map (.of_check fun fault => ?_) Schema.rule
    rw [Directives.ruleOf_eq_error_iff]
    constructor
    · intro h
      obtain ⟨cause, hcause, rfl⟩ := h
      exact .selector hcause
    · intro h
      cases h with
      | shape hatom => cases hatom
      | selector hcause => exact ⟨_, hcause, rfl⟩
  | array items ih =>
    rw [load, Json.checks]
    exact (reports_loadItems ih 0).map Schema.list
  | object members ih =>
    rw [load, Json.checks]
    exact Directives.reports_load.bind fun directives => (reports_loadFields ih).bind_ok _

theorem ofJson_of_not_isAtom {value : Json} (h : ¬ value.IsAtom) : ofJson hooks value = load hooks [] value := by
  cases value with
  | null => exact absurd .null h
  | bool b => exact absurd (.bool b) h
  | number n => exact absurd (.number n) h
  | string source => rfl
  | array items => rfl
  | object members => rfl

/-- **Loading answers with the first fault, and shows where it is.** A value that is no atom is refused with
the fault of the first check that fails, and only then. The route of every check leads to the value that is
checked. A fault has what the check finds there, and its message describes it; and if it shows a path, this is
that route. If no key holds a point or a bracket, the path belongs to one place of the whole only. -/
theorem ofJson_answers_first_fault (hooks : Registry) {whole : Json} (hwhole : ¬ whole.IsAtom) :
    (∀ fault, ofJson hooks whole = .error fault ↔ FirstFault hooks (whole.checks []) fault) ∧
      ∀ check ∈ whole.checks [],
        whole.LeadsTo check.route check.value ∧
          (∀ fault, check.Fails hooks fault → check.Finds fault.found ∧
            fault.found.DescribedAs fault.found.description ∧ ShownIn fault.found.description fault.message ∧
            ∀ path, fault.path? = some path → path = check.route.text ∧ ShownIn path fault.message) ∧
          (whole.DistinctKeys → whole.PlainKeys →
            ∃! place : Route × Json, whole.LeadsTo place.1 place.2 ∧ place.1.text = check.route.text) := by
  refine ⟨?_, fun check hcheck => ?_⟩
  · rw [ofJson_of_not_isAtom hwhole]
    exact reports_load whole []
  · have hleads : whole.LeadsTo check.route check.value := Json.leadsTo_of_mem_checks hcheck
    refine ⟨hleads, fun fault hfails => ⟨hfails.finds_found, fault.found.describedAs_description,
      fault.description_shown, fun path hpath => ?_⟩, fun hkeys hplain => hleads.existsUnique hkeys hplain⟩
    exact ⟨hfails.path?_eq hpath, SchemaFault.path_shown hpath⟩

/-! The flag is looked at before the field in front of it, and the filter of the outer object, which is the
last of its members, before the list. -/

/-- The members of an object whose flag is a number, behind a field that is no schema. -/
def faultyMembers : Keyed Json := [("x", .null), ("$post", .string "trim"), ("$topLevel", .number (.int 1))]

/-- An object with such an object in a list, in front of a field that is no schema. -/
def faultyBelow : Json :=
  .object [("list", .array [.string "*", .object faultyMembers]), ("y", .bool true), ("$ignore", .string "blank")]

theorem faultyBelow_first_fault :
    ¬ faultyBelow.IsAtom ∧
      FirstFault .empty (faultyBelow.checks []) (.flagType [.key "list", .index 1] (.number (.int 1))) ∧
      (Json.number (.int 1)).DescribedAs "1" ∧
      ShownIn "1" (SchemaFault.flagType [.key "list", .index 1] (.number (.int 1))).message ∧
      ShownIn "$.list[1]" (SchemaFault.flagType [.key "list", .index 1] (.number (.int 1))).message ∧
      ∃! place : Route × Json, faultyBelow.LeadsTo place.1 place.2 ∧ place.1.text = "$.list[1]" := by
  have hwhole : ¬ faultyBelow.IsAtom := nofun
  have hkeys : faultyBelow.DistinctKeys := by
    have hmembers : Json.DistinctKeys (.object faultyMembers) := by
      refine .object (by decide) ?_
      simp only [faultyMembers, List.forall_mem_cons]
      exact ⟨.null, .string _, .number _, nofun⟩
    refine .object (by decide) ?_
    simp only [List.forall_mem_cons]
    exact ⟨.array (List.forall_mem_cons.2 ⟨.string _, List.forall_mem_singleton.2 hmembers⟩), .bool _,
      .string _, nofun⟩
  have hplain : faultyBelow.PlainKeys := by
    have hmembers : Json.PlainKeys (.object faultyMembers) := by
      refine .object (by decide) ?_
      simp only [faultyMembers, List.forall_mem_cons]
      exact ⟨.null, .string _, .number _, nofun⟩
    refine .object (by decide) ?_
    simp only [List.forall_mem_cons]
    exact ⟨.array (List.forall_mem_cons.2 ⟨.string _, List.forall_mem_singleton.2 hmembers⟩), .bool _,
      .string _, nofun⟩
  have hcheck : ⟨[.key "list", .index 1], .object faultyMembers, .topLevel⟩ ∈ faultyBelow.checks [] := by
    simp [faultyBelow, Json.checks, Json.checksOfFields, Json.checksOfItems, directiveAspects,
      (by decide : IsFieldKey "list")]
  have hfails : Check.Fails .empty ⟨[.key "list", .index 1], .object faultyMembers, .topLevel⟩
      (.flagType [.key "list", .index 1] (.number (.int 1))) := by
    refine .topLevel rfl ?_
    intro flag hflag
    cases hflag
  obtain ⟨hfirst, hchecks⟩ := ofJson_answers_first_fault .empty hwhole
  obtain ⟨-, hfault, hplace⟩ := hchecks _ hcheck
  obtain ⟨-, hdescribed, hshown, hpath⟩ := hfault _ hfails
  exact ⟨hwhole, (hfirst _).1 rfl, hdescribed, hshown, (hpath _ rfl).2, hplace hkeys hplain⟩

end Schema

end PageExtract
