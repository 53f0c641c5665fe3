import PageExtract.Proofs.Loading
import Mathlib.Logic.Relation

/-!
# The layout of a schema in JSON

Loading looks directives up by their keys and goes through the fields in order. So it does not matter where
among the fields the directives stand, nor what is said by members that are never looked at or that leave
a directive unset. `LayoutStep` is one change of this kind, in one object in schema position; values that
differ by any number of them load alike.

What loading sees of an object is in `ReadAlike`, for the directives, and in `fieldMembers`. Every step
keeps both for the object that it changes, and what is loaded below for the others.
-/

namespace PageExtract

/-! ### Steps -/

/-- Null, false or the empty text, as a rule. -/
inductive Json.IsNoRule : Json → Prop where
  | null : IsNoRule .null
  | false : IsNoRule (.bool false)
  | emptyText : IsNoRule (.string "")

/-- One change of layout, in one object in schema position, that loading does not notice: its directives
change places, or a member is dropped that has the empty key, that is the second name of a sanitizer beside
the first, or that leaves the constant or the rule unset. -/
inductive Json.LayoutStep : Json → Json → Prop where
  | move {members others : Keyed Json} (h : members.Perm others) (hkeys : members.keys.Nodup)
      (hfields : Directives.fieldMembers members = Directives.fieldMembers others) :
      LayoutStep (.object members) (.object others)
  | emptyKey (before behind : Keyed Json) (value : Json) :
      LayoutStep (.object (before ++ ("", value) :: behind)) (.object (before ++ behind))
  | spareSanitizer (before behind : Keyed Json) (value : Json)
      (h : "$sanitizer" ∈ Keyed.keys (before ++ behind)) :
      LayoutStep (.object (before ++ ("$fn", value) :: behind)) (.object (before ++ behind))
  | constant (before behind : Keyed Json) {value : Json} (h : value.IsFalsy)
      (hkey : "$constant" ∉ Keyed.keys (before ++ behind)) :
      LayoutStep (.object (before ++ ("$constant", value) :: behind)) (.object (before ++ behind))
  | rule (before behind : Keyed Json) {value : Json} (h : value.IsNoRule)
      (hkey : "$rule" ∉ Keyed.keys (before ++ behind)) :
      LayoutStep (.object (before ++ ("$rule", value) :: behind)) (.object (before ++ behind))
  | item (before behind : List Json) {item other : Json} (h : LayoutStep item other) :
      LayoutStep (.array (before ++ item :: behind)) (.array (before ++ other :: behind))
  | field (before behind : Keyed Json) {key : String} (hkey : IsFieldKey key) {item other : Json}
      (h : LayoutStep item other) :
      LayoutStep (.object (before ++ (key, item) :: behind)) (.object (before ++ (key, other) :: behind))

/-- The values differ by changes of layout, made or undone, in any number. -/
def Json.SameLayout : Json → Json → Prop := Relation.EqvGen Json.LayoutStep

theorem Json.IsNoRule.isFalsy {value : Json} (h : value.IsNoRule) : value.IsFalsy := by
  cases h with
  | null => exact .null
  | false => exact .false
  | emptyText => exact .emptyText

/-! ### What loading sees of an object -/

namespace Directives

variable {hooks : Registry} {route : Route} {members others : Keyed Json}

/-- Loading reads the same of the directives among the members. -/
structure ReadAlike (members others : Keyed Json) : Prop where
  rule (route : Route) : loadRule route (members.get? "$rule") = loadRule route (others.get? "$rule")
  topLevel : members.get? "$topLevel" = others.get? "$topLevel"
  sanitizer : firstMember? members ["$sanitizer", "$fn"] = firstMember? others ["$sanitizer", "$fn"]
  post : firstMember? members ["$post"] = firstMember? others ["$post"]
  ignore : firstMember? members ["$ignore"] = firstMember? others ["$ignore"]
  constant : (members.get? "$constant").filter Json.setsDirective =
    (others.get? "$constant").filter Json.setsDirective

theorem ReadAlike.load_eq (h : ReadAlike members others) :
    load hooks route members = load hooks route others := by
  rw [load, load, h.rule, h.topLevel, h.sanitizer, h.post, h.ignore, h.constant]

theorem firstMember?_congr {keys : List String} (h : ∀ key ∈ keys, members.get? key = others.get? key) :
    firstMember? members keys = firstMember? others keys := by
  unfold firstMember?
  induction keys with
  | nil => rfl
  | cons key keys ih =>
    obtain ⟨hkey, hkeys⟩ := List.forall_mem_cons.1 h
    rw [List.findSome?_cons, List.findSome?_cons, hkey, ih hkeys]

theorem ReadAlike.of_get?_eq (h : ∀ key ∈ reservedKeys, members.get? key = others.get? key) :
    ReadAlike members others where
  rule route := by rw [h "$rule" (by decide)]
  topLevel := h "$topLevel" (by decide)
  sanitizer := firstMember?_congr fun key hkey =>
    h key ((by decide : ["$sanitizer", "$fn"] ⊆ reservedKeys) hkey)
  post := firstMember?_congr fun key hkey => h key ((by decide : ["$post"] ⊆ reservedKeys) hkey)
  ignore := firstMember?_congr fun key hkey => h key ((by decide : ["$ignore"] ⊆ reservedKeys) hkey)
  constant := by rw [h "$constant" (by decide)]

/-- If members of one key are all that differs, only what is read under that key is left to look at. -/
theorem ReadAlike.of_ne {key : String} (h : ∀ other, key ≠ other → members.get? other = others.get? other)
    (hrule : key = "$rule" → ∀ route,
      loadRule route (members.get? "$rule") = loadRule route (others.get? "$rule"))
    (hsanitizer : key = "$sanitizer" ∨ key = "$fn" →
      firstMember? members ["$sanitizer", "$fn"] = firstMember? others ["$sanitizer", "$fn"])
    (hconstant : key = "$constant" → (members.get? "$constant").filter Json.setsDirective =
      (others.get? "$constant").filter Json.setsDirective)
    (hkey : key ∉ ["$topLevel", "$post", "$ignore"]) : ReadAlike members others := by
  simp only [List.mem_cons, List.not_mem_nil, or_false, not_or] at hkey
  obtain ⟨htopLevel, hpost, hignore⟩ := hkey
  refine ⟨fun route => ?_, h _ htopLevel, ?_, ?_, ?_, ?_⟩
  · by_cases heq : key = "$rule"
    · exact hrule heq route
    · rw [h _ heq]
  · by_cases heq : key = "$sanitizer" ∨ key = "$fn"
    · exact hsanitizer heq
    · obtain ⟨hfirst, hsecond⟩ := not_or.1 heq
      exact firstMember?_congr (List.forall_mem_cons.2 ⟨h _ hfirst, List.forall_mem_singleton.2 (h _ hsecond)⟩)
  · exact firstMember?_congr (List.forall_mem_singleton.2 (h _ hpost))
  · exact firstMember?_congr (List.forall_mem_singleton.2 (h _ hignore))
  · by_cases heq : key = "$constant"
    · exact hconstant heq
    · rw [h _ heq]

theorem readAlike_spareSanitizer {before behind : Keyed Json} (value : Json)
    (h : "$sanitizer" ∈ Keyed.keys (before ++ behind)) :
    ReadAlike (before ++ ("$fn", value) :: behind) (before ++ behind) := by
  have hother (key : String) (hne : "$fn" ≠ key) :
      Keyed.get? (before ++ ("$fn", value) :: behind) key = Keyed.get? (before ++ behind) key :=
    Keyed.get?_append_cons_of_ne before behind hne value
  refine .of_ne hother (fun h => absurd h (by decide)) (fun _ => ?_) (fun h => absurd h (by decide)) (by decide)
  obtain ⟨named, hnamed⟩ := Keyed.exists_get?_of_mem h
  have hfirst {members : Keyed Json} (hget : members.get? "$sanitizer" = some named) :
      firstMember? members ["$sanitizer", "$fn"] = some ("$sanitizer", named) := by
    rw [firstMember?, List.findSome?_cons, hget]
    rfl
  rw [hfirst hnamed, hfirst ((hother _ (by decide)).trans hnamed)]

theorem not_mem_keys_of_append {before behind : Keyed Json} {key : String}
    (h : key ∉ Keyed.keys (before ++ behind)) : key ∉ before.keys := by
  rw [Keyed.keys, List.map_append, List.mem_append] at h
  exact fun hmem => h (.inl hmem)

theorem readAlike_constant {before behind : Keyed Json} {value : Json} (h : value.IsFalsy)
    (hkey : "$constant" ∉ Keyed.keys (before ++ behind)) :
    ReadAlike (before ++ ("$constant", value) :: behind) (before ++ behind) := by
  refine .of_ne (fun other hne => Keyed.get?_append_cons_of_ne before behind hne value)
    (fun h => absurd h (by decide)) (fun h => absurd h (by decide)) (fun _ => ?_) (by decide)
  rw [Keyed.get?_append_cons_self (not_mem_keys_of_append hkey), Keyed.get?_eq_none_of_not_mem hkey,
    Option.filter_some, Json.setsDirective_eq_false_iff.2 h, Option.filter_none, if_neg Bool.false_ne_true]

theorem readAlike_rule {before behind : Keyed Json} {value : Json} (h : value.IsFalsy)
    (hkey : "$rule" ∉ Keyed.keys (before ++ behind)) :
    ReadAlike (before ++ ("$rule", value) :: behind) (before ++ behind) := by
  refine .of_ne (fun other hne => Keyed.get?_append_cons_of_ne before behind hne value)
    (fun _ route => ?_) (fun h => absurd h (by decide)) (fun h => absurd h (by decide)) (by decide)
  rw [Keyed.get?_append_cons_self (not_mem_keys_of_append hkey), Keyed.get?_eq_none_of_not_mem hkey,
    loadRule_eq_ok_iff.2 (.unset h), loadRule]

theorem fieldMembers_append_cons (before behind : Keyed Json) {key : String} (h : ¬ IsFieldKey key)
    (value : Json) : fieldMembers (before ++ (key, value) :: behind) = fieldMembers (before ++ behind) := by
  rw [fieldMembers, fieldMembers, List.filter_append, List.filter_append,
    List.filter_cons_of_neg (by simpa using h)]

end Directives

/-! ### Loading after a step -/

namespace Schema

variable {hooks : Registry}

theorem loadFields_fieldMembers (route : Route) (members : Keyed Json) :
    loadFields hooks route (Directives.fieldMembers members) = loadFields hooks route members := by
  induction members with
  | nil => rfl
  | cons member members ih =>
    obtain ⟨key, value⟩ := member
    by_cases hkey : IsFieldKey key
    · rw [Directives.fieldMembers_cons_of_pos hkey, loadFields_cons, loadFields_cons, if_pos hkey, if_pos hkey, ih]
    · rw [Directives.fieldMembers_cons_of_neg hkey, ih, loadFields_cons, if_neg hkey]

theorem load_object_congr {members others : Keyed Json} (h : Directives.ReadAlike members others)
    (hfields : Directives.fieldMembers members = Directives.fieldMembers others) (route : Route) :
    load hooks route (.object members) = load hooks route (.object others) := by
  rw [load, load, h.load_eq, ← loadFields_fieldMembers, hfields, loadFields_fieldMembers]

theorem loadItems_congr {item other : Json} (h : ∀ route, load hooks route item = load hooks route other)
    (route : Route) (position : Nat) (before behind : List Json) :
    loadItems hooks route position (before ++ item :: behind) =
      loadItems hooks route position (before ++ other :: behind) := by
  induction before generalizing position with
  | nil => rw [List.nil_append, List.nil_append, loadItems, loadItems, h]
  | cons first before ih => rw [List.cons_append, List.cons_append, loadItems, loadItems, ih]

theorem loadFields_congr {item other : Json} (h : ∀ route, load hooks route item = load hooks route other)
    (route : Route) (key : String) (before behind : Keyed Json) :
    loadFields hooks route (before ++ (key, item) :: behind) =
      loadFields hooks route (before ++ (key, other) :: behind) := by
  induction before with
  | nil => rw [List.nil_append, List.nil_append, loadFields, loadFields, h]
  | cons member before ih =>
    obtain ⟨name, value⟩ := member
    rw [List.cons_append, List.cons_append, loadFields, loadFields, ih]

theorem readAlike_field (before behind : Keyed Json) {key : String} (hkey : IsFieldKey key)
    (item other : Json) :
    Directives.ReadAlike (before ++ (key, item) :: behind) (before ++ (key, other) :: behind) := by
  refine .of_get?_eq fun reserved hreserved => ?_
  have hne : key ≠ reserved := by
    rintro rfl
    exact hkey.2 hreserved
  rw [Keyed.get?_append_cons_of_ne before behind hne, Keyed.get?_append_cons_of_ne before behind hne]

/-- Wherever a value stands, it loads as it does after a change of layout. -/
theorem load_eq_of_layoutStep {value other : Json} (h : value.LayoutStep other) (route : Route) :
    load hooks route value = load hooks route other := by
  induction h generalizing route with
  | move hperm hkeys hfields =>
    exact load_object_congr (.of_get?_eq fun key _ => Keyed.get?_eq_of_perm hperm hkeys key) hfields route
  | emptyKey before behind value =>
    have hread : Directives.ReadAlike (before ++ ("", value) :: behind) (before ++ behind) :=
      .of_get?_eq fun key hkey =>
        Keyed.get?_append_cons_of_ne before behind (by rintro rfl; exact absurd hkey (by decide)) value
    exact load_object_congr hread (Directives.fieldMembers_append_cons before behind (by decide) value) route
  | spareSanitizer before behind value h =>
    exact load_object_congr (Directives.readAlike_spareSanitizer value h)
      (Directives.fieldMembers_append_cons before behind (by decide) value) route
  | constant before behind h hkey =>
    exact load_object_congr (Directives.readAlike_constant h hkey)
      (Directives.fieldMembers_append_cons before behind (by decide) _) route
  | rule before behind h hkey =>
    exact load_object_congr (Directives.readAlike_rule h.isFalsy hkey)
      (Directives.fieldMembers_append_cons before behind (by decide) _) route
  | item before behind _ ih => rw [load, load, loadItems_congr ih]
  | field before behind hkey _ ih =>
    rw [load, load, (readAlike_field before behind hkey _ _).load_eq, loadFields_congr ih]

theorem ofJson_eq_of_layoutStep {value other : Json} (h : value.LayoutStep other) :
    ofJson hooks value = ofJson hooks other := by
  have hload : load hooks [] value = load hooks [] other := load_eq_of_layoutStep h []
  -- a step is never between atoms, which are the only values that do not load at the root
  cases h <;> exact hload

/-- **Loading does not depend on the layout.** Values that differ by changes of layout, in any objects and in
any number, load as the same schema or are refused with the same fault. -/
theorem ofJson_eq_of_sameLayout {value other : Json} (h : value.SameLayout other) (hooks : Registry) :
    ofJson hooks value = ofJson hooks other := by
  induction h with
  | rel value other h => exact ofJson_eq_of_layoutStep h
  | refl value => rfl
  | symm value other _ ih => exact ih.symm
  | trans value between other _ _ ih ih' => exact ih.trans ih'

/-! Changes at two depths: in an object in a list, and in the one around it. -/

/-- An object with its directives last and among them some that say nothing. -/
def untidySchema : Json :=
  .object [("$rule", .bool false), ("rows", .array [.object [("$constant", .number (.int 0)), ("b", .string "*"),
    ("$fn", .bool true), ("", .null), ("$sanitizer", .string "text")]]), ("$topLevel", .bool true)]

def tidySchema : Json :=
  .object [("$topLevel", .bool true),
    ("rows", .array [.object [("$sanitizer", .string "text"), ("b", .string "*")]])]

theorem untidySchema_sameLayout :
    untidySchema.SameLayout tidySchema ∧ ofJson .empty untidySchema = ofJson .empty tidySchema ∧
      (ofJson .empty tidySchema).toOption.isSome = true := by
  have hrows : Json.SameLayout untidySchema (.object [("$rule", .bool false),
      ("rows", .array [.object [("$sanitizer", .string "text"), ("b", .string "*")]]), ("$topLevel", .bool true)]) := by
    have hin {item other : Json} (h : item.LayoutStep other) : Json.SameLayout
        (.object [("$rule", .bool false), ("rows", .array [item]), ("$topLevel", .bool true)])
        (.object [("$rule", .bool false), ("rows", .array [other]), ("$topLevel", .bool true)]) :=
      .rel _ _ (.field [("$rule", .bool false)] [("$topLevel", .bool true)] (by decide) (.item [] [] h))
    refine .trans _ _ _ (hin (.constant [] _ (.zero rfl) (by decide))) ?_
    refine .trans _ _ _ (hin (.spareSanitizer [("b", .string "*")] _ _ (by decide))) ?_
    refine .trans _ _ _ (hin (.emptyKey [("b", .string "*")] _ _)) ?_
    exact hin (.move (.swap _ _ _) (by decide) rfl)
  have hlayout : untidySchema.SameLayout tidySchema := by
    refine .trans _ _ _ hrows (.trans _ _ _ (.rel _ _ (.rule [] _ .false (by decide))) ?_)
    exact .rel _ _ (.move (.swap _ _ _) (by decide) rfl)
  refine ⟨hlayout, ofJson_eq_of_sameLayout hlayout .empty, ?_⟩
  decide +kernel

end Schema

end PageExtract
