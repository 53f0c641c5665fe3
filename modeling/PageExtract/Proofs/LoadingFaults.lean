import PageExtract.Proofs.Loading

/-!
# Which fault loading answers with

A value that is no schema is answered with a fault, and of several faults with that which loading comes to
first. `StandsAt` says which values are looked at as schemas, and at the end of which route; `ReachedAt`
that everything loading looks at before is in order, the directives of the objects on the way included. So
the fault at a value that is reached is the fault of the whole, with the route to it.
-/

namespace PageExtract

namespace Json

/-- A value is looked at as a schema, at the end of a route: it is the root, an item or the value of a
field. -/
inductive StandsAt : Json → Route → Json → Prop where
  | here (value : Json) : StandsAt value [] value
  | item {item value : Json} {route : Route} (before behind : List Json) (h : StandsAt item route value) :
      StandsAt (.array (before ++ item :: behind)) (.index before.length :: route) value
  | field {key : String} {item value : Json} {route : Route} (before behind : Keyed Json)
      (hkey : IsFieldKey key) (h : StandsAt item route value) :
      StandsAt (.object (before ++ (key, item) :: behind)) (.key key :: route) value

/-- A value is looked at as a schema, and there is no fault in anything that is looked at before it. -/
inductive ReachedAt (hooks : Registry) : Json → Route → Json → Prop where
  | here (value : Json) : ReachedAt hooks value [] value
  | item {item value : Json} {route : Route} (before behind : List Json)
      (hbefore : ∀ other ∈ before, other.IsSchema hooks) (h : ReachedAt hooks item route value) :
      ReachedAt hooks (.array (before ++ item :: behind)) (.index before.length :: route) value
  | field {key : String} {item value : Json} {route : Route} (before behind : Keyed Json)
      (hdirectives : Directives.Accepted hooks (before ++ (key, item) :: behind))
      (hbefore : ∀ member ∈ before, IsFieldKey member.1 → member.2.IsSchema hooks)
      (hkey : IsFieldKey key) (h : ReachedAt hooks item route value) :
      ReachedAt hooks (.object (before ++ (key, item) :: behind)) (.key key :: route) value

variable {hooks : Registry} {whole value : Json} {route : Route}

theorem StandsAt.isSchema (h : whole.StandsAt route value) (hwhole : whole.IsSchema hooks) :
    value.IsSchema hooks := by
  induction h with
  | here => exact hwhole
  | item before behind h ih =>
    cases hwhole with
    | list hitems => exact ih (hitems _ (List.mem_append_right before List.mem_cons_self))
  | field before behind hkey h ih =>
    cases hwhole with
    | record hdirectives hfields =>
      exact ih (hfields _ (List.mem_append_right before List.mem_cons_self) hkey)

end Json

namespace Schema

variable {hooks : Registry} {route : Route}

/-- Loading always answers: with a schema or with a fault. -/
theorem exists_load_eq_error_iff {value : Json} :
    (∃ fault, load hooks route value = .error fault) ↔ ¬ value.IsSchema hooks := by
  rw [exists_eq_error_iff, ← exists_denotes_iff]
  simp only [load_eq_ok_iff]

theorem exists_ofJson_eq_error_iff {value : Json} :
    (∃ fault, ofJson hooks value = .error fault) ↔ ¬ value.IsSchema hooks := by
  rw [exists_eq_error_iff, ← exists_denotes_iff]
  simp only [ofJson_eq_ok_iff]

theorem loadItems_append_eq_error (position : Nat) {before behind : List Json} {item : Json}
    {fault : SchemaFault} (hbefore : ∀ other ∈ before, other.IsSchema hooks)
    (h : load hooks (route ++ [.index (position + before.length)]) item = .error fault) :
    loadItems hooks route position (before ++ item :: behind) = .error fault := by
  induction before generalizing position with
  | nil =>
    rw [List.nil_append, loadItems]
    rw [List.length_nil, Nat.add_zero] at h
    rw [h]
    rfl
  | cons other before ih =>
    obtain ⟨hother, hrest⟩ := List.forall_mem_cons.1 hbefore
    obtain ⟨schema, hschema⟩ := exists_denotes_iff.2 hother
    have hposition : position + (other :: before).length = position + 1 + before.length := by
      rw [List.length_cons]
      omega
    rw [hposition] at h
    rw [List.cons_append, loadItems, load_eq_ok_iff.2 hschema, ih (position + 1) hrest h]
    rfl

theorem loadFields_append_eq_error {before behind : Keyed Json} {key : String} {item : Json}
    {fault : SchemaFault}
    (hbefore : ∀ member ∈ before, IsFieldKey member.1 → member.2.IsSchema hooks)
    (hkey : IsFieldKey key) (h : load hooks (route ++ [.key key]) item = .error fault) :
    loadFields hooks route (before ++ (key, item) :: behind) = .error fault := by
  induction before with
  | nil =>
    rw [List.nil_append, loadFields_cons, if_pos hkey, h]
    rfl
  | cons member before ih =>
    obtain ⟨hmember, hrest⟩ := List.forall_mem_cons.1 hbefore
    obtain ⟨name, value⟩ := member
    rw [List.cons_append, loadFields_cons, ih hrest]
    by_cases hname : IsFieldKey name
    · obtain ⟨schema, hschema⟩ := exists_denotes_iff.2 (hmember hname)
      rw [if_pos hname, load_eq_ok_iff.2 hschema]
      rfl
    · rw [if_neg hname]

/-- The fault of a value that is reached is the fault of the whole. -/
theorem load_eq_error_of_reachedAt (route : Route) {whole value : Json} {steps : Route} {fault : SchemaFault}
    (h : whole.ReachedAt hooks steps value) (hvalue : load hooks (route ++ steps) value = .error fault) :
    load hooks route whole = .error fault := by
  induction h generalizing route with
  | here => rwa [List.append_nil] at hvalue
  | item before behind hbefore h ih =>
    have hitem := ih (route ++ [.index before.length])
    rw [List.append_assoc, List.singleton_append] at hitem
    rw [load, loadItems_append_eq_error 0 hbefore (by rw [Nat.zero_add]; exact hitem hvalue)]
    rfl
  | @field key _ _ _ before behind hdirectives hbefore hkey h ih =>
    have hitem := ih (route ++ [.key key])
    rw [List.append_assoc, List.singleton_append] at hitem
    obtain ⟨directives, hdenoted⟩ := Directives.exists_denoted_iff.2 hdirectives
    rw [load, Directives.load_eq_ok_iff.2 hdenoted,
      loadFields_append_eq_error hbefore hkey (hitem hvalue)]
    rfl

theorem ofJson_object_eq_load (hooks : Registry) (members : Keyed Json) :
    ofJson hooks (.object members) = load hooks [] (.object members) := rfl

/-- In a whole in which a fault is reached, and which is at least a list or a record, it is the answer. -/
theorem ofJson_eq_error_of_reachedAt {whole : Json} {steps : Route} {members : Keyed Json}
    {fault : SchemaFault} (h : whole.ReachedAt hooks steps (.object members))
    (hvalue : load hooks steps (.object members) = .error fault) : ofJson hooks whole = .error fault := by
  have hwhole := load_eq_error_of_reachedAt [] h hvalue
  cases h with
  | here => exact hwhole
  | item => exact hwhole
  | field => exact hwhole

end Schema

/-! ### Directives that are passed over -/

namespace Keyed

variable {α : Type}

def without (entries : Keyed α) (key : String) : Keyed α := entries.filter fun entry => entry.1 != key

theorem get?_without_self (entries : Keyed α) (key : String) : (entries.without key).get? key = none := by
  rw [get?, without, List.find?_filter, Option.map_eq_none_iff, List.find?_eq_none]
  rintro entry -
  simp

theorem get?_without_of_ne (entries : Keyed α) {key other : String} (h : other ≠ key) :
    (entries.without key).get? other = entries.get? other := by
  rw [get?, get?, without, List.find?_filter]
  congr 2
  funext entry
  by_cases hentry : entry.1 = other
  · simp [hentry, h]
  · simp [hentry]

end Keyed

namespace Directives

variable {hooks : Registry} {route : Route} {members : Keyed Json}

theorem firstMember?_without (members : Keyed Json) {key : String} {keys : List String} (h : key ∉ keys) :
    firstMember? (members.without key) keys = firstMember? members keys := by
  unfold firstMember?
  induction keys with
  | nil => rfl
  | cons other keys ih =>
    obtain ⟨hne, hkeys⟩ := not_or.1 (List.mem_cons.not.1 h)
    rw [List.findSome?_cons, List.findSome?_cons, Keyed.get?_without_of_ne members (Ne.symm hne), ih hkeys]

theorem loadRule_of_isFalsy {value : Json} (h : value.IsFalsy) : loadRule route (some value) = .ok none :=
  loadRule_eq_ok_iff.2 (.unset h)

theorem load_without_rule {value : Json} (hrule : members.get? "$rule" = some value)
    (hvalue : value.IsFalsy) :
    load hooks route (members.without "$rule") = load hooks route members := by
  rw [load, load, hrule, loadRule_of_isFalsy hvalue, Keyed.get?_without_self, loadRule,
    Keyed.get?_without_of_ne members (by decide : "$topLevel" ≠ "$rule"),
    Keyed.get?_without_of_ne members (by decide : "$constant" ≠ "$rule"),
    firstMember?_without members (by decide), firstMember?_without members (by decide),
    firstMember?_without members (by decide)]

end Directives

namespace Schema

variable {hooks : Registry} {route : Route}

theorem loadFields_without {key : String} (hkey : ¬ IsFieldKey key) (members : Keyed Json) :
    loadFields hooks route (members.without key) = loadFields hooks route members := by
  induction members with
  | nil => rfl
  | cons member members ih =>
    obtain ⟨name, value⟩ := member
    by_cases hname : name = key
    · subst hname
      have hskip : Keyed.without ((name, value) :: members) name = Keyed.without members name :=
        List.filter_cons_of_neg (by simp)
      rw [hskip, ih, loadFields_cons, if_neg hkey]
    · have hkeep : Keyed.without ((name, value) :: members) key =
          (name, value) :: Keyed.without members key :=
        List.filter_cons_of_pos (by simp [hname])
      rw [hkeep, loadFields_cons, loadFields_cons, ih]

theorem load_object_without_rule {members : Keyed Json} {value : Json}
    (hrule : members.get? "$rule" = some value) (hvalue : value.IsFalsy) :
    load hooks route (.object (members.without "$rule")) = load hooks route (.object members) := by
  rw [load, load, Directives.load_without_rule hrule hvalue, loadFields_without (by decide)]

end Schema

/-! ### Rules that are no texts -/

namespace Json

/-- Neither a text nor null nor false. -/
inductive UnfitForRule : Json → Prop where
  | number (n : Number) : UnfitForRule (.number n)
  | bool : UnfitForRule (.bool true)
  | array (items : List Json) : UnfitForRule (.array items)
  | object (members : List (String × Json)) : UnfitForRule (.object members)

/-- A number that is zero, of either kind and sign. -/
def IsZero (value : Json) : Prop := ∃ n : Number, value = .number n ∧ n.isZero = true

theorem IsZero.isFalsy {value : Json} (h : value.IsZero) : value.IsFalsy := by
  obtain ⟨n, rfl, hzero⟩ := h
  exact .zero hzero

theorem UnfitForRule.setsDirective {value : Json} (h : value.UnfitForRule) (hzero : ¬ value.IsZero) :
    value.setsDirective = true := by
  rw [← Bool.not_eq_false, setsDirective_eq_false_iff]
  rintro (_ | _ | hn | _)
  · cases h
  · cases h
  · exact hzero ⟨_, rfl, hn⟩
  · cases h

theorem UnfitForRule.string?_eq_none {value : Json} (h : value.UnfitForRule) : value.string? = none := by
  cases h <;> rfl

end Json

namespace Schema

variable {hooks : Registry} {route : Route}

theorem load_unfit_rule {members : Keyed Json} {value : Json} (hrule : members.get? "$rule" = some value)
    (hunfit : value.UnfitForRule) (hzero : ¬ value.IsZero) :
    load hooks route (.object members) = .error (.ruleType route value) := by
  have hfault : Directives.loadRule route (some value) = .error (.ruleType route value) := by
    rw [Directives.loadRule_some, if_pos (hunfit.setsDirective hzero), hunfit.string?_eq_none]
  rw [load, Directives.load, hrule, hfault]
  rfl

/-- **Which rules that are no texts are refused.** A rule that is neither a text nor null nor false is
refused at whatever depth its object stands, and with the route to that object if nothing before it is
refused, exactly if it is not zero. An object whose rule is zero loads as if it had none. -/
theorem unfit_rule_refused_iff {value : Json} (hunfit : value.UnfitForRule) :
    ((∀ (hooks : Registry) (whole : Json) (steps : Route) (members : Keyed Json),
          whole.StandsAt steps (.object members) → members.get? "$rule" = some value →
          (∃ fault, ofJson hooks whole = .error fault) ∧
            (whole.ReachedAt hooks steps (.object members) →
              ofJson hooks whole = .error (.ruleType steps value))) ↔
        ¬ value.IsZero) ∧
      (value.IsZero → ∀ (hooks : Registry) (route : Route) (members : Keyed Json),
        members.get? "$rule" = some value →
        load hooks route (.object members) = load hooks route (.object (members.without "$rule"))) := by
  refine ⟨⟨fun h hzero => ?_, fun hzero hooks whole steps members hat hrule => ⟨?_, ?_⟩⟩, ?_⟩
  · obtain ⟨⟨fault, hfault⟩, -⟩ := h .empty _ [] [("$rule", value)] (.here _) (Keyed.get?_cons ..)
    rw [ofJson_object_eq_load, ← load_object_without_rule (Keyed.get?_cons ..) hzero.isFalsy] at hfault
    cases hfault
  · refine exists_ofJson_eq_error_iff.2 fun hwhole => ?_
    have hfault : load hooks steps (.object members) = .error (.ruleType steps value) :=
      load_unfit_rule hrule hunfit hzero
    exact exists_load_eq_error_iff.1 ⟨_, hfault⟩ (hat.isSchema hwhole)
  · intro hreached
    exact ofJson_eq_error_of_reachedAt hreached (load_unfit_rule hrule hunfit hzero)
  · intro hzero hooks route members hrule
    exact (load_object_without_rule hrule hzero.isFalsy).symm

/-! A rule that is true stands behind another rule, in a list of a record. -/

def trueRule : Keyed Json := [("$rule", .bool true)]

/-- A record with a list of a rule and such an object. -/
def trueRuleBelow : Json := .object [("a", .array [.string "*", .object trueRule])]

theorem trueRuleBelow_refused :
    Json.UnfitForRule (.bool true) ∧
      trueRuleBelow.ReachedAt .empty [.key "a", .index 1] (.object trueRule) ∧
      ofJson .empty trueRuleBelow = .error (.ruleType [.key "a", .index 1] (.bool true)) := by
  have hrule : Json.IsSchema .empty (.string "*") := .rule rfl
  have hat : trueRuleBelow.StandsAt [.key "a", .index 1] (.object trueRule) :=
    .field [] [] (by decide) (.item [.string "*"] [] (.here _))
  have hreached : trueRuleBelow.ReachedAt .empty [.key "a", .index 1] (.object trueRule) := by
    refine .field [] [] ⟨?_, ?_, ?_, ?_, ?_⟩ nofun (by decide) ?_
    · rintro value ⟨⟩
    · rintro value ⟨⟩
    · rintro value ⟨⟩
    · rintro value ⟨⟩
    · rintro value ⟨⟩
    · exact .item [.string "*"] [] (List.forall_mem_singleton.2 hrule) (.here _)
  have hzero : ¬ Json.IsZero (.bool true) := by
    rintro ⟨n, ⟨⟩, -⟩
  exact ⟨.bool, hreached,
    ((unfit_rule_refused_iff .bool).1.2 hzero .empty _ _ trueRule hat rfl).2 hreached⟩

/-! A rule that is zero is passed over. -/

def zeroRule : Keyed Json := [("$rule", .number (.int 0))]

theorem zeroRule_accepted :
    Json.UnfitForRule (.number (.int 0)) ∧
      zeroRule.get? "$rule" = some (.number (.int 0)) ∧
      (Json.object zeroRule).StandsAt [] (.object zeroRule) ∧
      (Json.object zeroRule).ReachedAt .empty [] (.object zeroRule) ∧
      ofJson .empty (.object zeroRule) = .ok (.record {} []) :=
  ⟨.number _, rfl, .here _, .here _, rfl⟩

end Schema

end PageExtract
