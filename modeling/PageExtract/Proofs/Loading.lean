import PageExtract.Schema.Loader
import PageExtract.Proofs.Shape

/-!
# What loads, and as what

Which JSON values are schemas is said here without a loader: `IsSchema` is the grammar, one case per kind
of value, and `Denotes` the schema that a value stands for. Neither knows of routes, of faults or of the
order in which members are looked at. Loading succeeds on the values of the grammar and on no other, and
gives what they denote.

`Json.induct` asks for the facts about the items or members right below a value. The rest of the proofs
reach the recursions over items and fields only through `loadItems_eq_ok_iff` and `loadFields_eq_ok_iff`.
-/

namespace PageExtract

/-- What holds of a value if it does of its items or members holds of every value. -/
@[elab_as_elim] theorem Json.induct {motive : Json → Prop} (null : motive .null)
    (bool : ∀ b, motive (.bool b)) (number : ∀ n, motive (.number n)) (string : ∀ s, motive (.string s))
    (array : ∀ items, (∀ item ∈ items, motive item) → motive (.array items))
    (object : ∀ members, (∀ member ∈ members, motive member.2) → motive (.object members))
    (value : Json) : motive value := by
  refine @Json.rec motive (fun items => ∀ item ∈ items, motive item)
    (fun members => ∀ member ∈ members, motive member.2) (fun member => motive member.2)
    null bool number string array object ?_ ?_ ?_ ?_ ?_ value
  · simp only [List.not_mem_nil, false_implies, implies_true]
  · exact fun item items hitem hitems => List.forall_mem_cons.2 ⟨hitem, hitems⟩
  · simp only [List.not_mem_nil, false_implies, implies_true]
  · exact fun member members hmember hmembers => List.forall_mem_cons.2 ⟨hmember, hmembers⟩
  · exact fun key value hvalue => hvalue

/-! ### Grammar and meaning -/

/-- A key of fields: it is not empty and names no directive. -/
def IsFieldKey (key : String) : Prop :=
  key ≠ "" ∧ key ∉ ["$rule", "$topLevel", "$sanitizer", "$fn", "$post", "$ignore", "$constant"]

instance : DecidablePred IsFieldKey := fun _ => instDecidableAnd

/-- Null, false, zero and the empty text. -/
inductive Json.IsFalsy : Json → Prop where
  | null : IsFalsy .null
  | false : IsFalsy (.bool false)
  | zero {n : Number} (h : n.isZero = true) : IsFalsy (.number n)
  | emptyText : IsFalsy (.string "")

def Json.NamesHook {α : Type} (find : String → Option α) (value : Json) : Prop :=
  ∃ name hook, value = .string name ∧ find name = some hook

namespace Directives

def fieldMembers (members : Keyed Json) : Keyed Json := members.filter fun member => IsFieldKey member.1

/-- The member that names the sanitizer: the second key only stands in for the first. -/
def sanitizerMember? (members : Keyed Json) : Option Json :=
  (members.get? "$sanitizer").or (members.get? "$fn")

/-- The directives of an object are well formed. Nothing is asked of a constant. -/
structure Accepted (hooks : Registry) (members : Keyed Json) : Prop where
  rule : ∀ value, members.get? "$rule" = some value →
    value.IsFalsy ∨ ∃ source rule, value = .string source ∧ Rule.parse source = .ok rule
  topLevel : ∀ value, members.get? "$topLevel" = some value → ∃ flag, value = .bool flag
  sanitizer : ∀ value, sanitizerMember? members = some value → value.NamesHook hooks.sanitizer?
  post : ∀ value, members.get? "$post" = some value → value.NamesHook hooks.postProcessor?
  ignore : ∀ value, members.get? "$ignore" = some value → value.NamesHook hooks.ignoreFilter?

/-- The rule that a member stands for, if it is there. -/
inductive RuleIs : Option Json → Option Rule → Prop where
  | absent : RuleIs none none
  | unset {value : Json} (h : value.IsFalsy) : RuleIs (some value) none
  | set {source : String} {rule : Rule} (hne : source ≠ "") (h : Rule.parse source = .ok rule) :
      RuleIs (some (.string source)) (some rule)

/-- The flag that a member stands for, if it is there. -/
inductive FlagIs : Option Json → Bool → Prop where
  | absent : FlagIs none false
  | set (flag : Bool) : FlagIs (some (.bool flag)) flag

/-- The hook that a member names, if it is there. -/
inductive HookIs {α : Type} (find : String → Option α) : Option Json → Option α → Prop where
  | absent : HookIs find none none
  | named {name : String} {hook : α} (h : find name = some hook) : HookIs find (some (.string name)) (some hook)

/-- The constant that a member stands for, if it is there. -/
inductive ConstantIs : Option Json → Option Json → Prop where
  | absent : ConstantIs none none
  | unset {value : Json} (h : value.IsFalsy) : ConstantIs (some value) none
  | set {value : Json} (h : ¬ value.IsFalsy) : ConstantIs (some value) (some value)

/-- The directives that the members of an object stand for. -/
structure Denoted (hooks : Registry) (members : Keyed Json) (directives : Directives) : Prop where
  rule : RuleIs (members.get? "$rule") directives.rule
  topLevel : FlagIs (members.get? "$topLevel") directives.topLevel
  sanitizer : HookIs hooks.sanitizer? (sanitizerMember? members) directives.sanitizer
  post : HookIs hooks.postProcessor? (members.get? "$post") directives.post
  ignore : HookIs hooks.ignoreFilter? (members.get? "$ignore") directives.ignore
  constant : ConstantIs (members.get? "$constant") directives.constant

end Directives

/-- The JSON values that are schemas. -/
inductive Json.IsSchema (hooks : Registry) : Json → Prop where
  | rule {source : String} {rule : Rule} (h : Rule.parse source = .ok rule) : IsSchema hooks (.string source)
  | list {items : List Json} (hitems : ∀ item ∈ items, IsSchema hooks item) : IsSchema hooks (.array items)
  | record {members : Keyed Json} (hdirectives : Directives.Accepted hooks members)
      (hfields : ∀ member ∈ members, IsFieldKey member.1 → IsSchema hooks member.2) :
      IsSchema hooks (.object members)

/-- The schema that a JSON value stands for. -/
inductive Schema.Denotes (hooks : Registry) : Json → Schema → Prop where
  | rule {source : String} {rule : Rule} (h : Rule.parse source = .ok rule) :
      Denotes hooks (.string source) (.rule rule)
  | list {items : List Json} {schemas : List Schema} (h : List.Forall₂ (Denotes hooks) items schemas) :
      Denotes hooks (.array items) (.list schemas)
  | record {members : Keyed Json} {directives : Directives} {fields : List (String × Schema)}
      (hdirectives : Directives.Denoted hooks members directives)
      (hnames : fields.map Prod.fst = (Directives.fieldMembers members).map Prod.fst)
      (hfields : List.Forall₂ (Denotes hooks) ((Directives.fieldMembers members).map Prod.snd)
        (fields.map Prod.snd)) :
      Denotes hooks (.object members) (.record directives fields)

/-- The members of every object, at every depth, have different keys. -/
inductive Json.DistinctKeys : Json → Prop where
  | null : DistinctKeys .null
  | bool (b : Bool) : DistinctKeys (.bool b)
  | number (n : Number) : DistinctKeys (.number n)
  | string (s : String) : DistinctKeys (.string s)
  | array {items : List Json} (hitems : ∀ item ∈ items, DistinctKeys item) : DistinctKeys (.array items)
  | object {members : List (String × Json)} (hkeys : (members.map Prod.fst).Nodup)
      (hmembers : ∀ member ∈ members, DistinctKeys member.2) : DistinctKeys (.object members)

/-! ### Chains that may fail -/

theorem bind_eq_ok_iff {ε α β : Type} {x : Except ε α} {f : α → Except ε β} {b : β} :
    (x >>= f) = .ok b ↔ ∃ a, x = .ok a ∧ f a = .ok b := by
  cases x with
  | error e => simp [bind, Except.bind]
  | ok a => simp [bind, Except.bind]

theorem map_eq_ok_iff {ε α β : Type} {x : Except ε α} {f : α → β} {b : β} :
    x.map f = .ok b ↔ ∃ a, x = .ok a ∧ f a = b := by
  cases x with
  | error e => simp [Except.map]
  | ok a => simp [Except.map]

theorem exists_eq_error_iff {ε α : Type} {x : Except ε α} :
    (∃ e, x = .error e) ↔ ¬ ∃ a, x = .ok a := by
  cases x with
  | error e => simp
  | ok a => simp

/-! ### Fields -/

theorem isFieldKey_iff {key : String} : isFieldKey key = true ↔ IsFieldKey key := by
  simp [isFieldKey, IsFieldKey, reservedKeys]

namespace Directives

variable {members : Keyed Json} {key : String}

theorem mem_fieldMembers_iff {member : String × Json} :
    member ∈ fieldMembers members ↔ member ∈ members ∧ IsFieldKey member.1 := by
  rw [fieldMembers, List.mem_filter, decide_eq_true_iff]

theorem fieldMembers_cons_of_pos (hkey : IsFieldKey key) (value : Json) :
    fieldMembers ((key, value) :: members) = (key, value) :: fieldMembers members :=
  List.filter_cons_of_pos (decide_eq_true hkey)

theorem fieldMembers_cons_of_neg (hkey : ¬ IsFieldKey key) (value : Json) :
    fieldMembers ((key, value) :: members) = fieldMembers members :=
  List.filter_cons_of_neg (by simpa using hkey)

end Directives

theorem Schema.loadFields_cons (hooks : Registry) (route : Route) (key : String) (value : Json) (members : Keyed Json) :
    loadFields hooks route ((key, value) :: members) =
      if IsFieldKey key then do
        let schema ← load hooks (route ++ [.key key]) value
        let fields ← loadFields hooks route members
        return (key, schema) :: fields
      else loadFields hooks route members := by
  rw [loadFields]
  simp only [isFieldKey_iff]

/-! ### Directives -/

theorem Json.setsDirective_eq_false_iff {value : Json} : value.setsDirective = false ↔ value.IsFalsy := by
  constructor
  · intro h
    cases value with
    | null => exact .null
    | bool b =>
      obtain rfl : b = false := h
      exact .false
    | number n => exact .zero (by simpa [setsDirective] using h)
    | string text =>
      obtain rfl : text = "" := by simpa [setsDirective] using h
      exact .emptyText
    | array items => cases h
    | object members => cases h
  · rintro (_ | _ | h | _)
    · rfl
    · rfl
    · simp [setsDirective, h]
    · rfl

theorem Json.string?_eq_some_iff {value : Json} {text : String} :
    value.string? = some text ↔ value = .string text := by
  cases value <;> simp [string?]

theorem Json.bool?_eq_some_iff {value : Json} {flag : Bool} :
    value.bool? = some flag ↔ value = .bool flag := by
  cases value <;> simp [bool?]

namespace Directives

variable {hooks : Registry} {route : Route} {members : Keyed Json}

theorem ruleOf_eq_ok_iff {source : String} {rule : Rule} :
    ruleOf source = .ok rule ↔ Rule.parse source = .ok rule := by
  unfold ruleOf
  generalize Rule.parse source = parsed
  cases parsed with
  | ok parsed => simp only [Except.ok.injEq]
  | error fault => simp only [reduceCtorEq]

theorem loadRule_some (value : Json) :
    loadRule route (some value) =
      if value.setsDirective then
        match value.string? with
        | some source => (ruleOf source).map some
        | none => .error (.ruleType route value)
      else .ok none := by
  cases value <;> rfl

theorem loadRule_eq_ok_iff {member : Option Json} {rule : Option Rule} :
    loadRule route member = .ok rule ↔ RuleIs member rule := by
  cases member with
  | none =>
    rw [loadRule, Except.ok.injEq]
    constructor
    · rintro rfl
      exact .absent
    · rintro ⟨⟩
      rfl
  | some value =>
    rw [loadRule_some]
    cases hset : value.setsDirective with
    | false =>
      have hfalsy := Json.setsDirective_eq_false_iff.1 hset
      rw [if_neg Bool.false_ne_true, Except.ok.injEq]
      constructor
      · rintro rfl
        exact .unset hfalsy
      · rintro (_ | _ | ⟨hne, -⟩)
        · rfl
        · cases hfalsy
          exact absurd rfl hne
    | true =>
      have htruthy : ¬ value.IsFalsy := by
        rw [← Json.setsDirective_eq_false_iff, hset]
        exact Bool.noConfusion
      rw [if_pos rfl]
      constructor
      · intro h
        cases hstring : value.string? with
        | none =>
          rw [hstring] at h
          cases h
        | some source =>
          obtain rfl := Json.string?_eq_some_iff.1 hstring
          rw [hstring] at h
          obtain ⟨parsed, hparsed, rfl⟩ := map_eq_ok_iff.1 h
          refine .set ?_ (ruleOf_eq_ok_iff.1 hparsed)
          rintro rfl
          exact htruthy .emptyText
      · rintro (_ | h | ⟨-, h⟩)
        · exact absurd h htruthy
        · exact map_eq_ok_iff.2 ⟨_, ruleOf_eq_ok_iff.2 h, rfl⟩

theorem loadFlag_some (value : Json) :
    loadFlag route (some value) =
      match value.bool? with
      | some flag => .ok flag
      | none => .error (.flagType route value) := by
  cases value <;> rfl

theorem loadFlag_eq_ok_iff {member : Option Json} {flag : Bool} :
    loadFlag route member = .ok flag ↔ FlagIs member flag := by
  cases member with
  | none =>
    rw [loadFlag, Except.ok.injEq]
    constructor
    · rintro rfl
      exact .absent
    · rintro ⟨⟩
      rfl
  | some value =>
    rw [loadFlag_some]
    constructor
    · intro h
      cases hbool : value.bool? with
      | none =>
        rw [hbool] at h
        cases h
      | some found =>
        rw [hbool] at h
        obtain rfl : found = flag := Except.ok.inj h
        obtain rfl := Json.bool?_eq_some_iff.1 hbool
        exact .set found
    · rintro ⟨⟩
      rfl

section Hook

variable {α : Type} {kind : HookKind} {find : String → Option α}

theorem loadHook_some (directive : String) (value : Json) :
    loadHook route kind find (some (directive, value)) =
      match value.string? with
      | some name =>
        match find name with
        | some hook => .ok (some hook)
        | none => .error (.unknownHook route kind name)
      | none => .error (.hookType route directive value) := by
  cases value <;> rfl

theorem loadHook_eq_ok_iff {member : Option (String × Json)} {hook : Option α} :
    loadHook route kind find member = .ok hook ↔ HookIs find (member.map Prod.snd) hook := by
  cases member with
  | none =>
    rw [loadHook, Except.ok.injEq]
    constructor
    · rintro rfl
      exact .absent
    · rintro ⟨⟩
      rfl
  | some member =>
    obtain ⟨directive, value⟩ := member
    rw [loadHook_some]
    constructor
    · intro h
      cases hstring : value.string? with
      | none =>
        rw [hstring] at h
        cases h
      | some name =>
        obtain rfl := Json.string?_eq_some_iff.1 hstring
        rw [hstring] at h
        cases hfind : find name with
        | none => simp only [hfind, reduceCtorEq] at h
        | some found =>
          simp only [hfind, Except.ok.injEq] at h
          subst h
          exact .named hfind
    · rintro (_ | hfind)
      simp only [Json.string?, hfind]

end Hook

theorem firstMember?_single (key : String) :
    (firstMember? members [key]).map Prod.snd = members.get? key := by
  unfold firstMember?
  cases h : members.get? key <;> simp [h]

theorem firstMember?_sanitizer :
    (firstMember? members ["$sanitizer", "$fn"]).map Prod.snd = sanitizerMember? members := by
  unfold firstMember? sanitizerMember?
  cases h : members.get? "$sanitizer" <;> cases h' : members.get? "$fn" <;> simp [h, h']

theorem constantIs_iff {member constant : Option Json} :
    ConstantIs member constant ↔ member.filter Json.setsDirective = constant := by
  cases member with
  | none =>
    rw [Option.filter_none]
    constructor
    · rintro ⟨⟩
      rfl
    · rintro rfl
      exact .absent
  | some value =>
    by_cases hfalsy : value.IsFalsy
    · rw [Option.filter_some, Json.setsDirective_eq_false_iff.2 hfalsy, if_neg Bool.false_ne_true]
      constructor
      · rintro (_ | _ | htruthy)
        · rfl
        · exact absurd hfalsy htruthy
      · rintro rfl
        exact .unset hfalsy
    · have hset : value.setsDirective = true := by
        rw [← Json.setsDirective_eq_false_iff, Bool.not_eq_false] at hfalsy
        exact hfalsy
      rw [Option.filter_some, hset, if_pos rfl]
      constructor
      · rintro (_ | h | _)
        · exact absurd h hfalsy
        · rfl
      · rintro rfl
        exact .set hfalsy

/-- The directives of an object load as what its members stand for. -/
theorem load_eq_ok_iff {directives : Directives} :
    load hooks route members = .ok directives ↔ Denoted hooks members directives := by
  rw [load]
  simp only [bind_eq_ok_iff, loadRule_eq_ok_iff, loadFlag_eq_ok_iff, loadHook_eq_ok_iff,
    firstMember?_single, firstMember?_sanitizer]
  constructor
  · rintro ⟨rule, hrule, topLevel, hflag, sanitizer, hsanitizer, post, hpost, ignore, hignore, h⟩
    obtain rfl := Except.ok.inj h
    exact ⟨hrule, hflag, hsanitizer, hpost, hignore, constantIs_iff.2 rfl⟩
  · rintro ⟨hrule, hflag, hsanitizer, hpost, hignore, hconstant⟩
    refine ⟨_, hrule, _, hflag, _, hsanitizer, _, hpost, _, hignore, ?_⟩
    rw [constantIs_iff.1 hconstant]
    rfl

theorem exists_ruleIs_iff {member : Option Json} :
    (∃ rule, RuleIs member rule) ↔ ∀ value, member = some value →
      value.IsFalsy ∨ ∃ source rule, value = .string source ∧ Rule.parse source = .ok rule := by
  constructor
  · rintro ⟨rule, _ | hfalsy | ⟨-, hrule⟩⟩ value hvalue
    · cases hvalue
    · obtain rfl := Option.some.inj hvalue
      exact .inl hfalsy
    · exact .inr ⟨_, _, (Option.some.inj hvalue).symm, hrule⟩
  · intro h
    cases member with
    | none => exact ⟨none, .absent⟩
    | some value =>
      by_cases hfalsy : value.IsFalsy
      · exact ⟨none, .unset hfalsy⟩
      · obtain ⟨source, rule, rfl, hrule⟩ := (h value rfl).resolve_left hfalsy
        refine ⟨some rule, .set ?_ hrule⟩
        rintro rfl
        exact hfalsy .emptyText

theorem exists_flagIs_iff {member : Option Json} :
    (∃ flag, FlagIs member flag) ↔ ∀ value, member = some value → ∃ flag, value = .bool flag := by
  constructor
  · rintro ⟨flag, _ | _⟩ value hvalue
    · cases hvalue
    · exact ⟨flag, (Option.some.inj hvalue).symm⟩
  · intro h
    cases member with
    | none => exact ⟨false, .absent⟩
    | some value =>
      obtain ⟨flag, rfl⟩ := h value rfl
      exact ⟨flag, .set flag⟩

theorem exists_hookIs_iff {α : Type} {find : String → Option α} {member : Option Json} :
    (∃ hook, HookIs find member hook) ↔ ∀ value, member = some value → value.NamesHook find := by
  constructor
  · rintro ⟨hook, _ | hfind⟩ value hvalue
    · cases hvalue
    · exact ⟨_, _, (Option.some.inj hvalue).symm, hfind⟩
  · intro h
    cases member with
    | none => exact ⟨none, .absent⟩
    | some value =>
      obtain ⟨name, hook, rfl, hfind⟩ := h value rfl
      exact ⟨some hook, .named hfind⟩

theorem exists_denoted_iff : (∃ directives, Denoted hooks members directives) ↔ Accepted hooks members := by
  constructor
  · rintro ⟨directives, h⟩
    exact ⟨exists_ruleIs_iff.1 ⟨_, h.rule⟩, exists_flagIs_iff.1 ⟨_, h.topLevel⟩,
      exists_hookIs_iff.1 ⟨_, h.sanitizer⟩, exists_hookIs_iff.1 ⟨_, h.post⟩,
      exists_hookIs_iff.1 ⟨_, h.ignore⟩⟩
  · intro h
    obtain ⟨rule, hrule⟩ := exists_ruleIs_iff.2 h.rule
    obtain ⟨topLevel, hflag⟩ := exists_flagIs_iff.2 h.topLevel
    obtain ⟨sanitizer, hsanitizer⟩ := exists_hookIs_iff.2 h.sanitizer
    obtain ⟨post, hpost⟩ := exists_hookIs_iff.2 h.post
    obtain ⟨ignore, hignore⟩ := exists_hookIs_iff.2 h.ignore
    exact ⟨{ rule, topLevel, sanitizer, post, ignore, constant := _ }, hrule, hflag, hsanitizer, hpost,
      hignore, constantIs_iff.2 rfl⟩

end Directives

namespace Schema

variable {hooks : Registry} {route : Route}

/-! ### Items and fields -/

theorem loadItems_eq_ok_iff {items : List Json}
    (h : ∀ item ∈ items, ∀ route schema, load hooks route item = .ok schema ↔ Denotes hooks item schema)
    {position : Nat} {schemas : List Schema} :
    loadItems hooks route position items = .ok schemas ↔ List.Forall₂ (Denotes hooks) items schemas := by
  induction items generalizing position schemas with
  | nil =>
    rw [loadItems, List.forall₂_nil_left_iff, Except.ok.injEq]
    exact eq_comm
  | cons item items ih =>
    obtain ⟨hitem, hitems⟩ := List.forall_mem_cons.1 h
    simp only [loadItems, bind_eq_ok_iff, hitem, ih hitems, List.forall₂_cons_left_iff]
    constructor
    · rintro ⟨schema, hschema, rest, hrest, hschemas⟩
      exact ⟨schema, rest, hschema, hrest, (Except.ok.inj hschemas).symm⟩
    · rintro ⟨schema, rest, hschema, hrest, rfl⟩
      exact ⟨schema, hschema, rest, hrest, rfl⟩

theorem loadFields_eq_ok_iff {members : Keyed Json}
    (h : ∀ member ∈ members, ∀ route schema,
      load hooks route member.2 = .ok schema ↔ Denotes hooks member.2 schema)
    {fields : List (String × Schema)} :
    loadFields hooks route members = .ok fields ↔
      fields.map Prod.fst = (Directives.fieldMembers members).map Prod.fst ∧
        List.Forall₂ (Denotes hooks) ((Directives.fieldMembers members).map Prod.snd)
          (fields.map Prod.snd) := by
  induction members generalizing fields with
  | nil =>
    rw [loadFields, Except.ok.injEq, Directives.fieldMembers, List.filter_nil]
    constructor
    · rintro rfl
      exact ⟨rfl, .nil⟩
    · rintro ⟨hnames, -⟩
      exact (List.map_eq_nil_iff.1 hnames).symm
  | cons member members ih =>
    obtain ⟨hmember, hmembers⟩ := List.forall_mem_cons.1 h
    obtain ⟨key, value⟩ := member
    rw [loadFields_cons]
    by_cases hkey : IsFieldKey key
    · simp only [if_pos hkey, bind_eq_ok_iff, hmember, ih hmembers, Directives.fieldMembers_cons_of_pos hkey,
        List.map_cons]
      constructor
      · rintro ⟨schema, hschema, rest, ⟨hnames, hrest⟩, hfields⟩
        obtain rfl := Except.ok.inj hfields
        exact ⟨congrArg (key :: ·) hnames, .cons hschema hrest⟩
      · rintro ⟨hnames, hfields⟩
        obtain ⟨⟨name, schema⟩, rest, rfl, rfl, hrest⟩ := List.map_eq_cons_iff.1 hnames
        cases hfields with
        | cons hschema hvalues => exact ⟨schema, hschema, rest, ⟨hrest, hvalues⟩, rfl⟩
    · rw [if_neg hkey, ih hmembers, Directives.fieldMembers_cons_of_neg hkey]

/-! ### Values -/

/-- Loading gives what a value denotes, wherever the value stands. -/
theorem load_eq_ok_iff {value : Json} {schema : Schema} :
    load hooks route value = .ok schema ↔ Denotes hooks value schema := by
  induction value using Json.induct generalizing route schema with
  | null => constructor <;> rintro ⟨⟩
  | bool b => constructor <;> rintro ⟨⟩
  | number n => constructor <;> rintro ⟨⟩
  | string source =>
    rw [load, map_eq_ok_iff]
    constructor
    · rintro ⟨rule, hrule, rfl⟩
      exact .rule (Directives.ruleOf_eq_ok_iff.1 hrule)
    · rintro ⟨hrule⟩
      exact ⟨_, Directives.ruleOf_eq_ok_iff.2 hrule, rfl⟩
  | array items ih =>
    rw [load, map_eq_ok_iff]
    have hitems {schemas : List Schema} :
        loadItems hooks route 0 items = .ok schemas ↔ List.Forall₂ (Denotes hooks) items schemas :=
      loadItems_eq_ok_iff fun item hitem route schema => ih item hitem
    constructor
    · rintro ⟨schemas, hschemas, rfl⟩
      exact .list (hitems.1 hschemas)
    · intro h
      cases h with
      | list h => exact ⟨_, hitems.2 h, rfl⟩
  | object members ih =>
    have hmembers : ∀ member ∈ members, ∀ route schema,
        load hooks route member.2 = .ok schema ↔ Denotes hooks member.2 schema :=
      fun member hmember route schema => ih member hmember
    simp only [load, bind_eq_ok_iff, Directives.load_eq_ok_iff, loadFields_eq_ok_iff hmembers]
    constructor
    · rintro ⟨directives, hdirectives, fields, ⟨hnames, hvalues⟩, h⟩
      obtain rfl := Except.ok.inj h
      exact .record hdirectives hnames hvalues
    · intro h
      cases h with
      | record hdirectives hnames hvalues =>
        exact ⟨_, hdirectives, _, ⟨hnames, hvalues⟩, rfl⟩

theorem exists_forall₂_iff {α β : Type} {r : α → β → Prop} {as : List α} :
    (∃ bs, List.Forall₂ r as bs) ↔ ∀ a ∈ as, ∃ b, r a b := by
  induction as with
  | nil => exact iff_of_true ⟨[], .nil⟩ nofun
  | cons a as ih =>
    rw [List.forall_mem_cons, ← ih]
    constructor
    · rintro ⟨_, _ | ⟨hab, hrest⟩⟩
      exact ⟨⟨_, hab⟩, ⟨_, hrest⟩⟩
    · rintro ⟨⟨b, hab⟩, ⟨bs, hrest⟩⟩
      exact ⟨b :: bs, .cons hab hrest⟩

theorem exists_fields_iff {α : Type} {members : Keyed Json} {r : Json → α → Prop} :
    (∃ fields : List (String × α), fields.map Prod.fst = members.map Prod.fst ∧
        List.Forall₂ r (members.map Prod.snd) (fields.map Prod.snd)) ↔
      ∀ member ∈ members, ∃ schema, r member.2 schema := by
  constructor
  · rintro ⟨fields, -, hvalues⟩ member hmember
    exact exists_forall₂_iff.1 ⟨_, hvalues⟩ _ (List.mem_map_of_mem hmember)
  · intro h
    obtain ⟨schemas, hschemas⟩ := exists_forall₂_iff.2 (List.forall_mem_map.2 h)
    have hlength : members.length = schemas.length := by simpa using hschemas.length_eq
    refine ⟨(members.map Prod.fst).zip schemas, ?_, ?_⟩
    · exact List.map_fst_zip (by simp [hlength])
    · rw [List.map_snd_zip (by simp [hlength])]
      exact hschemas

theorem exists_denotes_iff {value : Json} :
    (∃ schema, Denotes hooks value schema) ↔ value.IsSchema hooks := by
  induction value using Json.induct with
  | null => constructor <;> rintro ⟨_, ⟨⟩⟩
  | bool b => constructor <;> rintro ⟨_, ⟨⟩⟩
  | number n => constructor <;> rintro ⟨_, ⟨⟩⟩
  | string source =>
    constructor
    · rintro ⟨_, ⟨hrule⟩⟩
      exact .rule hrule
    · rintro ⟨hrule⟩
      exact ⟨_, .rule hrule⟩
  | array items ih =>
    constructor
    · rintro ⟨_, h⟩
      cases h with
      | list h => exact .list fun item hitem => (ih item hitem).1 (exists_forall₂_iff.1 ⟨_, h⟩ item hitem)
    · intro h
      cases h with
      | list hitems =>
        obtain ⟨schemas, h⟩ := exists_forall₂_iff.2 fun item hitem => (ih item hitem).2 (hitems item hitem)
        exact ⟨_, .list h⟩
  | object members ih =>
    constructor
    · rintro ⟨_, h⟩
      cases h with
      | record hdirectives hnames hvalues =>
        refine .record (Directives.exists_denoted_iff.1 ⟨_, hdirectives⟩) fun member hmember hkey => ?_
        have hfield : member ∈ Directives.fieldMembers members :=
          Directives.mem_fieldMembers_iff.2 ⟨hmember, hkey⟩
        exact (ih member hmember).1 (exists_fields_iff.1 ⟨_, hnames, hvalues⟩ member hfield)
    · intro h
      cases h with
      | record hdirectives hfields =>
        obtain ⟨directives, hdenoted⟩ := Directives.exists_denoted_iff.2 hdirectives
        have hschemas : ∀ member ∈ Directives.fieldMembers members, ∃ schema, Denotes hooks member.2 schema := by
          intro member hfield
          obtain ⟨hmember, hkey⟩ := Directives.mem_fieldMembers_iff.1 hfield
          exact (ih member hmember).2 (hfields member hmember hkey)
        obtain ⟨fields, hnames, hvalues⟩ := exists_fields_iff.2 hschemas
        exact ⟨_, .record hdenoted hnames hvalues⟩

theorem forall_mem_of_forall₂ {α β : Type} {r : α → β → Prop} {p : β → Prop} {as : List α} {bs : List β}
    (h : List.Forall₂ r as bs) (hr : ∀ a ∈ as, ∀ b, r a b → p b) : ∀ b ∈ bs, p b := by
  induction h with
  | nil => exact nofun
  | cons hab _ ih =>
    obtain ⟨ha, has⟩ := List.forall_mem_cons.1 hr
    exact List.forall_mem_cons.2 ⟨ha _ hab, ih has⟩

theorem Denotes.distinctNames {value : Json} {schema : Schema} (hkeys : value.DistinctKeys)
    (h : Denotes hooks value schema) : schema.DistinctNames := by
  induction value using Json.induct generalizing schema with
  | null => cases h
  | bool b => cases h
  | number n => cases h
  | string source =>
    cases h
    exact .rule _
  | array items ih =>
    cases hkeys with
    | array hitems =>
      cases h with
      | list h => exact .list (forall_mem_of_forall₂ h fun item hitem _ => ih item hitem (hitems item hitem))
  | object members ih =>
    cases hkeys with
    | object hnodup hmembers =>
      cases h with
      | record hdirectives hnames hvalues =>
        refine .record _ ?_ ?_
        · rw [hnames]
          exact hnodup.sublist (List.filter_sublist.map _)
        · have hschemas := forall_mem_of_forall₂ (p := DistinctNames) hvalues
            (List.forall_mem_map.2 fun member hfield _ =>
              ih member (List.mem_of_mem_filter hfield) (hmembers member (List.mem_of_mem_filter hfield)))
          exact List.forall_mem_map.1 hschemas

theorem ofJson_eq_ok_iff {value : Json} {schema : Schema} :
    ofJson hooks value = .ok schema ↔ Denotes hooks value schema := by
  cases value with
  | null => constructor <;> rintro ⟨⟩
  | bool b => constructor <;> rintro ⟨⟩
  | number n => constructor <;> rintro ⟨⟩
  | string source => exact load_eq_ok_iff
  | array items => exact load_eq_ok_iff
  | object members => exact load_eq_ok_iff

/-- **The loader accepts exactly its grammar and mirrors it.** A JSON value loads exactly if it is a schema,
and then as the schema that it denotes. Objects whose members have different keys give records whose
fields have different names. -/
theorem ofJson_mirrors_grammar (hooks : Registry) (value : Json) :
    ((∃ schema, ofJson hooks value = .ok schema) ↔ value.IsSchema hooks) ∧
      (∀ schema, ofJson hooks value = .ok schema ↔ Denotes hooks value schema) ∧
      (value.DistinctKeys → ∀ schema, ofJson hooks value = .ok schema → schema.DistinctNames) := by
  have hexists : (∃ schema, ofJson hooks value = .ok schema) ↔ value.IsSchema hooks := by
    simp only [ofJson_eq_ok_iff, exists_denotes_iff]
  refine ⟨hexists, fun schema => ofJson_eq_ok_iff, fun hkeys schema h => ?_⟩
  exact (ofJson_eq_ok_iff.1 h).distinctNames hkeys

/-! Members that set nothing and the empty key stand beside the fields of an object. -/

/-- A list of an object with two fields. The second name of the sanitizer stands before the first. -/
def nestedSchema : Json :=
  .array [.object [("$rule", .number (.int 0)), ("a", .string "*"), ("", .null), ("$fn", .bool true),
    ("$sanitizer", .string "text"), ("$constant", .string ""), ("b", .array [])]]

theorem nestedSchema_mirrors_grammar :
    nestedSchema.DistinctKeys ∧ nestedSchema.IsSchema .empty ∧
      ∃ schema, ofJson .empty nestedSchema = .ok schema ∧ schema.DistinctNames := by
  have hkeys : nestedSchema.DistinctKeys := by
    refine .array (List.forall_mem_singleton.2 (.object (by decide) ?_))
    simp only [List.forall_mem_cons]
    exact ⟨.number _, .string _, .null, .bool _, .string _, .string _, .array nofun, nofun⟩
  have hloads : (ofJson .empty nestedSchema).toOption.isSome = true := by
    decide +kernel
  cases h : ofJson .empty nestedSchema with
  | error fault =>
    rw [h] at hloads
    cases hloads
  | ok schema =>
    obtain ⟨hexists, -, hnames⟩ := ofJson_mirrors_grammar .empty nestedSchema
    exact ⟨hkeys, hexists.1 ⟨schema, h⟩, schema, rfl, hnames hkeys schema h⟩

end Schema

end PageExtract
