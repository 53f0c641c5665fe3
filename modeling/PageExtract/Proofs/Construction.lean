import PageExtract.Extractor
import PageExtract.Proofs.HookRelation
import PageExtract.Proofs.Loading

/-!
# Schemas put together call by call

A record schema can be put together by calls, each of which sets a directive or a field. A `Construction`
is a schema that is yet to be put together, with the calls in the order in which they are made, and
`Translates` tells which constructions say what a JSON value says: every directive that is set is set by
one call, every field by another, and the calls for the fields come in the order of the members.

The order of the other calls does not matter. Of the calls for one directive the last counts, and there
is only one; a call for a field changes no directive. So every translation comes out as the schema that
the value loads as.
-/

namespace PageExtract

namespace RecordSchema

inductive Setter where
  | rule (source : String)
  | topLevel (flag : Bool)
  | sanitizer (hook : Sanitizer)
  | post (hook : PostProcessor)
  | ignore (hook : IgnoreFilter)
  | constant (value : Json)

def Setter.apply : Setter → RecordSchema → Except Selector.Fault RecordSchema
  | .rule source, r => r.withRule source
  | .topLevel flag, r => .ok (r.withTopLevel flag)
  | .sanitizer hook, r => .ok (r.withSanitizer hook)
  | .post hook, r => .ok (r.withPost hook)
  | .ignore hook, r => .ok (r.withIgnore hook)
  | .constant value, r => .ok (r.withConstant value)

/-- A call: it sets a directive, or a field. -/
inductive Call (α : Type) where
  | directive (setter : Setter)
  | field (name : String) (schema : α)

def Call.setter? {α : Type} : Call α → Option Setter
  | .directive setter => some setter
  | .field _ _ => none

def Call.field? {α : Type} : Call α → Option (String × α)
  | .directive _ => none
  | .field name schema => some (name, schema)

end RecordSchema

open RecordSchema (Setter Call)

/-- A schema that is yet to be put together. -/
inductive Construction where
  | rule (source : String)
  | list (items : List Construction)
  | record (calls : List (Call Construction))

namespace Construction

mutual

/-- The schema, put together from the inside out and call by call. -/
def run : Construction → Except Selector.Fault Schema
  | .rule source => Schema.ofSelector source
  | .list items => (runItems items).map .list
  | .record calls => (runCalls calls {}).map RecordSchema.toSchema

def runItems : List Construction → Except Selector.Fault (List Schema)
  | [] => .ok []
  | item :: items => do
    let schema ← run item
    let schemas ← runItems items
    return schema :: schemas

def runCalls : List (Call Construction) → RecordSchema → Except Selector.Fault RecordSchema
  | [], r => .ok r
  | .directive setter :: calls, r => do
    let r ← setter.apply r
    runCalls calls r
  | .field name item :: calls, r => do
    let schema ← run item
    runCalls calls (r.withField name schema)

end

def flag? (members : Keyed Json) : Option Bool := (members.get? "$topLevel").bind Json.bool?

/-- The calls that set a flag, if there is one, and the other directives that the members of an object set,
one call for each. -/
def setters (hooks : Registry) (flag : Option Bool) (members : Keyed Json) : List Setter :=
  let text (member : Option Json) : Option String := member.bind Json.string?
  ((text (members.get? "$rule")).filter (· ≠ "")).toList.map .rule ++
    flag.toList.map .topLevel ++
    ((text (Directives.sanitizerMember? members)).bind hooks.sanitizer?).toList.map .sanitizer ++
    ((text (members.get? "$post")).bind hooks.postProcessor?).toList.map .post ++
    ((text (members.get? "$ignore")).bind hooks.ignoreFilter?).toList.map .ignore ++
    ((members.get? "$constant").filter Json.setsDirective).toList.map .constant

/-- The construction says node by node what a JSON value says. The calls for directives may stand in any
order, also between those for fields, which come in the order of the members. A flag that is false may be
set by a call or not. -/
inductive Translates (hooks : Registry) : Json → Construction → Prop where
  | rule (source : String) : Translates hooks (.string source) (.rule source)
  | list {items : List Json} {constructions : List Construction}
      (h : List.Forall₂ (Translates hooks) items constructions) :
      Translates hooks (.array items) (.list constructions)
  | record {members : Keyed Json} {calls : List (Call Construction)} {flag : Option Bool}
      (hflag : flag.getD false = (flag? members).getD false)
      (hsetters : (calls.filterMap Call.setter?).Perm (setters hooks flag members))
      (hnames : (calls.filterMap Call.field?).map Prod.fst = (Directives.fieldMembers members).map Prod.fst)
      (hfields : List.Forall₂ (Translates hooks) ((Directives.fieldMembers members).map Prod.snd)
        ((calls.filterMap Call.field?).map Prod.snd)) :
      Translates hooks (.object members) (.record calls)

end Construction

/-! ### The last call of each kind -/

namespace RecordSchema

namespace Setter

@[simp] def rule? : Setter → Option Rule
  | .rule source => (Rule.parse source).toOption
  | _ => none

@[simp] def topLevel? : Setter → Option Bool
  | .topLevel flag => some flag
  | _ => none

@[simp] def sanitizer? : Setter → Option Sanitizer
  | .sanitizer hook => some hook
  | _ => none

@[simp] def post? : Setter → Option PostProcessor
  | .post hook => some hook
  | _ => none

@[simp] def ignore? : Setter → Option IgnoreFilter
  | .ignore hook => some hook
  | _ => none

@[simp] def constant? : Setter → Option Json
  | .constant value => some value
  | _ => none

def IsValid : Setter → Prop
  | .rule source => ∃ rule, Rule.parse source = .ok rule
  | _ => True

/-- What the last of the calls that set something sets it to. -/
def last? {α : Type} (read : Setter → Option α) (setters : List Setter) : Option α :=
  (setters.filterMap read).getLast?

theorem last?_nil {α : Type} (read : Setter → Option α) : last? read [] = none := rfl

theorem last?_cons {α : Type} (read : Setter → Option α) (setter : Setter) (setters : List Setter) :
    last? read (setter :: setters) = (last? read setters).or (read setter) := by
  rw [last?, last?, List.filterMap_cons]
  cases read setter with
  | none => rw [Option.or_none]
  | some a => cases h : setters.filterMap read <;> simp [List.getLast?_cons]

end Setter

/-- Directives after calls: of each kind the last call counts. -/
def settle (directives : Directives) (setters : List Setter) : Directives where
  rule := (Setter.last? Setter.rule? setters).or directives.rule
  topLevel := (Setter.last? Setter.topLevel? setters).getD directives.topLevel
  sanitizer := (Setter.last? Setter.sanitizer? setters).or directives.sanitizer
  post := (Setter.last? Setter.post? setters).or directives.post
  ignore := (Setter.last? Setter.ignore? setters).or directives.ignore
  constant := (Setter.last? Setter.constant? setters).or directives.constant

theorem settle_cons (directives : Directives) (setter : Setter) (setters : List Setter) :
    settle directives (setter :: setters) = settle (settle directives [setter]) setters := by
  simp only [settle, Setter.last?_cons, Setter.last?_nil, Option.none_or, Option.or_assoc, Option.getD_or]

theorem Setter.apply_eq_ok {setter : Setter} (h : setter.IsValid) (r : RecordSchema) :
    setter.apply r = .ok { r with directives := settle r.directives [setter] } := by
  cases setter with
  | rule source =>
    obtain ⟨rule, hrule⟩ := h
    simp [apply, withRule, settle, last?, rule?, topLevel?, sanitizer?, post?, ignore?, constant?, hrule,
      Except.map, Except.toOption]
  | _ => rfl

/-- If there is at most one call of a kind, it is the last one in any order. -/
theorem Setter.last?_of_perm {α : Type} {read : Setter → Option α} {setters others : List Setter}
    (h : setters.Perm others) {found : Option α} (hfound : others.filterMap read = found.toList) :
    last? read setters = found := by
  have hperm : (setters.filterMap read).Perm found.toList := hfound ▸ h.filterMap read
  rw [last?]
  cases found with
  | none => rw [List.perm_nil.1 hperm, List.getLast?_nil]
  | some a => rw [List.perm_singleton.1 hperm, List.getLast?_singleton]

end RecordSchema

/-! ### The calls of a translation -/

namespace Construction

open RecordSchema (settle settle_cons)

variable {hooks : Registry} {flag : Option Bool} {members : Keyed Json} {directives : Directives}

theorem text_filter_bind_of_ruleIs {member : Option Json} {rule : Option Rule}
    (h : Directives.RuleIs member rule) :
    ((member.bind Json.string?).filter (· ≠ "")).bind (fun source => (Rule.parse source).toOption) =
      rule := by
  cases h with
  | absent => rfl
  | unset hfalsy => cases hfalsy <;> rfl
  | @set source rule hne hrule =>
    have hkept : (some source).filter (· ≠ "") = some source := by
      rw [Option.filter_some, if_pos (decide_eq_true hne)]
    rw [Option.bind_some, Json.string?, hkept, Option.bind_some, hrule]
    rfl

theorem bind_bool?_of_flagIs {member : Option Json} {flag : Bool} (h : Directives.FlagIs member flag) :
    (member.bind Json.bool?).getD false = flag := by
  cases h <;> rfl

theorem bind_bind_of_hookIs {α : Type} {find : String → Option α} {member : Option Json}
    {hook : Option α} (h : Directives.HookIs find member hook) :
    (member.bind Json.string?).bind find = hook := by
  cases h with
  | absent => rfl
  | named hfind => exact hfind

@[simp] theorem filterMap_map_toList {α β : Type} (read : Setter → Option β) (call : α → Setter)
    (member : Option α) :
    List.filterMap (read ∘ call) member.toList = (member.bind fun a => read (call a)).toList := by
  cases member with
  | none => rfl
  | some a => cases h : read (call a) <;> simp [h]

/-- The calls for the directives of an object, in whatever order, set the directives to what its members
stand for. -/
theorem settle_of_perm {calls : List Setter} (hflag : flag.getD false = (flag? members).getD false)
    (h : calls.Perm (setters hooks flag members)) (hdenoted : Directives.Denoted hooks members directives) :
    settle {} calls = directives := by
  have hrule : Setter.last? Setter.rule? calls = directives.rule :=
    Setter.last?_of_perm h (by simp [setters, ← text_filter_bind_of_ruleIs hdenoted.rule])
  have htopLevel : Setter.last? Setter.topLevel? calls = flag :=
    Setter.last?_of_perm h (by simp [setters])
  have hsanitizer : Setter.last? Setter.sanitizer? calls = directives.sanitizer :=
    Setter.last?_of_perm h (by simp [setters, ← bind_bind_of_hookIs hdenoted.sanitizer])
  have hpost : Setter.last? Setter.post? calls = directives.post :=
    Setter.last?_of_perm h (by simp [setters, ← bind_bind_of_hookIs hdenoted.post])
  have hignore : Setter.last? Setter.ignore? calls = directives.ignore :=
    Setter.last?_of_perm h (by simp [setters, ← bind_bind_of_hookIs hdenoted.ignore])
  have hconstant : Setter.last? Setter.constant? calls = directives.constant :=
    Setter.last?_of_perm h (by simp [setters, ← Directives.constantIs_iff.1 hdenoted.constant])
  simp only [settle, hrule, htopLevel, hflag, flag?, bind_bool?_of_flagIs hdenoted.topLevel, hsanitizer, hpost,
    hignore, hconstant, Option.or_none]

theorem isValid_of_mem_setters (hdenoted : Directives.Denoted hooks members directives) {setter : Setter}
    (h : setter ∈ setters hooks flag members) : setter.IsValid := by
  cases setter with
  | rule source =>
    have hsource : (((members.get? "$rule").bind Json.string?).filter (· ≠ "")) = some source := by
      simpa [setters] using h
    obtain ⟨hmember, hne⟩ := Option.filter_eq_some_iff.1 hsource
    obtain ⟨value, hget, hstring⟩ := Option.bind_eq_some_iff.1 hmember
    obtain rfl := Json.string?_eq_some_iff.1 hstring
    have hrule := hdenoted.rule
    rw [hget] at hrule
    generalize directives.rule = rule at hrule
    cases hrule with
    | unset hfalsy =>
      cases hfalsy
      exact absurd rfl (of_decide_eq_true hne)
    | set _ hrule => exact ⟨_, hrule⟩
  | _ => trivial

/-! ### What comes of a construction -/

theorem runItems_eq_ok {items : List Construction} {schemas : List Schema}
    (h : List.Forall₂ (fun item schema => item.run = .ok schema) items schemas) :
    runItems items = .ok schemas := by
  induction h with
  | nil => rfl
  | cons hitem _ ih =>
    rw [runItems, hitem, ih]
    rfl

/-- Calls for directives and calls for fields do not get in each other's way. -/
theorem runCalls_eq_ok {calls : List (Call Construction)} {fields : List (String × Schema)}
    (hsetters : ∀ setter ∈ calls.filterMap Call.setter?, setter.IsValid)
    (hfields : List.Forall₂ (fun called field => field.1 = called.1 ∧ called.2.run = .ok field.2)
      (calls.filterMap Call.field?) fields) (r : RecordSchema) :
    runCalls calls r = .ok ⟨settle r.directives (calls.filterMap Call.setter?),
      fields.foldl (fun found field => Keyed.set found field.1 field.2) r.fields⟩ := by
  induction calls generalizing r fields with
  | nil =>
    cases hfields
    rfl
  | cons call calls ih =>
    cases call with
    | directive setter =>
      have hcons : (Call.directive setter :: calls).filterMap Call.setter? =
          setter :: calls.filterMap Call.setter? := rfl
      rw [hcons] at hsetters ⊢
      obtain ⟨hsetter, hrest⟩ := List.forall_mem_cons.1 hsetters
      rw [runCalls, Setter.apply_eq_ok hsetter, settle_cons _ setter (calls.filterMap Call.setter?)]
      exact ih hrest hfields _
    | field name item =>
      have hcons : (Call.field name item :: calls).filterMap Call.field? =
          (name, item) :: calls.filterMap Call.field? := rfl
      rw [hcons] at hfields
      cases hfields with
      | @cons _ field _ fields hfield hrest =>
        obtain ⟨hname, hrun⟩ := hfield
        rw [runCalls, hrun, List.foldl_cons, hname]
        exact ih hsetters hrest _

theorem forall₂_run {values : List Json} {constructions : List Construction} {schemas : List Schema}
    (ih : ∀ value ∈ values, ∀ construction schema, Translates hooks value construction →
      Schema.Denotes hooks value schema → construction.run = .ok schema)
    (h : List.Forall₂ (Translates hooks) values constructions)
    (hdenotes : List.Forall₂ (Schema.Denotes hooks) values schemas) :
    List.Forall₂ (fun construction schema => construction.run = .ok schema) constructions schemas := by
  induction h generalizing schemas with
  | nil =>
    cases hdenotes
    exact .nil
  | cons hvalue _ ihrest =>
    obtain ⟨hfirst, hrest⟩ := List.forall_mem_cons.1 ih
    cases hdenotes with
    | cons hschema hschemas => exact .cons (hfirst _ _ hvalue hschema) (ihrest hrest hschemas)

theorem Translates.run_eq {value : Json} (hkeys : value.DistinctKeys) {construction : Construction}
    (h : Translates hooks value construction) {schema : Schema}
    (hdenotes : Schema.Denotes hooks value schema) : construction.run = .ok schema := by
  induction value using Json.induct generalizing construction schema with
  | null => cases h
  | bool b => cases h
  | number n => cases h
  | string source =>
    cases h
    cases hdenotes with
    | rule hrule =>
      rw [run, Schema.ofSelector, hrule]
      rfl
  | array items ih =>
    cases hkeys with
    | array hitems =>
      cases h with
      | list h =>
        cases hdenotes with
        | list hschemas =>
          have hitem : ∀ item ∈ items, ∀ construction schema, Translates hooks item construction →
              Schema.Denotes hooks item schema → construction.run = .ok schema :=
            fun item hitem _ _ hcalls hdenotes => ih item hitem (hitems item hitem) hcalls hdenotes
          have hrun := forall₂_run hitem h hschemas
          rw [run, runItems_eq_ok hrun]
          rfl
  | object members ih =>
    cases hkeys with
    | object hnodup hmembers =>
      cases h with
      | @record _ calls flag hflag hsetters hnames hfields =>
        cases hdenotes with
        | @record _ directives fields hdirectives hfieldNames hschemas =>
          have hvalid : ∀ setter ∈ calls.filterMap Call.setter?, setter.IsValid :=
            fun setter hsetter => isValid_of_mem_setters hdirectives (hsetters.mem_iff.1 hsetter)
          have hmember : ∀ member ∈ Directives.fieldMembers members, ∀ construction schema,
              Translates hooks member.2 construction → Schema.Denotes hooks member.2 schema →
                construction.run = .ok schema := by
            intro member hfield construction schema hcalls hdenotes
            have hmember := List.mem_of_mem_filter hfield
            exact ih member hmember (hmembers member hmember) hcalls hdenotes
          have hrun := forall₂_run (List.forall_mem_map.2 hmember) hfields hschemas
          have hcalled := Keyed.forall₂_entries (hfieldNames.trans hnames.symm) hrun
          -- the members have different keys, so no call for a field replaces an earlier one
          have hdistinct : (fields.map Prod.fst).Nodup := by
            rw [hfieldNames]
            exact hnodup.sublist (List.filter_sublist.map _)
          rw [run, runCalls_eq_ok hvalid hcalled, settle_of_perm hflag hsetters hdirectives]
          exact congrArg (fun fields => Except.ok (Schema.record directives fields))
            (Keyed.ofEntries_of_nodup hdistinct)

theorem exists_translates {value : Json} (h : value.IsSchema hooks) :
    ∃ construction, Translates hooks value construction := by
  induction value using Json.induct with
  | null => cases h
  | bool b => cases h
  | number n => cases h
  | string source => exact ⟨_, .rule source⟩
  | array items ih =>
    cases h with
    | list hitems =>
      obtain ⟨constructions, hall⟩ := Schema.exists_forall₂_iff.2 fun item hitem =>
        ih item hitem (hitems item hitem)
      exact ⟨_, .list hall⟩
  | object members ih =>
    cases h with
    | record _ hfields =>
      have hconstructions : ∀ member ∈ Directives.fieldMembers members,
          ∃ construction, Translates hooks member.2 construction := by
        intro member hfield
        obtain ⟨hmember, hkey⟩ := Directives.mem_fieldMembers_iff.1 hfield
        exact ih member hmember (hfields member hmember hkey)
      obtain ⟨fields, hnames, hvalues⟩ := Schema.exists_fields_iff.2 hconstructions
      let calls : List (Call Construction) :=
        (setters hooks (flag? members) members).map .directive ++ fields.map fun field => .field field.1 field.2
      have hsetters : calls.filterMap Call.setter? = setters hooks (flag? members) members := by
        simp [calls, Call.setter?, Function.comp_def]
      have hfieldCalls : calls.filterMap Call.field? = fields := by
        simp [calls, Call.field?, Function.comp_def]
      refine ⟨.record calls, .record rfl ?_ ?_ ?_⟩
      · rw [hsetters]
      · rw [hfieldCalls, hnames]
      · rw [hfieldCalls]
        exact hvalues

end Construction

namespace Schema

/-- **Loading a schema and putting it together by calls agree.** A JSON value that loads can be translated
node by node into calls, and every translation of it, whatever the order of the calls for directives, comes
out as the schema that the value loads as. So the two make the same of every document. -/
theorem run_eq_of_ofJson_eq {hooks : Registry} {value : Json} (hkeys : value.DistinctKeys) {schema : Schema}
    (h : ofJson hooks value = .ok schema) :
    (∃ construction, Construction.Translates hooks value construction) ∧
      ∀ construction, Construction.Translates hooks value construction →
        construction.run = .ok schema ∧
          ∀ (options : ExtractorOptions) (d : Document) (params : Json),
            (construction.run.map fun built => Extractor.extract ⟨built, options⟩ d params) =
              .ok (Extractor.extract ⟨schema, options⟩ d params) := by
  have hdenotes := ofJson_eq_ok_iff.1 h
  have hschema : value.IsSchema hooks := exists_denotes_iff.1 ⟨schema, hdenotes⟩
  refine ⟨Construction.exists_translates hschema, fun construction hcalls => ?_⟩
  have hrun : construction.run = .ok schema := hcalls.run_eq hkeys hdenotes
  refine ⟨hrun, fun options d params => ?_⟩
  rw [hrun]
  rfl

/-! The calls for directives stand before and between those for fields, in an order of their own. -/

/-- A record of the whole document with two directives that are set at the ends and one that is not. -/
def cardsSchema : Json :=
  .object [("$post", .string "trim"), ("name", .string "b"), ("$topLevel", .bool true),
    ("tags", .array [.object [("$rule", .string "i"), ("$fn", .string "text")]]), ("$constant", .null),
    ("$rule", .string "li")]

def cardsConstruction : Construction :=
  .record [.directive (.topLevel true), .field "name" (.rule "b"), .directive (.rule "li"),
    .directive (.post (.ofText fun text => .string (trim text))),
    .field "tags" (.list [.record [.directive (.sanitizer Accessor.text.sanitizer), .directive (.rule "i")]])]

theorem cardsConstruction_run :
    cardsSchema.DistinctKeys ∧ Construction.Translates .empty cardsSchema cardsConstruction ∧
      ∃ schema, ofJson .empty cardsSchema = .ok schema ∧ cardsConstruction.run = .ok schema := by
  have hkeys : cardsSchema.DistinctKeys := by
    have htags : Json.DistinctKeys (.array [.object [("$rule", .string "i"), ("$fn", .string "text")]]) :=
      .array (List.forall_mem_singleton.2 (.object (by decide) (by
        simp only [List.forall_mem_cons]
        exact ⟨.string _, .string _, nofun⟩)))
    refine .object (by decide) ?_
    simp only [List.forall_mem_cons]
    exact ⟨.string _, .string _, .bool _, htags, .null, .string _, nofun⟩
  have htags : Construction.Translates .empty (.object [("$rule", .string "i"), ("$fn", .string "text")])
      (.record [.directive (.sanitizer Accessor.text.sanitizer), .directive (.rule "i")]) :=
    .record rfl (.swap _ _ _) rfl .nil
  have hcalls : Construction.Translates .empty cardsSchema cardsConstruction :=
    .record rfl (.swap _ _ _) rfl (.cons (.rule _) (.cons (.list (.cons htags .nil)) .nil))
  have hloads : (ofJson .empty cardsSchema).toOption.isSome = true := by
    decide +kernel
  cases h : ofJson .empty cardsSchema with
  | error fault =>
    rw [h] at hloads
    cases hloads
  | ok schema =>
    obtain ⟨-, hrun⟩ := run_eq_of_ofJson_eq hkeys h
    exact ⟨hkeys, hcalls, schema, rfl, (hrun _ hcalls).1⟩

end Schema

end PageExtract
