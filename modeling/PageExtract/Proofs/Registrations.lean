import PageExtract.Proofs.FaultOrder
import PageExtract.Proofs.FirstFailure

/-!
# What registrations leave in a registry

A registry is what a sequence of registrations leaves of it. Under a kind and a name it has the hook of the
last registration of that very kind and name; the tables of the three kinds do not see each other, and what
is built in shows only where nothing was registered.

Loading reads a registry at the kinds and names that the schema mentions and nowhere else. So two sequences
that end in the same hooks there load the schema alike, whatever else they registered.
-/

namespace PageExtract

/-- A hook to be registered and its name. -/
inductive Registration where
  | sanitizer (name : String) (apply : PageElement → Json → Except HookError Json)
  | post (name : String) (apply : Json → Json → Except HookError Json)
  | ignore (name : String) (apply : PageElement → Json → Except HookError Bool)

namespace Registration

def kind : Registration → HookKind
  | .sanitizer _ _ => .sanitizer
  | .post _ _ => .postProcessor
  | .ignore _ _ => .ignoreFilter

def name : Registration → String
  | .sanitizer name _ | .post name _ | .ignore name _ => name

def hook : Registration → Hook
  | .sanitizer name apply => .sanitizer ⟨some name, apply⟩
  | .post name apply => .post ⟨some name, apply⟩
  | .ignore name apply => .ignore ⟨some name, apply⟩

def isUnder (kind : HookKind) (name : String) (r : Registration) : Bool := r.kind == kind && r.name == name

/-- The last of the registrations of exactly that kind and name. -/
def lastUnder? (kind : HookKind) (name : String) (registrations : List Registration) : Option Registration :=
  registrations.reverse.find? (isUnder kind name)

theorem lastUnder?_append_cons {registration : Registration} {kind : HookKind} {name : String}
    (h : registration.isUnder kind name = false) (before behind : List Registration) :
    lastUnder? kind name (before ++ registration :: behind) =
      lastUnder? kind name (before ++ behind) := by
  simp [lastUnder?, h]

end Registration

def Hook.builtin? : HookKind → String → Option Hook
  | .sanitizer, name => (Sanitizer.builtin? name).map .sanitizer
  | .postProcessor, name => (PostProcessor.builtin? name).map .post
  | .ignoreFilter, name => (IgnoreFilter.builtin? name).map .ignore

namespace Registry

def register (hooks : Registry) : Registration → Registry
  | .sanitizer name apply => hooks.addSanitizer name apply
  | .post name apply => hooks.addPostProcessor name apply
  | .ignore name apply => hooks.addIgnoreFilter name apply

def ofRegistrations (registrations : List Registration) : Registry := registrations.foldl register .empty

def hook? (hooks : Registry) : HookKind → String → Option Hook
  | .sanitizer, name => (hooks.sanitizer? name).map .sanitizer
  | .postProcessor, name => (hooks.postProcessor? name).map .post
  | .ignoreFilter, name => (hooks.ignoreFilter? name).map .ignore

/-! ### Looking up -/

/-- A registration is seen under its own kind and name only. -/
theorem hook?_register (hooks : Registry) (registration : Registration) (kind : HookKind) (name : String) :
    (hooks.register registration).hook? kind name =
      if registration.isUnder kind name then some registration.hook else hooks.hook? kind name := by
  cases registration with
  | sanitizer registered apply =>
    cases kind with
    | sanitizer =>
      simp only [register, hook?, sanitizer?, addSanitizer, Keyed.get?_set, Registration.isUnder,
        Registration.kind, Registration.name]
      by_cases hname : registered = name <;> simp [hname, Registration.hook]
    | postProcessor => rfl
    | ignoreFilter => rfl
  | post registered apply =>
    cases kind with
    | sanitizer => rfl
    | postProcessor =>
      simp only [register, hook?, postProcessor?, addPostProcessor, Keyed.get?_set, Registration.isUnder,
        Registration.kind, Registration.name]
      by_cases hname : registered = name <;> simp [hname, Registration.hook]
    | ignoreFilter => rfl
  | ignore registered apply =>
    cases kind with
    | sanitizer => rfl
    | postProcessor => rfl
    | ignoreFilter =>
      simp only [register, hook?, ignoreFilter?, addIgnoreFilter, Keyed.get?_set, Registration.isUnder,
        Registration.kind, Registration.name]
      by_cases hname : registered = name <;> simp [hname, Registration.hook]

theorem hook?_empty (kind : HookKind) (name : String) : empty.hook? kind name = Hook.builtin? kind name := by
  cases kind <;> rfl

/-- What is found is what was registered last, or else what is built in. -/
theorem hook?_ofRegistrations (registrations : List Registration) (kind : HookKind) (name : String) :
    (ofRegistrations registrations).hook? kind name =
      ((Registration.lastUnder? kind name registrations).map Registration.hook).or (Hook.builtin? kind name) := by
  induction registrations using List.reverseRecOn with
  | nil => exact hook?_empty kind name
  | append_singleton registrations registration ih =>
    have hstep : ofRegistrations (registrations ++ [registration]) =
        (ofRegistrations registrations).register registration := by
      rw [ofRegistrations, List.foldl_append]
      rfl
    rw [hstep, hook?_register, Registration.lastUnder?, List.reverse_append, List.reverse_singleton,
      List.singleton_append, List.find?_cons]
    cases registration.isUnder kind name with
    | true => rfl
    | false => exact ih

end Registry

/-! ### Mentioning -/

/-- Some object in schema position names a hook of that kind, by the member that counts for the kind. -/
inductive Json.Mentions (kind : HookKind) (name : String) : Json → Prop where
  | directive {members : Keyed Json} {key : String} (h : HookMember members kind key (.string name)) :
      Mentions kind name (.object members)
  | item {items : List Json} {item : Json} (hitem : item ∈ items) (h : Mentions kind name item) :
      Mentions kind name (.array items)
  | field {members : Keyed Json} {member : String × Json} (hmember : member ∈ members)
      (hkey : IsFieldKey member.1) (h : Mentions kind name member.2) : Mentions kind name (.object members)

namespace Directives

variable {hooks others : Registry} {members : Keyed Json}

/-- Which hook a directive sets depends on the registry at the name that is mentioned only. -/
theorem loadHook_congr {α : Type} {kind : HookKind} {find find' : String → Option α}
    (h : ∀ key name, HookMember members kind key (.string name) → find name = find' name) (route : Route) :
    loadHook route kind find (firstMember? members kind.keys) =
      loadHook route kind find' (firstMember? members kind.keys) := by
  cases hfirst : firstMember? members kind.keys with
  | none => rfl
  | some member =>
    obtain ⟨key, value⟩ := member
    have hmember := (firstMember?_eq_some_iff key value).1 hfirst
    rw [loadHook_some, loadHook_some]
    cases hstring : value.string? with
    | none => rfl
    | some name =>
      obtain rfl := Json.string?_eq_some_iff.1 hstring
      simp only [h key name hmember]

theorem load_congr (h : ∀ kind key name, HookMember members kind key (.string name) →
      hooks.hook? kind name = others.hook? kind name) (route : Route) :
    load hooks route members = load others route members := by
  have hsanitizer : loadHook route .sanitizer hooks.sanitizer? (firstMember? members ["$sanitizer", "$fn"]) =
      loadHook route .sanitizer others.sanitizer? (firstMember? members ["$sanitizer", "$fn"]) := by
    refine loadHook_congr (fun key name hmember => ?_) route
    have hfound := h .sanitizer key name hmember
    exact Option.map_injective (fun _ _ => Hook.sanitizer.inj) hfound
  have hpost : loadHook route .postProcessor hooks.postProcessor? (firstMember? members ["$post"]) =
      loadHook route .postProcessor others.postProcessor? (firstMember? members ["$post"]) := by
    refine loadHook_congr (fun key name hmember => ?_) route
    have hfound := h .postProcessor key name hmember
    exact Option.map_injective (fun _ _ => Hook.post.inj) hfound
  have hignore : loadHook route .ignoreFilter hooks.ignoreFilter? (firstMember? members ["$ignore"]) =
      loadHook route .ignoreFilter others.ignoreFilter? (firstMember? members ["$ignore"]) := by
    refine loadHook_congr (fun key name hmember => ?_) route
    have hfound := h .ignoreFilter key name hmember
    exact Option.map_injective (fun _ _ => Hook.ignore.inj) hfound
  rw [load, load, hsanitizer, hpost, hignore]

end Directives

namespace Schema

variable {hooks others : Registry}

theorem loadItems_congr_hooks {items : List Json}
    (h : ∀ item ∈ items, ∀ route, load hooks route item = load others route item) (route : Route)
    (position : Nat) : loadItems hooks route position items = loadItems others route position items := by
  induction items generalizing position with
  | nil => rfl
  | cons item items ih =>
    obtain ⟨hitem, hitems⟩ := List.forall_mem_cons.1 h
    rw [loadItems, loadItems, hitem, ih hitems]

theorem loadFields_congr_hooks {members : Keyed Json}
    (h : ∀ member ∈ members, IsFieldKey member.1 → ∀ route,
      load hooks route member.2 = load others route member.2) (route : Route) :
    loadFields hooks route members = loadFields others route members := by
  induction members with
  | nil => rfl
  | cons member members ih =>
    obtain ⟨hmember, hmembers⟩ := List.forall_mem_cons.1 h
    obtain ⟨key, value⟩ := member
    rw [loadFields_cons, loadFields_cons, ih hmembers]
    split
    next hkey => rw [hmember hkey]
    next => rfl

/-- Registries that have the same hooks where a value mentions them load it alike, wherever it stands. -/
theorem load_congr_hooks {value : Json}
    (h : ∀ kind name, value.Mentions kind name → hooks.hook? kind name = others.hook? kind name)
    (route : Route) : load hooks route value = load others route value := by
  induction value using Json.induct generalizing route with
  | null => rfl
  | bool b => rfl
  | number n => rfl
  | string source => rw [load, load]
  | array items ih =>
    have hitems : ∀ item ∈ items, ∀ route, load hooks route item = load others route item :=
      fun item hitem route => ih item hitem (fun kind name hname => h kind name (.item hitem hname)) route
    rw [load, load, loadItems_congr_hooks hitems]
  | object members ih =>
    have hdirectives := Directives.load_congr (fun kind _ name hmember => h kind name (.directive hmember)) route
    have hfields : ∀ member ∈ members, IsFieldKey member.1 → ∀ route,
        load hooks route member.2 = load others route member.2 :=
      fun member hmember hkey route =>
        ih member hmember (fun kind name hname => h kind name (.field hmember hkey hname)) route
    rw [load, load, hdirectives, loadFields_congr_hooks hfields]

theorem ofJson_congr_hooks {value : Json}
    (h : ∀ kind name, value.Mentions kind name → hooks.hook? kind name = others.hook? kind name) :
    ofJson hooks value = ofJson others value := by
  have hload := load_congr_hooks h []
  cases value with
  | null => rfl
  | bool b => rfl
  | number n => rfl
  | string source => exact hload
  | array items => exact hload
  | object members => exact hload

/-- **Only the hooks that a schema names matter.** After registrations a kind and a name stand for the hook
that was registered last under exactly these, or else for the built-in hook, if there is one. A JSON value
loads as the same schema, or with the same fault, after any other registrations that leave the same hooks,
or also none, under the kinds and names that it mentions. In particular a registration under a kind and a
name that are not mentioned together makes no difference, wherever it comes. -/
theorem ofJson_after_registrations (value : Json) (registrations : List Registration) :
    (∀ kind name, (Registry.ofRegistrations registrations).hook? kind name =
        ((Registration.lastUnder? kind name registrations).map Registration.hook).or
          (Hook.builtin? kind name)) ∧
      (∀ others, (∀ kind name, value.Mentions kind name →
          (Registration.lastUnder? kind name others).map Registration.hook =
            (Registration.lastUnder? kind name registrations).map Registration.hook) →
        ofJson (.ofRegistrations others) value = ofJson (.ofRegistrations registrations) value) ∧
      ∀ before registration behind, registrations = before ++ behind →
        ¬ value.Mentions registration.kind registration.name →
          ofJson (.ofRegistrations (before ++ registration :: behind)) value =
            ofJson (.ofRegistrations registrations) value := by
  have hsame : ∀ others, (∀ kind name, value.Mentions kind name →
      (Registration.lastUnder? kind name others).map Registration.hook =
        (Registration.lastUnder? kind name registrations).map Registration.hook) →
      ofJson (.ofRegistrations others) value = ofJson (.ofRegistrations registrations) value := by
    intro others h
    refine ofJson_congr_hooks fun kind name hmentions => ?_
    rw [Registry.hook?_ofRegistrations, Registry.hook?_ofRegistrations, h kind name hmentions]
  refine ⟨Registry.hook?_ofRegistrations registrations, hsame, ?_⟩
  rintro before registration behind rfl hnot
  refine hsame _ fun kind name hmentions => ?_
  have hunder : registration.isUnder kind name = false := by
    rw [Registration.isUnder, Bool.and_eq_false_iff]
    by_contra hboth
    simp only [not_or, Bool.not_eq_false, beq_iff_eq] at hboth
    obtain ⟨rfl, rfl⟩ := hboth
    exact hnot hmentions
  rw [Registration.lastUnder?_append_cons hunder]

/-! A sanitizer and a post-processor of one schema, both registered twice. Beside the first name of the sanitizer
the second does not count, so no sanitizer named `trim` is looked for. -/

/-- The items through a sanitizer, each with what a post-processor makes of its `b` elements. -/
def loudSchema : Json :=
  .array [.object [("$fn", .string "trim"), ("$rule", .string "li"), ("$sanitizer", .string "loud"),
    ("b", .object [("$rule", .string "b"), ("$post", .string "trim")])]]

def loudRegistrations : List Registration :=
  [.post "trim" fun value _ => .ok (.array [value]), .sanitizer "loud" fun element _ => .ok (.string element.name)]

def noisyRegistrations : List Registration :=
  [.sanitizer "loud" fun _ _ => .error ⟨"early"⟩, .post "trim" fun _ _ => .error ⟨"early"⟩] ++ loudRegistrations ++
    [.sanitizer "trim" fun _ _ => .ok .null, .post "loud" fun _ _ => .ok .null, .ignore "trim" fun _ _ => .ok true]

theorem mentions_loudSchema {kind : HookKind} {name : String} (h : loudSchema.Mentions kind name) :
    kind = .sanitizer ∧ name = "loud" ∨ kind = .postProcessor ∧ name = "trim" := by
  cases h with
  | item hitem h =>
    obtain rfl := List.mem_singleton.1 hitem
    cases h with
    | directive hmember =>
      have hfirst := (Directives.firstMember?_eq_some_iff _ _).2 hmember
      cases kind <;> simp_all [Directives.firstMember?, HookKind.keys, Keyed.get?]
    | field hmember hkey h =>
      simp only [List.mem_cons, List.not_mem_nil, or_false] at hmember
      rcases hmember with rfl | rfl | rfl | rfl
      · exact absurd hkey (by decide)
      · exact absurd hkey (by decide)
      · exact absurd hkey (by decide)
      · cases h with
        | directive hmember =>
          have hfirst := (Directives.firstMember?_eq_some_iff _ _).2 hmember
          cases kind <;> simp_all [Directives.firstMember?, HookKind.keys, Keyed.get?]
        | field hmember hkey h =>
          simp only [List.mem_cons, List.not_mem_nil, or_false] at hmember
          rcases hmember with rfl | rfl <;> exact absurd hkey (by decide)

theorem loudSchema_after_registrations :
    (∀ kind name, loudSchema.Mentions kind name →
        (Registration.lastUnder? kind name noisyRegistrations).map Registration.hook =
          (Registration.lastUnder? kind name loudRegistrations).map Registration.hook) ∧
      ¬ loudSchema.Mentions .sanitizer "trim" ∧
      ∃ schema, ofJson (.ofRegistrations loudRegistrations) loudSchema = .ok schema ∧
        ofJson (.ofRegistrations noisyRegistrations) loudSchema = .ok schema ∧
        ofJson (.ofRegistrations (.sanitizer "trim" (fun _ _ => .error ⟨"late"⟩) :: loudRegistrations)) loudSchema =
          .ok schema := by
  have hsame : ∀ kind name, loudSchema.Mentions kind name →
      (Registration.lastUnder? kind name noisyRegistrations).map Registration.hook =
        (Registration.lastUnder? kind name loudRegistrations).map Registration.hook := by
    intro kind name h
    rcases mentions_loudSchema h with ⟨rfl, rfl⟩ | ⟨rfl, rfl⟩ <;> rfl
  have hnot : ¬ loudSchema.Mentions .sanitizer "trim" := by
    intro h
    rcases mentions_loudSchema h with ⟨-, hname⟩ | ⟨hkind, -⟩
    · exact absurd hname (by decide)
    · cases hkind
  have hloads : (ofJson (.ofRegistrations loudRegistrations) loudSchema).toOption.isSome = true := by
    decide +kernel
  obtain ⟨-, hothers, hbefore⟩ := ofJson_after_registrations loudSchema loudRegistrations
  cases h : ofJson (.ofRegistrations loudRegistrations) loudSchema with
  | error fault =>
    rw [h] at hloads
    cases hloads
  | ok schema =>
    refine ⟨hsame, hnot, schema, rfl, ?_, ?_⟩
    · rw [hothers noisyRegistrations hsame, h]
    · rw [← h]
      exact hbefore [] (.sanitizer "trim" fun _ _ => .error ⟨"late"⟩) loudRegistrations rfl hnot

end Schema

end PageExtract
