import PageExtract.Proofs.Ignoring
import PageExtract.Proofs.Loading

/-!
# Three ways to trim

The accessor for texts trims the text of an element, the built-in post-processor trims a text that was taken
before, and the filter for blank elements trims a text to see if anything is left. All three trim the same text in
the same way. So it is the same whether the texts of matches are trimmed as they are taken or when all of them
are there, and the matches that the filter drops are those of which nothing would be left.

The filter is asked before a match is built, the post-processor comes last. That nothing else is lost or moved by
this is a matter of records with any hooks that answer: such a record has one result for each match.
-/

namespace PageExtract

namespace Registry

variable {hooks : Registry}

theorem sanitizer?_text (h : hooks.sanitizers.get? "text" = none) :
    hooks.sanitizer? "text" = some Accessor.text.sanitizer := by
  rw [sanitizer?, h]
  rfl

theorem postProcessor?_trim (h : hooks.postProcessors.get? "trim" = none) :
    hooks.postProcessor? "trim" = some (.ofText fun text => .string (trim text)) := by
  rw [postProcessor?, h]
  rfl

theorem ignoreFilter?_blank (h : hooks.ignoreFilters.get? "blank" = none) :
    hooks.ignoreFilter? "blank" = some .blank := by
  rw [ignoreFilter?, h]
  rfl

end Registry

/-- When texts are trimmed: as they are taken of the matches, or when all of them are there. -/
inductive Trimming where
  | taken
  | posted

namespace Trimming

/-- The members of an object that asks for the trimmed texts of the matches of a rule. -/
def members (source : String) : Trimming → Keyed Json
  | .taken => [("$rule", .string source), ("$sanitizer", .string "text")]
  | .posted => [("$rule", .string source), ("$post", .string "trim")]

def directives (r : Rule) : Trimming → Directives
  | .taken => { rule := some r, sanitizer := some Accessor.text.sanitizer }
  | .posted => { rule := some r, post := some (.ofText fun text => .string (trim text)) }

/-- What is built of a match. -/
def built (d : Document) (id : Markup.NodeId) : Trimming → RawValue
  | .taken => .scalar (.string (trim (d.text (.element id))))
  | .posted => .scalar (.string (d.text (.element id)))

end Trimming

namespace Schema

/-- The texts of the matches of a rule without the blanks at their ends. -/
def trimmedTexts (d : Document) (r : Rule) (context : Context) : List String :=
  (d.select context r).map fun id => trim (d.text (.element id))

def texts (values : List String) : RawValue := .matched (values.map fun text => .scalar (.string text))

/-! ### One result for each match -/

section Matches

variable {d : Document} {params : Json} {directives : Directives} {fields : List (String × Schema)}
  {ambient : Option Sanitizer} {r : Rule} {built result : Markup.NodeId → RawValue}

/-- If every match can be built and finished, the results are those of the matches, in order; with a filter that
answers they are those of the matches that are kept. -/
theorem evaluate_of_each_match (hconstant : directives.constant = none) (hrule : directives.rule = some r)
    (h : ∀ id, (⟨id, built id, result id⟩ : Instance).IsOf d params directives fields ambient)
    (context : Context) :
    (evaluate d params (.record { directives with ignore := none } fields) context ambient).outcome =
        .ok (.matched ((d.select (scope directives context) r).map result)) ∧
      ∀ (hook : IgnoreFilter) (ignored : Markup.NodeId → Bool),
        (∀ id, hook.apply (d.elementAt (.element id)) params = .ok (ignored id)) →
        (evaluate d params (.record { directives with ignore := some hook } fields) context ambient).outcome =
          .ok (.matched (((d.select (scope directives context) r).filter (!ignored ·)).map result)) := by
  let instances : List Instance := (d.select (scope directives context) r).map fun id => ⟨id, built id, result id⟩
  have hids : instances.map (·.id) = d.select (scope directives context) r := by
    simp [instances, Function.comp_def]
  have hinstances : ∀ i ∈ instances, i.IsOf d params directives fields ambient :=
    List.forall_mem_map.2 fun id _ => h id
  constructor
  · rw [evaluate_of_instances hconstant hrule hids hinstances]
    simp [instances, Function.comp_def]
  · intro hook ignored hanswers
    rw [evaluate_of_instances_ignoring hconstant hrule hook hids hinstances fun i _ => hanswers i.id]
    simp [instances, List.filter_map, Function.comp_def]

end Matches

variable {d : Document} {params : Json} {r : Rule}

theorem isOf_trimming (d : Document) (params : Json) (r : Rule) (way : Trimming) (id : Markup.NodeId) :
    (⟨id, way.built d id, .scalar (.string (trim (d.text (.element id))))⟩ : Instance).IsOf d params
      (way.directives r) [] none := by
  cases way <;> exact ⟨rfl, rfl⟩

theorem filter_trimmedTexts (d : Document) (r : Rule) (context : Context) :
    (trimmedTexts d r context).filter (· ≠ "") =
      ((d.select context r).filter fun id => !(trim (d.text (.element id))).isEmpty).map fun id =>
        trim (d.text (.element id)) := by
  rw [trimmedTexts, List.filter_map]
  refine congrArg _ (List.filter_congr fun id _ => ?_)
  rw [Function.comp_apply, Bool.eq_iff_iff]
  simp

theorem evaluate_trimming (way : Trimming) (context : Context) :
    (evaluate d params (.record (way.directives r) []) context none).outcome =
        .ok (texts (trimmedTexts d r context)) ∧
      (evaluate d params (.record { way.directives r with ignore := some .blank } []) context none).outcome =
        .ok (texts ((trimmedTexts d r context).filter (· ≠ ""))) := by
  have hconstant : (way.directives r).constant = none := by cases way <;> rfl
  have hrule : (way.directives r).rule = some r := by cases way <;> rfl
  have hignore : { way.directives r with ignore := none } = way.directives r := by cases way <;> rfl
  have hscope : scope (way.directives r) context = context := by cases way <;> rfl
  obtain ⟨hall, hfiltered⟩ :=
    evaluate_of_each_match hconstant hrule (isOf_trimming d params r way) context
  rw [hignore, hscope] at hall
  rw [hscope] at hfiltered
  constructor
  · rw [hall, texts, trimmedTexts, List.map_map]
    rfl
  · rw [hfiltered .blank _ fun _ => rfl, filter_trimmedTexts, texts, List.map_map]
    rfl

/-! ### What loads -/

section Loads

variable {hooks : Registry}

theorem denoted_trimming (htext : hooks.sanitizers.get? "text" = none)
    (htrim : hooks.postProcessors.get? "trim" = none) {source : String} (hrule : Rule.parse source = .ok r)
    (way : Trimming) : Directives.Denoted hooks (way.members source) (way.directives r) := by
  have hne : source ≠ "" := by
    rintro rfl
    cases hrule
  cases way with
  | taken => exact ⟨.set hne hrule, .absent, .named (Registry.sanitizer?_text htext), .absent, .absent, .absent⟩
  | posted =>
    exact ⟨.set hne hrule, .absent, .absent, .named (Registry.postProcessor?_trim htrim), .absent, .absent⟩

theorem denoted_ignoring {members : Keyed Json} {directives : Directives}
    (h : Directives.Denoted hooks members directives) (hnone : "$ignore" ∉ members.keys) {name : String}
    {filter : IgnoreFilter} (hfilter : hooks.ignoreFilter? name = some filter) :
    Directives.Denoted hooks (members ++ [("$ignore", .string name)])
      { directives with ignore := some filter } := by
  have hother (key : String) (hne : "$ignore" ≠ key) :
      Keyed.get? (members ++ [("$ignore", .string name)]) key = members.get? key := by
    rw [Keyed.get?_append_cons_of_ne members [] hne, List.append_nil]
  constructor
  case rule =>
    rw [hother "$rule" (by decide)]
    exact h.rule
  case topLevel =>
    rw [hother "$topLevel" (by decide)]
    exact h.topLevel
  case sanitizer =>
    rw [Directives.sanitizerMember?, hother "$sanitizer" (by decide), hother "$fn" (by decide)]
    exact h.sanitizer
  case post =>
    rw [hother "$post" (by decide)]
    exact h.post
  case ignore =>
    rw [Keyed.get?_append_cons_self hnone]
    exact .named hfilter
  case constant =>
    rw [hother "$constant" (by decide)]
    exact h.constant

theorem ofJson_of_noFields {members : Keyed Json} {directives : Directives}
    (h : Directives.Denoted hooks members directives) (hfields : Directives.fieldMembers members = []) :
    ofJson hooks (.object members) = .ok (.record directives []) := by
  refine ofJson_eq_ok_iff.2 (.record h ?_ ?_)
  · rw [hfields]
    rfl
  · rw [hfields]
    exact .nil

/-- **Trimmed texts are the same in all three ways.** If nothing is registered under the names of the accessor, the
post-processor and the filter, then for every rule an object that asks for trimmed texts loads, with the filter or
without. On every page and in every place its record gives the trimmed texts of the matches, in order, whether they
are trimmed by the accessor or by the post-processor; with the filter it gives the same list without the texts that
are empty. -/
theorem trimmed_texts_agree (htext : hooks.sanitizers.get? "text" = none)
    (htrim : hooks.postProcessors.get? "trim" = none) (hblank : hooks.ignoreFilters.get? "blank" = none)
    {source : String} {r : Rule} (hrule : Rule.parse source = .ok r) (way : Trimming) :
    ∃ every filled : Schema,
      ofJson hooks (.object (way.members source)) = .ok every ∧
      ofJson hooks (.object (way.members source ++ [("$ignore", .string "blank")])) = .ok filled ∧
      ∀ (d : Document) (params : Json) (context : Context),
        (evaluate d params every context none).outcome = .ok (texts (trimmedTexts d r context)) ∧
        (evaluate d params filled context none).outcome =
          .ok (texts ((trimmedTexts d r context).filter (· ≠ ""))) := by
  have hdenoted := denoted_trimming htext htrim hrule way
  have hnone : "$ignore" ∉ (way.members source).keys := by cases way <;> simp [Trimming.members, Keyed.keys]
  have hignoring := denoted_ignoring hdenoted hnone (Registry.ignoreFilter?_blank hblank)
  exact ⟨.record (way.directives r) [], .record { way.directives r with ignore := some .blank } [],
    ofJson_of_noFields hdenoted (by cases way <;> rfl), ofJson_of_noFields hignoring (by cases way <;> rfl),
    fun d params context => evaluate_trimming way context⟩

end Loads

/-! The first of two items has blanks around its text that are not those of a keyboard; the second has nothing
else. -/

def spacedItems : Document := Document.parse "<li>\u00a01\u3000<li>\u2003" {}

theorem spacedItems_trimmed_texts :
    Rule.parse "li" = .ok (named "li") ∧ trimmedTexts spacedItems (named "li") .document = ["1", ""] ∧
      ∃ taken posted filled : Schema,
        ofJson .empty (.object [("$rule", .string "li"), ("$sanitizer", .string "text")]) = .ok taken ∧
        ofJson .empty (.object [("$rule", .string "li"), ("$post", .string "trim")]) = .ok posted ∧
        ofJson .empty (.object [("$rule", .string "li"), ("$post", .string "trim"), ("$ignore", .string "blank")]) =
          .ok filled ∧
        (evaluate spacedItems .null taken .document none).outcome = .ok (texts ["1", ""]) ∧
        (evaluate spacedItems .null posted .document none).outcome = .ok (texts ["1", ""]) ∧
        (evaluate spacedItems .null filled .document none).outcome = .ok (texts ["1"]) := by
  have hrule : Rule.parse "li" = .ok (named "li") := by with_unfolding_all rfl
  have htexts : trimmedTexts spacedItems (named "li") .document = ["1", ""] := by decide +kernel
  have htext : Registry.empty.sanitizers.get? "text" = none := rfl
  have htrim : Registry.empty.postProcessors.get? "trim" = none := rfl
  have hblank : Registry.empty.ignoreFilters.get? "blank" = none := rfl
  obtain ⟨taken, _, htaken, -, htakenTexts⟩ := trimmed_texts_agree htext htrim hblank hrule .taken
  obtain ⟨posted, filled, hposted, hfilled, hpostedTexts⟩ := trimmed_texts_agree htext htrim hblank hrule .posted
  obtain ⟨heveryTaken, -⟩ := htakenTexts spacedItems .null .document
  obtain ⟨heveryPosted, hkept⟩ := hpostedTexts spacedItems .null .document
  rw [htexts] at heveryTaken heveryPosted hkept
  exact ⟨hrule, htexts, taken, posted, filled, htaken, hposted, hfilled, heveryTaken, heveryPosted, hkept⟩

end Schema

end PageExtract
