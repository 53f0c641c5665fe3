import PageExtract.Proofs.DocumentOrder
import PageExtract.Proofs.SelectorScope

/-!
# The elements a whole document gives

The root element stands for the whole document: its text is the text below the root element, and below
an element a rule selects what a walk from there comes upon. From a whole document a rule selects among
all elements ever created that have a parent. A parent is not always in the document: an element that is
taken from its place keeps all that hangs below it. Here is said exactly when the two are one, for one
rule and for all rules on a page.
-/

namespace PageExtract

open Markup (NodeId Tree)

namespace Document

/-- The node is the root element or lies below it. -/
def Includes (d : Document) (id : NodeId) : Prop :=
  id = d.rootElement ∨ id ∈ d.tree.descendants d.rootElement

instance (d : Document) (id : NodeId) : Decidable (d.Includes id) :=
  inferInstanceAs (Decidable (id = d.rootElement ∨ id ∈ d.tree.descendants d.rootElement))

/-- The node is an element, and the selector of the rule matches it. -/
def Matches (d : Document) (rule : Rule) (id : NodeId) : Prop :=
  d.tree.isElement id = true ∧ Selector.isMatch (d.frame .document) rule.alternatives id = true

/-- From the whole document the rule selects the root element, if that matches, and what it selects
below the root element, each element once. -/
def SelectsIncluded (d : Document) (rule : Rule) : Prop :=
  (d.select .document rule).Nodup ∧
    ∀ id, id ∈ d.select .document rule ↔
      (id = d.rootElement ∧ d.Matches rule id) ∨ id ∈ d.select (.element d.rootElement) rule

/-- The node has a parent exactly if the document includes it. -/
def IsPlaced (d : Document) (id : NodeId) : Prop := (d.tree.parent? id).isSome = true ↔ d.Includes id

instance (d : Document) (id : NodeId) : Decidable (d.IsPlaced id) :=
  inferInstanceAs (Decidable ((d.tree.parent? id).isSome = true ↔ d.Includes id))

theorem lt_size_of_isElement {t : Tree} {id : NodeId} (h : t.isElement id = true) : id < t.size := by
  by_contra hle
  have hnone : t.nodes[id]? = none := Array.getElem?_eq_none (Nat.le_of_not_lt hle)
  simp [Tree.isElement, Tree.element?, Tree.kind?, hnone] at h

theorem mem_select_document_iff (d : Document) (rule : Rule) (id : NodeId) :
    id ∈ d.select .document rule ↔ d.Matches rule id ∧ (d.tree.parent? id).isSome = true := by
  simp only [select, candidates, Matches, List.mem_filter, List.mem_range, Bool.and_eq_true]
  constructor
  · rintro ⟨⟨_, helement, hparent⟩, hmatch⟩
    exact ⟨⟨helement, hmatch⟩, hparent⟩
  · rintro ⟨⟨helement, hmatch⟩, hparent⟩
    exact ⟨⟨lt_size_of_isElement helement, helement, hparent⟩, hmatch⟩

theorem mem_select_element_iff {rule : Rule} (hfree : rule.scopeFree = true) (d : Document)
    (top id : NodeId) :
    id ∈ d.select (.element top) rule ↔ d.Matches rule id ∧ id ∈ d.tree.descendants top := by
  rw [select, List.mem_filter, candidates, List.mem_filter, Rule.isMatch_frame hfree d _ .document,
    Matches]
  tauto

theorem nodup_select_document (d : Document) (rule : Rule) : (d.select .document rule).Nodup :=
  (select_document_pairwise d rule).imp Nat.ne_of_lt

/-- The root element and what is selected below it are the elements of the document that match. -/
theorem root_or_mem_select_iff {rule : Rule} (hfree : rule.scopeFree = true) (d : Document)
    (id : NodeId) :
    (id = d.rootElement ∧ d.Matches rule id) ∨ id ∈ d.select (.element d.rootElement) rule ↔
      d.Matches rule id ∧ d.Includes id := by
  rw [mem_select_element_iff hfree, Includes]
  tauto

theorem selectsIncluded_iff {rule : Rule} (hfree : rule.scopeFree = true) (d : Document) :
    d.SelectsIncluded rule ↔ ∀ id, d.Matches rule id → d.IsPlaced id := by
  simp only [SelectsIncluded, nodup_select_document, true_and, mem_select_document_iff,
    root_or_mem_select_iff hfree, and_congr_right_iff, IsPlaced]

/-! ### All rules on a page -/

theorem scopeFree_anyElement : anyElement.scopeFree = true := rfl

/-- **When whole-document selections are the elements of the document.** Whatever the page, a rule without
`:scope` selects the root element, if that matches, and what it selects below the root element, exactly
if of the elements it matches those that have a parent are those that the document includes. All such
rules do exactly if that holds of all elements of the page. -/
theorem document_select_included_iff (source : String) (options : DocumentOptions) :
    (∀ rule : Rule, rule.scopeFree = true →
        ((parse source options).SelectsIncluded rule ↔
          ∀ id, (parse source options).Matches rule id → (parse source options).IsPlaced id)) ∧
      ((∀ text rule, Rule.parse text = .ok rule → rule.scopeFree = true →
          (parse source options).SelectsIncluded rule) ↔
        ∀ id, (parse source options).tree.isElement id = true → (parse source options).IsPlaced id) := by
  generalize parse source options = d
  refine ⟨fun rule hfree => selectsIncluded_iff hfree d, fun h id helement => ?_,
    fun h text rule _ hfree => ?_⟩
  · have hany := h "*" anyElement parse_anyElement scopeFree_anyElement
    exact (selectsIncluded_iff scopeFree_anyElement d).1 hany id ⟨helement, isMatch_anyElement _ id⟩
  · exact (selectsIncluded_iff hfree d).2 fun id hmatch => h id hmatch.1

/-! Where elements are moved, a selection may still be that of the document. -/

/-- Elements that a table does not hold are placed before it, and are included all the same. -/
theorem fosterPage_selects_included :
    anyElement.scopeFree = true ∧ fosterPage.SelectsIncluded anyElement := by
  have hplaced : ∀ id < fosterPage.tree.size, fosterPage.tree.isElement id = true →
      fosterPage.IsPlaced id := by
    decide +kernel
  refine ⟨scopeFree_anyElement, ?_⟩
  refine ((document_select_included_iff "<table><b>x" {}).1 anyElement scopeFree_anyElement).2 ?_
  exact fun id hmatch => hplaced id (lt_size_of_isElement hmatch.1) hmatch.1

/-! A `frameset` takes the place of the body, which keeps the paragraph below it. -/

/-- A page whose body has to go. -/
def framesetPage : Document := parse "<p></p><frameset>" {}

/-- The paragraph is selected and is neither the root element nor below it. -/
theorem framesetPage_selects_lost :
    Rule.parse "*" = .ok anyElement ∧ anyElement.scopeFree = true ∧
      (∃ id ∈ framesetPage.select .document anyElement, ¬ framesetPage.Includes id) ∧
      ¬ framesetPage.SelectsIncluded anyElement := by
  have hlost : ∃ id ∈ framesetPage.select .document anyElement, ¬ framesetPage.Includes id := by
    decide +kernel
  refine ⟨parse_anyElement, scopeFree_anyElement, hlost, fun hselects => ?_⟩
  obtain ⟨id, hmem, hnot⟩ := hlost
  have hincluded := (root_or_mem_select_iff scopeFree_anyElement framesetPage id).1
    ((hselects.2 id).1 hmem)
  exact hnot hincluded.2

end Document

end PageExtract
