import PageExtract.Document
import Mathlib.Data.List.Nodup

/-!
# The order of selections from a whole document

Below an element, elements are selected as a walk through the tree comes upon them. From a whole document
they are selected in the order of their creation. That is tree order as long as every element gets its
place behind the elements that have theirs; it is not where an element is placed before a table that is
already there, or where older elements are moved into a younger one. Here is said exactly when the order of
a selection is that of the tree, for one rule and for all rules on a page.
-/

namespace PageExtract

open Markup (NodeId Tree)

namespace Document

/-- The nodes below the root of the tree, as a walk from there comes upon them. -/
def treeOrder (d : Document) : List NodeId := d.tree.descendants Tree.root

/-- A walk from the root comes upon one node before it comes upon another. -/
def ComesBefore (d : Document) (a b : NodeId) : Prop :=
  b ∈ d.treeOrder ∧ d.treeOrder.idxOf a < d.treeOrder.idxOf b

instance (d : Document) (a b : NodeId) : Decidable (d.ComesBefore a b) :=
  inferInstanceAs (Decidable (b ∈ d.treeOrder ∧ d.treeOrder.idxOf a < d.treeOrder.idxOf b))

/-- Of any two of the elements, the one that comes first in the tree stands first. -/
def InTreeOrder (d : Document) (ids : List NodeId) : Prop :=
  ∀ a ∈ ids, ∀ b ∈ ids, d.ComesBefore a b → ids.idxOf a < ids.idxOf b

instance (d : Document) (ids : List NodeId) : Decidable (d.InTreeOrder ids) :=
  inferInstanceAs (Decidable (∀ a ∈ ids, ∀ b ∈ ids, d.ComesBefore a b → ids.idxOf a < ids.idxOf b))

/-- Of any two of the elements, the one that comes first in the tree was created first. -/
def CreatedInTreeOrder (d : Document) (ids : List NodeId) : Prop :=
  ∀ a ∈ ids, ∀ b ∈ ids, d.ComesBefore a b → a < b

theorem lt_of_idxOf_lt_idxOf {ids : List Nat} (h : ids.Pairwise (· < ·)) {a b : Nat} (ha : a ∈ ids)
    (hb : b ∈ ids) (hab : ids.idxOf a < ids.idxOf b) : a < b := by
  have hlt := List.pairwise_iff_getElem.1 h _ _ (List.idxOf_lt_length_of_mem ha)
    (List.idxOf_lt_length_of_mem hb) hab
  simpa only [List.getElem_idxOf] using hlt

theorem idxOf_lt_idxOf_iff {ids : List Nat} (h : ids.Pairwise (· < ·)) {a b : Nat} (ha : a ∈ ids)
    (hb : b ∈ ids) :
    ids.idxOf a < ids.idxOf b ↔ a < b := by
  refine ⟨lt_of_idxOf_lt_idxOf h ha hb, fun hab => ?_⟩
  rcases Nat.lt_trichotomy (ids.idxOf a) (ids.idxOf b) with hlt | heq | hgt
  · exact hlt
  · have : a = b := (List.idxOf_inj ha).1 heq
    omega
  · have := lt_of_idxOf_lt_idxOf h hb ha hgt
    omega

/-- What is selected from a whole document stands in the order of creation. -/
theorem select_document_pairwise (d : Document) (rule : Rule) :
    (d.select .document rule).Pairwise (· < ·) := by
  rw [select, candidates]
  exact (List.pairwise_lt_range.filter _).filter _

theorem inTreeOrder_select_iff (d : Document) (rule : Rule) :
    d.InTreeOrder (d.select .document rule) ↔ d.CreatedInTreeOrder (d.select .document rule) := by
  have hpair := select_document_pairwise d rule
  constructor
  · intro h a ha b hb hab
    exact (idxOf_lt_idxOf_iff hpair ha hb).1 (h a ha b hb hab)
  · intro h a ha b hb hab
    exact (idxOf_lt_idxOf_iff hpair ha hb).2 (h a ha b hb hab)

/-! ### All rules on a page -/

def anyElement : Rule := ⟨"*", [.mk [.any] []]⟩

theorem parse_anyElement : Rule.parse "*" = .ok anyElement := rfl

theorem isMatch_anyElement (f : Selector.Frame) (id : NodeId) :
    Selector.isMatch f anyElement.alternatives id = true := by
  simp [anyElement, Selector.isMatch, Selector.anyHolds, Selector.Complex.holds, Selector.allHold,
    Selector.Simple.holds, Selector.verdict]

theorem select_anyElement (d : Document) (context : Context) :
    d.select context anyElement = d.candidates context :=
  List.filter_eq_self.2 fun id _ => isMatch_anyElement (d.frame context) id

theorem CreatedInTreeOrder.select {d : Document}
    (h : d.CreatedInTreeOrder (d.candidates .document)) (rule : Rule) :
    d.CreatedInTreeOrder (d.select .document rule) := by
  intro a ha b hb hab
  exact h a (List.mem_of_mem_filter ha) b (List.mem_of_mem_filter hb) hab

/-- **When whole-document selections are in document order.** Whatever the page, the elements that a rule
selects stand in the tree order of the page exactly if of any two of them the one that comes first in the
tree was created first. Every rule selects in tree order exactly if that holds of any two elements of the
page that have a parent. -/
theorem document_select_inTreeOrder_iff (source : String) (options : DocumentOptions) :
    (∀ rule, (parse source options).InTreeOrder ((parse source options).select .document rule) ↔
        (parse source options).CreatedInTreeOrder ((parse source options).select .document rule)) ∧
      ((∀ text rule, Rule.parse text = .ok rule →
          (parse source options).InTreeOrder ((parse source options).select .document rule)) ↔
        (parse source options).CreatedInTreeOrder ((parse source options).candidates .document)) := by
  generalize parse source options = d
  refine ⟨inTreeOrder_select_iff d, fun h => ?_, fun h text rule _ => ?_⟩
  · have hany := (inTreeOrder_select_iff d anyElement).1 (h "*" anyElement parse_anyElement)
    rwa [select_anyElement] at hany
  · exact (inTreeOrder_select_iff d rule).2 (h.select rule)

/-! A `b` in a table is placed before the table, which was created before it. -/

/-- A page with an element that may not stand in its table. -/
def fosterPage : Document := parse "<table><b>x" {}

/-- The table is selected before the `b` element and comes behind it in the tree. -/
theorem fosterPage_not_inTreeOrder :
    Rule.parse "*" = .ok anyElement ∧
      ¬ fosterPage.InTreeOrder (fosterPage.select .document anyElement) := by
  refine ⟨parse_anyElement, ?_⟩
  decide +kernel

end Document

end PageExtract
