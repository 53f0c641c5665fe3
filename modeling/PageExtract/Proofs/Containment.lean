import PageExtract.Proofs.Places
import PageExtract.Proofs.Shape
import PageExtract.Proofs.WholeDocument
import Mathlib.Logic.Relation

/-!
# What an evaluation at an element can reach

A schema that never asks for the whole document, evaluated at an element, gets to other elements only by
selecting, and what is selected at an element hangs below it. So nothing outside of the element is read, or
put to a hook, however deep the schema goes, and where something was selected on the way not even the
element itself.

That selections stay below is a fact about the links of a page. The parser can leave links that lead out of
an element, so it is assumed here; `selectsBelow_of_nodesBelow` checks it on a given page.
-/

namespace PageExtract

open Markup (NodeId Tree)

namespace Document

/-- The node hangs below the other: it is a child of that or of a node below that. -/
def IsBelow (d : Document) (top id : NodeId) : Prop :=
  Relation.TransGen (fun parent child => child ∈ d.tree.children parent) top id

/-- What rules select at an element hangs below it. -/
def SelectsBelow (d : Document) : Prop :=
  ∀ top, d.tree.isElement top = true → ∀ rule, ∀ id ∈ d.select (.element top) rule, d.IsBelow top id

theorem candidate_of_mem_select {d : Document} {top id : NodeId} {rule : Rule}
    (h : id ∈ d.select (.element top) rule) : id ∈ d.tree.descendants top ∧ d.tree.isElement id = true :=
  List.mem_filter.1 (List.mem_of_mem_filter h)

/-- The nodes that hang below a node by at most so many links. -/
def nodesBelow (d : Document) : (levels : Nat) → NodeId → List NodeId
  | 0, _ => []
  | levels + 1, top => (d.tree.children top).flatMap fun child => child :: d.nodesBelow levels child

theorem isBelow_of_mem_nodesBelow {d : Document} {levels : Nat} {top id : NodeId}
    (h : id ∈ d.nodesBelow levels top) : d.IsBelow top id := by
  induction levels generalizing top with
  | zero => cases h
  | succ levels ih =>
    obtain ⟨child, hchild, hid⟩ := List.mem_flatMap.1 h
    rcases List.mem_cons.1 hid with rfl | hid
    · exact .single hchild
    · exact .head hchild (ih hid)

/-- Whether selections stay below can be checked by going through a page in both ways. -/
theorem selectsBelow_of_nodesBelow {d : Document} (levels : Nat)
    (h : ∀ top < d.tree.size, ∀ id ∈ d.tree.descendants top, id ∈ d.nodesBelow levels top) :
    d.SelectsBelow := by
  intro top htop rule id hid
  exact isBelow_of_mem_nodesBelow (h top (lt_size_of_isElement htop) id (candidate_of_mem_select hid).1)

end Document

namespace Schema

def selects : Schema → Bool
  | .rule _ => true
  | .list _ => false
  | .record directives _ => directives.rule.isSome

/-- No record asks for the whole document, at any depth, apart from what is below constants. -/
inductive Local : Schema → Prop where
  | rule (rule : Rule) : Local (.rule rule)
  | list {items : List Schema} (hitems : ∀ item ∈ items, Local item) : Local (.list items)
  | constant {directives : Directives} (h : directives.constant.isSome = true)
      (fields : List (String × Schema)) : Local (.record directives fields)
  | record {directives : Directives} {fields : List (String × Schema)} (h : directives.topLevel = false)
      (hfields : ∀ field ∈ fields, Local field.2) : Local (.record directives fields)

end Schema

open Schema

/-- An element that is reached from another one on a way through a schema: it is that element or hangs below
it, and if something is selected on the way it hangs below it. -/
structure ReachedFrom (d : Document) (top : NodeId) (path : List Schema) (element : PageElement) : Prop where
  tree : element.tree = d.tree
  inside : element.id = top ∨ d.IsBelow top element.id
  below : (∃ schema ∈ path, schema.selects = true) → d.IsBelow top element.id

namespace ReachedFrom

variable {d : Document} {top id : NodeId} {path others : List Schema} {element : PageElement}

theorem here {schema : Schema} (h : schema.selects = false) : ReachedFrom d top [schema] ⟨d.tree, top⟩ := by
  refine ⟨rfl, .inl rfl, fun hselects => ?_⟩
  obtain ⟨selecting, hmem, hselecting⟩ := hselects
  rw [List.mem_singleton.1 hmem, h] at hselecting
  cases hselecting

theorem of_isBelow (h : d.IsBelow top id) : ReachedFrom d top path ⟨d.tree, id⟩ := ⟨rfl, .inr h, fun _ => h⟩

theorem under (hid : d.IsBelow top id) (h : ReachedFrom d id others element) :
    ReachedFrom d top path element := by
  have hbelow : d.IsBelow top element.id := by
    rcases h.inside with heq | hbelow
    · rwa [heq]
    · exact hid.trans hbelow
  exact ⟨h.tree, .inr hbelow, fun _ => hbelow⟩

theorem cons {schema : Schema} (hschema : schema.selects = false) (h : ReachedFrom d top path element) :
    ReachedFrom d top (schema :: path) element := by
  refine ⟨h.tree, h.inside, fun hselects => h.below ?_⟩
  obtain ⟨selecting, hmem, hselecting⟩ := hselects
  rcases List.mem_cons.1 hmem with rfl | hmem
  · rw [hschema] at hselecting
    cases hselecting
  · exact ⟨selecting, hmem, hselecting⟩

end ReachedFrom

namespace Schema

variable {d : Document} {params : Json}

theorem scope_of_topLevel_eq_false {directives : Directives} (h : directives.topLevel = false)
    (context : Context) : scope directives context = context := by
  rw [scope, if_neg (by rw [h]; exact Bool.false_ne_true)]

/-- One step down: from a record at an element to one of its places, and from there on. -/
theorem reachedFrom_of_isPlace (hselect : d.SelectsBelow) {directives : Directives} {top : NodeId}
    (htop : d.tree.isElement top = true) {place : Context} (hplace : directives.IsPlace d (.element top) place)
    (fields : List (String × Schema)) :
    ReachedFrom d top [.record directives fields] (d.elementAt place) ∧
      ∃ id, place = .element id ∧ d.tree.isElement id = true ∧ ∀ path element,
        ReachedFrom d id path element → ReachedFrom d top (.record directives fields :: path) element := by
  cases hplace with
  | scope hrule =>
    have hselects : (Schema.record directives fields).selects = false := by rw [selects, hrule, Option.isSome_none]
    exact ⟨.here hselects, top, rfl, htop, fun path element h => h.cons hselects⟩
  | found hrule hid =>
    have hbelow : d.IsBelow top _ := hselect top htop _ _ hid
    exact ⟨.of_isBelow hbelow, _, rfl, (Document.candidate_of_mem_select hid).2,
      fun path element h => h.under hbelow⟩

theorem reachedFrom_of_mem (hselect : d.SelectsBelow) {schema : Schema} (hlocal : schema.Local)
    (ambient : Option Sanitizer) {top : NodeId} (htop : d.tree.isElement top = true) :
    PlacedRun.Always (fun path event => ∀ element, event.element? = some element → ReachedFrom d top path element)
      (evaluatePlaced d params schema (.element top) ambient) := by
  induction schema using Schema.induct generalizing top ambient with
  | rule r =>
    refine always_rule ambient fun id hid event hevent element helement => ?_
    obtain rfl := Option.some.inj (hevent.symm.trans helement)
    exact .of_isBelow (hselect top htop r id hid)
  | list items ih =>
    cases hlocal with
    | list hitems =>
      refine always_list fun item hitem entry hentry element helement => ?_
      exact (ih item hitem (hitems item hitem) ambient htop entry hentry element helement).cons rfl
  | record directives fields ih =>
    cases hlocal with
    | constant h =>
      obtain ⟨value, hvalue⟩ := Option.isSome_iff_exists.1 h
      rw [evaluatePlaced, hvalue]
      exact PlacedRun.always_pure _
    | record htopLevel hfields =>
      have hscope : scope directives (.element top) = .element top := scope_of_topLevel_eq_false htopLevel _
      refine always_record ambient ?_ ?_ ?_
      · intro event hnone element helement
        rw [hnone] at helement
        cases helement
      · intro place hplace event hevent element helement
        obtain rfl := Option.some.inj (hevent.symm.trans helement)
        exact (reachedFrom_of_isPlace hselect htop (hscope ▸ hplace) fields).1
      · intro place hplace field hfield own entry hentry element helement
        obtain ⟨-, id, rfl, hid, hstep⟩ := reachedFrom_of_isPlace hselect htop (hscope ▸ hplace) fields
        exact hstep _ _ (ih field hfield (hfields field hfield) own hid entry hentry element helement)

/-- **An evaluation at an element stays inside it.** Let selections stay below the elements they start from,
and let no record of a schema ask for the whole document. Whatever is done while the schema is evaluated at
an element, also if this fails in the end, is done in a place of the schema; and the element that is read or
put to a hook there is the one at the top or hangs below it, and hangs below it if the schema selects
something on the way to that place. -/
theorem evaluate_stays_inside (hselect : d.SelectsBelow) {schema : Schema} (hlocal : schema.Local)
    (params : Json) (ambient : Option Sanitizer) {top : NodeId} (htop : d.tree.isElement top = true) :
    (evaluatePlaced d params schema (.element top) ambient).forget =
        evaluate d params schema (.element top) ambient ∧
      ∀ path event, (path, event) ∈ (evaluatePlaced d params schema (.element top) ambient).events →
        schema.LeadsAlong path ∧
          ∀ element, event.element? = some element → ReachedFrom d top path element := by
  refine ⟨forget_evaluatePlaced d params schema (.element top) ambient, fun path event hmem => ⟨?_, ?_⟩⟩
  · exact leadsAlong_of_mem schema (.element top) ambient (path, event) hmem
  · exact reachedFrom_of_mem hselect hlocal ambient htop (path, event) hmem

/-! In the body of a page its own text is read, and below it that of a `b` element in a list item. -/

/-- The `b` elements of the list items, and the text of the context. -/
def itemsAndText : Schema :=
  .record {} [("items", .record { rule := some (named "li") } [("b", .rule (named "b"))]), ("text", .record {} [])]

def itemsBody : NodeId := 3

theorem itemsAndText_stays_inside :
    itemsPage.SelectsBelow ∧ itemsAndText.Local ∧ itemsPage.tree.isElement itemsBody = true ∧
      ((evaluatePlaced itemsPage .null itemsAndText (.element itemsBody) none).events.map fun entry =>
        (entry.1.map selects, entry.2.element?.map PageElement.name)) =
          [([false, true, true], some "b"), ([false, false], some "body")] ∧
      ∀ path event, (path, event) ∈ (evaluatePlaced itemsPage .null itemsAndText (.element itemsBody) none).events →
        ∀ element, event.element? = some element → ReachedFrom itemsPage itemsBody path element := by
  have hbelow : itemsPage.SelectsBelow := by
    refine Document.selectsBelow_of_nodesBelow itemsPage.tree.size ?_
    decide +kernel
  have hlocal : itemsAndText.Local := by
    refine .record rfl (List.forall_mem_cons.2 ⟨?_, List.forall_mem_singleton.2 (.record rfl nofun)⟩)
    exact .record rfl (List.forall_mem_singleton.2 (.rule _))
  have hbody : itemsPage.tree.isElement itemsBody = true := by
    decide +kernel
  obtain ⟨-, hinside⟩ := evaluate_stays_inside hbelow hlocal .null none hbody
  refine ⟨hbelow, hlocal, hbody, ?_, fun path event hmem => (hinside path event hmem).2⟩
  decide +kernel

end Schema

end PageExtract
