import PageExtract.Proofs.RawValue
import Mathlib.Logic.Relation
import Mathlib.Order.WellFounded

/-!
# Canonical forms as normal forms

One collapse takes one list that stands for its only item, anywhere in a raw result, and puts the item
in its place. However collapses follow each other they come to an end, and the end is the canonical
form: a collapse leaves the canonical form as it was, the canonical form of a raw result is reached from
it, and no further collapse is possible there. So it does not matter that `canonicalize` goes from the
outside in; going from the inside out, as `canonicalizeUpwards` does, leads to the same tree.
-/

namespace PageExtract

namespace RawValue

/-- One list of one item, not structural, gives way to the item. -/
inductive Collapse : RawValue → RawValue → Prop where
  | single (item : RawValue) : Collapse (.list [item] false) item
  | inItem {x y : RawValue} (before behind : List RawValue) (structural : Bool) (step : Collapse x y) :
      Collapse (.list (before ++ x :: behind) structural) (.list (before ++ y :: behind) structural)
  | inEntry {x y : RawValue} (before behind : List (String × RawValue)) (key : String)
      (step : Collapse x y) :
      Collapse (.record (before ++ (key, x) :: behind)) (.record (before ++ (key, y) :: behind))

/-- Any number of collapses, one after the other. -/
abbrev Reduces : RawValue → RawValue → Prop := Relation.ReflTransGen Collapse

/-- Nothing is left to collapse. -/
def Settled (raw : RawValue) : Prop := ∀ next, ¬ Collapse raw next

/-! ### A collapse keeps the canonical form -/

theorem Collapse.canonicalize_eq {x y : RawValue} (h : Collapse x y) : canonicalize y = canonicalize x := by
  induction h with
  | single item => rw [canonicalize_single]
  | inItem before behind structural step ih =>
    apply canonicalize_list_congr
    simp only [List.map_append, List.map_cons, ih]
  | inEntry before behind key step ih =>
    simp only [canonicalize_record, List.map_append, List.map_cons, ih]

theorem Reduces.canonicalize_eq {x y : RawValue} (h : Reduces x y) : canonicalize y = canonicalize x := by
  induction h with
  | refl => rfl
  | tail _ step ih => exact step.canonicalize_eq.trans ih

/-! ### The canonical form is reached -/

/-- Steps of single parts of a list add up to a change of all of them. -/
theorem reduces_of_parts {α : Type} (step : α → α → Prop) (whole : List α → RawValue)
    (hstep : ∀ before behind x y, step x y →
      Collapse (whole (before ++ x :: behind)) (whole (before ++ y :: behind)))
    {f : α → α} (before : List α) {parts : List α}
    (h : ∀ part ∈ parts, Relation.ReflTransGen step part (f part)) :
    Reduces (whole (before ++ parts)) (whole (before ++ parts.map f)) := by
  induction parts generalizing before with
  | nil => exact .refl
  | cons part parts ih =>
    have hfirst : Reduces (whole (before ++ part :: parts)) (whole (before ++ f part :: parts)) :=
      Relation.ReflTransGen.lift (fun x => whole (before ++ x :: parts)) (hstep before parts) _ _
        (h part List.mem_cons_self)
    have hrest := ih (before ++ [f part]) fun part hpart => h part (List.mem_cons_of_mem _ hpart)
    simp only [List.append_assoc, List.singleton_append] at hrest
    exact hfirst.trans hrest

theorem reduces_list {f : RawValue → RawValue} {items : List RawValue}
    (h : ∀ item ∈ items, Reduces item (f item)) (structural : Bool) :
    Reduces (.list items structural) (.list (items.map f) structural) := by
  refine reduces_of_parts Collapse (fun items => .list items structural) ?_ [] h
  intro before behind x y step
  exact .inItem before behind structural step

theorem reduces_record {f : RawValue → RawValue} {entries : List (String × RawValue)}
    (h : ∀ entry ∈ entries, Reduces entry.2 (f entry.2)) :
    Reduces (.record entries) (.record (entries.map fun entry => (entry.1, f entry.2))) := by
  refine reduces_of_parts (fun x y => x.1 = y.1 ∧ Collapse x.2 y.2) .record ?_ [] ?_
  · rintro before behind ⟨key, x⟩ ⟨_, y⟩ ⟨rfl, step⟩
    exact .inEntry before behind key step
  · rintro ⟨key, value⟩ hentry
    refine Relation.ReflTransGen.lift (Prod.mk key) ?_ _ _ (h _ hentry)
    intro x y step
    exact ⟨rfl, step⟩

theorem reduces_canonicalize (raw : RawValue) : Reduces raw raw.canonicalize := by
  induction raw using RawValue.induct with
  | list items structural ih =>
    by_cases hcollapses : Collapses items structural
    · obtain ⟨item, rfl, rfl⟩ := hcollapses.exists_item
      rw [canonicalize_single]
      exact Relation.ReflTransGen.head (.single item) (ih item List.mem_cons_self)
    · rw [canonicalize_list hcollapses]
      exact reduces_list ih structural
  | record entries ih =>
    rw [canonicalize_record]
    exact reduces_record ih
  | scalar value =>
    rw [canonicalize_scalar]

/-! ### Nothing is left to collapse in it -/

theorem settled_list {items : List RawValue} {structural : Bool} (hcollapses : ¬ Collapses items structural)
    (h : ∀ item ∈ items, Settled item) : Settled (.list items structural) := by
  intro next step
  generalize hraw : RawValue.list items structural = raw at step
  cases step with
  | single item =>
    cases hraw
    exact hcollapses ⟨rfl, rfl⟩
  | inItem before behind _ step =>
    cases hraw
    exact h _ (List.mem_append_right before List.mem_cons_self) _ step
  | inEntry => cases hraw

theorem settled_record {entries : List (String × RawValue)} (h : ∀ entry ∈ entries, Settled entry.2) :
    Settled (.record entries) := by
  intro next step
  generalize hraw : RawValue.record entries = raw at step
  cases step with
  | single => cases hraw
  | inItem => cases hraw
  | inEntry before behind key step =>
    cases hraw
    exact h _ (List.mem_append_right before List.mem_cons_self) _ step

theorem settled_canonicalize (raw : RawValue) : Settled raw.canonicalize := by
  induction raw using RawValue.induct with
  | list items structural ih =>
    by_cases hcollapses : Collapses items structural
    · obtain ⟨item, rfl, rfl⟩ := hcollapses.exists_item
      rw [canonicalize_single]
      exact ih item List.mem_cons_self
    · rw [canonicalize_list hcollapses]
      refine settled_list (fun h => hcollapses ⟨by simpa using h.1, h.2⟩) ?_
      exact List.forall_mem_map.2 ih
  | record entries ih =>
    rw [canonicalize_record]
    exact settled_record (List.forall_mem_map.2 ih)
  | scalar value =>
    rw [canonicalize_scalar]
    rintro next ⟨⟩

theorem Settled.eq_of_reduces {x y : RawValue} (hx : Settled x) (h : Reduces x y) : y = x := by
  rcases Relation.ReflTransGen.cases_head h with rfl | ⟨next, step, -⟩
  · rfl
  · exact absurd step (hx next)

/-! ### Collapses come to an end -/

theorem sizeOf_append_cons_lt {α : Type} [SizeOf α] (before behind : List α) {x y : α}
    (h : sizeOf y < sizeOf x) :
    sizeOf (before ++ y :: behind) < sizeOf (before ++ x :: behind) := by
  induction before with
  | nil =>
    simp only [List.nil_append, List.cons.sizeOf_spec]
    omega
  | cons part before ih =>
    simp only [List.cons_append, List.cons.sizeOf_spec]
    omega

theorem Collapse.sizeOf_lt {x y : RawValue} (h : Collapse x y) : sizeOf y < sizeOf x := by
  induction h with
  | single item =>
    simp only [list.sizeOf_spec, List.cons.sizeOf_spec]
    omega
  | inItem before behind structural step ih =>
    have hitems := sizeOf_append_cons_lt before behind ih
    simp only [list.sizeOf_spec]
    omega
  | @inEntry x y before behind key step ih =>
    have hentry : sizeOf (key, y) < sizeOf (key, x) := by
      simp only [Prod.mk.sizeOf_spec]
      omega
    have hentries := sizeOf_append_cons_lt before behind hentry
    simp only [record.sizeOf_spec]
    omega

theorem collapse_wellFounded : WellFounded fun after before : RawValue => Collapse before after :=
  Subrelation.wf (fun h => h.sizeOf_lt) (measure (sizeOf : RawValue → Nat)).wf

/-! ### From the inside out -/

/-- The list of the given items, or the item if the list stands for its only one. -/
def collapsed : List RawValue → Bool → RawValue
  | [item], false => item
  | items, structural => .list items structural

mutual

/-- Collapses what is below a list before the list. -/
def canonicalizeUpwards : RawValue → RawValue
  | .list items structural => collapsed (canonicalizeUpwardsItems items) structural
  | .record entries => .record (canonicalizeUpwardsEntries entries)
  | .scalar value => .scalar value

def canonicalizeUpwardsItems : List RawValue → List RawValue
  | [] => []
  | item :: items => canonicalizeUpwards item :: canonicalizeUpwardsItems items

def canonicalizeUpwardsEntries : List (String × RawValue) → List (String × RawValue)
  | [] => []
  | (key, value) :: entries => (key, canonicalizeUpwards value) :: canonicalizeUpwardsEntries entries

end

theorem canonicalizeUpwardsItems_eq_map (items : List RawValue) :
    canonicalizeUpwardsItems items = items.map canonicalizeUpwards := by
  induction items with
  | nil => rfl
  | cons item items ih => rw [canonicalizeUpwardsItems, ih, List.map_cons]

theorem canonicalizeUpwardsEntries_eq_map (entries : List (String × RawValue)) :
    canonicalizeUpwardsEntries entries = entries.map fun entry => (entry.1, canonicalizeUpwards entry.2) := by
  induction entries with
  | nil => rfl
  | cons entry entries ih => rw [canonicalizeUpwardsEntries, ih, List.map_cons]

theorem canonicalizeUpwards_eq (raw : RawValue) : raw.canonicalizeUpwards = raw.canonicalize := by
  induction raw using RawValue.induct with
  | list items structural ih =>
    rw [canonicalizeUpwards, canonicalizeUpwardsItems_eq_map, List.map_congr_left ih]
    by_cases hcollapses : Collapses items structural
    · obtain ⟨item, rfl, rfl⟩ := hcollapses.exists_item
      rw [canonicalize_single]
      rfl
    · rw [canonicalize_list hcollapses, collapsed]
      rintro item hitem rfl
      exact hcollapses ⟨by simpa using congrArg List.length hitem, rfl⟩
  | record entries ih =>
    rw [canonicalizeUpwards, canonicalizeUpwardsEntries_eq_map, canonicalize_record]
    exact congrArg record (List.map_congr_left fun entry hentry => by rw [ih entry hentry])
  | scalar value => rw [canonicalizeUpwards, canonicalize_scalar]

/-- **The canonical form is the one normal form.** It is reached by collapses and admits no further one.
Wherever collapses lead, the canonical form stays the same, and where none is left they have led to it;
and they always come to an end. So collapsing from the inside out gives the canonical form too, and a
canonical form is its own. -/
theorem canonicalize_normalForm (raw : RawValue) :
    Reduces raw raw.canonicalize ∧ Settled raw.canonicalize ∧
      (∀ other, Reduces raw other →
        other.canonicalize = raw.canonicalize ∧ (Settled other → other = raw.canonicalize)) ∧
      Acc (fun after before => Collapse before after) raw ∧
      raw.canonicalizeUpwards = raw.canonicalize ∧ raw.canonicalize.canonicalize = raw.canonicalize := by
  have hreached := reduces_canonicalize raw
  refine ⟨hreached, settled_canonicalize raw, ?_, collapse_wellFounded.apply raw,
    canonicalizeUpwards_eq raw, hreached.canonicalize_eq⟩
  refine fun other hother => ⟨hother.canonicalize_eq, fun hsettled => ?_⟩
  have hsame : other.canonicalize = other := hsettled.eq_of_reduces (reduces_canonicalize other)
  rw [← hother.canonicalize_eq, hsame]

end RawValue

end PageExtract
