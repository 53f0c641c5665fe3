import PageExtract.Run
import Mathlib.Data.List.Forall2

/-!
# Laws of runs

Runs are a lawful monad, so the order in which a chain of runs is bracketed says nothing about what it
does. Beyond that the proofs about evaluation use a run in three ways: two runs over lists are equal if
they agree item by item, a run that ends well was made of runs that ended well, and what a run over a list
does is what it does on the items, one after the other, up to the first on which it fails.

`Run.Comparison` is for two runs that are neither equal nor made by the same hooks: whatever way of comparing
runs is kept when they are put one behind the other, it goes over to runs over lists.
-/

namespace PageExtract

attribute [ext] Run

namespace Run

variable {α β γ : Type}

instance : LawfulMonad Run := by
  refine LawfulMonad.mk' Run ?_ ?_ ?_
  · intro α x
    change x >>= pure = x
    cases h : x.outcome with
    | ok a => ext1 <;> simp [bind_of_ok h, h]
    | error e => ext1 <;> simp [bind_of_error h, h]
  · intro α β a f
    rw [bind_of_ok (outcome_pure a)]
    rfl
  · intro α β γ x f g
    cases h : x.outcome with
    | error e => simp only [bind_of_error h, bind_of_error (x := ⟨x.events, .error e⟩) rfl]
    | ok a =>
      cases h' : (f a).outcome with
      | error e =>
        have hxf : (x >>= f).outcome = .error e := by rw [bind_of_ok h]; exact h'
        rw [bind_of_error hxf]
        simp only [bind_of_ok h, bind_of_error h']
      | ok b =>
        have hxf : (x >>= f).outcome = .ok b := by rw [bind_of_ok h]; exact h'
        rw [bind_of_ok hxf]
        simp only [bind_of_ok h, bind_of_ok h', List.append_assoc]

/-- A chain ends well when its first part does and the rest does behind the result of that. -/
theorem bind_outcome_eq_ok_iff {x : Run α} {f : α → Run β} {b : β} :
    (x >>= f).outcome = .ok b ↔ ∃ a, x.outcome = .ok a ∧ (f a).outcome = .ok b := by
  cases h : x.outcome with
  | ok a => simp [bind_of_ok h]
  | error e => simp [bind_of_error h]

theorem bind_congr_of_ok {x : Run α} {f g : α → Run β} (h : ∀ a, x.outcome = .ok a → f a = g a) :
    x >>= f = x >>= g := by
  cases hx : x.outcome with
  | ok a => rw [bind_of_ok hx, bind_of_ok hx, h a hx]
  | error e => rw [bind_of_error hx, bind_of_error hx]

/-! ### Runs over lists -/

theorem each_congr {f g : α → Run β} {as : List α} (h : ∀ a ∈ as, f a = g a) :
    each f as = each g as := by
  induction as with
  | nil => rfl
  | cons a as ih =>
    rw [each, each, h a List.mem_cons_self, ih fun b hb => h b (List.mem_cons_of_mem a hb)]

theorem each_map (f : β → Run γ) (g : α → β) (as : List α) :
    each f (as.map g) = each (fun a => f (g a)) as := by
  induction as with
  | nil => rfl
  | cons a as ih => rw [List.map_cons, each, each, ih]

theorem each_bind_map (f : α → Run β) (g : β → γ) (as : List α) :
    (do return (← each f as).map g) = each (fun a => do return g (← f a)) as := by
  induction as with
  | nil => simp only [each, pure_bind, List.map_nil]
  | cons a as ih =>
    simp only [each, bind_assoc, pure_bind, List.map_cons, ← ih]

theorem each_eq_of_forall₂ {f : α → Run γ} {g : β → Run γ} {as : List α} {bs : List β}
    (h : List.Forall₂ (fun a b => f a = g b) as bs) : each f as = each g bs := by
  induction h with
  | nil => rfl
  | cons hab _ ih => rw [each, each, hab, ih]

/-- A run over a list ends well when it does on every item; then it has one result for each. -/
theorem each_outcome_eq_ok_iff {f : α → Run β} {as : List α} {bs : List β} :
    (each f as).outcome = .ok bs ↔ List.Forall₂ (fun a b => (f a).outcome = .ok b) as bs := by
  induction as generalizing bs with
  | nil =>
    rw [each, outcome_pure, List.forall₂_nil_left_iff, Except.ok.injEq]
    exact eq_comm
  | cons a as ih =>
    simp only [each, bind_outcome_eq_ok_iff, outcome_pure, ih, List.forall₂_cons_left_iff,
      Except.ok.injEq]
    constructor
    · rintro ⟨b, hb, bs, hbs, rfl⟩
      exact ⟨b, bs, hb, hbs, rfl⟩
    · rintro ⟨b, bs, hb, hbs, rfl⟩
      exact ⟨b, hb, bs, hbs, rfl⟩

theorem forall₂_of_each {f : α → Run β} {as : List α} {bs : List β}
    (h : (each f as).outcome = .ok bs) {r : α → β → Prop}
    (hr : ∀ a ∈ as, ∀ b, (f a).outcome = .ok b → r a b) : List.Forall₂ r as bs := by
  have hboth := (List.forall₂_and_left (p := fun a => ∀ b, (f a).outcome = .ok b → r a b) as bs).2
    ⟨hr, each_outcome_eq_ok_iff.1 h⟩
  exact hboth.imp fun a b hab => hab.1 b hab.2

theorem forall₂_of_eachKept {dropped : α → Run Bool} {f : α → Run β} {kept : α → Bool}
    (hkept : ∀ a b, (dropped a).outcome = .ok b → kept a = !b) {as : List α} {bs : List β}
    (h : (eachKept dropped f as).outcome = .ok bs) :
    List.Forall₂ (fun a b => (f a).outcome = .ok b) (as.filter kept) bs := by
  induction as generalizing bs with
  | nil =>
    rw [eachKept, outcome_pure, Except.ok.injEq] at h
    subst h
    exact .nil
  | cons a as ih =>
    rw [eachKept, bind_outcome_eq_ok_iff] at h
    obtain ⟨drop, hdrop, h⟩ := h
    have hkeep := hkept a drop hdrop
    cases drop with
    | true =>
      rw [List.filter_cons_of_neg (by simp [hkeep])]
      exact ih h
    | false =>
      rw [List.filter_cons_of_pos (by simp [hkeep])]
      simp only [Bool.false_eq_true, if_false, bind_outcome_eq_ok_iff, outcome_pure,
        Except.ok.injEq] at h
      obtain ⟨b, hb, rest, hrest, rfl⟩ := h
      exact .cons hb (ih hrest)

/-! ### What runs over lists do -/

/-- A run over a list that ends well does what it does on each item, in order. -/
theorem each_of_forall₂ {f : α → Run β} {as : List α} {bs : List β}
    (h : List.Forall₂ (fun a b => (f a).outcome = .ok b) as bs) :
    each f as = ⟨as.flatMap fun a => (f a).events, .ok bs⟩ := by
  induction h with
  | nil => rfl
  | cons hab _ ih =>
    rw [each, bind_of_ok hab, ih, bind_of_ok rfl]
    simp

theorem each_of_failure {f : α → Run β} {before behind : List α} {a : α} {e : HookError}
    (hbefore : ∀ earlier ∈ before, ∃ b, (f earlier).outcome = .ok b) (ha : (f a).outcome = .error e) :
    each f (before ++ a :: behind) = ⟨(before ++ [a]).flatMap fun a => (f a).events, .error e⟩ := by
  induction before with
  | nil =>
    rw [List.nil_append, each, bind_of_error ha]
    simp
  | cons first before ih =>
    obtain ⟨⟨b, hb⟩, hrest⟩ := List.forall_mem_cons.1 hbefore
    rw [List.cons_append, each, bind_of_ok hb, ih hrest, bind_of_error rfl]
    simp

theorem forall₂_or_failure (f : α → Run β) (as : List α) :
    (∃ bs, List.Forall₂ (fun a b => (f a).outcome = .ok b) as bs) ∨
      ∃ before a behind e, as = before ++ a :: behind ∧
        (∀ earlier ∈ before, ∃ b, (f earlier).outcome = .ok b) ∧ (f a).outcome = .error e := by
  induction as with
  | nil => exact .inl ⟨[], .nil⟩
  | cons a as ih =>
    cases ha : (f a).outcome with
    | error e => exact .inr ⟨[], a, as, e, rfl, nofun, ha⟩
    | ok b =>
      obtain ⟨bs, hbs⟩ | ⟨before, a', behind, e, rfl, hbefore, ha'⟩ := ih
      · exact .inl ⟨b :: bs, .cons ha hbs⟩
      · exact .inr ⟨a :: before, a', behind, e, rfl, List.forall_mem_cons.2 ⟨⟨b, ha⟩, hbefore⟩, ha'⟩

theorem eachKept_map (dropped : β → Run Bool) (f : β → Run γ) (g : α → β) (as : List α) :
    eachKept dropped f (as.map g) = eachKept (fun a => dropped (g a)) (fun a => f (g a)) as := by
  induction as with
  | nil => rfl
  | cons a as ih => rw [List.map_cons, eachKept, eachKept, ih]

/-- A run over the items that are not dropped asks about each item and does what it does on those that are
kept. -/
theorem eachKept_of_ok {dropped : α → Run Bool} {f : α → Run β} {drop : α → Bool} {g : α → β} {as : List α}
    (hdropped : ∀ a ∈ as, (dropped a).outcome = .ok (drop a)) (hf : ∀ a ∈ as, (f a).outcome = .ok (g a)) :
    eachKept dropped f as =
      ⟨as.flatMap fun a => (dropped a).events ++ if drop a then [] else (f a).events,
        .ok ((as.filter fun a => !drop a).map g)⟩ := by
  induction as with
  | nil => rfl
  | cons a as ih =>
    obtain ⟨hfirst, hrest⟩ := List.forall_mem_cons.1 hdropped
    obtain ⟨ha, has⟩ := List.forall_mem_cons.1 hf
    have ih := ih hrest has
    rw [eachKept, bind_of_ok hfirst]
    cases hdrop : drop a with
    | true => simp [ih, hdrop]
    | false =>
      rw [if_neg Bool.false_ne_true, bind_of_ok ha, ih, bind_of_ok rfl]
      simp [hdrop]

end Run

/-! ### Comparing runs -/

namespace Run

/-- What two runs have to do with each other, given what their results have to do with each other, if this is
kept when runs are put one behind the other. -/
structure Comparison where
  holds : {α β : Type} → (α → β → Prop) → Run α → Run β → Prop
  refl {α : Type} (x : Run α) : holds Eq x x
  pure {α β : Type} {r : α → β → Prop} {a : α} {b : β} (h : r a b) : holds r (pure a) (pure b)
  bind {α β γ δ : Type} {r : α → β → Prop} {s : γ → δ → Prop} {x : Run α} {y : Run β} {f : α → Run γ}
    {g : β → Run δ} (h : holds r x y) (hrest : ∀ a b, r a b → holds s (f a) (g b)) :
    holds s (x >>= f) (y >>= g)

namespace Comparison

variable {α β γ δ : Type} (c : Comparison) {s : γ → δ → Prop}

theorem each {f : α → Run γ} {g : β → Run δ} {as : List α} {bs : List β}
    (h : List.Forall₂ (fun a b => c.holds s (f a) (g b)) as bs) :
    c.holds (List.Forall₂ s) (Run.each f as) (Run.each g bs) := by
  induction h with
  | nil => exact c.pure .nil
  | cons hab _ ih =>
    refine c.bind hab fun b b' hb => ?_
    refine c.bind ih fun bs bs' hbs => ?_
    exact c.pure (.cons hb hbs)

/-- Two runs that drop the same items are compared on those that are kept. -/
theorem eachKept (dropped : α → Run Bool) {f : α → Run γ} {g : α → Run δ}
    (h : ∀ a, c.holds s (f a) (g a)) (as : List α) :
    c.holds (List.Forall₂ s) (Run.eachKept dropped f as) (Run.eachKept dropped g as) := by
  induction as with
  | nil => exact c.pure .nil
  | cons a as ih =>
    refine c.bind (c.refl (dropped a)) ?_
    rintro drop _ rfl
    cases drop with
    | true => exact ih
    | false =>
      refine c.bind (h a) fun b b' hb => ?_
      refine c.bind ih fun bs bs' hbs => ?_
      exact c.pure (.cons hb hbs)

end Comparison

end Run

/-! ### Calls -/

def Event.isCall : Event → Bool
  | .text _ => false
  | .sanitizer _ _ | .ignore _ _ | .post _ _ => true

namespace Run

variable {α β : Type}

/-- The calls of hooks that a run made, in order. -/
def calls (x : Run α) : List Event := x.events.filter Event.isCall

@[simp] theorem calls_pure (a : α) : (pure a : Run α).calls = [] := rfl

theorem calls_bind_of_ok {x : Run α} {a : α} (h : x.outcome = .ok a) (f : α → Run β) :
    (x >>= f).calls = x.calls ++ (f a).calls := by
  rw [bind_of_ok h, calls, calls, calls, List.filter_append]

/-- A run over a list that ends well makes the calls that it makes on each item, in order. -/
theorem calls_each {f : α → Run β} {g : α → List Event} {as : List α} {bs : List β}
    (h : (each f as).outcome = .ok bs) (hg : ∀ a ∈ as, ∀ b, (f a).outcome = .ok b → (f a).calls = g a) :
    (each f as).calls = as.flatMap g := by
  induction as generalizing bs with
  | nil => rfl
  | cons a as ih =>
    obtain ⟨ha, has⟩ := List.forall_mem_cons.1 hg
    rw [each] at h ⊢
    obtain ⟨b, hb, h⟩ := bind_outcome_eq_ok_iff.1 h
    obtain ⟨rest, hrest, -⟩ := bind_outcome_eq_ok_iff.1 h
    rw [calls_bind_of_ok hb, calls_bind_of_ok hrest, ha b hb, ih hrest has, calls_pure, List.append_nil,
      List.flatMap_cons]

theorem calls_eachKept {dropped : α → Run Bool} {f : α → Run β} {kept : α → Bool} {g : α → List Event}
    (hkept : ∀ a b, (dropped a).outcome = .ok b → kept a = !b) {as : List α} {bs : List β}
    (h : (eachKept dropped f as).outcome = .ok bs)
    (hg : ∀ a b, (f a).outcome = .ok b → (f a).calls = g a) :
    (eachKept dropped f as).calls = as.flatMap fun a => (dropped a).calls ++ if kept a then g a else [] := by
  induction as generalizing bs with
  | nil => rfl
  | cons a as ih =>
    rw [eachKept] at h ⊢
    obtain ⟨drop, hdrop, h⟩ := bind_outcome_eq_ok_iff.1 h
    rw [calls_bind_of_ok hdrop, List.flatMap_cons, hkept a drop hdrop]
    cases drop with
    | true =>
      rw [if_pos rfl] at h ⊢
      simp [ih h]
    | false =>
      rw [if_neg Bool.false_ne_true] at h ⊢
      obtain ⟨b, hb, h⟩ := bind_outcome_eq_ok_iff.1 h
      obtain ⟨rest, hrest, -⟩ := bind_outcome_eq_ok_iff.1 h
      rw [calls_bind_of_ok hb, calls_bind_of_ok hrest, hg a b hb, ih hrest]
      simp

end Run

end PageExtract
