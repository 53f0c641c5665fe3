import PageExtract.Document

/-!
# Selectors without a scope

A selector is matched in a frame: the tree, and the element of which the selector is asked. Only `:scope`
looks at that element. A selector in which it does not occur, at no depth, matches the same elements of a
tree whatever element it is asked of, so a rule without it means the same in every context.

The recursions and the lemmas about them go along the tests of a selector as `Simple.holds` does.
-/

namespace PageExtract

open Markup (NodeId Tree)

namespace Selector

mutual

/-- Whether a test leaves the scope of the selector alone. -/
def Simple.scopeFree : Simple → Bool
  | .scope => false
  | .anyOf alternatives => allScopeFree alternatives
  | .noneOf alternatives => allScopeFree alternatives
  | .has alternatives => allScopeFree alternatives
  | _ => true

def compoundScopeFree : List Simple → Bool
  | [] => true
  | simple :: rest => simple.scopeFree && compoundScopeFree rest

def Complex.scopeFree : Complex → Bool
  | .mk subject before => compoundScopeFree subject && beforeScopeFree before
  | .nothing => true

def beforeScopeFree : List (Combinator × List Simple) → Bool
  | [] => true
  | (_, compound) :: rest => compoundScopeFree compound && beforeScopeFree rest

def allScopeFree : List Complex → Bool
  | [] => true
  | alternative :: rest => alternative.scopeFree && allScopeFree rest

end

variable (t : Tree) (s s' : Option NodeId)

mutual

theorem Simple.holds_scope (anchor : Option NodeId) :
    (simple : Simple) → simple.scopeFree = true → ∀ id,
      simple.holds ⟨t, s⟩ anchor id = simple.holds ⟨t, s'⟩ anchor id
  | .anyOf alternatives, h, id => by
    rw [Simple.holds, Simple.holds, anyHolds_scope anchor alternatives h]
  | .noneOf alternatives, h, id => by
    rw [Simple.holds, Simple.holds, anyHolds_scope anchor alternatives h]
  | .has alternatives, h, id => by
    rw [Simple.holds, Simple.holds, anyRelated_scope alternatives h]
  | .named _ _, _, _ => by rw [Simple.holds, Simple.holds]
  | .any, _, _ => by rw [Simple.holds, Simple.holds]
  | .noSpace, _, _ => by rw [Simple.holds, Simple.holds]
  | .id _, _, _ => by rw [Simple.holds, Simple.holds]
  | .className _, _, _ => by rw [Simple.holds, Simple.holds]
  | .attribute _, _, _ => by rw [Simple.holds, Simple.holds]
  | .nth _ _ _, _, _ => by rw [Simple.holds, Simple.holds]
  | .only _, _, _ => by rw [Simple.holds, Simple.holds]
  | .root, _, _ => by rw [Simple.holds, Simple.holds]
  | .empty, _, _ => by rw [Simple.holds, Simple.holds]
  | .host, _, _ => by rw [Simple.holds, Simple.holds]
  | .anchor, _, _ => by rw [Simple.holds, Simple.holds]

theorem allHold_scope (anchor : Option NodeId) :
    (compound : List Simple) → compoundScopeFree compound = true → ∀ id,
      allHold ⟨t, s⟩ anchor compound id = allHold ⟨t, s'⟩ anchor compound id
  | [], _, _ => by rw [allHold, allHold]
  | simple :: rest, h, id => by
    obtain ⟨hsimple, hrest⟩ := Bool.and_eq_true_iff.1 h
    rw [allHold, allHold, Simple.holds_scope anchor simple hsimple, allHold_scope anchor rest hrest]

theorem Complex.holds_scope (anchor : Option NodeId) :
    (alternative : Complex) → alternative.scopeFree = true → ∀ id,
      alternative.holds ⟨t, s⟩ anchor id = alternative.holds ⟨t, s'⟩ anchor id
  | .mk subject before, h, id => by
    obtain ⟨hsubject, hbefore⟩ := Bool.and_eq_true_iff.1 h
    rw [Complex.holds, Complex.holds, allHold_scope anchor subject hsubject,
      verdict_scope anchor before hbefore]
  | .nothing, _, _ => by rw [Complex.holds, Complex.holds]

-- The verdicts are those on the elements that `seek` tries, so they agree as functions.
theorem verdict_scope (anchor : Option NodeId) :
    (before : List (Combinator × List Simple)) → beforeScopeFree before = true → ∀ id,
      verdict ⟨t, s⟩ anchor before id = verdict ⟨t, s'⟩ anchor before id
  | [], _, _ => by rw [verdict, verdict]
  | (combinator, compound) :: rest, h, id => by
    obtain ⟨hcompound, hrest⟩ := Bool.and_eq_true_iff.1 h
    rw [verdict, verdict]
    simp only [allHold_scope anchor compound hcompound, verdict_scope anchor rest hrest]

theorem anyHolds_scope (anchor : Option NodeId) :
    (alternatives : List Complex) → allScopeFree alternatives = true → ∀ id,
      anyHolds ⟨t, s⟩ anchor alternatives id = anyHolds ⟨t, s'⟩ anchor alternatives id
  | [], _, _ => by rw [anyHolds, anyHolds]
  | alternative :: rest, h, id => by
    obtain ⟨halternative, hrest⟩ := Bool.and_eq_true_iff.1 h
    rw [anyHolds, anyHolds, Complex.holds_scope anchor alternative halternative,
      anyHolds_scope anchor rest hrest]

theorem anyRelated_scope :
    (alternatives : List Complex) → allScopeFree alternatives = true → ∀ id,
      anyRelated ⟨t, s⟩ alternatives id = anyRelated ⟨t, s'⟩ alternatives id
  | [], _, _ => by rw [anyRelated, anyRelated]
  | alternative :: rest, h, id => by
    obtain ⟨halternative, hrest⟩ := Bool.and_eq_true_iff.1 h
    rw [anyRelated, anyRelated, anyRelated_scope rest hrest]
    congr 2
    funext other
    exact Complex.holds_scope (some id) alternative halternative other

end

end Selector

/-- Whether `:scope` occurs nowhere in the selector of a rule. -/
def Rule.scopeFree (rule : Rule) : Bool := Selector.allScopeFree rule.alternatives

/-- A rule without `:scope` matches the same elements in every context. -/
theorem Rule.isMatch_frame {rule : Rule} (hfree : rule.scopeFree = true) (d : Document)
    (context context' : Context) (id : NodeId) :
    Selector.isMatch (d.frame context) rule.alternatives id =
      Selector.isMatch (d.frame context') rule.alternatives id := by
  have htree : ∀ context, d.frame context = ⟨d.tree, (d.frame context).scope⟩ := by
    rintro (_ | _) <;> rfl
  rw [htree context, htree context']
  exact Selector.anyHolds_scope d.tree _ _ none rule.alternatives hfree id

end PageExtract
