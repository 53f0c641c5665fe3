import PageExtract.Proofs.Shape

/-!
# Some of the fields of a record

The fields of a record are evaluated one after the other in the place of each instance, and none of them sees
what the others give. Nor does the rule or the ignore filter, nor the sanitizer that the record hands down. So
a record that keeps only some of its fields, in whatever order, has as many results as before, and each of
them has the values that it had in these fields.

That holds if the record with all of its fields ends well; `Run.Carries` compares two runs of which the second
may fail less.
-/

namespace PageExtract

namespace Run

variable {α β γ δ : Type}

/-- If the first run ends well then so does the second, with a related result. -/
def Carries (r : α → β → Prop) (x : Run α) (y : Run β) : Prop :=
  ∀ a, x.outcome = .ok a → ∃ b, y.outcome = .ok b ∧ r a b

namespace Carries

variable {r : α → β → Prop} {s : γ → δ → Prop}

theorem refl (x : Run α) : Carries Eq x x := fun a ha => ⟨a, ha, rfl⟩

protected theorem pure {a : α} {b : β} (h : r a b) : Carries r (pure a) (pure b) := by
  intro a' ha
  obtain rfl : a = a' := Except.ok.inj ha
  exact ⟨b, rfl, h⟩

protected theorem bind {x : Run α} {y : Run β} (h : Carries r x y) {f : α → Run γ} {g : β → Run δ}
    (hrest : ∀ a b, r a b → Carries s (f a) (g b)) : Carries s (x >>= f) (y >>= g) := by
  intro c hc
  obtain ⟨a, ha, hc⟩ := bind_outcome_eq_ok_iff.1 hc
  obtain ⟨b, hb, hab⟩ := h a ha
  obtain ⟨c', hc', hcc'⟩ := hrest a b hab c hc
  exact ⟨c', bind_outcome_eq_ok_iff.2 ⟨b, hb, hc'⟩, hcc'⟩

protected def comparison : Comparison where
  holds := Carries
  refl := refl
  pure := .pure
  bind h hrest := h.bind hrest

theorem exists_of_mem {f : α → Run β} {as : List α} {bs : List β}
    (h : List.Forall₂ (fun a b => (f a).outcome = .ok b) as bs) {a : α} (ha : a ∈ as) :
    ∃ b ∈ bs, (f a).outcome = .ok b := by
  induction h with
  | nil => cases ha
  | cons hab _ ih =>
    rcases List.mem_cons.1 ha with rfl | ha
    · exact ⟨_, List.mem_cons_self, hab⟩
    · obtain ⟨b, hb, hab⟩ := ih ha
      exact ⟨b, List.mem_cons_of_mem _ hb, hab⟩

theorem each_of_subset {f : α → Run β} {as others : List α} (h : others ⊆ as) :
    Carries (fun bs bs' => bs' ⊆ bs) (Run.each f as) (Run.each f others) := by
  intro bs hbs
  have hall := each_outcome_eq_ok_iff.1 hbs
  induction others with
  | nil => exact ⟨[], rfl, List.nil_subset bs⟩
  | cons a others ih =>
    obtain ⟨ha, hothers⟩ := List.cons_subset.1 h
    obtain ⟨b, hb, hab⟩ := exists_of_mem hall ha
    obtain ⟨rest, hrest, hsubset⟩ := ih hothers
    refine ⟨b :: rest, ?_, List.cons_subset.2 ⟨hb, hsubset⟩⟩
    exact each_outcome_eq_ok_iff.2 (.cons hab (each_outcome_eq_ok_iff.1 hrest))

end Carries

end Run

/-- Of two records the second has the given keys, in order, and at each of them the value of the first. -/
inductive RawValue.Keeps (names : List String) : RawValue → RawValue → Prop where
  | record {entries kept : Keyed RawValue} (hkeys : kept.keys = names)
      (hvalues : ∀ name ∈ names, kept.get? name = entries.get? name) : Keeps names (.record entries) (.record kept)

namespace Schema

variable {d : Document} {params : Json} {directives : Directives} {fields others : List (String × Schema)}

theorem build_some_fields (hnames : (fields.map Prod.fst).Nodup) (hne : others ≠ []) (hsubset : others ⊆ fields)
    (ambient ambient' : Option Sanitizer) (place : Context) :
    Run.Carries (RawValue.Keeps (others.map Prod.fst)) (build d params directives fields ambient place)
      (build d params directives others ambient' place) := by
  have hothers : others.isEmpty = false := List.isEmpty_eq_false_iff.2 hne
  have hfields : fields.isEmpty = false :=
    List.isEmpty_eq_false_iff.2 fun h => hne (List.subset_nil.1 (h ▸ hsubset))
  intro raw hraw
  simp only [build, hfields, hothers, Bool.false_eq_true, if_false] at hraw ⊢
  obtain ⟨entries, hentries, hraw⟩ := Run.bind_outcome_eq_ok_iff.1 hraw
  obtain rfl : RawValue.record entries = raw := Except.ok.inj hraw
  obtain ⟨kept, hkept, hmem⟩ := Run.Carries.each_of_subset hsubset entries hentries
  have hkeys : Keyed.keys kept = others.map Prod.fst := map_fst_of_each_evaluateField d params hkept
  have hnodup : (Keyed.keys entries).Nodup := by
    rwa [Keyed.keys, map_fst_of_each_evaluateField d params hentries]
  refine ⟨.record kept, Run.bind_outcome_eq_ok_iff.2 ⟨kept, hkept, rfl⟩, .record hkeys fun name hname => ?_⟩
  exact Keyed.get?_eq_of_subset hnodup hmem (hkeys ▸ hname)

/-- **Fields do not depend on each other.** Let a record without constant and post-processor have fields of
different names, and let another one say the same, but have only some of these fields, in whatever order and
at least one. If the first ends well then so does the second, under whatever sanitizers in force, with as
many results; and each result of the second has the names of its own fields, in their order, and at each name
the raw value that the result of the first has there. -/
theorem evaluate_some_fields (hconstant : directives.constant = none) (hpost : directives.post = none)
    (hnames : (fields.map Prod.fst).Nodup) (hne : others ≠ []) (hsubset : others ⊆ fields)
    {context : Context} {ambient : Option Sanitizer} {raw : RawValue}
    (h : (evaluate d params (.record directives fields) context ambient).outcome = .ok raw)
    (ambient' : Option Sanitizer) :
    ∃ results kept, raw = .matched results ∧
      (evaluate d params (.record directives others) context ambient').outcome = .ok (.matched kept) ∧
      List.Forall₂ (RawValue.Keeps (others.map Prod.fst)) results kept := by
  rw [evaluate_record d params hconstant, hpost] at h
  obtain ⟨results, hresults, hraw⟩ := Run.bind_outcome_eq_ok_iff.1 h
  obtain rfl : RawValue.matched results = raw := Except.ok.inj hraw
  obtain ⟨kept, hkept, hkeeps⟩ :=
    buildAll_compare d params Run.Carries.comparison rfl rfl
      (build_some_fields hnames hne hsubset ambient ambient') _ results hresults
  refine ⟨results, kept, rfl, ?_, hkeeps⟩
  rw [evaluate_record d params hconstant, hpost]
  exact Run.bind_outcome_eq_ok_iff.2 ⟨kept, hkept, rfl⟩

/-! Of three fields the last and the first are kept, in this order; the item that is not blank has them. -/

/-- The items that are not blank. -/
def keptItems : Directives :=
  { rule := some (named "li"), sanitizer := some Accessor.text.sanitizer, ignore := some .blank }

/-- What `b` and `i` give in an item, and its text. -/
def itemFields : List (String × Schema) :=
  [("all", .rule (named "b")), ("none", .rule (named "i")), ("text", .record {} [])]

/-- The text of an item, and what `b` gives in it. -/
def someItemFields : List (String × Schema) := [("text", .record {} []), ("all", .rule (named "b"))]

theorem someItemFields_kept :
    keptItems.constant = none ∧ keptItems.post = none ∧ (itemFields.map Prod.fst).Nodup ∧
      someItemFields ≠ [] ∧ someItemFields ⊆ itemFields ∧
      ∃ result kept,
        (evaluate itemsPage .null (.record keptItems itemFields) .document
          (some Accessor.outerMarkup.sanitizer)).outcome = .ok (.matched [result]) ∧
        (evaluate itemsPage .null (.record keptItems someItemFields) .document none).outcome =
          .ok (.matched [kept]) ∧
        RawValue.Keeps ["text", "all"] result kept := by
  have hnames : (itemFields.map Prod.fst).Nodup := by decide
  have hne : someItemFields ≠ [] := List.cons_ne_nil _ _
  have hsubset : someItemFields ⊆ itemFields := by
    simp [someItemFields, itemFields]
  have hlength : (evaluate itemsPage .null (.record keptItems itemFields) .document
      (some Accessor.outerMarkup.sanitizer)).outcome.map (fun raw => raw.topLevel.length) = .ok 1 := by
    decide +kernel
  obtain ⟨raw, hraw, hone⟩ := exists_ok_of_map hlength
  obtain ⟨results, kept, rfl, hkept, hkeeps⟩ :=
    evaluate_some_fields rfl rfl hnames hne hsubset hraw none
  have htop : (RawValue.matched results).topLevel = results.map RawValue.canonicalJson := rfl
  rw [htop, List.length_map, List.length_eq_one_iff] at hone
  obtain ⟨result, rfl⟩ := hone
  obtain ⟨only, rfl⟩ := List.length_eq_one_iff.1 hkeeps.length_eq.symm
  exact ⟨rfl, rfl, hnames, hne, hsubset, result, only, hraw, hkept, (List.forall₂_cons.1 hkeeps).1⟩

end Schema

end PageExtract
