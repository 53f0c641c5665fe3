import PageExtract.Proofs.PostProcessing

/-!
# What an ignore filter leaves

An ignore filter is asked about each match before anything is built of it. So a record with a filter does
what it does without one, except for the matches that are ignored: of these nothing is built and nothing is
posted, and the results of the others are the same and come in the same order. Here this is told match by
match: an `Instance` is a match with what is built of it and what becomes of that in the end.
-/

namespace PageExtract

namespace Schema

/-- A match of the rule of a record, what is built of it, and its result. -/
structure Instance where
  id : Markup.NodeId
  built : RawValue
  result : RawValue

variable (d : Document) (params : Json) (directives : Directives) (fields : List (String × Schema))
  (ambient : Option Sanitizer)

namespace Instance

/-- Building the match ends well, and so does the post-processor on what is built. -/
structure IsOf (i : Instance) : Prop where
  built : (build d params directives fields ambient (.element i.id)).outcome = .ok i.built
  result : (finishOne params directives.post i.built).outcome = .ok i.result

def buildEvents (i : Instance) : List Event :=
  (build d params directives fields ambient (.element i.id)).events

/-- What is done afterwards with what was built. -/
def postEvents (i : Instance) : List Event := (finishOne params directives.post i.built).events

end Instance

variable {d params directives fields ambient}

theorem exists_instances {ids : List Markup.NodeId} {builts results : List RawValue}
    (hbuilts : List.Forall₂
      (fun id built => (build d params directives fields ambient (.element id)).outcome = .ok built) ids builts)
    (hresults : List.Forall₂ (fun built result => (finishOne params directives.post built).outcome = .ok result)
      builts results) :
    ∃ instances : List Instance, instances.map (·.id) = ids ∧ instances.map (·.built) = builts ∧
      instances.map (·.result) = results ∧ ∀ i ∈ instances, i.IsOf d params directives fields ambient := by
  induction hbuilts generalizing results with
  | nil =>
    cases hresults
    exact ⟨[], rfl, rfl, rfl, nofun⟩
  | @cons id built ids builts hbuilt _ ih =>
    cases hresults with
    | @cons _ result _ results hresult hrest =>
      obtain ⟨instances, rfl, rfl, rfl, hinstances⟩ := ih hrest
      exact ⟨⟨id, built, result⟩ :: instances, rfl, rfl, rfl,
        List.forall_mem_cons.2 ⟨⟨hbuilt, hresult⟩, hinstances⟩⟩

theorem evaluate_matches (hconstant : directives.constant = none) {r : Rule} (hrule : directives.rule = some r)
    (ignore : Option IgnoreFilter) (context : Context) :
    evaluate d params (.record { directives with ignore } fields) context ambient = do
      let builts ← buildMatches d params ignore (build d params directives fields ambient)
        (d.select (scope directives context) r)
      return .matched (← Run.each (finishOne params directives.post) builts) := by
  have hconstant' : ({ directives with ignore } : Directives).constant = none := hconstant
  have hrule' : ({ directives with ignore } : Directives).rule = some r := hrule
  rw [evaluate_record d params hconstant', buildAll, hrule']
  simp only [finish_eq_each]
  rfl

theorem exists_instances_of_evaluate (hconstant : directives.constant = none) {r : Rule}
    (hrule : directives.rule = some r) {context : Context} {raw : RawValue}
    (h : (evaluate d params (.record { directives with ignore := none } fields) context
      ambient).outcome = .ok raw) :
    ∃ instances : List Instance, instances.map (·.id) = d.select (scope directives context) r ∧
      raw = .matched (instances.map (·.result)) ∧
      ∀ i ∈ instances, i.IsOf d params directives fields ambient := by
  rw [evaluate_matches hconstant hrule, buildMatches] at h
  obtain ⟨builts, hbuilts, h⟩ := Run.bind_outcome_eq_ok_iff.1 h
  obtain ⟨results, hresults, hraw⟩ := Run.bind_outcome_eq_ok_iff.1 h
  obtain rfl : RawValue.matched results = raw := Except.ok.inj hraw
  obtain ⟨instances, hids, -, rfl, hinstances⟩ :=
    exists_instances (Run.each_outcome_eq_ok_iff.1 hbuilts) (Run.each_outcome_eq_ok_iff.1 hresults)
  exact ⟨instances, hids, rfl, hinstances⟩

theorem each_finishOne {instances : List Instance}
    (h : ∀ i ∈ instances, i.IsOf d params directives fields ambient) :
    Run.each (finishOne params directives.post) (instances.map (·.built)) =
      ⟨instances.flatMap (·.postEvents params directives), .ok (instances.map (·.result))⟩ := by
  have hfinished : List.Forall₂
      (fun built result => (finishOne params directives.post built).outcome = .ok result)
      (instances.map (·.built)) (instances.map (·.result)) := by
    rw [List.forall₂_map_left_iff, List.forall₂_map_right_iff, List.forall₂_same]
    exact fun i hi => (h i hi).result
  rw [Run.each_of_forall₂ hfinished, List.flatMap_map]
  rfl

/-- Without a filter everything is built and then everything is finished. -/
theorem evaluate_of_instances (hconstant : directives.constant = none) {r : Rule}
    (hrule : directives.rule = some r) {context : Context}
    {instances : List Instance} (hids : instances.map (·.id) = d.select (scope directives context) r)
    (h : ∀ i ∈ instances, i.IsOf d params directives fields ambient) :
    evaluate d params (.record { directives with ignore := none } fields) context ambient =
      ⟨instances.flatMap (·.buildEvents d params directives fields ambient) ++
          instances.flatMap (·.postEvents params directives),
        .ok (.matched (instances.map (·.result)))⟩ := by
  have hbuilt : List.Forall₂
      (fun id built => (build d params directives fields ambient (.element id)).outcome = .ok built)
      (instances.map (·.id)) (instances.map (·.built)) := by
    rw [List.forall₂_map_left_iff, List.forall₂_map_right_iff, List.forall₂_same]
    exact fun i hi => (h i hi).built
  rw [evaluate_matches hconstant hrule, buildMatches, ← hids, Run.each_of_forall₂ hbuilt,
    Run.bind_of_ok rfl, each_finishOne h, Run.bind_of_ok rfl, List.flatMap_map]
  simp [Instance.buildEvents]

/-- With a filter the instances that are kept are built, each behind the question about it, and then they are
finished. -/
theorem evaluate_of_instances_ignoring (hconstant : directives.constant = none) {r : Rule}
    (hrule : directives.rule = some r) (hook : IgnoreFilter) {context : Context} {instances : List Instance}
    (hids : instances.map (·.id) = d.select (scope directives context) r)
    (h : ∀ i ∈ instances, i.IsOf d params directives fields ambient) {ignored : Markup.NodeId → Bool}
    (hanswers : ∀ i ∈ instances, hook.apply (d.elementAt (.element i.id)) params = .ok (ignored i.id)) :
    evaluate d params (.record { directives with ignore := some hook } fields) context ambient =
      ⟨(instances.flatMap fun i => .ignore hook.name (d.elementAt (.element i.id)) ::
            if ignored i.id then [] else i.buildEvents d params directives fields ambient) ++
          (instances.filter fun i => !ignored i.id).flatMap (·.postEvents params directives),
        .ok (.matched ((instances.filter fun i => !ignored i.id).map (·.result)))⟩ := by
  have hkept : ∀ i ∈ instances.filter fun i => !ignored i.id, i.IsOf d params directives fields ambient :=
    fun i hi => h i (List.mem_of_mem_filter hi)
  rw [evaluate_matches hconstant hrule, buildMatches, ← hids, Run.eachKept_map,
    Run.eachKept_of_ok hanswers fun i hi => (h i hi).built, Run.bind_of_ok rfl, each_finishOne hkept,
    Run.bind_of_ok rfl]
  simp [Instance.buildEvents, IgnoreFilter.call, Run.one]

/-- **Ignoring leaves the results of the others.** If a record ends well without its filter, and the filter
answers for each match, then with the filter the record gives the results of the matches that are not
ignored, in the same order. What is done for a match that is ignored is the question to the filter alone:
of what the record does without the filter, to build the match or to post it, nothing is done. -/
theorem evaluate_selects_kept {directives : Directives} (hconstant : directives.constant = none) {r : Rule}
    (hrule : directives.rule = some r) (hook : IgnoreFilter) {fields : List (String × Schema)} {d : Document}
    {params : Json} {context : Context} {ambient : Option Sanitizer} {raw : RawValue}
    (hplain : (evaluate d params (.record { directives with ignore := none } fields) context
      ambient).outcome = .ok raw)
    {ignored : Markup.NodeId → Bool}
    (hanswers : ∀ id ∈ d.select (scope directives context) r,
      hook.apply (d.elementAt (.element id)) params = .ok (ignored id)) :
    ∃ instances : List Instance, instances.map (·.id) = d.select (scope directives context) r ∧
      (∀ i ∈ instances, i.IsOf d params directives fields ambient) ∧
      raw = .matched (instances.map (·.result)) ∧
      (evaluate d params (.record { directives with ignore := none } fields) context ambient).events =
        instances.flatMap (·.buildEvents d params directives fields ambient) ++
          instances.flatMap (·.postEvents params directives) ∧
      evaluate d params (.record { directives with ignore := some hook } fields) context ambient =
        ⟨(instances.flatMap fun i => .ignore hook.name (d.elementAt (.element i.id)) ::
              if ignored i.id then [] else i.buildEvents d params directives fields ambient) ++
            (instances.filter fun i => !ignored i.id).flatMap (·.postEvents params directives),
          .ok (.matched ((instances.filter fun i => !ignored i.id).map (·.result)))⟩ := by
  obtain ⟨instances, hids, hraw, hinstances⟩ := exists_instances_of_evaluate hconstant hrule hplain
  have hasked : ∀ i ∈ instances, hook.apply (d.elementAt (.element i.id)) params = .ok (ignored i.id) := by
    intro i hi
    have hid : i.id ∈ instances.map (·.id) := List.mem_map_of_mem hi
    rw [hids] at hid
    exact hanswers i.id hid
  exact ⟨instances, hids, hinstances, hraw,
    congrArg Run.events (evaluate_of_instances hconstant hrule hids hinstances),
    evaluate_of_instances_ignoring hconstant hrule hook hids hinstances hasked⟩

/-! Of two items the second is blank. -/

/-- The items with their `b` elements, each item put into an array. -/
def itemsDirectives : Directives := { rule := some (named "li"), post := some inArray }

def isBlankItem (id : Markup.NodeId) : Bool := (trim (itemsPage.elementAt (.element id)).text).isEmpty

/-- The run over the items, with a filter or without. -/
def itemsRun (ignore : Option IgnoreFilter) : Run RawValue :=
  evaluate itemsPage .null (.record { itemsDirectives with ignore } [("all", .rule (named "b"))]) .document none

theorem itemsRun_selects_kept :
    itemsDirectives.constant = none ∧ itemsDirectives.rule = some (named "li") ∧
      (∀ id ∈ itemsPage.select .document (named "li"),
        IgnoreFilter.blank.apply (itemsPage.elementAt (.element id)) .null = .ok (isBlankItem id)) ∧
      ∃ kept dropped : Instance, isBlankItem kept.id = false ∧ isBlankItem dropped.id = true ∧
        (itemsRun none).outcome = .ok (.matched [kept.result, dropped.result]) ∧
        (itemsRun (some .blank)).outcome = .ok (.matched [kept.result]) := by
  have hconstant : itemsDirectives.constant = none := rfl
  have hrule : itemsDirectives.rule = some (named "li") := rfl
  have hanswers : ∀ id ∈ itemsPage.select .document (named "li"),
      IgnoreFilter.blank.apply (itemsPage.elementAt (.element id)) .null = .ok (isBlankItem id) :=
    fun _ _ => rfl
  have hends : (itemsRun none).outcome.map (fun _ => ()) = .ok () := by decide +kernel
  have hblank : (itemsPage.select .document (named "li")).map isBlankItem = [false, true] := by decide +kernel
  obtain ⟨raw, hplain, -⟩ := exists_ok_of_map hends
  obtain ⟨instances, hids, -, rfl, -, hrun⟩ := evaluate_selects_kept hconstant hrule .blank hplain hanswers
  have hselected : itemsPage.select .document (named "li") = instances.map (·.id) := hids.symm
  rw [hselected, List.map_map] at hblank
  obtain ⟨kept, others, rfl, hkept, hothers⟩ := List.map_eq_cons_iff.1 hblank
  obtain ⟨dropped, others, rfl, hdropped, hnone⟩ := List.map_eq_cons_iff.1 hothers
  obtain rfl := List.map_eq_nil_iff.1 hnone
  refine ⟨hconstant, hrule, hanswers, kept, dropped, hkept, hdropped, hplain, ?_⟩
  rw [Function.comp_apply] at hkept hdropped
  rw [itemsRun, hrun]
  simp [hkept, hdropped]

end Schema

end PageExtract
