import PageExtract.Proofs.Evaluation
import PageExtract.Proofs.RawValue
import PageExtract.Proofs.Shape

/-!
# What a post-processor gets, and what becomes of what it gives

A record with a post-processor is evaluated as it would be without one. Only when that is over is the
post-processor called, once for each of the results and in their order, and it gets what the record would
have given on its own as a whole schema. What it gives takes the place of the results, each as a scalar, and
scalars are what no canonical form looks into.
-/

namespace PageExtract

namespace RawValue

mutual

/-- The scalars of a raw result, from left to right. -/
def scalars : RawValue → List Json
  | .list items _ => scalarsOfItems items
  | .record entries => scalarsOfEntries entries
  | .scalar value => [value]

def scalarsOfItems : List RawValue → List Json
  | [] => []
  | item :: items => scalars item ++ scalarsOfItems items

def scalarsOfEntries : List (String × RawValue) → List Json
  | [] => []
  | (_, value) :: entries => scalars value ++ scalarsOfEntries entries

end

theorem scalarsOfItems_eq_flatMap (items : List RawValue) : scalarsOfItems items = items.flatMap scalars := by
  induction items with
  | nil => rfl
  | cons item items ih => rw [scalarsOfItems, ih, List.flatMap_cons]

theorem scalarsOfEntries_eq_flatMap (entries : List (String × RawValue)) :
    scalarsOfEntries entries = entries.flatMap fun entry => scalars entry.2 := by
  induction entries with
  | nil => rfl
  | cons entry entries ih => rw [scalarsOfEntries, ih, List.flatMap_cons]

theorem scalars_canonicalize (raw : RawValue) : raw.canonicalize.scalars = raw.scalars := by
  induction raw using RawValue.induct with
  | list items structural ih =>
    by_cases hcollapses : Collapses items structural
    · obtain ⟨item, rfl, rfl⟩ := hcollapses.exists_item
      rw [canonicalize_single, ih item List.mem_cons_self]
      simp [scalars, scalarsOfItems]
    · rw [canonicalize_list hcollapses, scalars, scalars, scalarsOfItems_eq_flatMap,
        scalarsOfItems_eq_flatMap, List.flatMap_map]
      exact List.flatMap_congr ih
  | record entries ih =>
    rw [canonicalize_record, scalars, scalars, scalarsOfEntries_eq_flatMap, scalarsOfEntries_eq_flatMap,
      List.flatMap_map]
    exact List.flatMap_congr ih
  | scalar value => rw [canonicalize_scalar]

end RawValue

namespace Schema

variable {d : Document} {params : Json}

/-- The post-processor of a record goes through what the record gives without it. -/
theorem evaluate_with_post {directives : Directives} (hconstant : directives.constant = none)
    (hook : PostProcessor) (fields : List (String × Schema)) (context : Context)
    (ambient : Option Sanitizer) :
    evaluate d params (.record { directives with post := some hook } fields) context ambient = do
      let raw ← evaluate d params (.record { directives with post := none } fields) context ambient
      return .matched ((← Run.each (hook.call params) raw.topLevel).map .scalar) := by
  have hplain : ({ directives with post := none } : Directives).constant = none := hconstant
  have hposted : ({ directives with post := some hook } : Directives).constant = none := hconstant
  have hfinish (results : List RawValue) : finish params (some hook) results =
      do return (← Run.each (hook.call params) (RawValue.matched results).topLevel).map .scalar := by
    -- item by item the post-processor gets what the items are as values of a whole schema
    have htop : (RawValue.matched results).topLevel = results.map RawValue.canonicalJson := rfl
    rw [htop, Run.each_map, Run.each_bind_map, finish]
  have hnone (results : List RawValue) : finish params none results = pure results := rfl
  rw [evaluate_record d params hplain, evaluate_record d params hposted]
  simp only [hfinish, hnone, bind_assoc, pure_bind]
  rfl

theorem flatMap_events_call (hook : PostProcessor) (values : List Json) :
    (values.flatMap fun value => (hook.call params value).events) = values.map (.post hook.name) :=
  List.map_eq_flatMap.symm

/-- **Post-processing goes through the finished results.** If a record fails without its post-processor, then
with it it is the same run. Otherwise the post-processor is called behind all that, on the results that
the record gives on its own, in order and up to the first failure. That failure is the answer, or else the
list of what the post-processor gives, as scalars. As a whole result such a list is its values, inside
others it is one of them or the array of all, and whatever raw result it gets into, the canonical form
has the same scalars in the same order. -/
theorem evaluate_posts_finished {directives : Directives} (hconstant : directives.constant = none)
    (hook : PostProcessor) (fields : List (String × Schema)) (d : Document) (params : Json)
    (context : Context) (ambient : Option Sanitizer) :
    let plain := evaluate d params (.record { directives with post := none } fields) context ambient
    let posted := evaluate d params (.record { directives with post := some hook } fields) context ambient
    (∀ e, plain.outcome = .error e → posted = plain) ∧
      (∀ raw, plain.outcome = .ok raw →
        (∃ values, List.Forall₂ (fun value given => hook.apply value params = .ok given) raw.topLevel values ∧
          posted = ⟨plain.events ++ raw.topLevel.map (.post hook.name), .ok (.matched (values.map .scalar))⟩) ∨
        ∃ before value behind e, raw.topLevel = before ++ value :: behind ∧
          (∀ earlier ∈ before, ∃ given, hook.apply earlier params = .ok given) ∧
          hook.apply value params = .error e ∧
          posted = ⟨plain.events ++ (before ++ [value]).map (.post hook.name), .error e⟩) ∧
      (∀ values : List Json, (RawValue.matched (values.map .scalar)).topLevel = values ∧
        (RawValue.matched (values.map .scalar)).canonicalJson = .gather values ∧
        (RawValue.matched (values.map .scalar)).scalars = values) ∧
      ∀ raw : RawValue, raw.canonicalize.scalars = raw.scalars := by
  intro plain posted
  have hrun : posted = do
      let raw ← plain
      return .matched ((← Run.each (hook.call params) raw.topLevel).map .scalar) :=
    evaluate_with_post hconstant hook fields context ambient
  refine ⟨?_, ?_, ?_, RawValue.scalars_canonicalize⟩
  · intro e he
    rw [hrun, Run.bind_of_error he, ← he]
  · intro raw hraw
    rw [hrun, Run.bind_of_ok hraw]
    obtain ⟨values, hvalues⟩ | ⟨before, value, behind, e, hsplit, hbefore, hvalue⟩ :=
      Run.forall₂_or_failure (hook.call params) raw.topLevel
    · left
      refine ⟨values, hvalues, ?_⟩
      rw [Run.each_of_forall₂ hvalues, flatMap_events_call, Run.bind_of_ok rfl]
      simp
    · right
      refine ⟨before, value, behind, e, hsplit, hbefore, hvalue, ?_⟩
      rw [hsplit, Run.each_of_failure hbefore hvalue, flatMap_events_call, Run.bind_of_error rfl]
  · intro values
    have hscalars : (values.map RawValue.scalar).map RawValue.canonicalJson = values := by
      simp [Function.comp_def, RawValue.canonicalJson_scalar]
    refine ⟨hscalars, ?_, ?_⟩
    · rw [RawValue.canonicalJson_matched, hscalars]
    · rw [RawValue.matched, RawValue.scalars, RawValue.scalarsOfItems_eq_flatMap]
      simp [List.flatMap_map, RawValue.scalars]

/-! The only `b` element of a page is put into an array of one item, which stays one. -/

def inArray : PostProcessor := ⟨some "wrap", fun value _ => .ok (.array [value])⟩

/-- The `b` elements, with a post-processor or without. -/
def namedItems (post : Option PostProcessor) : Schema := .record { rule := some (named "b"), post } []

theorem namedItems_posted :
    ({ rule := some (named "b") } : Directives).constant = none ∧
      ∃ raw, (evaluate itemsPage .null (namedItems none) .document none).outcome = .ok raw ∧
        raw.topLevel.length = 1 ∧
        evaluate itemsPage .null (namedItems (some inArray)) .document none =
          ⟨(evaluate itemsPage .null (namedItems none) .document none).events ++
              raw.topLevel.map (.post (some "wrap")),
            .ok (.matched (raw.topLevel.map fun value => .scalar (.array [value])))⟩ := by
  have hconstant : ({ rule := some (named "b") } : Directives).constant = none := rfl
  have hlength : (evaluate itemsPage .null (namedItems none) .document none).outcome.map
      (fun raw => raw.topLevel.length) = .ok 1 := by
    decide +kernel
  obtain ⟨raw, hraw, hone⟩ := exists_ok_of_map hlength
  refine ⟨hconstant, raw, hraw, hone, ?_⟩
  obtain ⟨-, hposts, -⟩ := evaluate_posts_finished hconstant inArray [] itemsPage .null .document none
  obtain ⟨values, hvalues, hrun⟩ | ⟨_, value, _, e, -, -, hfails, -⟩ := hposts raw hraw
  · have hgiven : values = raw.topLevel.map fun value => .array [value] := by
      rw [← List.forall₂_eq_eq_eq, List.forall₂_map_right_iff]
      exact (hvalues.imp fun value given h => (Except.ok.inj h).symm).flip
    rw [hgiven, List.map_map] at hrun
    exact hrun
  · cases hfails

end Schema

end PageExtract
