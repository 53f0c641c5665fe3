import PageExtract.Proofs.Places
import PageExtract.Proofs.PostProcessing

/-!
# The order of the calls

Which hooks an evaluation calls, on what and in which order, can be told from the schema and the page as one
list, without following the run: `hookCalls` is that list. What a record needs of a run is only the results
that go to its post-processor. If an evaluation ends well then its calls are the ones in this list, neither
more nor fewer. So a filter is asked about a match right before anything of this match is called, all
post-processors below a match come before the filter is asked about the next one, and the record's own
post-processor comes when all its matches are through.
-/

namespace PageExtract

/-- The call for the value of a place, if a sanitizer is in force. -/
def leafCalls (d : Document) (sanitizer : Option Sanitizer) (place : Context) : List Event :=
  match sanitizer with
  | some hook => [.sanitizer hook.name (d.elementAt place)]
  | none => []

/-- The call that asks about a match, if the record has an ignore filter. -/
def Directives.filterCalls (directives : Directives) (d : Document) (id : Markup.NodeId) : List Event :=
  match directives.ignore with
  | some hook => [.ignore hook.name (d.elementAt (.element id))]
  | none => []

/-- The call for a finished value, if there is a post-processor. -/
def postCalls (post : Option PostProcessor) (value : Json) : List Event :=
  match post with
  | some hook => [.post hook.name value]
  | none => []

/-- The value that a run ends with, in canonical form; null if the run fails. -/
def Run.canonicalJson (x : Run RawValue) : Json :=
  match x.outcome with
  | .ok raw => raw.canonicalJson
  | .error _ => .null

namespace Schema

/-- The calls for the instances of a record, if `calls` are those for an instance in a place: for each match
the question about it, and those for its instance unless it is ignored; or those for the scope if there is no
rule, and then no question. -/
def callsAtPlaces (d : Document) (params : Json) (directives : Directives) (calls : Context → List Event)
    (context : Context) : List Event :=
  match directives.rule with
  | some r => (d.select (scope directives context) r).flatMap fun id =>
      directives.filterCalls d id ++ if directives.keeps d params id then calls (.element id) else []
  | none => calls (scope directives context)

mutual

/-- The calls of hooks that the evaluation of a schema makes, in order. -/
def hookCalls (d : Document) (params : Json) : Schema → Context → Option Sanitizer → List Event
  | .rule r, context, ambient => (d.select context r).flatMap fun id => leafCalls d ambient (.element id)
  | .list items, context, ambient => hookCallsOfItems d params items context ambient
  | .record directives fields, context, ambient =>
    match directives.constant with
    | some _ => []
    | none =>
      callsAtPlaces d params directives (fun place =>
          if fields.isEmpty then leafCalls d (directives.sanitizer.or ambient) place
          else hookCallsOfFields d params fields place directives.sanitizer) context ++
        (places d params directives context).flatMap fun place =>
          postCalls directives.post (build d params directives fields ambient place).canonicalJson

def hookCallsOfItems (d : Document) (params : Json) :
    List Schema → Context → Option Sanitizer → List Event
  | [], _, _ => []
  | item :: items, context, ambient =>
    hookCalls d params item context ambient ++ hookCallsOfItems d params items context ambient

def hookCallsOfFields (d : Document) (params : Json) :
    List (String × Schema) → Context → Option Sanitizer → List Event
  | [], _, _ => []
  | (_, schema) :: fields, place, own =>
    hookCalls d params schema place own ++ hookCallsOfFields d params fields place own

end

variable {d : Document} {params : Json}

theorem hookCallsOfItems_eq_flatMap (items : List Schema) (context : Context) (ambient : Option Sanitizer) :
    hookCallsOfItems d params items context ambient = items.flatMap (hookCalls d params · context ambient) := by
  induction items with
  | nil => rfl
  | cons item items ih => rw [hookCallsOfItems, ih, List.flatMap_cons]

theorem hookCallsOfFields_eq_flatMap (fields : List (String × Schema)) (place : Context)
    (own : Option Sanitizer) :
    hookCallsOfFields d params fields place own =
      fields.flatMap fun field => hookCalls d params field.2 place own := by
  induction fields with
  | nil => rfl
  | cons field fields ih => rw [hookCallsOfFields, ih, List.flatMap_cons]

/-! ### The parts of an evaluation -/

theorem calls_leaf (sanitizer : Option Sanitizer) (place : Context) :
    (leaf d params sanitizer place).calls = leafCalls d sanitizer place := by
  cases sanitizer with
  | none => rfl
  | some hook =>
    rw [leaf, Sanitizer.call]
    cases hook.apply (d.elementAt place) params <;> rfl

theorem calls_finishOne (post : Option PostProcessor) (result : RawValue) :
    (finishOne params post result).calls = postCalls post result.canonicalJson := by
  cases post with
  | none => rfl
  | some hook =>
    rw [finishOne, PostProcessor.call]
    cases hook.apply result.canonicalJson params <;> rfl

theorem calls_build {directives : Directives} {fields : List (String × Schema)} {ambient : Option Sanitizer}
    {place : Context} {raw : RawValue}
    (ih : ∀ field ∈ fields, ∀ raw, (evaluate d params field.2 place directives.sanitizer).outcome = .ok raw →
      (evaluate d params field.2 place directives.sanitizer).calls =
        hookCalls d params field.2 place directives.sanitizer)
    (h : (build d params directives fields ambient place).outcome = .ok raw) :
    (build d params directives fields ambient place).calls =
      if fields.isEmpty then leafCalls d (directives.sanitizer.or ambient) place
      else hookCallsOfFields d params fields place directives.sanitizer := by
  rw [build] at h ⊢
  split
  next => exact calls_leaf _ place
  next hfields =>
    rw [if_neg hfields] at h
    obtain ⟨entries, hentries, -⟩ := Run.bind_outcome_eq_ok_iff.1 h
    rw [Run.calls_bind_of_ok hentries, Run.calls_pure, List.append_nil, hookCallsOfFields_eq_flatMap]
    refine Run.calls_each hentries fun field hfield entry hentry => ?_
    obtain ⟨-, hraw⟩ := (evaluateField_outcome_eq_ok_iff d params).1 hentry
    rw [evaluateField, Run.calls_bind_of_ok hraw, Run.calls_pure, List.append_nil, ih field hfield _ hraw]

theorem calls_buildAll {directives : Directives} {build : Context → Run RawValue}
    {calls : Context → List Event} (hcalls : ∀ place raw, (build place).outcome = .ok raw →
      (build place).calls = calls place)
    {context : Context} {results : List RawValue}
    (h : (buildAll d params directives build (scope directives context)).outcome = .ok results) :
    (buildAll d params directives build (scope directives context)).calls =
      callsAtPlaces d params directives calls context := by
  rw [buildAll] at h ⊢
  rw [callsAtPlaces]
  cases hrule : directives.rule with
  | none =>
    rw [hrule] at h
    obtain ⟨result, hresult, -⟩ := Run.bind_outcome_eq_ok_iff.1 h
    simp only [Run.calls_bind_of_ok hresult, hcalls _ _ hresult, Run.calls_pure, List.append_nil]
  | some r =>
    rw [hrule] at h
    simp only [buildMatches] at h ⊢
    cases hignore : directives.ignore with
    | none =>
      rw [hignore] at h
      rw [Run.calls_each h fun id _ => hcalls (.element id)]
      simp [Directives.filterCalls, Directives.keeps, hignore]
    | some hook =>
      rw [hignore] at h
      rw [Run.calls_eachKept (fun id ignored => Directives.keeps_of_call hignore) h fun id => hcalls (.element id)]
      simp only [Directives.filterCalls, hignore]
      rfl

theorem map_canonicalJson_of_forall₂ {build : Context → Run RawValue} {places : List Context}
    {results : List RawValue}
    (h : List.Forall₂ (fun place result => (build place).outcome = .ok result) places results) :
    results.map RawValue.canonicalJson = places.map fun place => (build place).canonicalJson := by
  induction h with
  | nil => rfl
  | cons hresult _ ih => rw [List.map_cons, List.map_cons, ih, Run.canonicalJson, hresult]

/-- The post-processor is called on what the places of a record were built to. -/
theorem calls_finish {post : Option PostProcessor} {build : Context → Run RawValue} {places : List Context}
    {results finished : List RawValue}
    (hresults : List.Forall₂ (fun place result => (build place).outcome = .ok result) places results)
    (h : (finish params post results).outcome = .ok finished) :
    (finish params post results).calls =
      places.flatMap fun place => postCalls post (build place).canonicalJson := by
  rw [finish_eq_each] at h ⊢
  calc (Run.each (finishOne params post) results).calls
      = results.flatMap fun result => postCalls post result.canonicalJson :=
        Run.calls_each h fun result _ _ _ => calls_finishOne post result
    _ = (results.map RawValue.canonicalJson).flatMap (postCalls post) :=
        (List.flatMap_map ..).symm
    _ = places.flatMap fun place => postCalls post (build place).canonicalJson := by
        rw [map_canonicalJson_of_forall₂ hresults, List.flatMap_map]

/-- **The calls of an evaluation that ends well are told by the schema.** A rule calls the sanitizer in force,
if there is one, on each of its matches in order; a list makes the calls of its items in order, and a constant
none. A record goes through its matches in order: of each it asks the ignore filter, if it has one, and unless
the match is ignored it makes the calls for the value of the match or, if it has fields, those of its fields in
order. Behind all matches comes one call of the post-processor, if there is one, for each match that is kept, in
order, with the canonical JSON of what was built. A record without rule makes the calls for its scope once, then
one of the post-processor, and none of the ignore filter. -/
theorem calls_evaluate {schema : Schema} {context : Context} {ambient : Option Sanitizer} {raw : RawValue}
    (h : (evaluate d params schema context ambient).outcome = .ok raw) :
    (evaluate d params schema context ambient).calls = hookCalls d params schema context ambient := by
  induction schema using Schema.induct generalizing context ambient raw with
  | rule r =>
    rw [evaluate_rule] at h ⊢
    obtain ⟨results, hresults, -⟩ := Run.bind_outcome_eq_ok_iff.1 h
    rw [Run.calls_bind_of_ok hresults, Run.calls_pure, List.append_nil, hookCalls]
    exact Run.calls_each hresults fun id _ _ _ => calls_leaf ambient (.element id)
  | list items ih =>
    rw [evaluate_list] at h ⊢
    obtain ⟨results, hresults, -⟩ := Run.bind_outcome_eq_ok_iff.1 h
    rw [Run.calls_bind_of_ok hresults, Run.calls_pure, List.append_nil, hookCalls, hookCallsOfItems_eq_flatMap]
    exact Run.calls_each hresults fun item hitem raw hraw => ih item hitem hraw
  | record directives fields ih =>
    rw [hookCalls]
    cases hconstant : directives.constant with
    | some value =>
      rw [evaluate_constant d params hconstant]
      rfl
    | none =>
      rw [evaluate_record d params hconstant] at h ⊢
      obtain ⟨results, hresults, h⟩ := Run.bind_outcome_eq_ok_iff.1 h
      obtain ⟨finished, hfinished, -⟩ := Run.bind_outcome_eq_ok_iff.1 h
      rw [Run.calls_bind_of_ok hresults, Run.calls_bind_of_ok hfinished, Run.calls_pure, List.append_nil,
        calls_buildAll (fun place raw => calls_build fun field hfield raw => ih field hfield) hresults,
        calls_finish (forall₂_of_buildAll hresults) hfinished]

/-! The first of two items is kept. The post-processor of the record in it is called before the filter is asked
about the second item, and that of the record around it at the end. -/

/-- The items that are not blank, with the texts of their `b` elements, and post-processors at both depths. -/
def postedItems : Schema :=
  .record { rule := some (named "li"), ignore := some .blank, post := some inArray }
    [("b", .record { rule := some (named "b"), sanitizer := some Accessor.text.sanitizer, post := some inArray } [])]

theorem postedItems_calls :
    ∃ raw, (evaluate itemsPage .null postedItems .document none).outcome = .ok raw ∧
      (evaluate itemsPage .null postedItems .document none).calls =
        hookCalls itemsPage .null postedItems .document none ∧
      (hookCalls itemsPage .null postedItems .document none).map (fun event => event.element?.map PageElement.name) =
        [some "li", some "b", none, some "li", none] := by
  have hends : (evaluate itemsPage .null postedItems .document none).outcome.map (fun _ => ()) = .ok () := by
    decide +kernel
  obtain ⟨raw, hraw, -⟩ := exists_ok_of_map hends
  refine ⟨raw, hraw, calls_evaluate hraw, ?_⟩
  decide +kernel

end Schema

end PageExtract
