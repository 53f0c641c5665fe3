import PageExtract.Proofs.RawValue

/-!
# The JSON of a raw result, part by part

The JSON of a raw result depends on its parts only through theirs. So any parts of it, at whatever depth and
none of them inside another, can be finished first, each by itself: put in the place of a part as a scalar,
its JSON is never looked into again, and the whole comes out the same. In particular it does not matter that
the scalar no longer is a list that could collapse.

Of the entries of a record that repeat a key the last one counts, in the place of the first. This merge
looks at keys alone, so it can be done before or after lists collapse.
-/

namespace PageExtract

namespace RawValue

/-! ### Raw results with the same JSON -/

def SameJson (raw other : RawValue) : Prop := other.canonicalJson = raw.canonicalJson

/-- Two raw results with the same JSON, inside others and as whole results. -/
structure Alike (raw other : RawValue) : Prop where
  sameJson : raw.SameJson other
  topLevel : other.topLevel = raw.topLevel

theorem SameJson.refl (raw : RawValue) : raw.SameJson raw := rfl

theorem SameJson.canonicalJson_eq {raw other : RawValue} (h : raw.SameJson other) :
    other.canonicalJson = raw.canonicalJson := h

theorem Alike.refl (raw : RawValue) : raw.Alike raw := ⟨rfl, rfl⟩

theorem map_canonicalJson_eq {results others : List RawValue} (h : List.Forall₂ SameJson results others) :
    others.map canonicalJson = results.map canonicalJson := by
  induction h with
  | nil => rfl
  | cons hsame _ ih => rw [List.map_cons, List.map_cons, hsame.canonicalJson_eq, ih]

theorem alike_list {results others : List RawValue} (h : List.Forall₂ SameJson results others)
    (structural : Bool) : Alike (.list results structural) (.list others structural) := by
  have hmap := map_canonicalJson_eq h
  refine ⟨?_, hmap⟩
  by_cases hcollapses : Collapses results structural
  · obtain ⟨result, rfl, rfl⟩ := hcollapses.exists_item
    obtain ⟨other, _, hsame, hnil, rfl⟩ := List.forall₂_cons_left_iff.1 h
    obtain rfl := List.forall₂_nil_left_iff.1 hnil
    rw [SameJson, canonicalJson, canonicalJson, canonicalize_single, canonicalize_single]
    exact hsame
  · have hothers : ¬ Collapses others structural := by
      rwa [Collapses, ← h.length_eq]
    rw [SameJson, canonicalJson_list hcollapses, canonicalJson_list hothers, hmap]

theorem alike_matched {results others : List RawValue} (h : List.Forall₂ SameJson results others) :
    Alike (.matched results) (.matched others) :=
  alike_list h false

theorem alike_declared {results others : List RawValue} (h : List.Forall₂ SameJson results others) :
    Alike (.declared results) (.declared others) := by
  rw [declared, declared, ← h.length_eq]
  exact alike_list h _

theorem sameJson_record {entries others : List (String × RawValue)}
    (h : List.Forall₂ (fun entry other => other.1 = entry.1 ∧ entry.2.SameJson other.2) entries others) :
    SameJson (.record entries) (.record others) := by
  have hentries : others.map (fun entry => (entry.1, canonicalJson entry.2)) =
      entries.map fun entry => (entry.1, canonicalJson entry.2) := by
    induction h with
    | nil => rfl
    | cons hsame _ ih =>
      obtain ⟨hkey, hvalue⟩ := hsame
      rw [List.map_cons, List.map_cons, hkey, hvalue.canonicalJson_eq, ih]
  rw [SameJson, canonicalJson_entries, canonicalJson_entries, hentries]

/-! ### Parts that are finished first -/

mutual

/-- Parts of a raw result, or all of it, have their JSON in their place. -/
inductive Replaced : RawValue → RawValue → Prop where
  | whole (raw : RawValue) : Replaced raw (.scalar raw.canonicalJson)
  | parts {raw other : RawValue} (h : ReplacedBelow raw other) : Replaced raw other

/-- Parts of a raw result, but not all of it, have their JSON in their place; no part lies inside
another. -/
inductive ReplacedBelow : RawValue → RawValue → Prop where
  | list {items others : List RawValue} (structural : Bool) (hitems : List.Forall₂ Replaced items others) :
      ReplacedBelow (.list items structural) (.list others structural)
  | record {entries others : List (String × RawValue)} (hkeys : others.map Prod.fst = entries.map Prod.fst)
      (hvalues : List.Forall₂ Replaced (entries.map Prod.snd) (others.map Prod.snd)) :
      ReplacedBelow (.record entries) (.record others)
  | scalar (value : Json) : ReplacedBelow (.scalar value) (.scalar value)

end

theorem Replaced.sameJson {raw other : RawValue} (h : raw.Replaced other)
    (hparts : ∀ other, raw.ReplacedBelow other → raw.Alike other) : raw.SameJson other := by
  cases h with
  | whole => exact canonicalJson_scalar _
  | parts h => exact (hparts other h).sameJson

theorem ReplacedBelow.alike {raw other : RawValue} (h : raw.ReplacedBelow other) : raw.Alike other := by
  induction raw using RawValue.induct generalizing other with
  | list items structural ih =>
    cases h with
    | list _ hitems =>
      have hboth := (List.forall₂_and_left _ _).2 ⟨ih, hitems⟩
      exact alike_list (hboth.imp fun item other h => h.2.sameJson fun _ => h.1) structural
  | record entries ih =>
    cases h with
    | record hkeys hvalues =>
      have hboth := (List.forall₂_and_left _ _).2 ⟨ih, Keyed.forall₂_entries hkeys hvalues⟩
      have hsame : SameJson (.record entries) (.record _) := sameJson_record
        (hboth.imp fun entry other h => ⟨h.2.1, h.2.2.sameJson fun _ => h.1⟩)
      exact ⟨hsame, congrArg List.singleton hsame⟩
  | scalar value =>
    cases h
    exact .refl _

/-! ### Entries that repeat a key -/

mutual

/-- The raw result with each key of a record once, in records at every depth. -/
def mergeKeys : RawValue → RawValue
  | .list items structural => .list (mergeKeysOfItems items) structural
  | .record entries => .record (Keyed.ofEntries (mergeKeysOfEntries entries))
  | .scalar value => .scalar value

def mergeKeysOfItems : List RawValue → List RawValue
  | [] => []
  | item :: items => mergeKeys item :: mergeKeysOfItems items

def mergeKeysOfEntries : List (String × RawValue) → List (String × RawValue)
  | [] => []
  | (key, value) :: entries => (key, mergeKeys value) :: mergeKeysOfEntries entries

end

theorem mergeKeysOfItems_eq_map (items : List RawValue) : mergeKeysOfItems items = items.map mergeKeys := by
  induction items with
  | nil => rfl
  | cons item items ih => rw [mergeKeysOfItems, ih, List.map_cons]

theorem mergeKeysOfEntries_eq_map (entries : List (String × RawValue)) :
    mergeKeysOfEntries entries = entries.map fun entry => (entry.1, mergeKeys entry.2) := by
  induction entries with
  | nil => rfl
  | cons entry entries ih => rw [mergeKeysOfEntries, ih, List.map_cons]

theorem mergeKeys_list (items : List RawValue) (structural : Bool) :
    mergeKeys (.list items structural) = .list (items.map mergeKeys) structural := by
  rw [mergeKeys, mergeKeysOfItems_eq_map]

theorem mergeKeys_record (entries : List (String × RawValue)) :
    mergeKeys (.record entries) =
      .record (Keyed.ofEntries (entries.map fun entry => (entry.1, mergeKeys entry.2))) := by
  rw [mergeKeys, mergeKeysOfEntries_eq_map]

theorem canonicalize_mergeKeys (raw : RawValue) : raw.mergeKeys.canonicalize = raw.canonicalize.mergeKeys := by
  induction raw using RawValue.induct with
  | list items structural ih =>
    rw [mergeKeys_list]
    by_cases hcollapses : Collapses items structural
    · obtain ⟨item, rfl, rfl⟩ := hcollapses.exists_item
      rw [List.map_singleton, canonicalize_single, canonicalize_single, ih item List.mem_cons_self]
    · have hmerged : ¬ Collapses (items.map mergeKeys) structural := by
        rwa [Collapses, List.length_map]
      rw [canonicalize_list hcollapses, canonicalize_list hmerged, mergeKeys_list, List.map_map, List.map_map]
      exact congrArg (list · structural) (List.map_congr_left ih)
  | record entries ih =>
    rw [canonicalize_record, mergeKeys_record, mergeKeys_record, canonicalize_record, ← Keyed.ofEntries_map,
      List.map_map, List.map_map]
    refine congrArg (fun entries => record (Keyed.ofEntries entries)) ?_
    exact List.map_congr_left fun entry hentry => congrArg (Prod.mk entry.1) (ih entry hentry)
  | scalar value => rfl

theorem toJson_mergeKeys (raw : RawValue) : raw.mergeKeys.toJson = raw.toJson := by
  induction raw using RawValue.induct with
  | list items structural ih =>
    rw [mergeKeys_list, toJson, toJson, itemsToJson_eq_map, itemsToJson_eq_map, List.map_map]
    exact congrArg Json.array (List.map_congr_left ih)
  | record entries ih =>
    rw [mergeKeys_record, toJson, toJson, entriesToJson_eq_map, entriesToJson_eq_map, ← Keyed.ofEntries_map,
      Keyed.ofEntries_ofEntries, List.map_map]
    refine congrArg (fun entries => Json.object (Keyed.ofEntries entries)) ?_
    exact List.map_congr_left fun entry hentry => congrArg (Prod.mk entry.1) (ih entry hentry)
  | scalar value => rfl

theorem canonicalJson_mergeKeys (raw : RawValue) : raw.mergeKeys.canonicalJson = raw.canonicalJson := by
  rw [canonicalJson, canonicalize_mergeKeys, toJson_mergeKeys, canonicalJson]

theorem canonicalJson_ofEntries (entries : List (String × RawValue)) :
    canonicalJson (.record (Keyed.ofEntries entries)) = canonicalJson (.record entries) := by
  rw [canonicalJson_entries, canonicalJson_entries, ← Keyed.ofEntries_map, Keyed.ofEntries_ofEntries]

theorem exists_canonicalJson_eq_object (entries : List (String × RawValue)) :
    ∃ members : Keyed Json, canonicalJson (.record entries) = .object members ∧
      members.keys = (entries.map Prod.fst).eraseDups ∧ members.keys.Nodup ∧
      ∀ key, members.get? key = (Keyed.get? entries.reverse key).map canonicalJson := by
  refine ⟨_, canonicalJson_entries entries, ?_, Keyed.nodup_keys_ofEntries _, fun key => ?_⟩
  · rw [Keyed.keys_ofEntries, List.map_map]
    rfl
  · rw [Keyed.get?_ofEntries, ← List.map_reverse, Keyed.get?_map]

/-- **The JSON of a raw result is made of that of its parts.** If parts of a raw result, at whatever depth and
none inside another, have their JSON in their place, its own JSON is the same, and so are the results if it is
the whole of an extraction. The object of a record has each key once, where it comes first and with the JSON
of the value that comes last; and keys may be merged, in that record or in records at every depth, before lists
collapse or after that. -/
theorem canonicalJson_of_parts (raw : RawValue) :
    (∀ other, raw.ReplacedBelow other →
        other.canonicalJson = raw.canonicalJson ∧ other.topLevel = raw.topLevel) ∧
      (∀ entries, raw = .record entries →
        (∃ members : Keyed Json, raw.canonicalJson = .object members ∧
          members.keys = (entries.map Prod.fst).eraseDups ∧ members.keys.Nodup ∧
          ∀ key, members.get? key = (Keyed.get? entries.reverse key).map canonicalJson) ∧
        canonicalJson (.record (Keyed.ofEntries entries)) = raw.canonicalJson) ∧
      raw.mergeKeys.canonicalize = raw.canonicalize.mergeKeys ∧
      raw.mergeKeys.canonicalJson = raw.canonicalJson := by
  refine ⟨fun other h => ⟨h.alike.sameJson, h.alike.topLevel⟩, ?_, canonicalize_mergeKeys raw,
    canonicalJson_mergeKeys raw⟩
  rintro entries rfl
  exact ⟨exists_canonicalJson_eq_object entries, canonicalJson_ofEntries entries⟩

/-! A record that repeats a key. One part that is replaced would have collapsed around another list, and one
stands below the value that counts for the key. -/

/-- The entries `a`, `b` and again `a`, each with some results. -/
def repeatedKey (b a : RawValue) : RawValue :=
  .record [("a", .list [.scalar .null, .scalar .null] false), ("b", .list [b] false), ("a", .list [a, a] false)]

theorem repeatedKey_of_parts :
    ∃ b a : RawValue, (repeatedKey b a).ReplacedBelow
        (repeatedKey (.scalar (.array [.bool true])) (.scalar (.string "x"))) ∧
      (repeatedKey (.scalar (.array [.bool true])) (.scalar (.string "x"))).topLevel =
        (repeatedKey b a).topLevel ∧
      ∃ members : Keyed Json, (repeatedKey b a).canonicalJson = .object members ∧ members.keys = ["a", "b"] ∧
        members.get? "a" = some (.array [.string "x", .string "x"]) := by
  have hb : Replaced (.list [.list [.scalar (.bool true)] false] true) (.scalar (.array [.bool true])) :=
    .whole (.list [.list [.scalar (.bool true)] false] true)
  have ha : Replaced (.list [.list [.scalar (.string "x")] false] false) (.scalar (.string "x")) :=
    .whole (.list [.list [.scalar (.string "x")] false] false)
  have hnull : Replaced (.scalar .null) (.scalar .null) := .parts (.scalar .null)
  have hbelow : (repeatedKey (.list [.list [.scalar (.bool true)] false] true)
      (.list [.list [.scalar (.string "x")] false] false)).ReplacedBelow
        (repeatedKey (.scalar (.array [.bool true])) (.scalar (.string "x"))) := by
    refine .record rfl (.cons ?_ (.cons ?_ (.cons ?_ .nil)))
    · exact .parts (.list false (.cons hnull (.cons hnull .nil)))
    · exact .parts (.list false (.cons hb .nil))
    · exact .parts (.list false (.cons ha (.cons ha .nil)))
  obtain ⟨hparts, hrecord, -⟩ := canonicalJson_of_parts
    (repeatedKey (.list [.list [.scalar (.bool true)] false] true)
      (.list [.list [.scalar (.string "x")] false] false))
  obtain ⟨⟨members, hmembers, hkeys, -, hvalues⟩, -⟩ := hrecord _ rfl
  refine ⟨_, _, hbelow, (hparts _ hbelow).2, members, hmembers, ?_, ?_⟩
  · rw [hkeys]
    decide
  · rw [hvalues]
    rfl

end RawValue

end PageExtract
