import PageExtract.Keyed
import Mathlib.Data.List.Forall2
import Mathlib.Data.List.Induction
import Mathlib.Data.List.Nodup
import Mathlib.Tactic.SplitIfs

/-!
# Entries and their keys

Entries are looked up by their keys, and an entry of a key that is there already takes the place of the
first. When all entries of a list have been set one after the other, each key is there once: where it came
first, and with the value that came last. Changing the values, each by itself, can be done before or after
that.
-/

namespace PageExtract

namespace Keyed

variable {α β : Type}

/-! ### Looking up keys -/

theorem get?_append (before behind : Keyed α) (key : String) :
    get? (before ++ behind) key = (before.get? key).or (behind.get? key) := by
  rw [get?, List.find?_append, Option.map_or]
  rfl

theorem get?_eq_none_of_not_mem {entries : Keyed α} {key : String} (h : key ∉ entries.keys) :
    entries.get? key = none := by
  rw [get?, Option.map_eq_none_iff, List.find?_eq_none]
  intro entry hentry hkey
  exact h (beq_iff_eq.1 hkey ▸ List.mem_map_of_mem hentry)

theorem exists_get?_of_mem {entries : Keyed α} {key : String} (h : key ∈ entries.keys) :
    ∃ value, entries.get? key = some value := by
  obtain ⟨entry, hentry, rfl⟩ := List.mem_map.1 h
  have hfound : (entries.find? (·.1 == entry.1)).isSome = true :=
    List.find?_isSome.2 ⟨entry, hentry, beq_self_eq_true _⟩
  obtain ⟨found, hfind⟩ := Option.isSome_iff_exists.1 hfound
  exact ⟨found.2, by rw [get?, hfind, Option.map_some]⟩

theorem get?_append_cons_of_ne (before behind : Keyed α) {key other : String} (h : key ≠ other) (value : α) :
    get? (before ++ (key, value) :: behind) other = get? (before ++ behind) other := by
  rw [get?_append, get?_append, get?_cons, if_neg (by simpa using h)]

theorem get?_append_cons_self {before : Keyed α} {key : String} (h : key ∉ before.keys) (value : α)
    (behind : Keyed α) : get? (before ++ (key, value) :: behind) key = some value := by
  rw [get?_append, get?_eq_none_of_not_mem h, get?_cons, if_pos (beq_self_eq_true key), Option.none_or]

theorem get?_eq_of_perm {entries others : Keyed α} (h : entries.Perm others) (hkeys : entries.keys.Nodup)
    (key : String) : entries.get? key = others.get? key := by
  induction h with
  | nil => rfl
  | cons entry _ ih => rw [get?_cons, get?_cons, ih (List.nodup_cons.1 hkeys).2]
  | swap entry other rest =>
    have hne : other.1 ≠ entry.1 := by
      intro heq
      exact (List.nodup_cons.1 hkeys).1 (List.mem_cons.2 (.inl heq))
    simp only [get?_cons, beq_iff_eq]
    split_ifs with hother hentry
    · exact absurd (hother.trans hentry.symm) hne
    · rfl
    · rfl
    · rfl
  | trans h _ ih ih' => exact (ih hkeys).trans (ih' ((h.map Prod.fst).nodup_iff.1 hkeys))

theorem get?_eq_some_of_mem {entries : Keyed α} (hkeys : entries.keys.Nodup) {entry : String × α}
    (h : entry ∈ entries) : entries.get? entry.1 = some entry.2 := by
  induction entries with
  | nil => cases h
  | cons first rest ih =>
    obtain ⟨hfirst, hrest⟩ := List.nodup_cons.1 hkeys
    rw [get?_cons]
    rcases List.mem_cons.1 h with rfl | h
    · rw [if_pos (beq_self_eq_true _)]
    · have hne : first.1 ≠ entry.1 := fun heq => hfirst (List.mem_map.2 ⟨entry, h, heq.symm⟩)
      rw [if_neg (by simpa using hne), ih hrest h]

theorem get?_eq_of_subset {entries others : Keyed α} (hkeys : entries.keys.Nodup) (h : others ⊆ entries)
    {key : String} (hkey : key ∈ others.keys) : others.get? key = entries.get? key := by
  induction others with
  | nil => cases hkey
  | cons first rest ih =>
    obtain ⟨hfirst, hrest⟩ := List.cons_subset.1 h
    rw [get?_cons]
    split
    next heq => rw [← beq_iff_eq.1 heq, get?_eq_some_of_mem hkeys hfirst]
    next hne =>
      refine ih hrest ?_
      rcases List.mem_cons.1 hkey with rfl | hkey
      · exact absurd (beq_self_eq_true _) hne
      · exact hkey

theorem get?_map (f : α → β) (entries : Keyed α) (key : String) :
    get? (entries.map fun entry => (entry.1, f entry.2)) key = (entries.get? key).map f := by
  induction entries with
  | nil => rfl
  | cons entry entries ih =>
    rw [List.map_cons, get?_cons, get?_cons, ih]
    split_ifs <;> rfl

theorem forall₂_entries {r : α → β → Prop} {entries : List (String × α)} {others : List (String × β)}
    (hkeys : others.map Prod.fst = entries.map Prod.fst)
    (hvalues : List.Forall₂ r (entries.map Prod.snd) (others.map Prod.snd)) :
    List.Forall₂ (fun entry other => other.1 = entry.1 ∧ r entry.2 other.2) entries others := by
  have hkeys' : List.Forall₂ (· = ·) (entries.map Prod.fst) (others.map Prod.fst) := by
    rw [List.forall₂_eq_eq_eq, hkeys]
  rw [List.forall₂_map_left_iff, List.forall₂_map_right_iff] at hkeys' hvalues
  exact List.Forall₂.mp (fun entry other hkey hvalue => ⟨hkey.symm, hvalue⟩) hkeys' hvalues

/-! ### Setting keys -/

theorem set_of_not_mem {entries : Keyed α} {key : String} (h : key ∉ entries.keys) (value : α) :
    entries.set key value = entries ++ [(key, value)] := by
  induction entries with
  | nil => rfl
  | cons entry entries ih =>
    obtain ⟨hne, hrest⟩ := not_or.1 (List.mem_cons.not.1 h)
    rw [set, if_neg (by simpa using Ne.symm hne), ih hrest, List.cons_append]

theorem keys_set (entries : Keyed α) (key : String) (value : α) :
    (entries.set key value).keys = if key ∈ entries.keys then entries.keys else entries.keys ++ [key] := by
  induction entries with
  | nil => rfl
  | cons entry entries ih =>
    have hmem : key ∈ keys (entry :: entries) ↔ entry.1 = key ∨ key ∈ keys entries := by
      rw [keys, List.map_cons, List.mem_cons, eq_comm]
      rfl
    by_cases hkey : entry.1 = key
    · rw [if_pos (hmem.2 (.inl hkey)), set, if_pos (by simpa using hkey)]
      rfl
    · rw [set, if_neg (by simpa using hkey), keys, List.map_cons, ← keys, ih]
      simp only [hmem, hkey, false_or]
      split_ifs <;> rfl

theorem get?_set (entries : Keyed α) (key : String) (value : α) (other : String) :
    (entries.set key value).get? other = if key = other then some value else entries.get? other := by
  induction entries with
  | nil => simp [get?_cons]
  | cons entry entries ih =>
    rw [set]
    split_ifs <;> simp_all [get?_cons]

theorem set_map (f : α → β) (entries : Keyed α) (key : String) (value : α) :
    set (entries.map fun entry => (entry.1, f entry.2)) key (f value) =
      (entries.set key value).map fun entry => (entry.1, f entry.2) := by
  induction entries with
  | nil => rfl
  | cons entry entries ih =>
    rw [List.map_cons, set, set, ih]
    split_ifs <;> rfl

theorem ofEntries_concat (entries : List (String × α)) (entry : String × α) :
    ofEntries (entries ++ [entry]) = (ofEntries entries).set entry.1 entry.2 := by
  rw [ofEntries, List.foldl_append]
  rfl

/-- Every key stands where it came first. -/
theorem keys_ofEntries (entries : List (String × α)) :
    (ofEntries entries).keys = (entries.map Prod.fst).eraseDups := by
  induction entries using List.reverseRecOn with
  | nil => rfl
  | append_singleton entries entry ih =>
    rw [ofEntries_concat, keys_set, ih, List.map_append, List.map_singleton, List.eraseDups_append,
      List.cons_removeAll, List.nil_removeAll]
    by_cases hkey : entry.1 ∈ entries.map Prod.fst
    · rw [if_pos (List.mem_eraseDups.2 hkey), if_neg (by simpa using hkey), List.eraseDups_nil,
        List.append_nil]
    · rw [if_neg (mt List.mem_eraseDups.1 hkey), if_pos (by simpa using hkey)]
      rfl

theorem nodup_keys_ofEntries (entries : List (String × α)) : (ofEntries entries).keys.Nodup := by
  induction entries using List.reverseRecOn with
  | nil => exact List.nodup_nil
  | append_singleton entries entry ih =>
    rw [ofEntries_concat, keys_set]
    split_ifs with hkey
    · exact ih
    · refine List.nodup_append.2 ⟨ih, List.nodup_singleton _, ?_⟩
      rintro key hmem _ hentry rfl
      exact hkey (List.mem_singleton.1 hentry ▸ hmem)

/-- Every key has the value that came last. -/
theorem get?_ofEntries (entries : List (String × α)) (key : String) :
    (ofEntries entries).get? key = get? entries.reverse key := by
  induction entries using List.reverseRecOn with
  | nil => rfl
  | append_singleton entries entry ih =>
    rw [ofEntries_concat, get?_set, ih, List.reverse_append, List.reverse_singleton, List.singleton_append,
      get?_cons]
    simp only [beq_iff_eq]

theorem ofEntries_map (f : α → β) (entries : List (String × α)) :
    ofEntries (entries.map fun entry => (entry.1, f entry.2)) =
      (ofEntries entries).map fun entry => (entry.1, f entry.2) := by
  induction entries using List.reverseRecOn with
  | nil => rfl
  | append_singleton entries entry ih =>
    rw [List.map_append, List.map_singleton, ofEntries_concat, ofEntries_concat, ih, set_map]

theorem ofEntries_of_nodup {entries : List (String × α)} (h : (entries.map Prod.fst).Nodup) :
    ofEntries entries = entries := by
  induction entries using List.reverseRecOn with
  | nil => rfl
  | append_singleton entries entry ih =>
    rw [List.map_append, List.nodup_append] at h
    obtain ⟨hentries, -, hnew⟩ := h
    rw [ofEntries_concat, ih hentries, set_of_not_mem]
    exact fun hkey => hnew _ hkey _ (List.mem_singleton.2 rfl) rfl

theorem ofEntries_ofEntries (entries : List (String × α)) : ofEntries (ofEntries entries) = ofEntries entries :=
  ofEntries_of_nodup (nodup_keys_ofEntries entries)

end Keyed

end PageExtract
