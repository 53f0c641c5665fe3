import PageExtract.Proofs.Loading

/-!
# Routes as they are written

A route leads from a JSON value to one inside it, through items and through members of all kinds. Faults
show it as a text, in which every step begins with a point or a bracket. Keys may hold these characters
too, and then two routes can read the same; if no key does, the text can be cut into its steps again, and
belongs to one place of the value only.
-/

namespace PageExtract

/-- The steps of a route, taken one after the other, lead from the first value to the second. -/
inductive Json.LeadsTo : Json → Route → Json → Prop where
  | here (value : Json) : LeadsTo value [] value
  | index {items : List Json} {position : Nat} {item value : Json} {route : Route}
      (hitem : items[position]? = some item) (h : LeadsTo item route value) :
      LeadsTo (.array items) (.index position :: route) value
  | key {members : List (String × Json)} {key : String} {item value : Json} {route : Route}
      (hmember : (key, item) ∈ members) (h : LeadsTo item route value) :
      LeadsTo (.object members) (.key key :: route) value

/-- A character with which the steps of a written route begin. -/
def isMark (c : Char) : Bool := c == '.' || c == '['

/-- A key in which no step could begin. -/
def IsPlainKey (key : String) : Prop := ∀ c ∈ key.toList, isMark c = false

instance : DecidablePred IsPlainKey := fun key => List.decidableBAll _ key.toList

/-- The keys of every object, at every depth, are plain. -/
inductive Json.PlainKeys : Json → Prop where
  | null : PlainKeys .null
  | bool (b : Bool) : PlainKeys (.bool b)
  | number (n : Number) : PlainKeys (.number n)
  | string (s : String) : PlainKeys (.string s)
  | array {items : List Json} (hitems : ∀ item ∈ items, PlainKeys item) : PlainKeys (.array items)
  | object {members : List (String × Json)} (hkeys : ∀ member ∈ members, IsPlainKey member.1)
      (hmembers : ∀ member ∈ members, PlainKeys member.2) : PlainKeys (.object members)

/-! ### Where a route leads -/

theorem eq_of_mem_of_nodup_keys {α : Type} {entries : List (String × α)} (h : (entries.map Prod.fst).Nodup)
    {key : String} {value other : α} (hvalue : (key, value) ∈ entries) (hother : (key, other) ∈ entries) :
    value = other := by
  have hentry : (key, value) = (key, other) := List.inj_on_of_nodup_map h hvalue hother rfl
  exact congrArg Prod.snd hentry

/-- A route leads to one value. -/
theorem Json.LeadsTo.unique {whole value other : Json} {route : Route} (hkeys : whole.DistinctKeys)
    (h : whole.LeadsTo route value) (h' : whole.LeadsTo route other) : value = other := by
  induction h with
  | here =>
    cases h'
    rfl
  | index hitem _ ih =>
    cases h' with
    | index hitem' h' =>
      obtain rfl := Option.some.inj (hitem.symm.trans hitem')
      cases hkeys with
      | array hitems => exact ih (hitems _ (List.mem_of_getElem? hitem)) h'
  | key hmember _ ih =>
    cases h' with
    | key hmember' h' =>
      cases hkeys with
      | object hnodup hmembers =>
        obtain rfl := eq_of_mem_of_nodup_keys hnodup hmember hmember'
        exact ih (hmembers _ hmember) h'

/-! ### The text of a step -/

/-- A step whose text holds no mark but the one it begins with. -/
def RouteStep.IsPlain : RouteStep → Prop
  | .key name => IsPlainKey name
  | .index _ => True

theorem Json.LeadsTo.isPlain {whole value : Json} {route : Route} (hplain : whole.PlainKeys)
    (h : whole.LeadsTo route value) : ∀ step ∈ route, step.IsPlain := by
  induction h with
  | here => exact nofun
  | index hitem _ ih =>
    cases hplain with
    | array hitems => exact List.forall_mem_cons.2 ⟨trivial, ih (hitems _ (List.mem_of_getElem? hitem))⟩
  | key hmember _ ih =>
    cases hplain with
    | object hkeys hmembers => exact List.forall_mem_cons.2 ⟨hkeys _ hmember, ih (hmembers _ hmember)⟩

theorem toDigits_injective {m n : Nat} (h : Nat.toDigits 10 m = Nat.toDigits 10 n) : m = n := by
  have hvalue := congrArg (fun digits => Nat.ofDigitChars 10 digits 0) h
  simpa only [Nat.ofDigitChars_ten_toDigits] using hvalue

namespace RouteStep

def mark : RouteStep → Char
  | .key _ => '.'
  | .index _ => '['

def content : RouteStep → List Char
  | .key name => name.toList
  | .index position => Nat.toDigits 10 position ++ [']']

theorem toList_text (step : RouteStep) : step.text.toList = step.mark :: step.content := by
  cases step with
  | key name => simp [text, mark, content]
  | index position => simp [text, mark, content, Nat.repr_eq_ofList_toDigits]

theorem isMark_mark (step : RouteStep) : isMark step.mark = true := by
  cases step <;> rfl

theorem isMark_of_isDigit {c : Char} (h : c.isDigit = true) : isMark c = false := by
  rw [Bool.eq_false_iff]
  intro hmark
  have hc : c = '.' ∨ c = '[' := by simpa [isMark] using hmark
  rcases hc with rfl | rfl <;> simp at h

theorem isMark_content {step : RouteStep} (h : step.IsPlain) : ∀ c ∈ step.content, isMark c = false := by
  cases step with
  | key name => exact h
  | index position =>
    intro c hc
    rcases List.mem_append.1 hc with hdigit | hbracket
    · exact isMark_of_isDigit (Nat.isDigit_of_mem_toDigits (by omega) (by omega) hdigit)
    · obtain rfl := List.mem_singleton.1 hbracket
      rfl

/-- The mark tells the kind of a step, and the rest of its text tells which one it is. -/
theorem eq_of_mark_of_content {step other : RouteStep} (hmark : step.mark = other.mark)
    (hcontent : step.content = other.content) : step = other := by
  cases step with
  | key name =>
    cases other with
    | key name' => rw [String.toList_injective hcontent]
    | index position => simp [mark] at hmark
  | index position =>
    cases other with
    | key name => simp [mark] at hmark
    | index position' =>
      have hdigits := List.append_cancel_right hcontent
      rw [toDigits_injective hdigits]

end RouteStep

/-! ### The text of a route -/

/-- Two lists that go on with marks where unmarked parts of them end are equal part by part. -/
theorem append_inj_of_marks {front front' rest rest' : List Char} (hfront : ∀ c ∈ front, isMark c = false)
    (hfront' : ∀ c ∈ front', isMark c = false) (hrest : ∀ c, rest.head? = some c → isMark c = true)
    (hrest' : ∀ c, rest'.head? = some c → isMark c = true) (h : front ++ rest = front' ++ rest') :
    front = front' ∧ rest = rest' := by
  have htake : ∀ {front rest : List Char}, (∀ c ∈ front, isMark c = false) →
      (∀ c, rest.head? = some c → isMark c = true) →
      (front ++ rest).takeWhile (fun c => !isMark c) = front := by
    intro front rest hfront hrest
    rw [List.takeWhile_append_of_pos fun c hc => by rw [hfront c hc]; rfl]
    cases rest with
    | nil => simp
    | cons c rest => simp [hrest c rfl]
  have hsame : front = front' := by
    rw [← htake hfront hrest, h, htake hfront' hrest']
  subst hsame
  exact ⟨rfl, List.append_cancel_left h⟩

namespace Route

def chars (route : Route) : List Char := route.flatMap fun step => step.text.toList

theorem toList_text (route : Route) : route.text.toList = '$' :: route.chars := by
  simp [text, chars, String.toList_join, List.flatMap_map]

theorem chars_cons (step : RouteStep) (route : Route) :
    chars (step :: route) = step.mark :: (step.content ++ route.chars) := by
  rw [chars, List.flatMap_cons, step.toList_text]
  rfl

theorem isMark_head_chars (route : Route) : ∀ c, route.chars.head? = some c → isMark c = true := by
  intro c hc
  cases route with
  | nil => cases hc
  | cons step route =>
    rw [chars_cons, List.head?_cons] at hc
    rw [← Option.some.inj hc]
    exact step.isMark_mark

theorem chars_injective {route other : Route} (hroute : ∀ step ∈ route, step.IsPlain)
    (hother : ∀ step ∈ other, step.IsPlain) (h : route.chars = other.chars) : route = other := by
  induction route generalizing other with
  | nil =>
    cases other with
    | nil => rfl
    | cons step other =>
      rw [chars_cons] at h
      cases h
  | cons step route ih =>
    cases other with
    | nil =>
      rw [chars_cons] at h
      cases h
    | cons step' other =>
      obtain ⟨hstep, hroute⟩ := List.forall_mem_cons.1 hroute
      obtain ⟨hstep', hother⟩ := List.forall_mem_cons.1 hother
      rw [chars_cons, chars_cons] at h
      obtain ⟨hmark, htail⟩ := List.cons.inj h
      obtain ⟨hcontent, hchars⟩ := append_inj_of_marks (RouteStep.isMark_content hstep)
        (RouteStep.isMark_content hstep') (isMark_head_chars route) (isMark_head_chars other) htail
      rw [RouteStep.eq_of_mark_of_content hmark hcontent, ih hroute hother hchars]

theorem text_injective {route other : Route} (hroute : ∀ step ∈ route, step.IsPlain)
    (hother : ∀ step ∈ other, step.IsPlain) (h : route.text = other.text) : route = other := by
  have hlist := congrArg String.toList h
  rw [toList_text, toList_text] at hlist
  exact chars_injective hroute hother (List.cons.inj hlist).2

end Route

/-- In a value with plain keys a written route belongs to one place. -/
theorem Json.LeadsTo.existsUnique {whole value : Json} {route : Route} (hkeys : whole.DistinctKeys)
    (hplain : whole.PlainKeys) (h : whole.LeadsTo route value) :
    ∃! place : Route × Json, whole.LeadsTo place.1 place.2 ∧ place.1.text = route.text := by
  refine ⟨(route, value), ⟨h, rfl⟩, ?_⟩
  intro place hplace
  obtain ⟨other, found⟩ := place
  obtain ⟨hfound, htext⟩ : whole.LeadsTo other found ∧ other.text = route.text := hplace
  obtain rfl : other = route := Route.text_injective (hfound.isPlain hplain) (h.isPlain hplain) htext
  rw [hfound.unique hkeys h]

end PageExtract
