import PageExtract.Selector.Basic
import PageExtract.Selector.Component
import PageExtract.Selector.Message
import PageExtract.Text.Case

/-!
# Reading selectors

A selector is read from its components. A step gives what it found and the components behind it, or a
fault and the components at which it stopped: a list that forgives faults looks through those for a
token that no list can hold.
-/

namespace PageExtract.Selector

/-- The outcome of a step of reading, with the components that are left. -/
abbrev Step (α : Type) := EStateM Fault (List Component) α

structure Setting where
  /-- Whether parts of elements may be named. -/
  allowsParts : Bool := true
  /-- Whether a relative selector may stand here. -/
  allowsRelative : Bool := true
  /-- Whether an alternative may hold more than one compound. -/
  allowsCombinators : Bool := true
deriving DecidableEq, Repr

/-- How a list of alternatives is read. A single alternative leaves what follows it. -/
inductive ListKind where
  | plain
  | forgiving
  | relative
  | single
deriving DecidableEq, Repr

def Component.isSpace : Component → Bool
  | .token (.space _) => true
  | _ => false

def skipSpace : Step Unit := modify fun rest => rest.dropWhile Component.isSpace

/-- The next component, blanks included. -/
def nextAny : Step Component := do
  match ← get with
  | [] => throw .unexpectedEnd
  | component :: rest =>
    set rest
    return component

/-- The next component that is not blank. -/
def next : Step Component := do
  skipSpace
  nextAny

/-- Nothing but blanks may be left. -/
def expectEnd : Step Unit := do
  match (← get).dropWhile Component.isSpace with
  | [] => return
  | component :: _ => throw (.unexpectedToken component.head)

def inside {α : Type} (step : Step α) (components : List Component) : Step α := do
  let rest ← get
  match (do let found ← step; expectEnd; return found : Step α).run components with
  | .ok found _ => return found
  | .error fault _ =>
    set rest
    throw fault

/-! ### Names -/

/-- A name with what stands before the bar, if there is a bar. -/
inductive QualifiedName where
  | absent (token : Token)
  | plain (name : Option String)
  | anySpace (name : Option String)
  | noSpace (name : Option String)

def readBehindBar (inAttribute : Bool) : Step (Option String) := do
  match (← nextAny).head with
  | .ident name => return some name
  | .delim '*' => if inAttribute then throw (.invalidAttributeName (.delim '*')) else return none
  | token =>
    throw (if inAttribute then .invalidAttributeName token else .unexpectedBehindNamespace token)

def atBar : Step Bool := do
  match ← get with
  | .token (.delim '|') :: _ => return true
  | _ => return false

/-- A name of an element or an attribute. No prefix of a namespace is known. -/
def readQualifiedName (inAttribute : Bool) : Step QualifiedName := do
  match ← get with
  | [] => throw .unexpectedEnd
  | .token (.ident name) :: rest =>
    set rest
    if ← atBar then
      let _ ← nextAny
      throw (.unknownNamespace name)
    return .plain (some name)
  | .token (.delim '*') :: rest =>
    set rest
    if ← atBar then
      let _ ← nextAny
      return .anySpace (← readBehindBar inAttribute)
    else if inAttribute then
      throw (.expectedBar (← nextAny).head)
    else return .plain none
  | .token (.delim '|') :: rest =>
    set rest
    return .noSpace (← readBehindBar inAttribute)
  | component :: _ => return .absent component.head

/-! ### Attributes -/

/-- Attributes whose values do not tell upper and lower case apart in HTML elements. -/
def caselessAttributes : List String := [
  "accept", "accept-charset", "align", "alink", "axis", "bgcolor", "charset", "checked", "clear",
  "codetype", "color", "compact", "declare", "defer", "dir", "direction", "disabled", "enctype", "face",
  "frame", "hreflang", "http-equiv", "lang", "language", "link", "media", "method", "multiple", "nohref",
  "noresize", "noshade", "nowrap", "readonly", "rel", "rev", "rules", "scope", "scrolling", "selected",
  "shape", "target", "text", "type", "valign", "valuetype", "vlink"]

def Comparison.ofToken? : Token → Option Comparison
  | .delim '=' => some .equals
  | .includes => some .hasWord
  | .dashMatch => some .hasDashPart
  | .startsWith => some .startsWith
  | .endsWith => some .endsWith
  | .substring => some .contains
  | _ => none

/-- The case rule behind a value: a flag, or what the name of the attribute calls for. -/
def readCaseRule (anySpace : Bool) (lowerName : String) : Step CaseRule := do
  skipSpace
  match ← get with
  | [] => return if !anySpace && caselessAttributes.contains lowerName then .ignoredInHtml else .exact
  | component :: rest =>
    set rest
    match component.head with
    | .ident flag =>
      match asciiLower flag with
      | "i" => return .ignored
      | "s" => return .exact
      | _ => throw (.unexpectedToken (.ident flag))
    | token => throw (.unexpectedToken token)

def readAttribute : Step AttributeTest := do
  skipSpace
  let (anySpace, name) ← match ← readQualifiedName true with
    | .absent token => throw (.noAttributeName token)
    | .anySpace name => pure (true, name.getD "")
    | .plain name | .noSpace name => pure (false, name.getD "")
  let lowerName := asciiLower name
  skipSpace
  match ← get with
  | [] => return ⟨anySpace, name, lowerName, none⟩
  | component :: rest =>
    set rest
    match Comparison.ofToken? component.head with
    | none => throw (.unexpectedInAttribute component.head)
    | some comparison =>
      let value ← match (← next).head with
        | .ident value | .string value => pure value
        | token => throw (.badAttributeValue token)
      let caseRule ← readCaseRule anySpace lowerName
      return ⟨anySpace, name, lowerName, some ⟨comparison, value, caseRule⟩⟩

/-! ### Numbered siblings -/

/-- The number behind a sign that stands alone. -/
def readUnsignedOffset (negative : Bool) : Step Int := do
  match (← next).head with
  | .number ⟨false, _, some n⟩ => return if negative then -n else n
  | token => throw (.unexpectedToken token)

/-- What follows the step: a signed number, a sign and a number, or nothing. -/
def readOffset : Step Int := do
  let start ← get
  skipSpace
  match ← get with
  | .token (.delim '+') :: rest =>
    set rest
    readUnsignedOffset false
  | .token (.delim '-') :: rest =>
    set rest
    readUnsignedOffset true
  | .token (.number ⟨true, _, some n⟩) :: rest =>
    set rest
    return n
  | _ =>
    set start
    return 0

/-- The offset in a word such as `n-3`. -/
def offsetInWord? (word : String) : Option Int :=
  match word.toList with
  | n :: '-' :: digits =>
    if n.toLower = 'n' && !digits.isEmpty && digits.all Char.isDigit then
      some (clampInt (-(Markup.numberOf 10 digits : Int)))
    else none
  | _ => none

/-- What follows a word that stands for a step. -/
def readBehindStep (step : Int) (word : String) : Step (Int × Int) := do
  match asciiLower word with
  | "n" => return (step, ← readOffset)
  | "n-" => return (step, ← readUnsignedOffset true)
  | _ =>
    match offsetInWord? word with
    | some offset => return (step, offset)
    | none => throw (.unexpectedToken (.ident word))

/-- A word for even or odd numbers. -/
def parity? (word : String) : Option (Int × Int) :=
  match asciiLower word with
  | "even" => some (2, 0)
  | "odd" => some (2, 1)
  | _ => none

def readStepWord (word : String) : Step (Int × Int) := do
  match word.toList with
  | '-' :: rest =>
    let tail := String.ofList rest
    match asciiLower tail, offsetInWord? tail with
    | "n", _ | "n-", _ => readBehindStep (-1) tail
    | _, some offset => return (-1, offset)
    | _, none => throw (.unexpectedToken (.ident word))
  | _ => readBehindStep 1 word

/-- Step and offset of the numbers that are sought. -/
def readNumbering : Step (Int × Int) := do
  match (← next).head with
  | .number ⟨_, _, some n⟩ => return (0, n)
  | .dimension ⟨_, _, some step⟩ unit => readBehindStep step unit
  | .ident word =>
    match parity? word with
    | some found => return found
    | none => readStepWord word
  | .delim '+' =>
    match (← nextAny).head with
    | .ident word => readBehindStep 1 word
    | token => throw (.unexpectedToken token)
  | token => throw (.unexpectedToken token)

/-! ### Compounds and alternatives -/

/-- How the lists inside brackets are read. -/
abbrev ListReader := ListKind → Setting → Step (List Complex)

/-- Names of parts of elements that may be written with one colon. -/
def oldPartNames : List String := ["before", "after", "first-line", "first-letter"]

def simplePseudo (name : String) : Step Simple :=
  match asciiLower name with
  | "first-child" => return .nth ⟨false, false⟩ 0 1
  | "last-child" => return .nth ⟨false, true⟩ 0 1
  | "only-child" => return .only false
  | "first-of-type" => return .nth ⟨true, false⟩ 0 1
  | "last-of-type" => return .nth ⟨true, true⟩ 0 1
  | "only-of-type" => return .only true
  | "root" => return .root
  | "empty" => return .empty
  | "scope" => return .scope
  | _ => throw (.unsupportedPseudo name)

/-- A test by a function behind a colon, its inside being read. -/
def functionPseudo (readList : ListReader) (setting : Setting) (name : String) : Step Simple := do
  let narrow := { setting with allowsParts := false }
  let numbered (counting : Counting) : Step Simple := do
    let (step, offset) ← readNumbering
    return .nth counting step offset
  match asciiLower name with
  | "nth-child" => numbered ⟨false, false⟩
  | "nth-last-child" => numbered ⟨false, true⟩
  | "nth-of-type" => numbered ⟨true, false⟩
  | "nth-last-of-type" => numbered ⟨true, true⟩
  | "is" | "where" => return .anyOf (← readList .forgiving narrow)
  | "not" => return .noneOf (← readList .plain narrow)
  | "has" =>
    if setting.allowsRelative then
      return .has (← readList .relative { narrow with allowsRelative := false })
    else throw .invalidState
  | "host" =>
    let _ ← readList .single { narrow with allowsCombinators := false }
    return .host
  | _ => throw (.unsupportedPseudo name)

/-- What follows a colon. Parts of elements are not supported. -/
def readPseudo (readList : ListReader) (setting : Setting) : Step Simple := do
  let first ← nextAny
  let (double, component) ← match first with
    | .token .colon => pure (true, ← nextAny)
    | _ => pure (false, first)
  let partName (name : String) : Bool := double || oldPartNames.contains (asciiLower name)
  let noPart (name : String) : Step Simple :=
    throw (if setting.allowsParts then .unsupportedPseudo name else .invalidState)
  match component with
  | .token (.ident name) => if partName name then noPart name else simplePseudo name
  | .block (.function name) components =>
    if partName name then noPart name
    else inside (functionPseudo readList setting name) components
  | _ => throw (.expectedPseudoName component.head)

/-- The next test of a compound, apart from its name; nothing if none begins here. -/
def readSimple (readList : ListReader) (setting : Setting) : Step (Option Simple) := do
  match ← get with
  | [] => return none
  | component :: rest =>
    match component with
    | .token (.idHash name) =>
      set rest
      return some (.id name)
    | .token (.delim '.') =>
      set rest
      match (← nextAny).head with
      | .ident name => return some (.className name)
      | token => throw (.classNeedsIdent token)
    | .block .square components =>
      set rest
      return some (.attribute (← inside readAttribute components))
    | .token .colon =>
      set rest
      return some (← readPseudo readList setting)
    | _ => return none

def readSimples (readList : ListReader) (setting : Setting) : (fuel : Nat) → Step (List Simple)
  | 0 => return []
  | fuel + 1 => do
    match ← readSimple readList setting with
    | none => return []
    | some simple => return simple :: (← readSimples readList setting fuel)

/-- The name that a compound begins with. A bar at the end of the text names nothing. -/
def readTypeName : Step (List Simple) := fun rest =>
  let name (name : Option String) : Simple :=
    match name with
    | some name => .named name (asciiLower name)
    | none => .any
  match readQualifiedName false rest with
  | .ok (.absent _) rest => .ok [] rest
  | .ok (.plain found) rest => .ok [name found] rest
  | .ok (.anySpace found) rest => .ok [name found] rest
  | .ok (.noSpace found) rest => .ok [.noSpace, name found] rest
  | .error .unexpectedEnd rest => .ok [] rest
  | .error fault rest => .error fault rest

/-- A compound; empty if none begins here. -/
def readCompound (readList : ListReader) (setting : Setting) : Step (List Simple) := do
  skipSpace
  let name ← readTypeName
  let tests ← readSimples readList setting (← get).length
  return name ++ tests

/-- The next combinator, if there is one. Blanks alone stand for descent. -/
def readCombinator : Step (Option Combinator) := do
  let start ← get
  skipSpace
  match ← get with
  | .token (.delim '>') :: rest =>
    set rest
    return some .child
  | .token (.delim '+') :: rest =>
    set rest
    return some .nextSibling
  | .token (.delim '~') :: rest =>
    set rest
    return some .laterSibling
  | [] => return none
  | rest => return if rest.length < start.length then some .descendant else none

/-- An alternative from its next compound on; `before` holds what has been read, the latest first. -/
def readChain (readList : ListReader) (setting : Setting) :
    (fuel : Nat) → (before : List (Combinator × List Simple)) → Step Complex
  | 0, _ => throw .emptySelector
  | fuel + 1, before => do
    let compound ← readCompound readList setting
    if compound.isEmpty then throw (if before.isEmpty then .emptySelector else .danglingCombinator)
    match ← readCombinator with
    | none => return .mk compound before
    | some combinator =>
      if setting.allowsCombinators then readChain readList setting fuel ((combinator, compound) :: before)
      else throw .invalidState

/-- An alternative. A relative one goes out from the anchor, by descent unless a combinator says
otherwise. -/
def readComplex (readList : ListReader) (relative : Bool) (setting : Setting) : Step Complex := do
  skipSpace
  let before ←
    if relative then
      let combinator ← readCombinator
      pure [(combinator.getD .descendant, [Simple.anchor])]
    else pure []
  readChain readList setting ((← get).length + 1) before

/-- One part of a list that forgives faults: a part that is no alternative matches nothing, unless it
holds a token that no list can hold. -/
def forgive (step : Step Complex) (components : List Component) : Except Fault Complex :=
  let look (rest : List Component) : Except Fault Complex :=
    match faultIn? rest with
    | some token => .error (.unexpectedToken token)
    | none => .ok .nothing
  match step.run components with
  | .ok found rest =>
    match expectEnd.run rest with
    | .ok _ _ => .ok found
    | .error _ _ => look rest
  | .error _ rest => look rest

/-- One part of a list that does not. -/
def insist (step : Step Complex) (components : List Component) : Except Fault Complex :=
  match (do let found ← step; expectEnd; return found : Step Complex).run components with
  | .ok found _ => .ok found
  | .error fault _ => .error fault

def readListWith (readList : ListReader) : ListReader := fun kind setting components =>
  let step := readComplex readList (kind = .relative) setting
  if kind = .single then ((fun found => [found]) <$> step).run components
  else
    let (first, others) := splitAtCommas components
    let read := if kind = .forgiving then forgive step else insist step
    match (first :: others).mapM read with
    | .ok found => .ok found []
    | .error fault => .error fault components

/-- A list of alternatives with brackets nested less deep than `depth`. -/
def readList : (depth : Nat) → ListReader
  | 0 => fun _ _ => throw .unexpectedEnd
  | depth + 1 => readListWith (readList depth)

def parse (source : String) : Except Fault (List Complex) :=
  let tokens := tokenize source
  match readList (tokens.length + 1) .plain {} (componentsOf tokens) with
  | .ok found _ => .ok found
  | .error fault _ => .error fault

end PageExtract.Selector
