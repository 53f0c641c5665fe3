import PageExtract.Markup.Builder.Modes

/-!
# The tree of a page

Reading a page: construct by construct, each token given to the builder, which may say how the next
characters are read. A page without a document type, or with an old one, is read leniently.
-/

namespace PageExtract.Markup

namespace Builder

/-- Treats a token until it is used up. A token goes through a bounded number of modes, each of which
closes elements or comes later in the page. -/
def settle : (fuel : Nat) → Builder → Token → Builder × Option Content
  | 0, b, _ => (b, none)
  | fuel + 1, b, token =>
    match if b.isForeignToken token then b.inForeign token else b.treat token with
    | (b, .done) => (b, none)
    | (b, .again) => settle fuel b token
    | (b, .read content) => (b, some content)

/-- Public identifiers of the oldest document types. -/
def oldPublicIds : List String :=
  ["-//w3o//dtd w3 html strict 3.0//en//", "-/w3c/dtd html 4.0 transitional/en", "html"]

/-- What public identifiers of old document types begin with. -/
def oldPublicParts : List String := [
  "-//advasoft ltd//dtd html 3.0 aswedit + extensions//", "-//as//dtd html 3.0 aswedit + extensions//",
  "-//ietf//dtd html 2.0 level 1//", "-//ietf//dtd html 2.0 level 2//",
  "-//ietf//dtd html 2.0 strict level 1//", "-//ietf//dtd html 2.0 strict level 2//",
  "-//ietf//dtd html 2.0 strict//", "-//ietf//dtd html 2.0//", "-//ietf//dtd html 2.1e//",
  "-//ietf//dtd html 3.0//", "-//ietf//dtd html 3.2 final//", "-//ietf//dtd html 3.2//",
  "-//ietf//dtd html 3//", "-//ietf//dtd html level 0//", "-//ietf//dtd html level 1//",
  "-//ietf//dtd html level 2//", "-//ietf//dtd html level 3//", "-//ietf//dtd html strict level 0//",
  "-//ietf//dtd html strict level 1//", "-//ietf//dtd html strict level 2//",
  "-//ietf//dtd html strict level 3//", "-//ietf//dtd html strict//", "-//ietf//dtd html//",
  "-//metrius//dtd metrius presentational//",
  "-//microsoft//dtd internet explorer 2.0 html strict//", "-//microsoft//dtd internet explorer 2.0 html//",
  "-//microsoft//dtd internet explorer 2.0 tables//",
  "-//microsoft//dtd internet explorer 3.0 html strict//", "-//microsoft//dtd internet explorer 3.0 html//",
  "-//microsoft//dtd internet explorer 3.0 tables//", "-//netscape comm. corp.//dtd html//",
  "-//netscape comm. corp.//dtd strict html//", "-//o'reilly and associates//dtd html 2.0//",
  "-//o'reilly and associates//dtd html extended 1.0//",
  "-//o'reilly and associates//dtd html extended relaxed 1.0//",
  "-//softquad software//dtd hotmetal pro 6.0::19990601::extensions to html 4.0//",
  "-//softquad//dtd hotmetal pro 4.0::19971010::extensions to html 4.0//", "-//spyglass//dtd html 2.0 extended//",
  "-//sq//dtd html 2.0 hotmetal + extensions//", "-//sun microsystems corp.//dtd hotjava html//",
  "-//sun microsystems corp.//dtd hotjava strict html//", "-//w3c//dtd html 3 1995-03-24//",
  "-//w3c//dtd html 3.2 draft//", "-//w3c//dtd html 3.2 final//", "-//w3c//dtd html 3.2//",
  "-//w3c//dtd html 3.2s draft//", "-//w3c//dtd html 4.0 frameset//",
  "-//w3c//dtd html 4.0 transitional//", "-//w3c//dtd html experimental 19960712//",
  "-//w3c//dtd html experimental 970421//", "-//w3c//dtd w3 html//", "-//w3o//dtd w3 html 3.0//",
  "-//webtechs//dtd mozilla html 2.0//", "-//webtechs//dtd mozilla html//"]

/-- What public identifiers begin with that are old if they stand alone. -/
def oldWithoutSystem : List String :=
  ["-//w3c//dtd html 4.01 frameset//", "-//w3c//dtd html 4.01 transitional//"]

/-- Whether a document type makes the page one that is read leniently. -/
def isOld (d : Doctype) : Bool :=
  let publicId := d.publicId.map (·.map Char.toLower)
  let systemId := d.systemId.map (·.map Char.toLower)
  let begins (parts : List String) : Bool :=
    match publicId with
    | some id => parts.any fun part => (afterPart? part.toList id.toList).isSome
    | none => false
  d.broken || d.name != some "html"
    || (publicId.map oldPublicIds.contains).getD false
    || systemId == some "http://www.ibm.com/data/dtd/v11/ibmxhtml1-transitional.dtd"
    || begins oldPublicParts || (begins oldWithoutSystem && systemId.isNone)

/-- Gives a token to the builder. Behind some start tags a line feed does not count. -/
def accept (b : Builder) (token : Token) : Builder × Option Content :=
  let dropsLineFeed := b.skipLineFeed
  let b := { b with skipLineFeed := false }
  match token with
  | .malformed => (b, none)
  | .doctype d =>
    if b.mode = .initial then
      let (id, tree) := b.tree.create (.doctype (d.name.getD ""))
      ({ b with tree := tree.append Tree.root id, lenient := isOld d, mode := .beforeHtml }, none)
    else (b, none)
  | _ =>
    if dropsLineFeed && token == .character '\n' then (b, none)
    else settle (32 + 4 * (b.opened.length + b.templateModes.length)) b token

/-- Gives tokens to the builder in order. The last that says how to read on counts. -/
def acceptAll (b : Builder) (tokens : List Token) : Builder × Option Content :=
  tokens.foldl (fun (b, content) token =>
    let (b, next) := b.accept token
    (b, next.or content)) (b, none)

/-- Reads the text construct by construct up to its end. -/
def readText : (fuel : Nat) → Builder → Content → List Char → Builder
  | 0, b, _, _ => b
  | fuel + 1, b, content, text =>
    let scanned := scan b.isForeign content text
    let (b, next) := b.acceptAll scanned.tokens
    if scanned.tokens.contains .endOfFile then b
    else readText fuel b (next.getD scanned.content) scanned.rest

/-- Reads all of a page. Every construct takes a character, and the end takes one step. -/
def readPage (b : Builder) (source : String) : Builder :=
  let text := pageChars source
  b.readText (text.length + 1) .start text

def forDocument : Builder := { tree := .ofRoot .document, mode := .initial }

def forFragment : Builder :=
  let (context, tree) := (Tree.ofRoot .fragment).createElement ⟨.html, "body", []⟩
  let b : Builder := { tree, mode := .initial, context := some context }
  (b.addRoot []).resetMode

end Builder

def parseDocument (source : String) : Tree := (Builder.forDocument.readPage source).tree

def parseFragment (source : String) : Tree := (Builder.forFragment.readPage source).tree

end PageExtract.Markup
