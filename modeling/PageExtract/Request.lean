import PageExtract.Extractor

/-!
# Requests in bytes

A page and a request come as bytes from outside, and either may be missing. A request is a JSON text
with a schema, which can name only the built-in hooks, and options. The answer is the JSON text of the
results, or what was the first thing wrong. Outside, a text ends at its first null character, so an
answer is handed out only without one.
-/

namespace PageExtract

/-- A text without null characters, which is read whole by a reader that takes one for the end. -/
structure TerminatedText where
  text : String
  no_null : '\x00' ∉ text.toList

namespace TerminatedText

def empty : TerminatedText := ⟨"", by simp⟩

/-- The text, if there is no null character in it. -/
def of? (text : String) : Option TerminatedText :=
  if h : '\x00' ∈ text.toList then none else some ⟨text, h⟩

end TerminatedText

structure Request where
  schema : Json
  options : ExtractorOptions := {}
deriving Repr, Inhabited

inductive RequestError where
  | pageNotText
  | noRequest
  | requestNotText
  | unreadable (source : String) (error : Json.ReadError)
  | schema (fault : SchemaFault)
  | hook (error : HookError)
  | nullInResults

namespace RequestError

def wording : RequestError → String
  | .pageNotText => "Invalid UTF-8 in HTML content"
  | .noRequest => "Request JSON is null"
  | .requestNotText => "Invalid UTF-8 in request JSON"
  | .unreadable source error => "Failed to parse request JSON: " ++ error.message source
  | .schema fault => "Invalid schema: " ++ fault.message
  | .hook error => "Extraction failed: " ++ error.message
  | .nullInResults => "Result JSON contains null bytes"

def message (e : RequestError) : String := e.wording.map fun c => if c = '\x00' then ' ' else c

end RequestError

/-- What is handed out: the results, or the wording of an error. -/
structure Reply where
  results : Option TerminatedText := none
  message : Option TerminatedText := none

/-- The reply to a request that was not answered. -/
def RequestError.reply (e : RequestError) : Reply :=
  { message := some ((TerminatedText.of? e.message).getD .empty) }

namespace Request

def format : Json.RecordFormat Request where
  name := "struct SchemaRequest"
  empty := { schema := .null }
  fields := [
    { name := "schema", required := true
      read := fun depth c => do
        let (schema, c) ← Json.readValue depth c
        return (fun request => { request with schema }, c) },
    { name := "options", required := false
      read := fun depth c => do
        let (options, c) ← ExtractorOptions.format.read depth c
        return (fun request => { request with options }, c) }]

def parse (source : String) : Except Json.ReadError Request := format.parse source

def decodeText? (bytes : List UInt8) : Option String := String.fromUTF8? (.mk bytes.toArray)

/-- The bytes before the first null byte. -/
def beforeNull (bytes : List UInt8) : List UInt8 := bytes.takeWhile (· != 0)

def answer (r : Request) (page : String) : Except RequestError String :=
  match Extractor.ofJson .empty r.options r.schema with
  | .error fault => .error (.schema fault)
  | .ok extractor =>
    match (extractor.parse page).outcome with
    | .ok results => .ok (Json.array results).text
    | .error error => .error (.hook error)

/-- The answer to a request, both in bytes; a missing page is an empty one. -/
def answerBytes (page request : Option (List UInt8)) : Except RequestError String :=
  match decodeText? (page.getD []) with
  | none => .error .pageNotText
  | some page =>
    match request with
    | none => .error .noRequest
    | some bytes =>
      match decodeText? (beforeNull bytes) with
      | none => .error .requestNotText
      | some source =>
        match parse source with
        | .error error => .error (.unreadable source error)
        | .ok request => request.answer page

/-- The answer as it can be handed out. -/
def results (page request : Option (List UInt8)) : Except RequestError TerminatedText :=
  match answerBytes page request with
  | .error e => .error e
  | .ok text =>
    match TerminatedText.of? text with
    | some results => .ok results
    | none => .error .nullInResults

/-- The reply to a request, both in bytes. -/
def reply (page request : Option (List UInt8)) : Reply :=
  match results page request with
  | .ok results => { results := some results }
  | .error e => e.reply

end Request

end PageExtract
