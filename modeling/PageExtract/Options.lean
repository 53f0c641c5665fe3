import PageExtract.Json.Record

/-!
# Options of an extraction

How the markup of a page is read, and the external variables that every hook is given. Options are
read from JSON text and written back to it.
-/

namespace PageExtract

/-- How markup is read: as a whole page, or as a piece of the body of one. -/
inductive ParseMode where
  | document
  | fragment
deriving DecidableEq, Repr, Inhabited

namespace ParseMode

def names : List (String × ParseMode) := [("document", .document), ("fragment", .fragment)]

def toJson : ParseMode → Json
  | .document => .string "document"
  | .fragment => .string "fragment"

def parse (source : String) : Except Json.ReadError ParseMode := Json.parseChoice names source

end ParseMode

structure DocumentOptions where
  mode : ParseMode := .document
deriving DecidableEq, Repr, Inhabited

namespace DocumentOptions

def format : Json.RecordFormat DocumentOptions where
  name := "struct DocumentOptions"
  empty := {}
  fields := [
    { name := "mode", required := false
      read := fun depth c => do
        let (mode, c) ← Json.readChoice ParseMode.names depth c
        return (fun options => { options with mode }, c) }]

def toJson (options : DocumentOptions) : Json := .object [("mode", options.mode.toJson)]

def parse (source : String) : Except Json.ReadError DocumentOptions := format.parse source

end DocumentOptions

/-- Options of an extractor: how markup is read, and the external variables for hooks. -/
structure ExtractorOptions where
  document : DocumentOptions := {}
  params : Json := .object []
deriving Repr, Inhabited

namespace ExtractorOptions

def format : Json.RecordFormat ExtractorOptions where
  name := "struct ExtractorOptions"
  empty := {}
  fields := [
    { name := "document", required := false
      read := fun depth c => do
        let (document, c) ← DocumentOptions.format.read depth c
        return (fun options => { options with document }, c) },
    { name := "params", required := false
      read := fun depth c => do
        let (params, c) ← Json.readValue depth c
        return (fun options => { options with params }, c) }]

def toJson (options : ExtractorOptions) : Json :=
  .object [("document", options.document.toJson), ("params", options.params)]

def parse (source : String) : Except Json.ReadError ExtractorOptions := format.parse source

end ExtractorOptions

end PageExtract
