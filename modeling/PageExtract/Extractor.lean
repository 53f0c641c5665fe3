import PageExtract.Evaluation
import PageExtract.Options
import PageExtract.Schema.Loader

/-!
# Extractors

An extractor is a schema with options. It keeps the hooks that its schema resolved and nothing of the
pages it was used on.
-/

namespace PageExtract

structure Extractor where
  schema : Schema
  options : ExtractorOptions := {}
deriving Inhabited

namespace Extractor

def ofJson (hooks : Registry) (options : ExtractorOptions) (schema : Json) : Except SchemaFault Extractor :=
  (Schema.ofJson hooks schema).map fun schema => { schema, options }

/-- The results of the schema on a document, with external variables: one for each match of the
outermost rule, also if there is only one. -/
def extract (e : Extractor) (d : Document) (params : Json) : Run (List Json) := do
  return (← e.schema.evaluate d params .document none).topLevel

/-- The results on a page, with external variables that replace the extractor's own. -/
def parseWith (e : Extractor) (page : String) (params : Json) : Run (List Json) :=
  e.extract (Document.parse page e.options.document) params

def parse (e : Extractor) (page : String) : Run (List Json) := e.parseWith page e.options.params

end Extractor

end PageExtract
