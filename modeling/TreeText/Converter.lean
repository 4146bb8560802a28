/-
# The converter for pages

A converter turns the markup of a page into text. It holds a registry whose selectors are those of
a language, and the selectors that it has read so far.

* `Converter.convert` converts markup, and `Converter.convertBytes` bytes that encode markup.
* Each conversion also gives the converter afterwards: what it has read, it keeps.
-/
import TreeText.Asking
import TreeText.Css.Cache
import TreeText.Markup.Page
import TreeText.Text.Utf8

namespace TreeText

variable [Css.Language]

/-- What has been registered, and the selectors that have been read. -/
structure Converter where
  registry : Registry
  selectors : Css.Cache

namespace Converter

/-- A converter without rules. -/
def new : Converter := ⟨.empty, .empty⟩

/-! ## Registration -/

/-- The converter after a request, or why the request is refused. -/
def handle (converter : Converter) (request : Request) : Except Refusal Converter :=
  (converter.registry.handle Css.matcher request).map fun registry => { converter with registry }

/-! ## Conversion -/

/-- The engine with what a converter has registered, which reads a selector each time that it is
tested. -/
def fresh (converter : Converter) : Engine :=
  ⟨Css.matcher, converter.registry⟩

/-- The text below a node of a document, with texts nested as deeply as the bound says, and the
converter afterwards. A selector is tested when the conversion comes to it, with what the tests
before have left. -/
def convertNodeWithin (converter : Converter) (bound : Nat) (doc : Document) (root : Nat)
    (options : ConversionOptions) : Run String × Converter :=
  match (converter.fresh.asking bound doc root options).carry
      (fun test selectors => selectors.test doc test.node test.selector) converter.selectors with
  | (run, selectors) => (run, { converter with selectors })

/-- The text below a node of a document, and the converter afterwards. -/
def convertNode (converter : Converter) (doc : Document) (root : Nat)
    (options : ConversionOptions) : Run String × Converter :=
  converter.convertNodeWithin (Engine.nesting doc) doc root options

/-- The text of a document, and the converter afterwards. -/
def convertDocument (converter : Converter) (doc : Document) (options : ConversionOptions) :
    Run String × Converter :=
  converter.convertNode doc (Engine.startOf doc options) options

/-- The text of a page written as markup, and the converter afterwards. -/
def convert (converter : Converter) (markup : String) (options : ConversionOptions) :
    Run String × Converter :=
  converter.convertDocument (Document.ofMarkup markup) options

/-- The text of a page given as bytes, and the converter afterwards. Bytes that encode no text are
no input. -/
def convertBytes (converter : Converter) (bytes : List UInt8) (options : ConversionOptions) :
    Run String × Converter :=
  match Text.Utf8.decode bytes with
  | .ok markup => converter.convert markup options
  | .error fault => (Run.fail (.invalidInput fault), converter)

end Converter

end TreeText
