/-
# The engine

An engine is a matcher and a registry. It converts a document, or the part of it below a node, to a
text: the raw text of the node first, then the placeholders once, then the trimming if it is asked
for.
-/
import TreeText.Conversion

namespace TreeText

/-! ## Options -/

/-- What can be asked of a conversion. -/
structure ConversionOptions where
  wholeDocument : Bool
  normalizeWhitespace : Bool
  trim : Bool
  deriving DecidableEq, Repr

/-- The options where nothing is asked for: the body only, blanks collapsed, nothing trimmed. -/
def ConversionOptions.standard : ConversionOptions := ⟨false, true, false⟩

/-! ## Engines -/

/-- A matcher and what has been registered for it. -/
structure Engine where
  matcher : Matcher
  registry : Registry

namespace Engine

/-- An engine without rules. -/
def new (matcher : Matcher) : Engine := ⟨matcher, .empty⟩

/-- The engine after a request, or why the request is refused. -/
def handle (engine : Engine) (request : Request) : Except Refusal Engine :=
  (engine.registry.handle engine.matcher request).map fun registry => { engine with registry }

/-- The conversion that an engine does on a document. -/
def conversion (engine : Engine) (doc : Document) (normalize : Bool) : Conversion :=
  ⟨doc, engine.matcher, engine.registry, normalize⟩

/-- How deeply texts may be nested in a document: once for each of its nodes, and once for the
root. No conversion that ends nests them more deeply, as long as formatters do not depend on depth
for what they ask. -/
def nesting (doc : Document) : Nat :=
  doc.size + 1

/-- There is room for all numbers that are larger than that of a root. -/
theorem size_sub_lt_nesting (doc : Document) (root : Nat) : doc.size - root < nesting doc :=
  Nat.lt_succ_of_le (Nat.sub_le doc.size root)

/-- The text of a node before placeholders and trimming. -/
def rawText (engine : Engine) (doc : Document) (root : Nat) (normalize : Bool) : Run String :=
  Conversion.textOf ⟨doc, engine.matcher, engine.registry, normalize⟩ (nesting doc) 0 root

/-- The finished text: placeholders are applied once, and then outer blanks go if asked for. -/
def finish (engine : Engine) (options : ConversionOptions) (raw : String) : String :=
  let text := engine.registry.placeholders.apply raw
  if options.trim then Text.trim text else text

/-- The text below a node. -/
def convertNode (engine : Engine) (doc : Document) (root : Nat) (options : ConversionOptions) :
    Run String := do
  let raw ← engine.rawText doc root options.normalizeWhitespace
  return engine.finish options raw

/-- The node whose children are converted: the body, or the document element where there is none or
the whole document is asked for. -/
def startOf (doc : Document) (options : ConversionOptions) : Nat :=
  if options.wholeDocument then Document.root else doc.body.getD Document.root

/-- The text of a document. -/
def convert (engine : Engine) (doc : Document) (options : ConversionOptions) : Run String :=
  engine.convertNode doc (startOf doc options) options

end Engine

end TreeText
