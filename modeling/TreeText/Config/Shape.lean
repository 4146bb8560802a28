/-
# Configurations as TOML

How a configuration is written in TOML: the options and ignored selectors under `convert`, the
drafts under `rules` and `placeholders`. What is not mentioned keeps its standard value; what
is mentioned must have the right shape, and nothing else may be mentioned.

* `Config.ofEntries` reads a configuration from the entries of a document, and so makes up a reader.
-/
import TreeText.Config.Load
import TreeText.Toml.Document

namespace TreeText

/-! ## Parts of values -/

namespace Toml.Value

/-- The content of a text. -/
def text? : Value → Option String
  | .text content => some content
  | _ => none

/-- A truth value. -/
def boolean? : Value → Option Bool
  | .boolean value => some value
  | _ => none

/-- The items of an array. -/
def items? : Value → Option (List Value)
  | .array items => some items
  | _ => none

/-- The parts of a record with the given names. A table names the parts that it has, and no others;
an array has the parts in their order, with the last ones left out only where this is allowed. -/
def parts? (names : List String) (mayEnd : Bool) : Value → Option (List (Option Value))
  | .table entries =>
    if entries.all fun entry => names.contains entry.1 then
      some (names.map fun name => entries.lookup name)
    else none
  | .array items =>
    if mayEnd || names.length ≤ items.length then
      some ((List.range names.length).map (items[·]?))
    else none
  | _ => none

end Toml.Value

namespace Config

/-! ## Sections -/

/-- What an optional part holds, if it has the right shape. -/
def optional? {α : Type} (read : Toml.Value → Option α) : Option Toml.Value → Option (Option α)
  | none => some none
  | some value => (read value).map some

/-- A draft of two texts. -/
def draft? (names : List String) (value : Toml.Value) :
    Option (Option String × Option String) :=
  match value.parts? names false with
  | some [first, second] =>
    match optional? Toml.Value.text? first, optional? Toml.Value.text? second with
    | some first, some second => some (first, second)
    | _, _ => none
  | _ => none

/-- The draft of a rule. -/
def ruleDraft? (value : Toml.Value) : Option RuleDraft :=
  (draft? ["selector", "to"] value).map fun (selector, template) => ⟨selector, template⟩

/-- The draft of a placeholder. -/
def placeholderDraft? (value : Toml.Value) : Option PlaceholderDraft :=
  (draft? ["from", "to"] value).map fun (pattern, replacement) => ⟨pattern, replacement⟩

/-- The items of an array, each of the same shape. -/
def list? {α : Type} (read : Toml.Value → Option α) (value : Toml.Value) : Option (List α) :=
  value.items?.bind (·.mapM read)

/-- The options and the ignored selectors. -/
def section? (value : Toml.Value) : Option (ConversionOptions × List String) :=
  match value.parts? ["whole_document", "normalize_whitespace", "trim", "ignore"] true with
  | some [wholeDocument, normalizeWhitespace, trim, ignored] => do
    let wholeDocument ← optional? Toml.Value.boolean? wholeDocument
    let normalizeWhitespace ← optional? Toml.Value.boolean? normalizeWhitespace
    let trim ← optional? Toml.Value.boolean? trim
    let ignored ← optional? (list? Toml.Value.text?) ignored
    return (Overrides.apply ⟨wholeDocument, normalizeWhitespace, trim⟩ .standard,
      ignored.getD [])
  | _ => none

/-! ## Documents -/

/-- The keys that a document may have. -/
def knownKeys : List String := ["convert", "rules", "placeholders"]

/-- The configuration that the entries of a document describe, or the key whose value has the wrong
shape or which is not known. -/
def ofEntries (entries : List (String × Toml.Value)) : Except String Config :=
  match entries.find? fun entry => !knownKeys.contains entry.1 with
  | some entry => .error entry.1
  | none =>
    match optional? section? (entries.lookup "convert"),
      optional? (list? ruleDraft?) (entries.lookup "rules"),
      optional? (list? placeholderDraft?) (entries.lookup "placeholders") with
    | none, _, _ => .error "convert"
    | _, none, _ => .error "rules"
    | _, _, none => .error "placeholders"
    | some convert, some rules, some placeholders =>
      let (options, ignored) := convert.getD (.standard, [])
      .ok ⟨options, ignored, rules.getD [], placeholders.getD [], none⟩

end Config

/-- The reader of these configurations. -/
instance : Toml.Reader where
  Content := List (String × Toml.Value)
  read := fun document => (Toml.read document).mapError Toml.Fault.message
  describe := fun entries => (Config.ofEntries entries).mapError fun key =>
    "the key " ++ Text.quote key ++ " is unknown or misused"

end TreeText
