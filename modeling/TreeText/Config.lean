/-
# Configurations

A configuration says how to convert and what to register. What is written down may be incomplete;
`Config.gap?` finds the first place where something is missing.
-/
import TreeText.Engine

namespace TreeText

/-! ## Configurations -/

/-- How to convert, and what to register; with the path of the file where it was written down. -/
structure Config where
  options : ConversionOptions
  ignored : List String
  rules : List RuleDraft
  placeholders : List PlaceholderDraft
  path : Option String
  deriving DecidableEq, Repr

/-- Options that take the place of those in a configuration. -/
structure Overrides where
  wholeDocument : Option Bool
  normalizeWhitespace : Option Bool
  trim : Option Bool
  deriving DecidableEq, Repr

/-- No overrides. -/
def Overrides.none : Overrides := ⟨.none, .none, .none⟩

/-- The options with others in their place. -/
def Overrides.apply (overrides : Overrides) (options : ConversionOptions) : ConversionOptions where
  wholeDocument := overrides.wholeDocument.getD options.wholeDocument
  normalizeWhitespace := overrides.normalizeWhitespace.getD options.normalizeWhitespace
  trim := overrides.trim.getD options.trim

namespace Config

/-- The name of a file that holds a configuration. -/
def fileName : String := "mation.toml"

/-- The configuration where nothing is written down. -/
def standard : Config := ⟨.standard, [], [], [], none⟩

/-- The configuration with options in the place of its own. -/
def override (config : Config) (overrides : Overrides) : Config :=
  { config with options := overrides.apply config.options }

/-! ## Gaps -/

/-- A place in a configuration where something is missing. -/
inductive Gap where
  | ruleSelector (index : Nat)
  | ruleTemplate (index : Nat)
  | placeholderPattern (index : Nat)
  | placeholderReplacement (index : Nat)
  | ignoredSelector (index : Nat)
  deriving DecidableEq, Repr

/-- The wording of a gap. -/
def Gap.message : Gap → String
  | ruleSelector index => "rules[" ++ toString index ++ "].selector cannot be empty"
  | ruleTemplate index => "rules[" ++ toString index ++ "].to cannot be empty"
  | placeholderPattern index => "placeholders[" ++ toString index ++ "].from is required"
  | placeholderReplacement index => "placeholders[" ++ toString index ++ "].to is required"
  | ignoredSelector index => "convert.ignore[" ++ toString index ++ "] cannot be empty"

/-- Whether a text is missing or has nothing but blanks. -/
def isBlank (text? : Option String) : Bool :=
  text?.all Text.allBlank

/-- The first gap in the draft of a rule. -/
def ruleGap? (draft : RuleDraft) (index : Nat) : Option Gap :=
  if isBlank draft.selector then some (.ruleSelector index)
  else if isBlank draft.template then some (.ruleTemplate index)
  else none

/-- The first gap in the draft of a placeholder, which may be empty but not missing. -/
def placeholderGap? (draft : PlaceholderDraft) (index : Nat) : Option Gap :=
  if draft.pattern.isNone then some (.placeholderPattern index)
  else if draft.replacement.isNone then some (.placeholderReplacement index)
  else none

/-- The gap that an ignored selector leaves. -/
def ignoredGap? (selector : String) (index : Nat) : Option Gap :=
  if Text.allBlank selector then some (.ignoredSelector index) else none

/-- The first gap: rules come first, then placeholders, then ignored selectors. -/
def gap? (config : Config) : Option Gap :=
  (config.rules.zipIdx.findSome? fun (draft, index) => ruleGap? draft index) <|>
    (config.placeholders.zipIdx.findSome? fun (draft, index) =>
      placeholderGap? draft index) <|>
    config.ignored.zipIdx.findSome? fun (selector, index) => ignoredGap? selector index

end Config

end TreeText
