/-
# Summaries

What the program shows of a configuration: its options, and what a converter holds once it is
applied, one item a line.
-/
import TreeText.Config.Apply

namespace TreeText

namespace Registry

/-- What becomes of the elements that a rule selects, in a few words. -/
def answerOf (rule : Rule) : String :=
  match rule.source? with
  | some source => Text.quote source
  | none => "<formatter>"

/-- A line for each rule. -/
def ruleLines (registry : Registry) : List String :=
  registry.rules.map fun rule => "  " ++ rule.selector ++ " -> " ++ answerOf rule

/-- A line for each placeholder. -/
def placeholderLines (registry : Registry) : List String :=
  registry.placeholders.toList.map fun placeholder =>
    "  " ++ Text.quote placeholder.pattern ++ " -> " ++ Text.quote placeholder.replacement

/-- The line for the ignored selectors. -/
def ignoredLine (registry : Registry) : String :=
  "Ignore: " ++
    if registry.ignored.isEmpty then "(none)" else ", ".intercalate registry.ignored

/-- The lines that show a registry. -/
def summaryLines (registry : Registry) : List String :=
  ["Rules (" ++ toString registry.rules.length ++ "):"] ++ registry.ruleLines ++
    ["Placeholders (" ++ toString registry.placeholders.size ++ "):"] ++
    registry.placeholderLines ++ [registry.ignoredLine]

end Registry

/-- The line that shows options. -/
def ConversionOptions.summaryLine (options : ConversionOptions) : String :=
  "Options: whole_document=" ++ toString options.wholeDocument ++
    " normalize_whitespace=" ++ toString options.normalizeWhitespace ++
    " trim=" ++ toString options.trim

/-- The line that says where a configuration was found. -/
def Config.originLine (config : Config) : String :=
  match config.path with
  | some path => "Config: " ++ path ++ "\n"
  | none => "No " ++ fileName ++ " found, using defaults\n"

/-- The text that shows a configuration and the converter that it describes. -/
def Config.summary [Css.Language] (config : Config) (converter : Converter) : String :=
  String.join
    ((config.options.summaryLine :: converter.registry.summaryLines).map (· ++ "\n"))

end TreeText
