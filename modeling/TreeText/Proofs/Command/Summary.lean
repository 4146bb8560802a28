/-
# What a summary shows

The text that shows a configuration consists of lines: one for the options, one for each rule and each
placeholder of the converter in their order, behind a line with their number, and one that lists the
ignored selectors. What each of these lines shows is said here line by line, and not by the function
that writes the text.

* `Summary.Shows` says of a text which options and which registry it shows.
* `Config.shows_summary` says that a configuration is shown with the registry of the converter.
-/
import Mathlib.Data.List.Forall2
import Mathlib.Data.List.Induction
import TreeText.Command.Summary

namespace TreeText

namespace Summary

/-! ## Lines -/

/-- A line shows a rule: its selector, and the source of its template between quotes, or that it has a
formatter. -/
inductive ShowsRule : String → Rule → Prop where
  | template (selector : String) (template : Template) :
      ShowsRule ("  " ++ selector ++ " -> " ++ Text.quote template.source)
        ⟨selector, .template template⟩
  | format (selector : String) (formatter : Formatter) :
      ShowsRule ("  " ++ selector ++ " -> <formatter>") ⟨selector, .format formatter⟩

/-- A line shows a placeholder: its pattern and its replacement, both between quotes. -/
inductive ShowsPlaceholder : String → Placeholder → Prop where
  | mk (pattern replacement : String) :
      ShowsPlaceholder ("  " ++ Text.quote pattern ++ " -> " ++ Text.quote replacement)
        ⟨pattern, replacement⟩

/-- A line lists ignored selectors: it says that there are none, or has a comma and a blank between
any two of them. -/
inductive ListsIgnored : String → List String → Prop where
  | none : ListsIgnored "Ignore: (none)" []
  | first (selector : String) : ListsIgnored ("Ignore: " ++ selector) [selector]
  | next {line : String} {selectors : List String} (selector : String) (hne : selectors ≠ [])
      (h : ListsIgnored line selectors) :
      ListsIgnored (line ++ ", " ++ selector) (selectors ++ [selector])

/-- The text of lines, each of which ends with a line feed. -/
def ofLines (lines : List String) : List Char :=
  lines.flatMap fun line => line.toList ++ ['\n']

/-- A text shows options and a registry. -/
inductive Shows : String → ConversionOptions → Registry → Prop where
  | mk {text : String} {options : ConversionOptions} {registry : Registry}
      {ruleLines placeholderLines : List String} {ignoredLine : String}
      (hrules : List.Forall₂ ShowsRule ruleLines registry.rules)
      (hplaceholders : List.Forall₂ ShowsPlaceholder placeholderLines registry.placeholders.toList)
      (hignored : ListsIgnored ignoredLine registry.ignored)
      (htext : text.toList = ofLines
        (["Options: whole_document=" ++ toString options.wholeDocument ++
            " normalize_whitespace=" ++ toString options.normalizeWhitespace ++
            " trim=" ++ toString options.trim,
          "Rules (" ++ toString registry.rules.length ++ "):"] ++ ruleLines ++
          ["Placeholders (" ++ toString registry.placeholders.toList.length ++ "):"] ++
          placeholderLines ++ [ignoredLine])) :
      Shows text options registry

/-! ## What is written -/

/-- Each rule is shown by its line. -/
theorem showsRule_line (rule : Rule) :
    ShowsRule ("  " ++ rule.selector ++ " -> " ++ Registry.answerOf rule) rule := by
  obtain ⟨selector, transform⟩ := rule
  cases transform with
  | template template => exact .template selector template
  | format formatter =>
    have hline : "  " ++ selector ++ " -> " ++ "<formatter>" =
        "  " ++ selector ++ " -> <formatter>" := by
      rw [String.append_assoc]
      rfl
    show ShowsRule ("  " ++ selector ++ " -> " ++ "<formatter>") ⟨selector, .format formatter⟩
    rw [hline]
    exact .format selector formatter

theorem showsRule_ruleLines (registry : Registry) :
    List.Forall₂ ShowsRule registry.ruleLines registry.rules :=
  List.forall₂_map_left_iff.2 (List.forall₂_same.2 fun rule _ => showsRule_line rule)

theorem showsPlaceholder_placeholderLines (registry : Registry) :
    List.Forall₂ ShowsPlaceholder registry.placeholderLines registry.placeholders.toList :=
  List.forall₂_map_left_iff.2 (List.forall₂_same.2 fun placeholder _ =>
    .mk placeholder.pattern placeholder.replacement)

/-- Selectors are listed with a comma and a blank between them. -/
theorem listsIgnored_intercalate (selectors : List String) (hne : selectors ≠ []) :
    ListsIgnored ("Ignore: " ++ ", ".intercalate selectors) selectors := by
  induction selectors using List.reverseRecOn with
  | nil => exact absurd rfl hne
  | append_singleton selectors last ih =>
    by_cases hfirst : selectors = []
    · rw [hfirst]
      exact .first last
    · have hjoined : "Ignore: " ++ ", ".intercalate (selectors ++ [last]) =
          "Ignore: " ++ ", ".intercalate selectors ++ ", " ++ last := by
        rw [String.intercalate_append_of_ne_nil hfirst (List.cons_ne_nil last []),
          String.intercalate_singleton]
        simp only [String.append_assoc]
      rw [hjoined]
      exact .next last hfirst (ih hfirst)

/-- The ignored selectors are listed. -/
theorem listsIgnored_ignoredLine (registry : Registry) :
    ListsIgnored registry.ignoredLine registry.ignored := by
  unfold Registry.ignoredLine
  cases hignored : registry.ignored with
  | nil => exact .none
  | cons selector selectors =>
    exact listsIgnored_intercalate (selector :: selectors) (List.cons_ne_nil selector selectors)

/-- Lines that are joined, each with a line feed behind it, are the text of these lines. -/
theorem toList_join_lines (lines : List String) :
    (String.join (lines.map (· ++ "\n"))).toList = ofLines lines := by
  rw [String.toList_join, ofLines, List.flatMap_map]
  congr 1
  funext line
  rw [String.toList_append]
  rfl

end Summary

/-- The summary of a configuration shows its options and the registry of the converter. -/
theorem Config.shows_summary [Css.Language] (config : Config) (converter : Converter) :
    Summary.Shows (config.summary converter) config.options converter.registry := by
  refine .mk (Summary.showsRule_ruleLines _) (Summary.showsPlaceholder_placeholderLines _)
    (Summary.listsIgnored_ignoredLine _) ?_
  unfold summary
  rw [Summary.toList_join_lines]
  rfl

end TreeText
