/-
# Rules

A rule says what becomes of the elements that its selector selects: a template is filled in, or a
formatter is called. A rule can also be given as a draft, in which the selector and the
template may be missing.
-/
import TreeText.Formatter
import TreeText.Matcher
import TreeText.Template
import TreeText.Text.Blank

namespace TreeText

/-! ## Rules -/

/-- What a rule does with an element. -/
inductive Transform where
  | template (template : Template)
  | format (formatter : Formatter)

/-- A selector and what becomes of the elements that it selects. -/
structure Rule where
  selector : String
  transform : Transform

namespace Rule

/-- The rule that fills in a template. -/
def template (selector source : String) : Rule :=
  ⟨selector, .template (.parse source)⟩

/-- The source of a rule's template, if it has one. -/
def source? (rule : Rule) : Option String :=
  match rule.transform with
  | .template template => some template.source
  | .format _ => none

/-- The text that describes a rule. -/
def describe (rule : Rule) : String :=
  let transform := match rule.transform with
    | .template template => "Template(" ++ Text.quote template.source ++ ")"
    | .format _ => "Format(<function>)"
  "Rule \x7b selector: " ++ Text.quote rule.selector ++ ", transform: " ++ transform ++ " \x7d"

end Rule

/-! ## Faults -/

/-- What is wrong with a selector: it is blank, or the matcher refuses it. -/
inductive SelectorFault where
  | blank
  | refused (reason : String)
  deriving DecidableEq, Repr

/-- The wording of a fault. -/
def SelectorFault.message : SelectorFault → String
  | blank => "selector cannot be empty"
  | refused reason => reason

/-- What is wrong with a rule or with the draft of one. -/
inductive RuleFault where
  | selector (fault : SelectorFault)
  | emptyTemplate
  | missingSelector
  | missingTemplate
  deriving DecidableEq, Repr

/-- The wording of a fault. -/
def RuleFault.message : RuleFault → String
  | selector fault => fault.message
  | emptyTemplate => "`to` template cannot be empty"
  | missingSelector => "must have a non-empty \"selector\""
  | missingTemplate => "must have a non-empty \"to\" template"

/-! ## Checks -/

/-- The fault of a selector, if it has one. -/
def Matcher.fault? (matcher : Matcher) (selector : String) : Option SelectorFault :=
  if Text.allBlank selector then some .blank
  else match matcher.check selector with
    | .ok () => none
    | .error reason => some (.refused reason)

/-- The fault of a rule, if it has one: a blank selector, an empty template, a refused selector. -/
def Rule.fault? (matcher : Matcher) (rule : Rule) : Option RuleFault :=
  if Text.allBlank rule.selector then some (.selector .blank)
  else if rule.source? = some "" then some .emptyTemplate
  else (matcher.fault? rule.selector).map .selector

/-! ## Definitions -/

/-- A rule with a template, as it is written down: each part may be missing. -/
structure RuleDraft where
  selector : Option String
  template : Option String
  deriving DecidableEq, Repr

/-- The rule that a draft describes, if it is complete. -/
def RuleDraft.rule (draft : RuleDraft) : Except RuleFault Rule :=
  let selector := draft.selector.getD ""
  if Text.allBlank selector then .error .missingSelector
  else match draft.template with
    | some source =>
      if source = "" then .error .missingTemplate else .ok (.template selector source)
    | none => .error .missingTemplate

end TreeText
