/-
# The registry

What a converter has been told: its rules, its placeholders, the selectors of the elements that it
ignores, and the formatter for elements without a rule. A registry changes by requests. A request is
checked as a whole first; one that is refused changes nothing.

* `Request.changes` checks a request and says what it would put in.
* `Registry.handle` carries a request out, and `Registry.after` a history of requests.
-/
import TreeText.Placeholders
import TreeText.Rule

namespace TreeText

/-! ## Refusals -/

/-- What is wrong with the draft of a placeholder. -/
inductive PlaceholderFault where
  | missingPattern
  | missingReplacement (pattern : String)
  deriving DecidableEq, Repr

/-- The wording of a fault. -/
def PlaceholderFault.message : PlaceholderFault → String
  | missingPattern => "missing \"from\""
  | missingReplacement pattern => "missing \"to\" for " ++ Text.quote pattern

/-- Why a request is refused. -/
inductive Refusal where
  | invalidRule (selector : String) (fault : RuleFault)
  | invalidPlaceholder (fault : PlaceholderFault)
  | invalidIgnore (selector : String) (fault : SelectorFault)
  deriving DecidableEq, Repr

/-- The wording of a refusal. -/
def Refusal.message : Refusal → String
  | invalidRule selector fault =>
    "invalid rule for selector " ++ Text.quote selector ++ ": " ++ fault.message
  | invalidPlaceholder fault => "invalid placeholder: " ++ fault.message
  | invalidIgnore selector fault =>
    "invalid ignore selector " ++ Text.quote selector ++ ": " ++ fault.message

/-! ## Placeholder drafts -/

/-- A placeholder as it is written down: each part may be missing. -/
structure PlaceholderDraft where
  pattern : Option String
  replacement : Option String
  deriving DecidableEq, Repr

/-- The placeholder that a draft describes, if it is complete. -/
def PlaceholderDraft.placeholder (draft : PlaceholderDraft) :
    Except PlaceholderFault Placeholder :=
  match draft.pattern, draft.replacement with
  | some pattern, some replacement => .ok ⟨pattern, replacement⟩
  | none, _ => .error .missingPattern
  | some pattern, none => .error (.missingReplacement pattern)

/-! ## Registries -/

/-- What a converter has been told. -/
structure Registry where
  rules : List Rule
  placeholders : Placeholders
  ignored : List String
  fallback : Option Formatter

namespace Registry

/-- The registry of a new converter. -/
def empty : Registry := ⟨[], .empty, [], none⟩

/-- The selectors that a registry holds: those of the elements that it ignores, and those of its
rules. -/
def selectors (registry : Registry) : List String :=
  registry.ignored ++ registry.rules.map Rule.selector

/-- The registry with rules behind those that are there. -/
def addRules (registry : Registry) (rules : List Rule) : Registry :=
  { registry with rules := registry.rules ++ rules }

/-- The registry with placeholders put in. -/
def addPlaceholders (registry : Registry) (list : List Placeholder) : Registry :=
  { registry with placeholders := registry.placeholders.insertAll list }

/-- A list of selectors with one more, unless it is among them. -/
def addSelector (selectors : List String) (selector : String) : List String :=
  if selectors.contains selector then selectors else selectors ++ [selector]

/-- The registry with selectors to ignore, each once. -/
def addIgnored (registry : Registry) (selectors : List String) : Registry :=
  { registry with ignored := selectors.foldl addSelector registry.ignored }

/-- The registry with another fallback. -/
def setFallback (registry : Registry) (formatter : Formatter) : Registry :=
  { registry with fallback := some formatter }

/-! ## Checks on lists -/

/-- Checks rules in their order. -/
def checkRules (matcher : Matcher) : List Rule → Except Refusal Unit
  | [] => .ok ()
  | rule :: rules =>
    match rule.fault? matcher with
    | some fault => .error (.invalidRule rule.selector fault)
    | none => checkRules matcher rules

/-- Checks selectors to ignore in their order. -/
def checkIgnored (matcher : Matcher) : List String → Except Refusal Unit
  | [] => .ok ()
  | selector :: selectors =>
    match matcher.fault? selector with
    | some fault => .error (.invalidIgnore selector fault)
    | none => checkIgnored matcher selectors

/-- The rules that drafts describe, if all are complete. -/
def readRules : List RuleDraft → Except Refusal (List Rule)
  | [] => .ok []
  | draft :: drafts =>
    match draft.rule with
    | .error fault => .error (.invalidRule (draft.selector.getD "") fault)
    | .ok rule => (readRules drafts).map (rule :: ·)

/-- The placeholders that drafts describe, if all are complete. -/
def readPlaceholders : List PlaceholderDraft → Except Refusal (List Placeholder)
  | [] => .ok []
  | draft :: drafts =>
    match draft.placeholder with
    | .error fault => .error (.invalidPlaceholder fault)
    | .ok placeholder => (readPlaceholders drafts).map (placeholder :: ·)

end Registry

/-! ## Requests -/

/-- A wish to change a registry. -/
inductive Request where
  | rules (rules : List Rule)
  | ruleDrafts (drafts : List RuleDraft)
  | placeholders (list : List Placeholder)
  | placeholderDrafts (drafts : List PlaceholderDraft)
  | ignore (selectors : List String)
  | fallback (formatter : Formatter)

namespace Registry

/-- The registry with checked rules behind those that are there. -/
def register (matcher : Matcher) (registry : Registry) (rules : List Rule) :
    Except Refusal Registry :=
  (checkRules matcher rules).map fun _ => registry.addRules rules

/-- The registry with the rules that drafts describe. All drafts are read before any rule
is checked. -/
def registerDrafts (matcher : Matcher) (registry : Registry) (drafts : List RuleDraft) :
    Except Refusal Registry :=
  match readRules drafts with
  | .error error => .error error
  | .ok rules => registry.register matcher rules

/-- The registry with the placeholders that drafts describe. -/
def addDraftedPlaceholders (registry : Registry) (drafts : List PlaceholderDraft) :
    Except Refusal Registry :=
  (readPlaceholders drafts).map registry.addPlaceholders

/-- The registry with checked selectors to ignore. -/
def ignore (matcher : Matcher) (registry : Registry) (selectors : List String) :
    Except Refusal Registry :=
  (checkIgnored matcher selectors).map fun _ => registry.addIgnored selectors

/-- The registry after a request, or why the request is refused. -/
def handle (matcher : Matcher) (registry : Registry) : Request → Except Refusal Registry
  | .rules rules => registry.register matcher rules
  | .ruleDrafts drafts => registry.registerDrafts matcher drafts
  | .placeholders list => .ok (registry.addPlaceholders list)
  | .placeholderDrafts drafts => registry.addDraftedPlaceholders drafts
  | .ignore selectors => registry.ignore matcher selectors
  | .fallback formatter => .ok (registry.setFallback formatter)

/-- The registry after a request; a refused request leaves it as it was. -/
def step (matcher : Matcher) (registry : Registry) (request : Request) : Registry :=
  match registry.handle matcher request with
  | .ok changed => changed
  | .error _ => registry

/-- The registry after a history of requests. -/
def after (matcher : Matcher) (registry : Registry) (history : List Request) : Registry :=
  history.foldl (step matcher) registry

end Registry

end TreeText
