/-
# Conversion

The text of a node is made of the contributions of its children, in their order. A text contributes
itself, with its runs of blanks collapsed unless it is preformatted. An ignored element contributes
nothing. Any other element goes through all rules that select it, each working on the text that the
one before it left, the first on the text of the element; an element without rules goes to the
fallback, or passes its text on.

* `Conversion` is what stays the same during one conversion.
* `Conversion.textOf` is the text of a node, as a run within a bound on how deeply texts are nested.
-/
import TreeText.Registry

namespace TreeText

/-- What stays the same during one conversion. -/
structure Conversion where
  doc : Document
  matcher : Matcher
  registry : Registry
  normalize : Bool

namespace Conversion

/-! ## Texts and elements -/

/-- Whether the nearest element above a node keeps its blanks. -/
def isPreformatted (c : Conversion) (node : Nat) : Bool :=
  ((c.doc.parentElement? node).bind c.doc.tag?).any (·.toLower == "pre")

/-- What a text node contributes. -/
def plainText (c : Conversion) (node : Nat) (text : String) : String :=
  if c.normalize && !c.isPreformatted node then Text.collapse text else text

/-- Whether an element is ignored. -/
def isIgnored (c : Conversion) (node : Nat) : Bool :=
  c.registry.ignored.any (c.matcher.selects c.doc node)

/-- The rules that select an element, in their order. -/
def rulesFor (c : Conversion) (node : Nat) : List Rule :=
  c.registry.rules.filter fun rule => c.matcher.selects c.doc node rule.selector

/-! ## Rules at work -/

/-- What a rule makes of an element. The text it works on is the given one, or where none is given
the text of the element, computed if the rule asks for it. -/
def applyRule (c : Conversion) (textOf : Nat → Run String) (visit : Visit)
    (given : Option String) (rule : Rule) : Run String :=
  match rule.transform with
  | .template template => do
    let content ← match given with
      | some text => pure text
      | none => textOf visit.node
    return template.render content visit.dataset
  | .format formatter => do
    match ← formatter.call c.doc textOf visit given with
    | some text => return text
    | none => Run.fail (.ruleWithoutAnswer rule.selector)

/-- What further rules make of a text, one after the other. -/
def applyRules (c : Conversion) (textOf : Nat → Run String) (visit : Visit) :
    List Rule → String → Run String
  | [], text => pure text
  | rule :: rules, text => do
    let changed ← c.applyRule textOf visit (some text) rule
    applyRules c textOf visit rules changed

/-- What becomes of an element that no rule selects. -/
def applyFallback (c : Conversion) (textOf : Nat → Run String) (visit : Visit) : Run String :=
  match c.registry.fallback with
  | some formatter => do
    match ← formatter.call c.doc textOf visit none with
    | some text => return text
    | none => Run.fail (.fallbackWithoutAnswer visit.tag)
  | none => textOf visit.node

/-- What becomes of an element. -/
def resolve (c : Conversion) (textOf : Nat → Run String) (visit : Visit) : Run String :=
  match c.rulesFor visit.node with
  | [] => c.applyFallback textOf visit
  | first :: rules => do
    let text ← c.applyRule textOf visit none first
    c.applyRules textOf visit rules text

/-! ## Trees at work -/

/-- What a child of a node at the given depth contributes. -/
def contribution (c : Conversion) (textAt : Nat → Nat → Run String) (depth node : Nat) :
    Run String :=
  match c.doc.content? node with
  | some (.text text) => pure (c.plainText node text)
  | some (.element tag dataset) =>
    if c.isIgnored node then pure ""
    else c.resolve (textAt (depth + 1)) ⟨node, tag, dataset, depth + 1⟩
  | _ => pure ""

/-- The text of a node at a depth: the contributions of its children, joined. Texts may be nested as
deeply as the bound says. -/
def textOf (c : Conversion) : Nat → Nat → Nat → Run String
  | 0, _, _ => Run.tooDeep
  | bound + 1, depth, node =>
    Run.gather ((c.doc.children node).map (c.contribution (textOf c bound) depth))

end Conversion

end TreeText
