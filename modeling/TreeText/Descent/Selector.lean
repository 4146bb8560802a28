/-
# Descent selectors

A selector is a list of alternatives between commas. An alternative is a list of compounds between
blanks: the last one tests the node itself, and those before it test elements above the node, each
above the one for the next compound.

* `Descent.read` reads a selector or says what is wrong with it.
* `Descent.matcher` is the matcher for these selectors.
-/
import TreeText.Descent.Compound
import TreeText.Matcher
import TreeText.Text.Blank
import TreeText.Text.Quoted

namespace TreeText.Descent

open Text

/-! ## Reading -/

/-- What is wrong with a selector text. -/
inductive Fault where
  | unsupported (word : String)
  | emptyAlternative (selector : String)
  deriving DecidableEq, Repr

/-- The wording of a fault. -/
def Fault.message : Fault → String
  | unsupported word => "unsupported selector syntax " ++ quote word
  | emptyAlternative selector => "empty selector in " ++ quote selector

/-- The compounds of one alternative. -/
abbrev Alternative := List Compound

/-- The compound that a word writes. -/
def readWord (word : List Char) : Except Fault Compound :=
  match Compound.read? word with
  | some compound => .ok compound
  | none => .error (.unsupported (String.ofList word))

/-- The alternative between two commas of a selector. -/
def readAlternative (selector : String) (piece : List Char) : Except Fault Alternative := do
  match ← (words piece).mapM readWord with
  | [] => throw (.emptyAlternative selector)
  | compounds => return compounds

/-- The alternatives of a selector, or the first fault in it. -/
def read (selector : String) : Except Fault (List Alternative) :=
  (pieces (· == ',') selector.toList).mapM (readAlternative selector)

/-! ## Matching -/

/-- Whether the compounds, innermost first, hold in turn on elements met on the way up. Each takes
the nearest element that it holds on. -/
def climbs (doc : Document) : List Compound → List Nat → Bool
  | [], _ => true
  | _ :: _, [] => false
  | compound :: outer, ancestor :: above =>
    if compound.holds doc ancestor then climbs doc outer above
    else climbs doc (compound :: outer) above

/-- Whether a node is selected by an alternative. -/
def Alternative.selects (doc : Document) (node : Nat) (alternative : Alternative) : Bool :=
  match alternative.reverse with
  | [] => false
  | last :: outer => last.holds doc node && climbs doc outer (doc.elementAncestors node)

/-- Whether a node is selected by a selector text; an unusable text selects nothing. -/
def selects (doc : Document) (node : Nat) (selector : String) : Bool :=
  match read selector with
  | .ok alternatives => alternatives.any (Alternative.selects doc node)
  | .error _ => false

/-- Whether a selector text is usable, and why not. -/
def check (selector : String) : Except String Unit :=
  match read selector with
  | .ok _ => .ok ()
  | .error fault => .error fault.message

/-- The matcher for descent selectors. -/
def matcher : Matcher where
  selects := selects
  check := check

end TreeText.Descent
