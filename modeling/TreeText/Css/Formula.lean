/-
# Formulas about elements

What a style selector says of an element, as a formula: it speaks of the element's own tag,
attributes and place, and through combinators of the elements around it. A selector such as
`ul > li a` is the formula "an `a`, and some element above it is an `li` whose parent is a `ul`".

Where a combinator leads to several elements, they are tried one after the other, nearest first. Not
only whether an element fits counts then, but also why it does not: what is wrong with the elements
around it may be wrong for all others too. This is a verdict.

* `Formula.holds` decides a formula for an element of a document.
-/
import TreeText.Css.Position
import TreeText.Document

namespace TreeText.Css

/-! ## Formulas -/

/-- How the value of an attribute is compared with a given one. -/
inductive Comparison where
  | equals
  | hasWord
  | hasPrefixPart
  | startsWith
  | endsWith
  | contains
  deriving DecidableEq, Repr

/-- Whether values are compared letter for letter. -/
inductive CaseRule where
  | exact
  | caseless
  | caselessInPages
  deriving DecidableEq, Repr

/-- What leads from an element to others. -/
inductive Combinator where
  | parent
  | ancestor
  | previous
  | earlier
  deriving DecidableEq, Repr

/-- Where the elements of which an element is asked to have one may be: among its children or among
the siblings behind it, of which only the next one may count, and perhaps below those too. -/
structure Reach where
  amongSiblings : Bool
  nextOnly : Bool
  below : Bool
  deriving DecidableEq, Repr

/-- A statement about an element. The element that is asked to have another one is the `anchor` in
what is said of that. -/
inductive Formula where
  | always
  | never
  | tag (name : String)
  | hasId (name : String)
  | hasClass (name : String)
  | hasAttribute (name : String) (anyVocabulary : Bool)
  | attribute (name : String) (anyVocabulary : Bool) (comparison : Comparison) (value : String)
      (caseRule : CaseRule)
  | isRoot
  | isEmpty
  | position (fromEnd ofType : Bool) (places : Position)
  | anchor
  | both (left right : Formula)
  | either (left right : Formula)
  | opposite (inner : Formula)
  | has (reach : Reach) (inner : Formula)
  | step (here : Formula) (combinator : Combinator) (there : Formula)
  deriving DecidableEq, Repr

/-- A formula as a statement about an element alone: that it does not hold says nothing of other
elements. -/
def Formula.asTest (inner : Formula) : Formula :=
  .both .always inner

/-! ## Attributes -/

/-- The blanks that separate the words of an attribute. -/
def isSeparator (c : Char) : Bool :=
  c == ' ' || c == '\t' || c == '\n' || c == '\x0d' || c == '\x0c'

/-- The parts of a value that no separator divides. -/
def wordsOf (value : List Char) : List (List Char) :=
  (value.splitBy fun a b => !isSeparator a && !isSeparator b).filter fun part =>
    !part.any isSeparator

/-- Whether a part occurs somewhere in a text. -/
def occursIn (part : List Char) : List Char → Bool
  | [] => part.isEmpty
  | c :: rest => part.isPrefixOf (c :: rest) || occursIn part rest

/-- Whether the value of an attribute compares as asked. An empty text is no word, and no part of a
value. -/
def Comparison.holds (comparison : Comparison) (wanted actual : List Char) : Bool :=
  match comparison with
  | equals => actual == wanted
  | hasWord => !wanted.isEmpty && (wordsOf actual).contains wanted
  | hasPrefixPart => actual == wanted || (wanted ++ ['-']).isPrefixOf actual
  | startsWith => !wanted.isEmpty && wanted.isPrefixOf actual
  | endsWith => !wanted.isEmpty && wanted.isSuffixOf actual
  | contains => !wanted.isEmpty && occursIn wanted actual

/-- Whether the letters of names count without regard to case in an element: in those of pages. -/
def isOfPage (doc : Document) (node : Nat) : Bool :=
  (doc.foreign? node).isNone

/-- A name as it is written in an element. -/
def nameIn (doc : Document) (node : Nat) (name : String) : String :=
  if isOfPage doc node then name.toLower else name

/-- The values of an attribute of an element. Only in an element of another vocabulary can there be
several. -/
def valuesOf (doc : Document) (node : Nat) (name : String) (anyVocabulary : Bool) : List String :=
  let dataset := match doc.foreign? node with
    | some foreign => if anyVocabulary then doc.dataset node else foreign.plain
    | none => doc.dataset node
  (dataset.attributes.filter (·.1 == nameIn doc node name)).map (·.2)

/-- Whether a comparison is letter for letter in an element. -/
def CaseRule.isExact (rule : CaseRule) (doc : Document) (node : Nat) : Bool :=
  match rule with
  | exact => true
  | caseless => false
  | caselessInPages => !isOfPage doc node

/-- Whether a value of an attribute compares as asked in an element. -/
def compares (doc : Document) (node : Nat) (comparison : Comparison) (wanted : String)
    (rule : CaseRule) (actual : String) : Bool :=
  if rule.isExact doc node then comparison.holds wanted.toList actual.toList
  else comparison.holds (wanted.toList.map Char.toLower) (actual.toList.map Char.toLower)

/-- The classes of an element. -/
def classesOf (doc : Document) (node : Nat) : List String :=
  (wordsOf ((doc.dataset node).value "class").toList).map String.ofList

/-! ## Places -/

/-- The elements below a node. -/
def elementChildren (doc : Document) (node : Nat) : List Nat :=
  (doc.children node).filter doc.isElement

/-- The elements that are listed together with an element, itself among them, in their order. -/
def siblings (doc : Document) (node : Nat) : List Nat :=
  match doc.holder? node with
  | some holder => elementChildren doc holder
  | none => [node]

/-- The element siblings in front of an element, nearest first. -/
def earlierSiblings (doc : Document) (node : Nat) : List Nat :=
  ((siblings doc node).takeWhile (· != node)).reverse

/-- The element siblings behind an element, nearest first. -/
def laterSiblings (doc : Document) (node : Nat) : List Nat :=
  ((siblings doc node).dropWhile (· != node)).drop 1

/-- Whether two elements have the same tag of the same vocabulary. -/
def haveSameType (doc : Document) (node other : Nat) : Bool :=
  doc.tag? node == doc.tag? other &&
    (doc.foreign? node).map Foreign.vocabulary == (doc.foreign? other).map Foreign.vocabulary

/-- The place of an element among its siblings, or among those of its type, counted from one. -/
def placeOf (doc : Document) (fromEnd ofType : Bool) (node : Nat) : Nat :=
  let before := if fromEnd then laterSiblings doc node else earlierSiblings doc node
  (if ofType then before.filter (haveSameType doc node) else before).length + 1

/-- Whether an element has neither elements nor texts below it. -/
def isChildless (doc : Document) (node : Nat) : Bool :=
  (doc.children node).all fun child => doc.content? child == some .other

/-! ## Ways -/

/-- The elements above an element, nearest first, up to the first node that is none. -/
def elementsAbove (doc : Document) (node : Nat) : List Nat :=
  (doc.ancestors node).takeWhile doc.isElement

/-- The elements to which a combinator leads, in the order in which they are tried. -/
def Combinator.candidates (combinator : Combinator) (doc : Document) (node : Nat) : List Nat :=
  match combinator with
  | parent => (elementsAbove doc node).take 1
  | ancestor => elementsAbove doc node
  | previous => (earlierSiblings doc node).take 1
  | earlier => earlierSiblings doc node

/-- An element and the elements below it. The bound is one on the depth. -/
def withBelow (doc : Document) : Nat → Nat → List Nat
  | 0, node => [node]
  | bound + 1, node => node :: (elementChildren doc node).flatMap (withBelow doc bound)

/-- The elements within reach of an element. -/
def Reach.elements (reach : Reach) (doc : Document) (node : Nat) : List Nat :=
  let starts :=
    if reach.amongSiblings then
      if reach.nextOnly then (laterSiblings doc node).take 1 else laterSiblings doc node
    else elementChildren doc node
  if reach.below then starts.flatMap (withBelow doc doc.size) else starts

/-! ## Verdicts -/

/-- What comes of testing an element: it fits; it does not, but another sibling may; no sibling will
either, but another element further up may; or none will at all. -/
inductive Verdict where
  | fits
  | trySibling
  | tryAncestor
  | giveUp
  deriving DecidableEq, Repr

namespace Verdict

/-- The verdict on an element that speaks of this element alone. -/
def ofBool (holds : Bool) : Verdict :=
  if holds then fits else trySibling

/-- The verdict where a combinator leads to no further element. -/
def atEnd : Combinator → Verdict
  | .parent | .ancestor => giveUp
  | .previous | .earlier => tryAncestor

/-- The verdict on an element from the verdict on a candidate to which a combinator leads. Nothing
if the next candidate has to be tried. -/
def through (combinator : Combinator) (verdict : Verdict) : Option Verdict :=
  match verdict, combinator with
  | fits, _ | giveUp, _ | _, .previous => some verdict
  | _, .parent => some tryAncestor
  | tryAncestor, .earlier => some tryAncestor
  | _, _ => none

/-- The verdict on an element from the verdicts on the candidates. -/
def among (combinator : Combinator) (test : Nat → Verdict) : List Nat → Verdict
  | [] => atEnd combinator
  | candidate :: others =>
    match through combinator (test candidate) with
    | some verdict => verdict
    | none => among combinator test others

end Verdict

/-! ## Truth -/

/-- The verdict of a formula on an element. Without a base, every element counts as the anchor. -/
def Formula.verdict (doc : Document) : Formula → Option Nat → Nat → Verdict
  | .always, _, _ => .fits
  | .never, _, _ => .trySibling
  | .tag name, _, node => .ofBool (doc.tag? node == some (nameIn doc node name))
  | .hasId name, _, node => .ofBool ((doc.dataset node).get? "id" == some name)
  | .hasClass name, _, node => .ofBool ((classesOf doc node).contains name)
  | .hasAttribute name anyVocabulary, _, node =>
    .ofBool (!(valuesOf doc node name anyVocabulary).isEmpty)
  | .attribute name anyVocabulary comparison value caseRule, _, node =>
    .ofBool ((valuesOf doc node name anyVocabulary).any
      (compares doc node comparison value caseRule))
  | .isRoot, _, node => .ofBool (node == Document.root)
  | .isEmpty, _, node => .ofBool (isChildless doc node)
  | .position fromEnd ofType places, _, node =>
    .ofBool (places.contains (placeOf doc fromEnd ofType node))
  | .anchor, base, node => .ofBool (base.all (· == node))
  | .both left right, base, node =>
    .ofBool (left.verdict doc base node == .fits && right.verdict doc base node == .fits)
  | .either left right, base, node =>
    .ofBool (left.verdict doc base node == .fits || right.verdict doc base node == .fits)
  | .opposite inner, base, node => .ofBool (inner.verdict doc base node != .fits)
  | .has reach inner, _, node =>
    .ofBool ((reach.elements doc node).any fun n => inner.verdict doc (some node) n == .fits)
  | .step here combinator there, base, node =>
    if here.verdict doc base node == .fits then
      Verdict.among combinator (there.verdict doc base) (combinator.candidates doc node)
    else .trySibling

/-- Whether a formula holds for an element. -/
def Formula.holds (doc : Document) (formula : Formula) (node : Nat) : Bool :=
  formula.verdict doc none node == .fits

end TreeText.Css
