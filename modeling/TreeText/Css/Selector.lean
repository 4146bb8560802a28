/-
# Style selectors

The selectors of style sheets, read as formulas: tags, identifiers, classes and attributes, places
among siblings, lists of alternatives, what an element is asked to have below it or behind it, and
the combinators for parents, ancestors and siblings.

In some lists, an alternative that cannot be read holds for no element. Then the rest of it must not
hold anything that is broken, and for this a reader that fails tells where it stood.

* `Css.read` reads a selector or says what is wrong with it, and so makes up a language.
-/
import TreeText.Css.Cache
import TreeText.Css.Formula

namespace TreeText.Css

/-! ## Faults -/

/-- What is wrong with a selector. -/
inductive Fault where
  | emptySelector
  | danglingCombinator
  | unexpected
  | unsupportedClass (name : String)
  | badPosition
  | badAttribute
  deriving DecidableEq, Repr

/-- The wording of a fault. -/
def Fault.message : Fault → String
  | emptySelector => "a selector is empty"
  | danglingCombinator => "a combinator has nothing to its right"
  | unexpected => "a token is out of place"
  | unsupportedClass name => "the class \":" ++ name ++ "\" is not supported"
  | badPosition => "a position is malformed"
  | badAttribute => "an attribute test is malformed"

/-- A fault, and the tokens behind the place where it was noticed. -/
structure Failure where
  fault : Fault
  rest : List Token
  deriving DecidableEq, Repr

/-- What a reader gives: its value and the tokens behind it, or a failure. -/
abbrev Reading (α : Type) := Except Failure (α × List Token)

/-- A fault that was noticed in front of the given tokens. -/
def failAt {α : Type} (fault : Fault) (rest : List Token) : Reading α :=
  .error ⟨fault, rest⟩

/-- A fault that lies in the first of the given tokens, which counts as read. -/
def failIn {α : Type} (fault : Fault) : List Token → Reading α
  | [] => failAt fault []
  | token :: rest => failAt fault (Token.skip token rest)

/-! ## Names -/

/-- The vocabulary that stands in front of a name: none is written, or any, or none at all. -/
inductive Prefix where
  | absent
  | any
  | empty
  deriving DecidableEq, Repr

/-- A name with what stands in front of it; nothing in the place of the name is any name. -/
structure QualifiedName where
  qualifier : Prefix
  name : Option String
  deriving DecidableEq, Repr

/-- The name behind a bar. In a test of an attribute, it cannot be any name. -/
def nameBehindBar (ofAttribute : Bool) (qualifier : Prefix) :
    List Token → Reading QualifiedName
  | .ident name :: rest => .ok (⟨qualifier, some name⟩, rest)
  | .delim '*' :: rest =>
    if ofAttribute then failAt .unexpected rest else .ok (⟨qualifier, none⟩, rest)
  | tokens => failIn .unexpected tokens

/-- The name at the front, if there is one. No names of vocabularies are known. -/
def readName? (ofAttribute : Bool) : List Token → Option (Reading QualifiedName)
  | .ident _ :: .delim '|' :: rest => some (failAt .unexpected rest)
  | .ident name :: rest => some (.ok (⟨.absent, some name⟩, rest))
  | .delim '*' :: .delim '|' :: rest => some (nameBehindBar ofAttribute .any rest)
  | .delim '*' :: rest =>
    if ofAttribute then some (failIn .unexpected rest) else some (.ok (⟨.absent, none⟩, rest))
  | .delim '|' :: rest => some (nameBehindBar ofAttribute .empty rest)
  | _ => none

/-! ## Attributes -/

/-- The attributes whose values are compared without regard to the case of letters in pages. -/
def caselessAttributes : List String :=
  ["accept", "accept-charset", "align", "alink", "axis", "bgcolor", "charset", "checked", "clear",
    "codetype", "color", "compact", "declare", "defer", "dir", "direction", "disabled", "enctype",
    "face", "frame", "hreflang", "http-equiv", "lang", "language", "link", "media", "method",
    "multiple", "nohref", "noresize", "noshade", "nowrap", "readonly", "rel", "rev", "rules",
    "scope", "scrolling", "selected", "shape", "target", "text", "type", "valign", "valuetype",
    "vlink"]

/-- The comparison at the front. -/
def comparison? : List Token → Option (Comparison × List Token)
  | .delim '=' :: rest => some (.equals, rest)
  | .operator '~' :: rest => some (.hasWord, rest)
  | .operator '|' :: rest => some (.hasPrefixPart, rest)
  | .operator '^' :: rest => some (.startsWith, rest)
  | .operator '$' :: rest => some (.endsWith, rest)
  | .operator '*' :: rest => some (.contains, rest)
  | _ => none

/-- The text that a value is compared with. -/
def comparedText? : List Token → Option (String × List Token)
  | .ident value :: rest => some (value, rest)
  | .string value :: rest => some (value, rest)
  | _ => none

/-- The rule for the case of letters at the end of a test. Where none is written, it depends on the
name. -/
def caseRule? (name : String) (anyVocabulary : Bool) (tokens : List Token) : Option CaseRule :=
  match Token.skipBlanks tokens with
  | [] =>
    some (if !anyVocabulary && caselessAttributes.contains name.toLower then .caselessInPages
      else .exact)
  | .ident flag :: rest =>
    if !(Token.skipBlanks rest).isEmpty then none
    else
      match flag.toLower with
      | "i" => some .caseless
      | "s" => some .exact
      | _ => none
  | _ => none

/-- The test of an attribute that stands inside square brackets. -/
def attributeTest? (inside : List Token) : Option Formula :=
  match readName? true (Token.skipBlanks inside) with
  | some (.ok (⟨qualifier, some name⟩, rest)) =>
    let anyVocabulary := qualifier == .any
    match Token.skipBlanks rest with
    | [] => some (.hasAttribute name anyVocabulary)
    | tokens => do
      let (comparison, behind) ← comparison? tokens
      let (value, behind) ← comparedText? (Token.skipBlanks behind)
      let caseRule ← caseRule? name anyVocabulary behind
      return .attribute name anyVocabulary comparison value caseRule
  | _ => none

/-! ## Classes of elements -/

/-- The formula for a class of elements without an argument. -/
def ofClass? (name : String) : Option Formula :=
  match name with
  | "root" | "scope" => some .isRoot
  | "empty" => some .isEmpty
  | "first-child" => some (.position false false .first)
  | "last-child" => some (.position true false .first)
  | "only-child" => some (.both (.position false false .first) (.position true false .first))
  | "first-of-type" => some (.position false true .first)
  | "last-of-type" => some (.position true true .first)
  | "only-of-type" => some (.both (.position false true .first) (.position true true .first))
  | _ => none

/-- The formula for a function whose argument describes a position. -/
def ofPosition? (name : String) (argument : List Token) : Option Formula :=
  match name with
  | "nth-child" => (Position.read? argument).map (.position false false ·)
  | "nth-last-child" => (Position.read? argument).map (.position true false ·)
  | "nth-of-type" => (Position.read? argument).map (.position false true ·)
  | "nth-last-of-type" => (Position.read? argument).map (.position true true ·)
  | _ => none

/-! ## What may be read -/

/-- What a part of a selector may hold: combinators, and whether an element has another one. -/
structure Allowance where
  combinators : Bool
  has : Bool
  deriving DecidableEq, Repr

/-- How a list is read: whether its alternatives begin with the element that they are about, and
whether they may be left out. -/
inductive ListKind where
  | strict
  | forgiving
  | relative
  deriving DecidableEq, Repr

/-- A reader of lists, which is used for lists inside brackets. -/
abbrev ListReader := ListKind → Allowance → List Token → Except Fault Formula

/-- The formula for a function with a given argument. -/
def ofFunction (readList : ListReader) (allowance : Allowance) (name : String)
    (argument : List Token) : Except Fault Formula :=
  match name with
  | "nth-child" | "nth-last-child" | "nth-of-type" | "nth-last-of-type" =>
    match ofPosition? name argument with
    | some formula => .ok formula
    | none => .error .badPosition
  | "is" | "where" => (readList .forgiving allowance argument).map .asTest
  | "not" => (readList .strict allowance argument).map .opposite
  | "has" =>
    if allowance.has then readList .relative { allowance with has := false } argument
    else .error .unexpected
  | "host" =>
    if (Token.alternatives argument).length > 1 then .error .unexpected
    else (readList .strict { allowance with combinators := false } argument).map fun _ => .never
  | _ => .error (.unsupportedClass name)

/-! ## Tests of one element -/

/-- A test at the front, if there is one. -/
def readTest? (readList : ListReader) (allowance : Allowance) :
    List Token → Option (Reading Formula)
  | .hash name true :: rest => some (.ok (.hasId name, rest))
  | .delim '.' :: .ident name :: rest => some (.ok (.hasClass name, rest))
  | .delim '.' :: rest => some (failIn .unexpected rest)
  | .opening .square :: rest =>
    let (inside, behind) := Token.takeBlock .square rest
    match attributeTest? inside with
    | some formula => some (.ok (formula, behind))
    | none => some (failAt .badAttribute behind)
  | .colon :: .ident name :: rest =>
    match ofClass? name.toLower with
    | some formula => some (.ok (formula, rest))
    | none => some (failAt (.unsupportedClass name) rest)
  | .colon :: .function name :: rest =>
    let (inside, behind) := Token.takeBlock .round rest
    match ofFunction readList allowance name.toLower inside with
    | .ok formula => some (.ok (formula, behind))
    | .error fault => some (failAt fault behind)
  | .colon :: .colon :: rest => some (failIn .unexpected rest)
  | .colon :: rest => some (failIn .unexpected rest)
  | _ => none

/-- The tests at the front, added to a formula. The bound is one on their number. -/
def readTests (readList : ListReader) (allowance : Allowance) :
    Nat → Formula → List Token → Reading Formula
  | 0, formula, tokens => .ok (formula, tokens)
  | bound + 1, formula, tokens =>
    match readTest? readList allowance tokens with
    | none => .ok (formula, tokens)
    | some (.error failure) => .error failure
    | some (.ok (test, rest)) => readTests readList allowance bound (.both formula test) rest

/-- The formula for a type. Every element belongs to some vocabulary. -/
def ofType (type : QualifiedName) : Formula :=
  let named := match type.name with
    | some name => .tag name
    | none => .always
  if type.qualifier = .empty then .both .never named else named

/-- The tests of one element: a type, if there is one, and what follows it. Something must be there.
-/
def readCompound (readList : ListReader) (allowance : Allowance) (missing : Fault)
    (tokens : List Token) : Reading Formula :=
  let tokens := Token.skipBlanks tokens
  match readName? false tokens with
  | some (.error failure) => .error failure
  | some (.ok (type, rest)) => readTests readList allowance rest.length (ofType type) rest
  | none =>
    match readTest? readList allowance tokens with
    | none => failAt missing tokens
    | some (.error failure) => .error failure
    | some (.ok (test, rest)) => readTests readList allowance rest.length test rest

/-! ## Combinators -/

/-- The combinator at the front, with what follows it. Blanks alone are a combinator too, unless
nothing follows them. -/
def combinator? (tokens : List Token) : Option (Combinator × List Token) :=
  match Token.skipBlanks tokens with
  | .delim '>' :: rest => some (.parent, rest)
  | .delim '+' :: rest => some (.previous, rest)
  | .delim '~' :: rest => some (.earlier, rest)
  | [] => none
  | rest =>
    match tokens with
    | .blank :: _ => some (.ancestor, rest)
    | _ => none

/-- The combinators at the front with the elements that they lead to. The formula speaks of the
element in front of them. The bound is one on their number. -/
def readChain (readList : ListReader) (allowance : Allowance) :
    Nat → Formula → List Combinator → List Token → Reading (Formula × List Combinator)
  | 0, formula, used, tokens => .ok ((formula, used), tokens)
  | bound + 1, formula, used, tokens =>
    match combinator? tokens with
    | none => .ok ((formula, used), Token.skipBlanks tokens)
    | some (combinator, rest) =>
      if !allowance.combinators then failAt .unexpected rest
      else
        match readCompound readList allowance .danglingCombinator rest with
        | .error failure => .error failure
        | .ok (compound, behind) =>
          readChain readList allowance bound (.step compound combinator formula)
            (combinator :: used) behind

/-- Where the elements may be to which a relative selector leads. -/
def reachOf (first : Combinator) (others : List Combinator) : Reach where
  amongSiblings := first == .previous || first == .earlier
  nextOnly := first == .previous && !(others.contains .previous || others.contains .earlier)
  below := first == .ancestor || others.contains .parent || others.contains .ancestor

/-! ## Alternatives and lists -/

/-- An alternative that begins with the element that it is about. -/
def readAlternative (readList : ListReader) (allowance : Allowance) (tokens : List Token) :
    Reading Formula :=
  match readCompound readList allowance .emptySelector tokens with
  | .error failure => .error failure
  | .ok (first, rest) =>
    (readChain readList allowance rest.length first [] rest).map fun ((formula, _), behind) =>
      (formula, behind)

/-- An alternative that begins with the combinator behind the element that it is about. -/
def readRelative (readList : ListReader) (allowance : Allowance) (tokens : List Token) :
    Reading Formula :=
  let tokens := Token.skipBlanks tokens
  let (first, rest) := (combinator? tokens).getD (.ancestor, tokens)
  match readCompound readList allowance .danglingCombinator rest with
  | .error failure => .error failure
  | .ok (compound, behind) =>
    (readChain readList allowance behind.length (.step compound first .anchor) [] behind).map
      fun ((formula, others), left) => (.has (reachOf first others) formula, left)

/-- The formula of an alternative that is to be read to its end. -/
def complete (reading : Reading Formula) : Except Failure Formula :=
  match reading with
  | .error failure => .error failure
  | .ok (formula, rest) =>
    if (Token.skipBlanks rest).isEmpty then .ok formula else .error ⟨.unexpected, rest⟩

/-- The formula of an alternative of a list. -/
def ofAlternative (readList : ListReader) (kind : ListKind) (allowance : Allowance)
    (tokens : List Token) : Except Fault Formula :=
  match kind with
  | .strict =>
    (complete (readAlternative readList allowance tokens)).mapError Failure.fault
  | .relative => (complete (readRelative readList allowance tokens)).mapError Failure.fault
  | .forgiving =>
    match complete (readAlternative readList allowance tokens) with
    | .ok formula => .ok formula
    | .error failure =>
      if Token.hasBroken [] failure.rest then .error failure.fault else .ok .never

/-- The formula of alternatives, of which one has to hold. -/
def ofAlternatives (readOne : List Token → Except Fault Formula) :
    List (List Token) → Except Fault Formula
  | [] => .ok .never
  | [last] => readOne last
  | first :: others => do
    let formula ← readOne first
    let rest ← ofAlternatives readOne others
    return .either formula rest

/-- The formula of a list. Lists may be nested as deeply as the bound says. -/
def readList : Nat → ListReader
  | 0, _, _, _ => .error .unexpected
  | bound + 1, kind, allowance, tokens =>
    ofAlternatives (ofAlternative (readList bound) kind allowance) (Token.alternatives tokens)

/-- The formula that a selector writes, or what is wrong with the selector. -/
def read (selector : String) : Except Fault Formula :=
  let tokens := Token.scan selector
  readList (tokens.length + 1) .strict ⟨true, true⟩ tokens

/-- The language of these selectors. -/
instance : Language where
  Formula := Formula
  read := fun selector => (read selector).mapError Fault.message
  holds := fun formula doc node => formula.holds doc node

end TreeText.Css
