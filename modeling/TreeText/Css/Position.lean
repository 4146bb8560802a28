/-
# Positions

The argument that describes places among siblings, such as `2n+1`, `odd` or `3`: the places
`step * n + offset` for the numbers `n` from zero up.

* `Position.read?` reads such an argument.
* `Position.contains` says whether a place is described.
-/
import TreeText.Css.Token

namespace TreeText.Css

/-- Places among siblings at regular distances. -/
structure Position where
  step : Int
  offset : Int
  deriving DecidableEq, Repr

namespace Position

/-- The first place. -/
def first : Position := ⟨0, 1⟩

/-- Whether a place is `step * n + offset` for some number `n` from zero up. The distance of the
place from the offset has to be within the bounds of numbers. -/
def contains (position : Position) (place : Int) : Bool :=
  let distance := place - position.offset
  if distance > Token.largest then false
  else if position.step = 0 then distance == 0
  else distance % position.step == 0 && distance / position.step ≥ 0

/-! ## Reading -/

/-- A number without a sign behind the sign of an offset, and what follows it. -/
def unsigned? (step sign : Int) (tokens : List Token) : Option (Position × List Token) :=
  match Token.skipBlanks tokens with
  | .number false (some offset) :: rest => some (⟨step, sign * offset⟩, rest)
  | _ => none

/-- The offset behind a step, if there is one, and what follows it. -/
def offset? (step : Int) (tokens : List Token) : Option (Position × List Token) :=
  match Token.skipBlanks tokens with
  | .delim '+' :: rest => unsigned? step 1 rest
  | .delim '-' :: rest => unsigned? step (-1) rest
  | .number true (some offset) :: rest => some (⟨step, offset⟩, rest)
  | _ => some (⟨step, 0⟩, tokens)

/-- What stands behind the number of a step: an `n`, perhaps with the beginning of an offset or with
the whole of it. -/
def behindNumber? (step : Int) (unit : List Char) (tokens : List Token) :
    Option (Position × List Token) :=
  match unit with
  | ['n'] => offset? step tokens
  | ['n', '-'] => unsigned? step (-1) tokens
  | 'n' :: '-' :: digits =>
    if digits.all Char.isDigit then
      some (⟨step, Token.bounded (-Token.wholeOf digits)⟩, tokens)
    else none
  | _ => none

/-- The position of a word, and what follows it. -/
def ofWord? (word : List Char) (tokens : List Token) : Option (Position × List Token) :=
  match word with
  | ['e', 'v', 'e', 'n'] => some (⟨2, 0⟩, tokens)
  | ['o', 'd', 'd'] => some (⟨2, 1⟩, tokens)
  | '-' :: unit => behindNumber? (-1) unit tokens
  | unit => behindNumber? 1 unit tokens

/-- The position at the front, and what follows it. -/
def atFront? (tokens : List Token) : Option (Position × List Token) :=
  match Token.skipBlanks tokens with
  | .number _ (some offset) :: rest => some (⟨0, offset⟩, rest)
  | .dimension (some step) unit :: rest => behindNumber? step unit.toLower.toList rest
  | .ident word :: rest => ofWord? word.toLower.toList rest
  | .delim '+' :: .ident unit :: rest => behindNumber? 1 unit.toLower.toList rest
  | _ => none

/-- The position that an argument describes. -/
def read? (argument : List Token) : Option Position :=
  match atFront? argument with
  | some (position, rest) => if (Token.skipBlanks rest).isEmpty then some position else none
  | none => none

end Position

end TreeText.Css
