/-
# Unquoted values of TOML

Truth values, numbers and moments: the values that are written as one word.

* `readWord` says what a word means.
-/
import TreeText.Toml.Value

namespace TreeText.Toml

/-! ## Numbers -/

/-- Whether a text is made of digits, with single underscores between them. -/
def isGrouped (isDigit : Char → Bool) (s : List Char) : Bool :=
  (s.splitOn '_').all fun group => !group.isEmpty && group.all isDigit

/-- A number without its sign. -/
def dropSign : List Char → List Char
  | '+' :: rest => rest
  | '-' :: rest => rest
  | s => s

/-- Whether a text is a whole number in base ten, without a sign. Only zero begins with zero. -/
def isDecimal (s : List Char) : Bool :=
  isGrouped Char.isDigit s && (s.head? ≠ some '0' || s.length = 1)

/-- Whether a text is a whole number in another base. Its digits may be missing, since nothing here
asks for its value. -/
def isBased : List Char → Bool
  | '0' :: 'x' :: digits =>
    digits.isEmpty || isGrouped (fun c => c.isDigit || ('a' ≤ c.toLower && c.toLower ≤ 'f')) digits
  | '0' :: 'o' :: digits => digits.isEmpty || isGrouped (fun c => '0' ≤ c && c ≤ '7') digits
  | '0' :: 'b' :: digits => digits.isEmpty || isGrouped (fun c => c == '0' || c == '1') digits
  | _ => false

/-- Whether a character separates a number from its exponent. -/
def isExponentMark (c : Char) : Bool :=
  c == 'e' || c == 'E'

/-- Whether a text without a sign is a number with a fraction or an exponent. -/
def isFractional (s : List Char) : Bool :=
  let mantissa := s.takeWhile (!isExponentMark ·)
  let exponent := s.dropWhile (!isExponentMark ·)
  let whole := mantissa.takeWhile (· ≠ '.')
  let fraction := mantissa.dropWhile (· ≠ '.')
  isDecimal whole && (fraction.isEmpty || isGrouped Char.isDigit fraction.tail) &&
    (exponent.isEmpty || isGrouped Char.isDigit (dropSign exponent.tail))

/-- Whether a text is a number. -/
def isNumber (s : List Char) : Bool :=
  let unsigned := dropSign s
  isBased s || isFractional unsigned || unsigned == "inf".toList || unsigned == "nan".toList

/-! ## Moments -/

/-- The number that exactly so many digits write. -/
def fixedDigits? (count : Nat) (s : List Char) : Option Nat :=
  if s.length = count ∧ s.all Char.isDigit then
    some (s.foldl (fun n d => n * 10 + (d.toNat - '0'.toNat)) 0)
  else none

/-- The number of days in a month. -/
def daysIn (year month : Nat) : Nat :=
  if month = 2 then
    if year % 4 = 0 ∧ (year % 100 ≠ 0 ∨ year % 400 = 0) then 29 else 28
  else if month = 4 ∨ month = 6 ∨ month = 9 ∨ month = 11 then 30 else 31

/-- Whether a text is a date. -/
def isDate (s : List Char) : Bool :=
  match s.splitOn '-' with
  | [year, month, day] =>
    match fixedDigits? 4 year, fixedDigits? 2 month, fixedDigits? 2 day with
    | some year, some month, some day =>
      1 ≤ month && month ≤ 12 && 1 ≤ day && day ≤ daysIn year month
    | _, _, _ => false
  | _ => false

/-- Whether a text is a number of that many digits, no larger than a limit. -/
def isUpTo (limit : Nat) (s : List Char) : Bool :=
  (fixedDigits? 2 s).any (· ≤ limit)

/-- Whether a text is a time of day. Seconds may be missing. -/
def isTime (s : List Char) : Bool :=
  let fraction := s.dropWhile (· ≠ '.')
  (fraction.isEmpty || (!fraction.tail.isEmpty && fraction.tail.all Char.isDigit)) &&
    match (s.takeWhile (· ≠ '.')).splitOn ':' with
    | [hour, minute] => fraction.isEmpty && isUpTo 23 hour && isUpTo 59 minute
    | [hour, minute, second] => isUpTo 23 hour && isUpTo 59 minute && isUpTo 60 second
    | _ => false

/-- Whether a text is a time of day, with a distance from universal time behind it or not. -/
def isZonedTime (s : List Char) : Bool :=
  let time := s.takeWhile fun c => c.isDigit || c == ':' || c == '.'
  isTime time &&
    match s.drop time.length with
    | [] | ['Z'] | ['z'] => true
    | sign :: offset =>
      (sign == '+' || sign == '-') &&
        match offset.splitOn ':' with
        | [hour, minute] => isUpTo 23 hour && isUpTo 59 minute
        | _ => false

/-- Whether a text is a moment: a date, a time of day, or both. -/
def isMoment (s : List Char) : Bool :=
  isDate s || isTime s ||
    (isDate (s.take 10) &&
      match s.drop 10 with
      | c :: time => (c == 'T' || c == 't' || c == ' ') && isZonedTime time
      | [] => false)

/-! ## Words -/

/-- Whether a character can be part of an unquoted value. -/
def isInWord (c : Char) : Bool :=
  c.isAlphanum || c == '+' || c == '-' || c == '_' || c == '.' || c == ':'

/-- The word at the front of a text. A date may be followed by a blank and a time. -/
def wordOf (s : List Char) : List Char :=
  let word := s.takeWhile isInWord
  match isDate word, s.drop word.length with
  | true, ' ' :: c :: rest =>
    if c.isDigit then word ++ ' ' :: (c :: rest).takeWhile isInWord else word
  | _, _ => word

/-- What a word means. -/
def readWord (word : List Char) : Option Value :=
  if word == "true".toList then some (.boolean true)
  else if word == "false".toList then some (.boolean false)
  else if isNumber word then some (.number (String.ofList word))
  else if isMoment word then some (.moment (String.ofList word))
  else none

end TreeText.Toml
