/-
# Character references

In markup a character can be written by its number, as in `&#65;`, or by a name, as in `&amp;`.
Some old names are also read where the semicolon is missing. What is no reference stands for itself.

* `Reference.read?` reads the reference behind an ampersand.
* `Reference.decode` replaces the references in the value of an attribute.
-/
import TreeText.Markup.Reference.Names

namespace TreeText.Markup

/-- A reference as it is written behind its ampersand: what it stands for, how many characters it
takes, and whether it has its semicolon. -/
structure Reference where
  content : List Char
  length : Nat
  isClosed : Bool
  deriving DecidableEq, Repr

namespace Reference

/-! ## Names -/

/-- The longest beginning of a text, of at most the given length, that is a name without a
semicolon. -/
def longestLone? (s : List Char) : Nat → Option Reference
  | 0 => none
  | n + 1 =>
    match loneNames.lookup (String.ofList (s.take (n + 1))) with
    | some code => some ⟨[Char.ofNat code], n + 1, false⟩
    | none => longestLone? s n

/-- The name at the front. In the value of an attribute, a name without a semicolon must not be
followed by an equals sign or by a letter or digit. -/
def named (inValue : Bool) (s : List Char) : Option Reference :=
  let name := s.takeWhile Char.isAlphanum
  let closed := if (s.drop name.length).head? = some ';' then named? name else none
  match closed with
  | some content => some ⟨content, name.length + 1, true⟩
  | none =>
    (longestLone? s name.length).filter fun reference =>
      let next := (s.drop reference.length).head?
      !(inValue && next.any fun d => d == '=' || d.isAlphanum)

/-! ## Numbers -/

/-- The numbers that stand for a character of an older set. -/
def olderNumbers : List (Nat × Nat) := [
  (0x80, 0x20ac), (0x82, 0x201a), (0x83, 0x192), (0x84, 0x201e), (0x85, 0x2026), (0x86, 0x2020),
  (0x87, 0x2021), (0x88, 0x2c6), (0x89, 0x2030), (0x8a, 0x160), (0x8b, 0x2039), (0x8c, 0x152),
  (0x8e, 0x17d), (0x91, 0x2018), (0x92, 0x2019), (0x93, 0x201c), (0x94, 0x201d), (0x95, 0x2022),
  (0x96, 0x2013), (0x97, 0x2014), (0x98, 0x2dc), (0x99, 0x2122), (0x9a, 0x161), (0x9b, 0x203a),
  (0x9c, 0x153), (0x9e, 0x17e), (0x9f, 0x178)]

/-- The character that a number stands for. Numbers of no character stand for the replacement
character. -/
def numbered (n : Nat) : Char :=
  match olderNumbers.lookup n with
  | some code => Char.ofNat code
  | none => if n = 0 then '\ufffd' else if n.isValidChar then Char.ofNat n else '\ufffd'

/-- The value of a digit in base sixteen. -/
def digitValue (c : Char) : Nat :=
  if c.isDigit then c.toNat - '0'.toNat else c.toLower.toNat - 'a'.toNat + 10

/-- Whether a character is a digit in base sixteen. -/
def isHexDigit (c : Char) : Bool :=
  c.isDigit || ('a' ≤ c.toLower && c.toLower ≤ 'f')

/-- The number that digits write. -/
def number (base : Nat) (digits : List Char) : Nat :=
  digits.foldl (fun n c => n * base + digitValue c) 0

/-- The reference by the digits at the front in a base. So many characters as `mark` says stand in
front of them. -/
def numeric? (mark base : Nat) (isDigit : Char → Bool) (s : List Char) : Option Reference :=
  match s.takeWhile isDigit with
  | [] => none
  | digits =>
    let count := mark + digits.length
    let isClosed := (s.drop digits.length).head? == some ';'
    some ⟨[numbered (number base digits)], if isClosed then count + 1 else count, isClosed⟩

/-! ## References -/

/-- The reference whose text behind the ampersand is at the front. -/
def read? (inValue : Bool) : List Char → Option Reference
  | '#' :: 'x' :: rest => numeric? 2 16 isHexDigit rest
  | '#' :: 'X' :: rest => numeric? 2 16 isHexDigit rest
  | '#' :: rest => numeric? 1 10 Char.isDigit rest
  | s => named inValue s

/-- The value of an attribute with its references replaced, behind characters that are done. -/
def decodeFrom (done : List Char) : List Char → List Char
  | [] => done.reverse
  | '&' :: rest =>
    match read? true rest with
    | some reference => decodeFrom (reference.content.reverse ++ done) (rest.drop reference.length)
    | none => decodeFrom ('&' :: done) rest
  | c :: rest => decodeFrom (c :: done) rest
termination_by s => s.length
decreasing_by all_goals simp only [List.length_cons, List.length_drop]; omega

/-- The value of an attribute with its references replaced by their characters. -/
def decode (s : List Char) : List Char :=
  decodeFrom [] s

end Reference

end TreeText.Markup
