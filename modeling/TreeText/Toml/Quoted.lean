/-
# Quoted texts of TOML

The four ways to quote a text: with escapes or literally, on one line or over several. Each reader
starts behind the opening quotes and gives the text and what follows its closing quotes.
-/

namespace TreeText.Toml

/-! ## Characters -/

/-- The blanks inside a line. -/
def isBlank (c : Char) : Bool :=
  c == ' ' || c == '\t'

/-- Whether a character may stand in a comment and between quotes. -/
def isPlain (c : Char) : Bool :=
  c == '\t' || (' ' ≤ c && c ≠ '\x7f')

/-- What follows the end of a line at the front; nothing where no line ends. -/
def newline? : List Char → Option (List Char)
  | '\n' :: rest => some rest
  | '\x0d' :: '\n' :: rest => some rest
  | _ => none

/-- The text behind the end of a line at the front, if a line ends there. -/
def dropNewline (s : List Char) : List Char :=
  (newline? s).getD s

/-- Whether a character is a digit in base sixteen. -/
def isHexDigit (c : Char) : Bool :=
  c.isDigit || ('a' ≤ c.toLower && c.toLower ≤ 'f')

/-- The value of a digit in base sixteen. -/
def hexValue (c : Char) : Nat :=
  if c.isDigit then c.toNat - '0'.toNat else c.toLower.toNat - 'a'.toNat + 10

/-! ## Escapes -/

/-- The character that so many digits in base sixteen write. -/
def readCode (count : Nat) (s : List Char) : Option (Char × List Char) :=
  let digits := s.take count
  let code := digits.foldl (fun n d => n * 16 + hexValue d) 0
  if digits.length = count ∧ digits.all isHexDigit ∧ code.isValidChar then
    some (Char.ofNat code, s.drop count)
  else none

/-- The character that an escape writes. The backslash was read. -/
def readEscape : List Char → Option (Char × List Char)
  | 'b' :: rest => some ('\x08', rest)
  | 't' :: rest => some ('\t', rest)
  | 'n' :: rest => some ('\n', rest)
  | 'f' :: rest => some ('\x0c', rest)
  | 'r' :: rest => some ('\x0d', rest)
  | 'e' :: rest => some ('\x1b', rest)
  | '"' :: rest => some ('"', rest)
  | '\\' :: rest => some ('\\', rest)
  | 'x' :: rest => readCode 2 rest
  | 'u' :: rest => readCode 4 rest
  | 'U' :: rest => readCode 8 rest
  | _ => none

/-! ## Texts on one line -/

/-- A text with escapes. The characters read so far are given, last first. -/
def readBasic : Nat → List Char → List Char → Option (String × List Char)
  | 0, _, _ => none
  | bound + 1, done, s =>
    match s with
    | '"' :: rest => some (String.ofList done.reverse, rest)
    | '\\' :: rest =>
      match readEscape rest with
      | some (c, behind) => readBasic bound (c :: done) behind
      | none => none
    | c :: rest => if isPlain c then readBasic bound (c :: done) rest else none
    | [] => none

/-- A text without escapes. -/
def readLiteral (s : List Char) : Option (String × List Char) :=
  let content := s.takeWhile (· ≠ '\'')
  match s.dropWhile (· ≠ '\'') with
  | _ :: rest => if content.all isPlain then some (String.ofList content, rest) else none
  | [] => none

/-! ## Texts over several lines -/

/-- The quotes at the front of a text over several lines: two of them at most are part of the text,
unless three more close it. Gives the quotes that are part of it, whether it is closed, and what
follows. -/
def readQuotes (quote : Char) (s : List Char) : Option (Nat × Bool × List Char) :=
  let count := (s.takeWhile (· == quote)).length
  let rest := s.drop count
  if count < 3 then some (count, false, rest)
  else if count < 6 then some (count - 3, true, rest)
  else none

/-- The text behind the blanks and ends of lines at the front. -/
def dropBlankLines : List Char → List Char
  | '\n' :: rest => dropBlankLines rest
  | '\x0d' :: '\n' :: rest => dropBlankLines rest
  | c :: rest => if isBlank c then dropBlankLines rest else c :: rest
  | [] => []

/-- What follows an escaped end of a line: further blanks and ends of lines count for nothing. -/
def escapedNewline? (s : List Char) : Option (List Char) :=
  (newline? (s.dropWhile isBlank)).map dropBlankLines

/-- A text with escapes. The characters read so far are given, last first. -/
def readBasicLines : Nat → List Char → List Char → Option (String × List Char)
  | 0, _, _ => none
  | bound + 1, done, s =>
    match s with
    | [] => none
    | '"' :: _ =>
      match readQuotes '"' s with
      | none => none
      | some (count, closed, rest) =>
        let done := List.replicate count '"' ++ done
        if closed then some (String.ofList done.reverse, rest) else readBasicLines bound done rest
    | '\\' :: rest =>
      match escapedNewline? rest with
      | some behind => readBasicLines bound done behind
      | none =>
        match readEscape rest with
        | some (c, behind) => readBasicLines bound (c :: done) behind
        | none => none
    | '\n' :: rest => readBasicLines bound ('\n' :: done) rest
    | '\x0d' :: '\n' :: rest => readBasicLines bound ('\n' :: '\x0d' :: done) rest
    | c :: rest => if isPlain c then readBasicLines bound (c :: done) rest else none

/-- A text without escapes. The characters read so far are given, last first. -/
def readLiteralLines : Nat → List Char → List Char → Option (String × List Char)
  | 0, _, _ => none
  | bound + 1, done, s =>
    match s with
    | [] => none
    | '\'' :: _ =>
      match readQuotes '\'' s with
      | none => none
      | some (count, closed, rest) =>
        let done := List.replicate count '\'' ++ done
        if closed then some (String.ofList done.reverse, rest)
        else readLiteralLines bound done rest
    | '\n' :: rest => readLiteralLines bound ('\n' :: done) rest
    | '\x0d' :: '\n' :: rest => readLiteralLines bound ('\n' :: '\x0d' :: done) rest
    | c :: rest => if isPlain c then readLiteralLines bound (c :: done) rest else none

/-- The quoted text at the front, in any of the four ways. An end of a line right behind three
quotes is no part of the text. -/
def readQuoted? (s : List Char) : Option (Option (String × List Char)) :=
  match s with
  | '"' :: '"' :: '"' :: rest => some (readBasicLines s.length [] (dropNewline rest))
  | '"' :: rest => some (readBasic s.length [] rest)
  | '\'' :: '\'' :: '\'' :: rest => some (readLiteralLines s.length [] (dropNewline rest))
  | '\'' :: rest => some (readLiteral rest)
  | _ => none

end TreeText.Toml
