/-
# Tokens of style selectors

The tokens of a selector in the language of style sheets. Comments leave no trace. A text or a
bracket that is still open at the end counts as closed there.

* `Token.scan` cuts a selector into its tokens.
* `Token.takeBlock` cuts the content of a bracket off.
* `Token.alternatives` cuts a list at its commas.
-/

namespace TreeText.Css

/-- A kind of bracket. -/
inductive Bracket where
  | round
  | square
  | curly
  deriving DecidableEq, Repr

/-- A token of a selector. A number has a value if it is whole, and says whether it has a sign. The
name of a function opens a round bracket. What no selector can hold is `broken` or `other`. -/
inductive Token where
  | ident (name : String)
  | function (name : String)
  | hash (name : String) (isIdent : Bool)
  | string (value : String)
  | number (hasSign : Bool) (value : Option Int)
  | dimension (value : Option Int) (unit : String)
  | operator (sign : Char)
  | delim (c : Char)
  | colon
  | comma
  | blank
  | opening (bracket : Bracket)
  | closing (bracket : Bracket)
  | broken
  | other
  deriving DecidableEq, Repr

namespace Token

/-! ## Names -/

/-- Whether a character is blank in a selector. -/
def isSpace (c : Char) : Bool :=
  c == ' ' || c == '\n' || c == '\t' || c == '\x0d' || c == '\x0c'

/-- Whether a character ends a line. -/
def isNewline (c : Char) : Bool :=
  c == '\n' || c == '\x0d' || c == '\x0c'

/-- Whether a character begins a name. -/
def beginsName (c : Char) : Bool :=
  c.isAlpha || c == '_' || c == '\x00' || c.toNat ≥ 128

/-- Whether a character can be part of a name. -/
def isInName (c : Char) : Bool :=
  beginsName c || c.isDigit || c == '-'

/-- Whether a character is a digit in base sixteen. -/
def isHexDigit (c : Char) : Bool :=
  c.isDigit || ('a' ≤ c.toLower && c.toLower ≤ 'f')

/-- The value of a digit in base sixteen. -/
def digitValue (c : Char) : Nat :=
  if c.isDigit then c.toNat - '0'.toNat else c.toLower.toNat - 'a'.toNat + 10

/-- The character with the replacement character in the place of the null character. -/
def orReplacement (c : Char) : Char :=
  if c == '\x00' then '\ufffd' else c

/-- The character with a number; the replacement character where there is none. -/
def charOf (n : Nat) : Char :=
  if n.isValidChar then orReplacement (Char.ofNat n) else '\ufffd'

/-- The character that an escape writes, and what follows it. The backslash was read. -/
def readEscape (s : List Char) : Char × List Char :=
  match (s.take 6).takeWhile isHexDigit with
  | [] =>
    match s with
    | c :: rest => (orReplacement c, rest)
    | [] => ('\ufffd', [])
  | digits =>
    let c := charOf (digits.foldl (fun n d => n * 16 + digitValue d) 0)
    match s.drop digits.length with
    | '\x0d' :: '\n' :: rest => (c, rest)
    | d :: rest => (c, if isSpace d then rest else d :: rest)
    | [] => (c, [])

/-- Whether an escape is at the front. -/
def beginsEscape : List Char → Bool
  | '\\' :: c :: _ => !isNewline c
  | ['\\'] => true
  | _ => false

/-- Whether a name is at the front. -/
def atName : List Char → Bool
  | '-' :: c :: rest => beginsName c || c == '-' || beginsEscape (c :: rest)
  | c :: rest => beginsName c || beginsEscape (c :: rest)
  | [] => false

/-- The name at the front behind characters that were read, last first, and what follows it. -/
def readName : Nat → List Char → List Char → String × List Char
  | 0, done, s => (String.ofList done.reverse, s)
  | bound + 1, done, s =>
    match s with
    | [] => (String.ofList done.reverse, [])
    | c :: rest =>
      if isInName c then readName bound (orReplacement c :: done) rest
      else if beginsEscape (c :: rest) then
        let (d, behind) := readEscape rest
        readName bound (d :: done) behind
      else (String.ofList done.reverse, c :: rest)

/-- The name at the front, and what follows it. -/
def nameAt (s : List Char) : String × List Char :=
  readName s.length [] s

/-! ## Texts, comments and addresses -/

/-- The text up to a closing quote, and what follows it. A text in which a line ends is broken, and
goes on behind with the end of the line. -/
def readString (quote : Char) : Nat → List Char → List Char → Token × List Char
  | 0, done, s => (.string (String.ofList done.reverse), s)
  | bound + 1, done, s =>
    match s with
    | [] | ['\\'] => (.string (String.ofList done.reverse), [])
    | '\\' :: '\x0d' :: '\n' :: rest => readString quote bound done rest
    | '\\' :: c :: rest =>
      if isNewline c then readString quote bound done rest
      else
        let (d, behind) := readEscape (c :: rest)
        readString quote bound (d :: done) behind
    | c :: rest =>
      if c == quote then (.string (String.ofList done.reverse), rest)
      else if isNewline c then (.broken, c :: rest)
      else readString quote bound (orReplacement c :: done) rest

/-- What follows a comment whose opening was read. -/
def skipComment : List Char → List Char
  | '*' :: '/' :: rest => rest
  | _ :: rest => skipComment rest
  | [] => []

/-- What follows an address that is broken: all up to a closing bracket without a backslash belongs
to it. -/
def skipAddress : List Char → List Char
  | ')' :: rest => rest
  | '\\' :: c :: rest => if c == ')' || c == '\\' then skipAddress rest else skipAddress (c :: rest)
  | _ :: rest => skipAddress rest
  | [] => []

/-- Whether a character cannot stand in an address without a backslash. -/
def breaksAddress (c : Char) : Bool :=
  c == '"' || c == '\'' || c == '(' || c == '\x7f' ||
    (c.toNat < 32 && c != '\x00' && !isSpace c)

/-- The token of an address whose opening was read, and what follows it. -/
def readAddress : Nat → List Char → Token × List Char
  | 0, s => (.other, s)
  | bound + 1, s =>
    match s with
    | [] => (.other, [])
    | ')' :: rest => (.other, rest)
    | c :: rest =>
      if isSpace c then
        match rest.dropWhile isSpace with
        | ')' :: behind => (.other, behind)
        | [] => (.other, [])
        | behind => (.broken, skipAddress behind)
      else if breaksAddress c || (c == '\\' && !beginsEscape (c :: rest)) then
        (.broken, skipAddress (c :: rest))
      else if c == '\\' then readAddress bound (readEscape rest).2
      else readAddress bound rest

/-- The token of a name, and what follows it: with a bracket behind it, the name is a function,
unless an address without quotes is inside. -/
def ofName (name : String) (rest : List Char) : Token × List Char :=
  match rest with
  | '(' :: inside =>
    let address := inside.dropWhile isSpace
    let isQuoted := address.head?.any fun c => c == '"' || c == '\''
    if name.toLower == "url" && !isQuoted then readAddress (inside.length + 1) address
    else (.function name, inside)
  | _ => (.ident name, rest)

/-! ## Numbers -/

/-- The largest whole number that a selector can hold. -/
def largest : Int := 2147483647

/-- The least whole number that a selector can hold. -/
def least : Int := -2147483648

/-- A whole number that is brought within the bounds. -/
def bounded (n : Int) : Int :=
  max least (min largest n)

/-- The number that digits write. -/
def wholeOf (digits : List Char) : Int :=
  digits.foldl (fun n d => n * 10 + (digitValue d : Nat)) (0 : Int)

/-- Whether a number is at the front. -/
def atNumber : List Char → Bool
  | '+' :: rest | '-' :: rest => atUnsigned rest
  | s => atUnsigned s
where
  /-- Whether a number without a sign is at the front. -/
  atUnsigned : List Char → Bool
    | '.' :: c :: _ => c.isDigit
    | c :: _ => c.isDigit
    | [] => false

/-- What follows an exponent, if there is one. -/
def skipExponent? : List Char → Option (List Char)
  | c :: rest =>
    if c != 'e' && c != 'E' then none
    else
      match rest with
      | '+' :: d :: behind | '-' :: d :: behind =>
        if d.isDigit then some (behind.dropWhile Char.isDigit) else none
      | d :: behind => if d.isDigit then some (behind.dropWhile Char.isDigit) else none
      | [] => none
  | [] => none

/-- What follows a fraction, if there is one. -/
def skipFraction? : List Char → Option (List Char)
  | '.' :: d :: behind => if d.isDigit then some (behind.dropWhile Char.isDigit) else none
  | _ => none

/-- The token of the number at the front, with its unit if it has one, and what follows it. -/
def readNumber (s : List Char) : Token × List Char :=
  let (hasSign, isNegative, unsigned) := match s with
    | '+' :: rest => (true, false, rest)
    | '-' :: rest => (true, true, rest)
    | _ => (false, false, s)
  let digits := unsigned.takeWhile Char.isDigit
  let behind := unsigned.drop digits.length
  let (isWhole, behind) := match skipFraction? behind with
    | some rest => (false, rest)
    | none => (true, behind)
  let (isWhole, behind) := match skipExponent? behind with
    | some rest => (false, rest)
    | none => (isWhole, behind)
  let size := wholeOf digits
  let value := if isWhole then some (bounded (if isNegative then -size else size)) else none
  match behind with
  | '%' :: rest => (.other, rest)
  | _ =>
    if atName behind then
      let (unit, rest) := nameAt behind
      (.dimension value unit, rest)
    else (.number hasSign value, behind)

/-! ## Scanning -/

/-- The token that one character is. -/
def ofChar (c : Char) : Token :=
  match c with
  | ':' => .colon
  | ',' => .comma
  | '(' => .opening .round
  | '[' => .opening .square
  | '{' => .opening .curly
  | ')' => .closing .round
  | ']' => .closing .square
  | '}' => .closing .curly
  | ';' => .other
  | _ => .delim c

/-- The token at the front, if it leaves a trace, and what follows it. -/
def next (c : Char) (rest : List Char) : Option Token × List Char :=
  let found (reading : Token × List Char) : Option Token × List Char :=
    (some reading.1, reading.2)
  match c, rest with
  | '/', '*' :: behind => (none, skipComment behind)
  | '-', '-' :: '>' :: behind => (some .other, behind)
  | '<', '!' :: '-' :: '-' :: behind => (some .other, behind)
  | _, _ =>
    if isSpace c then (some .blank, rest.dropWhile isSpace)
    else if atNumber (c :: rest) then found (readNumber (c :: rest))
    else if atName (c :: rest) then
      let (name, behind) := nameAt (c :: rest)
      found (ofName name behind)
    else if c == '"' || c == '\'' then found (readString c (rest.length + 1) [] rest)
    else if c == '#' && (rest.head?.any isInName || beginsEscape rest) then
      let (name, behind) := nameAt rest
      (some (.hash name (atName rest)), behind)
    else if c == '@' && atName rest then (some .other, (nameAt rest).2)
    else
      match rest with
      | '=' :: behind =>
        if ['~', '|', '^', '$', '*'].contains c then (some (.operator c), behind)
        else (some (ofChar c), rest)
      | _ => (some (ofChar c), rest)

/-- The tokens of a selector. The bound is one on the number of characters. -/
def scanWithin : Nat → List Char → List Token
  | 0, _ => []
  | _, [] => []
  | bound + 1, c :: rest =>
    let (token, behind) := next c rest
    token.toList ++ scanWithin bound behind

/-- The tokens of a selector. -/
def scan (selector : String) : List Token :=
  let s := selector.toList
  scanWithin (s.length + 1) s

/-! ## Brackets -/

/-- The bracket that a token opens. -/
def opens? : Token → Option Bracket
  | .function _ => some .round
  | .opening bracket => some bracket
  | _ => none

/-- The brackets that are open behind a token, innermost first. A closing bracket that does not fit
has no effect. -/
def openBehind (pending : List Bracket) (token : Token) : List Bracket :=
  match token, pending with
  | .closing bracket, innermost :: outer => if bracket = innermost then outer else pending
  | _, _ => token.opens?.toList ++ pending

/-- The tokens up to the one behind which no bracket is open, without that one, and what follows it.
-/
def takeOpen : List Bracket → List Token → List Token × List Token
  | _, [] => ([], [])
  | pending, token :: rest =>
    if (openBehind pending token).isEmpty then ([], rest)
    else
      let (inside, behind) := takeOpen (openBehind pending token) rest
      (token :: inside, behind)

/-- The content of a bracket whose opening was read, and what follows its end. -/
def takeBlock (bracket : Bracket) (tokens : List Token) : List Token × List Token :=
  takeOpen [bracket] tokens

/-- What follows a token. With an opening bracket its content and its end are left out too. -/
def skip (token : Token) (rest : List Token) : List Token :=
  match token.opens? with
  | some bracket => (takeBlock bracket rest).2
  | none => rest

/-- The parts of a list between its commas, of which there is at least one. Commas inside brackets
do not count. -/
def alternativesWithin : List Bracket → List Token → List (List Token)
  | _, [] => [[]]
  | pending, token :: rest =>
    if token = .comma ∧ pending = [] then [] :: alternativesWithin pending rest
    else
      match alternativesWithin (openBehind pending token) rest with
      | first :: others => (token :: first) :: others
      | [] => [[token]]

/-- The parts of a list between its commas. -/
def alternatives (tokens : List Token) : List (List Token) :=
  alternativesWithin [] tokens

/-- Whether there are broken tokens or closing brackets without their opening ones. -/
def hasBroken : List Bracket → List Token → Bool
  | _, [] => false
  | pending, token :: rest =>
    let isStray := match token with
      | .closing bracket => pending.head? != some bracket
      | _ => false
    token == .broken || isStray || hasBroken (openBehind pending token) rest

/-- The tokens without blanks in front. -/
def skipBlanks : List Token → List Token
  | .blank :: rest => skipBlanks rest
  | tokens => tokens

end Token

end TreeText.Css
