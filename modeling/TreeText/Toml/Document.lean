/-
# TOML documents

A document is a list of statements: a key with its value, the header of a table, the header of an
element in a list of tables. The statements between two headers belong to the first of them.

* `Statement.read` reads the statement at the front of a text.
* `Toml.read` reads a document as the entries of its outermost table, or says which line is wrong.
-/
import TreeText.Toml.Quoted
import TreeText.Toml.Scalar
import TreeText.Toml.Table

namespace TreeText.Toml

/-! ## Between values -/

/-- The text behind the blanks at the front. -/
def skipBlanks (s : List Char) : List Char :=
  s.dropWhile isBlank

/-- The text behind a comment at the front, if there is one; nothing if the comment holds a
character that it must not hold. -/
def skipComment : List Char → Option (List Char)
  | '#' :: rest =>
    match rest.dropWhile isPlain with
    | [] => some []
    | behind => if (newline? behind).isSome then some behind else none
  | s => some s

/-- The text behind blanks, comments and ends of lines. The bound is one on their number. -/
def skipLines : Nat → List Char → Option (List Char)
  | 0, s => some s
  | bound + 1, s =>
    match skipComment (skipBlanks s) with
    | none => none
    | some behind =>
      match newline? behind with
      | some rest => skipLines bound rest
      | none => some behind

/-- What follows the end of a statement: nothing else may stand on its line but a comment. -/
def endLine (s : List Char) : Option (List Char) :=
  match skipComment (skipBlanks s) with
  | none => none
  | some [] => some []
  | some behind => newline? behind

/-! ## Keys -/

/-- Whether a character can be part of a key without quotes. -/
def isInKey (c : Char) : Bool :=
  c.isAlphanum || c == '_' || c == '-'

/-- One part of a key. -/
def readKeyPart : List Char → Option (String × List Char)
  | '"' :: rest => readBasic (rest.length + 1) [] rest
  | '\'' :: rest => readLiteral rest
  | s =>
    match s.takeWhile isInKey with
    | [] => none
    | name => some (String.ofList name, s.drop name.length)

/-- A key: parts with dots between them. The bound is one on their number. -/
def readKey : Nat → List Char → Option (List String × List Char)
  | 0, _ => none
  | bound + 1, s =>
    match readKeyPart (skipBlanks s) with
    | none => none
    | some (part, rest) =>
      match skipBlanks rest with
      | '.' :: behind => (readKey bound behind).map fun (parts, rest) => (part :: parts, rest)
      | behind => some ([part], behind)

/-- A key and what follows the sign of equality behind it. -/
def readAssignment (s : List Char) : Option (List String × List Char) :=
  match readKey s.length s with
  | some (key, '=' :: rest) => some (key, skipBlanks rest)
  | _ => none

/-! ## Values -/

/-- The items of an array up to its closing bracket. -/
def readItems (readValue : List Char → Option (Value × List Char)) :
    Nat → List Char → Option (List Value × List Char)
  | 0, _ => none
  | bound + 1, s =>
    match skipLines s.length s with
    | none => none
    | some (']' :: rest) => some ([], rest)
    | some start =>
      match readValue start with
      | none => none
      | some (value, rest) =>
        match skipLines rest.length rest with
        | some (',' :: behind) =>
          (readItems readValue bound behind).map fun (values, rest) => (value :: values, rest)
        | some (']' :: behind) => some ([value], behind)
        | _ => none

/-- The entries of a table in braces up to its closing brace, added to given ones. -/
def readEntries (readValue : List Char → Option (Value × List Char)) :
    Nat → Items → List Char → Option (Items × List Char)
  | 0, _, _ => none
  | bound + 1, items, s =>
    match skipLines s.length s with
    | none => none
    | some ('}' :: rest) => some (items, rest)
    | some start =>
      match readAssignment start with
      | none => none
      | some (key, rest) =>
        match readValue rest with
        | none => none
        | some (value, behind) =>
          match items.assign value key, skipLines behind.length behind with
          | some items, some (',' :: rest) => readEntries readValue bound items rest
          | some items, some ('}' :: rest) => some (items, rest)
          | _, _ => none

/-- The quoted or unquoted text at the front as a value. -/
def readScalar (s : List Char) : Option (Value × List Char) :=
  match readQuoted? s with
  | some reading => reading.map fun (content, rest) => (.text content, rest)
  | none =>
    let word := wordOf s
    (readWord word).map fun value => (value, s.drop word.length)

/-- The value at the front, with arrays and tables in braces nested at most so deeply. -/
def readValue : Nat → List Char → Option (Value × List Char)
  | 0, s => readScalar s
  | depth + 1, s =>
    match s with
    | '[' :: rest =>
      (readItems (readValue depth) s.length rest).map fun (items, rest) => (.array items, rest)
    | '{' :: rest =>
      (readEntries (readValue depth) s.length [] rest).map fun (items, rest) =>
        (.table (Item.entriesOf items), rest)
    | _ => readScalar s

/-- How deeply arrays and tables in braces may be nested. -/
def deepestNesting : Nat := 80

/-! ## Statements -/

/-- A statement of a document. -/
inductive Statement where
  | assignment (key : List String) (value : Value)
  | table (path : List String)
  | element (path : List String)

/-- The statement at the front and what follows the line on which it ends. -/
def Statement.read (s : List Char) : Option (Statement × List Char) :=
  match s with
  | '[' :: '[' :: rest =>
    match readKey s.length rest with
    | some (path, ']' :: ']' :: behind) =>
      (endLine behind).map fun rest => (.element path, rest)
    | _ => none
  | '[' :: rest =>
    match readKey s.length rest with
    | some (path, ']' :: behind) => (endLine behind).map fun rest => (.table path, rest)
    | _ => none
  | _ =>
    match readAssignment s with
    | none => none
    | some (key, rest) =>
      match readValue deepestNesting rest with
      | none => none
      | some (value, behind) =>
        (endLine behind).map fun rest => (.assignment key value, rest)

/-- What is there after a statement: the entries, and the path of the latest header. -/
def Statement.apply (path : List String) (items : Items) :
    Statement → Option (List String × Items)
  | .assignment key value =>
    (items.along (Items.assign value key) path).map fun items => (path, items)
  | .table path => (items.openTable path).map fun items => (path, items)
  | .element path => (items.addElement path).map fun items => (path, items)

/-! ## Documents -/

/-- Why a text is no document: a line cannot be read, or it repeats what was said before. -/
inductive Fault where
  | malformed (line : Nat)
  | repeated (line : Nat)
  deriving DecidableEq, Repr

/-- The wording of a fault. -/
def Fault.message : Fault → String
  | malformed line => "line " ++ toString line ++ " cannot be read"
  | repeated line => "line " ++ toString line ++ " repeats a key"

/-- The entries of a document from a text on, with what is there already. The bound is one on the
number of statements. -/
def readFrom (lineOf : List Char → Nat) :
    Nat → List String → Items → List Char → Except Fault Items
  | 0, _, items, _ => .ok items
  | bound + 1, path, items, s =>
    match skipLines s.length s with
    | none => .error (.malformed (lineOf s))
    | some [] => .ok items
    | some start =>
      match Statement.read start with
      | none => .error (.malformed (lineOf start))
      | some (statement, rest) =>
        match statement.apply path items with
        | none => .error (.repeated (lineOf start))
        | some (path, items) => readFrom lineOf bound path items rest

/-- The entries of the document that a text is. A mark of byte order at its front is no part of
it. -/
def read (document : String) : Except Fault (List (String × Value)) :=
  let s := match document.toList with
    | '\ufeff' :: rest => rest
    | s => s
  let lineOf (rest : List Char) : Nat := (s.take (s.length - rest.length)).count '\n' + 1
  (readFrom lineOf (s.length + 1) [] [] s).map Item.entriesOf

end TreeText.Toml
