/-
# Text without markup

The content of some elements is text in which tags count for nothing but the end tag of the element
itself. In a script, a part between the signs of a comment is set apart: a start tag of a script in
it takes the next end tag as its own.

* `rawContent` and `scriptContent` cut such a content off.
-/
import TreeText.Markup.Doctype

namespace TreeText.Markup

/-- Whether a character ends a tag's name or an attribute's name. -/
def endsName (c : Char) : Bool :=
  Doctype.isSpace c || c == '/' || c == '>'

/-- Whether a word is at the front in letters of any case, with the end of a name behind it. -/
def beginsName (word : String) (s : List Char) : Bool :=
  Doctype.beginsWord word s && (s.drop word.length).head?.any endsName

/-- Whether the text begins with the end tag of an element. -/
def beginsEndTag (tag : String) : List Char → Bool
  | '<' :: '/' :: rest => beginsName tag rest
  | _ => false

/-- The content of an element up to its end tag, last character first, and the page from there on.
-/
def rawContent (tag : String) (done : List Char) : List Char → List Char × List Char
  | [] => (done, [])
  | c :: rest =>
    if beginsEndTag tag (c :: rest) then (done, c :: rest)
    else rawContent tag (c :: done) rest

/-! ## Scripts -/

/-- Where in a script a character stands: in its plain part, in a part that is set apart, or in a
script inside such a part, and behind how many dashes in a row. -/
inductive ScriptPlace where
  | plain
  | apart (dashes : Nat)
  | inner (dashes : Nat)
  deriving DecidableEq, Repr

namespace ScriptPlace

/-- Whether an end tag ends the script here. -/
def canEnd : ScriptPlace → Bool
  | .inner _ => false
  | _ => true

/-- The place behind a character, of which no tag is part. -/
def next (place : ScriptPlace) (c : Char) : ScriptPlace :=
  match place with
  | .plain => .plain
  | .apart dashes =>
    if c == '-' then .apart (dashes + 1)
    else if c == '>' && dashes ≥ 2 then .plain
    else .apart 0
  | .inner dashes =>
    if c == '-' then .inner (dashes + 1)
    else if c == '>' && dashes ≥ 2 then .plain
    else .inner 0

/-- What changes the place at the front: the number of its characters, and the place behind it. -/
def turn? (place : ScriptPlace) (s : List Char) : Option (Nat × ScriptPlace) :=
  match place with
  | .plain => if s.take 4 == "<!--".toList then some (4, .apart 2) else none
  | .apart _ => if s.head? == some '<' && beginsName "script" (s.drop 1) then some (8, .inner 0)
    else none
  | .inner _ => if beginsEndTag "script" s then some (9, .apart 0) else none

end ScriptPlace

/-- The content of a script up to its end tag, last character first, and the page from there on. The
bound is one on the number of characters. -/
def scriptContent : Nat → ScriptPlace → List Char → List Char → List Char × List Char
  | 0, _, done, s => (done, s)
  | bound + 1, place, done, s =>
    match s with
    | [] => (done, [])
    | c :: rest =>
      if place.canEnd && beginsEndTag "script" (c :: rest) then (done, c :: rest)
      else
        match place.turn? (c :: rest) with
        | some (count, behind) =>
          scriptContent bound behind (((c :: rest).take count).reverse ++ done)
            ((c :: rest).drop count)
        | none => scriptContent bound (place.next c) (c :: done) rest

end TreeText.Markup
