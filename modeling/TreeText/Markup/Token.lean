/-
# Markup tokens

A page is read as a sequence of tokens: tags, comments, document types, and characters. Which token
comes next depends on the element that is read: in some, all is text up to the end tag.

* `Token.next` reads the tokens at the front of a page. Nothing is refused; where a page breaks the
  rules of the language in a way that counts, a token says so.
-/
import TreeText.Markup.Reference
import TreeText.Markup.Script
import TreeText.Markup.Tag

namespace TreeText.Markup

/-- A piece of a page. A run of characters is blank throughout or not blank at all. -/
inductive Token where
  | doctype (isOlder : Bool)
  | comment
  | startTag (tag : Tag)
  | endTag (name : String)
  | chars (isBlank : Bool) (text : String)
  | null
  | fault
  | ending
  deriving DecidableEq, Repr

/-- How the page is read at a place: as markup, or as the text of an element up to its end tag, with
or without references, or to the end of the page. -/
inductive Reading where
  | markup
  | references (tag : String)
  | raw (tag : String)
  | script
  | toEnd
  deriving DecidableEq, Repr

namespace Token

/-! ## Characters -/

/-- The page with every line end written as a line feed. -/
def unifyLines (page : List Char) : List Char :=
  let unified := page.foldl
    (fun (done, afterReturn) c =>
      if c == '\r' then ('\n' :: done, true)
      else if c == '\n' && afterReturn then (done, false)
      else (c :: done, false))
    (([] : List Char), false)
  unified.1.reverse

/-- Whether a character of a text is blank. A carriage return is there only if it is written as a
reference. -/
def isBlank (c : Char) : Bool :=
  Doctype.isSpace c || c == '\r'

/-- A text as runs of blank and of other characters. -/
def ofText (s : List Char) : List Token :=
  (s.splitBy fun a b => isBlank a == isBlank b).map fun run =>
    .chars (run.head?.any isBlank) (String.ofList run)

/-! ## Tags -/

/-- A name with its ASCII letters in lower case. -/
def nameOf (s : List Char) : String :=
  String.ofList ((Doctype.replaceNull s).map Char.toLower)

/-- The value that characters write. -/
def valueOf (s : List Char) : String :=
  String.ofList (Reference.decode (Doctype.replaceNull s))

/-- A value whose opening quote was read, and what follows it. Nothing if the page ends inside. -/
def readQuoted? (quote : Char) (s : List Char) : Option (String × List Char) :=
  match s.dropWhile (· != quote) with
  | _ :: behind => some (valueOf (s.takeWhile (· != quote)), behind)
  | [] => none

/-- The value of an attribute behind the equals sign and blanks, and what follows it. Nothing if the
page ends inside the value. -/
def readValue? : List Char → Option (String × List Char)
  | '"' :: rest => readQuoted? '"' rest
  | '\'' :: rest => readQuoted? '\'' rest
  | s =>
    let inValue (c : Char) : Bool := !(Doctype.isSpace c || c == '>')
    some (valueOf (s.takeWhile inValue), s.dropWhile inValue)

/-- Whether a text goes on with the end of a tag that has no content. -/
def closes : List Char → Bool
  | '/' :: '>' :: _ => true
  | '/' :: rest => closes rest
  | c :: rest => Doctype.isSpace c && closes rest
  | [] => false

/-- The attributes up to the end of a tag, whether the tag has no content, and what follows it. Of a
repeated name only the first attribute is kept. Nothing if the page ends inside the tag. The bound
is one on the number of attributes. -/
def readAttributes? : Nat → List Attribute → List Char →
    Option (List Attribute × Bool × List Char)
  | 0, _, _ => none
  | bound + 1, done, s =>
    match s.dropWhile (fun c => Doctype.isSpace c || c == '/') with
    | [] => none
    | '>' :: rest => some (done.reverse, closes s, rest)
    | c :: rest =>
      let inName (c : Char) : Bool := !(endsName c || c == '=')
      let name := nameOf (c :: rest.takeWhile inName)
      let keep (value : String) : List Attribute :=
        if done.any (·.name == name) then done else ⟨name, value, true⟩ :: done
      match (rest.dropWhile inName).dropWhile Doctype.isSpace with
      | '=' :: behind =>
        match readValue? (behind.dropWhile Doctype.isSpace) with
        | some (value, rest) => readAttributes? bound (keep value) rest
        | none => none
      | behind => readAttributes? bound (keep "") behind

/-- The tag at the front, and what follows it. Nothing if the page ends inside the tag. -/
def readTag? (s : List Char) : Option (Tag × List Char) :=
  let name := s.takeWhile (!endsName ·)
  let rest := s.drop name.length
  (readAttributes? (rest.length + 1) [] rest).map fun (attributes, isClosed, behind) =>
    (⟨nameOf name, attributes, isClosed⟩, behind)

/-- The end tag behind its bracket and slash, and what follows it. -/
def readEndTag (s : List Char) : List Token × List Char :=
  match readTag? s with
  | some (tag, behind) => ([.endTag tag.name], behind)
  | none => ([], [])

/-! ## Comments, document types, and text -/

/-- What follows a comment whose opening was read. -/
def skipComment : List Char → List Char
  | '-' :: '-' :: '>' :: rest => rest
  | '-' :: '-' :: '!' :: '>' :: rest => rest
  | _ :: rest => skipComment rest
  | [] => []

/-- The content of a part whose characters stand for themselves, up to the end of the part, and what
follows it. -/
def readPlainPart (done : List Char) : List Char → List Char × List Char
  | ']' :: ']' :: '>' :: rest => (done.reverse, rest)
  | c :: rest => readPlainPart (c :: done) rest
  | [] => (done.reverse, [])

/-- The runs of a text in which null characters are tokens. -/
def ofTextWithNulls (s : List Char) : List Token :=
  (s.splitBy fun a b => a != '\x00' && b != '\x00').flatMap fun run =>
    if run == ['\x00'] then [.null] else ofText run

/-- The tokens behind `<!`, and what follows them. A part with characters that stand for themselves
is read only in an element of another vocabulary. -/
def readDeclaration (inForeign : Bool) (s : List Char) : List Token × List Char :=
  match s with
  | '-' :: '-' :: '>' :: rest => ([.comment], rest)
  | '-' :: '-' :: '-' :: '>' :: rest => ([.comment], rest)
  | '-' :: '-' :: rest => ([.comment], skipComment rest)
  | _ =>
    if Doctype.beginsWord "doctype" s then
      let (declared, behind) := Doctype.read (s.drop 7)
      ([.doctype declared.isOlder], behind)
    else if inForeign && s.take 7 == "[CDATA[".toList then
      let (content, behind) := readPlainPart [] (s.drop 7)
      (ofTextWithNulls content, behind)
    else ([.comment], Doctype.skipTag s)

/-- The tokens of what an ampersand begins, and what follows it. -/
def readReference (s : List Char) : List Token × List Char :=
  match Reference.read? false s with
  | some reference =>
    let tokens := ofText reference.content
    (if reference.isClosed then tokens else .fault :: tokens, s.drop reference.length)
  | none => ([.chars false "&"], s)

/-- The tokens of what a bracket begins, and what follows them. -/
def readBracket (inForeign : Bool) (s : List Char) : List Token × List Char :=
  match s with
  | '!' :: rest => readDeclaration inForeign rest
  | '?' :: rest => ([.comment], Doctype.skipTag rest)
  | ['/'] => ([.chars false "</"], [])
  | '/' :: '>' :: rest => ([.fault], rest)
  | '/' :: c :: rest =>
    if c.isAlpha then readEndTag (c :: rest) else ([.comment], Doctype.skipTag (c :: rest))
  | _ =>
    if s.head?.any Char.isAlpha then
      match readTag? s with
      | some (tag, behind) => ([.startTag tag], behind)
      | none => ([], [])
    else ([.chars false "<"], s)

/-! ## The next tokens -/

/-- The tokens at the front of markup, and what follows them. -/
def nextInMarkup (inForeign : Bool) (s : List Char) : List Token × List Char :=
  match s with
  | [] => ([], [])
  | '\x00' :: rest => ([.null], rest)
  | '&' :: rest => readReference rest
  | '<' :: rest => readBracket inForeign rest
  | _ =>
    let text := s.takeWhile fun c => c != '\x00' && c != '&' && c != '<'
    (ofText text, s.drop text.length)

/-- The tokens at the front of a text with references up to an end tag, and what follows them. -/
def nextInReferences (tag : String) (s : List Char) : List Token × List Char :=
  match s with
  | '&' :: rest => readReference rest
  | _ =>
    if beginsEndTag tag s then readEndTag (s.drop 2)
    else
      let content := ((rawContent tag [] s).1.reverse).takeWhile (· != '&')
      (ofText (Doctype.replaceNull content), s.drop content.length)

/-- The tokens of a content without markup and of its end tag. -/
def ofContent (content : List Char × List Char) : List Token × List Char :=
  let text := ofText (Doctype.replaceNull content.1.reverse)
  match content.2 with
  | [] => (text, [])
  | s =>
    let (tokens, behind) := readEndTag (s.drop 2)
    (text ++ tokens, behind)

/-- The tokens at the front of a page, and what follows them. If the page is not empty, what follows
is shorter. -/
def next (reading : Reading) (inForeign : Bool) (s : List Char) : List Token × List Char :=
  match reading with
  | .markup => nextInMarkup inForeign s
  | .references tag => nextInReferences tag s
  | .raw tag => ofContent (rawContent tag [] s)
  | .script => ofContent (scriptContent s.length .plain [] s)
  | .toEnd => (ofText (Doctype.replaceNull s), [])

end Token

end TreeText.Markup
