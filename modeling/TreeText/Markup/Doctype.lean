/-
# Document types

The declaration of a document type has a name and may have a public and a system identifier. From it
follows whether a page is read by the older rules, by which a table may stand inside a paragraph.

* `Doctype.read` reads a declaration, whole or broken.
* `Doctype.isOlder` says whether it asks for the older rules.
-/

namespace TreeText.Markup

/-- What a declaration says. One that is broken is marked. -/
structure Doctype where
  name : String
  publicId : Option String
  systemId : Option String
  isBroken : Bool
  deriving DecidableEq, Repr

namespace Doctype

/-! ## Older rules -/

/-- Public identifiers of the older rules. -/
def olderPublicIds : List String := [
  "-//w3o//dtd w3 html strict 3.0//en//", "-/w3c/dtd html 4.0 transitional/en", "html"]

/-- The system identifier of the older rules. -/
def olderSystemId : String :=
  "http:" ++ "//www.ibm.com/data/dtd/v11/ibmxhtml1-transitional.dtd"

/-- The beginnings of public identifiers of the older rules. -/
def olderBeginnings : List String := [
  "-//advasoft ltd//dtd html 3.0 aswedit + extensions//",
  "-//as//dtd html 3.0 aswedit + extensions//",
  "-//ietf//dtd html 2.0 level 1//", "-//ietf//dtd html 2.0 level 2//",
  "-//ietf//dtd html 2.0 strict level 1//", "-//ietf//dtd html 2.0 strict level 2//",
  "-//ietf//dtd html 2.0 strict//", "-//ietf//dtd html 2.0//", "-//ietf//dtd html 2.1e//",
  "-//ietf//dtd html 3.0//", "-//ietf//dtd html 3.2 final//", "-//ietf//dtd html 3.2//",
  "-//ietf//dtd html 3//", "-//ietf//dtd html level 0//", "-//ietf//dtd html level 1//",
  "-//ietf//dtd html level 2//", "-//ietf//dtd html level 3//",
  "-//ietf//dtd html strict level 0//", "-//ietf//dtd html strict level 1//",
  "-//ietf//dtd html strict level 2//", "-//ietf//dtd html strict level 3//",
  "-//ietf//dtd html strict//", "-//ietf//dtd html//",
  "-//metrius//dtd metrius presentational//",
  "-//microsoft//dtd internet explorer 2.0 html strict//",
  "-//microsoft//dtd internet explorer 2.0 html//",
  "-//microsoft//dtd internet explorer 2.0 tables//",
  "-//microsoft//dtd internet explorer 3.0 html strict//",
  "-//microsoft//dtd internet explorer 3.0 html//",
  "-//microsoft//dtd internet explorer 3.0 tables//",
  "-//netscape comm. corp.//dtd html//", "-//netscape comm. corp.//dtd strict html//",
  "-//o'reilly and associates//dtd html 2.0//",
  "-//o'reilly and associates//dtd html extended 1.0//",
  "-//o'reilly and associates//dtd html extended relaxed 1.0//",
  "-//softquad software//dtd hotmetal pro 6.0::19990601::extensions to html 4.0//",
  "-//softquad//dtd hotmetal pro 4.0::19971010::extensions to html 4.0//",
  "-//spyglass//dtd html 2.0 extended//", "-//sq//dtd html 2.0 hotmetal + extensions//",
  "-//sun microsystems corp.//dtd hotjava html//",
  "-//sun microsystems corp.//dtd hotjava strict html//",
  "-//w3c//dtd html 3 1995-03-24//", "-//w3c//dtd html 3.2 draft//",
  "-//w3c//dtd html 3.2 final//", "-//w3c//dtd html 3.2//", "-//w3c//dtd html 3.2s draft//",
  "-//w3c//dtd html 4.0 frameset//", "-//w3c//dtd html 4.0 transitional//",
  "-//w3c//dtd html experimental 19960712//", "-//w3c//dtd html experimental 970421//",
  "-//w3c//dtd w3 html//", "-//w3o//dtd w3 html 3.0//", "-//webtechs//dtd mozilla html 2.0//",
  "-//webtechs//dtd mozilla html//"]

/-- The beginnings of public identifiers of the older rules where there is no system identifier. -/
def olderAloneBeginnings : List String := [
  "-//w3c//dtd html 4.01 frameset//", "-//w3c//dtd html 4.01 transitional//"]

/-- Whether an identifier has one of the beginnings. -/
def hasBeginning (beginnings : List String) (identifier : String) : Bool :=
  beginnings.any fun beginning => beginning.toList.isPrefixOf identifier.toList

/-- Whether a page with this document type is read by the older rules. Identifiers are compared
without regard to the case of letters. -/
def isOlder (doctype : Doctype) : Bool :=
  let publicId := (doctype.publicId.map String.toLower).getD ""
  doctype.isBroken || doctype.name != "html" || olderPublicIds.contains publicId ||
    doctype.systemId.any (·.toLower == olderSystemId) ||
    hasBeginning olderBeginnings publicId ||
    (doctype.systemId.isNone && hasBeginning olderAloneBeginnings publicId)

/-! ## Reading -/

/-- Whether a character is blank in markup: a tab, a line feed, a form feed or a space. -/
def isSpace (c : Char) : Bool :=
  c == ' ' || c == '\n' || c == '\t' || c == '\x0c'

/-- The characters with the replacement character in the place of null characters. -/
def replaceNull (s : List Char) : List Char :=
  s.map fun c => if c == '\x00' then '\ufffd' else c

/-- What follows the next closing bracket. -/
def skipTag (s : List Char) : List Char :=
  (s.dropWhile (· != '>')).drop 1

/-- The declaration, and what follows it. -/
abbrev Reading := Doctype × List Char

/-- A declaration that is broken from here on. -/
def broken (doctype : Doctype) (s : List Char) : Reading :=
  ({ doctype with isBroken := true }, skipTag s)

/-- An identifier whose opening quote was read. Nothing if the declaration ends inside it. -/
def readQuoted? (quote : Char) (s : List Char) : Option (String × List Char) :=
  let inside := s.takeWhile fun c => c != quote && c != '>'
  match s.drop inside.length with
  | c :: rest => if c == quote then some (String.ofList (replaceNull inside), rest) else none
  | [] => none

/-- The end of a declaration behind its last identifier. What stands there does not count. -/
def readEnd (doctype : Doctype) (s : List Char) : Reading :=
  (doctype, skipTag s)

/-- A system identifier whose opening quote was read, and the end. -/
def readSystem (doctype : Doctype) (quote : Char) (s : List Char) : Reading :=
  match readQuoted? quote s with
  | some (identifier, rest) => readEnd { doctype with systemId := some identifier } rest
  | none => doctype.broken s

/-- The rest of a declaration behind its public identifier. -/
def readBehindPublic (doctype : Doctype) (s : List Char) : Reading :=
  match s.dropWhile isSpace with
  | '>' :: rest => (doctype, rest)
  | '"' :: rest => readSystem doctype '"' rest
  | '\'' :: rest => readSystem doctype '\'' rest
  | rest => doctype.broken rest

/-- A public identifier whose opening quote was read, and what follows it. -/
def readPublic (doctype : Doctype) (quote : Char) (s : List Char) : Reading :=
  match readQuoted? quote s with
  | some (identifier, rest) => readBehindPublic { doctype with publicId := some identifier } rest
  | none => doctype.broken s

/-- What follows the word for one of the identifiers. -/
def readIdentifier (doctype : Doctype)
    (inQuotes : Doctype → Char → List Char → Reading) (s : List Char) : Reading :=
  match s.dropWhile isSpace with
  | '"' :: rest => inQuotes doctype '"' rest
  | '\'' :: rest => inQuotes doctype '\'' rest
  | rest => doctype.broken rest

/-- Whether a word is at the front, in letters of any case. -/
def beginsWord (word : String) (s : List Char) : Bool :=
  (s.take word.length).map Char.toLower == word.toList

/-- The declaration behind its first word, and what follows the declaration. -/
def read (s : List Char) : Reading :=
  let s := s.dropWhile isSpace
  let name := s.takeWhile fun c => !(isSpace c || c == '>')
  let doctype : Doctype :=
    ⟨String.ofList ((replaceNull name).map Char.toLower), none, none, name.isEmpty⟩
  match (s.drop name.length).dropWhile isSpace with
  | '>' :: rest => (doctype, rest)
  | rest =>
    if beginsWord "public" rest then readIdentifier doctype readPublic (rest.drop 6)
    else if beginsWord "system" rest then readIdentifier doctype readSystem (rest.drop 6)
    else doctype.broken rest

end Doctype

end TreeText.Markup
