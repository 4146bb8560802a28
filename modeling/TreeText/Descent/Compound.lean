/-
# Compounds

A compound tests one element: an optional type, and any number of qualifiers for a class, an
identifier or the presence of an attribute. It is written as in `a.ext#top[href]`.

* `Compound.read?` reads a word from its front to its end.
* `Compound.searched?` tests the form of a word first and then looks for the qualifiers in it, and
  `Compound.sorted?` sorts what it finds by kind, as `Compound.names` does with a compound.
-/
import TreeText.Document
import TreeText.Text.WordChar

namespace TreeText.Descent

open Text

/-! ## Qualifiers -/

/-- A test of one attribute of an element. -/
inductive Qualifier where
  | hasClass (name : String)
  | hasId (name : String)
  | hasAttribute (name : String)
  deriving DecidableEq, Repr

namespace Qualifier

/-- Whether an element with these attributes passes the test. -/
def holds (dataset : Dataset) : Qualifier → Bool
  | hasClass name => dataset.classes.contains name
  | hasId name => dataset.get? "id" == some name
  | hasAttribute name => dataset.contains name

/-- A name at the front of a text, and what follows it. -/
def name? (s : List Char) : Option (String × List Char) :=
  match s.takeWhile isNameChar with
  | [] => none
  | c :: cs => some (String.ofList (c :: cs), s.dropWhile isNameChar)

/-- A qualifier at the front of a text, and what follows it. -/
def read? : List Char → Option (Qualifier × List Char)
  | '.' :: rest => (name? rest).map fun (name, rest) => (hasClass name, rest)
  | '#' :: rest => (name? rest).map fun (name, rest) => (hasId name, rest)
  | '[' :: rest =>
    match name? rest with
    | some (name, ']' :: rest) => some (hasAttribute name, rest)
    | _ => none
  | _ => none

/-- What follows a name is no longer than the text. -/
theorem length_le_of_name? {s rest : List Char} {name : String} (h : name? s = some (name, rest)) :
    rest.length ≤ s.length := by
  unfold name? at h
  split at h
  · simp at h
  · cases h
    exact (List.dropWhile_suffix _).length_le

/-- A qualifier takes at least one character. -/
theorem length_lt_of_read? {s rest : List Char} {qualifier : Qualifier}
    (h : read? s = some (qualifier, rest)) : rest.length < s.length := by
  unfold read? at h
  split at h
  · obtain ⟨⟨name, r⟩, hn, he⟩ := Option.map_eq_some_iff.1 h
    cases he
    exact Nat.lt_succ_of_le (length_le_of_name? hn)
  · obtain ⟨⟨name, r⟩, hn, he⟩ := Option.map_eq_some_iff.1 h
    cases he
    exact Nat.lt_succ_of_le (length_le_of_name? hn)
  · split at h
    · next hn =>
      cases h
      have := length_le_of_name? hn
      simp only [List.length_cons] at this ⊢
      omega
    · simp at h
  · simp at h

/-- The qualifiers that a text consists of, if it consists of nothing else. -/
def readAll? : List Char → Option (List Qualifier)
  | [] => some []
  | c :: cs =>
    match h : read? (c :: cs) with
    | some (qualifier, rest) =>
      have : rest.length < (c :: cs).length := length_lt_of_read? h
      (readAll? rest).map (qualifier :: ·)
    | none => none
termination_by s => s.length
decreasing_by exact this

/-- What a scan for qualifiers finds in a text: it takes a qualifier where one begins and goes on
behind it, and passes over a character where none does. -/
def found : List Char → List Qualifier
  | [] => []
  | c :: cs =>
    match h : read? (c :: cs) with
    | some (qualifier, rest) =>
      have : rest.length < (c :: cs).length := length_lt_of_read? h
      qualifier :: found rest
    | none => found cs
termination_by s => s.length
decreasing_by
  · exact this
  · exact Nat.lt_succ_self cs.length

/-- The class that a qualifier asks for, if it is for a class. -/
def class? : Qualifier → Option String
  | hasClass name => some name
  | _ => none

/-- The identifier that a qualifier asks for, if it is for an identifier. -/
def id? : Qualifier → Option String
  | hasId name => some name
  | _ => none

/-- The attribute that a qualifier asks for, if it is for an attribute. -/
def attribute? : Qualifier → Option String
  | hasAttribute name => some name
  | _ => none

end Qualifier

/-! ## Names by kind -/

/-- Names that are asked for, those of classes, of identifiers and of attributes each for
themselves. -/
structure Names where
  classes : List String
  ids : List String
  attributes : List String
  deriving DecidableEq, Repr

namespace Names

/-- No names. -/
def empty : Names := ⟨[], [], []⟩

/-- The names with that of one more qualifier, behind those of its kind. -/
def add (names : Names) : Qualifier → Names
  | .hasClass name => { names with classes := names.classes ++ [name] }
  | .hasId name => { names with ids := names.ids ++ [name] }
  | .hasAttribute name => { names with attributes := names.attributes ++ [name] }

/-- Qualifiers that ask for the names: classes first, then identifiers, then attributes. -/
def qualifiers (names : Names) : List Qualifier :=
  names.classes.map .hasClass ++ names.ids.map .hasId ++ names.attributes.map .hasAttribute

end Names

/-! ## Compounds -/

/-- A test of one element: its type, if one is asked for, in lower case, and its qualifiers. -/
structure Compound where
  tag : Option String
  qualifiers : List Qualifier
  deriving DecidableEq, Repr

namespace Compound

/-- The type at the front of a compound, if any, and what follows it. A star asks for no type. -/
def readType : List Char → Option String × List Char
  | '*' :: rest => (none, rest)
  | c :: rest =>
    if c.isAlpha then
      (some (String.ofList ((c :: rest.takeWhile isNameChar).map Char.toLower)),
        rest.dropWhile isNameChar)
    else (none, c :: rest)
  | [] => (none, [])

/-- The compound that a word writes, if any. -/
def read? (word : List Char) : Option Compound :=
  let (tag, rest) := readType word
  (Qualifier.readAll? rest).map fun qualifiers => ⟨tag, qualifiers⟩

/-- The compound of a word whose form is tested first, and whose qualifiers are then looked for
behind its type. -/
def searched? (word : List Char) : Option Compound :=
  let (tag, rest) := readType word
  if (Qualifier.readAll? rest).isSome then some ⟨tag, Qualifier.found rest⟩ else none

/-- The type and the names of such a word: when a qualifier is found, its name is put behind those of
its kind. -/
def sorted? (word : List Char) : Option (Option String × Names) :=
  (searched? word).map fun compound =>
    (compound.tag, compound.qualifiers.foldl Names.add .empty)

/-- The names that a compound asks for. -/
def names (compound : Compound) : Names where
  classes := compound.qualifiers.filterMap Qualifier.class?
  ids := compound.qualifiers.filterMap Qualifier.id?
  attributes := compound.qualifiers.filterMap Qualifier.attribute?

/-- Whether a node is an element that passes the tests. Types are compared without regard to the
case of ASCII letters. -/
def holds (compound : Compound) (doc : Document) (node : Nat) : Bool :=
  match doc.content? node with
  | some (.element tag dataset) =>
    compound.tag.all (fun wanted => wanted.toLower == tag.toLower) &&
      compound.qualifiers.all (Qualifier.holds dataset)
  | _ => false

end Compound

end TreeText.Descent
