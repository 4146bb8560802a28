/-
# Formatters

A formatter is called for an element and answers with its text. While it works it may ask for the
content of the element, and for the text of any node, as often as it likes. What it does is a
script: a tree of questions, each followed by what is done with the answer.
-/
import TreeText.Document
import TreeText.Run

namespace TreeText

/-- What a formatter is told about the element it is called for. -/
structure Visit where
  node : Nat
  tag : String
  dataset : Dataset
  depth : Nat
  deriving DecidableEq, Repr

/-- What a formatter does: it ends with its answer, or it asks a question and goes on with what it
is given. A question is for the content of the element, or for the text of a node, of the element
itself where none is named. -/
inductive Script where
  | done (answer : Except ConversionError (Option String))
  | content (next : Except ConversionError String → Script)
  | convert (node : Option Nat) (next : Except ConversionError String → Script)

/-- A formatter, with the label under which its calls are seen. -/
structure Formatter where
  label : String
  script : Document → Visit → Script

namespace Script

/-- Carries out a script. The text of a node is computed by `textOf`. The content of the element is
the given one; where none is given it is the text of the element itself, computed when it is first
asked for and kept from then on. A content that could not be computed is not kept. -/
def run (textOf : Nat → Run String) (self : Nat) : Option String → Script → Run (Option String)
  | _, done answer => do
    Run.note (.answered answer)
    Run.ofExcept answer
  | some text, content next => do
    Run.note (.content (.ok text))
    run textOf self (some text) (next (.ok text))
  | none, content next => do
    match ← (textOf self).attempt with
    | .ok text =>
      Run.note (.content (.ok text))
      run textOf self (some text) (next (.ok text))
    | .error error =>
      Run.note (.content (.error error))
      run textOf self none (next (.error error))
  | given, convert node next => do
    let result ← (textOf (node.getD self)).attempt
    Run.note (.converted (node.getD self) result)
    run textOf self given (next result)

end Script

/-- Calls a formatter for an element. -/
def Formatter.call (formatter : Formatter) (doc : Document) (textOf : Nat → Run String)
    (visit : Visit) (given : Option String) : Run (Option String) := do
  Run.note (.called ⟨formatter.label, visit.node, visit.tag, visit.depth⟩)
  (formatter.script doc visit).run textOf visit.node given

end TreeText
