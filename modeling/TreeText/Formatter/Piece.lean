/-
# Formatters made of pieces

A formatter can be put together from pieces, each of which gives a part of the answer: fixed texts,
what is known of the element, the content, the texts of nodes. The pieces are evaluated from left to
right. The first failure ends the evaluation, unless a piece is tried with a text to use instead.
-/
import TreeText.Formatter

namespace TreeText

/-- A part of an answer. -/
inductive Piece where
  | literal (text : String)
  | content
  | tag
  | depth
  | node
  | kids
  | attribute (name : String) (otherwise : String)
  | dataset
  | convert (target : Option Nat)
  | attempt (piece : Piece) (otherwise : String)
  | noAnswer
  | noAnswerIfEmpty
  | fail (message : String)
  deriving DecidableEq, Repr

/-- What is done with a piece, followed by what is done with its text or its failure. -/
def Piece.script (doc : Document) (visit : Visit) :
    Piece → (Except ConversionError String → Script) → Script
  | .literal text, next => next (.ok text)
  | .content, next => .content next
  | .tag, next => next (.ok visit.tag)
  | .depth, next => next (.ok (toString visit.depth))
  | .node, next => next (.ok (toString visit.node))
  | .kids, next => next (.ok (toString (doc.children visit.node).length))
  | .attribute name otherwise, next => next (.ok ((visit.dataset.get? name).getD otherwise))
  | .dataset, next =>
    next (.ok (String.join
      (visit.dataset.entries.map fun (key, value) => key ++ "=" ++ value ++ ";")))
  | .convert target, next =>
    if target.all (· < doc.size) then .convert target next
    else next (.error (.callback "no such node"))
  | .attempt piece otherwise, next =>
    piece.script doc visit fun
      | .ok text => next (.ok text)
      | .error _ => next (.ok otherwise)
  | .noAnswer, _ => .done (.ok none)
  | .noAnswerIfEmpty, next =>
    .content fun
      | .ok text => if text = "" then .done (.ok none) else next (.ok "")
      | .error error => next (.error error)
  | .fail message, next => next (.error (.callback message))

/-- What is done with a list of pieces behind a text that is ready. -/
def Script.ofPieces (doc : Document) (visit : Visit) : List Piece → String → Script
  | [], ready => .done (.ok (some ready))
  | piece :: pieces, ready =>
    piece.script doc visit fun
      | .ok text => ofPieces doc visit pieces (ready ++ text)
      | .error error => .done (.error error)

/-- The formatter whose answer is made of pieces. -/
def Formatter.ofPieces (label : String) (pieces : List Piece) : Formatter where
  label := label
  script := fun doc visit => Script.ofPieces doc visit pieces ""

end TreeText
