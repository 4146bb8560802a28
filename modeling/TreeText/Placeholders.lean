/-
# Placeholders

An ordered list of replacements for a finished text. Each pattern is listed once, where it was first
put in, with the replacement that was given for it last.
-/
import TreeText.Text.Replace

namespace TreeText

/-- A pattern and the text that takes its place. -/
structure Placeholder where
  pattern : String
  replacement : String
  deriving DecidableEq, Repr

/-- The text with all occurrences of the pattern replaced. An empty pattern is passed over, and a
text in which the pattern does not occur is left alone. -/
def Placeholder.apply (placeholder : Placeholder) (text : String) : String :=
  if placeholder.pattern = "" then text
  else if Text.occurs placeholder.pattern text then
    Text.replace placeholder.pattern placeholder.replacement text
  else text

/-- An ordered list of placeholders. -/
structure Placeholders where
  toList : List Placeholder
  deriving DecidableEq, Repr

namespace Placeholders

/-- No placeholders. -/
def empty : Placeholders := ⟨[]⟩

/-- The list with a placeholder put in: in the place of the one with its pattern, or else last. -/
def put (placeholder : Placeholder) : List Placeholder → List Placeholder
  | [] => [placeholder]
  | first :: rest =>
    if first.pattern = placeholder.pattern then placeholder :: rest
    else first :: put placeholder rest

/-- The placeholders with one put in. -/
def insert (placeholders : Placeholders) (placeholder : Placeholder) : Placeholders :=
  ⟨put placeholder placeholders.toList⟩

/-- The placeholders with a list of them put in, one after the other. -/
def insertAll (placeholders : Placeholders) (list : List Placeholder) : Placeholders :=
  list.foldl insert placeholders

/-- The text after each placeholder was applied once, in their order. -/
def apply (placeholders : Placeholders) (text : String) : String :=
  placeholders.toList.foldl (fun text placeholder => placeholder.apply text) text

/-- The number of placeholders. -/
def size (placeholders : Placeholders) : Nat :=
  placeholders.toList.length

/-- Nothing is replaced where there are no placeholders. -/
theorem apply_empty (text : String) : empty.apply text = text := rfl

/-- The patterns are those that were there, and the new one last if it was not among them. -/
theorem patterns_put (placeholder : Placeholder) (list : List Placeholder) :
    (put placeholder list).map (·.pattern) =
      if placeholder.pattern ∈ list.map (·.pattern) then list.map (·.pattern)
      else list.map (·.pattern) ++ [placeholder.pattern] := by
  induction list with
  | nil => simp [put]
  | cons first rest ih =>
    unfold put
    split
    · next h => simp [h]
    · next h =>
      have h' : ¬ placeholder.pattern = first.pattern := fun e => h e.symm
      simp only [List.map_cons, ih, List.mem_cons, h', false_or]
      split <;> simp

end Placeholders

end TreeText
