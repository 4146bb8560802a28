/-
# Replacing a pattern

The leftmost occurrences of a pattern that do not overlap are replaced from left to right. Text that
was put in is not looked at again.
-/
import TreeText.Text.Strip

namespace TreeText.Text

/-- Whether a pattern occurs anywhere in a text. -/
def occursIn (pattern : List Char) : List Char → Bool
  | [] => pattern.isEmpty
  | c :: cs => pattern.isPrefixOf (c :: cs) || occursIn pattern cs

/-- Whether a pattern occurs anywhere in a text. -/
def occurs (pattern s : String) : Bool :=
  occursIn pattern.toList s.toList

/-- The text with the pattern `p :: ps` replaced wherever a scan from the left meets it. -/
def replaceFrom (p : Char) (ps replacement : List Char) : List Char → List Char
  | [] => []
  | c :: cs =>
    match h : (p :: ps).isPrefixOf? (c :: cs) with
    | some rest =>
      have : rest.length < (c :: cs).length := length_lt_of_isPrefixOf? h
      replacement ++ replaceFrom p ps replacement rest
    | none => c :: replaceFrom p ps replacement cs
termination_by s => s.length
decreasing_by
  · exact this
  · exact Nat.lt_succ_self cs.length

/-- An occurrence in front is replaced, and the scan goes on behind it. -/
theorem replaceFrom_occurrence {p : Char} {ps replacement s rest : List Char}
    (h : (p :: ps).isPrefixOf? s = some rest) :
    replaceFrom p ps replacement s = replacement ++ replaceFrom p ps replacement rest := by
  cases s with
  | nil => simp [isPrefixOf?_nil_right] at h
  | cons c cs =>
    rw [replaceFrom]
    split
    · next rest' h' => rw [h] at h'; cases h'; rfl
    · next h' => rw [h] at h'; cases h'

/-- Where no occurrence is in front, one character is kept. -/
theorem replaceFrom_other {p : Char} {ps replacement : List Char} {c : Char} {cs : List Char}
    (h : (p :: ps).isPrefixOf? (c :: cs) = none) :
    replaceFrom p ps replacement (c :: cs) = c :: replaceFrom p ps replacement cs := by
  rw [replaceFrom]
  split
  · next rest' h' => rw [h] at h'; cases h'
  · rfl

/-- The text with a pattern replaced; an empty pattern occurs nowhere. -/
def replaceChars (pattern replacement : List Char) (s : List Char) : List Char :=
  match pattern with
  | [] => s
  | p :: ps => replaceFrom p ps replacement s

/-- The text with a pattern replaced; an empty pattern occurs nowhere. -/
def replace (pattern replacement s : String) : String :=
  String.ofList (replaceChars pattern.toList replacement.toList s.toList)

end TreeText.Text
