/-
# Stripping a prefix

What is left of a text behind a given beginning, with the facts that readers need to go on: the text
is the beginning followed by the rest, and the rest is no longer than the text.
-/

namespace TreeText.Text

/-- Nothing is stripped from the front of a text by the empty prefix. -/
theorem isPrefixOf?_nil_left (s : List Char) : [].isPrefixOf? s = some s := rfl

/-- No character is at the front of the empty text. -/
theorem isPrefixOf?_nil_right (p : Char) (ps : List Char) : (p :: ps).isPrefixOf? [] = none := rfl

/-- A character is stripped where it is the first one. -/
theorem isPrefixOf?_cons_cons (p c : Char) (ps cs : List Char) :
    (p :: ps).isPrefixOf? (c :: cs) = if p == c then ps.isPrefixOf? cs else none := rfl

/-- A prefix is stripped exactly where the text is that prefix followed by the rest. -/
theorem isPrefixOf?_eq_some_iff {start s rest : List Char} :
    start.isPrefixOf? s = some rest ↔ s = start ++ rest := by
  induction start generalizing s with
  | nil => simp [isPrefixOf?_nil_left, eq_comm]
  | cons p ps ih =>
    cases s with
    | nil => simp [isPrefixOf?_nil_right]
    | cons c cs =>
      rw [isPrefixOf?_cons_cons]
      by_cases h : p = c
      · simp [h, ih]
      · simp [h, Ne.symm h]

/-- Stripping a prefix leaves no more than there was. -/
theorem length_le_of_isPrefixOf? {start s rest : List Char}
    (h : start.isPrefixOf? s = some rest) : rest.length ≤ s.length := by
  rw [isPrefixOf?_eq_some_iff.1 h]
  simp

/-- Stripping a nonempty prefix leaves less than there was. -/
theorem length_lt_of_isPrefixOf? {p : Char} {ps s rest : List Char}
    (h : (p :: ps).isPrefixOf? s = some rest) : rest.length < s.length := by
  rw [isPrefixOf?_eq_some_iff.1 h]
  simp only [List.length_append, List.length_cons]
  omega

end TreeText.Text
