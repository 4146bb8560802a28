/-
# Matchers

A matcher gives meaning to the selector texts of rules: whether a node is selected, and whether a
selector text is usable at all. The conversion never looks inside a selector itself.
-/
import TreeText.Document

namespace TreeText

/-- The meaning of selector texts. A text that is not usable is refused with the reason. -/
structure Matcher where
  selects : Document → Nat → String → Bool
  check : String → Except String Unit

/-- The matcher whose selectors are tags: an element is selected by its tag, letter for letter, and
every text is usable. -/
def Matcher.byTag : Matcher where
  selects := fun doc node selector => doc.tag? node == some selector
  check := fun _ => .ok ()

end TreeText
