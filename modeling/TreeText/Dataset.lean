/-
# Datasets

The attributes of an element, in the order in which they were given. A name may occur more than
once; looked up by name, the last value counts.
-/
import TreeText.Text.Blank

namespace TreeText

/-- The attributes of an element in their order. -/
structure Dataset where
  attributes : List (String × String)
  deriving DecidableEq, Repr, Inhabited

namespace Dataset

/-- No attributes. -/
def empty : Dataset := ⟨[]⟩

/-- The value of a name: the last one that was given for it. -/
def get? (dataset : Dataset) (name : String) : Option String :=
  dataset.attributes.reverse.lookup name

/-- The value of a name, or the empty text. -/
def value (dataset : Dataset) (name : String) : String :=
  (dataset.get? name).getD ""

/-- Whether a name occurs. -/
def contains (dataset : Dataset) (name : String) : Bool :=
  (dataset.get? name).isSome

/-- Each name once, in the order of code points. -/
def names (dataset : Dataset) : List String :=
  (dataset.attributes.map (·.1)).eraseDups.mergeSort (fun a b => decide (a ≤ b))

/-- Each name once with its value, in the order of the names. -/
def entries (dataset : Dataset) : List (String × String) :=
  dataset.names.map fun name => (name, dataset.value name)

/-- The classes of an element: the words of its attribute `class`. -/
def classes (dataset : Dataset) : List String :=
  (Text.words (dataset.value "class").toList).map String.ofList

/-- An empty dataset has no values. -/
theorem get?_empty (name : String) : empty.get? name = none := rfl

/-- An attribute that is added last gives the value of its name. -/
theorem get?_append_self (dataset : Dataset) (name value : String) :
    (Dataset.mk (dataset.attributes ++ [(name, value)])).get? name = some value := by
  simp [get?]

/-- An attribute that is added last leaves all other names alone. -/
theorem get?_append_other (dataset : Dataset) {name other : String} (value : String)
    (h : other ≠ name) :
    (Dataset.mk (dataset.attributes ++ [(name, value)])).get? other = dataset.get? other := by
  have : (other == name) = false := by simpa using h
  simp [get?, List.lookup_cons, this]

end Dataset

end TreeText
