/-
# Tables in the making

A TOML document names its tables bit by bit, and each table may be spelt out once. Tables in the
making remember how they came about, because that decides what may still be added to them.

* `openTable` and `addElement` do what a header asks for, and `assign` what a key asks for.
* `Item.entriesOf` gives the finished entries.
-/
import TreeText.Toml.Value

namespace TreeText.Toml

/-- How a table came about: by its own header, by a key with dots, or by the header of a table
inside it. -/
inductive Origin where
  | header
  | dotted
  | implied
  deriving DecidableEq, Repr

/-- A value in the making. Values behind a key are complete; the last element of a list of tables
may still grow. -/
inductive Item where
  | complete (value : Value)
  | table (origin : Origin) (entries : List (String × Item))
  | tables (elements : List (List (String × Item)))

/-- The entries of a table in the making. -/
abbrev Items : Type := List (String × Item)

namespace Items

/-- The entries with another item behind a key that is there. -/
def replace (items : Items) (key : String) (item : Item) : Items :=
  items.map fun entry => if entry.1 == key then (key, item) else entry

/-- Changes the table behind a key on the way to a deeper one. A table that is not there is implied;
of a list of tables, the last counts. -/
def within (key : String) (change : Items → Option Items) (items : Items) : Option Items :=
  match items.lookup key with
  | none => (change []).map fun inner => items ++ [(key, .table .implied inner)]
  | some (.table origin inner) =>
    (change inner).map fun inner => items.replace key (.table origin inner)
  | some (.tables elements) =>
    (change (elements.getLast?.getD [])).map fun last =>
      items.replace key (.tables (elements.dropLast ++ [last]))
  | some (.complete _) => none

/-- Changes the table at the end of a path. -/
def along (change : Items → Option Items) : List String → Items → Option Items
  | [], items => change items
  | key :: path, items => items.within key (along change path)

/-- Begins the table that a header names. -/
def openTable : List String → Items → Option Items
  | [], _ => none
  | [key], items =>
    match items.lookup key with
    | none => some (items ++ [(key, .table .header [])])
    | some (.table .implied inner) => some (items.replace key (.table .header inner))
    | some _ => none
  | key :: path, items => items.within key (openTable path)

/-- Begins a new element of the list of tables that a header names. -/
def addElement : List String → Items → Option Items
  | [], _ => none
  | [key], items =>
    match items.lookup key with
    | none => some (items ++ [(key, .tables [[]])])
    | some (.tables elements) => some (items.replace key (.tables (elements ++ [[]])))
    | some _ => none
  | key :: path, items => items.within key (addElement path)

/-- Puts a value behind a key, whose dots lead through tables that only such keys may fill. -/
def assign (value : Value) : List String → Items → Option Items
  | [], _ => none
  | [key], items =>
    match items.lookup key with
    | none => some (items ++ [(key, .complete value)])
    | some _ => none
  | key :: path, items =>
    match items.lookup key with
    | none => (assign value path []).map fun inner => items ++ [(key, .table .dotted inner)]
    | some (.table .dotted inner) =>
      (assign value path inner).map fun inner => items.replace key (.table .dotted inner)
    | some _ => none

end Items

/-! ## Finished tables -/

mutual

/-- The value that an item has become. -/
def Item.value : Item → Value
  | .complete value => value
  | .table _ entries => .table (Item.entriesOf entries)
  | .tables elements => .array (Item.tablesOf elements)

/-- The entries that a table in the making has. -/
def Item.entriesOf : List (String × Item) → List (String × Value)
  | [] => []
  | (key, item) :: rest => (key, item.value) :: Item.entriesOf rest

/-- The tables that a list of tables in the making has. -/
def Item.tablesOf : List (List (String × Item)) → List Value
  | [] => []
  | entries :: rest => .table (Item.entriesOf entries) :: Item.tablesOf rest

end

end TreeText.Toml
