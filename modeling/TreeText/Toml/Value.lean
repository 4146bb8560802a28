/-
# TOML values

The values that a TOML document can hold. Numbers and moments keep the form in which they are
written, because nothing here counts with them.
-/

namespace TreeText.Toml

/-- A value of a TOML document. The entries of a table are in the order of their first mention. -/
inductive Value where
  | text (content : String)
  | boolean (value : Bool)
  | number (written : String)
  | moment (written : String)
  | array (items : List Value)
  | table (entries : List (String × Value))
  deriving Repr

end TreeText.Toml
