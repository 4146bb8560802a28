/-
# Sets of characters given by bounds

A large set of characters is written as the increasing list of the code points at which membership
changes: the first bound starts a run of members, the second ends it, and so on.
-/

namespace TreeText.Text

/-- Whether `n` lies in one of the half-open runs `[start, stop)` that the bounds list in pairs. -/
def liesWithin (n : Nat) : List Nat → Bool
  | start :: stop :: rest =>
    if n < start then false else if n < stop then true else liesWithin n rest
  | _ => false

end TreeText.Text
