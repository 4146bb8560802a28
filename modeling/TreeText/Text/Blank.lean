/-
# Blank characters, words and whitespace

The blank characters are those with the property White_Space. On a text they define its words, the
text without its outer blanks, and the text in which each run of blanks is one space.
-/

namespace TreeText.Text

/-! ## Blank characters -/

/-- A character is blank if it has the property White_Space. -/
def isBlank (c : Char) : Bool :=
  let n := c.toNat
  (0x9 ≤ n && n ≤ 0xd) || n == 0x20 || n == 0x85 || n == 0xa0 || n == 0x1680 ||
    (0x2000 ≤ n && n ≤ 0x200a) || n == 0x2028 || n == 0x2029 || n == 0x202f || n == 0x205f ||
    n == 0x3000

/-- A space is blank. -/
theorem isBlank_space : isBlank ' ' = true := by decide

/-! ## Pieces and words -/

/-- The pieces between the characters that `isCut` selects; there is always one more than cuts. -/
def pieces (isCut : Char → Bool) : List Char → List (List Char)
  | [] => [[]]
  | c :: cs =>
    if isCut c then [] :: pieces isCut cs
    else match pieces isCut cs with
      | piece :: rest => (c :: piece) :: rest
      | [] => [[c]]

/-- There is always a first piece. -/
theorem pieces_ne_nil (isCut : Char → Bool) (s : List Char) : pieces isCut s ≠ [] := by
  induction s with
  | nil => simp [pieces]
  | cons c cs ih =>
    unfold pieces
    split
    · simp
    · split <;> simp

/-- A cut ends the first piece. -/
theorem pieces_cons_cut {isCut : Char → Bool} {c : Char} (h : isCut c = true) (s : List Char) :
    pieces isCut (c :: s) = [] :: pieces isCut s := by
  simp [pieces, h]

/-- Any other character belongs to the first piece. -/
theorem pieces_cons_other {isCut : Char → Bool} {c : Char} (h : isCut c = false) (s : List Char) :
    pieces isCut (c :: s) =
      (c :: (pieces isCut s).headD []) :: (pieces isCut s).tail := by
  cases hp : pieces isCut s with
  | nil => exact absurd hp (pieces_ne_nil isCut s)
  | cons piece rest => simp [pieces, h, hp]

/-- The words of a text: its nonempty pieces between blanks. -/
def words (s : List Char) : List (List Char) :=
  (pieces isBlank s).filter (!·.isEmpty)

/-! ## Outer blanks -/

/-- The text without the blanks at both ends. -/
def trimChars (s : List Char) : List Char :=
  ((s.dropWhile isBlank).reverse.dropWhile isBlank).reverse

/-- The text without the blanks at both ends. -/
def trim (s : String) : String :=
  String.ofList (trimChars s.toList)

/-- Whether a text has no character that is not blank. -/
def allBlank (s : String) : Bool :=
  s.toList.all isBlank

/-! ## Runs of blanks -/

/-- A blank in front of a collapsed text: it joins a space that is there already. -/
def joinSpace (collapsed : List Char) : List Char :=
  if collapsed.head? = some ' ' then collapsed else ' ' :: collapsed

/-- The text with each maximal run of blanks replaced by one space. -/
def collapseChars (s : List Char) : List Char :=
  s.foldr (fun c collapsed => if isBlank c then joinSpace collapsed else c :: collapsed) []

/-- The text with each maximal run of blanks replaced by one space. -/
def collapse (s : String) : String :=
  String.ofList (collapseChars s.toList)

/-- Nothing collapses to nothing. -/
theorem collapseChars_nil : collapseChars [] = [] := rfl

/-- A blank in front joins the run of blanks after it. -/
theorem collapseChars_cons_blank {c : Char} (h : isBlank c = true) (s : List Char) :
    collapseChars (c :: s) = joinSpace (collapseChars s) := by
  simp [collapseChars, h]

/-- Any other character in front stays. -/
theorem collapseChars_cons_other {c : Char} (h : isBlank c = false) (s : List Char) :
    collapseChars (c :: s) = c :: collapseChars s := by
  simp [collapseChars, h]

end TreeText.Text
