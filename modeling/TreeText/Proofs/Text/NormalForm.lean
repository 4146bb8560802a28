/-
# Normal forms

A text has one normal form: its blanks are single spaces, it has the same words in the same order, and
it has a blank in front, or behind, exactly if the text has one. Collapsing finds it. The reason is
that a text leaves nothing else open once its words and its ends are known: collapsed, it is its words
with single spaces between them, where an empty word stands at each end with blanks.

* `IsNormalForm` says what a normal form is, without regard to how it comes about.
* `outline` lists the words of a text and its ends, and `collapseChars_eq_intercalate` puts the
  collapsed text together from it.
* `isNormalForm_iff` says that the collapsed text is a normal form, and the only one.
-/
import TreeText.Proofs.Text.Collapse
import TreeText.Proofs.Text.Pieces

namespace TreeText.Text

/-! ## Ends -/

/-- Whether a text has a blank in front. -/
def startsBlank (s : List Char) : Bool :=
  s.head?.any isBlank

/-- Whether a text has a blank behind. -/
def endsBlank (s : List Char) : Bool :=
  s.getLast?.any isBlank

/-- The end of a text is the front of what is read from its end. -/
theorem endsBlank_eq (s : List Char) : endsBlank s = startsBlank s.reverse := by
  rw [endsBlank, startsBlank, List.head?_reverse]

/-- What stands in front of a text does not change its end. -/
theorem endsBlank_cons (c : Char) {s : List Char} (h : s ≠ []) :
    endsBlank (c :: s) = endsBlank s := by
  obtain ⟨d, rest, rfl⟩ := List.exists_cons_of_ne_nil h
  rw [endsBlank, endsBlank, List.getLast?_cons_cons]

/-- A normal form of a text: its blanks are single spaces, its words are those of the text, and it has
blanks at the same ends. -/
structure IsNormalForm (s r : List Char) : Prop where
  collapsed : IsCollapsed r
  words_eq : words r = words s
  starts_eq : startsBlank r = startsBlank s
  ends_eq : endsBlank r = endsBlank s

/-! ## Words -/

/-- Words are not empty, and no blank stands in a word. -/
theorem of_mem_words {s word : List Char} (h : word ∈ words s) :
    word ≠ [] ∧ ∀ c ∈ word, isBlank c = false := by
  obtain ⟨hpiece, hword⟩ := List.mem_filter.1 h
  constructor
  · intro hnil
    simp [hnil] at hword
  · exact isCut_of_mem_pieces word hpiece

/-- A character that is not blank is a word of its own in front of a blank. -/
theorem words_cons_cons_blank {c d : Char} (hc : isBlank c = false) (hd : isBlank d = true)
    (s : List Char) : words (c :: d :: s) = [c] :: words (d :: s) := by
  have hpieces : pieces isBlank (c :: d :: s) = [c] :: pieces isBlank s := by
    rw [pieces_cons_other hc, pieces_cons_cut hd]
    rfl
  rw [words_cons_blank hd, words, hpieces]
  rfl

/-- A character that is not blank belongs to the word that begins behind it. -/
theorem words_cons_cons_other {c d : Char} (hc : isBlank c = false) (hd : isBlank d = false)
    (s : List Char) :
    ∃ word rest, words (d :: s) = word :: rest ∧ words (c :: d :: s) = (c :: word) :: rest := by
  have hpieces := pieces_cons_other hd s
  refine ⟨d :: (pieces isBlank s).headD [], (pieces isBlank s).tail.filter (!·.isEmpty), ?_, ?_⟩
  · rw [words, hpieces]
    rfl
  · rw [words, pieces_cons_other hc, hpieces]
    rfl

/-! ## Outlines -/

/-- An empty word where there are blanks at an end. -/
def edge (blank : Bool) : List (List Char) :=
  if blank then [[]] else []

/-- The words of a text, with an empty word at each end that has blanks. -/
def outline (s : List Char) : List (List Char) :=
  edge (startsBlank s) ++ words s ++ edge (endsBlank s)

/-- Blanks in front of a blank do not show in the outline. -/
theorem outline_cons_blank_of_starts {c : Char} (hc : isBlank c = true) {s : List Char}
    (hs : startsBlank s = true) : outline (c :: s) = outline s := by
  have hne : s ≠ [] := by
    rintro rfl
    cases hs
  have hstarts : startsBlank (c :: s) = true := hc
  rw [outline, outline, words_cons_blank hc, endsBlank_cons c hne, hstarts, hs]

/-- The first blank in front of a text shows in the outline. -/
theorem outline_cons_blank_of_not_starts {c : Char} (hc : isBlank c = true) {s : List Char}
    (hne : s ≠ []) (hs : startsBlank s = false) : outline (c :: s) = [] :: outline s := by
  have hstarts : startsBlank (c :: s) = true := hc
  rw [outline, outline, words_cons_blank hc, endsBlank_cons c hne, hstarts, hs]
  rfl

/-- Any other character in front of a text is put in front of the first entry of its outline. -/
theorem outline_cons_other {c : Char} (hc : isBlank c = false) {s : List Char} (hne : s ≠ []) :
    ∃ word rest, outline s = word :: rest ∧ outline (c :: s) = (c :: word) :: rest := by
  have hstarts : startsBlank (c :: s) = false := hc
  have hends : endsBlank (c :: s) = endsBlank s := endsBlank_cons c hne
  obtain ⟨d, tail, rfl⟩ := List.exists_cons_of_ne_nil hne
  cases hd : isBlank d with
  | true =>
    -- The empty entry in front turns into a word of one character.
    have hfront : startsBlank (d :: tail) = true := hd
    refine ⟨[], words (d :: tail) ++ edge (endsBlank (d :: tail)), ?_, ?_⟩
    · rw [outline, hfront]
      rfl
    · rw [outline, hstarts, hends, words_cons_cons_blank hc hd]
      rfl
  | false =>
    have hfront : startsBlank (d :: tail) = false := hd
    obtain ⟨word, rest, hwords, hlonger⟩ := words_cons_cons_other hc hd tail
    refine ⟨word, rest ++ edge (endsBlank (d :: tail)), ?_, ?_⟩
    · rw [outline, hfront, hwords]
      rfl
    · rw [outline, hstarts, hends, hlonger]
      rfl

/-- A blank alone is at both ends of its text, and there are no words. -/
theorem outline_singleton_blank {c : Char} (hc : isBlank c = true) : outline [c] = [[], []] := by
  have hstarts : startsBlank [c] = true := hc
  have hends : endsBlank [c] = true := hc
  rw [outline, words_cons_blank hc, hstarts, hends]
  rfl

/-- Any other character alone is a word. -/
theorem outline_singleton_other {c : Char} (hc : isBlank c = false) : outline [c] = [[c]] := by
  have hstarts : startsBlank [c] = false := hc
  have hends : endsBlank [c] = false := hc
  rw [outline, words, pieces_cons_other hc, hstarts, hends]
  rfl

/-- Only the empty text has an empty outline. -/
theorem outline_ne_nil {s : List Char} (h : s ≠ []) : outline s ≠ [] := by
  obtain ⟨c, tail, rfl⟩ := List.exists_cons_of_ne_nil h
  cases hc : isBlank c with
  | true =>
    have hstarts : startsBlank (c :: tail) = true := hc
    rw [outline, hstarts]
    simp [edge]
  | false =>
    by_cases htail : tail = []
    · rw [htail, outline_singleton_other hc]
      simp
    · obtain ⟨word, rest, -, hlonger⟩ := outline_cons_other hc htail
      rw [hlonger]
      simp

/-- No blank stands in an entry of an outline. -/
theorem isBlank_of_mem_outline {s : List Char} :
    ∀ word ∈ outline s, ∀ c ∈ word, isBlank c = false := by
  have hedge : ∀ blank, ∀ word ∈ edge blank, word = [] := by
    intro blank word hword
    cases blank with
    | true => exact List.mem_singleton.1 hword
    | false => cases hword
  intro word hword c hc
  rcases List.mem_append.1 hword with hfront | hends
  · rcases List.mem_append.1 hfront with hstarts | hwords
    · rw [hedge _ word hstarts] at hc
      cases hc
    · exact (of_mem_words hwords).2 c hc
  · rw [hedge _ word hends] at hc
    cases hc

/-! ## Collapsed texts and outlines -/

/-- A joined space stands in front. -/
theorem head?_joinSpace (s : List Char) : (joinSpace s).head? = some ' ' := by
  by_cases h : s.head? = some ' '
  · rw [joinSpace, if_pos h, h]
  · rw [joinSpace, if_neg h]
    rfl

/-- A collapsed text has a space in front exactly if the text has a blank there. -/
theorem head?_collapseChars_iff {s : List Char} :
    (collapseChars s).head? = some ' ' ↔ startsBlank s = true := by
  cases s with
  | nil => simp [collapseChars_nil, startsBlank]
  | cons c s =>
    have hstarts : startsBlank (c :: s) = isBlank c := rfl
    rw [hstarts]
    cases hc : isBlank c with
    | true => simp [collapseChars_cons_blank hc, head?_joinSpace]
    | false =>
      have hspace : c ≠ ' ' := by
        rintro rfl
        exact absurd (isBlank_space.symm.trans hc) (by decide)
      simp [collapseChars_cons_other hc, hspace]

/-- A character in front of the first of some words stands in front of all of them. -/
theorem intercalate_cons_word (c : Char) (between word : List Char) (rest : List (List Char)) :
    between.intercalate ((c :: word) :: rest) = c :: between.intercalate (word :: rest) := by
  cases rest with
  | nil => simp
  | cons next rest => simp [List.intercalate_cons_cons]

/-- A collapsed text is the entries of the outline with single spaces between them. -/
theorem collapseChars_eq_intercalate (s : List Char) :
    collapseChars s = [' '].intercalate (outline s) := by
  induction s with
  | nil => rfl
  | cons c s ih =>
    cases hc : isBlank c with
    | true =>
      -- The blank shows unless the text has another one in front already.
      rw [collapseChars_cons_blank hc, joinSpace]
      cases hs : startsBlank s with
      | true =>
        rw [if_pos (head?_collapseChars_iff.2 hs), outline_cons_blank_of_starts hc hs, ih]
      | false =>
        have hhead : (collapseChars s).head? ≠ some ' ' := by
          intro hspace
          rw [head?_collapseChars_iff.1 hspace] at hs
          cases hs
        rw [if_neg hhead]
        by_cases hne : s = []
        · rw [hne, outline_singleton_blank hc]
          rfl
        · obtain ⟨word, rest, hlist⟩ := List.exists_cons_of_ne_nil (outline_ne_nil hne)
          rw [outline_cons_blank_of_not_starts hc hne hs, ih, hlist, List.intercalate_cons_cons]
          rfl
    | false =>
      rw [collapseChars_cons_other hc]
      by_cases hne : s = []
      · rw [hne, outline_singleton_other hc]
        rfl
      · obtain ⟨word, rest, hlist, hlonger⟩ := outline_cons_other hc hne
        rw [ih, hlist, hlonger, intercalate_cons_word]

/-! ## The normal form -/

/-- A collapsed text has the words of the text. -/
theorem words_collapseChars (s : List Char) : words (collapseChars s) = words s := by
  by_cases hne : s = []
  · rw [hne]
    rfl
  · have hpieces : pieces isBlank (collapseChars s) = outline s := by
      rw [collapseChars_eq_intercalate]
      exact pieces_intercalate (outline_ne_nil hne) isBlank_of_mem_outline isBlank_space
    have hedge : ∀ blank, (edge blank).filter (!·.isEmpty) = [] := by
      intro blank
      cases blank <;> rfl
    have hwords : (words s).filter (!·.isEmpty) = words s := by
      rw [words, List.filter_filter]
      simp
    rw [words, hpieces, outline, List.filter_append, List.filter_append, hedge, hedge, hwords]
    simp

/-- A collapsed text has a blank in front exactly if the text has one. -/
theorem startsBlank_collapseChars (s : List Char) :
    startsBlank (collapseChars s) = startsBlank s := by
  have hspace := head?_collapseChars_iff (s := s)
  have hagain := head?_collapseChars_iff (s := collapseChars s)
  rw [collapseChars_collapseChars] at hagain
  exact Bool.eq_iff_iff.2 (hagain.symm.trans hspace)

/-- A collapsed text has a blank behind exactly if the text has one. -/
theorem endsBlank_collapseChars (s : List Char) : endsBlank (collapseChars s) = endsBlank s := by
  rw [endsBlank_eq, endsBlank_eq, ← collapseChars_reverse, startsBlank_collapseChars]

/-- The collapsed text is a normal form, and there is no other. -/
theorem isNormalForm_iff {s r : List Char} : IsNormalForm s r ↔ r = collapseChars s := by
  constructor
  · intro h
    have houtline : outline r = outline s := by
      rw [outline, outline, h.words_eq, h.starts_eq, h.ends_eq]
    calc r = collapseChars r := (collapseChars_of_isCollapsed h.collapsed).symm
      _ = [' '].intercalate (outline r) := collapseChars_eq_intercalate r
      _ = [' '].intercalate (outline s) := by rw [houtline]
      _ = collapseChars s := (collapseChars_eq_intercalate s).symm
  · rintro rfl
    exact ⟨isCollapsed_collapseChars s, words_collapseChars s, startsBlank_collapseChars s,
      endsBlank_collapseChars s⟩

end TreeText.Text
