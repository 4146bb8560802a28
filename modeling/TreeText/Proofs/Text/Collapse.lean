/-
# Laws of collapsing

A text can be collapsed piece by piece: what stands in front of a text or behind it may be collapsed
beforehand, and it makes no difference from which end the text is read. So texts with one collapsed
form still have one when they are put together with others, and when their outer blanks are cut off.

* `IsCollapsed` describes collapsed texts without regard to how they come about;
  `isCollapsed_collapseChars` and `collapseChars_of_isCollapsed` say that collapsing makes them, and
  leaves them alone.
* `collapse_append` is the law for texts that follow each other, and `collapse_trim` says that
  collapsing and trimming can change places.
-/
import Mathlib.Data.List.Chain
import TreeText.Text.Blank

namespace TreeText.Text

/-! ## Joining a space -/

/-- A space joins the one that was joined before. -/
theorem joinSpace_joinSpace (s : List Char) : joinSpace (joinSpace s) = joinSpace s := by
  by_cases h : s.head? = some ' '
  · rw [joinSpace, joinSpace, if_pos h, if_pos h]
  · have hspace : (' ' :: s).head? = some ' ' := rfl
    rw [joinSpace, joinSpace, if_neg h, if_pos hspace]

/-- A joined space is a blank in front, also of what stands behind the text. -/
theorem collapseChars_joinSpace_append (s t : List Char) :
    collapseChars (joinSpace s ++ t) = joinSpace (collapseChars (s ++ t)) := by
  by_cases h : s.head? = some ' '
  · obtain ⟨rest, rfl⟩ := List.head?_eq_some_iff.1 h
    rw [joinSpace, if_pos h, List.cons_append, collapseChars_cons_blank isBlank_space,
      joinSpace_joinSpace]
  · rw [joinSpace, if_neg h, List.cons_append, collapseChars_cons_blank isBlank_space]

/-! ## Texts that follow each other -/

/-- The text in front may be collapsed beforehand. -/
theorem collapseChars_append_left (s t : List Char) :
    collapseChars (collapseChars s ++ t) = collapseChars (s ++ t) := by
  induction s with
  | nil => rfl
  | cons c s ih =>
    rw [List.cons_append]
    cases hc : isBlank c with
    | true =>
      rw [collapseChars_cons_blank hc, collapseChars_cons_blank hc,
        collapseChars_joinSpace_append, ih]
    | false =>
      rw [collapseChars_cons_other hc, collapseChars_cons_other hc, List.cons_append,
        collapseChars_cons_other hc, ih]

/-- A collapsed text is not changed by collapsing it again. -/
theorem collapseChars_collapseChars (s : List Char) :
    collapseChars (collapseChars s) = collapseChars s := by
  simpa only [List.append_nil] using collapseChars_append_left s []

/-- The text behind may be collapsed beforehand. -/
theorem collapseChars_append_right (s t : List Char) :
    collapseChars (s ++ collapseChars t) = collapseChars (s ++ t) := by
  induction s with
  | nil => exact collapseChars_collapseChars t
  | cons c s ih =>
    rw [List.cons_append, List.cons_append]
    cases hc : isBlank c with
    | true => rw [collapseChars_cons_blank hc, collapseChars_cons_blank hc, ih]
    | false => rw [collapseChars_cons_other hc, collapseChars_cons_other hc, ih]

/-! ## Collapsed texts -/

/-- A text whose blanks are single spaces. -/
structure IsCollapsed (s : List Char) : Prop where
  spaces : ∀ c ∈ s, isBlank c = true → c = ' '
  apart : s.IsChain fun a b => ¬(a = ' ' ∧ b = ' ')

theorem isCollapsed_nil : IsCollapsed [] :=
  ⟨fun _ h => absurd h List.not_mem_nil, List.isChain_nil⟩

/-- What is left behind the first character of a collapsed text is collapsed. -/
theorem IsCollapsed.tail {c : Char} {s : List Char} (h : IsCollapsed (c :: s)) : IsCollapsed s where
  spaces other hm := h.spaces other (List.mem_cons_of_mem c hm)
  apart := h.apart.tail

/-- A character may stand in front of a collapsed text unless it is another blank than a space, or a
second space. -/
theorem IsCollapsed.cons {c : Char} {s : List Char} (h : IsCollapsed s)
    (hc : isBlank c = true → c = ' ' ∧ s.head? ≠ some ' ') : IsCollapsed (c :: s) where
  spaces other hm hblank := by
    rcases List.mem_cons.1 hm with rfl | hm
    · exact (hc hblank).1
    · exact h.spaces other hm hblank
  apart := by
    refine List.isChain_cons.2 ⟨?_, h.apart⟩
    rintro next hnext ⟨rfl, rfl⟩
    exact (hc isBlank_space).2 hnext

/-- A collapsed text is collapsed if it is read from its end. -/
theorem IsCollapsed.reverse {s : List Char} (h : IsCollapsed s) : IsCollapsed s.reverse where
  spaces c hm := h.spaces c (List.mem_reverse.1 hm)
  apart := by
    refine List.isChain_reverse.2 (h.apart.imp ?_)
    rintro a b hne ⟨hb, ha⟩
    exact hne ⟨ha, hb⟩

/-- Collapsing makes collapsed texts. -/
theorem isCollapsed_collapseChars (s : List Char) : IsCollapsed (collapseChars s) := by
  induction s with
  | nil => exact isCollapsed_nil
  | cons c s ih =>
    cases hc : isBlank c with
    | true =>
      rw [collapseChars_cons_blank hc, joinSpace]
      by_cases h : (collapseChars s).head? = some ' '
      · rw [if_pos h]
        exact ih
      · rw [if_neg h]
        exact ih.cons fun _ => ⟨rfl, h⟩
    | false =>
      rw [collapseChars_cons_other hc]
      exact ih.cons fun h => absurd (h.symm.trans hc) (by decide)

/-- Collapsing leaves collapsed texts alone. -/
theorem collapseChars_of_isCollapsed {s : List Char} (h : IsCollapsed s) : collapseChars s = s := by
  induction s with
  | nil => rfl
  | cons c s ih =>
    have hs : collapseChars s = s := ih h.tail
    cases hc : isBlank c with
    | true =>
      obtain rfl : c = ' ' := h.spaces c List.mem_cons_self hc
      have hhead : s.head? ≠ some ' ' := by
        intro hnext
        obtain ⟨rest, rfl⟩ := List.head?_eq_some_iff.1 hnext
        exact (List.isChain_cons_cons.1 h.apart).1 ⟨rfl, rfl⟩
      rw [collapseChars_cons_blank hc, hs, joinSpace, if_neg hhead]
    | false => rw [collapseChars_cons_other hc, hs]

/-! ## The other direction -/

/-- A text that is read from its end collapses to its collapsed form, read from the end. -/
theorem collapseChars_reverse (s : List Char) :
    collapseChars s.reverse = (collapseChars s).reverse := by
  induction s with
  | nil => rfl
  | cons c s ih =>
    -- What is collapsed first is `s`, so that only the last character is left to deal with.
    have hfront : collapseChars (c :: s).reverse =
        collapseChars ((collapseChars s).reverse ++ [c]) := by
      rw [List.reverse_cons, ← collapseChars_append_left, ih]
    have hwhole : IsCollapsed (collapseChars (c :: s)).reverse :=
      (isCollapsed_collapseChars (c :: s)).reverse
    rw [hfront, ← collapseChars_of_isCollapsed hwhole]
    cases hc : isBlank c with
    | false => rw [collapseChars_cons_other hc, List.reverse_cons]
    | true =>
      have hlast : collapseChars [c] = [' '] := by
        rw [collapseChars_cons_blank hc, collapseChars_nil]
        rfl
      rw [← collapseChars_append_right, hlast, collapseChars_cons_blank hc, joinSpace]
      by_cases h : (collapseChars s).head? = some ' '
      · -- The text ends with a space already, and the blank joins it.
        obtain ⟨rest, hrest⟩ := List.head?_eq_some_iff.1 h
        have htwo : collapseChars ([' '] ++ [' ']) = [' '] := by decide
        rw [if_pos h, hrest, List.reverse_cons, List.append_assoc, ← collapseChars_append_right,
          htwo]
      · rw [if_neg h, List.reverse_cons]

/-! ## Outer blanks -/

/-- The blanks in front may be dropped before a text is collapsed or after it. -/
theorem collapseChars_dropWhile (s : List Char) :
    collapseChars (s.dropWhile isBlank) = (collapseChars s).dropWhile isBlank := by
  have hjoin : ∀ t : List Char, (joinSpace t).dropWhile isBlank = t.dropWhile isBlank := by
    intro t
    by_cases h : t.head? = some ' '
    · rw [joinSpace, if_pos h]
    · rw [joinSpace, if_neg h, List.dropWhile_cons_of_pos isBlank_space]
  induction s with
  | nil => rfl
  | cons c s ih =>
    cases hc : isBlank c with
    | true =>
      rw [List.dropWhile_cons_of_pos hc, collapseChars_cons_blank hc, hjoin, ih]
    | false =>
      have hkeep : ¬isBlank c = true := by
        rw [hc]
        decide
      rw [List.dropWhile_cons_of_neg hkeep, collapseChars_cons_other hc,
        List.dropWhile_cons_of_neg hkeep]

/-- The blanks at both ends may be cut off before a text is collapsed or after it. -/
theorem collapseChars_trimChars (s : List Char) :
    collapseChars (trimChars s) = trimChars (collapseChars s) := by
  unfold trimChars
  rw [collapseChars_reverse, collapseChars_dropWhile, collapseChars_reverse,
    collapseChars_dropWhile]

/-! ## Texts -/

/-- The characters of a collapsed text are collapsed. -/
theorem toList_collapse (s : String) : (collapse s).toList = collapseChars s.toList :=
  String.toList_ofList

/-- Texts that follow each other may be collapsed beforehand. -/
theorem collapse_append (s t : String) : collapse (s ++ t) = collapse (collapse s ++ collapse t) := by
  unfold collapse
  rw [String.toList_append, String.toList_append, String.toList_ofList, String.toList_ofList,
    collapseChars_append_left, collapseChars_append_right]

/-- A collapsed text is not changed by collapsing it again. -/
theorem collapse_collapse (s : String) : collapse (collapse s) = collapse s := by
  rw [collapse, toList_collapse, collapseChars_collapseChars, collapse]

/-- Collapsing and trimming can change places. -/
theorem collapse_trim (s : String) : collapse (trim s) = trim (collapse s) := by
  unfold collapse trim
  rw [String.toList_ofList, String.toList_ofList, collapseChars_trimChars]

/-- Texts with one collapsed form may be put in front of others with one collapsed form. -/
theorem collapse_append_congr {s₁ s₂ t₁ t₂ : String} (hs : collapse s₁ = collapse s₂)
    (ht : collapse t₁ = collapse t₂) : collapse (s₁ ++ t₁) = collapse (s₂ ++ t₂) := by
  rw [collapse_append s₁, collapse_append s₂, hs, ht]

end TreeText.Text
