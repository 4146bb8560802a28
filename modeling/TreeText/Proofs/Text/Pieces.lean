/-
# Pieces and what they are put together to

A text falls into pieces at characters that cut. Texts that are put together with such a character
between them fall into the pieces of all of them. Pieces themselves, in which no character cuts, are
the pieces of the text again; and words are the words again. The words of a text do not depend on
the blanks at its ends.

* `pieces_intercalate_eq_flatMap` is about texts, `pieces_intercalate` and `words_intercalate` are
  about pieces and words.
* `words_trimChars` is about the blanks at both ends.
* `isNameChar_of_isBlank` says that no blank stands in a name.
-/
import Mathlib.Data.List.Basic
import TreeText.Text.Blank
import TreeText.Text.WordChar

namespace TreeText.Text

variable {isCut : Char → Bool}

/-! ## Pieces -/

/-- A text in which nothing cuts is its only piece. -/
theorem pieces_of_no_cut {s : List Char} (h : ∀ c ∈ s, isCut c = false) : pieces isCut s = [s] := by
  induction s with
  | nil => rfl
  | cons c cs ih =>
    obtain ⟨hc, hcs⟩ := List.forall_mem_cons.1 h
    rw [pieces_cons_other hc, ih hcs]
    rfl

/-- Nothing cuts in a piece. -/
theorem isCut_of_mem_pieces {s : List Char} :
    ∀ piece ∈ pieces isCut s, ∀ c ∈ piece, isCut c = false := by
  induction s with
  | nil =>
    intro piece hpiece c hc
    rw [List.mem_singleton.1 hpiece] at hc
    cases hc
  | cons d ds ih =>
    by_cases hd : isCut d = true
    · rw [pieces_cons_cut hd, List.forall_mem_cons]
      exact ⟨fun c hc => absurd hc List.not_mem_nil, ih⟩
    · have hd : isCut d = false := Bool.eq_false_iff.2 hd
      obtain ⟨first, rest, hpieces⟩ := List.exists_cons_of_ne_nil (pieces_ne_nil isCut ds)
      rw [hpieces] at ih
      obtain ⟨hfirst, hrest⟩ := List.forall_mem_cons.1 ih
      rw [pieces_cons_other hd, hpieces, List.forall_mem_cons]
      exact ⟨List.forall_mem_cons.2 ⟨hd, hfirst⟩, hrest⟩

/-- A text falls into what stands in front of a cut and what stands behind it, each in its pieces.
-/
theorem pieces_append_cut {cut : Char} (hcut : isCut cut = true) (front back : List Char) :
    pieces isCut (front ++ cut :: back) = pieces isCut front ++ pieces isCut back := by
  induction front with
  | nil => exact pieces_cons_cut hcut back
  | cons c cs ih =>
    rw [List.cons_append]
    by_cases hc : isCut c = true
    · rw [pieces_cons_cut hc, pieces_cons_cut hc, ih, List.cons_append]
    · have hc : isCut c = false := Bool.eq_false_iff.2 hc
      obtain ⟨first, rest, hpieces⟩ := List.exists_cons_of_ne_nil (pieces_ne_nil isCut cs)
      rw [pieces_cons_other hc, pieces_cons_other hc, ih, hpieces]
      rfl

/-- Texts that are put together fall into the pieces of all of them. -/
theorem pieces_intercalate_eq_flatMap {parts : List (List Char)} (hne : parts ≠ []) {cut : Char}
    (hcut : isCut cut = true) :
    pieces isCut ([cut].intercalate parts) = parts.flatMap (pieces isCut) := by
  induction parts with
  | nil => exact absurd rfl hne
  | cons first parts ih =>
    cases parts with
    | nil => rw [List.intercalate_singleton, List.flatMap_singleton]
    | cons next parts =>
      rw [List.intercalate_cons_cons, List.append_assoc, List.singleton_append,
        pieces_append_cut hcut, ih (List.cons_ne_nil next parts), ← List.flatMap_cons]

/-- What stands in a text that is put together stands between its parts or in one of them. -/
theorem mem_intercalate {between : List Char} {parts : List (List Char)} {c : Char}
    (h : c ∈ between.intercalate parts) : c ∈ between ∨ ∃ part ∈ parts, c ∈ part := by
  induction parts with
  | nil =>
    rw [List.intercalate_nil] at h
    cases h
  | cons first parts ih =>
    cases parts with
    | nil =>
      rw [List.intercalate_singleton] at h
      exact .inr ⟨first, List.mem_singleton_self first, h⟩
    | cons next parts =>
      rw [List.intercalate_cons_cons, List.append_assoc, List.mem_append, List.mem_append] at h
      rcases h with hfirst | hbetween | hrest
      · exact .inr ⟨first, List.mem_cons_self, hfirst⟩
      · exact .inl hbetween
      · rcases ih hrest with hbetween | ⟨part, hpart, hc⟩
        · exact .inl hbetween
        · exact .inr ⟨part, List.mem_cons_of_mem first hpart, hc⟩

/-- Pieces in which nothing cuts are the pieces of what they are put together to. -/
theorem pieces_intercalate {parts : List (List Char)} (hne : parts ≠ [])
    (h : ∀ part ∈ parts, ∀ c ∈ part, isCut c = false) {cut : Char} (hcut : isCut cut = true) :
    pieces isCut ([cut].intercalate parts) = parts := by
  have halone : ∀ part ∈ parts, pieces isCut part = [part] :=
    fun part hm => pieces_of_no_cut (h part hm)
  rw [pieces_intercalate_eq_flatMap hne hcut, List.flatMap_congr halone, List.flatMap_singleton']

/-! ## Words -/

/-- A blank in front of a text adds no word. -/
theorem words_cons_blank {c : Char} (h : isBlank c = true) (s : List Char) :
    words (c :: s) = words s := by
  rw [words, pieces_cons_cut h]
  rfl

/-- A blank behind a text adds no word. -/
theorem words_concat_blank {c : Char} (h : isBlank c = true) (s : List Char) :
    words (s ++ [c]) = words s := by
  rw [words, pieces_append_cut h, List.filter_append]
  exact List.append_nil _

/-- Words without blanks are the words of what they are put together to with spaces. -/
theorem words_intercalate {list : List (List Char)} (hne : list ≠ [])
    (h : ∀ word ∈ list, word ≠ [] ∧ ∀ c ∈ word, isBlank c = false) :
    words ([' '].intercalate list) = list := by
  rw [words, pieces_intercalate hne (fun word hmem => (h word hmem).2) isBlank_space,
    List.filter_eq_self]
  intro word hmem
  rw [Bool.not_eq_true', List.isEmpty_eq_false_iff]
  exact (h word hmem).1

/-- A text without anything but blanks has no words. -/
theorem words_of_all_blank {s : List Char} (h : ∀ c ∈ s, isBlank c = true) : words s = [] := by
  induction s with
  | nil => rfl
  | cons c cs ih =>
    obtain ⟨hc, hcs⟩ := List.forall_mem_cons.1 h
    rw [words_cons_blank hc, ih hcs]

/-- The words of a text are those that it has without the blanks in front. -/
theorem words_dropWhile (s : List Char) : words (s.dropWhile isBlank) = words s := by
  induction s with
  | nil => rfl
  | cons c cs ih =>
    by_cases hc : isBlank c = true
    · rw [List.dropWhile_cons_of_pos hc, ih, words_cons_blank hc]
    · rw [List.dropWhile_cons_of_neg hc]

/-- The words of a text are those that it has without the blanks at both ends. -/
theorem words_trimChars (s : List Char) : words (trimChars s) = words s := by
  -- The blanks at the end are the first ones of the reversed text.
  have hend : ∀ reversed : List Char,
      words (reversed.dropWhile isBlank).reverse = words reversed.reverse := by
    intro reversed
    induction reversed with
    | nil => rfl
    | cons c cs ih =>
      by_cases hc : isBlank c = true
      · rw [List.dropWhile_cons_of_pos hc, ih, List.reverse_cons, words_concat_blank hc]
      · rw [List.dropWhile_cons_of_neg hc]
  rw [trimChars, hend, List.reverse_reverse, words_dropWhile]

/-- What is left of a text without the blanks at both ends stands in the text. -/
theorem trimChars_subset (s : List Char) : trimChars s ⊆ s := by
  intro c hc
  have hfront : c ∈ (s.dropWhile isBlank).reverse :=
    (List.dropWhile_suffix isBlank).subset (List.mem_reverse.1 hc)
  exact (List.dropWhile_suffix isBlank).subset (List.mem_reverse.1 hfront)

/-! ## Blanks and names -/

/-- The blank characters, by their numbers. -/
def blanks : List Nat :=
  [0x9, 0xa, 0xb, 0xc, 0xd, 0x20, 0x85, 0xa0, 0x1680, 0x2000, 0x2001, 0x2002, 0x2003, 0x2004, 0x2005,
    0x2006, 0x2007, 0x2008, 0x2009, 0x200a, 0x2028, 0x2029, 0x202f, 0x205f, 0x3000]

/-- A blank character is one of these. -/
theorem toNat_mem_blanks {c : Char} (h : isBlank c = true) : c.toNat ∈ blanks := by
  simp only [isBlank, Bool.or_eq_true, Bool.and_eq_true, decide_eq_true_eq, beq_iff_eq] at h
  simp only [blanks, List.mem_cons, List.not_mem_nil, or_false]
  omega

/-- No blank is a character of names. -/
theorem isNameChar_of_isBlank {c : Char} (h : isBlank c = true) : isNameChar c = false := by
  have hall : ∀ n ∈ blanks, isNameChar (Char.ofNat n) = false := by decide +kernel
  have hc := hall c.toNat (toNat_mem_blanks h)
  rwa [Char.ofNat_toNat] at hc

end TreeText.Text
