/-
# Selectors and their alternatives

What stands between the commas of a selector, without the blanks at both ends, is a selector of its
own. The selector is accepted exactly if each of these is, and it selects what one of them selects.
So it is the same to join selectors by commas and to use each of them.

* `alternatives` are the selectors between the commas.
* `alternatives_intercalate` and `accepts_intercalate_iff` are about joined selectors.
* `selects_eq_any_alternatives` says what a selector selects.
-/
import TreeText.Proofs.Descent.Grammar
import TreeText.Proofs.Registry.Request
import TreeText.Proofs.Text.Pieces

namespace TreeText.Descent

open Text

/-- What stands between the commas of a selector, without the blanks at both ends. -/
def alternatives (selector : String) : List String :=
  (pieces (· == ',') selector.toList).map fun piece => trim (String.ofList piece)

/-! ## Joined selectors -/

/-- The pieces of joined selectors are those of all of them. -/
theorem pieces_toList_intercalate {parts : List String} (hne : parts ≠ []) :
    pieces (· == ',') (",".intercalate parts).toList =
      parts.flatMap fun part => pieces (· == ',') part.toList := by
  have hne' : parts.map String.toList ≠ [] := List.map_eq_nil_iff.not.2 hne
  rw [String.toList_intercalate]
  show pieces _ ([','].intercalate _) = _
  rw [pieces_intercalate_eq_flatMap hne' rfl, List.flatMap_map]

/-- Joined selectors have the alternatives of all of them. -/
theorem alternatives_intercalate {parts : List String} (hne : parts ≠ []) :
    alternatives (",".intercalate parts) = parts.flatMap alternatives := by
  rw [alternatives, pieces_toList_intercalate hne, List.map_flatMap]
  rfl

/-- A selector is accepted exactly if each of its pieces writes an alternative. -/
theorem accepts_iff {selector : String} :
    matcher.Accepts selector ↔
      ∀ piece ∈ pieces (· == ',') selector.toList,
        ∃ alternative, Alternative.Writes piece alternative := by
  have hcheck : (matcher.check selector).isOk = true ↔
      ∀ piece ∈ pieces (· == ',') selector.toList,
        ∃ alternative, Alternative.Writes piece alternative := by
    rw [← exists_forall₂_iff]
    simp only [← read_eq_ok_iff]
    rw [← check_eq_ok_iff]
    cases matcher.check selector with
    | error fault => exact iff_of_false nofun nofun
    | ok done => exact iff_of_true rfl rfl
  unfold Matcher.Accepts
  rw [hcheck, and_iff_right_iff_imp]
  intro h
  -- A blank selector is its only piece, which has no words.
  rw [Bool.eq_false_iff]
  intro hblank
  have hall : ∀ c ∈ selector.toList, isBlank c = true := List.all_eq_true.1 hblank
  have hno : ∀ c ∈ selector.toList, (c == ',') = false := by
    intro c hc
    rw [beq_eq_false_iff_ne]
    rintro rfl
    exact absurd (hall ',' hc) (by decide)
  rw [pieces_of_no_cut hno] at h
  obtain ⟨alternative, hwords, -⟩ := h selector.toList (List.mem_singleton_self _)
  exact hwords (words_of_all_blank hall)

/-- Joined selectors are accepted exactly if all of them are. -/
theorem accepts_intercalate_iff {parts : List String} (hne : parts ≠ []) :
    matcher.Accepts (",".intercalate parts) ↔ ∀ part ∈ parts, matcher.Accepts part := by
  rw [accepts_iff, pieces_toList_intercalate hne, List.forall_mem_flatMap]
  simp only [accepts_iff]

/-! ## What is selected -/

variable {doc : Document} {node : Nat}

/-- A piece without commas selects what the alternative selects that it writes, also without the
blanks at both ends. -/
theorem selects_trim {piece : List Char} (hno : ∀ c ∈ piece, (c == ',') = false)
    {alternative : Alternative} (h : Alternative.Writes piece alternative) :
    selects doc node (trim (String.ofList piece)) = alternative.selects doc node := by
  have htrim : (trim (String.ofList piece)).toList = trimChars piece := by
    rw [trim, String.toList_ofList, String.toList_ofList]
  have hread : read (trim (String.ofList piece)) = .ok [alternative] := by
    have hno' : ∀ c ∈ trimChars piece, (c == ',') = false :=
      fun c hc => hno c (trimChars_subset piece hc)
    have hwrites : Alternative.Writes (trimChars piece) alternative := by
      unfold Alternative.Writes
      rw [words_trimChars]
      exact h
    rw [read_eq_ok_iff, htrim, pieces_of_no_cut hno']
    exact .cons hwrites .nil
  rw [selects, hread]
  exact Bool.or_false _

/-- Alternatives select what the pieces select that write them. -/
theorem any_selects_of_writes {texts : List (List Char)} {list : List Alternative}
    (h : List.Forall₂ Alternative.Writes texts list)
    (hno : ∀ piece ∈ texts, ∀ c ∈ piece, (c == ',') = false) :
    list.any (Alternative.selects doc node) =
      (texts.map fun piece => trim (String.ofList piece)).any (selects doc node) := by
  induction h with
  | nil => rfl
  | cons hwrites _ ih =>
    obtain ⟨hfirst, hrest⟩ := List.forall_mem_cons.1 hno
    rw [List.any_cons, List.map_cons, List.any_cons, ih hrest, selects_trim hfirst hwrites]

/-- An accepted selector selects what one of its alternatives selects. -/
theorem selects_eq_any_alternatives {selector : String} (h : matcher.Accepts selector) :
    selects doc node selector = (alternatives selector).any (selects doc node) := by
  obtain ⟨list, hwrites⟩ := exists_forall₂_iff.2 (accepts_iff.1 h)
  have hselects : selects doc node selector = list.any (Alternative.selects doc node) := by
    unfold selects
    rw [read_eq_ok_iff.2 hwrites]
  have hno : ∀ piece ∈ pieces (· == ',') selector.toList, ∀ c ∈ piece, (c == ',') = false :=
    fun piece hpiece => isCut_of_mem_pieces piece hpiece
  rw [hselects, any_selects_of_writes hwrites hno, alternatives]

end TreeText.Descent
