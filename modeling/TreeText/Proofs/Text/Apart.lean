/-
# Texts without a common character

A pattern that has no character in common with a piece of a text occurs on the one side of that piece
or on the other, if the piece is not empty. So a replacement that is not empty and has no character
in common with a pattern makes no occurrence of it, and a scan for the pattern goes on behind the
replacement as if it began there. Each half of the condition is needed: without `ab` the text `aabb`
is `ab`.

* `infix_append_append_iff` and `infix_intercalate_iff` say where such a pattern occurs.
* `not_infix_replaceChars_self` says that a pattern is gone after it was replaced, and
  `not_infix_replaceChars` that no other comes in.
* `replaceChars_comm` says that two patterns may be replaced in any order.
-/
import Mathlib.Data.List.Basic
import TreeText.Proofs.Text.Gaps

namespace TreeText.Text

instance decidableDisjoint (one other : List Char) : Decidable (one.Disjoint other) :=
  -- It is enough to go through the characters of the one text, not through all that there are.
  decidable_of_iff ((one.all fun c => decide (c ∉ other)) = true) <| by
    simp only [List.all_eq_true, decide_eq_true_eq, List.disjoint_left]

variable {pattern between replacement s front back : List Char}

/-! ## Occurrences beside a piece -/

/-- A beginning without a certain character ends before that character. -/
theorem prefix_append_cons_iff {c : Char} (hc : c ∉ pattern) :
    pattern <+: front ++ c :: back ↔ pattern <+: front := by
  constructor
  · intro hstarts
    by_cases hlength : pattern.length ≤ front.length
    · exact List.prefix_of_prefix_length_le hstarts (List.prefix_append _ _) hlength
    · -- A longer beginning would have the character in it.
      have hthrough : front ++ [c] <+: front ++ c :: back := ⟨back, by simp⟩
      have hroom : (front ++ [c]).length ≤ pattern.length := by
        rw [List.length_append, List.length_singleton]
        omega
      have hinside := List.prefix_of_prefix_length_le hthrough hstarts hroom
      exact absurd (hinside.subset (List.mem_append_right _ List.mem_cons_self)) hc
  · intro hstarts
    exact hstarts.trans (List.prefix_append _ _)

/-- A pattern without a certain character occurs in front of that character or behind it. -/
theorem infix_append_cons_iff {c : Char} (hc : c ∉ pattern) :
    pattern <:+: front ++ c :: back ↔ pattern <:+: front ∨ pattern <:+: back := by
  induction front with
  | nil =>
    have hstarts : pattern <+: c :: back ↔ pattern <+: [] :=
      @prefix_append_cons_iff pattern [] back c hc
    rw [List.nil_append, List.infix_cons_iff, hstarts, List.prefix_nil, List.infix_nil]
  | cons d front ih =>
    have hstarts : pattern <+: d :: (front ++ c :: back) ↔ pattern <+: d :: front :=
      @prefix_append_cons_iff pattern (d :: front) back c hc
    rw [List.cons_append, List.infix_cons_iff, hstarts, ih, List.infix_cons_iff, or_assoc]

/-- A pattern occurs in front of a piece or behind it, if the piece is not empty and has no character
in common with the pattern. -/
theorem infix_append_append_iff (hne : between ≠ []) (hapart : between.Disjoint pattern) :
    pattern <:+: front ++ (between ++ back) ↔ pattern <:+: front ∨ pattern <:+: back := by
  induction between generalizing front with
  | nil => exact absurd rfl hne
  | cons c cs ih =>
    obtain ⟨hc, hcs⟩ := List.disjoint_cons_left.1 hapart
    rw [List.cons_append, infix_append_cons_iff hc]
    by_cases hlast : cs = []
    · rw [hlast, List.nil_append]
    · have hbehind : pattern <:+: cs ++ back ↔ pattern <:+: [] ∨ pattern <:+: back :=
        @ih [] hlast hcs
      rw [hbehind, List.infix_nil]
      constructor
      · rintro (hfront | rfl | hback)
        · exact Or.inl hfront
        · exact Or.inl List.nil_infix
        · exact Or.inr hback
      · exact Or.imp_right Or.inr

/-- A piece occurs in what it is put together to. -/
theorem infix_intercalate_of_mem {pieces : List (List Char)} {piece : List Char}
    (h : piece ∈ pieces) : piece <:+: between.intercalate pieces := by
  induction pieces with
  | nil => exact absurd h List.not_mem_nil
  | cons first pieces ih =>
    cases pieces with
    | nil =>
      rw [List.mem_singleton.1 h, List.intercalate_singleton]
    | cons next pieces =>
      rw [List.intercalate_cons_cons]
      rcases List.mem_cons.1 h with rfl | hlater
      · rw [List.append_assoc]
        exact (List.prefix_append _ _).isInfix
      · exact (ih hlater).trans (List.suffix_append _ _).isInfix

/-- A pattern occurs in what pieces are put together to if it occurs in one of the pieces, and only
then, if what stands between them is not empty and has no character in common with the pattern. -/
theorem infix_intercalate_iff (hp : pattern ≠ []) (hne : between ≠ [])
    (hapart : between.Disjoint pattern) {pieces : List (List Char)} :
    pattern <:+: between.intercalate pieces ↔ ∃ piece ∈ pieces, pattern <:+: piece := by
  constructor
  · intro h
    induction pieces with
    | nil =>
      rw [List.intercalate_nil] at h
      exact absurd (List.infix_nil.1 h) hp
    | cons first pieces ih =>
      cases pieces with
      | nil =>
        rw [List.intercalate_singleton] at h
        exact ⟨first, List.mem_cons_self, h⟩
      | cons next pieces =>
        rw [List.intercalate_cons_cons, List.append_assoc,
          infix_append_append_iff hne hapart] at h
        rcases h with hfirst | hlater
        · exact ⟨first, List.mem_cons_self, hfirst⟩
        · obtain ⟨piece, hmem, hstands⟩ := ih hlater
          exact ⟨piece, List.mem_cons_of_mem _ hmem, hstands⟩
  · rintro ⟨piece, hmem, hstands⟩
    exact hstands.trans (infix_intercalate_of_mem hmem)

/-! ## Gaps and the pattern between them -/

/-- A text is a gap if the pattern occurs nowhere in it and in all but the last character of the
pattern behind it. -/
theorem isGap_iff {gap : List Char} (hp : pattern ≠ []) :
    IsGap pattern gap ↔ ¬ pattern <:+: gap ++ pattern.dropLast := by
  have hlast : pattern.dropLast ++ [pattern.getLast hp] = pattern :=
    List.dropLast_concat_getLast hp
  have hwhole : gap ++ pattern = gap ++ pattern.dropLast ++ [pattern.getLast hp] := by
    rw [List.append_assoc, hlast]
  have hlength : (gap ++ pattern.dropLast).length + 1 = gap.length + pattern.length := by
    have hpositive : 0 < pattern.length := List.length_pos_of_ne_nil hp
    rw [List.length_append, List.length_dropLast]
    omega
  constructor
  · rintro hgap ⟨before, after, hstands⟩
    have hoccurs : OccursAt pattern (gap ++ pattern) before.length := by
      rw [hwhole, ← hstands, List.append_assoc, List.append_assoc]
      exact occursAt_length_append before pattern _
    have hplace : before.length < gap.length := by
      rw [← hstands, List.length_append, List.length_append] at hlength
      omega
    exact hgap before.length hplace hoccurs
  · intro hnone place hplace hoccurs
    have hroom : place + pattern.length ≤ (gap ++ pattern.dropLast).length := by omega
    rw [hwhole, occursAt_append_iff hroom] at hoccurs
    exact hnone (List.IsInfix.trans (List.IsPrefix.isInfix hoccurs) (List.drop_suffix _ _).isInfix)

/-- The pattern occurs in none of the gaps of a text. -/
theorem Gaps.not_infix {gaps : List (List Char)} (h : Gaps pattern s gaps) (hp : pattern ≠ [])
    {gap : List Char} (hmem : gap ∈ gaps) : ¬ pattern <:+: gap := by
  rw [← List.dropLast_concat_getLast h.nonempty, List.mem_append, List.mem_singleton] at hmem
  rcases hmem with hbefore | rfl
  · intro hstands
    have hlonger : gap <:+: gap ++ pattern.dropLast := (List.prefix_append _ _).isInfix
    exact (isGap_iff hp).1 (h.before gap hbefore) (hstands.trans hlonger)
  · exact h.last _ (List.getLast?_eq_some_getLast h.nonempty)

/-! ## What is gone and what does not come in -/

/-- A pattern is gone after it was replaced by a text that is not empty and has no character in
common with it. -/
theorem not_infix_replaceChars_self (hp : pattern ≠ []) (hr : replacement ≠ [])
    (hapart : replacement.Disjoint pattern) (s : List Char) :
    ¬ pattern <:+: replaceChars pattern replacement s := by
  obtain ⟨gaps, hgaps⟩ := exists_gaps hp s
  rw [replaceChars_of_gaps replacement hp hgaps, infix_intercalate_iff hp hr hapart]
  rintro ⟨gap, hmem, hstands⟩
  exact hgaps.not_infix hp hmem hstands

/-- No pattern comes into a text by a replacement that is not empty and has no character in common
with it. -/
theorem not_infix_replaceChars {other : List Char} (hr : replacement ≠ [])
    (hapart : replacement.Disjoint other) (h : ¬ other <:+: s) :
    ¬ other <:+: replaceChars pattern replacement s := by
  by_cases hp : pattern = []
  · rw [hp]
    exact h
  · have ho : other ≠ [] := fun hnil => h (hnil ▸ List.nil_infix)
    obtain ⟨gaps, hgaps⟩ := exists_gaps hp s
    rw [replaceChars_of_gaps replacement hp hgaps, infix_intercalate_iff ho hr hapart]
    rintro ⟨gap, hmem, hstands⟩
    rw [← hgaps.join] at h
    exact h (hstands.trans (infix_intercalate_of_mem hmem))

/-! ## Scans that go on behind a piece -/

/-- A piece stays as it is, and the texts on its two sides are scanned on their own, if it is not
empty and has no character in common with the pattern. -/
theorem replaceChars_append_append (hp : pattern ≠ []) (hne : between ≠ [])
    (hapart : between.Disjoint pattern) (front back : List Char) :
    replaceChars pattern replacement (front ++ (between ++ back)) =
      replaceChars pattern replacement front ++
        (between ++ replaceChars pattern replacement back) := by
  -- No occurrence begins in the piece, as it would have its first character from there.
  have hpiece : replaceChars pattern replacement (between ++ back) =
      between ++ replaceChars pattern replacement back := by
    refine replaceChars_append_of_not_occursAt replacement back fun place hlt hoccurs => ?_
    rw [OccursAt, List.drop_append_of_le_length (Nat.le_of_lt hlt), List.drop_eq_getElem_cons hlt,
      List.cons_append] at hoccurs
    obtain ⟨p, ps, rfl⟩ := List.exists_cons_of_ne_nil hp
    have hfirst : p = between[place] := (List.cons_prefix_cons.1 hoccurs).1
    exact hapart (List.getElem_mem hlt) (hfirst ▸ List.mem_cons_self)
  obtain ⟨gaps, hgaps⟩ := exists_gaps hp front
  induction gaps generalizing front with
  | nil => exact absurd rfl hgaps.nonempty
  | cons gap gaps ih =>
    cases gaps with
    | nil =>
      obtain ⟨rfl, hnone⟩ := gaps_singleton_iff.1 hgaps
      rw [replaceChars_of_no_occurrence replacement hnone, ← hpiece]
      refine replaceChars_append_of_not_occursAt replacement _ fun place hlt hoccurs => hnone ?_
      -- An occurrence that begins in front of the piece ends there.
      obtain ⟨c, cs, rfl⟩ := List.exists_cons_of_ne_nil hne
      have hc : c ∉ pattern := (List.disjoint_cons_left.1 hapart).1
      rw [OccursAt, List.drop_append_of_le_length (Nat.le_of_lt hlt), List.cons_append,
        prefix_append_cons_iff hc] at hoccurs
      exact hoccurs.isInfix.trans (List.drop_suffix _ _).isInfix
    | cons next gaps =>
      obtain ⟨hgap, rest, rfl, hrest⟩ := gaps_cons_cons_iff.1 hgaps
      rw [List.append_assoc, List.append_assoc, replaceChars_gap_append replacement _ hp hgap,
        ih rest hrest, replaceChars_gap_append replacement _ hp hgap, List.append_assoc,
        List.append_assoc]

/-- Pieces are scanned on their own, if what stands between them is not empty and has no character in
common with the pattern. -/
theorem replaceChars_intercalate (hp : pattern ≠ []) (hne : between ≠ [])
    (hapart : between.Disjoint pattern) {pieces : List (List Char)} (hpieces : pieces ≠ []) :
    replaceChars pattern replacement (between.intercalate pieces) =
      between.intercalate (pieces.map (replaceChars pattern replacement)) := by
  induction pieces with
  | nil => exact absurd rfl hpieces
  | cons first pieces ih =>
    cases pieces with
    | nil => rw [List.map_singleton, List.intercalate_singleton, List.intercalate_singleton]
    | cons next pieces =>
      rw [List.intercalate_cons_cons, List.append_assoc,
        replaceChars_append_append hp hne hapart, ih (List.cons_ne_nil next pieces)]
      simp only [List.map_cons, List.intercalate_cons_cons, List.append_assoc]

/-! ## Two patterns -/

section

variable {other further : List Char}

/-- What another pattern is replaced by makes no earlier occurrence in front of the pattern, so gaps
remain gaps. -/
theorem IsGap.replaceChars {gap : List Char} (h : IsGap pattern gap) (hp : pattern ≠ [])
    (ho : other ≠ []) (hf : further ≠ []) (hpatterns : pattern.Disjoint other)
    (hapart : further.Disjoint pattern) : IsGap pattern (replaceChars other further gap) := by
  rw [isGap_iff hp] at h ⊢
  by_cases hone : pattern.dropLast = []
  · rw [hone, List.append_nil] at h ⊢
    exact not_infix_replaceChars hf hapart h
  · -- The beginning of the pattern stands behind the gap, and is scanned over.
    have hbeginning : pattern.dropLast.Disjoint other :=
      List.disjoint_of_subset_left (List.dropLast_subset pattern) hpatterns
    have hscan : Text.replaceChars other further (gap ++ (pattern.dropLast ++ [])) =
        Text.replaceChars other further gap ++
          (pattern.dropLast ++ Text.replaceChars other further []) :=
      replaceChars_append_append ho hone hbeginning gap []
    rw [replaceChars_nil, List.append_nil] at hscan
    rw [← hscan]
    exact not_infix_replaceChars hf hapart h

/-- The gaps of a text remain its gaps while another pattern is replaced in each of them. -/
theorem Gaps.map_replaceChars {gaps : List (List Char)} (h : Gaps pattern s gaps)
    (hp : pattern ≠ []) (ho : other ≠ []) (hf : further ≠ []) (hpatterns : pattern.Disjoint other)
    (hapart : further.Disjoint pattern) :
    Gaps pattern (replaceChars other further s) (gaps.map (replaceChars other further)) where
  nonempty := fun hnil => h.nonempty (List.map_eq_nil_iff.1 hnil)
  join := by rw [← h.join, replaceChars_intercalate ho hp hpatterns h.nonempty]
  before := by
    intro gap hmem
    rw [← List.map_dropLast] at hmem
    obtain ⟨gap, hbefore, rfl⟩ := List.mem_map.1 hmem
    exact (h.before gap hbefore).replaceChars hp ho hf hpatterns hapart
  last := by
    intro gap hmem
    rw [List.getLast?_map] at hmem
    obtain ⟨gap, hlast, rfl⟩ := Option.map_eq_some_iff.1 hmem
    exact not_infix_replaceChars hf hapart (h.last gap hlast)

/-- Two patterns may be replaced in any order, if the replacements are not empty and no pattern has a
character in common with the other pattern or with what the other is replaced by. -/
theorem replaceChars_comm (hp : pattern ≠ []) (ho : other ≠ []) (hr : replacement ≠ [])
    (hf : further ≠ []) (hpatterns : pattern.Disjoint other)
    (hreplacement : replacement.Disjoint other) (hfurther : further.Disjoint pattern)
    (s : List Char) :
    replaceChars other further (replaceChars pattern replacement s) =
      replaceChars pattern replacement (replaceChars other further s) := by
  obtain ⟨gaps, hgaps⟩ := exists_gaps hp s
  have hlater := hgaps.map_replaceChars hp ho hf hpatterns hfurther
  rw [replaceChars_of_gaps replacement hp hgaps, replaceChars_of_gaps replacement hp hlater,
    replaceChars_intercalate ho hr hreplacement hgaps.nonempty]

end

end TreeText.Text
