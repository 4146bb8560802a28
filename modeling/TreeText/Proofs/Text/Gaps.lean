/-
# Gaps between occurrences

The occurrences of a pattern that are replaced cut a text into gaps: the text in front of the first
one, the texts between them, and the text behind the last. Occurrences may overlap in a text. Each
one that is replaced is the leftmost of those that begin behind the one before it, and no other is
left behind the last. This fixes the gaps, and replacing is to put the replacement between them.

* `OccursAt` says that a pattern occurs at a place, and `Gaps` which texts are the gaps of a text.
* `existsUnique_gaps` says that a text has gaps of one kind only.
* `replaceChars_of_gaps` is about replacing, and `replaceChars_of_no_occurrence` about texts without the
  pattern.
-/
import Mathlib.Data.List.Infix
import TreeText.Text.Replace

namespace TreeText.Text

/-! ## Occurrences -/

/-- A pattern occurs in a text behind so many characters. -/
def OccursAt (pattern s : List Char) (place : Nat) : Prop :=
  pattern <+: s.drop place

instance (pattern s : List Char) (place : Nat) : Decidable (OccursAt pattern s place) :=
  inferInstanceAs (Decidable (_ <+: _))

variable {pattern s gap rest : List Char} {place : Nat}

/-- An occurrence that ends in the first of two texts does not depend on the second. -/
theorem occursAt_append_iff (h : place + pattern.length ≤ s.length) :
    OccursAt pattern (s ++ rest) place ↔ OccursAt pattern s place := by
  have hdrop : (s ++ rest).drop place = s.drop place ++ rest :=
    List.drop_append_of_le_length (by omega)
  unfold OccursAt
  rw [hdrop]
  constructor
  · intro hstarts
    refine List.prefix_of_prefix_length_le hstarts (List.prefix_append _ _) ?_
    rw [List.length_drop]
    omega
  · intro hstarts
    exact hstarts.trans (List.prefix_append _ _)

/-- The pattern occurs behind what stands in front of it. -/
theorem occursAt_length_append (gap pattern rest : List Char) :
    OccursAt pattern (gap ++ (pattern ++ rest)) gap.length := by
  unfold OccursAt
  rw [List.drop_left]
  exact List.prefix_append _ _

/-- The search for a pattern finds out whether it occurs. -/
theorem occursIn_eq_true_iff : occursIn pattern s = true ↔ pattern <:+: s := by
  induction s with
  | nil => rw [occursIn, List.isEmpty_iff, List.infix_nil]
  | cons c cs ih =>
    rw [occursIn, Bool.or_eq_true, List.isPrefixOf_iff_prefix, ih, List.infix_cons_iff]

/-- No occurrence in a text begins before the pattern that stands behind it. -/
def IsGap (pattern gap : List Char) : Prop :=
  ∀ place < gap.length, ¬ OccursAt pattern (gap ++ pattern) place

instance (pattern gap : List Char) : Decidable (IsGap pattern gap) :=
  inferInstanceAs (Decidable (∀ place < gap.length, _))

/-- A gap may be read from its second character on. -/
theorem IsGap.tail {c : Char} {cs : List Char} (h : IsGap pattern (c :: cs)) : IsGap pattern cs := by
  intro place hlt hoccurs
  exact h (place + 1) (Nat.succ_lt_succ hlt) hoccurs

/-- The first occurrence in a text stands behind a gap. -/
theorem exists_isGap_of_occurrence (h : pattern <:+: s) :
    ∃ gap rest, s = gap ++ (pattern ++ rest) ∧ IsGap pattern gap := by
  induction s with
  | nil =>
    obtain rfl : pattern = [] := List.infix_nil.1 h
    exact ⟨[], [], rfl, fun place hlt => absurd hlt (Nat.not_lt_zero place)⟩
  | cons c cs ih =>
    by_cases hfront : pattern <+: c :: cs
    · obtain ⟨rest, hrest⟩ := hfront
      exact ⟨[], rest, hrest.symm, fun place hlt => absurd hlt (Nat.not_lt_zero place)⟩
    · obtain ⟨gap, rest, rfl, hgap⟩ := ih ((List.infix_cons_iff.1 h).resolve_left hfront)
      refine ⟨c :: gap, rest, rfl, fun place hlt hoccurs => ?_⟩
      cases place with
      | zero =>
        have hlonger : c :: gap ++ pattern <+: c :: (gap ++ (pattern ++ rest)) :=
          ⟨rest, by simp⟩
        exact hfront (List.IsPrefix.trans hoccurs hlonger)
      | succ place => exact hgap place (Nat.lt_of_succ_lt_succ hlt) hoccurs

/-- Of two gaps in front of occurrences in one text, the second is not shorter than the first. -/
theorem IsGap.length_le {other more : List Char} (h : IsGap pattern gap)
    (hboth : gap ++ (pattern ++ rest) = other ++ (pattern ++ more)) :
    gap.length ≤ other.length := by
  by_contra hlt
  have hplace : other.length < gap.length := Nat.not_le.1 hlt
  -- The second occurrence would begin within the first gap.
  have hoccurs : OccursAt pattern (gap ++ pattern ++ rest) other.length := by
    rw [List.append_assoc, hboth]
    exact occursAt_length_append other pattern more
  have hroom : other.length + pattern.length ≤ (gap ++ pattern).length := by
    rw [List.length_append]
    omega
  exact h other.length hplace ((occursAt_append_iff hroom).1 hoccurs)

/-! ## Gaps -/

/-- The gaps of a text: put together with the pattern between them they are the text, in each of
them with the pattern behind it the pattern occurs no earlier, and in the last one it does not
occur. -/
structure Gaps (pattern s : List Char) (gaps : List (List Char)) : Prop where
  nonempty : gaps ≠ []
  join : pattern.intercalate gaps = s
  before : ∀ gap ∈ gaps.dropLast, IsGap pattern gap
  last : ∀ gap ∈ gaps.getLast?, ¬ pattern <:+: gap

instance (pattern s : List Char) (gaps : List (List Char)) : Decidable (Gaps pattern s gaps) :=
  decidable_of_iff
    (gaps ≠ [] ∧ pattern.intercalate gaps = s ∧ (∀ gap ∈ gaps.dropLast, IsGap pattern gap) ∧
      ∀ gap ∈ gaps.getLast?, ¬ pattern <:+: gap)
    ⟨fun ⟨hn, hj, hb, hl⟩ => ⟨hn, hj, hb, hl⟩, fun ⟨hn, hj, hb, hl⟩ => ⟨hn, hj, hb, hl⟩⟩

variable {gaps : List (List Char)}

/-- A text without the pattern is its only gap. -/
theorem gaps_singleton_iff : Gaps pattern s [gap] ↔ gap = s ∧ ¬ pattern <:+: s := by
  constructor
  · rintro ⟨-, hjoin, -, hlast⟩
    rw [List.intercalate_singleton] at hjoin
    subst hjoin
    exact ⟨rfl, hlast gap rfl⟩
  · rintro ⟨rfl, hnone⟩
    refine ⟨List.cons_ne_nil gap [], List.intercalate_singleton, ?_, ?_⟩
    · exact fun other hm => absurd hm List.not_mem_nil
    · intro other hm
      obtain rfl := Option.some.inj hm
      exact hnone

/-- A text with more gaps begins with the first one and the pattern, and has the other gaps behind
them. -/
theorem gaps_cons_cons_iff {next : List Char} :
    Gaps pattern s (gap :: next :: gaps) ↔
      IsGap pattern gap ∧ ∃ rest, s = gap ++ (pattern ++ rest) ∧
        Gaps pattern rest (next :: gaps) := by
  constructor
  · rintro ⟨-, hjoin, hbefore, hlast⟩
    rw [List.dropLast_cons_cons] at hbefore
    rw [List.getLast?_cons_cons] at hlast
    obtain ⟨hgap, hbefore⟩ := List.forall_mem_cons.1 hbefore
    refine ⟨hgap, pattern.intercalate (next :: gaps), ?_, List.cons_ne_nil next gaps, rfl, hbefore,
      hlast⟩
    rw [← hjoin, List.intercalate_cons_cons, List.append_assoc]
  · rintro ⟨hgap, rest, rfl, -, hjoin, hbefore, hlast⟩
    refine ⟨List.cons_ne_nil gap _, ?_, ?_, ?_⟩
    · rw [List.intercalate_cons_cons, hjoin, List.append_assoc]
    · rw [List.dropLast_cons_cons]
      exact List.forall_mem_cons.2 ⟨hgap, hbefore⟩
    · rw [List.getLast?_cons_cons]
      exact hlast

/-- Every text has gaps. -/
theorem exists_gaps (hp : pattern ≠ []) (s : List Char) : ∃ gaps, Gaps pattern s gaps := by
  induction hn : s.length using Nat.strongRecOn generalizing s with
  | ind n ih =>
    by_cases hstands : pattern <:+: s
    · obtain ⟨gap, rest, rfl, hgap⟩ := exists_isGap_of_occurrence hstands
      have hshorter : rest.length < n := by
        have hpositive : 0 < pattern.length := List.length_pos_of_ne_nil hp
        rw [List.length_append, List.length_append] at hn
        omega
      obtain ⟨gaps, hgaps⟩ := ih rest.length hshorter rest rfl
      obtain ⟨next, gaps, rfl⟩ := List.exists_cons_of_ne_nil hgaps.nonempty
      exact ⟨gap :: next :: gaps, gaps_cons_cons_iff.2 ⟨hgap, rest, rfl, hgaps⟩⟩
    · exact ⟨[s], gaps_singleton_iff.2 ⟨rfl, hstands⟩⟩

/-- A text that is a gap of its own has no occurrence, so it is not cut in another way. -/
theorem Gaps.not_cons_cons {next : List Char} (h : Gaps pattern s [gap])
    {other : List Char} : ¬ Gaps pattern s (other :: next :: gaps) := by
  intro hmore
  obtain ⟨-, rest, rfl, -⟩ := gaps_cons_cons_iff.1 hmore
  exact (gaps_singleton_iff.1 h).2 ⟨other, rest, List.append_assoc _ _ _⟩

/-- A text has no other gaps. -/
theorem Gaps.unique {others : List (List Char)} (h : Gaps pattern s gaps)
    (ho : Gaps pattern s others) : gaps = others := by
  induction gaps generalizing s others with
  | nil => exact absurd rfl h.nonempty
  | cons gap gaps ih =>
    obtain ⟨other, others, rfl⟩ := List.exists_cons_of_ne_nil ho.nonempty
    cases gaps with
    | nil =>
      cases others with
      | nil => rw [(gaps_singleton_iff.1 h).1, (gaps_singleton_iff.1 ho).1]
      | cons next others => exact absurd ho h.not_cons_cons
    | cons next gaps =>
      cases others with
      | nil => exact absurd h ho.not_cons_cons
      | cons next' others =>
        obtain ⟨hgap, rest, rfl, hrest⟩ := gaps_cons_cons_iff.1 h
        obtain ⟨hother, more, hboth, hmore⟩ := gaps_cons_cons_iff.1 ho
        have hlength : gap.length = other.length :=
          Nat.le_antisymm (hgap.length_le hboth) (hother.length_le hboth.symm)
        obtain ⟨rfl, hbehind⟩ := List.append_inj hboth hlength
        obtain rfl : rest = more := List.append_cancel_left hbehind
        rw [ih hrest hmore]

/-- There is one way to cut a text into gaps. -/
theorem existsUnique_gaps (hp : pattern ≠ []) (s : List Char) : ∃! gaps, Gaps pattern s gaps := by
  obtain ⟨gaps, hgaps⟩ := exists_gaps hp s
  exact ⟨gaps, hgaps, fun others hothers => hothers.unique hgaps⟩

/-! ## Replacing -/

/-- What stands in front stays as it is, and the scan goes on behind it, if no occurrence begins
there. -/
theorem replaceChars_append_of_not_occursAt (replacement rest : List Char) {kept : List Char}
    (h : ∀ place < kept.length, ¬ OccursAt pattern (kept ++ rest) place) :
    replaceChars pattern replacement (kept ++ rest) =
      kept ++ replaceChars pattern replacement rest := by
  cases pattern with
  | nil => rfl
  | cons p ps =>
    simp only [replaceChars]
    induction kept with
    | nil => rfl
    | cons c cs ih =>
      have hnone : (p :: ps).isPrefixOf? (c :: (cs ++ rest)) = none := by
        cases hs : (p :: ps).isPrefixOf? (c :: (cs ++ rest)) with
        | none => rfl
        | some more =>
          exact absurd ⟨more, (isPrefixOf?_eq_some_iff.1 hs).symm⟩ (h 0 (Nat.succ_pos _))
      have hbehind : ∀ place < cs.length, ¬ OccursAt (p :: ps) (cs ++ rest) place :=
        fun place hlt => h (place + 1) (Nat.succ_lt_succ hlt)
      rw [List.cons_append, replaceFrom_other hnone, ih hbehind, List.cons_append]

/-- Nothing is replaced in the empty text. -/
theorem replaceChars_nil (pattern replacement : List Char) :
    replaceChars pattern replacement [] = [] := by
  cases pattern with
  | nil => rfl
  | cons p ps => rw [replaceChars, replaceFrom]

/-- A text without the pattern stays as it is. -/
theorem replaceChars_of_no_occurrence (replacement : List Char) (h : ¬ pattern <:+: s) :
    replaceChars pattern replacement s = s := by
  have hnowhere : ∀ place < s.length, ¬ OccursAt pattern (s ++ []) place := by
    intro place _ hoccurs
    rw [List.append_nil] at hoccurs
    exact h (List.IsInfix.trans (List.IsPrefix.isInfix hoccurs) (List.drop_suffix _ _).isInfix)
  have hkept := replaceChars_append_of_not_occursAt replacement [] hnowhere
  rwa [replaceChars_nil, List.append_nil] at hkept

/-- A gap stays as it is, and the occurrence behind it is replaced. -/
theorem replaceChars_gap_append (replacement rest : List Char) (hp : pattern ≠ [])
    (h : IsGap pattern gap) :
    replaceChars pattern replacement (gap ++ (pattern ++ rest)) =
      gap ++ (replacement ++ replaceChars pattern replacement rest) := by
  have hnowhere : ∀ place < gap.length, ¬ OccursAt pattern (gap ++ (pattern ++ rest)) place := by
    intro place hlt hoccurs
    have hroom : place + pattern.length ≤ (gap ++ pattern).length := by
      rw [List.length_append]
      omega
    rw [← List.append_assoc, occursAt_append_iff hroom] at hoccurs
    exact h place hlt hoccurs
  rw [replaceChars_append_of_not_occursAt replacement _ hnowhere]
  obtain ⟨p, ps, rfl⟩ := List.exists_cons_of_ne_nil hp
  simp only [replaceChars]
  rw [replaceFrom_occurrence (isPrefixOf?_eq_some_iff.2 rfl)]

/-- Replacing is to put the replacement between the gaps. -/
theorem replaceChars_of_gaps (replacement : List Char) (hp : pattern ≠ [])
    (h : Gaps pattern s gaps) :
    replaceChars pattern replacement s = replacement.intercalate gaps := by
  induction gaps generalizing s with
  | nil => exact absurd rfl h.nonempty
  | cons gap gaps ih =>
    cases gaps with
    | nil =>
      obtain ⟨rfl, hnone⟩ := gaps_singleton_iff.1 h
      rw [List.intercalate_singleton, replaceChars_of_no_occurrence replacement hnone]
    | cons next gaps =>
      obtain ⟨hgap, rest, rfl, hrest⟩ := gaps_cons_cons_iff.1 h
      rw [replaceChars_gap_append replacement rest hp hgap, ih hrest, List.intercalate_cons_cons,
        List.append_assoc]

end TreeText.Text
