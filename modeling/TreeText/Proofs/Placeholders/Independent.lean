/-
# Placeholders that do not disturb each other

A placeholder whose replacement is not empty and has no character of a pattern does not make that
pattern occur. If this is so for all replacements and all patterns, then no pattern is left at the
end, and there is nothing to be done a second time. If moreover no two patterns have a character in
common, no placeholder changes where another one finds its pattern, and their order is of no matter.

* `Placeholders.apply_leaves_no_pattern` says what is left where replacements are foreign to patterns.
* `Placeholders.apply_insertAll_of_perm` says that independent placeholders may be put in in any order.
-/
import Mathlib.Data.List.Induction
import Mathlib.Data.List.Nodup
import TreeText.Proofs.Placeholders.Apply
import TreeText.Proofs.Text.Apart

namespace TreeText

open Text

/-! ## One placeholder -/

namespace Placeholder

variable {placeholder : Placeholder} {text : String} {pattern : List Char}

/-- Whether or not there is a pattern, what is done to a text is to replace it. -/
theorem toList_apply (placeholder : Placeholder) (text : String) :
    (placeholder.apply text).toList =
      replaceChars placeholder.pattern.toList placeholder.replacement.toList text.toList := by
  rw [apply_eq_replace, replace, String.toList_ofList]

/-- A text in which its pattern does not occur is left alone by a placeholder. -/
theorem apply_of_not_infix (h : placeholder.pattern ≠ "" →
    ¬ placeholder.pattern.toList <:+: text.toList) : placeholder.apply text = text := by
  unfold apply
  by_cases hempty : placeholder.pattern = ""
  · rw [if_pos hempty]
  · have hoccurs : ¬ occurs placeholder.pattern text = true :=
      fun hstands => h hempty (occursIn_eq_true_iff.1 hstands)
    rw [if_neg hempty, if_neg hoccurs]

/-- A replacement that is foreign to a pattern: it is not empty, and it has no character in common
with the pattern. -/
structure Foreign (placeholder : Placeholder) (pattern : List Char) : Prop where
  nonempty : placeholder.replacement ≠ ""
  apart : placeholder.replacement.toList.Disjoint pattern

instance (placeholder : Placeholder) (pattern : List Char) :
    Decidable (placeholder.Foreign pattern) :=
  decidable_of_iff (placeholder.replacement ≠ "" ∧ placeholder.replacement.toList.Disjoint pattern)
    ⟨fun h => ⟨h.1, h.2⟩, fun h => ⟨h.nonempty, h.apart⟩⟩

/-- A foreign replacement has characters. -/
theorem Foreign.toList_ne_nil (h : placeholder.Foreign pattern) :
    placeholder.replacement.toList ≠ [] :=
  fun hnil => h.nonempty (String.toList_eq_nil_iff.1 hnil)

/-- Its own pattern is gone where a placeholder was applied, if the replacement is foreign to it. -/
theorem not_infix_apply_self (hp : placeholder.pattern ≠ "")
    (h : placeholder.Foreign placeholder.pattern.toList) (text : String) :
    ¬ placeholder.pattern.toList <:+: (placeholder.apply text).toList := by
  rw [toList_apply]
  have hchars : placeholder.pattern.toList ≠ [] := fun hnil => hp (String.toList_eq_nil_iff.1 hnil)
  exact not_infix_replaceChars_self hchars h.toList_ne_nil h.apart text.toList

/-- A pattern that does not occur in a text does not come in by a placeholder whose replacement is
foreign to it, or which has nothing to replace. -/
theorem not_infix_apply (h : placeholder.pattern ≠ "" → placeholder.Foreign pattern)
    (hnone : ¬ pattern <:+: text.toList) : ¬ pattern <:+: (placeholder.apply text).toList := by
  by_cases hp : placeholder.pattern = ""
  · rw [apply, if_pos hp]
    exact hnone
  · rw [toList_apply]
    exact not_infix_replaceChars (h hp).toList_ne_nil (h hp).apart hnone

/-- Two placeholders may be applied in any order, if their patterns have no character in common and
the replacement of each is foreign to the pattern of the other. -/
theorem apply_comm {one other : Placeholder} (hone : one.pattern ≠ "") (hother : other.pattern ≠ "")
    (hpatterns : one.pattern.toList.Disjoint other.pattern.toList)
    (hforeign : one.Foreign other.pattern.toList) (hconverse : other.Foreign one.pattern.toList)
    (text : String) : other.apply (one.apply text) = one.apply (other.apply text) := by
  have hp : one.pattern.toList ≠ [] := fun hnil => hone (String.toList_eq_nil_iff.1 hnil)
  have ho : other.pattern.toList ≠ [] := fun hnil => hother (String.toList_eq_nil_iff.1 hnil)
  refine String.toList_inj.1 ?_
  rw [toList_apply, toList_apply, toList_apply, toList_apply]
  exact replaceChars_comm hp ho hforeign.toList_ne_nil hconverse.toList_ne_nil hpatterns
    hforeign.apart hconverse.apart text.toList

end Placeholder

namespace Placeholders

variable {list other : List Placeholder}

/-! ## Patterns that are gone -/

/-- Placeholders whose replacements are foreign to all patterns among them. One with an empty pattern
may have any replacement, as it does nothing. -/
def Foreign (placeholders : Placeholders) : Prop :=
  ∀ one ∈ placeholders.toList, one.pattern ≠ "" →
    ∀ other ∈ placeholders.toList, one.Foreign other.pattern.toList

instance (placeholders : Placeholders) : Decidable placeholders.Foreign :=
  inferInstanceAs (Decidable (∀ one ∈ _, _ → ∀ other ∈ _, _))

/-- A pattern that does not occur in a text does not come in by placeholders whose replacements are
foreign to it. -/
theorem not_infix_apply {pattern : List Char}
    (h : ∀ one ∈ list, one.pattern ≠ "" → one.Foreign pattern) {text : String}
    (hnone : ¬ pattern <:+: text.toList) :
    ¬ pattern <:+: ((⟨list⟩ : Placeholders).apply text).toList := by
  induction list generalizing text with
  | nil => exact hnone
  | cons first rest ih =>
    have hfirst := Placeholder.not_infix_apply (h first List.mem_cons_self) hnone
    exact ih (fun one hmem => h one (List.mem_cons_of_mem _ hmem)) hfirst

/-- Each pattern is gone when its placeholder was applied, and no later one brings it back. -/
theorem not_infix_apply_of_mem
    (h : ∀ one ∈ list, one.pattern ≠ "" → ∀ other ∈ list, one.Foreign other.pattern.toList)
    {placeholder : Placeholder} (hmem : placeholder ∈ list) (hp : placeholder.pattern ≠ "")
    (text : String) :
    ¬ placeholder.pattern.toList <:+: ((⟨list⟩ : Placeholders).apply text).toList := by
  induction list generalizing text with
  | nil => exact absurd hmem List.not_mem_nil
  | cons first rest ih =>
    show ¬ placeholder.pattern.toList <:+:
      ((⟨rest⟩ : Placeholders).apply (first.apply text)).toList
    have hrest : ∀ one ∈ rest, one.pattern ≠ "" → ∀ other ∈ rest, one.Foreign other.pattern.toList :=
      fun one hone hne other hother =>
        h one (List.mem_cons_of_mem _ hone) hne other (List.mem_cons_of_mem _ hother)
    rcases List.mem_cons.1 hmem with rfl | hlater
    · have hgone := Placeholder.not_infix_apply_self hp
        (h placeholder List.mem_cons_self hp placeholder List.mem_cons_self) text
      exact not_infix_apply (fun one hone hne =>
        h one (List.mem_cons_of_mem _ hone) hne placeholder List.mem_cons_self) hgone
    · exact ih hrest hlater (first.apply text)

/-- A text in which no pattern occurs is left alone. -/
theorem apply_of_not_infix {text : String}
    (h : ∀ one ∈ list, one.pattern ≠ "" → ¬ one.pattern.toList <:+: text.toList) :
    (⟨list⟩ : Placeholders).apply text = text := by
  induction list with
  | nil => rfl
  | cons first rest ih =>
    show (⟨rest⟩ : Placeholders).apply (first.apply text) = text
    rw [Placeholder.apply_of_not_infix (h first List.mem_cons_self)]
    exact ih fun one hmem => h one (List.mem_cons_of_mem _ hmem)

/-- Where every replacement is foreign to every pattern, no pattern that is not empty occurs in the
outcome, and the same placeholders do not change the outcome any more. -/
theorem apply_leaves_no_pattern (placeholders : Placeholders) (h : placeholders.Foreign)
    (text : String) :
    (∀ one ∈ placeholders.toList, one.pattern ≠ "" →
      ¬ one.pattern.toList <:+: (placeholders.apply text).toList) ∧
    placeholders.apply (placeholders.apply text) = placeholders.apply text := by
  have hgone : ∀ one ∈ placeholders.toList, one.pattern ≠ "" →
      ¬ one.pattern.toList <:+: (placeholders.apply text).toList :=
    fun one hmem hp => not_infix_apply_of_mem h hmem hp text
  exact ⟨hgone, apply_of_not_infix hgone⟩

/-- Two patterns that overlap each other, and an empty one with a replacement that is foreign to
neither. -/
theorem apply_leaves_no_pattern_overlapping :
    let placeholders : Placeholders := ⟨[⟨"ab", "-"⟩, ⟨"", "ab"⟩, ⟨"bb", "--"⟩]⟩
    placeholders.Foreign ∧ placeholders.apply "aabbb" = "a---" ∧
      ¬ "ab".toList <:+: "a---".toList ∧ placeholders.apply "a---" = "a---" := by
  intro placeholders
  have hforeign : placeholders.Foreign := by decide +kernel
  have happly : placeholders.apply "aabbb" = "a---" := by decide +kernel
  obtain ⟨hgone, hagain⟩ := apply_leaves_no_pattern placeholders hforeign "aabbb"
  rw [happly] at hgone hagain
  exact ⟨hforeign, happly, hgone ⟨"ab", "-"⟩ List.mem_cons_self (by decide), hagain⟩

-- A replacement has to be there: what stood around the pattern may make it up again.
example : (⟨[⟨"ab", ""⟩]⟩ : Placeholders).apply "aabb" = "ab" := by decide +kernel

/-! ## Any order -/

/-- Placeholders that are independent: each has a pattern of its own and a replacement, no two
patterns have a character in common, and no replacement has one in common with a pattern. -/
structure Independent (list : List Placeholder) : Prop where
  nodup : (list.map (·.pattern)).Nodup
  pattern_ne : ∀ one ∈ list, one.pattern ≠ ""
  replacement_ne : ∀ one ∈ list, one.replacement ≠ ""
  patterns : ∀ one ∈ list, ∀ other ∈ list, one.pattern ≠ other.pattern →
    one.pattern.toList.Disjoint other.pattern.toList
  replacements : ∀ one ∈ list, ∀ other ∈ list,
    one.replacement.toList.Disjoint other.pattern.toList

instance (list : List Placeholder) : Decidable (Independent list) :=
  decidable_of_iff
    ((list.map (·.pattern)).Nodup ∧ (∀ one ∈ list, one.pattern ≠ "") ∧
      (∀ one ∈ list, one.replacement ≠ "") ∧
      (∀ one ∈ list, ∀ other ∈ list, one.pattern ≠ other.pattern →
        one.pattern.toList.Disjoint other.pattern.toList) ∧
      ∀ one ∈ list, ∀ other ∈ list, one.replacement.toList.Disjoint other.pattern.toList)
    ⟨fun ⟨hn, hp, hr, hps, hrs⟩ => ⟨hn, hp, hr, hps, hrs⟩,
      fun ⟨hn, hp, hr, hps, hrs⟩ => ⟨hn, hp, hr, hps, hrs⟩⟩

/-- Replacements of independent placeholders are foreign to their patterns. -/
theorem Independent.foreign (h : Independent list) {one other : Placeholder} (hone : one ∈ list)
    (hother : other ∈ list) : one.Foreign other.pattern.toList :=
  ⟨h.replacement_ne one hone, h.replacements one hone other hother⟩

/-- Independent placeholders may change places. -/
theorem Independent.apply_comm (h : Independent list) {one other : Placeholder} (hone : one ∈ list)
    (hother : other ∈ list) (text : String) :
    other.apply (one.apply text) = one.apply (other.apply text) := by
  by_cases hsame : one.pattern = other.pattern
  · obtain rfl : one = other := List.inj_on_of_nodup_map h.nodup hone hother hsame
    rfl
  · exact Placeholder.apply_comm (h.pattern_ne one hone) (h.pattern_ne other hother)
      (h.patterns one hone other hother hsame) (h.foreign hone hother) (h.foreign hother hone) text

/-- A placeholder with a pattern of its own comes last. -/
theorem put_of_notMem {placeholder : Placeholder}
    (h : placeholder.pattern ∉ list.map (·.pattern)) :
    put placeholder list = list ++ [placeholder] := by
  induction list with
  | nil => rfl
  | cons first rest ih =>
    rw [List.map_cons, List.mem_cons, not_or] at h
    rw [put, if_neg (Ne.symm h.1), ih h.2, List.cons_append]

/-- Placeholders that each have a pattern of their own are put in as they are listed. -/
theorem insertAll_empty_of_nodup (h : (list.map (·.pattern)).Nodup) :
    empty.insertAll list = ⟨list⟩ := by
  induction list using List.reverseRecOn with
  | nil => rfl
  | append_singleton list last ih =>
    rw [List.map_append, List.map_singleton, List.nodup_append] at h
    obtain ⟨hlist, -, hapart⟩ := h
    have hnew : last.pattern ∉ list.map (·.pattern) := fun hmem =>
      hapart last.pattern hmem last.pattern List.mem_cons_self rfl
    have hstep : empty.insertAll (list ++ [last]) = (empty.insertAll list).insert last := by
      rw [insertAll, List.foldl_append]
      rfl
    rw [hstep, ih hlist, insert, put_of_notMem hnew]

/-- Independent placeholders make the same of every text, in whatever order they are put in. -/
theorem apply_insertAll_of_perm (h : Independent list) (hperm : list.Perm other) (text : String) :
    (empty.insertAll list).apply text = (empty.insertAll other).apply text := by
  have hother : (other.map (·.pattern)).Nodup :=
    (hperm.map fun placeholder => placeholder.pattern).nodup_iff.1 h.nodup
  rw [insertAll_empty_of_nodup h.nodup, insertAll_empty_of_nodup hother]
  exact hperm.foldl_eq' (fun one hone next hnext current => h.apply_comm hone hnext current) text

/-- Two patterns that overlap with themselves, beside each other in a text, in both orders. -/
theorem apply_insertAll_of_perm_overlapping :
    let list : List Placeholder := [⟨"aa", "-"⟩, ⟨"bcb", "--"⟩]
    let other : List Placeholder := [⟨"bcb", "--"⟩, ⟨"aa", "-"⟩]
    Independent list ∧ list.Perm other ∧
      (empty.insertAll list).apply "aaabcbcbaa" = "-a--cb-" ∧
      (empty.insertAll list).apply "aaabcbcbaa" = (empty.insertAll other).apply "aaabcbcbaa" := by
  intro list other
  have hindependent : Independent list := by decide +kernel
  have hperm : list.Perm other := List.Perm.swap _ _ _
  exact ⟨hindependent, hperm, by decide +kernel,
    apply_insertAll_of_perm hindependent hperm "aaabcbcbaa"⟩

end Placeholders

end TreeText
