/-
# Entries read one after the other

A list of entries is read from the first to the last, up to one that cannot be read. So it is read
exactly if each entry is, and the results stand in the order of the entries.
-/
import Mathlib.Data.List.Forall2

namespace TreeText

variable {ε α β : Type} {as : List α} {bs : List β}

/-- Entries are read one after the other exactly if each is read as the result in its place. -/
theorem mapM_eq_ok_iff_forall₂ {read : α → Except ε β} :
    as.mapM read = .ok bs ↔ List.Forall₂ (fun a b => read a = .ok b) as bs := by
  induction as generalizing bs with
  | nil =>
    rw [List.mapM_nil, List.forall₂_nil_left_iff]
    exact ⟨fun h => (Except.ok.inj h).symm, fun h => h ▸ rfl⟩
  | cons a as ih =>
    rw [List.mapM_cons, List.forall₂_cons_left_iff]
    constructor
    · intro h
      cases ha : read a with
      | error fault =>
        rw [ha] at h
        cases h
      | ok b =>
        cases has : as.mapM read with
        | error fault =>
          rw [ha, has] at h
          cases h
        | ok rest =>
          rw [ha, has] at h
          cases h
          exact ⟨b, rest, rfl, ih.1 has, rfl⟩
    · rintro ⟨b, rest, ha, has, rfl⟩
      rw [ha, ih.2 has]
      rfl

/-- Entries have what each is filled with exactly if all of them are complete. -/
theorem forall₂_and_eq_iff {Complete : α → Prop} {filled : α → β} :
    List.Forall₂ (fun a b => Complete a ∧ b = filled a) as bs ↔
      (∀ a ∈ as, Complete a) ∧ bs = as.map filled := by
  have hmap : List.Forall₂ (fun a b => b = filled a) as bs ↔
      List.Forall₂ (· = ·) (as.map filled) bs := by
    rw [List.forall₂_map_left_iff]
    simp only [eq_comm]
  rw [List.forall₂_and_left, hmap, List.forall₂_eq_eq_eq, eq_comm]

/-- Entries are read one after the other exactly if all of them can be read. -/
theorem mapM_eq_ok_iff {read : α → Except ε β} {Complete : α → Prop} {filled : α → β}
    (hread : ∀ a b, read a = .ok b ↔ Complete a ∧ b = filled a) :
    as.mapM read = .ok bs ↔ (∀ a ∈ as, Complete a) ∧ bs = as.map filled := by
  rw [mapM_eq_ok_iff_forall₂, ← forall₂_and_eq_iff]
  simp only [hread]

/-- There are results for all entries exactly if there is one for each. -/
theorem exists_forall₂_iff {related : α → β → Prop} :
    (∃ bs, List.Forall₂ related as bs) ↔ ∀ a ∈ as, ∃ b, related a b := by
  induction as with
  | nil => exact iff_of_true ⟨[], .nil⟩ fun _ hmem => absurd hmem List.not_mem_nil
  | cons a as ih =>
    rw [List.forall_mem_cons, ← ih]
    constructor
    · rintro ⟨bs, h⟩
      cases h with
      | cons hfirst hrest => exact ⟨⟨_, hfirst⟩, _, hrest⟩
    · rintro ⟨⟨b, hfirst⟩, bs, hrest⟩
      exact ⟨b :: bs, .cons hfirst hrest⟩

end TreeText
