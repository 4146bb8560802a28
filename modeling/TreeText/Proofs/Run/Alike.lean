/-
# Runs that look alike

Two runs look alike if neither ends, or if both end in the same way and their events match one by
one. Events match if they differ in the numbers of nodes only, and in what of their calls does not
count.

* `Run.Alike` is that relation, and `Run.Alike.bind` and its companions say that runs look alike if
  they are made in the same way of runs that do.
* `Run.alike_gather` joins texts of which some are empty and leave no trace.
-/
import Mathlib.Data.List.Forall2
import TreeText.Proofs.Run.Events

namespace TreeText

/-- Two events of one kind that show the same, or two calls that count as the same. -/
inductive Event.Alike (same : Call → Call → Prop) : Event → Event → Prop where
  | called {call₁ call₂ : Call} (h : same call₁ call₂) : Alike same (.called call₁) (.called call₂)
  | content (given : Except ConversionError String) : Alike same (.content given) (.content given)
  | converted (node₁ node₂ : Nat) (given : Except ConversionError String) :
      Alike same (.converted node₁ given) (.converted node₂ given)
  | answered (answer : Except ConversionError (Option String)) :
      Alike same (.answered answer) (.answered answer)

/-- Where events match one by one, each call counts as the same as some other. -/
theorem Event.exists_of_mem_calls {same : Call → Call → Prop} {events₁ events₂ : List Event}
    (h : List.Forall₂ (Event.Alike same) events₁ events₂) {call : Call}
    (hm : call ∈ Event.calls events₁) : ∃ other, same call other := by
  induction h with
  | nil => cases hm
  | cons halike _ ih =>
    cases halike with
    | called hsame =>
      rcases List.mem_cons.1 hm with rfl | hm
      · exact ⟨_, hsame⟩
      · exact ih hm
    | content given => exact ih hm
    | converted node₁ node₂ given => exact ih hm
    | answered answer => exact ih hm

namespace Run

variable {α β ι κ γ : Type} {same : Call → Call → Prop}

/-- Two runs of which neither ends, or which end in the same way behind events that match. -/
inductive Alike (same : Call → Call → Prop) : Run α → Run α → Prop where
  | tooDeep : Alike same tooDeep tooDeep
  | ends {events₁ events₂ : List Event} (h : List.Forall₂ (Event.Alike same) events₁ events₂)
      (result : Except ConversionError α) :
      Alike same (some (events₁, result)) (some (events₂, result))

/-- Where one of two runs that look alike ends, so does the other, in the same way. -/
theorem Alike.exists_of_ends {run₁ run₂ : Run α} (h : Alike same run₁ run₂) (he : run₁.Ends) :
    ∃ events₁ events₂ result, run₁ = some (events₁, result) ∧ run₂ = some (events₂, result) ∧
      List.Forall₂ (Event.Alike same) events₁ events₂ := by
  cases h with
  | tooDeep =>
    obtain ⟨events, result, hrun⟩ := he
    cases hrun
  | @ends events₁ events₂ hevents result => exact ⟨events₁, events₂, result, rfl, rfl, hevents⟩

/-! ## Single runs -/

theorem alike_pure (value : α) : Alike same (pure value) (pure value) :=
  .ends .nil (.ok value)

theorem alike_fail (error : ConversionError) : Alike same (fail error : Run α) (fail error) :=
  .ends .nil (.error error)

theorem alike_ofExcept (result : Except ConversionError α) :
    Alike same (ofExcept result) (ofExcept result) :=
  .ends .nil result

/-- Events that match give runs that look alike. -/
theorem alike_note {event₁ event₂ : Event} (h : Event.Alike same event₁ event₂) :
    Alike same (note event₁) (note event₂) :=
  .ends (.cons h .nil) (.ok ())

/-! ## Runs made of runs -/

/-- Turning failures into values keeps runs alike. -/
theorem Alike.attempt {run₁ run₂ : Run α} (h : Alike same run₁ run₂) :
    Alike same run₁.attempt run₂.attempt := by
  cases h with
  | tooDeep => exact .tooDeep
  | ends hevents result => exact .ends hevents (.ok result)

/-- One run after another looks like the same done with runs that look alike. -/
theorem Alike.bind {run₁ run₂ : Run α} {next₁ next₂ : α → Run β} (h : Alike same run₁ run₂)
    (hnext : ∀ value, Alike same (next₁ value) (next₂ value)) :
    Alike same (run₁ >>= next₁) (run₂ >>= next₂) := by
  cases h with
  | tooDeep => exact .tooDeep
  | @ends events₁ events₂ hevents result =>
    cases result with
    | error error => exact .ends hevents (.error error)
    | ok value =>
      show Alike same (Run.bind (some (events₁, .ok value)) next₁)
        (Run.bind (some (events₂, .ok value)) next₂)
      have hvalue := hnext value
      simp only [Run.bind]
      generalize next₁ value = later₁ at hvalue ⊢
      generalize next₂ value = later₂ at hvalue ⊢
      cases hvalue with
      | tooDeep => exact .tooDeep
      | ends hlater result => exact .ends (List.rel_append hevents hlater) result

/-! ## Joined texts -/

/-- Empty texts without a trace may be left out in front. -/
theorem gather_append_of_pure {contribute : ι → Run String} {silent items : List ι}
    (h : ∀ item ∈ silent, contribute item = pure "") :
    gather ((silent ++ items).map contribute) = gather (items.map contribute) := by
  induction silent with
  | nil => rfl
  | cons item silent ih =>
    rw [List.cons_append, List.map_cons, gather, h item List.mem_cons_self, Run.pure_bind,
      ih fun item hm => h item (List.mem_cons_of_mem _ hm)]
    simp

/-- Joined texts look alike if, in each of the two lists, whatever shows nothing is empty and leaves
no trace, and the others show the same one after the other and look alike. -/
theorem alike_gather {shown₁ : ι → Option γ} {shown₂ : κ → Option γ} {contribute₁ : ι → Run String}
    {contribute₂ : κ → Run String} {items₁ : List ι} {items₂ : List κ}
    (hshown : items₁.filterMap shown₁ = items₂.filterMap shown₂)
    (hnone₁ : ∀ item ∈ items₁, shown₁ item = none → contribute₁ item = pure "")
    (hnone₂ : ∀ item ∈ items₂, shown₂ item = none → contribute₂ item = pure "")
    (hsome : ∀ item₁ ∈ items₁, ∀ item₂ ∈ items₂, ∀ sight, shown₁ item₁ = some sight →
      shown₂ item₂ = some sight → Alike same (contribute₁ item₁) (contribute₂ item₂)) :
    Alike same (gather (items₁.map contribute₁)) (gather (items₂.map contribute₂)) := by
  induction items₁ generalizing items₂ with
  | nil =>
    have hsilent := List.filterMap_eq_nil_iff.1 hshown.symm
    have hempty : gather ((items₂ ++ []).map contribute₂) = pure "" :=
      gather_append_of_pure fun item hm => hnone₂ item hm (hsilent item hm)
    rw [List.append_nil] at hempty
    rw [hempty]
    exact alike_pure ""
  | cons item₁ items₁ ih =>
    have hnone : ∀ item ∈ items₁, shown₁ item = none → contribute₁ item = pure "" :=
      fun item hm => hnone₁ item (List.mem_cons_of_mem _ hm)
    cases hfirst : shown₁ item₁ with
    | none =>
      rw [List.filterMap_cons_none hfirst] at hshown
      have hempty : contribute₁ item₁ = pure "" := hnone₁ item₁ List.mem_cons_self hfirst
      have hdrop : gather (([item₁] ++ items₁).map contribute₁) = gather (items₁.map contribute₁) :=
        gather_append_of_pure fun item hm => (List.mem_singleton.1 hm) ▸ hempty
      rw [show item₁ :: items₁ = [item₁] ++ items₁ from rfl, hdrop]
      exact ih hshown hnone hnone₂ fun item hm => hsome item (List.mem_cons_of_mem _ hm)
    | some sight =>
      rw [List.filterMap_cons_some hfirst] at hshown
      -- In the other list, what shows the same comes behind items that show nothing.
      obtain ⟨silent, item₂, rest, rfl, hsilent, hsame, hrest⟩ :=
        List.filterMap_eq_cons_iff.1 hshown.symm
      have hmem : ∀ item ∈ item₂ :: rest, item ∈ silent ++ item₂ :: rest :=
        fun item hm => List.mem_append_right _ hm
      rw [gather_append_of_pure fun item hm =>
        hnone₂ item (List.mem_append_left _ hm) (hsilent item hm)]
      refine (hsome item₁ List.mem_cons_self item₂ (hmem _ List.mem_cons_self) sight hfirst
        hsame).bind fun text => ?_
      refine (ih hrest.symm hnone ?_ ?_).bind fun others => alike_pure _
      · exact fun item hm => hnone₂ item (hmem item (List.mem_cons_of_mem _ hm))
      · exact fun item hm other ho =>
          hsome item (List.mem_cons_of_mem _ hm) other (hmem other (List.mem_cons_of_mem _ ho))

end Run

end TreeText
