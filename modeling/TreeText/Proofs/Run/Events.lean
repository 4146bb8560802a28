/-
# What happens along runs

A run that is made of other runs ends only if these do, and its events are theirs in turn. Each law
here takes such a run apart: it says from which runs a given end and given events come.

* `Run.Ends` says that a run is not nested too deeply.
* `Run.bind_eq_some` takes apart one run after another, and `Run.attempt_bind_eq_some` a run whose
  failure is turned into a value.
* `Event.calls_append` and its companions compute the calls among events.
* `Run.CallsOnly` says that all calls along a run are allowed.
-/
import Mathlib.Data.List.Induction
import TreeText.Run

namespace TreeText

deriving instance DecidableEq for Event

/-! ## Calls among events -/

namespace Event

@[simp]
theorem calls_nil : calls [] = [] := rfl

@[simp]
theorem calls_append (before after : List Event) :
    calls (before ++ after) = calls before ++ calls after :=
  List.filterMap_append

@[simp]
theorem calls_called (call : Call) (events : List Event) :
    calls (called call :: events) = call :: calls events := rfl

@[simp]
theorem calls_content (given : Except ConversionError String) (events : List Event) :
    calls (content given :: events) = calls events := rfl

@[simp]
theorem calls_converted (node : Nat) (given : Except ConversionError String)
    (events : List Event) : calls (converted node given :: events) = calls events := rfl

@[simp]
theorem calls_answered (answer : Except ConversionError (Option String)) (events : List Event) :
    calls (answered answer :: events) = calls events := rfl

end Event

namespace Run

variable {α β : Type} {events : List Event}

/-! ## Runs that end -/

/-- A run that comes to an end, with a value or with a failure. -/
def Ends (run : Run α) : Prop :=
  ∃ events result, run = some (events, result)

/-- A value that is there at once is an end. -/
theorem ends_pure (value : α) : (pure value : Run α).Ends :=
  ⟨[], .ok value, rfl⟩

/-- A failure is an end. -/
theorem ends_fail (error : ConversionError) : (fail error : Run α).Ends :=
  ⟨[], .error error, rfl⟩

/-- A given end is an end. -/
theorem ends_ofExcept (result : Except ConversionError α) : (ofExcept result).Ends :=
  ⟨[], result, rfl⟩

/-- An event is no obstacle. -/
theorem ends_note (event : Event) : (note event).Ends :=
  ⟨[event], .ok (), rfl⟩

/-- A run whose failure is turned into a value ends if the run does. -/
theorem Ends.attempt {run : Run α} (h : run.Ends) : run.attempt.Ends := by
  obtain ⟨events, result, rfl⟩ := h
  exact ⟨events, .ok result, rfl⟩

/-- One run after another ends if both do. -/
theorem Ends.bind {run : Run α} (h : run.Ends) {next : α → Run β}
    (hn : ∀ value, (next value).Ends) : (run >>= next).Ends := by
  obtain ⟨events, error | value, rfl⟩ := h
  · exact ⟨events, .error error, rfl⟩
  · obtain ⟨later, result, hlater⟩ := hn value
    refine ⟨events ++ later, result, ?_⟩
    show Run.bind _ next = _
    simp only [Run.bind, hlater]
    rfl

/-- A run is its events and its end. -/
theorem eq_some_iff {run : Run α} {result : Except ConversionError α} :
    run = some (events, result) ↔ run.events = events ∧ run.result? = some result := by
  rcases run with _ | ⟨along, last⟩
  · exact ⟨nofun, fun h => by cases h.2⟩
  · constructor
    · intro h
      cases h
      exact ⟨rfl, rfl⟩
    · rintro ⟨rfl, h⟩
      cases h
      rfl

/-! ## Runs taken apart -/

/-- Nothing happens in a run that ends with a value at once. -/
theorem pure_eq_some {value : α} {result : Except ConversionError α} :
    (pure value : Run α) = some (events, result) ↔ events = [] ∧ result = .ok value := by
  show some ([], Except.ok value) = some (events, result) ↔ _
  simp only [Option.some.injEq, Prod.mk.injEq, eq_comm]

/-- Nothing happens in a run that fails at once. -/
theorem fail_eq_some {error : ConversionError} {result : Except ConversionError α} :
    (fail error : Run α) = some (events, result) ↔ events = [] ∧ result = .error error := by
  show some ([], Except.error error) = some (events, result) ↔ _
  simp only [Option.some.injEq, Prod.mk.injEq, eq_comm]

/-- One run after another: the first one fails, or it ends with the value that the second goes on
with. -/
theorem bind_eq_some {run : Run α} {next : α → Run β} {result : Except ConversionError β} :
    (run >>= next) = some (events, result) ↔
      (∃ error, run = some (events, .error error) ∧ result = .error error) ∨
      ∃ before value after, run = some (before, .ok value) ∧
        next value = some (after, result) ∧ events = before ++ after := by
  show Run.bind run next = some (events, result) ↔ _
  constructor
  · intro h
    rcases run with _ | ⟨before, error | value⟩
    · cases h
    · cases h
      exact Or.inl ⟨error, rfl, rfl⟩
    · simp only [Run.bind] at h
      rcases hnext : next value with _ | ⟨after, last⟩
      · rw [hnext] at h
        cases h
      · rw [hnext] at h
        cases h
        exact Or.inr ⟨before, value, after, rfl, hnext, rfl⟩
  · rintro (⟨error, rfl, rfl⟩ | ⟨before, value, after, rfl, hnext, rfl⟩)
    · rfl
    · simp only [Run.bind, hnext]
      rfl

/-- An event stands in front of those of the run behind it. -/
theorem note_bind_eq_some {event : Event} {next : Unit → Run β}
    {result : Except ConversionError β} :
    (note event >>= next) = some (events, result) ↔
      ∃ after, next () = some (after, result) ∧ events = event :: after := by
  constructor
  · intro h
    rcases bind_eq_some.1 h with ⟨error, hnote, -⟩ | ⟨before, value, after, hnote, hnext, rfl⟩
    · cases hnote
    · cases hnote
      exact ⟨after, hnext, rfl⟩
  · rintro ⟨after, hnext, rfl⟩
    exact bind_eq_some.2 (Or.inr ⟨[event], (), after, rfl, hnext, rfl⟩)

/-- Behind an attempt, a run goes on with the end of what was attempted. -/
theorem attempt_bind_eq_some {run : Run α} {next : Except ConversionError α → Run β}
    {result : Except ConversionError β} :
    (run.attempt >>= next) = some (events, result) ↔
      ∃ before given after, run = some (before, given) ∧ next given = some (after, result) ∧
        events = before ++ after := by
  constructor
  · intro h
    rcases bind_eq_some.1 h with ⟨error, hrun, -⟩ | ⟨before, given, after, hrun, hnext, rfl⟩
    · rcases run with _ | ⟨before, given⟩ <;> cases hrun
    · rcases run with _ | ⟨before', given'⟩
      · cases hrun
      · cases hrun
        exact ⟨before, given, after, rfl, hnext, rfl⟩
  · rintro ⟨before, given, after, rfl, hnext, rfl⟩
    exact bind_eq_some.2 (Or.inr ⟨before, given, after, rfl, hnext, rfl⟩)

/-! ## Events along runs -/

/-- What holds of the events along a run, and of those along the runs that may follow it, holds of all
the events along the run and its follower, if it is kept where events follow each other. -/
theorem holds_bind {holds : List Event → Prop}
    (happend : ∀ before after, holds before → holds after → holds (before ++ after))
    {run : Run α} {next : α → Run β} (h : ∀ events result, run = some (events, result) → holds events)
    (hn : ∀ value, run.result? = some (.ok value) →
      ∀ events result, next value = some (events, result) → holds events)
    {result : Except ConversionError β} (hrun : (run >>= next) = some (events, result)) :
    holds events := by
  rcases bind_eq_some.1 hrun with
    ⟨error, hfails, -⟩ | ⟨before, value, after, hends, hafter, rfl⟩
  · exact h events (.error error) hfails
  · have hvalue : run.result? = some (.ok value) := by
      rw [hends]
      rfl
    exact happend before after (h before (.ok value) hends) (hn value hvalue after result hafter)

/-! ## Calls that are allowed -/

/-- A run along which no call is made but allowed ones. -/
def CallsOnly (allowed : Call → Prop) (run : Run α) : Prop :=
  ∀ events result, run = some (events, result) → ∀ call ∈ Event.calls events, allowed call

variable {allowed wider : Call → Prop}

/-- No call is made for a value that is there at once. -/
theorem callsOnly_pure (value : α) : (pure value : Run α).CallsOnly allowed := by
  intro events result h call hm
  rw [(pure_eq_some.1 h).1] at hm
  cases hm

/-- One run after another makes the calls of both. -/
theorem CallsOnly.bind {run : Run α} (h : run.CallsOnly allowed) {next : α → Run β}
    (hn : ∀ value, (next value).CallsOnly allowed) : (run >>= next).CallsOnly allowed := by
  intro events result hrun
  refine holds_bind (fun before after hb ha call hm => ?_) h (fun value _ => hn value) hrun
  rw [Event.calls_append] at hm
  rcases List.mem_append.1 hm with hm | hm
  · exact hb call hm
  · exact ha call hm

/-- The calls among the events of a run are allowed. -/
theorem CallsOnly.of_mem_events {run : Run α} (h : run.CallsOnly allowed) {call : Call}
    (hm : call ∈ Event.calls run.events) : allowed call := by
  rcases run with _ | ⟨events, result⟩
  · cases hm
  · exact h events result rfl call hm

/-- A run keeps to what it is allowed where more is allowed. -/
theorem CallsOnly.mono {run : Run α} (h : run.CallsOnly allowed)
    (hw : ∀ call, allowed call → wider call) : run.CallsOnly wider :=
  fun events result hrun call hm => hw call (h events result hrun call hm)

/-! ## Joined texts -/

/-- The run with given events and a given end. -/
def ending (events : List Event) (result : Except ConversionError α) : Run α :=
  some (events, result)

/-- Texts that all end with values are joined, behind all of their events. -/
theorem gather_map_ending (parts : List (List Event × String)) :
    gather (parts.map fun part => ending part.1 (.ok part.2)) =
      ending (parts.map Prod.fst).flatten (.ok (String.join (parts.map Prod.snd))) := by
  induction parts with
  | nil => rfl
  | cons part parts ih =>
    rw [List.map_cons, gather, ih, List.map_cons, List.map_cons, String.join_cons,
      List.flatten_cons]
    refine bind_eq_some.2 (Or.inr ⟨part.1, part.2, (parts.map Prod.fst).flatten, rfl, ?_, rfl⟩)
    refine bind_eq_some.2 (Or.inr ⟨_, _, [], rfl, rfl, ?_⟩)
    rw [List.append_nil]

/-- The first text that fails ends what is joined, with its failure. -/
theorem gather_map_ending_append (parts : List (List Event × String)) (events : List Event)
    (error : ConversionError) (others : List (Run String)) :
    gather (parts.map (fun part => ending part.1 (.ok part.2)) ++
      ending events (.error error) :: others) =
      ending ((parts.map Prod.fst).flatten ++ events) (.error error) := by
  induction parts with
  | nil => rfl
  | cons part parts ih =>
    rw [List.map_cons, List.cons_append, gather, ih, List.map_cons, List.flatten_cons,
      List.append_assoc]
    refine bind_eq_some.2 (Or.inr ⟨part.1, part.2, _, rfl, ?_, rfl⟩)
    exact bind_eq_some.2 (Or.inl ⟨error, rfl, rfl⟩)

/-- Of runs that end, either all end with values, or there is a first one that fails. -/
theorem exists_parts_of_ends {runs : List (Run String)} (h : ∀ run ∈ runs, run.Ends) :
    (∃ parts : List (List Event × String),
      runs = parts.map fun part => ending part.1 (.ok part.2)) ∨
    ∃ (parts : List (List Event × String)) (events : List Event) (error : ConversionError)
      (others : List (Run String)),
      runs = parts.map (fun part => ending part.1 (.ok part.2)) ++
        ending events (.error error) :: others := by
  induction runs with
  | nil => exact Or.inl ⟨[], rfl⟩
  | cons run runs ih =>
    obtain ⟨events, error | text, rfl⟩ := h run List.mem_cons_self
    · exact Or.inr ⟨[], events, error, runs, rfl⟩
    · rcases ih fun run hm => h run (List.mem_cons_of_mem _ hm) with
        ⟨parts, rfl⟩ | ⟨parts, later, error, others, rfl⟩
      · exact Or.inl ⟨(events, text) :: parts, rfl⟩
      · exact Or.inr ⟨(events, text) :: parts, later, error, others, rfl⟩

end Run

end TreeText
