/-
# Failures along runs

A formatter fails on its own account if it answers with a failure that it was not given, or with
nothing at all. A run stops at the first such answer: all calls before it have gone well, and after
it the failure is only handed on, from one formatter to the one that waits for it.

* `Event.OwnFailure` tells an own failure from one that is handed on.
* `Event.Calm` describes the events of a run without failure, and `Event.Breaks` those of a run that
  fails; `Run.StopsAtFailure` says that a run has events of the one or of the other kind.
-/
import TreeText.Proofs.Formatter.Script
import TreeText.Proofs.Run.Events

namespace TreeText

namespace Event

/-! ## Events and failures -/

/-- An event that shows no failure. -/
def IsSmooth : Event → Prop
  | called _ => True
  | content given => ∃ text, given = .ok text
  | converted _ given => ∃ text, given = .ok text
  | answered answer => ∃ text, answer = .ok (some text)

/-- An event by which a formatter is given a failure. -/
def Gives (error : ConversionError) : Event → Prop
  | content given => given = .error error
  | converted _ given => given = .error error
  | _ => False

/-- An event by which a failure is handed on: a formatter is given it, or answers with it. -/
def HandsOn (error : ConversionError) : Event → Prop
  | called _ => False
  | content given => given = .error error
  | converted _ given => given = .error error
  | answered answer => answer = .error error

/-- A formatter that answers behind these events fails on its own account: it answers with nothing,
or with a failure that it has not just been given. -/
def OwnFailure (before : List Event) : Answer → Prop
  | .ok answer => answer = none
  | .error error => ∀ event, before.getLast? = some event → ¬event.Gives error

/-- No failure is given by an event that shows none. -/
theorem IsSmooth.not_gives {event : Event} (h : event.IsSmooth) (error : ConversionError) :
    ¬event.Gives error := by
  cases event with
  | called call => exact id
  | content given =>
    obtain ⟨text, rfl⟩ := h
    exact nofun
  | converted node given =>
    obtain ⟨text, rfl⟩ := h
    exact nofun
  | answered answer => exact id

/-- No formatter is called while a failure is handed on. -/
theorem calls_of_handsOn {events : List Event} {error : ConversionError}
    (h : ∀ event ∈ events, event.HandsOn error) : calls events = [] := by
  refine List.filterMap_eq_nil_iff.2 fun event hm => ?_
  cases event with
  | called call => exact absurd (h _ hm) id
  | content given => rfl
  | converted node given => rfl
  | answered answer => rfl

/-! ## Calls that wait for their answers -/

/-- The calls without an answer after an event, if the given ones had none before. -/
def nextPending : List Call → Event → List Call
  | pending, called call => call :: pending
  | pending, answered _ => pending.tail
  | pending, _ => pending

/-- The calls without an answer after events, the latest first. -/
def pendingAfter (pending : List Call) (events : List Event) : List Call :=
  events.foldl nextPending pending

theorem pendingAfter_append (pending : List Call) (before after : List Event) :
    pendingAfter pending (before ++ after) = pendingAfter (pendingAfter pending before) after :=
  List.foldl_append

/-! ## Events without failure -/

/-- The events of a run without failure: none of them shows one, and each call is answered. -/
structure Calm (events : List Event) : Prop where
  smooth : ∀ event ∈ events, event.IsSmooth
  pendingAfter_eq : ∀ pending, pendingAfter pending events = pending

theorem calm_nil : Calm [] :=
  ⟨fun _ hm => absurd hm List.not_mem_nil, fun _ => rfl⟩

theorem Calm.append {before after : List Event} (hb : Calm before) (ha : Calm after) :
    Calm (before ++ after) where
  smooth := by
    intro event hm
    rcases List.mem_append.1 hm with h | h
    · exact hb.smooth event h
    · exact ha.smooth event h
  pendingAfter_eq := by
    intro pending
    rw [pendingAfter_append, hb.pendingAfter_eq, ha.pendingAfter_eq]

/-- A formatter is given a text as its content. -/
theorem calm_content (text : String) : Calm [content (.ok text)] :=
  ⟨fun _ hm => List.mem_singleton.1 hm ▸ ⟨text, rfl⟩, fun _ => rfl⟩

/-- A formatter is given the text of a node. -/
theorem calm_converted (node : Nat) (text : String) : Calm [converted node (.ok text)] :=
  ⟨fun _ hm => List.mem_singleton.1 hm ▸ ⟨text, rfl⟩, fun _ => rfl⟩

/-- A call that is answered with a text, without failure in between. -/
theorem Calm.call {events : List Event} (h : Calm events) (call : Call) (text : String) :
    Calm (called call :: (events ++ [answered (.ok (some text))])) where
  smooth := by
    intro event hm
    rcases List.mem_cons.1 hm with rfl | hm
    · trivial
    · rcases List.mem_append.1 hm with hm | hm
      · exact h.smooth event hm
      · rw [List.mem_singleton.1 hm]
        exact ⟨text, rfl⟩
  pendingAfter_eq := by
    intro pending
    show pendingAfter (call :: pending) (events ++ _) = pending
    rw [pendingAfter_append, h.pendingAfter_eq]
    rfl

/-! ## Events of a run that fails -/

variable {causes : Call → Answer → ConversionError → Prop} {events : List Event}
  {error : ConversionError}

/-- The events of a run that fails: up to some answer none shows a failure; that answer, to the
latest call without one, is the cause of the failure; and behind it the failure is handed on. -/
def Breaks (causes : Call → Answer → ConversionError → Prop) (events : List Event)
    (error : ConversionError) : Prop :=
  ∃ before answer after call others,
    events = before ++ answered answer :: after ∧
    (∀ event ∈ before, event.IsSmooth) ∧
    (∀ pending, pendingAfter pending before = call :: (others ++ pending)) ∧
    causes call answer error ∧
    ∀ event ∈ after, event.HandsOn error

/-- Events without failure may stand in front. -/
theorem Breaks.of_calm_append {earlier : List Event} (hc : Calm earlier)
    (h : Breaks causes events error) : Breaks causes (earlier ++ events) error := by
  obtain ⟨before, answer, after, call, others, rfl, hsmooth, hpending, hcause, hafter⟩ := h
  refine ⟨earlier ++ before, answer, after, call, others, ?_, ?_, ?_, hcause, hafter⟩
  · rw [List.append_assoc]
  · intro event hm
    rcases List.mem_append.1 hm with hm | hm
    · exact hc.smooth event hm
    · exact hsmooth event hm
  · intro pending
    rw [pendingAfter_append, hc.pendingAfter_eq, hpending]

/-- A call may stand in front that has to wait for what fails. -/
theorem Breaks.of_called (outer : Call) (h : Breaks causes events error) :
    Breaks causes (called outer :: events) error := by
  obtain ⟨before, answer, after, call, others, rfl, hsmooth, hpending, hcause, hafter⟩ := h
  refine ⟨called outer :: before, answer, after, call, others ++ [outer], rfl, ?_, ?_, hcause,
    hafter⟩
  · intro event hm
    rcases List.mem_cons.1 hm with rfl | hm
    · trivial
    · exact hsmooth event hm
  · intro pending
    show pendingAfter (outer :: pending) before = _
    rw [hpending, List.append_assoc]
    rfl

/-- The failure may be handed on behind. -/
theorem Breaks.append_handsOn {later : List Event} (h : Breaks causes events error)
    (hl : ∀ event ∈ later, event.HandsOn error) : Breaks causes (events ++ later) error := by
  obtain ⟨before, answer, after, call, others, rfl, hsmooth, hpending, hcause, hafter⟩ := h
  refine ⟨before, answer, after ++ later, call, others, ?_, hsmooth, hpending, hcause, ?_⟩
  · rw [List.append_assoc]
    rfl
  · intro event hm
    rcases List.mem_append.1 hm with hm | hm
    · exact hafter event hm
    · exact hl event hm

/-- A call may be the one whose answer is the cause. -/
theorem Calm.breaks (hc : Calm events) {call : Call} {answer : Answer}
    (h : causes call answer error) :
    Breaks causes (called call :: (events ++ [answered answer])) error := by
  refine ⟨called call :: events, answer, [], call, [], rfl, ?_, ?_, h, ?_⟩
  · intro event hm
    rcases List.mem_cons.1 hm with rfl | hm
    · trivial
    · exact hc.smooth event hm
  · intro pending
    exact hc.pendingAfter_eq (call :: pending)
  · intro event hm
    cases hm

end Event

/-! ## Runs that stop at a failure -/

open Event

/-- A run that stops at the first failure along it, and fails with what it causes. -/
structure Run.StopsAtFailure {α : Type} (causes : Call → Answer → ConversionError → Prop)
    (run : Run α) : Prop where
  calm : ∀ {events value}, run = some (events, .ok value) → Calm events
  breaks : ∀ {events error}, run = some (events, .error error) → Breaks causes events error

variable {α β : Type} {causes : Call → Answer → ConversionError → Prop}

namespace Run

/-- A value that is there at once shows no failure. -/
theorem stopsAtFailure_pure (value : α) : (pure value : Run α).StopsAtFailure causes where
  calm h := by
    rw [(pure_eq_some.1 h).1]
    exact calm_nil
  breaks h := by cases (pure_eq_some.1 h).2

/-- Nothing happens in a run that is nested too deeply. -/
theorem stopsAtFailure_tooDeep : (tooDeep : Run α).StopsAtFailure causes where
  calm := nofun
  breaks := nofun

/-- One run after another stops at the first failure if both do. -/
theorem StopsAtFailure.bind {run : Run α} (h : run.StopsAtFailure causes) {next : α → Run β}
    (hn : ∀ value, (next value).StopsAtFailure causes) :
    (run >>= next).StopsAtFailure causes where
  calm he := by
    rcases bind_eq_some.1 he with ⟨error, -, hresult⟩ | ⟨before, value, after, hrun, hnext, rfl⟩
    · cases hresult
    · exact (h.calm hrun).append ((hn value).calm hnext)
  breaks he := by
    rcases bind_eq_some.1 he with ⟨error, hrun, hresult⟩ | ⟨before, value, after, hrun, hnext, rfl⟩
    · cases hresult
      exact h.breaks hrun
    · exact ((hn value).breaks hnext).of_calm_append (h.calm hrun)

end Run

/-! ## Scripts -/

/-- The events of a script and its answer: either nothing has failed before the answer, or the
script was given a failure and ends with that. -/
def Event.Settles (causes : Call → Answer → ConversionError → Prop) (events : List Event)
    (answer : Answer) : Prop :=
  (∃ inner, events = inner ++ [answered answer] ∧ Calm inner) ∨
    ∃ error, answer = .error error ∧ Breaks causes events error

/-- Events without failure may stand in front. -/
theorem Event.Settles.of_calm_append {earlier events : List Event} {answer : Answer}
    (hc : Calm earlier) (h : Settles causes events answer) :
    Settles causes (earlier ++ events) answer := by
  rcases h with ⟨inner, rfl, hinner⟩ | ⟨error, rfl, hbreaks⟩
  · exact Or.inl ⟨earlier ++ inner, (List.append_assoc ..).symm, hc.append hinner⟩
  · exact Or.inr ⟨error, rfl, hbreaks.of_calm_append hc⟩

/-- A script that is given a failure and answers with it hands the failure on. -/
theorem Event.Breaks.settles {events : List Event} {error : ConversionError} {event : Event}
    (h : Breaks causes events error) (he : event.HandsOn error) :
    Settles causes (events ++ [event, answered (.error error)]) (.error error) := by
  refine Or.inr ⟨error, rfl, h.append_handsOn fun other hm => ?_⟩
  rcases List.mem_cons.1 hm with rfl | hm
  · exact he
  · rw [List.mem_singleton.1 hm]
    rfl

/-- A script that makes the failures that it is given its own settles, if all texts stop at the
first failure. -/
theorem Script.settles {textOf : Nat → Run String} {self : Nat}
    (ht : ∀ node, (textOf node).StopsAtFailure causes) {script : Script} (hs : script.Propagates)
    {given : Option String} {events : List Event} {answer : Answer}
    (h : script.run textOf self given = some (events, answer)) : Settles causes events answer := by
  induction script generalizing given events with
  | done own =>
    obtain ⟨rfl, rfl⟩ := run_done_eq_some.1 h
    exact Or.inl ⟨[], rfl, calm_nil⟩
  | content next ih =>
    cases given with
    | some text =>
      obtain ⟨after, hafter, rfl⟩ := run_content_given_eq_some.1 h
      exact (ih _ (hs.2 text) hafter).of_calm_append (calm_content text)
    | none =>
      obtain ⟨before, taken, after, htaken, hafter, rfl⟩ := run_content_eq_some.1 h
      cases taken with
      | ok text =>
        have hcalm := ((ht self).calm htaken).append (calm_content text)
        rw [List.append_cons]
        exact (ih _ (hs.2 text) hafter).of_calm_append hcalm
      | error error =>
        rw [hs.1 error] at hafter
        obtain ⟨rfl, rfl⟩ := run_done_eq_some.1 hafter
        exact ((ht self).breaks htaken).settles rfl
  | convert target next ih =>
    obtain ⟨before, taken, after, htaken, hafter, rfl⟩ := run_convert_eq_some.1 h
    cases taken with
    | ok text =>
      have hcalm := ((ht _).calm htaken).append (calm_converted (target.getD self) text)
      rw [List.append_cons]
      exact (ih _ (hs.2 text) hafter).of_calm_append hcalm
    | error error =>
      rw [hs.1 error] at hafter
      obtain ⟨rfl, rfl⟩ := run_done_eq_some.1 hafter
      exact ((ht _).breaks htaken).settles rfl

/-- What a formatter makes of an element stops at the first failure. -/
theorem Formatter.stopsAtFailure_textFor {formatter : Formatter} (hf : formatter.Propagates)
    {textOf : Nat → Run String} (ht : ∀ node, (textOf node).StopsAtFailure causes)
    {visit : Visit} {unanswered : ConversionError}
    (hown : ∀ error, causes (visit.callOf formatter) (.error error) error)
    (hnone : causes (visit.callOf formatter) (.ok none) unanswered) (doc : Document)
    (given : Option String) :
    (formatter.textFor doc textOf visit given unanswered).StopsAtFailure causes where
  calm h := by
    obtain ⟨inner, answer, hrun, rfl, hresult⟩ := Formatter.textFor_eq_some.1 h
    obtain ⟨text, rfl⟩ : ∃ text, answer = .ok (some text) := by
      rcases answer with error | _ | text
      · cases hresult
      · cases hresult
      · exact ⟨text, rfl⟩
    rcases Script.settles ht (hf doc visit) hrun with ⟨own, rfl, hcalm⟩ | ⟨error, herror, -⟩
    · exact hcalm.call _ text
    · cases herror
  breaks h := by
    obtain ⟨inner, answer, hrun, rfl, hresult⟩ := Formatter.textFor_eq_some.1 h
    rcases Script.settles ht (hf doc visit) hrun with ⟨own, rfl, hcalm⟩ | ⟨error, rfl, hbreaks⟩
    · rcases answer with error | _ | text
      · cases hresult
        exact hcalm.breaks (hown _)
      · cases hresult
        exact hcalm.breaks hnone
      · cases hresult
    · cases hresult
      exact hbreaks.of_called _

end TreeText
