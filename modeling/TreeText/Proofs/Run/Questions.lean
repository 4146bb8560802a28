/-
# Calls under questions

A formatter that asks for its content or for the text of a node waits until it is given it, and other
formatters may be called meanwhile. So each call is made under questions, one of each call that has
no answer yet. They can be read off the events: what a call waits for is what it is given next.

* `Event.callsUnder` lists the calls among events, each with the questions under which it is made.
* `Event.Nested` says that events leave no call without an answer, and that each call is made under
  allowed questions; `Nested.append` and `Inside.nested` put such events together.
* `Run.Nested` says so of all events along a run, and `Script.inside_run` of those along a script.
-/
import TreeText.Proofs.Run.Failure

namespace TreeText

/-! ## Questions -/

/-- A question that a call waits for an answer to: for the text of a node, or for the content of its
element where no node is named. -/
structure Ask where
  call : Call
  target : Option Nat
  deriving DecidableEq, Repr

/-- The node whose text is computed to answer a question. -/
def Ask.node (ask : Ask) : Nat :=
  ask.target.getD ask.call.node

namespace Event

/-- What is asked for in front of an event, by each call without an answer, if the given is asked
for behind it. -/
def nextAwaited : Event → List (Option Nat) → List (Option Nat)
  | called _, awaited => awaited.tail
  | content _, awaited => none :: awaited.tail
  | converted node _, awaited => some node :: awaited.tail
  | answered _, awaited => none :: awaited

/-- What is asked for in front of events, by the latest call without an answer first. -/
def awaitedBefore (events : List Event) (awaited : List (Option Nat)) : List (Option Nat) :=
  events.foldr nextAwaited awaited

/-- Calls without an answer with what they ask for, the earliest first. -/
def asksOf (pending : List Call) (awaited : List (Option Nat)) : List Ask :=
  (List.zipWith Ask.mk pending awaited).reverse

/-- The calls among events with the questions under which they are made, where the given calls have
no answer before the events, and the given is asked for behind them. -/
def callsAmid : List Call → List (Option Nat) → List Event → List (List Ask × Call)
  | _, _, [] => []
  | pending, awaited, called call :: events =>
    (asksOf pending (awaitedBefore (called call :: events) awaited), call) ::
      callsAmid (call :: pending) awaited events
  | pending, awaited, answered _ :: events => callsAmid pending.tail awaited events
  | pending, awaited, _ :: events => callsAmid pending awaited events

/-- The calls among events with the questions under which they are made, the outermost first. -/
def callsUnder (events : List Event) : List (List Ask × Call) :=
  callsAmid [] [] events

/-! ## Events behind each other -/

theorem awaitedBefore_append (before after : List Event) (awaited : List (Option Nat)) :
    awaitedBefore (before ++ after) awaited =
      awaitedBefore before (awaitedBefore after awaited) :=
  List.foldr_append

/-- The calls among events that follow each other are those among the first and those among the
second. -/
theorem callsAmid_append (before after : List Event) (pending : List Call)
    (awaited : List (Option Nat)) :
    callsAmid pending awaited (before ++ after) =
      callsAmid pending (awaitedBefore after awaited) before ++
        callsAmid (pendingAfter pending before) awaited after := by
  induction before generalizing pending with
  | nil => rfl
  | cons event before ih =>
    cases event with
    | called call =>
      have hawaited : awaitedBefore (called call :: (before ++ after)) awaited =
          awaitedBefore (called call :: before) (awaitedBefore after awaited) :=
        awaitedBefore_append (called call :: before) after awaited
      rw [List.cons_append, callsAmid, callsAmid, ih, hawaited]
      rfl
    | content given =>
      rw [List.cons_append, callsAmid, callsAmid, ih]
      · rfl
      all_goals exact nofun
    | converted node given =>
      rw [List.cons_append, callsAmid, callsAmid, ih]
      · rfl
      all_goals exact nofun
    | answered answer =>
      rw [List.cons_append, callsAmid, callsAmid, ih]
      rfl

/-- The calls with the questions under which they are made are all calls among the events. -/
theorem map_snd_callsAmid (pending : List Call) (awaited : List (Option Nat))
    (events : List Event) : (callsAmid pending awaited events).map Prod.snd = calls events := by
  induction events generalizing pending with
  | nil => rfl
  | cons event events ih =>
    cases event with
    | called call => rw [callsAmid, List.map_cons, ih, calls_called]
    | answered answer => rw [callsAmid, ih, calls_answered]
    | content given =>
      rw [callsAmid, ih, calls_content]
      all_goals exact nofun
    | converted node given =>
      rw [callsAmid, ih, calls_converted]
      all_goals exact nofun

/-! ## Whole calls -/

/-- Events that answer all calls among them, each of which is made under allowed questions, behind
those that have been asked before. -/
structure Nested (allowed : List Ask → Call → Prop) (events : List Event) : Prop where
  pendingAfter_eq : ∀ pending, pendingAfter pending events = pending
  awaitedBefore_eq : ∀ awaited, awaitedBefore events awaited = awaited
  allows : ∀ pending awaited, ∀ entry ∈ callsAmid pending awaited events,
    pending.length = awaited.length →
    ∃ asks, entry.1 = asksOf pending awaited ++ asks ∧ allowed asks entry.2

/-- Events by which a call is answered, as are all calls that are made meanwhile, under allowed
questions. -/
structure Inside (outer : Call) (allowed : List Ask → Call → Prop) (events : List Event) : Prop where
  pendingAfter_eq : ∀ pending, pendingAfter (outer :: pending) events = pending
  awaitedBefore_eq : ∃ target, ∀ awaited, awaitedBefore events awaited = target :: awaited
  allows : ∀ pending awaited, ∀ entry ∈ callsAmid (outer :: pending) awaited events,
    pending.length = awaited.length →
    ∃ asks, entry.1 = asksOf pending awaited ++ asks ∧ allowed asks entry.2

variable {allowed wider : List Ask → Call → Prop} {events before after : List Event}
  {outer : Call}

theorem nested_nil : Nested allowed [] where
  pendingAfter_eq _ := rfl
  awaitedBefore_eq _ := rfl
  allows _ _ _ hm := absurd hm List.not_mem_nil

/-- Events that are nested may follow each other. -/
theorem Nested.append (hb : Nested allowed before) (ha : Nested allowed after) :
    Nested allowed (before ++ after) where
  pendingAfter_eq := by
    intro pending
    rw [pendingAfter_append, hb.pendingAfter_eq, ha.pendingAfter_eq]
  awaitedBefore_eq := by
    intro awaited
    rw [awaitedBefore_append, ha.awaitedBefore_eq, hb.awaitedBefore_eq]
  allows := by
    intro pending awaited entry hm hlength
    rw [callsAmid_append, ha.awaitedBefore_eq, hb.pendingAfter_eq] at hm
    rcases List.mem_append.1 hm with hm | hm
    · exact hb.allows pending awaited entry hm hlength
    · exact ha.allows pending awaited entry hm hlength

/-- Events are nested where more is allowed. -/
theorem Nested.mono (h : Nested allowed events)
    (hw : ∀ asks call, allowed asks call → wider asks call) : Nested wider events where
  pendingAfter_eq := h.pendingAfter_eq
  awaitedBefore_eq := h.awaitedBefore_eq
  allows := by
    intro pending awaited entry hm hlength
    obtain ⟨asks, hasks, hallowed⟩ := h.allows pending awaited entry hm hlength
    exact ⟨asks, hasks, hw asks entry.2 hallowed⟩

/-- Each call is made under allowed questions. -/
theorem Nested.of_mem_callsUnder (h : Nested allowed events) {asks : List Ask} {call : Call}
    (hm : (asks, call) ∈ callsUnder events) : allowed asks call := by
  obtain ⟨asks', hasks, hallowed⟩ := h.allows [] [] (asks, call) hm rfl
  obtain rfl : asks = asks' := hasks
  exact hallowed

/-! ## Inside a call -/

/-- An answer is all that there needs to be. -/
theorem inside_answered (outer : Call) (answer : Answer) :
    Inside outer allowed [answered answer] where
  pendingAfter_eq _ := rfl
  awaitedBefore_eq := ⟨none, fun _ => rfl⟩
  allows _ _ _ hm := absurd hm List.not_mem_nil

/-- An event by which a call is given what it asked for. -/
inductive Grants : Event → Option Nat → Prop where
  | content (given : Except ConversionError String) : Grants (content given) none
  | converted (node : Nat) (given : Except ConversionError String) :
      Grants (converted node given) (some node)

/-- Before a call goes on, it may have waited for what it is given; the calls that are made meanwhile
are made under its question. -/
theorem Inside.after_waiting {event : Event} {target : Option Nat} (hgrants : Grants event target)
    (hb : Nested (fun asks call => allowed (⟨outer, target⟩ :: asks) call) before)
    (ha : Inside outer allowed after) : Inside outer allowed (before ++ event :: after) := by
  obtain ⟨later, hlater⟩ := ha.awaitedBefore_eq
  have hpending : ∀ pending, pendingAfter (outer :: pending) (event :: after) =
      pendingAfter (outer :: pending) after := by
    cases hgrants <;> exact fun _ => rfl
  have hawaited : ∀ awaited, awaitedBefore (event :: after) awaited = target :: awaited := by
    intro awaited
    show nextAwaited event (awaitedBefore after awaited) = _
    rw [hlater]
    cases hgrants <;> rfl
  have hcalls : ∀ pending awaited, callsAmid (outer :: pending) awaited (event :: after) =
      callsAmid (outer :: pending) awaited after := by
    cases hgrants <;> exact fun _ _ => rfl
  constructor
  · intro pending
    rw [pendingAfter_append, hb.pendingAfter_eq, hpending, ha.pendingAfter_eq]
  · refine ⟨target, fun awaited => ?_⟩
    rw [awaitedBefore_append, hawaited, hb.awaitedBefore_eq]
  · intro pending awaited entry hm hlength
    rw [callsAmid_append, hawaited, hb.pendingAfter_eq, hcalls] at hm
    rcases List.mem_append.1 hm with hm | hm
    · have hlength' : (outer :: pending).length = (target :: awaited).length :=
        congrArg (· + 1) hlength
      obtain ⟨asks, hasks, hallowed⟩ := hb.allows _ _ entry hm hlength'
      refine ⟨⟨outer, target⟩ :: asks, ?_, hallowed⟩
      rw [hasks, asksOf, List.zipWith_cons_cons, List.reverse_cons, List.append_assoc]
      rfl
    · exact ha.allows pending awaited entry hm hlength

/-- A call, with the events up to its answer. -/
theorem Inside.nested (h : Inside outer allowed events) (hown : allowed [] outer) :
    Nested allowed (called outer :: events) := by
  obtain ⟨target, htarget⟩ := h.awaitedBefore_eq
  have hawaited : ∀ awaited, awaitedBefore (called outer :: events) awaited = awaited := by
    intro awaited
    show nextAwaited (called outer) (awaitedBefore events awaited) = awaited
    rw [htarget]
    rfl
  constructor
  · exact h.pendingAfter_eq
  · exact hawaited
  · intro pending awaited entry hm hlength
    rw [callsAmid, hawaited] at hm
    rcases List.mem_cons.1 hm with rfl | hm
    · exact ⟨[], (List.append_nil _).symm, hown⟩
    · exact h.allows pending awaited entry hm hlength

end Event

/-! ## Runs -/

/-- A run that answers all calls along it, each of which is made under allowed questions. -/
def Run.Nested {α : Type} (allowed : List Ask → Call → Prop) (run : Run α) : Prop :=
  ∀ events result, run = some (events, result) → Event.Nested allowed events

/-- No call is made for a value that is there at once. -/
theorem Run.nested_pure {α : Type} {allowed : List Ask → Call → Prop} (value : α) :
    (pure value : Run α).Nested allowed := by
  intro events result h
  rw [(pure_eq_some.1 h).1]
  exact Event.nested_nil

/-- One run after another answers the calls of both. -/
theorem Run.Nested.bind {α β : Type} {allowed : List Ask → Call → Prop} {run : Run α}
    (h : run.Nested allowed) {next : α → Run β} (hn : ∀ value, (next value).Nested allowed) :
    (run >>= next).Nested allowed := by
  intro events result hrun
  exact holds_bind (fun _ _ hb ha => Event.Nested.append hb ha) h (fun value _ => hn value) hrun

/-- A run is nested where more is allowed. -/
theorem Run.Nested.mono {α : Type} {allowed wider : List Ask → Call → Prop} {run : Run α}
    (h : run.Nested allowed) (hw : ∀ asks call, allowed asks call → wider asks call) :
    run.Nested wider :=
  fun events result hrun => Event.Nested.mono (h events result hrun) hw

/-- The calls along a run are made under allowed questions. -/
theorem Run.Nested.of_mem_events {α : Type} {allowed : List Ask → Call → Prop} {run : Run α}
    (h : run.Nested allowed) {asks : List Ask} {call : Call}
    (hm : (asks, call) ∈ Event.callsUnder run.events) : allowed asks call := by
  rcases run with _ | ⟨events, result⟩
  · cases hm
  · have hevents : Event.Nested allowed events := h events result rfl
    exact hevents.of_mem_callsUnder hm

/-! ## Formatters -/

/-- The calls along a script are made under its questions, each for the text that it asks for. -/
theorem Script.inside_run {textOf : Nat → Run String} {self : Nat} {outer : Call}
    {allowed : List Ask → Call → Prop}
    (hself : (textOf self).Nested fun asks call => allowed (⟨outer, none⟩ :: asks) call)
    (ht : ∀ node, (textOf node).Nested fun asks call => allowed (⟨outer, some node⟩ :: asks) call)
    (script : Script) (given : Option String) {events : List Event} {result : Answer}
    (h : script.run textOf self given = some (events, result)) :
    Event.Inside outer allowed events := by
  induction script generalizing given events with
  | done answer =>
    obtain ⟨rfl, -⟩ := run_done_eq_some.1 h
    exact Event.inside_answered outer answer
  | content next ih =>
    cases given with
    | some text =>
      obtain ⟨after, hafter, rfl⟩ := run_content_given_eq_some.1 h
      have hlater : Event.Inside outer allowed after := ih _ _ hafter
      exact hlater.after_waiting (.content (.ok text)) Event.nested_nil
    | none =>
      obtain ⟨before, taken, after, htaken, hafter, rfl⟩ := run_content_eq_some.1 h
      have hlater : Event.Inside outer allowed after := ih _ _ hafter
      exact hlater.after_waiting (.content taken) (hself before taken htaken)
  | convert target next ih =>
    obtain ⟨before, taken, after, htaken, hafter, rfl⟩ := run_convert_eq_some.1 h
    have hlater : Event.Inside outer allowed after := ih _ _ hafter
    exact hlater.after_waiting (.converted _ taken) (ht _ before taken htaken)

/-- A formatter is called under no question but those that have been asked before, and all calls that
are made meanwhile are made under its own. -/
theorem Formatter.nested_textFor {formatter : Formatter} {doc : Document}
    {textOf : Nat → Run String} {visit : Visit} {allowed : List Ask → Call → Prop}
    (hown : allowed [] (visit.callOf formatter))
    (hself : (textOf visit.node).Nested fun asks call =>
      allowed (⟨visit.callOf formatter, none⟩ :: asks) call)
    (ht : ∀ node, (textOf node).Nested fun asks call =>
      allowed (⟨visit.callOf formatter, some node⟩ :: asks) call)
    (given : Option String) (unanswered : ConversionError) :
    (formatter.textFor doc textOf visit given unanswered).Nested allowed := by
  intro events result h
  obtain ⟨inner, answer, hrun, rfl, -⟩ := textFor_eq_some.1 h
  have hinside : Event.Inside (visit.callOf formatter) allowed inner :=
    Script.inside_run hself ht (formatter.script doc visit) given hrun
  exact hinside.nested hown

end TreeText
