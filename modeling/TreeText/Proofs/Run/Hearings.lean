/-
# What each call is given

Between what a call is given and its answer other calls may be made, which are given other things. The
events of the call itself are those that are left without these: they can be read off all the events,
by counting the calls that have no answer yet.

* `Event.hearings` lists the calls among events, each with the events of its own.
* `Event.Heard` says that events answer all calls among them, and that what each of these is given is
  as demanded; `Heard.append` and `HeardInside.heard` put such events together.
* `Run.Heard` says so of all events along a run.
-/
import TreeText.Proofs.Run.Questions

namespace TreeText

/-- A call with the events of its own: what it is given, and its answer. -/
structure Hearing where
  call : Call
  events : List Event
  deriving DecidableEq

namespace Event

/-! ## Events of one call -/

/-- The events of one call up to its answer, where so many calls that it waits for have no answer
before the events. -/
def own : Nat → List Event → List Event
  | _, [] => []
  | waiting, called _ :: events => own (waiting + 1) events
  | 0, answered answer :: _ => [answered answer]
  | waiting + 1, answered _ :: events => own waiting events
  | 0, event :: events => event :: own 0 events
  | waiting + 1, _ :: events => own (waiting + 1) events

/-- The calls among events, each with the events of its own. -/
def hearings : List Event → List Hearing
  | [] => []
  | called call :: events => ⟨call, own 0 events⟩ :: hearings events
  | _ :: events => hearings events

/-- The calls with events of their own are all calls among the events. -/
theorem map_call_hearings (events : List Event) :
    (hearings events).map Hearing.call = calls events := by
  induction events with
  | nil => rfl
  | cons event events ih =>
    cases event with
    | called call => rw [hearings, List.map_cons, ih, calls_called]
    | content given => exact ih
    | converted node given => exact ih
    | answered answer => exact ih

/-! ## Whole calls -/

/-- Events that answer all calls among them, each of which is given what is demanded. To a call that
waits for them they do not belong. -/
structure Heard (demanded : Hearing → Prop) (events : List Event) : Prop where
  own_append : ∀ waiting after, own waiting (events ++ after) = own waiting after
  demands : ∀ after, ∀ hearing ∈ hearings (events ++ after),
    demanded hearing ∨ hearing ∈ hearings after

/-- Events by which a call with these events of its own is answered, as are all calls that it waits
for meanwhile, each of which is given what is demanded. -/
structure HeardInside (told : List Event) (demanded : Hearing → Prop) (events : List Event) :
    Prop where
  own_zero_append : ∀ after, own 0 (events ++ after) = told
  own_succ_append : ∀ waiting after, own (waiting + 1) (events ++ after) = own waiting after
  demands : ∀ after, ∀ hearing ∈ hearings (events ++ after),
    demanded hearing ∨ hearing ∈ hearings after

variable {demanded wider : Hearing → Prop} {events before after told : List Event}

theorem heard_nil : Heard demanded [] where
  own_append _ _ := rfl
  demands _ _ hm := .inr hm

/-- Events by which all calls are answered may follow each other. -/
theorem Heard.append (hb : Heard demanded before) (ha : Heard demanded after) :
    Heard demanded (before ++ after) where
  own_append := by
    intro waiting later
    rw [List.append_assoc, hb.own_append, ha.own_append]
  demands := by
    intro later hearing hm
    rw [List.append_assoc] at hm
    rcases hb.demands _ hearing hm with hdemanded | hm
    · exact .inl hdemanded
    · exact ha.demands later hearing hm

/-- Calls are given what is demanded where less is. -/
theorem Heard.mono (h : Heard demanded events)
    (hw : ∀ hearing, demanded hearing → wider hearing) : Heard wider events where
  own_append := h.own_append
  demands after hearing hm := (h.demands after hearing hm).imp_left (hw hearing)

/-- What each call among events is given is as demanded. -/
theorem Heard.of_mem_hearings (h : Heard demanded events) {hearing : Hearing}
    (hm : hearing ∈ hearings events) : demanded hearing := by
  rw [← List.append_nil events] at hm
  exact (h.demands [] hearing hm).resolve_right List.not_mem_nil

/-! ## Inside a call -/

/-- An answer is all that there needs to be. -/
theorem heardInside_answered (answer : Answer) :
    HeardInside [answered answer] demanded [answered answer] where
  own_zero_append _ := rfl
  own_succ_append _ _ := rfl
  demands _ _ hm := .inr hm

/-- Before a call goes on, it may have waited for what it is given; this alone is an event of the call
itself. -/
theorem HeardInside.after_waiting {event : Event} {target : Option Nat}
    (hgrants : Grants event target) (hb : Heard demanded before)
    (ha : HeardInside told demanded after) :
    HeardInside (event :: told) demanded (before ++ event :: after) where
  own_zero_append := by
    intro later
    have hown : own 0 (event :: (after ++ later)) = event :: own 0 (after ++ later) := by
      cases hgrants <;> rfl
    rw [List.append_assoc, hb.own_append, List.cons_append, hown, ha.own_zero_append]
  own_succ_append := by
    intro waiting later
    have hown : own (waiting + 1) (event :: (after ++ later)) =
        own (waiting + 1) (after ++ later) := by
      cases hgrants <;> rfl
    rw [List.append_assoc, hb.own_append, List.cons_append, hown, ha.own_succ_append]
  demands := by
    intro later hearing hm
    have hhearings : hearings (event :: (after ++ later)) = hearings (after ++ later) := by
      cases hgrants <;> rfl
    rw [List.append_assoc] at hm
    rcases hb.demands _ hearing hm with hdemanded | hm
    · exact .inl hdemanded
    · rw [List.cons_append, hhearings] at hm
      exact ha.demands later hearing hm

/-- A call, with the events up to its answer. -/
theorem HeardInside.heard {call : Call} (h : HeardInside told demanded events)
    (hown : demanded ⟨call, told⟩) : Heard demanded (called call :: events) where
  own_append := by
    intro waiting after
    show own (waiting + 1) (events ++ after) = own waiting after
    exact h.own_succ_append waiting after
  demands := by
    intro after hearing hm
    rw [List.cons_append, hearings, h.own_zero_append] at hm
    rcases List.mem_cons.1 hm with rfl | hm
    · exact .inl hown
    · exact h.demands after hearing hm

end Event

/-! ## Runs -/

namespace Run

variable {α β : Type} {demanded wider : Hearing → Prop} {run : Run α}

/-- A run that answers all calls along it, each of which is given what is demanded. -/
def Heard (demanded : Hearing → Prop) (run : Run α) : Prop :=
  ∀ events result, run = some (events, result) → Event.Heard demanded events

/-- No call is made for a value that is there at once. -/
theorem heard_pure (value : α) : (pure value : Run α).Heard demanded := by
  intro events result h
  rw [(pure_eq_some.1 h).1]
  exact Event.heard_nil

/-- One run after another answers the calls of both. The second is begun with what the first ends
with. -/
theorem Heard.bind (h : run.Heard demanded) {next : α → Run β}
    (hn : ∀ value, run.result? = some (.ok value) → (next value).Heard demanded) :
    (run >>= next).Heard demanded := by
  intro events result hrun
  exact holds_bind (fun _ _ hb ha => Event.Heard.append hb ha) h hn hrun

/-- Calls are given what is demanded where less is. -/
theorem Heard.mono (h : run.Heard demanded) (hw : ∀ hearing, demanded hearing → wider hearing) :
    run.Heard wider :=
  fun events result hrun => Event.Heard.mono (h events result hrun) hw

/-- What each call along a run is given is as demanded. -/
theorem Heard.of_mem_events (h : run.Heard demanded) {hearing : Hearing}
    (hm : hearing ∈ Event.hearings run.events) : demanded hearing := by
  rcases run with _ | ⟨events, result⟩
  · cases hm
  · exact Event.Heard.of_mem_hearings (h events result rfl) hm

end Run

end TreeText
