/-
# Runs

A run is one evaluation: the events in the order in which they happened, and how it ended, with a
value or with a failure. A run that is nested more deeply than its bound allows has no outcome at
all; this is not a failure, and nothing can recover from it.

* `Run.bind` lets one run follow another, and `Run.attempt` turns a failure into a value.
* `Run.gather` runs a list of texts one after the other and joins them.
-/
import TreeText.ConversionError

namespace TreeText

/-! ## Events -/

/-- One call of a formatter. -/
structure Call where
  label : String
  node : Nat
  tag : String
  depth : Nat
  deriving DecidableEq, Repr

/-- What can be seen of an evaluation: a formatter is called, it is given its content, it is given
the text of a node, it answers. -/
inductive Event where
  | called (call : Call)
  | content (given : Except ConversionError String)
  | converted (node : Nat) (given : Except ConversionError String)
  | answered (answer : Except ConversionError (Option String))

/-- The calls among events. -/
def Event.calls (events : List Event) : List Call :=
  events.filterMap fun
    | .called call => some call
    | _ => none

/-! ## Runs -/

/-- The events of an evaluation and its end; nothing where it is nested too deeply. -/
def Run (α : Type) : Type := Option (List Event × Except ConversionError α)

namespace Run

variable {α β : Type}

/-- The run that ends with a value at once. -/
protected def pure (value : α) : Run α := some ([], .ok value)

/-- The run that ends with a failure at once. -/
def fail (error : ConversionError) : Run α := some ([], .error error)

/-- The run that ends as given. -/
def ofExcept (result : Except ConversionError α) : Run α := some ([], result)

/-- The run that is nested too deeply. -/
def tooDeep : Run α := none

/-- The run in which one event happens. -/
def note (event : Event) : Run Unit := some ([event], .ok ())

/-- One run after another. The second is not begun if the first fails. -/
protected def bind (run : Run α) (next : α → Run β) : Run β :=
  match run with
  | none => none
  | some (events, .error error) => some (events, .error error)
  | some (events, .ok value) =>
    match next value with
    | none => none
    | some (later, result) => some (events ++ later, result)

/-- A run that does not fail: its value says how the given run ended. -/
def attempt (run : Run α) : Run (Except ConversionError α) :=
  match run with
  | none => none
  | some (events, result) => some (events, .ok result)

/-- The events of a run. -/
def events : Run α → List Event
  | none => []
  | some (events, _) => events

/-- The end of a run. -/
def result? : Run α → Option (Except ConversionError α)
  | none => none
  | some (_, result) => some result

instance : Monad Run where
  pure := Run.pure
  bind := Run.bind

/-! ## Laws -/

/-- Nothing happens before a value that is there at once. -/
protected theorem pure_bind (value : α) (next : α → Run β) :
    (pure value >>= next) = next value := by
  show Run.bind (Run.pure value) next = next value
  simp only [Run.bind, Run.pure]
  rcases next value with _ | ⟨later, result⟩ <;> rfl

/-- A run is not changed by ending with its own value. -/
protected theorem bind_pure (run : Run α) : (run >>= pure) = run := by
  show Run.bind run Run.pure = run
  rcases run with _ | ⟨events, error | value⟩
  · rfl
  · rfl
  · simp only [Run.bind, Run.pure, List.append_nil]
    rfl

/-- Runs that follow each other can be grouped in any way. -/
protected theorem bind_assoc {γ : Type} (run : Run α) (next : α → Run β) (last : β → Run γ) :
    (run >>= next >>= last) = run >>= fun value => next value >>= last := by
  show Run.bind (Run.bind run next) last = Run.bind run fun value => Run.bind (next value) last
  rcases run with _ | ⟨events, error | value⟩
  · rfl
  · rfl
  · simp only [Run.bind]
    rcases next value with _ | ⟨later, error | value⟩
    · rfl
    · rfl
    · simp only
      rcases last value with _ | ⟨latest, result⟩
      · rfl
      · simp only [List.append_assoc]
        rfl

instance : LawfulMonad Run :=
  LawfulMonad.mk' Run Run.bind_pure Run.pure_bind Run.bind_assoc

/-- A failure ends a run at once. -/
theorem fail_bind (error : ConversionError) (next : α → Run β) :
    (fail error >>= next) = fail error := rfl

/-- What is nested too deeply ends nowhere. -/
theorem tooDeep_bind (next : α → Run β) : (tooDeep >>= next) = tooDeep := rfl

/-! ## Many runs -/

/-- Texts run one after the other and joined. -/
def gather : List (Run String) → Run String
  | [] => pure ""
  | run :: runs => do
    let text ← run
    let rest ← gather runs
    return text ++ rest

end Run

end TreeText
