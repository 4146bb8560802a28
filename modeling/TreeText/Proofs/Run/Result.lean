/-
# How runs end

The end of a run that is made of other runs, from the ends of these. What happens along the way does
not matter here.

* `Run.result?_bind` is the law for one run after another; the other laws follow from it.
* `Run.result?_gather_cons` says that texts which end with values are joined.
-/
import TreeText.Run

namespace TreeText.Run

variable {α β : Type}

/-! ## One run -/

/-- A failure that is turned into a value is a value. -/
theorem result?_attempt (run : Run α) : run.attempt.result? = run.result?.map .ok := by
  rcases run with _ | ⟨events, result⟩ <;> rfl

/-! ## One run after another -/

/-- One run after another ends as the second does, unless the first fails or does not end. -/
theorem result?_bind (run : Run α) (next : α → Run β) :
    (run >>= next).result? =
      match run.result? with
      | none => none
      | some (.error error) => some (.error error)
      | some (.ok value) => (next value).result? := by
  show (Run.bind run next).result? = _
  rcases run with _ | ⟨events, error | value⟩
  · rfl
  · rfl
  · simp only [Run.bind, result?]
    rcases next value with _ | ⟨later, result⟩ <;> rfl

/-- Behind a value, the end is that of the run that goes on with it. -/
theorem result?_bind_of_ok {run : Run α} {value : α} (h : run.result? = some (.ok value))
    (next : α → Run β) : (run >>= next).result? = (next value).result? := by
  rw [result?_bind, h]

/-- An event does not change how a run ends. -/
theorem result?_note_bind (event : Event) (next : Unit → Run β) :
    (note event >>= next).result? = (next ()).result? :=
  result?_bind_of_ok rfl next

/-- Behind an attempt, the end is that of the run that goes on with the result. -/
theorem result?_attempt_bind {run : Run α} {result : Except ConversionError α}
    (h : run.result? = some result) (next : Except ConversionError α → Run β) :
    (run.attempt >>= next).result? = (next result).result? := by
  refine result?_bind_of_ok ?_ next
  rw [result?_attempt, h]
  rfl

/-! ## Many runs -/

/-- The first text stands in front of the others. -/
theorem result?_gather_cons {run : Run String} {runs : List (Run String)} {text rest : String}
    (h : run.result? = some (.ok text)) (hs : (gather runs).result? = some (.ok rest)) :
    (gather (run :: runs)).result? = some (.ok (text ++ rest)) := by
  rw [gather, result?_bind_of_ok h, result?_bind_of_ok hs]
  rfl

end TreeText.Run
