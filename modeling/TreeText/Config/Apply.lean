/-
# Configurations at work

A configuration is applied to a converter by registering what it lists. All that can be refused is
checked before anything is registered.

* `Config.apply` is an activity on a converter: it may change the converter and may end in an error.
* `Config.build` applies a configuration to a new converter.
-/
import TreeText.Config
import TreeText.Converter

namespace TreeText

variable [Css.Language]

/-! ## Registrations -/

/-- An activity that may change a converter and may be refused. What it has changed before it is
refused stays changed. -/
def Registration (α : Type) : Type := ExceptT Refusal (StateM Converter) α

namespace Registration

instance : Monad Registration :=
  inferInstanceAs (Monad (ExceptT Refusal (StateM Converter)))

/-- The end of an activity and the converter after it. -/
def run {α : Type} (activity : Registration α) (converter : Converter) :
    Except Refusal α × Converter :=
  (ExceptT.run activity).run converter

/-- The activity that ends as given and changes nothing. -/
def ofExcept {α : Type} (result : Except Refusal α) : Registration α :=
  ExceptT.mk (pure result)

/-- The activity that makes a request. -/
def request (request : Request) : Registration Unit :=
  ExceptT.mk fun converter =>
    match converter.handle request with
    | .ok changed => (.ok (), changed)
    | .error error => (.error error, converter)

/-! ## Laws -/

/-- One activity after another: the second is not begun if the first is refused. -/
theorem run_bind {α β : Type} (first : Registration α) (next : α → Registration β)
    (converter : Converter) :
    (first >>= next).run converter =
      match first.run converter with
      | (.ok value, changed) => (next value).run changed
      | (.error error, changed) => (.error error, changed) := by
  show (ExceptT.run (ExceptT.bind first next)).run converter = _
  simp only [run, ExceptT.run, ExceptT.bind, ExceptT.mk, StateT.run, bind, StateT.bind]
  rcases (first : StateM Converter _) converter with ⟨result, changed⟩
  cases result <;> rfl

/-- An activity that ends as given changes nothing. -/
theorem run_ofExcept {α : Type} (result : Except Refusal α) (converter : Converter) :
    (ofExcept result).run converter = (result, converter) := rfl

/-- A refused request changes nothing. -/
theorem run_request (request : Request) (converter : Converter) :
    (Registration.request request).run converter =
      match converter.handle request with
      | .ok changed => (.ok (), changed)
      | .error error => (.error error, converter) := by
  simp only [run, Registration.request, ExceptT.run, ExceptT.mk, StateT.run]
  cases converter.handle request <;> rfl

end Registration

/-! ## Applying -/

namespace Config

/-- Registers what a configuration lists. -/
def apply (config : Config) : Registration Unit := do
  let placeholders ← Registration.ofExcept (Registry.readPlaceholders config.placeholders)
  Registration.ofExcept (Registry.checkIgnored Css.matcher config.ignored)
  Registration.request (.ruleDrafts config.rules)
  Registration.request (.placeholders placeholders)
  Registration.request (.ignore config.ignored)

/-- The converter that a configuration describes, or why one of its parts is refused. -/
def build (config : Config) : Except Refusal Converter :=
  match config.apply.run .new with
  | (.ok (), converter) => .ok converter
  | (.error error, _) => .error error

end Config

end TreeText
