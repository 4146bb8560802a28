/-
# What scripts are told

The content of an element and the texts of nodes are computed while a script is carried out, and a
content that has been computed is kept. None of this shows in what the script is told: whenever it
asks for the content it is told the same, which is the given text, or the text of the element as it is
computed anew; and so with the text of a node.

* `Script.contentOf?` is what the content is, and `Script.Told` says what a script is told;
  `Script.Told.tells` says this of each of its events.
* `Script.exists_told` says that a run of the script tells it this, whatever it has kept.
-/
import TreeText.Proofs.Run.Hearings

namespace TreeText

namespace Script

variable {textOf : Nat → Run String} {self : Nat} {given : Option String}

/-- What the content of an element is: the given text, or else what the text of the element is when it
is computed anew. -/
def contentOf? (textOf : Nat → Run String) (self : Nat) :
    Option String → Option (Except ConversionError String)
  | some text => some (.ok text)
  | none => (textOf self).result?

/-- What a script is told if nothing is kept: each time that it asks for the content it is told what
that is, and each time that it asks for the text of a node, what this is when it is computed anew. -/
inductive Told (textOf : Nat → Run String) (self : Nat) (given : Option String) :
    Script → List Event → Prop where
  | done {answer : Answer} : Told textOf self given (done answer) [.answered answer]
  | content {next : Except ConversionError String → Script}
      {taken : Except ConversionError String} {events : List Event}
      (htaken : contentOf? textOf self given = some taken)
      (hnext : Told textOf self given (next taken) events) :
      Told textOf self given (content next) (.content taken :: events)
  | convert {target : Option Nat} {next : Except ConversionError String → Script}
      {taken : Except ConversionError String} {events : List Event}
      (htaken : (textOf (target.getD self)).result? = some taken)
      (hnext : Told textOf self given (next taken) events) :
      Told textOf self given (convert target next)
        (.converted (target.getD self) taken :: events)

/-! ## One call -/

variable {script : Script} {events : List Event}

/-- An event by which nothing is given but what the content is, and what the texts of nodes are. -/
def Tells (textOf : Nat → Run String) (self : Nat) (given : Option String) : Event → Prop
  | .content taken => contentOf? textOf self given = some taken
  | .converted node taken => (textOf node).result? = some taken
  | _ => True

/-- Whenever a script is given something, it is what the content is, or the text of the node. -/
theorem Told.tells (h : script.Told textOf self given events) :
    ∀ event ∈ events, Tells textOf self given event := by
  induction h with
  | done => exact List.forall_mem_singleton.2 trivial
  | content htaken hnext ih => exact List.forall_mem_cons.2 ⟨htaken, ih⟩
  | convert htaken hnext ih => exact List.forall_mem_cons.2 ⟨htaken, ih⟩

/-- A script is told the same where all texts are known that were known. -/
theorem Told.mono {further : Nat → Run String} (h : script.Told textOf self given events)
    (ht : ∀ node result, (textOf node).result? = some result →
      (further node).result? = some result) : script.Told further self given events := by
  induction h with
  | done => exact .done
  | content htaken hnext ih =>
    refine .content ?_ ih
    cases given with
    | some text => exact htaken
    | none => exact ht _ _ htaken
  | convert htaken hnext ih => exact .convert (ht _ _ htaken) ih

/-! ## Runs of scripts -/

/-- A run of a script tells it what it is told if nothing is kept, as long as what the run has kept is
what the content is; and all calls that the script waits for are answered. -/
theorem exists_told {demanded : Hearing → Prop} (ht : ∀ node, (textOf node).Heard demanded)
    (script : Script) {kept : Option String}
    (hkept : contentOf? textOf self kept = contentOf? textOf self given) {result : Answer}
    (h : script.run textOf self kept = some (events, result)) :
    ∃ told, script.Told textOf self given told ∧ Event.HeardInside told demanded events := by
  induction script generalizing kept events with
  | done answer =>
    obtain ⟨rfl, -⟩ := run_done_eq_some.1 h
    exact ⟨[.answered answer], .done, Event.heardInside_answered answer⟩
  | content next ih =>
    cases kept with
    | some text =>
      obtain ⟨after, hafter, rfl⟩ := run_content_given_eq_some.1 h
      obtain ⟨told, htold, hinside⟩ := ih (.ok text) hkept hafter
      exact ⟨.content (.ok text) :: told, .content hkept.symm htold,
        hinside.after_waiting (.content (.ok text)) Event.heard_nil⟩
    | none =>
      obtain ⟨before, taken, after, htaken, hafter, rfl⟩ := run_content_eq_some.1 h
      have hself : contentOf? textOf self none = some taken := by
        rw [contentOf?, htaken]
        rfl
      -- A text is kept, and a failure is not: what is computed next time is the same failure.
      have hlater : contentOf? textOf self taken.toOption = contentOf? textOf self given := by
        cases taken with
        | ok text => exact hself.symm.trans hkept
        | error error => exact hkept
      obtain ⟨told, htold, hinside⟩ := ih taken hlater hafter
      exact ⟨.content taken :: told, .content (hkept.symm.trans hself) htold,
        hinside.after_waiting (.content taken) (ht self before taken htaken)⟩
  | convert target next ih =>
    obtain ⟨before, taken, after, htaken, hafter, rfl⟩ := run_convert_eq_some.1 h
    have hanew : (textOf (target.getD self)).result? = some taken := by
      rw [htaken]
      rfl
    obtain ⟨told, htold, hinside⟩ := ih taken hkept hafter
    exact ⟨.converted (target.getD self) taken :: told, .convert hanew htold,
      hinside.after_waiting (.converted _ taken) (ht _ before taken htaken)⟩

end Script

/-- The call of a formatter for an element is given what its script is told. -/
theorem Formatter.heard_textFor {formatter : Formatter} {doc : Document}
    {textOf : Nat → Run String} {visit : Visit} {given : Option String} {demanded : Hearing → Prop}
    (ht : ∀ node, (textOf node).Heard demanded)
    (hown : ∀ told, (formatter.script doc visit).Told textOf visit.node given told →
      demanded ⟨visit.callOf formatter, told⟩) (unanswered : ConversionError) :
    (formatter.textFor doc textOf visit given unanswered).Heard demanded := by
  intro events result h
  obtain ⟨inner, answer, hrun, rfl, -⟩ := textFor_eq_some.1 h
  obtain ⟨told, htold, hinside⟩ := Script.exists_told ht (formatter.script doc visit) rfl hrun
  exact hinside.heard (hown told htold)

end TreeText
