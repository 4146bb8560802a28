/-
# What scripts ask for

Scripts are told apart by their questions. A script that never asks for the text of a node depends
on one thing only, the content of its element; so it can be carried out on that text alone, without
a run.

* `Script.ConvertsOnly` limits the nodes whose texts a script may ask for, `Script.ReadsNothing` says
  that it never asks for the content, and `Script.Propagates` that it makes the failures that it is
  given its own.
* `Script.callsOnly_run` says that the calls along a script are those for what it asks for.
* `Script.answer` carries a script out on a text, and `Script.result?_run` says that a run of the
  script ends in the same way, whether the content was given or is computed when it is needed.
-/
import TreeText.Formatter
import TreeText.Proofs.Run.Events
import TreeText.Proofs.Run.Result

namespace TreeText

/-- How a formatter answers: with a text, with nothing, or with a failure. -/
abbrev Answer := Except ConversionError (Option String)

/-- The text of an answer; an answer without text is a failure. -/
def Answer.toText (unanswered : ConversionError) : Answer → Except ConversionError String
  | .ok (some text) => .ok text
  | .ok none => .error unanswered
  | .error error => .error error

namespace Script

/-! ## Questions -/

/-- A script that asks for the texts of allowed nodes only, whatever it is given. The element itself
is meant where no node is named. -/
def ConvertsOnly (allowed : Option Nat → Prop) : Script → Prop
  | done _ => True
  | content next => ∀ given, (next given).ConvertsOnly allowed
  | convert node next => allowed node ∧ ∀ given, (next given).ConvertsOnly allowed

/-- A script that asks for nothing but the content of its element. -/
def NeverConverts (script : Script) : Prop :=
  script.ConvertsOnly fun _ => False

/-- A script that never asks for the content of its element. -/
def ReadsNothing : Script → Prop
  | done _ => True
  | content _ => False
  | convert _ next => ∀ given, (next given).ReadsNothing

/-- A script that, where it is given a failure, answers with that failure at once. -/
def Propagates : Script → Prop
  | done _ => True
  | content next =>
    (∀ error, next (.error error) = done (.error error)) ∧ ∀ text, (next (.ok text)).Propagates
  | convert _ next =>
    (∀ error, next (.error error) = done (.error error)) ∧ ∀ text, (next (.ok text)).Propagates

/-- A script keeps to what it is allowed where more is allowed. -/
theorem ConvertsOnly.mono {script : Script} {allowed wider : Option Nat → Prop}
    (h : script.ConvertsOnly allowed) (hw : ∀ target, allowed target → wider target) :
    script.ConvertsOnly wider := by
  induction script with
  | done answer => trivial
  | content next ih => exact fun given => ih given (h given)
  | convert node next ih => exact ⟨hw node h.1, fun given => ih given (h.2 given)⟩

/-! ## Scripts taken apart -/

section

variable {textOf : Nat → Run String} {self : Nat} {given : Option String} {events : List Event}
  {result : Answer} {next : Except ConversionError String → Script}

/-- A script that is done answers. -/
theorem run_done_eq_some {answer : Answer} :
    (done answer).run textOf self given = some (events, result) ↔
      events = [.answered answer] ∧ result = answer := by
  have hrun : (done answer).run textOf self given = some ([.answered answer], answer) := by
    cases given <;> rfl
  constructor
  · intro h
    cases hrun.symm.trans h
    exact ⟨rfl, rfl⟩
  · rintro ⟨rfl, rfl⟩
    exact hrun

/-- A script that asks for a content that it was given goes on with that. -/
theorem run_content_given_eq_some {text : String} :
    (content next).run textOf self (some text) = some (events, result) ↔
      ∃ after, (next (.ok text)).run textOf self (some text) = some (after, result) ∧
        events = .content (.ok text) :: after :=
  Run.note_bind_eq_some

/-- A script that asks for a content that is not there yet goes on with the text of its element, and
keeps it if it is one. -/
theorem run_content_eq_some :
    (content next).run textOf self none = some (events, result) ↔
      ∃ before taken after, textOf self = some (before, taken) ∧
        (next taken).run textOf self taken.toOption = some (after, result) ∧
        events = before ++ .content taken :: after := by
  rw [run]
  constructor
  · intro h
    obtain ⟨before, taken, rest, htaken, hrest, rfl⟩ := Run.attempt_bind_eq_some.1 h
    cases taken with
    | ok text =>
      obtain ⟨after, hafter, rfl⟩ := Run.note_bind_eq_some.1 hrest
      exact ⟨before, .ok text, after, htaken, hafter, rfl⟩
    | error error =>
      obtain ⟨after, hafter, rfl⟩ := Run.note_bind_eq_some.1 hrest
      exact ⟨before, .error error, after, htaken, hafter, rfl⟩
  · rintro ⟨before, taken, after, htaken, hafter, rfl⟩
    refine Run.attempt_bind_eq_some.2 ⟨before, taken, .content taken :: after, htaken, ?_, rfl⟩
    cases taken with
    | ok text => exact Run.note_bind_eq_some.2 ⟨after, hafter, rfl⟩
    | error error => exact Run.note_bind_eq_some.2 ⟨after, hafter, rfl⟩

/-- A script that asks for the text of a node goes on with that. -/
theorem run_convert_eq_some {target : Option Nat} :
    (convert target next).run textOf self given = some (events, result) ↔
      ∃ before taken after, textOf (target.getD self) = some (before, taken) ∧
        (next taken).run textOf self given = some (after, result) ∧
        events = before ++ .converted (target.getD self) taken :: after := by
  have hrun : (convert target next).run textOf self given =
      (textOf (target.getD self)).attempt >>= fun taken =>
        Run.note (.converted (target.getD self) taken) >>= fun _ =>
          (next taken).run textOf self given := by
    cases given <;> rfl
  rw [hrun, Run.attempt_bind_eq_some]
  simp only [Run.note_bind_eq_some]
  constructor
  · rintro ⟨before, taken, rest, htaken, ⟨after, hafter, rfl⟩, rfl⟩
    exact ⟨before, taken, after, htaken, hafter, rfl⟩
  · rintro ⟨before, taken, after, htaken, hafter, rfl⟩
    exact ⟨before, taken, _, htaken, ⟨after, hafter, rfl⟩, rfl⟩

/-- A script makes no call of its own: all calls along its run are those for the texts that it asks
for. -/
theorem callsOnly_run {targets : Option Nat → Prop} {allowed : Call → Prop} {script : Script}
    (hs : script.ConvertsOnly targets) (hself : (textOf self).CallsOnly allowed)
    (ht : ∀ target, targets target → (textOf (target.getD self)).CallsOnly allowed)
    (given : Option String) : (script.run textOf self given).CallsOnly allowed := by
  induction script generalizing given with
  | done answer =>
    intro events result h call hm
    obtain ⟨rfl, -⟩ := run_done_eq_some.1 h
    cases hm
  | content next ih =>
    intro events result h call hm
    cases given with
    | some text =>
      obtain ⟨after, hafter, rfl⟩ := run_content_given_eq_some.1 h
      exact ih _ (hs _) _ _ _ hafter call hm
    | none =>
      obtain ⟨before, taken, after, htaken, hafter, rfl⟩ := run_content_eq_some.1 h
      rw [Event.calls_append, Event.calls_content] at hm
      rcases List.mem_append.1 hm with hm | hm
      · exact hself _ _ htaken call hm
      · exact ih _ (hs _) _ _ _ hafter call hm
  | convert target next ih =>
    intro events result h call hm
    obtain ⟨before, taken, after, htaken, hafter, rfl⟩ := run_convert_eq_some.1 h
    rw [Event.calls_append, Event.calls_converted] at hm
    rcases List.mem_append.1 hm with hm | hm
    · exact ht target hs.1 _ _ htaken call hm
    · exact ih _ (hs.2 _) _ _ _ hafter call hm

end

/-! ## Answers -/

/-- What a script answers if it is given one and the same text whatever it asks for. -/
def answer (text : String) : Script → Answer
  | done answer => answer
  | content next => (next (.ok text)).answer text
  | convert _ next => (next (.ok text)).answer text

/-- The content of an element is a text: it was given, or else the text of the element is that. -/
def Offers (textOf : Nat → Run String) (node : Nat) (text : String) : Option String → Prop
  | some given => given = text
  | none => (textOf node).result? = some (.ok text)

/-- A script that never asks for the text of a node ends with what it answers to its content. -/
theorem result?_run {textOf : Nat → Run String} {node : Nat} {text : String} {script : Script}
    (hs : script.NeverConverts) {given : Option String} (hg : Offers textOf node text given) :
    (script.run textOf node given).result? = some (script.answer text) := by
  induction script generalizing given with
  | done answer =>
    cases given <;> rfl
  | content next ih =>
    cases given with
    | some given =>
      obtain rfl : given = text := hg
      rw [run, Run.result?_note_bind]
      exact ih (.ok given) (hs (.ok given)) rfl
    | none =>
      -- The content is kept once it has been computed: the rest of the script is given it.
      rw [run, Run.result?_attempt_bind hg, Run.result?_note_bind]
      exact ih (.ok text) (hs (.ok text)) rfl
  | convert target next ih =>
    exact absurd hs.1 id

end Script

/-! ## Calls -/

/-- What a call is seen as. -/
def Visit.callOf (visit : Visit) (formatter : Formatter) : Call :=
  ⟨formatter.label, visit.node, visit.tag, visit.depth⟩

/-- What a formatter makes of an element: the text of its answer, or a given failure if there is
none. -/
def Formatter.textFor (formatter : Formatter) (doc : Document) (textOf : Nat → Run String)
    (visit : Visit) (given : Option String) (unanswered : ConversionError) : Run String := do
  match ← formatter.call doc textOf visit given with
  | some text => return text
  | none => Run.fail unanswered

/-- A formatter is called, its script is carried out, and the text of its answer is taken. -/
theorem Formatter.textFor_eq_some {formatter : Formatter} {doc : Document}
    {textOf : Nat → Run String} {visit : Visit} {given : Option String}
    {unanswered : ConversionError} {events : List Event} {result : Except ConversionError String} :
    formatter.textFor doc textOf visit given unanswered = some (events, result) ↔
      ∃ inner answer,
        (formatter.script doc visit).run textOf visit.node given = some (inner, answer) ∧
        events = .called (visit.callOf formatter) :: inner ∧
        result = Answer.toText unanswered answer := by
  have hcall : ∀ {along answer}, formatter.call doc textOf visit given = some (along, answer) ↔
      ∃ inner, (formatter.script doc visit).run textOf visit.node given = some (inner, answer) ∧
        along = .called (visit.callOf formatter) :: inner := Run.note_bind_eq_some
  have hrest : ∀ (answer : Option String) (along : List Event) (last),
      (match answer with
        | some text => pure text
        | none => Run.fail unanswered : Run String) = some (along, last) ↔
      along = [] ∧ last = Answer.toText unanswered (.ok answer) := by
    intro answer along last
    cases answer with
    | some text => exact Run.pure_eq_some
    | none => exact Run.fail_eq_some
  rw [Formatter.textFor, Run.bind_eq_some]
  simp only [hcall, hrest]
  constructor
  · rintro (⟨error, ⟨inner, hrun, rfl⟩, rfl⟩ |
      ⟨along, answer, -, ⟨inner, hrun, rfl⟩, ⟨rfl, rfl⟩, rfl⟩)
    · exact ⟨inner, .error error, hrun, rfl, rfl⟩
    · exact ⟨inner, .ok answer, hrun, List.append_nil _, rfl⟩
  · rintro ⟨inner, error | answer, hrun, rfl, rfl⟩
    · exact Or.inl ⟨error, ⟨inner, hrun, rfl⟩, rfl⟩
    · exact Or.inr ⟨_, answer, [], ⟨inner, hrun, rfl⟩, ⟨rfl, rfl⟩, (List.append_nil _).symm⟩

/-- The calls along that of a formatter are this one and those along its script. -/
theorem Formatter.callsOnly_textFor {formatter : Formatter} {doc : Document}
    {textOf : Nat → Run String} {visit : Visit} {given : Option String} {allowed : Call → Prop}
    (hown : allowed (visit.callOf formatter))
    (hs : ((formatter.script doc visit).run textOf visit.node given).CallsOnly allowed)
    (unanswered : ConversionError) :
    (formatter.textFor doc textOf visit given unanswered).CallsOnly allowed := by
  intro events result h call hm
  obtain ⟨inner, answer, hrun, rfl, -⟩ := textFor_eq_some.1 h
  rw [Event.calls_called] at hm
  rcases List.mem_cons.1 hm with rfl | hm
  · exact hown
  · exact hs inner answer hrun call hm

/-- A formatter whose scripts never ask for the text of a node. -/
def Formatter.NeverConverts (formatter : Formatter) : Prop :=
  ∀ doc visit, (formatter.script doc visit).NeverConverts

/-- A formatter that makes the failures that it is given its own. -/
def Formatter.Propagates (formatter : Formatter) : Prop :=
  ∀ doc visit, (formatter.script doc visit).Propagates

/-- A formatter that looks at nothing but the tag, the attributes and the depth of its element, and
asks for no text but that of the element. -/
structure Formatter.SelfContained (formatter : Formatter) : Prop where
  script_eq : ∀ {doc other : Document} {visit further : Visit}, visit.tag = further.tag →
    visit.dataset = further.dataset → visit.depth = further.depth →
    formatter.script doc visit = formatter.script other further
  convertsOnly : ∀ doc visit, (formatter.script doc visit).ConvertsOnly fun target => target = none

/-- A call of such a formatter ends with what its script answers to the content. -/
theorem Formatter.result?_call {formatter : Formatter} (hf : formatter.NeverConverts)
    {textOf : Nat → Run String} {visit : Visit} {text : String} {given : Option String}
    (hg : Script.Offers textOf visit.node text given) (doc : Document) :
    (formatter.call doc textOf visit given).result? =
      some ((formatter.script doc visit).answer text) := by
  rw [call, Run.result?_note_bind]
  exact Script.result?_run (hf doc visit) hg

end TreeText
