/-
# What conversions ask

A conversion leaves its tests as questions. Where the same is answered each time that a question is
asked, the conversion is the run with these answers, and it asks certain questions in a certain order.
Somebody who remembers questions, but does not let the answers depend on them, is asked the same.

* `Asking.answer` is the run with given answers, and `Asking.questions` are the questions that come up.
* `Asking.carry_eq` says what is remembered by somebody whose answers do not depend on it.
* `Engine.answer_asking` says that a conversion with the answers of its matcher is what it is without
  questions.
-/
import TreeText.Asking
import TreeText.Proofs.Conversion.Bound

namespace TreeText

/-- What is noted before a run is not touched by recovering from its failure. -/
theorem Run.attempt_note_bind {α : Type} (event : Event) (run : Run α) :
    Run.attempt (Run.note event >>= fun _ => run) = Run.note event >>= fun _ => run.attempt := by
  rcases run with _ | ⟨events, result⟩
  · rfl
  · rfl

namespace Asking

variable {Question α β σ : Type} {truth : Question → Bool}

/-! ## Answers that do not change -/

/-- The run of an evaluation whose questions are answered as given. -/
def answer (truth : Question → Bool) : Asking Question α → Run α
  | tooDeep => Run.tooDeep
  | done result => Run.ofExcept result
  | note event next => Run.note event >>= fun _ => next.answer truth
  | ask question next => (next (truth question)).answer truth

/-- The questions of an evaluation, in the order in which they come up when they are answered as
given. -/
def questions (truth : Question → Bool) : Asking Question α → List Question
  | tooDeep => []
  | done _ => []
  | note _ next => next.questions truth
  | ask question next => question :: (next (truth question)).questions truth

/-- Somebody answers as given, whatever has been asked, and remembers nothing but the questions. Then
the run is the one with these answers, and its questions are remembered behind those before it. -/
theorem carry_eq (respond : Question → σ → Bool × σ) (memory : List Question → σ)
    (h : ∀ asked question,
      respond question (memory asked) = (truth question, memory (asked ++ [question])))
    (asking : Asking Question α) (asked : List Question) :
    asking.carry respond (memory asked) =
      (asking.answer truth, memory (asked ++ asking.questions truth)) := by
  induction asking generalizing asked with
  | tooDeep =>
    rw [questions, List.append_nil]
    rfl
  | done result =>
    rw [questions, List.append_nil]
    rfl
  | note event next ih =>
    rw [carry, ih asked]
    rfl
  | ask question next ih =>
    have hbehind : asked ++ question :: (next (truth question)).questions truth =
        (asked ++ [question]) ++ (next (truth question)).questions truth :=
      (List.append_cons _ _ _)
    rw [carry, h asked question, questions, hbehind]
    exact ih (truth question) (asked ++ [question])

/-! ## Parts of evaluations -/

theorem answer_pure (value : α) : (pure value : Asking Question α).answer truth = pure value := rfl

theorem answer_note (event : Event) (asking : Asking Question α) :
    (note event asking).answer truth = Run.note event >>= fun _ => asking.answer truth := rfl

/-- One evaluation after another is one run after another. -/
theorem answer_bind (asking : Asking Question α) (further : α → Asking Question β) :
    (asking >>= further).answer truth =
      asking.answer truth >>= fun value => (further value).answer truth := by
  show (asking.bind further).answer truth = _
  induction asking with
  | tooDeep => rfl
  | done result =>
    cases result with
    | error error => rfl
    | ok value => exact (Run.pure_bind value fun value => (further value).answer truth).symm
  | note event next ih =>
    rw [Asking.bind, answer_note, answer_note, Run.bind_assoc]
    exact congrArg (fun run => Run.note event >>= fun _ => run) ih
  | ask question next ih => exact ih (truth question)

theorem answer_attempt (asking : Asking Question α) :
    asking.attempt.answer truth = (asking.answer truth).attempt := by
  induction asking with
  | tooDeep => rfl
  | done result => rfl
  | note event next ih => rw [attempt, answer_note, answer_note, ih, Run.attempt_note_bind]
  | ask question next ih => exact ih (truth question)

theorem answer_gather {ι : Type} {asking : ι → Asking Question String} {run : ι → Run String}
    (h : ∀ item, (asking item).answer truth = run item) (items : List ι) :
    (gather (items.map asking)).answer truth = Run.gather (items.map run) := by
  induction items with
  | nil => rfl
  | cons item items ih =>
    rw [List.map_cons, gather, answer_bind, h item, List.map_cons, Run.gather]
    refine congrArg (run item >>= ·) (funext fun text => ?_)
    rw [answer_bind, ih]
    rfl

/-- Whether one of several questions is answered with yes. -/
theorem answer_any (questions : List Question) :
    (any questions).answer truth = pure (questions.any truth) := by
  induction questions with
  | nil => rfl
  | cons question questions ih =>
    rw [any, answer, List.any_cons]
    cases truth question with
    | true => rfl
    | false => exact ih

/-- Which items are kept. -/
theorem answer_filter (items : List (α × Question)) :
    (filter items).answer truth =
      pure ((items.filter fun item => truth item.2).map Prod.fst) := by
  induction items with
  | nil => rfl
  | cons item items ih =>
    rw [filter, answer, answer_bind, ih, Run.pure_bind, List.filter_cons, answer_pure]
    cases truth item.2 <;> rfl

/-! ## Formatters at work -/

section Formatters

variable {askingOf : Nat → Asking Question String} {textOf : Nat → Run String}

/-- Scripts are carried out as they are with texts that do not ask. -/
theorem answer_runScript (h : ∀ node, (askingOf node).answer truth = textOf node) (self : Nat)
    (given : Option String) (script : Script) :
    (runScript askingOf self given script).answer truth = script.run textOf self given := by
  induction script generalizing given with
  | done result => rfl
  | content next ih =>
    cases given with
    | some text =>
      rw [runScript, answer_note, ih]
      rfl
    | none =>
      rw [runScript, Script.run, answer_bind, answer_attempt, h self]
      refine congrArg ((textOf self).attempt >>= ·) (funext fun result => ?_)
      cases result with
      | ok text => rw [answer_note, ih]
      | error error => rw [answer_note, ih]
  | convert node next ih =>
    have hconvert : (runScript askingOf self given (.convert node next)).answer truth =
        (textOf (node.getD self)).attempt >>= fun result =>
          Run.note (.converted (node.getD self) result) >>= fun _ =>
            (next result).run textOf self given := by
      rw [runScript, answer_bind, answer_attempt, h]
      refine congrArg ((textOf (node.getD self)).attempt >>= ·) (funext fun result => ?_)
      rw [answer_note, ih]
    rw [hconvert, Script.run]

theorem answer_call (h : ∀ node, (askingOf node).answer truth = textOf node) (doc : Document)
    (visit : Visit) (given : Option String) (formatter : Formatter) :
    (call doc askingOf visit given formatter).answer truth =
      formatter.call doc textOf visit given := by
  rw [call, answer_note, answer_runScript h]
  rfl

end Formatters

/-! ## Conversions -/

section Conversions

variable {c : Conversion}

/-- The answers of the matcher of a conversion. -/
def truthOf (c : Conversion) (test : c.registry.Test) : Bool :=
  c.matcher.selects c.doc test.node test.selector

variable {askingOf : Nat → Asking c.registry.Test String} {textOf : Nat → Run String}

theorem answer_applyRule (h : ∀ node, (askingOf node).answer (truthOf c) = textOf node)
    (visit : Visit) (given : Option String) (rule : Rule) :
    (applyRule c askingOf visit given rule).answer (truthOf c) =
      c.applyRule textOf visit given rule := by
  unfold applyRule Conversion.applyRule
  cases rule.transform with
  | template template =>
    cases given with
    | some text => rfl
    | none =>
      rw [answer_bind, h]
      rfl
  | format formatter =>
    rw [answer_bind, answer_call h]
    refine congrArg (formatter.call c.doc textOf visit given >>= ·) (funext fun text => ?_)
    cases text <;> rfl

theorem answer_applyRules (h : ∀ node, (askingOf node).answer (truthOf c) = textOf node)
    (visit : Visit) (rules : List Rule) (text : String) :
    (applyRules c askingOf visit rules text).answer (truthOf c) =
      c.applyRules textOf visit rules text := by
  induction rules generalizing text with
  | nil => rfl
  | cons rule rules ih =>
    rw [applyRules, answer_bind, answer_applyRule h, Conversion.applyRules]
    exact congrArg (c.applyRule textOf visit (some text) rule >>= ·) (funext ih)

theorem answer_applyFallback (h : ∀ node, (askingOf node).answer (truthOf c) = textOf node)
    (visit : Visit) :
    (applyFallback c askingOf visit).answer (truthOf c) = c.applyFallback textOf visit := by
  unfold applyFallback Conversion.applyFallback
  cases c.registry.fallback with
  | none => exact h visit.node
  | some formatter =>
    show (call c.doc askingOf visit none formatter >>= _).answer (truthOf c) = _
    rw [answer_bind, answer_call h]
    refine congrArg (formatter.call c.doc textOf visit none >>= ·) (funext fun text => ?_)
    cases text <;> rfl

/-- The questions whether an element is ignored are answered as the matcher says. -/
theorem any_ignoredTests (node : Nat) :
    (c.registry.ignoredTests node).any (truthOf c) = c.isIgnored node := by
  unfold Registry.ignoredTests Conversion.isIgnored
  conv_rhs => rw [← List.attach_map_subtype_val c.registry.ignored]
  rw [List.any_map, List.any_map]
  rfl

/-- So are the questions which rules are for an element. -/
theorem filter_ruleTests (node : Nat) :
    ((c.registry.ruleTests node).filter fun item => truthOf c item.2).map Prod.fst =
      c.rulesFor node := by
  unfold Registry.ruleTests Conversion.rulesFor
  conv_rhs => rw [← List.attach_map_subtype_val c.registry.rules]
  rw [List.filter_map, List.filter_map, List.map_map]
  rfl

theorem answer_resolve (h : ∀ node, (askingOf node).answer (truthOf c) = textOf node)
    (visit : Visit) :
    (resolve c askingOf visit).answer (truthOf c) = c.resolve textOf visit := by
  rw [resolve, answer_bind, answer_filter, filter_ruleTests, Run.pure_bind, Conversion.resolve]
  cases c.rulesFor visit.node with
  | nil => exact answer_applyFallback h visit
  | cons first rules =>
    show (applyRule c askingOf visit none first >>= _).answer (truthOf c) = _
    rw [answer_bind, answer_applyRule h]
    exact congrArg (c.applyRule textOf visit none first >>= ·)
      (funext (answer_applyRules h visit rules))

theorem answer_contribution {askingAt : Nat → Nat → Asking c.registry.Test String}
    {textAt : Nat → Nat → Run String}
    (h : ∀ depth node, (askingAt depth node).answer (truthOf c) = textAt depth node)
    (depth node : Nat) :
    (contribution c askingAt depth node).answer (truthOf c) =
      c.contribution textAt depth node := by
  unfold contribution Conversion.contribution
  rcases c.doc.content? node with _ | ⟨tag, dataset⟩ | text | _
  · rfl
  · show (any (c.registry.ignoredTests node) >>= _).answer (truthOf c) = _
    rw [answer_bind, answer_any, any_ignoredTests, Run.pure_bind]
    cases c.isIgnored node with
    | true => rfl
    | false => exact answer_resolve (h (depth + 1)) _
  · rfl
  · rfl

/-- With the answers of the matcher, a text is what it is without questions. -/
theorem answer_textOf (bound depth node : Nat) :
    (Asking.textOf c bound depth node).answer (truthOf c) = c.textOf bound depth node := by
  induction bound generalizing depth node with
  | zero => rfl
  | succ bound ih => exact answer_gather (answer_contribution ih depth) (c.doc.children node)

end Conversions

end Asking

/-! ## Engines -/

namespace Engine

/-- With the answers of its matcher, what an engine asks for is its conversion. -/
theorem answer_asking (engine : Engine) (bound : Nat) (doc : Document) (root : Nat)
    (options : ConversionOptions) :
    (engine.asking bound doc root options).answer
        (fun test => engine.matcher.selects doc test.node test.selector) =
      engine.convertNodeWithin bound doc root options := by
  let c := engine.conversion doc options.normalizeWhitespace
  have hraw : (Asking.textOf c bound 0 root).answer (Asking.truthOf c) = c.textOf bound 0 root :=
    Asking.answer_textOf bound 0 root
  have hfinish : (Asking.textOf c bound 0 root >>= fun raw =>
      pure (engine.finish options raw)).answer (Asking.truthOf c) =
        (Asking.textOf c bound 0 root).answer (Asking.truthOf c) >>= fun raw =>
          pure (engine.finish options raw) := Asking.answer_bind _ _
  rw [hraw] at hfinish
  exact hfinish

end Engine

end TreeText
