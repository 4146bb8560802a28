/-
# Conversions that ask

While a conversion goes on, selectors are tested on elements, and whoever answers may remember
something from one test to the next. So a conversion is written here as it is before anything is
answered: a tree of events and questions, each question with how it goes on after either answer.

* `Asking` is an evaluation with questions, and `Asking.carry` carries one out with somebody who
  answers and remembers.
* `Registry.Test` is the question of a conversion: whether a registered selector selects a node.
* `Asking.textOf` is the text of a node, and `Engine.asking` the finished text.
-/
import TreeText.Engine

namespace TreeText

/-- An evaluation with questions in it: it is nested too deeply, it is done, something happens and
it goes on, or it asks and goes on with the answer. -/
inductive Asking (Question α : Type) where
  | tooDeep
  | done (result : Except ConversionError α)
  | note (event : Event) (next : Asking Question α)
  | ask (question : Question) (next : Bool → Asking Question α)

namespace Asking

variable {Question α β σ : Type}

/-! ## Evaluations with questions -/

/-- The evaluation that ends with a value at once. -/
protected def pure (value : α) : Asking Question α := done (.ok value)

/-- The evaluation that ends with a failure at once. -/
def fail (error : ConversionError) : Asking Question α := done (.error error)

/-- One evaluation after another. The second is not begun if the first fails. -/
protected def bind (asking : Asking Question α) (further : α → Asking Question β) :
    Asking Question β :=
  match asking with
  | tooDeep => tooDeep
  | done (.error error) => done (.error error)
  | done (.ok value) => further value
  | note event next => note event (next.bind further)
  | ask question next => ask question fun answer => (next answer).bind further

instance : Monad (Asking Question) where
  pure := Asking.pure
  bind := Asking.bind

/-- An evaluation that does not fail: its value says how the given one ended. -/
def attempt : Asking Question α → Asking Question (Except ConversionError α)
  | tooDeep => tooDeep
  | done result => done (.ok result)
  | note event next => note event next.attempt
  | ask question next => ask question fun answer => (next answer).attempt

/-- Texts evaluated one after the other and joined. -/
def gather : List (Asking Question String) → Asking Question String
  | [] => pure ""
  | asking :: others => do
    let text ← asking
    let rest ← gather others
    return text ++ rest

/-- Asks until a question is answered with yes. -/
def any : List Question → Asking Question Bool
  | [] => pure false
  | question :: questions =>
    ask question fun
      | true => pure true
      | false => any questions

/-- Asks a question about each item, and keeps those for which the answer is yes. -/
def filter : List (α × Question) → Asking Question (List α)
  | [] => pure []
  | (item, question) :: items =>
    ask question fun answer => do
      let others ← filter items
      return if answer then item :: others else others

/-- Carries out an evaluation with somebody who answers and remembers: the run, and what is
remembered at its end. -/
def carry (respond : Question → σ → Bool × σ) : Asking Question α → σ → Run α × σ
  | tooDeep, state => (Run.tooDeep, state)
  | done result, state => (Run.ofExcept result, state)
  | note event next, state =>
    match next.carry respond state with
    | (run, after) => (Run.note event >>= fun _ => run, after)
  | ask question next, state =>
    match respond question state with
    | (answer, after) => (next answer).carry respond after

/-! ## Formatters at work -/

/-- Carries out a script, with texts of nodes that ask. -/
def runScript (textOf : Nat → Asking Question String) (self : Nat) :
    Option String → Script → Asking Question (Option String)
  | _, .done answer => note (.answered answer) (done answer)
  | some text, .content next =>
    note (.content (.ok text)) (runScript textOf self (some text) (next (.ok text)))
  | none, .content next => do
    match ← (textOf self).attempt with
    | .ok text => note (.content (.ok text)) (runScript textOf self (some text) (next (.ok text)))
    | .error error =>
      note (.content (.error error)) (runScript textOf self none (next (.error error)))
  | given, .convert node next => do
    let result ← (textOf (node.getD self)).attempt
    note (.converted (node.getD self) result) (runScript textOf self given (next result))

/-- Calls a formatter for an element. -/
def call (doc : Document) (textOf : Nat → Asking Question String) (visit : Visit)
    (given : Option String) (formatter : Formatter) : Asking Question (Option String) :=
  note (.called ⟨formatter.label, visit.node, visit.tag, visit.depth⟩)
    (runScript textOf visit.node given (formatter.script doc visit))

end Asking

/-! ## Tests -/

/-- The question whether a selector of a registry selects a node. -/
structure Registry.Test (registry : Registry) where
  node : Nat
  selector : String
  registered : selector ∈ registry.selectors

namespace Registry

/-- The questions whether an element is ignored. -/
def ignoredTests (registry : Registry) (node : Nat) : List registry.Test :=
  registry.ignored.attach.map fun ⟨selector, hm⟩ =>
    ⟨node, selector, List.mem_append_left _ hm⟩

/-- The rules, each with the question whether it is for an element. -/
def ruleTests (registry : Registry) (node : Nat) : List (Rule × registry.Test) :=
  registry.rules.attach.map fun ⟨rule, hm⟩ =>
    (rule, ⟨node, rule.selector, List.mem_append_right _ (List.mem_map_of_mem hm)⟩)

end Registry

/-! ## Conversions

The matcher of a conversion is not looked at here: its tests are left as questions. -/

namespace Asking

variable (c : Conversion)

/-- What a rule makes of an element. -/
def applyRule (textOf : Nat → Asking c.registry.Test String) (visit : Visit)
    (given : Option String) (rule : Rule) : Asking c.registry.Test String :=
  match rule.transform with
  | .template template => do
    let content ← match given with
      | some text => pure text
      | none => textOf visit.node
    return template.render content visit.dataset
  | .format formatter => do
    match ← call c.doc textOf visit given formatter with
    | some text => return text
    | none => fail (.ruleWithoutAnswer rule.selector)

/-- What further rules make of a text, one after the other. -/
def applyRules (textOf : Nat → Asking c.registry.Test String) (visit : Visit) :
    List Rule → String → Asking c.registry.Test String
  | [], text => pure text
  | rule :: rules, text => do
    let changed ← applyRule c textOf visit (some text) rule
    applyRules textOf visit rules changed

/-- What becomes of an element that no rule selects. -/
def applyFallback (textOf : Nat → Asking c.registry.Test String) (visit : Visit) :
    Asking c.registry.Test String :=
  match c.registry.fallback with
  | some formatter => do
    match ← call c.doc textOf visit none formatter with
    | some text => return text
    | none => fail (.fallbackWithoutAnswer visit.tag)
  | none => textOf visit.node

/-- What becomes of an element: the selectors of all rules are tested on it before a rule is
applied. -/
def resolve (textOf : Nat → Asking c.registry.Test String) (visit : Visit) :
    Asking c.registry.Test String := do
  match ← filter (c.registry.ruleTests visit.node) with
  | [] => applyFallback c textOf visit
  | first :: rules =>
    let text ← applyRule c textOf visit none first
    applyRules c textOf visit rules text

/-- What a child of a node at the given depth contributes. On an element, the selectors that are
ignored are tested first. -/
def contribution (textAt : Nat → Nat → Asking c.registry.Test String) (depth node : Nat) :
    Asking c.registry.Test String :=
  match c.doc.content? node with
  | some (.text text) => pure (c.plainText node text)
  | some (.element tag dataset) => do
    if ← any (c.registry.ignoredTests node) then return ""
    else resolve c (textAt (depth + 1)) ⟨node, tag, dataset, depth + 1⟩
  | _ => pure ""

/-- The text of a node at a depth, within a bound on how deeply texts are nested. -/
def textOf : Nat → Nat → Nat → Asking c.registry.Test String
  | 0, _, _ => tooDeep
  | bound + 1, depth, node =>
    gather ((c.doc.children node).map (contribution c (textOf bound) depth))

end Asking

/-- The finished text below a node, within a bound on how deeply texts are nested, where the tests
are left as questions. -/
def Engine.asking (engine : Engine) (bound : Nat) (doc : Document) (root : Nat)
    (options : ConversionOptions) : Asking engine.registry.Test String := do
  let raw ← Asking.textOf (engine.conversion doc options.normalizeWhitespace) bound 0 root
  return engine.finish options raw

end TreeText
