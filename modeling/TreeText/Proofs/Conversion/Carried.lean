/-
# Conversions and what they leave in a cache

A conversion tests selectors on one element after another, each with the cache that the test before
it has left, and the first one with what earlier conversions have left. All this shows in the cache
only: there, the tests of a conversion are behind those of the earlier ones.

* `Converter.questions` are the tests that a conversion makes, and `Converter.asksAll` those of
  activities one after the other.
* `Converter.convertNodeWithin_of_asked` is one conversion, and `Converter.selectors_after` says what
  activities leave.
* `Converter.selectors_transparent` says that neither answers nor conversions depend on what came
  before.
-/
import TreeText.Css.Selector
import TreeText.Proofs.Conversion.Asking
import TreeText.Proofs.Conversion.Unread
import TreeText.Proofs.Css.Cache

namespace TreeText.Converter

section

variable [Css.Language]

/-! ## One conversion -/

/-- The tests that a conversion makes, in their order, when all selectors are read anew. -/
def questions (converter : Converter) (bound : Nat) (doc : Document) (root : Nat)
    (options : ConversionOptions) : List Css.Query :=
  ((converter.fresh.asking bound doc root options).questions fun test =>
    Css.matcher.selects doc test.node test.selector).map fun test =>
      .selects doc test.node test.selector

variable {converter : Converter}

/-- Whatever has been asked before, a conversion is that of an engine which reads all selectors anew;
and the converter has then been asked the tests of the conversion, too. -/
theorem convertNodeWithin_of_asked {before : List Css.Query}
    (h : converter.selectors = Css.Cache.asked before) (bound : Nat) (doc : Document) (root : Nat)
    (options : ConversionOptions) :
    converter.convertNodeWithin bound doc root options =
      (converter.fresh.convertNodeWithin bound doc root options,
        ⟨converter.registry,
          Css.Cache.asked (before ++ converter.questions bound doc root options)⟩) := by
  let engine := converter.fresh
  let asking := engine.asking bound doc root options
  let respond (test : engine.registry.Test) (selectors : Css.Cache) : Bool × Css.Cache :=
    selectors.test doc test.node test.selector
  -- What is remembered of tests is the cache in which they come behind those before.
  let memory (tests : List engine.registry.Test) : Css.Cache :=
    Css.Cache.asked (before ++ tests.map fun test => .selects doc test.node test.selector)
  have hrespond : ∀ tests test, respond test (memory tests) =
      (Css.matcher.selects doc test.node test.selector, memory (tests ++ [test])) := by
    intro tests test
    show (Css.Cache.asked _).test doc test.node test.selector = (_, Css.Cache.asked _)
    rw [Css.Cache.test_asked, List.map_append, List.append_assoc]
    rfl
  have hnone : memory [] = converter.selectors := by
    rw [h]
    exact congrArg Css.Cache.asked (List.append_nil before)
  have hcarry := Asking.carry_eq respond memory hrespond asking []
  have hanswer : asking.answer (fun test => Css.matcher.selects doc test.node test.selector) =
      engine.convertNodeWithin bound doc root options :=
    engine.answer_asking bound doc root options
  rw [hnone, hanswer] at hcarry
  exact congrArg (fun result => (result.1, Converter.mk converter.registry result.2)) hcarry

/-- So a conversion gives what it gives when all selectors are read anew. -/
theorem convertNode_of_asked {before : List Css.Query}
    (h : converter.selectors = Css.Cache.asked before) (doc : Document) (root : Nat)
    (options : ConversionOptions) :
    (converter.convertNode doc root options).1 = converter.fresh.convertNode doc root options := by
  rw [convertNode, convertNodeWithin_of_asked h, Engine.convertNode_eq_within]

/-! ## Histories -/

/-- The tests that are made in an activity. To check whether a selector can be read leaves nothing
in the cache. -/
def asks (converter : Converter) : Activity → List Css.Query
  | .convert doc root options => converter.questions (Engine.nesting doc) doc root options
  | .request _ => []
  | .apply _ => []

/-- The tests that are made in activities one after the other. -/
def asksAll (converter : Converter) : List Activity → List Css.Query
  | [] => []
  | activity :: activities =>
    converter.asks activity ++ (converter.act activity).asksAll activities

/-- An activity leaves the tests that are made in it. -/
theorem selectors_act {before : List Css.Query} (h : converter.selectors = Css.Cache.asked before)
    (activity : Activity) :
    (converter.act activity).selectors =
      Css.Cache.asked (before ++ converter.asks activity) := by
  have hquiet : before ++ [] = before := List.append_nil before
  obtain ⟨doc, root, options, rfl⟩ | ⟨hne, requests, -, hact⟩ := act_cases activity
  · have hconvert := convertNodeWithin_of_asked h (Engine.nesting doc) doc root options
    exact congrArg (fun result => result.2.selectors) hconvert
  · rw [hact]
    cases activity with
    | convert doc root options => exact absurd rfl (hne doc root options)
    | request request => rw [asks, hquiet, h]
    | apply config => rw [asks, hquiet, h]

/-- Activities leave the tests that are made in them. -/
theorem selectors_after {before : List Css.Query} (h : converter.selectors = Css.Cache.asked before)
    (activities : List Activity) :
    (converter.after activities).selectors =
      Css.Cache.asked (before ++ converter.asksAll activities) := by
  induction activities generalizing converter before with
  | nil => rw [asksAll, List.append_nil, ← h]; rfl
  | cons activity activities ih =>
    rw [asksAll, ← List.append_assoc]
    exact ih (selectors_act h activity)

/-- A matcher with a cache answers any questions, one after the other, as one that reads each selector
anew, which finds a node selected exactly if it is an element and the selector can be read and holds
for it. The cache holds the selectors that can be read and have been tested on elements so far, each
once and with its own formula. So whatever has been registered, refused, applied and converted before,
the cache of a converter is that of a matcher which has been asked the tests of these conversions, and
further conversions are those of an engine with the same registry that reads all selectors anew. -/
theorem selectors_transparent :
    (∀ queries : List Css.Query,
      (Css.Cache.empty.askAll queries).1 = queries.map Css.Query.answer ∧
        (Css.Cache.empty.askAll queries).2.Keeps fun selector =>
          ∃ query ∈ queries, query.Needs selector) ∧
    (∀ doc node selector, Css.matcher.selects doc node selector = true ↔
      doc.isElement node = true ∧
        ∃ formula, Css.Language.read selector = .ok formula ∧
          Css.Language.holds formula doc node = true) ∧
    ∀ activities : List Activity,
      let converter := Converter.new.after activities
      let asked := Converter.new.asksAll activities
      converter.selectors = Css.Cache.asked asked ∧
        ∀ doc root options,
          (converter.convertNode doc root options).1 =
              converter.fresh.convertNode doc root options ∧
            ∀ bound, converter.convertNodeWithin bound doc root options =
              (converter.fresh.convertNodeWithin bound doc root options,
                ⟨converter.registry, Css.Cache.asked
                  (asked ++ converter.questions bound doc root options)⟩) := by
  refine ⟨fun queries => ⟨?_, Css.Cache.keeps_asked queries⟩, fun doc node selector => ?_, ?_⟩
  · exact Css.Cache.askAll_asked [] queries
  · exact Css.selects_eq_true_iff doc node selector
  · intro activities converter asked
    have hnew : Converter.new.selectors = Css.Cache.asked [] := rfl
    have hselectors : converter.selectors = Css.Cache.asked asked := selectors_after hnew activities
    refine ⟨hselectors, fun doc root options => ⟨?_, fun bound => ?_⟩⟩
    · exact convertNode_of_asked hselectors doc root options
    · exact convertNodeWithin_of_asked hselectors bound doc root options

end

/-- Nothing but the first of two ignored selectors is tested on an element that it selects. On two
others, both are tested, and the selector of a rule; each is kept once. -/
example :
    let ignored := Document.build [.element 1 "nav" .empty]
    let others := Document.build [.element 1 "p" .empty, .element 1 "p" .empty]
    let converter := Converter.new.after
      [.request (.ignore ["nav", "footer"]), .request (.rules [.template "b" "x"]),
        .convert ignored 1 .standard]
    converter.selectors.entries.map Prod.fst = ["nav"] ∧
      (converter.act (.convert others 1 .standard)).selectors.entries.map Prod.fst =
        ["nav", "footer", "b"] := by
  decide +kernel

end TreeText.Converter
