/-
# What formatters are given

The formatter of the first rule for an element, and the fallback, are given the text of the element as
their content; the formatter of a further rule is given what the rule before it has left. The text of
the element can be asked for at every place, and is the same at each of them: what its children
contribute, computed anew.

* `Conversion.Leaves` says what rules leave one after the other, and `Conversion.CalledWith` at which
  place a formatter is called and with what.
* `Conversion.Hears` says that a call is given what its place demands, and `Conversion.heard_textOf`
  that all calls for the text of a node are.
* `Engine.hearings_at_every_place` says so of the calls along a conversion.
-/
import TreeText.Formatter.Piece
import TreeText.Proofs.Conversion.Bound
import TreeText.Proofs.Formatter.Told

namespace TreeText

/-- Runs along which calls are given what is demanded are closed under composition. -/
theorem Run.closed_heard (demanded : Hearing → Prop) : Run.Closed (Run.Heard demanded) where
  pure := Run.heard_pure
  bind h hnext := h.bind fun value _ => hnext value

namespace Conversion

variable {c : Conversion} {textOf further : Nat → Run String} {visit : Visit}
  {formatter : Formatter} {given : Option String} {demanded : Hearing → Prop}

/-! ## Places -/

/-- Rules that one after the other leave a text: the first works on the text of the element, and each
of the others on what the one before it has left. -/
inductive Leaves (c : Conversion) (textOf : Nat → Run String) (visit : Visit) :
    List Rule → String → Prop where
  | first {rule : Rule} {text : String}
      (hrule : (c.applyRule textOf visit none rule).result? = some (.ok text)) :
      Leaves c textOf visit [rule] text
  | next {rules : List Rule} {before : String} {rule : Rule} {text : String}
      (hbefore : Leaves c textOf visit rules before)
      (hrule : (c.applyRule textOf visit (some before) rule).result? = some (.ok text)) :
      Leaves c textOf visit (rules ++ [rule]) text

/-- The places at which a formatter is called for an element, with the content that it is given there:
at the first rule and at the fallback none is given, and at a further rule what is left by the rules
before it. -/
inductive CalledWith (c : Conversion) (textOf : Nat → Run String) (visit : Visit) :
    Formatter → Option String → Prop where
  | first {rule : Rule} {rules : List Rule} {formatter : Formatter}
      (hrules : c.rulesFor visit.node = rule :: rules)
      (hcalls : rule.formatter? = some formatter) : CalledWith c textOf visit formatter none
  | further {earlier : List Rule} {rule : Rule} {rules : List Rule} {text : String}
      {formatter : Formatter} (hrules : c.rulesFor visit.node = earlier ++ rule :: rules)
      (hleaves : c.Leaves textOf visit earlier text)
      (hcalls : rule.formatter? = some formatter) : CalledWith c textOf visit formatter (some text)
  | fallback {formatter : Formatter} (hrules : c.rulesFor visit.node = [])
      (hcalls : c.registry.fallback = some formatter) : CalledWith c textOf visit formatter none

/-- Rules leave the same where texts go further. -/
theorem Leaves.mono {rules : List Rule} {text : String} (h : c.Leaves textOf visit rules text)
    (ht : ∀ node, (further node).Extends (textOf node)) : c.Leaves further visit rules text := by
  have hrule : ∀ given rule, (c.applyRule further visit given rule).Extends
      (c.applyRule textOf visit given rule) := fun given rule =>
    congruence_applyRule Run.congruence_extends (ht visit.node) rfl given
      fun formatter _ => Formatter.extends_textFor ht formatter c.doc visit given _
  induction h with
  | first hfirst => exact .first ((hrule _ _).result?_eq hfirst)
  | next hbefore hnext ih => exact .next ih ((hrule _ _).result?_eq hnext)

/-- Formatters are called at the same places where texts go further. -/
theorem CalledWith.mono (h : c.CalledWith textOf visit formatter given)
    (ht : ∀ node, (further node).Extends (textOf node)) :
    c.CalledWith further visit formatter given := by
  cases h with
  | first hrules hcalls => exact .first hrules hcalls
  | further hrules hleaves hcalls => exact .further hrules (hleaves.mono ht) hcalls
  | fallback hrules hcalls => exact .fallback hrules hcalls

/-! ## One element -/

/-- The calls along a rule are given what is demanded, if its own is. -/
theorem heard_applyRule (ht : ∀ node, (textOf node).Heard demanded) {rule : Rule}
    (hcall : ∀ formatter, rule.formatter? = some formatter → ∀ told,
      (formatter.script c.doc visit).Told textOf visit.node given told →
      demanded ⟨visit.callOf formatter, told⟩) :
    (c.applyRule textOf visit given rule).Heard demanded :=
  @congruence_applyRule _ c c textOf textOf visit visit (Run.closed_heard demanded) (ht visit.node)
    rfl rule given fun formatter hformatter =>
      Formatter.heard_textFor ht (hcall formatter hformatter) _

/-- The calls along further rules are given what is demanded, if those at these places are. -/
theorem heard_applyRules (ht : ∀ node, (textOf node).Heard demanded)
    (hcall : ∀ formatter given told, c.CalledWith textOf visit formatter given →
      (formatter.script c.doc visit).Told textOf visit.node given told →
      demanded ⟨visit.callOf formatter, told⟩)
    {earlier rules : List Rule} {text : String} (hleaves : c.Leaves textOf visit earlier text)
    (hrules : c.rulesFor visit.node = earlier ++ rules) :
    (c.applyRules textOf visit rules text).Heard demanded := by
  induction rules generalizing earlier text with
  | nil => exact Run.heard_pure text
  | cons rule rules ih =>
    have hrule : (c.applyRule textOf visit (some text) rule).Heard demanded :=
      heard_applyRule ht fun formatter hformatter told =>
        hcall formatter (some text) told (.further hrules hleaves hformatter)
    -- Behind this rule, it is among those that have left a text.
    refine hrule.bind fun changed hchanged => ih (hleaves.next hchanged) ?_
    rw [hrules, List.append_assoc, List.singleton_append]

/-- The calls for an element are given what is demanded, if those at all places are. -/
theorem heard_resolve (ht : ∀ node, (textOf node).Heard demanded)
    (hcall : ∀ formatter given told, c.CalledWith textOf visit formatter given →
      (formatter.script c.doc visit).Told textOf visit.node given told →
      demanded ⟨visit.callOf formatter, told⟩) :
    (c.resolve textOf visit).Heard demanded := by
  unfold resolve
  cases hrules : c.rulesFor visit.node with
  | nil =>
    simp only [applyFallback]
    cases hfallback : c.registry.fallback with
    | none => exact ht visit.node
    | some formatter =>
      have hplace : c.CalledWith textOf visit formatter none := .fallback hrules hfallback
      exact Formatter.heard_textFor ht (fun told => hcall formatter none told hplace) _
  | cons first rules =>
    have hfirst : (c.applyRule textOf visit none first).Heard demanded :=
      heard_applyRule ht fun formatter hformatter told =>
        hcall formatter none told (.first hrules hformatter)
    exact hfirst.bind fun text htext => heard_applyRules ht hcall (.first htext) hrules

/-! ## Whole trees -/

/-- The text of a node at a depth is this one, or this failure, within a bound on nesting and any
larger one. -/
def HasText (c : Conversion) (bound depth node : Nat) (taken : Except ConversionError String) :
    Prop :=
  ∀ wider, bound ≤ wider → (c.textOf wider depth node).result? = some taken

/-- What a text is within a bound, it is within any larger one. -/
theorem hasText_of_result? {bound depth node : Nat} {taken : Except ConversionError String}
    (h : (c.textOf bound depth node).result? = some taken) : c.HasText bound depth node taken :=
  fun _ hle => (extends_textOf hle depth node).result?_eq h

/-- A call is for an element that is not ignored, at one of its places, and is given what this
demands. -/
def Hears (c : Conversion) (textAt : Nat → Nat → Run String) (hearing : Hearing) : Prop :=
  ∃ visit formatter given, c.doc.content? visit.node = some (.element visit.tag visit.dataset) ∧
    c.isIgnored visit.node = false ∧ hearing.call = visit.callOf formatter ∧
    c.CalledWith (textAt visit.depth) visit formatter given ∧
    (formatter.script c.doc visit).Told (textAt visit.depth) visit.node given hearing.events

/-- A call is given what its place demands where texts go further. -/
theorem Hears.mono {textAt furtherAt : Nat → Nat → Run String} {hearing : Hearing}
    (h : c.Hears textAt hearing)
    (ht : ∀ depth node, (furtherAt depth node).Extends (textAt depth node)) :
    c.Hears furtherAt hearing := by
  obtain ⟨visit, formatter, given, hcontent, hignored, hcall, hplace, htold⟩ := h
  exact ⟨visit, formatter, given, hcontent, hignored, hcall, hplace.mono (ht visit.depth),
    htold.mono fun node _ => (ht visit.depth node).result?_eq⟩

/-- The calls for a child are given what their places demand, if those for the texts are that may be
asked for there. -/
theorem heard_contribution {textAt : Nat → Nat → Run String} {depth : Nat}
    (ht : ∀ node, (textAt (depth + 1) node).Heard (c.Hears textAt)) (child : Nat) :
    (c.contribution textAt depth child).Heard (c.Hears textAt) := by
  rcases c.contribution_cases textAt depth child with
    ⟨text, hcontributes⟩ | ⟨tag, dataset, hcontent, hignored, hcontributes⟩
  · rw [hcontributes]
    exact Run.heard_pure text
  · rw [hcontributes]
    exact heard_resolve ht fun formatter given told hplace htold =>
      ⟨⟨child, tag, dataset, depth + 1⟩, formatter, given, hcontent, hignored, rfl, hplace, htold⟩

/-- All calls for the text of a node are given what their places demand, within any bound on
nesting. -/
theorem heard_textOf (c : Conversion) (bound depth node : Nat) :
    (c.textOf bound depth node).Heard (c.Hears (c.textOf bound)) := by
  induction bound generalizing depth node with
  | zero =>
    intro events result h
    cases h
  | succ bound ih =>
    have hbelow : (c.textOf (bound + 1) depth node).Heard (c.Hears (c.textOf bound)) :=
      (Run.closed_heard _).gather fun child _ => heard_contribution (ih (depth + 1)) child
    -- What is nested in the text has one level less, which does not show in what is given.
    exact hbelow.mono fun hearing h =>
      h.mono fun depth node => extends_textOf (Nat.le_succ bound) depth node

end Conversion

/-! ## Engines -/

namespace Engine

/-- Along any conversion each call is for an element, by the formatter of its first rule, of a further
rule or of the fallback. At all these places the text of the element can be asked for, and is what is
computed anew from its children, whatever rules have left before. The content is always the same
within one call, also behind a failure: at a further rule it is what the rule before has left, which
is no failure, and at the other places it is the text of the element. -/
theorem hearings_at_every_place (engine : Engine) (bound : Nat) (doc : Document) (root : Nat)
    (options : ConversionOptions) :
    let c := engine.conversion doc options.normalizeWhitespace
    let events := (engine.convertNodeWithin bound doc root options).events
    (Event.hearings events).map Hearing.call = Event.calls events ∧
    ∀ hearing ∈ Event.hearings events, ∃ visit formatter given,
      doc.content? visit.node = some (.element visit.tag visit.dataset) ∧
      hearing.call = visit.callOf formatter ∧
      c.CalledWith (c.textOf bound visit.depth) visit formatter given ∧
      (formatter.script doc visit).Told (c.textOf bound visit.depth) visit.node given
        hearing.events ∧
      (∀ first second, .content first ∈ hearing.events → .content second ∈ hearing.events →
        first = second) ∧
      (∀ taken, .converted visit.node taken ∈ hearing.events →
        c.HasText bound visit.depth visit.node taken) ∧
      (given = none → ∀ taken, .content taken ∈ hearing.events →
        c.HasText bound visit.depth visit.node taken ∧
        ∀ other, .converted visit.node other ∈ hearing.events → other = taken) ∧
      ∀ text, given = some text → ∀ taken, .content taken ∈ hearing.events → taken = .ok text := by
  intro c events
  have hheard : (engine.convertNodeWithin bound doc root options).Heard (c.Hears (c.textOf bound)) :=
    (c.heard_textOf bound 0 root).bind fun raw _ => Run.heard_pure _
  refine ⟨Event.map_call_hearings events, fun hearing hm => ?_⟩
  obtain ⟨visit, formatter, given, hcontent, -, hcall, hplace, htold⟩ := hheard.of_mem_events hm
  have hconverted : ∀ taken, .converted visit.node taken ∈ hearing.events →
      (c.textOf bound visit.depth visit.node).result? = some taken :=
    fun taken hm => htold.tells _ hm
  have hread : ∀ taken, .content taken ∈ hearing.events →
      Script.contentOf? (c.textOf bound visit.depth) visit.node given = some taken :=
    fun taken hm => htold.tells _ hm
  refine ⟨visit, formatter, given, hcontent, hcall, hplace, htold, fun first second hf hs => ?_,
    fun taken hm => Conversion.hasText_of_result? (hconverted taken hm), ?_, ?_⟩
  · exact Option.some.inj ((hread first hf).symm.trans (hread second hs))
  · rintro rfl taken hm
    have hanew : (c.textOf bound visit.depth visit.node).result? = some taken := hread taken hm
    refine ⟨Conversion.hasText_of_result? hanew, fun other hother => ?_⟩
    exact Option.some.inj ((hconverted other hother).symm.trans hanew)
  · rintro text rfl taken hm
    exact (Option.some.inj (hread taken hm)).symm

/-- A list in which an emphasis fails. The first formatter for the list recovers from this, and asks
for its content, for its text, and for its content again; the second is given what the first has left,
and the text as it is. A paragraph goes to the fallback. -/
theorem hearings_at_every_place_behind_failure :
    let edits : List Document.Edit :=
      [.element 1 "ul" .empty, .element 2 "em" .empty, .element 1 "p" .empty, .text 4 "a"]
    let failing := Formatter.ofPieces "failing" [.fail "no"]
    let careful := Formatter.ofPieces "careful"
      [.attempt .content "1", .attempt (.convert none) "2", .attempt .content "3"]
    let further := Formatter.ofPieces "further" [.content, .attempt (.convert none) "4", .content]
    let other := Formatter.ofPieces "other" [.content, .convert none]
    let engine : Engine :=
      ⟨.byTag, [⟨"ul", .format careful⟩, ⟨"em", .format failing⟩, ⟨"ul", .format further⟩], .empty,
        [], some other⟩
    let events := (engine.convertNodeWithin 5 (Document.build edits) 1 .standard).events
    let failure : ConversionError := .callback "no"
    let emphasis : Hearing := ⟨⟨"failing", 3, "em", 2⟩, [.answered (.error failure)]⟩
    Event.hearings events =
        [⟨⟨"careful", 2, "ul", 1⟩,
            [.content (.error failure), .converted 2 (.error failure), .content (.error failure),
              .answered (.ok (some "123"))]⟩,
          emphasis, emphasis, emphasis,
          ⟨⟨"further", 2, "ul", 1⟩,
            [.content (.ok "123"), .converted 2 (.error failure), .content (.ok "123"),
              .answered (.ok (some "1234123"))]⟩,
          emphasis,
          ⟨⟨"other", 4, "p", 1⟩,
            [.content (.ok "a"), .converted 4 (.ok "a"), .answered (.ok (some "aa"))]⟩] ∧
      (Event.hearings events).map Hearing.call = Event.calls events ∧
      ∀ hearing ∈ Event.hearings events, ∀ first second, .content first ∈ hearing.events →
        .content second ∈ hearing.events → first = second := by
  intro edits failing careful further other engine events failure emphasis
  obtain ⟨hcalls, hplaces⟩ := hearings_at_every_place engine 5 (Document.build edits) 1 .standard
  refine ⟨by decide +kernel, hcalls, fun hearing hm first second hfirst hsecond => ?_⟩
  obtain ⟨visit, formatter, given, -, -, -, -, hsame, -⟩ := hplaces hearing hm
  exact hsame first second hfirst hsecond

end Engine

end TreeText
