/-
# Depth under questions

A formatter may ask for the text of a node far below its element. The children of that node are then
converted as if they stood directly below the element: the elements on the way to the node are
skipped, and the depths of all calls that are made meanwhile are too small by their number. Depths
are the documented ones exactly if no question skips an element.

* `Conversion.AtDepthUnder` says which depth a call has that is made under questions, and
  `Conversion.nested_textOf` that all calls for the text of a node have this depth.
* `Document.Skips` is the way that a question skips, and `Conversion.AtDepthUnder.exists_skips` adds
  up what is missing.
* `Engine.convertNodeWithin_depth_of_skips` says so of whole conversions, and
  `Engine.not_forall_depth_of_convert` that something can be missing.
-/
import Mathlib.Data.List.Forall2
import TreeText.Descent.Selector
import TreeText.Proofs.Conversion.Bound
import TreeText.Proofs.Conversion.Depth
import TreeText.Proofs.Run.Questions

namespace TreeText

/-- The nodes on the way down that a question skips: those below the element that asks, down to the
node whose text is computed. -/
def Document.Skips (doc : Document) (ask : Ask) (skip : List Nat) : Prop :=
  doc.Leads ask.call.node skip ask.node

/-- In a tree, a question skips one way only. -/
theorem Document.IsTree.eq_of_skips {doc : Document} (hd : doc.IsTree) {asks : List Ask}
    {skips others : List (List Nat)} (h : List.Forall₂ doc.Skips asks skips)
    (ho : List.Forall₂ doc.Skips asks others) : skips = others := by
  have hunique : Relator.RightUnique doc.Skips := fun ask skip other h₁ h₂ => hd.eq_of_leads h₁ h₂
  exact hunique.forall₂ h ho

namespace Conversion

variable {c : Conversion}

/-! ## Calls under questions -/

/-- The depth of a call that is made under questions. The call that asks first has the depth of its
element, as seen from a node at a depth. From there on the node whose text is asked for counts as if
it were at that same depth. -/
def AtDepthUnder (c : Conversion) : Nat → Nat → List Ask → Call → Prop
  | depth, node, [], call => c.AtDepth depth node call
  | depth, node, ask :: asks, call =>
    c.AtDepth depth node ask.call ∧ c.AtDepthUnder ask.call.depth ask.node asks call

/-- What is seen from a child is seen from the node above, if the child is an element. -/
theorem AtDepthUnder.above {depth node child : Nat} {asks : List Ask} {call : Call}
    (h : c.AtDepthUnder (depth + 1) child asks call) (hlist : c.doc.Lists node child)
    (helement : c.doc.isElement child = true) : c.AtDepthUnder depth node asks call := by
  cases asks with
  | nil => exact AtDepth.above h hlist helement
  | cons ask asks => exact ⟨h.1.above hlist helement, h.2⟩

/-- Runs along which calls are made under allowed questions are closed under composition. -/
theorem closed_nested (allowed : List Ask → Call → Prop) : Run.Closed (Run.Nested allowed) where
  pure := Run.nested_pure
  bind h hnext := h.bind hnext

/-- The calls for a child of a node have the depths that go with their questions, if those for all
texts do that may be asked for there. -/
theorem nested_contribution {textAt : Nat → Nat → Run String} {depth node child : Nat}
    (hlist : c.doc.Lists node child)
    (ht : ∀ below, (textAt (depth + 1) below).Nested (c.AtDepthUnder (depth + 1) below)) :
    (c.contribution textAt depth child).Nested (c.AtDepthUnder depth node) := by
  rcases c.contribution_cases textAt depth child with
    ⟨text, hcontributes⟩ | ⟨tag, dataset, hcontent, -, hcontributes⟩
  · rw [hcontributes]
    exact Run.nested_pure text
  · have helement : c.doc.isElement child = true := by
      rw [Document.isElement, Document.tag?, hcontent]
      rfl
    let visit : Visit := ⟨child, tag, dataset, depth + 1⟩
    have hown : ∀ formatter, c.AtDepth (depth + 1) child (visit.callOf formatter) :=
      fun formatter => atDepth_self helement
    -- Whatever is asked for, its children count as if they stood below the child itself.
    have hasked : ∀ formatter target,
        (textAt (depth + 1) (Ask.node ⟨visit.callOf formatter, target⟩)).Nested fun asks call =>
          c.AtDepthUnder (depth + 1) child (⟨visit.callOf formatter, target⟩ :: asks) call :=
      fun formatter target => (ht _).mono fun asks call h => ⟨hown formatter, h⟩
    have hbelow : (c.resolve (textAt (depth + 1)) visit).Nested
        (c.AtDepthUnder (depth + 1) child) := by
      refine closed_resolve (closed_nested _) (ht child) fun formatter unanswered given _ => ?_
      exact Formatter.nested_textFor (hown formatter) (hasked formatter none)
        (fun below => hasked formatter (some below)) given unanswered
    rw [hcontributes]
    exact hbelow.mono fun asks call h => h.above hlist helement

/-- All calls for the text of a node at a depth have the depths that go with their questions, within
any bound on nesting. -/
theorem nested_textOf (c : Conversion) (bound depth node : Nat) :
    (c.textOf bound depth node).Nested (c.AtDepthUnder depth node) := by
  induction bound generalizing depth node with
  | zero =>
    intro events result h
    cases h
  | succ bound ih =>
    refine (closed_nested _).gather fun child hchild => ?_
    exact nested_contribution hchild (ih (depth + 1))

/-! ## What is missing -/

/-- If each question is for a node at or below the element that asks, then the depth of a call and
the elements that are skipped add up to the elements on a way down to the element of the call. -/
theorem AtDepthUnder.exists_skips {depth node : Nat} {asks : List Ask} {call : Call}
    (h : c.AtDepthUnder depth node asks call)
    (hbelow : ∀ ask ∈ asks, c.doc.AtOrBelow ask.call.node ask.node) :
    ∃ path skips, c.doc.Leads node path call.node ∧ List.Forall₂ c.doc.Skips asks skips ∧
      call.depth + skips.flatten.countP c.doc.isElement =
        depth + path.countP c.doc.isElement := by
  induction asks generalizing depth node with
  | nil =>
    obtain ⟨-, path, hpath, hdepth⟩ := h
    exact ⟨path, [], hpath, .nil, hdepth⟩
  | cons ask asks ih =>
    obtain ⟨⟨-, before, hbefore, hask⟩, hrest⟩ := h
    obtain ⟨skip, hskip⟩ := Document.exists_leads (hbelow ask List.mem_cons_self)
    obtain ⟨after, skips, hafter, hskips, hsum⟩ :=
      ih hrest fun ask hm => hbelow ask (List.mem_cons_of_mem _ hm)
    refine ⟨before ++ (skip ++ after), skip :: skips, ?_, .cons hskip hskips, ?_⟩
    · exact hbefore.append (hskip.append hafter)
    · rw [List.flatten_cons, List.countP_append, List.countP_append, List.countP_append]
      rw [hask] at hsum
      omega

end Conversion

/-! ## Engines -/

namespace Engine

/-- Along any conversion, however deeply it nests texts and whatever formatters ask for, each call has
the depth that goes with the questions under which it is made. Where these are for nodes at or below
the elements that ask, the number of elements on a way from the root, which does not count, down to
the element of the call, which does, is this depth and the number of elements that the questions
skip; so the depth is that number exactly if none of them skips an element. In a tree there is one
such way, and each question skips one way. -/
theorem convertNodeWithin_depth_of_skips (engine : Engine) (bound : Nat) (doc : Document)
    (root : Nat) (options : ConversionOptions) :
    let events := (engine.convertNodeWithin bound doc root options).events
    (Event.callsUnder events).map Prod.snd = Event.calls events ∧
    ∀ asks call, (asks, call) ∈ Event.callsUnder events →
      (engine.conversion doc options.normalizeWhitespace).AtDepthUnder 0 root asks call ∧
      ((∀ ask ∈ asks, doc.AtOrBelow ask.call.node ask.node) →
        ∃ path skips, doc.Leads root path call.node ∧ List.Forall₂ doc.Skips asks skips ∧
          call.depth + skips.flatten.countP doc.isElement = path.countP doc.isElement ∧
          (call.depth = path.countP doc.isElement ↔
            ∀ skip ∈ skips, ∀ node ∈ skip, doc.isElement node = false) ∧
          (doc.IsTree → (∀ other, doc.Leads root other call.node → other = path) ∧
            ∀ others, List.Forall₂ doc.Skips asks others → others = skips)) := by
  intro events
  let c := engine.conversion doc options.normalizeWhitespace
  have hnested : (engine.convertNodeWithin bound doc root options).Nested (c.AtDepthUnder 0 root) :=
    (Conversion.nested_textOf c bound 0 root).bind fun raw => Run.nested_pure _
  refine ⟨Event.map_snd_callsAmid [] [] events, fun asks call hm => ?_⟩
  have hdepth : c.AtDepthUnder 0 root asks call := hnested.of_mem_events hm
  refine ⟨hdepth, fun hbelow => ?_⟩
  obtain ⟨path, skips, hpath, hskips, hsum⟩ : ∃ path skips, doc.Leads root path call.node ∧
      List.Forall₂ doc.Skips asks skips ∧
      call.depth + skips.flatten.countP doc.isElement = 0 + path.countP doc.isElement :=
    hdepth.exists_skips hbelow
  rw [Nat.zero_add] at hsum
  refine ⟨path, skips, hpath, hskips, hsum, ?_, fun htree => ⟨fun other hother => ?_, ?_⟩⟩
  · have hzero : skips.flatten.countP doc.isElement = 0 ↔
        ∀ skip ∈ skips, ∀ node ∈ skip, doc.isElement node = false := by
      rw [List.countP_eq_zero, List.forall_mem_flatten]
      simp only [Bool.not_eq_true]
    rw [← hzero]
    constructor
    · intro hsame
      omega
    · intro hnothing
      omega
  · exact htree.eq_of_leads hother hpath
  · exact fun others hothers => htree.eq_of_skips hothers hskips

/-- A list whose formatter asks for the text of its item, and in this a paragraph whose formatter
asks for the text of an emphasis: what stands in the emphasis is at depth 3 instead of 5, because the
item and the emphasis are skipped. -/
theorem convertNodeWithin_depth_of_skips_nested :
    let edits : List Document.Edit :=
      [.element 1 "ul" .empty, .element 2 "li" .empty, .element 3 "p" .empty,
        .element 4 "em" .empty, .element 5 "b" .empty]
    let list := Formatter.ofPieces "list" [.convert (some 3)]
    let paragraph := Formatter.ofPieces "paragraph" [.content, .convert (some 5)]
    let bold := Formatter.ofPieces "bold" [.depth]
    let engine : Engine :=
      ⟨Descent.matcher, [⟨"ul", .format list⟩, ⟨"p", .format paragraph⟩, ⟨"b", .format bold⟩], .empty,
        [], none⟩
    let doc := Document.build edits
    let first : Ask := ⟨⟨"list", 2, "ul", 1⟩, some 3⟩
    let call : Call := ⟨"bold", 6, "b", 3⟩
    Event.callsUnder (engine.convertNode doc 1 .standard).events =
      [([], first.call), ([first], ⟨"paragraph", 4, "p", 2⟩),
        ([first, ⟨⟨"paragraph", 4, "p", 2⟩, none⟩], ⟨"bold", 6, "b", 4⟩),
        ([first, ⟨⟨"paragraph", 4, "p", 2⟩, some 5⟩], call)] ∧
      call.depth + [[3], [5]].flatten.countP doc.isElement =
        [2, 3, 4, 5, 6].countP doc.isElement := by
  intro edits list paragraph bold engine doc first call
  have hcalls : Event.callsUnder (engine.convertNode doc 1 .standard).events =
      [([], first.call), ([first], ⟨"paragraph", 4, "p", 2⟩),
        ([first, ⟨⟨"paragraph", 4, "p", 2⟩, none⟩], ⟨"bold", 6, "b", 4⟩),
        ([first, ⟨⟨"paragraph", 4, "p", 2⟩, some 5⟩], call)] := by decide +kernel
  refine ⟨hcalls, ?_⟩
  have htree : doc.IsTree := Document.isTree_build edits
  have hlists : doc.Lists 1 2 ∧ doc.Lists 2 3 ∧ doc.Lists 3 4 ∧ doc.Lists 4 5 ∧ doc.Lists 5 6 := by
    unfold Document.Lists
    decide +kernel
  obtain ⟨h2, h3, h4, h5, h6⟩ := hlists
  have hpath : doc.Leads 1 [2, 3, 4, 5, 6] 6 :=
    .down h2 (.down h3 (.down h4 (.down h5 (Document.leads_of_lists h6))))
  have hskips : List.Forall₂ doc.Skips [first, ⟨⟨"paragraph", 4, "p", 2⟩, some 5⟩] [[3], [5]] :=
    .cons (Document.leads_of_lists h3) (.cons (Document.leads_of_lists h5) .nil)
  have hmem : ([first, ⟨⟨"paragraph", 4, "p", 2⟩, some 5⟩], call) ∈
      Event.callsUnder (engine.convertNode doc 1 .standard).events := by
    rw [hcalls]
    decide
  have hbelow : ∀ ask ∈ [first, ⟨⟨"paragraph", 4, "p", 2⟩, some 5⟩],
      doc.AtOrBelow ask.call.node ask.node := by
    intro ask hm
    rcases List.mem_cons.1 hm with rfl | hm
    · exact (Document.leads_of_lists h3).atOrBelow
    · obtain rfl := List.mem_singleton.1 hm
      exact (Document.leads_of_lists h5).atOrBelow
  obtain ⟨path, skips, -, -, hsum, -, honly⟩ :=
    ((convertNodeWithin_depth_of_skips engine (nesting doc) doc 1 .standard).2 _ call hmem).2 hbelow
  obtain ⟨hpaths, hothers⟩ := honly htree
  rw [hpaths _ hpath, hothers _ hskips]
  exact hsum

/-- A list whose formatter asks for the text of its item: what stands in the item is at depth 2, and
not at depth 3. -/
theorem not_forall_depth_of_convert :
    ¬ ∀ (engine : Engine) (edits : List Document.Edit) (root : Nat) (options : ConversionOptions)
        (asks : List Ask) (call : Call) (ask : Ask) (target : Nat) (path : List Nat),
      (asks, call) ∈ Event.callsUnder (engine.convertNode (.build edits) root options).events →
      ask ∈ asks → ask.target = some target →
      (Document.build edits).Below ask.call.node target →
      (Document.build edits).Leads root path call.node →
      call.depth = path.countP (Document.build edits).isElement := by
  intro h
  let edits : List Document.Edit :=
    [.element 1 "ul" .empty, .element 2 "li" .empty, .element 3 "em" .empty]
  let list := Formatter.ofPieces "list" [.convert (some 3)]
  let emphasis := Formatter.ofPieces "emphasis" [.depth]
  let engine : Engine :=
    ⟨Descent.matcher, [⟨"ul", .format list⟩, ⟨"em", .format emphasis⟩], .empty, [], none⟩
  let ask : Ask := ⟨⟨"list", 2, "ul", 1⟩, some 3⟩
  let call : Call := ⟨"emphasis", 4, "em", 2⟩
  have hmem : ([ask], call) ∈
      Event.callsUnder (engine.convertNode (.build edits) 1 .standard).events := by
    decide +kernel
  have hlists : (Document.build edits).Lists 1 2 ∧ (Document.build edits).Lists 2 3 ∧
      (Document.build edits).Lists 3 4 := by
    unfold Document.Lists
    decide +kernel
  obtain ⟨h2, h3, h4⟩ := hlists
  have hpath : (Document.build edits).Leads 1 [2, 3, 4] 4 :=
    .down h2 (.down h3 (Document.leads_of_lists h4))
  have hdepth : call.depth = [2, 3, 4].countP (Document.build edits).isElement :=
    h engine edits 1 .standard [ask] call ask 3 [2, 3, 4] hmem List.mem_cons_self rfl (.single h3)
      hpath
  exact absurd hdepth (by decide +kernel)

end Engine

end TreeText
