/-
# Depth

A formatter is told at which depth its element stands. Where formatters ask for no text but that of
their element, this is the number of elements on the way down from the root of the conversion to the
element, which counts itself and not the root: it does not matter by whom and how often a text is
asked for, or whether it is given or computed.

* `Conversion.AtDepth` says that a call has the depth of its element.
* `Conversion.atDepth_textOf` says so of all calls for the text of a node, and
  `Engine.convertNode_calls_at_depth` of those along a conversion.
-/
import TreeText.Proofs.Conversion.Ends
import TreeText.Proofs.Document.Kin
import TreeText.Proofs.Formatter.Piece

namespace TreeText

namespace Conversion

variable {c : Conversion}

/-! ## Elements on the way -/

/-- A call is for an element below a node at a depth, and has the depth of this element: that of the
node, and the number of elements on a way from there. -/
def AtDepth (c : Conversion) (depth node : Nat) (call : Call) : Prop :=
  c.doc.isElement call.node = true ∧
    ∃ path, c.doc.Leads node path call.node ∧ call.depth = depth + path.countP c.doc.isElement

/-- A call for an element itself has the depth of the element. -/
theorem atDepth_self {call : Call} (helement : c.doc.isElement call.node = true) :
    c.AtDepth call.depth call.node call :=
  ⟨helement, [], .here call.node, rfl⟩

/-- A call that has the depth of its element as seen from a child has it as seen from the node above,
if the child is an element. -/
theorem AtDepth.above {depth node child : Nat} {call : Call}
    (h : c.AtDepth (depth + 1) child call) (hlist : c.doc.Lists node child)
    (helement : c.doc.isElement child = true) : c.AtDepth depth node call := by
  obtain ⟨hcall, path, hpath, hdepth⟩ := h
  refine ⟨hcall, child :: path, .down hlist hpath, ?_⟩
  rw [List.countP_cons_of_pos helement, hdepth]
  omega

/-! ## Calls on the way -/

/-- Runs with no calls but allowed ones are closed under composition. -/
theorem closed_callsOnly (allowed : Call → Prop) : Run.Closed (Run.CallsOnly allowed) where
  pure := Run.callsOnly_pure
  bind h hnext := h.bind hnext

/-- For an element its own calls are made, and those for its text. -/
theorem callsOnly_resolve (hs : c.registry.ConvertsSelf) {textOf : Nat → Run String} {visit : Visit}
    {allowed : Call → Prop} (hown : ∀ formatter, allowed (visit.callOf formatter))
    (ht : (textOf visit.node).CallsOnly allowed) : (c.resolve textOf visit).CallsOnly allowed := by
  refine closed_resolve (closed_callsOnly allowed) ht fun formatter unanswered given hmay => ?_
  have hscript := hs formatter hmay.mem_formatters c.doc visit
  have hrun : ((formatter.script c.doc visit).run textOf visit.node given).CallsOnly allowed := by
    refine Script.callsOnly_run hscript ht (fun target htarget => ?_) given
    rw [htarget]
    exact ht
  exact Formatter.callsOnly_textFor (hown formatter) hrun unanswered

/-- All calls for a child of a node have the depths of their elements, if those for its text do. -/
theorem atDepth_contribution (hs : c.registry.ConvertsSelf) {textAt : Nat → Nat → Run String}
    {depth node child : Nat} (hlist : c.doc.Lists node child)
    (ht : (textAt (depth + 1) child).CallsOnly (c.AtDepth (depth + 1) child)) :
    (c.contribution textAt depth child).CallsOnly (c.AtDepth depth node) := by
  rcases c.contribution_cases textAt depth child with
    ⟨text, hcontributes⟩ | ⟨tag, dataset, hcontent, -, hcontributes⟩
  · rw [hcontributes]
    exact Run.callsOnly_pure text
  · have helement : c.doc.isElement child = true := by
      rw [Document.isElement, Document.tag?, hcontent]
      rfl
    have hbelow : (c.resolve (textAt (depth + 1)) ⟨child, tag, dataset, depth + 1⟩).CallsOnly
        (c.AtDepth (depth + 1) child) :=
      callsOnly_resolve hs (fun formatter => atDepth_self helement) ht
    rw [hcontributes]
    exact hbelow.mono fun call h => h.above hlist helement

/-- All calls for the text of a node at a depth have the depths of their elements, within any bound
on nesting. -/
theorem atDepth_textOf (hs : c.registry.ConvertsSelf) (bound depth node : Nat) :
    (c.textOf bound depth node).CallsOnly (c.AtDepth depth node) := by
  induction bound generalizing depth node with
  | zero =>
    intro events result h
    cases h
  | succ bound ih =>
    refine (closed_callsOnly _).gather fun child hchild => ?_
    exact atDepth_contribution hs hchild (ih (depth + 1) child)

end Conversion

/-! ## Engines -/

namespace Engine

/-- Where formatters ask for no text but that of their element, every call along a conversion is for
an element, and has as its depth the number of elements on a way from the root, which does not
count, down to this element, which does. In a tree, as every document is that was built, there is
one way only, and the children of the root are at depth 1. Where numbers grow downward, the
conversion ends. -/
theorem convertNode_calls_at_depth (engine : Engine) (hs : engine.registry.ConvertsSelf)
    (doc : Document) (root : Nat) (options : ConversionOptions) :
    (∀ call ∈ Event.calls (engine.convertNode doc root options).events,
      doc.isElement call.node = true ∧
      (∃ path, doc.Leads root path call.node ∧ call.depth = path.countP doc.isElement) ∧
      (doc.IsTree →
        (∀ path, doc.Leads root path call.node → call.depth = path.countP doc.isElement) ∧
        (doc.Lists root call.node → call.depth = 1))) ∧
    (doc.Descends → (engine.convertNode doc root options).Ends) := by
  let c := engine.conversion doc options.normalizeWhitespace
  have hcalls : (engine.convertNode doc root options).CallsOnly (c.AtDepth 0 root) :=
    (Conversion.atDepth_textOf hs (nesting doc) 0 root).bind fun raw => Run.callsOnly_pure _
  refine ⟨fun call hm => ?_, fun hd => ends_convertNode hs.convertsDownward hd root options⟩
  obtain ⟨helement, path, hpath, hdepth⟩ : doc.isElement call.node = true ∧
      ∃ path, doc.Leads root path call.node ∧ call.depth = 0 + path.countP doc.isElement :=
    hcalls.of_mem_events hm
  rw [Nat.zero_add] at hdepth
  refine ⟨helement, ⟨path, hpath, hdepth⟩, fun htree => ?_⟩
  have honly : ∀ other, doc.Leads root other call.node →
      call.depth = other.countP doc.isElement := by
    intro other hother
    rw [hdepth, htree.eq_of_leads hpath hother]
  refine ⟨honly, fun hlist => ?_⟩
  rw [honly [call.node] (Document.leads_of_lists hlist), List.countP_cons_of_pos helement,
    List.countP_nil]

/-- A list whose formatter reads its content twice and asks for its own text again, an item that goes
through a template and then to a formatter which asks for the text of the item, and an emphasis in
it that goes to the fallback: the emphasis is converted often, and is at depth 3 each time. -/
theorem convertNode_calls_at_depth_in_item :
    let edits : List Document.Edit :=
      [.element 1 "ul" .empty, .element 2 "li" .empty, .text 3 "a", .element 3 "em" .empty]
    let twice := Formatter.ofPieces "twice" [.content, .content, .convert none]
    let again := Formatter.ofPieces "again" [.content, .convert none]
    let other := Formatter.ofPieces "other" [.depth]
    let engine : Engine :=
      ⟨.byTag, [⟨"ul", .format twice⟩, .template "li" "- {content}", ⟨"li", .format again⟩], .empty,
        [], some other⟩
    let doc := Document.build edits
    let emphasis : Call := ⟨"other", 5, "em", 3⟩
    engine.registry.ConvertsSelf ∧ doc.IsTree ∧ doc.Leads 1 [2, 3, 5] 5 ∧
      [2, 3, 5].countP doc.isElement = 3 ∧
      Event.calls (engine.convertNode doc 1 .standard).events =
        [⟨"twice", 2, "ul", 1⟩, emphasis, ⟨"again", 3, "li", 2⟩, emphasis, emphasis,
          ⟨"again", 3, "li", 2⟩, emphasis] ∧
      (engine.convertNode doc 1 .standard).Ends ∧
      emphasis.depth = [2, 3, 5].countP doc.isElement := by
  intro edits twice again other engine doc emphasis
  have hs : engine.registry.ConvertsSelf := by
    intro formatter hm doc visit
    have hall : engine.registry.formatters = [twice, again, other] := rfl
    rw [hall] at hm
    rcases List.mem_cons.1 hm with rfl | hm
    · exact Formatter.convertsOnly_ofPieces (by decide) "twice" doc visit
    rcases List.mem_cons.1 hm with rfl | hm
    · exact Formatter.convertsOnly_ofPieces (by decide) "again" doc visit
    · obtain rfl := List.mem_singleton.1 hm
      exact Formatter.convertsOnly_ofPieces (by decide) "other" doc visit
  have htree : doc.IsTree := Document.isTree_build edits
  have hpath : doc.Leads 1 [2, 3, 5] 5 :=
    .down (by decide +kernel : 2 ∈ doc.children 1)
      (.down (by decide +kernel : 3 ∈ doc.children 2)
        (Document.leads_of_lists (by decide +kernel : 5 ∈ doc.children 3)))
  have hcalls : Event.calls (engine.convertNode doc 1 .standard).events =
      [⟨"twice", 2, "ul", 1⟩, emphasis, ⟨"again", 3, "li", 2⟩, emphasis, emphasis,
        ⟨"again", 3, "li", 2⟩, emphasis] := by decide +kernel
  obtain ⟨hdepths, hends⟩ := convertNode_calls_at_depth engine hs doc 1 .standard
  have hmem : emphasis ∈ Event.calls (engine.convertNode doc 1 .standard).events := by
    rw [hcalls]
    exact List.mem_cons_of_mem _ List.mem_cons_self
  have hdepth := ((hdepths emphasis hmem).2.2 htree).1 [2, 3, 5] hpath
  exact ⟨hs, htree, hpath, by decide +kernel, hcalls, hends htree.descends, hdepth⟩

end Engine

end TreeText
