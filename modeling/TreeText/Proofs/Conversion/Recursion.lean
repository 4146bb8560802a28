/-
# Conversions without a bound

A conversion is a recursion that is entered again by formatters, with whatever nodes they name. Where
these are the elements that they are called for and nodes below them, the recursion ends in every
document that was built: each text that is nested in another one is that of a node further down, and
no node lies below itself. So the bound on nesting does not show. The texts within it are those of
the recursion without a bound, and a larger bound gives the same run.

* `Engine.ends_of_asksBelow` says so, and that the walks upward end that are made on the way.
-/
import TreeText.Formatter.Piece
import TreeText.Proofs.Conversion.Bound
import TreeText.Proofs.Document.Upward

namespace TreeText.Engine

/-- Let formatters ask for no texts but those of the elements that they are called for and of nodes
below these. Then in a document that was built, the texts within the bound on nesting are made of
each other as if there were no bound; conversions from any root and of the whole document end, with a
text or with a failure; and within any larger bound they are the same. Whatever formatters ask for,
the searches for elements end that conversions make upward, and so do the tests of compounds. -/
theorem ends_of_asksBelow (engine : Engine) (edits : List Document.Edit)
    (options : ConversionOptions) :
    let doc := Document.build edits
    let c := engine.conversion doc options.normalizeWhitespace
    (c.AsksBelow →
      (∀ depth node, c.textOf (nesting doc) depth node =
        Run.gather ((doc.children node).map (c.contribution (c.textOf (nesting doc)) depth))) ∧
      (engine.convert doc options).Ends ∧
      ∀ root, (engine.convertNode doc root options).Ends ∧
        ∀ bound, nesting doc ≤ bound →
          engine.convertNodeWithin bound doc root options =
            engine.convertNode doc root options) ∧
    ∀ node, doc.Seeks (doc.parent? node) (doc.parentElement? node) ∧
      ∀ outer, Descent.Ascends doc outer (doc.parentElement? node)
        (Descent.climbs doc outer (doc.elementAncestors node)) := by
  intro doc c
  refine ⟨fun hbelow => ?_, fun node => ⟨doc.seeks_parentElement? node, fun outer => ?_⟩⟩
  · have hd : doc.Descends := Document.descends_build edits
    have hdown : c.AsksDownward := hbelow.asksDownward hd
    have hroom : ∀ node, c.doc.size - node < nesting doc := size_sub_lt_nesting doc
    have hends : ∀ root, (engine.convertNode doc root options).Ends := by
      intro root
      have hraw : (c.textOf (nesting doc) 0 root).Ends := Conversion.ends_textOf hdown hd (hroom root)
      exact hraw.bind fun raw => Run.ends_pure _
    refine ⟨fun depth node => ?_, hends _, fun root => ⟨hends root, fun bound hbound => ?_⟩⟩
    · exact Conversion.textOf_eq_gather hdown hd (hroom node) depth
    · have hraw : c.textOf bound 0 root = c.textOf (nesting doc) 0 root :=
        Conversion.textOf_eq_of_room hdown hd hbound (hroom root) 0
      rw [convertNode_eq_within]
      show (c.textOf bound 0 root >>= fun raw => pure (engine.finish options raw)) = _
      rw [hraw]
      rfl
  · exact Descent.ascends_elementAncestors doc outer node

/-- A formatter that asks for the text of the first child of its element, and then for that of the
element: it is called for an item and a paragraph in it again and again, and the conversion ends. -/
theorem ends_of_asksBelow_first_child :
    let edits : List Document.Edit :=
      [.head, .element 1 "ul" .empty, .element 3 "li" .empty, .element 4 "p" .empty, .text 5 "a",
        .other 4]
    let twice : Formatter :=
      ⟨"twice", fun doc visit => .convert (doc.children visit.node).head? fun _ =>
        .convert none fun given => .done (given.map some)⟩
    let engine : Engine := ⟨Descent.matcher, [⟨"body *", .format twice⟩], .empty, [], none⟩
    let doc := Document.build edits
    let options : ConversionOptions := ⟨true, true, true⟩
    (engine.conversion doc options.normalizeWhitespace).AsksBelow ∧
      Event.calls (engine.convert doc options).events =
        [⟨"twice", 3, "ul", 2⟩, ⟨"twice", 5, "p", 3⟩, ⟨"twice", 4, "li", 3⟩, ⟨"twice", 5, "p", 4⟩] ∧
      (engine.convert doc options).Ends ∧
      engine.convertNodeWithin 1000 doc 1 options = engine.convertNode doc 1 options ∧
      doc.Seeks (some 4) (some 4) := by
  intro edits twice engine doc options
  have hbelow : (engine.conversion doc options.normalizeWhitespace).AsksBelow := by
    intro visit _ formatter hm
    have hall : engine.registry.formatters = [twice] := rfl
    have hmem := Conversion.mem_formatters_of_mem_formattersFor hm
    obtain rfl : formatter = twice := List.mem_singleton.1 (hall ▸ hmem)
    refine ⟨?_, fun _ => ⟨Relation.ReflTransGen.refl, fun _ => trivial⟩⟩
    show doc.AtOrBelow visit.node ((doc.children visit.node).head?.getD visit.node)
    cases hfirst : (doc.children visit.node).head? with
    | none => exact Relation.ReflTransGen.refl
    | some child => exact Relation.ReflTransGen.single (List.mem_of_head? hfirst)
  obtain ⟨hconversions, hwalks⟩ := ends_of_asksBelow engine edits options
  obtain ⟨-, hends, hroots⟩ := hconversions hbelow
  refine ⟨hbelow, by decide +kernel, hends, (hroots 1).2 1000 (by decide +kernel), (hwalks 5).1⟩

end TreeText.Engine
