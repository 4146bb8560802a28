/-
# Conversions end

A conversion is bounded in how deeply it nests texts. If each formatter asks for the texts of nodes
with numbers no smaller than that of its element, the bound is not met: from one text to the next
that is nested in it, numbers grow.

* `Conversion.AsksDownward` is the demand on the formatters of a conversion, each for the elements
  that go to it; `Conversion.AsksBelow` says so of nodes, and not of numbers.
* `Registry.ConvertsDownward` is a demand on formatters for any elements, and
  `Registry.ConvertsSelf` a stronger one.
* `Conversion.ends_textOf` says that texts end where the bound leaves room for larger numbers, and
  `Engine.ends_convertNode` that conversions do.
-/
import TreeText.Engine
import TreeText.Proofs.Conversion.Congruence
import TreeText.Proofs.Document.Kin
import TreeText.Proofs.Run.Events

namespace TreeText

/-! ## Demands on formatters -/

/-- A registry whose formatters ask for the texts of nodes only whose numbers are no smaller than
that of the element. -/
def Registry.ConvertsDownward (registry : Registry) : Prop :=
  ∀ formatter ∈ registry.formatters, ∀ doc visit,
    (formatter.script doc visit).ConvertsOnly fun target => visit.node ≤ target.getD visit.node

/-- Formatters that ask for no text ask for none with a smaller number. -/
theorem Registry.NeverConverts.convertsDownward {registry : Registry}
    (h : registry.NeverConverts) : registry.ConvertsDownward :=
  fun formatter hm doc visit => (h formatter hm doc visit).mono fun _ => False.elim

/-- A registry whose formatters ask for no text but that of their element. -/
def Registry.ConvertsSelf (registry : Registry) : Prop :=
  ∀ formatter ∈ registry.formatters, ∀ doc visit,
    (formatter.script doc visit).ConvertsOnly fun target => target = none

/-- Formatters that ask for the text of their element alone ask for none with a smaller number. -/
theorem Registry.ConvertsSelf.convertsDownward {registry : Registry} (h : registry.ConvertsSelf) :
    registry.ConvertsDownward := by
  intro formatter hm doc visit
  refine (h formatter hm doc visit).mono fun target ht => ?_
  rw [ht]
  exact Nat.le_refl _

/-- Formatters that look at nothing but their element ask for none with a smaller number. -/
theorem Registry.SelfContained.convertsDownward {registry : Registry}
    (h : registry.SelfContained) : registry.ConvertsDownward := by
  have hself : registry.ConvertsSelf := fun formatter hm => (h formatter hm).convertsOnly
  exact hself.convertsDownward

namespace Conversion

/-- The formatters that are called for elements during a conversion ask only for the texts of such
nodes as are allowed for the element. -/
def Asks (c : Conversion) (allowed : Nat → Nat → Prop) : Prop :=
  ∀ visit : Visit, c.doc.content? visit.node = some (.element visit.tag visit.dataset) →
    ∀ formatter ∈ c.formattersFor visit.node,
      (formatter.script c.doc visit).ConvertsOnly fun target =>
        allowed visit.node (target.getD visit.node)

/-- A conversion whose formatters ask for no text of a node with a smaller number than that of the
element. -/
def AsksDownward (c : Conversion) : Prop :=
  c.Asks fun element node => element ≤ node

/-- A conversion whose formatters ask for no texts but those of the element itself and of the nodes
below it. -/
def AsksBelow (c : Conversion) : Prop :=
  c.Asks fun element node => c.doc.AtOrBelow element node

variable {c : Conversion}

/-- Where numbers grow downward, the nodes below an element have no smaller numbers. -/
theorem AsksBelow.asksDownward (h : c.AsksBelow) (hd : c.doc.Descends) : c.AsksDownward := by
  intro visit hvisit formatter hm
  refine (h visit hvisit formatter hm).mono fun target htarget => ?_
  exact hd.le_of_atOrBelow htarget

/-- What formatters of a registry ask for, whatever the element, they ask for during a conversion. -/
theorem asksDownward_of_registry (h : c.registry.ConvertsDownward) : c.AsksDownward := by
  intro visit _ formatter hm
  exact h formatter (mem_formatters_of_mem_formattersFor hm) c.doc visit

end Conversion

/-! ## One element -/

/-- A script ends if the texts that it asks for do. -/
theorem Script.ends_run {textOf : Nat → Run String} {self : Nat} {allowed : Option Nat → Prop}
    {script : Script} (hs : script.ConvertsOnly allowed) (hself : (textOf self).Ends)
    (ht : ∀ target, allowed target → (textOf (target.getD self)).Ends) (given : Option String) :
    (script.run textOf self given).Ends := by
  induction script generalizing given with
  | done answer =>
    cases given <;> exact (Run.ends_note _).bind fun _ => Run.ends_ofExcept answer
  | content next ih =>
    cases given with
    | some text => exact (Run.ends_note _).bind fun _ => ih _ (hs _) (some text)
    | none =>
      rw [run]
      refine hself.attempt.bind fun result => ?_
      cases result with
      | ok text => exact (Run.ends_note _).bind fun _ => ih _ (hs _) (some text)
      | error error => exact (Run.ends_note _).bind fun _ => ih _ (hs _) none
  | convert target next ih =>
    have htarget : (textOf (target.getD self)).Ends := ht target hs.1
    cases given <;>
      exact htarget.attempt.bind fun result =>
        (Run.ends_note _).bind fun _ => ih result (hs.2 result) _

namespace Conversion

variable {c : Conversion} {textOf : Nat → Run String} {visit : Visit}

/-- Runs that end are closed under composition. -/
theorem closed_ends : Run.Closed Run.Ends where
  pure := Run.ends_pure
  bind h hnext := h.bind hnext

/-- What becomes of an element ends if all texts do whose numbers are no smaller than its own. -/
theorem ends_resolve (hc : c.AsksDownward)
    (hvisit : c.doc.content? visit.node = some (.element visit.tag visit.dataset))
    (ht : ∀ node, visit.node ≤ node → (textOf node).Ends) : (c.resolve textOf visit).Ends := by
  have hself : (textOf visit.node).Ends := ht _ (Nat.le_refl _)
  refine closed_resolve closed_ends hself fun formatter unanswered given hmay => ?_
  have hscript := hc visit hvisit formatter hmay.mem_formattersFor
  have hrun : ((formatter.script c.doc visit).run textOf visit.node given).Ends :=
    Script.ends_run hscript hself (fun _ => ht _) given
  refine ((Run.ends_note _).bind fun _ => hrun).bind fun answer => ?_
  cases answer with
  | some text => exact Run.ends_pure text
  | none => exact Run.ends_fail _

/-! ## Whole trees -/

/-- What a child contributes ends if all texts do whose numbers are no smaller than its own. -/
theorem ends_contribution (hc : c.AsksDownward) {textAt : Nat → Nat → Run String}
    {depth node : Nat} (ht : ∀ below, node ≤ below → (textAt (depth + 1) below).Ends) :
    (c.contribution textAt depth node).Ends := by
  rcases c.contribution_cases textAt depth node with
    ⟨text, hcontributes⟩ | ⟨tag, dataset, hcontent, -, hcontributes⟩
  · rw [hcontributes]
    exact Run.ends_pure text
  · rw [hcontributes]
    exact ends_resolve hc hcontent ht

/-- The text of a node ends if the bound leaves room for all larger numbers. -/
theorem ends_textOf (hc : c.AsksDownward) (hd : c.doc.Descends)
    {bound depth node : Nat} (hb : c.doc.size - node < bound) :
    (c.textOf bound depth node).Ends := by
  induction bound generalizing depth node with
  | zero => omega
  | succ bound ih =>
    refine closed_ends.gather fun child hchild => ?_
    refine ends_contribution hc fun below (hle : child ≤ below) => ih ?_
    -- The child has a larger number than the node, and so has whatever is asked for there.
    have hlt := hd node child hchild
    have hsize := Document.lt_size_of_mem_children hchild
    omega

end Conversion

namespace Engine

/-- The raw text of a node ends. -/
theorem ends_rawText {engine : Engine} (he : engine.registry.ConvertsDownward) {doc : Document}
    (hd : doc.Descends) (root : Nat) (normalize : Bool) :
    (engine.rawText doc root normalize).Ends :=
  Conversion.ends_textOf (c := engine.conversion doc normalize)
    (Conversion.asksDownward_of_registry he) hd (size_sub_lt_nesting doc root)

/-- A conversion ends, with a text or with a failure. -/
theorem ends_convertNode {engine : Engine} (he : engine.registry.ConvertsDownward) {doc : Document}
    (hd : doc.Descends) (root : Nat) (options : ConversionOptions) :
    (engine.convertNode doc root options).Ends :=
  (ends_rawText he hd root options.normalizeWhitespace).bind fun _ => Run.ends_pure _

end Engine

end TreeText
