/-
# What a conversion can see

Comments, what lies below texts, and ignored elements with all that lies below them cannot be seen
in a conversion. Let the formatters look at nothing but their elements, and let the matcher look at
nothing but an element and the elements above it. Then two documents in which the same can be seen
below a node, and which have the same elements above it, are converted in the same way: the same
formatters are called for the same elements, they are given the same and answer the same, and the
conversions end in the same way.

* `Conversion.visibleBelow` is what can be seen below a node.
* `Conversion.Twins.alike_textOf` says that texts look alike where the same can be seen.
* `Conversion.Reaches.isIgnored_eq_false` says that nothing is ignored on the way from the root to a
  node that is reached, and `Engine.convertNode_of_visibleBelow_eq` puts the two together.
-/
import TreeText.Formatter.Piece
import TreeText.Proofs.Conversion.Congruence
import TreeText.Proofs.Conversion.Ends
import TreeText.Proofs.Document.Chain
import TreeText.Proofs.Run.Alike

namespace TreeText

/-! ## What can be seen -/

/-- What can be seen of a node: a text, or an element with what can be seen below it. -/
inductive Visible where
  | text (text : String)
  | element (tag : String) (dataset : Dataset) (inner : List Visible)

mutual

/-- Whether two nodes show the same. -/
def Visible.decEq : (first second : Visible) → Decidable (first = second)
  | .text one, .text two => decidable_of_iff (one = two) (by simp)
  | .element tag₁ dataset₁ inner₁, .element tag₂ dataset₂ inner₂ =>
    have : Decidable (inner₁ = inner₂) := Visible.decEqAll inner₁ inner₂
    decidable_of_iff (tag₁ = tag₂ ∧ dataset₁ = dataset₂ ∧ inner₁ = inner₂) (by simp)
  | .text _, .element _ _ _ => isFalse nofun
  | .element _ _ _, .text _ => isFalse nofun

/-- Whether nodes show the same one after the other. -/
def Visible.decEqAll : (first second : List Visible) → Decidable (first = second)
  | [], [] => isTrue rfl
  | one :: ones, two :: twos =>
    have : Decidable (one = two) := Visible.decEq one two
    have : Decidable (ones = twos) := Visible.decEqAll ones twos
    decidable_of_iff (one = two ∧ ones = twos) (by simp)
  | [], _ :: _ => isFalse nofun
  | _ :: _, [] => isFalse nofun

end

instance : DecidableEq Visible := Visible.decEq

namespace Conversion

mutual

/-- What can be seen of a tree, if anything can. -/
def visible? (c : Conversion) : Tree → Option Visible
  | .node number branches =>
    match c.doc.content? number with
    | some (.text text) => some (.text text)
    | some (.element tag dataset) =>
      if c.isIgnored number then none else some (.element tag dataset (c.visible branches))
    | _ => none

/-- What can be seen of trees. -/
def visible (c : Conversion) : List Tree → List Visible
  | [] => []
  | tree :: trees => (c.visible? tree).toList ++ c.visible trees

end

/-- What can be seen below a node. -/
def visibleBelow (c : Conversion) (node : Nat) : List Visible :=
  c.visible (c.doc.tree node).branches

variable {c : Conversion}

/-- What can be seen of trees is what can be seen of each of them. -/
theorem visible_eq_filterMap (c : Conversion) (trees : List Tree) :
    c.visible trees = trees.filterMap c.visible? := by
  induction trees with
  | nil => rfl
  | cons tree trees ih =>
    rw [visible, ih, List.filterMap_cons]
    cases c.visible? tree <;> rfl

/-- What can be seen below a node is what can be seen of its children. -/
theorem visibleBelow_eq (hd : c.doc.Descends) (node : Nat) :
    c.visibleBelow node =
      (c.doc.children node).filterMap fun child => c.visible? (c.doc.tree child) := by
  rw [visibleBelow, Document.tree_eq hd, Tree.branches, visible_eq_filterMap, List.filterMap_map]
  rfl

/-- A text can be seen, and an element that is not ignored, with what can be seen below it. -/
theorem visible?_tree (hd : c.doc.Descends) (node : Nat) :
    c.visible? (c.doc.tree node) =
      match c.doc.content? node with
      | some (.text text) => some (.text text)
      | some (.element tag dataset) =>
        if c.isIgnored node then none else some (.element tag dataset (c.visibleBelow node))
      | _ => none := by
  rw [visibleBelow, Document.tree_eq hd, visible?]
  rfl

/-- What cannot be seen contributes an empty text and leaves no trace. -/
theorem contribution_of_visible?_eq_none (hd : c.doc.Descends) {textAt : Nat → Nat → Run String}
    {depth node : Nat} (h : c.visible? (c.doc.tree node) = none) :
    c.contribution textAt depth node = pure "" := by
  rw [visible?_tree hd] at h
  unfold contribution
  rcases hcontent : c.doc.content? node with _ | ⟨tag, dataset⟩ | text | _ <;>
    simp only [hcontent] at h ⊢
  · by_cases hi : c.isIgnored node
    · simp only [hi, if_true]
    · simp only [hi, Bool.false_eq_true, if_false] at h
      cases h
  · cases h

/-- A text that can be seen is one. -/
theorem content?_of_visible?_eq_text (hd : c.doc.Descends) {node : Nat} {text : String}
    (h : c.visible? (c.doc.tree node) = some (.text text)) :
    c.doc.content? node = some (.text text) := by
  rw [visible?_tree hd] at h
  rcases hcontent : c.doc.content? node with _ | ⟨tag, dataset⟩ | seen | _ <;>
    simp only [hcontent] at h
  · cases h
  · by_cases hi : c.isIgnored node <;> simp [hi] at h
  · cases h
    rfl
  · cases h

/-- An element that can be seen is one that is not ignored. -/
theorem of_visible?_eq_element (hd : c.doc.Descends) {node : Nat} {tag : String}
    {dataset : Dataset} {inner : List Visible}
    (h : c.visible? (c.doc.tree node) = some (.element tag dataset inner)) :
    c.doc.content? node = some (.element tag dataset) ∧ c.isIgnored node = false ∧
      c.visibleBelow node = inner := by
  rw [visible?_tree hd] at h
  rcases hcontent : c.doc.content? node with _ | ⟨own, attributes⟩ | text | _ <;>
    simp only [hcontent] at h
  · cases h
  · by_cases hi : c.isIgnored node
    · simp [hi] at h
    · simp only [hi, Bool.false_eq_true, if_false] at h
      cases h
      exact ⟨rfl, by simpa using hi, rfl⟩
  · cases h
  · cases h

/-! ## What is reached -/

/-- A conversion goes on from a node to its children, unless they are ignored. -/
def Enters (c : Conversion) (above below : Nat) : Prop :=
  c.doc.Lists above below ∧ c.isIgnored below = false

/-- A conversion comes from a node to another one in any number of steps. -/
def Reaches (c : Conversion) : Nat → Nat → Prop :=
  Relation.ReflTransGen c.Enters

/-- On the way from the root to a node that is reached, nothing is ignored. -/
theorem Reaches.isIgnored_eq_false (hl : c.doc.Linked) {root node above : Nat}
    (h : c.Reaches root node) (hroot : c.doc.Below root above)
    (hnode : c.doc.AtOrBelow above node) : c.isIgnored above = false := by
  induction h with
  | refl =>
    have hlt := hl.descends.lt_of_below hroot
    have hle := hl.descends.le_of_atOrBelow hnode
    omega
  | @tail parent child _ henters ih =>
    rcases Relation.ReflTransGen.cases_tail hnode with rfl | ⟨holder, hholder, hlists⟩
    · exact henters.2
    · -- A child has one parent, so nothing else lists it.
      obtain rfl : parent = holder :=
        Option.some.inj ((hl parent child henters.1).symm.trans (hl holder child hlists))
      exact ih hholder

end Conversion

/-! ## One element twice -/

variable {same : Call → Call → Prop} {textOf₁ textOf₂ : Nat → Run String}

/-- A script that asks for no text but that of its element looks alike for two elements whose texts
do. -/
theorem Script.alike_run {script : Script} (hs : script.ConvertsOnly fun target => target = none)
    {node₁ node₂ : Nat} (ht : Run.Alike same (textOf₁ node₁) (textOf₂ node₂))
    (given : Option String) :
    Run.Alike same (script.run textOf₁ node₁ given) (script.run textOf₂ node₂ given) := by
  induction script generalizing given with
  | done answer =>
    cases given <;>
      exact (Run.alike_note (.answered answer)).bind fun _ => Run.alike_ofExcept answer
  | content next ih =>
    cases given with
    | some text =>
      exact (Run.alike_note (.content _)).bind fun _ => ih _ (hs _) (some text)
    | none =>
      rw [run, run]
      refine ht.attempt.bind fun taken => ?_
      cases taken with
      | ok text => exact (Run.alike_note (.content _)).bind fun _ => ih _ (hs _) (some text)
      | error error => exact (Run.alike_note (.content _)).bind fun _ => ih _ (hs _) none
  | convert target next ih =>
    obtain rfl : target = none := hs.1
    cases given <;>
      exact ht.attempt.bind fun taken =>
        (Run.alike_note (.converted _ _ taken)).bind fun _ => ih taken (hs.2 taken) _

namespace Conversion

/-- Two conversions that differ in their documents only, and which look at nothing but an element and
the elements above it. -/
structure Twins (c₁ c₂ : Conversion) : Prop where
  matcher_eq : c₁.matcher = c₂.matcher
  registry_eq : c₁.registry = c₂.registry
  normalize_eq : c₁.normalize = c₂.normalize
  looksUpward : c₂.matcher.LooksUpward
  selfContained : c₂.registry.SelfContained
  linked₁ : c₁.doc.Linked
  linked₂ : c₂.doc.Linked

/-- Runs that look alike are closed under composition. -/
theorem congruence_alike : Run.Congruence (Run.Alike same) where
  pure := Run.alike_pure
  bind h hnext := h.bind hnext

/-- Calls of one formatter for elements of two documents that show the same, and which are reached
from given nodes. -/
structure SameCall (c₁ c₂ : Conversion) (root₁ root₂ : Nat) (call₁ call₂ : Call) : Prop where
  label_eq : call₁.label = call₂.label
  tag_eq : call₁.tag = call₂.tag
  dataset_eq : c₁.doc.dataset call₁.node = c₂.doc.dataset call₂.node
  depth_eq : call₁.depth = call₂.depth
  reached₁ : c₁.Reaches root₁ call₁.node
  reached₂ : c₂.Reaches root₂ call₂.node

namespace Twins

variable {c₁ c₂ : Conversion} {node₁ node₂ depth : Nat} {tag : String} {dataset : Dataset}

/-- The same becomes of elements that show the same, if their texts look alike. -/
theorem alike_resolve (h : c₁.Twins c₂) (hrules : c₁.rulesFor node₁ = c₂.rulesFor node₂)
    (hsame : ∀ formatter, same (Visit.callOf ⟨node₁, tag, dataset, depth⟩ formatter)
      (Visit.callOf ⟨node₂, tag, dataset, depth⟩ formatter))
    (ht : Run.Alike same (textOf₁ node₁) (textOf₂ node₂)) :
    Run.Alike same (c₁.resolve textOf₁ ⟨node₁, tag, dataset, depth⟩)
      (c₂.resolve textOf₂ ⟨node₂, tag, dataset, depth⟩) := by
  refine congruence_resolve congruence_alike ht rfl rfl hrules
    (congrArg Registry.fallback h.registry_eq) fun formatter unanswered given hmay => ?_
  have hself : formatter.SelfContained := h.selfContained formatter hmay.mem_formatters
  -- One script is carried out for both elements.
  have hscript : formatter.script c₁.doc ⟨node₁, tag, dataset, depth⟩ =
      formatter.script c₂.doc ⟨node₂, tag, dataset, depth⟩ := hself.script_eq rfl rfl rfl
  unfold Formatter.textFor Formatter.call
  rw [hscript]
  have hcall := Run.alike_note (Event.Alike.called (hsame formatter))
  have hrun := Script.alike_run (hself.convertsOnly c₂.doc ⟨node₂, tag, dataset, depth⟩) ht given
  refine (hcall.bind fun _ => hrun).bind fun answer => ?_
  cases answer with
  | some text => exact Run.alike_pure text
  | none => exact Run.alike_fail _

/-! ## Trees twice -/

variable {root₁ root₂ : Nat}

/-- Children of which the same can be seen contribute alike, if the texts look alike of elements
that have one chain and below which the same can be seen. -/
theorem alike_contribution (h : c₁.Twins c₂) {textAt₁ textAt₂ : Nat → Nat → Run String}
    {parent₁ parent₂ : Nat} (hlists₁ : c₁.doc.Lists parent₁ node₁)
    (hlists₂ : c₂.doc.Lists parent₂ node₂) (hreach₁ : c₁.Reaches root₁ parent₁)
    (hreach₂ : c₂.Reaches root₂ parent₂) (hchain : c₁.doc.chain parent₁ = c₂.doc.chain parent₂)
    {sight : Visible} (hsight₁ : c₁.visible? (c₁.doc.tree node₁) = some sight)
    (hsight₂ : c₂.visible? (c₂.doc.tree node₂) = some sight)
    (ht : c₁.Reaches root₁ node₁ → c₂.Reaches root₂ node₂ →
      c₁.doc.chain node₁ = c₂.doc.chain node₂ → c₁.visibleBelow node₁ = c₂.visibleBelow node₂ →
      Run.Alike (SameCall c₁ c₂ root₁ root₂) (textAt₁ (depth + 1) node₁)
        (textAt₂ (depth + 1) node₂)) :
    Run.Alike (SameCall c₁ c₂ root₁ root₂) (c₁.contribution textAt₁ depth node₁)
      (c₂.contribution textAt₂ depth node₂) := by
  -- Selectors and the treatment of blanks look at the chain above the child, which its parent has.
  have habove : c₁.doc.chainAbove node₁ = c₂.doc.chainAbove node₂ := by
    rw [Document.chainAbove_of_parent? (h.linked₁ parent₁ node₁ hlists₁),
      Document.chainAbove_of_parent? (h.linked₂ parent₂ node₂ hlists₂), hchain]
  unfold contribution
  cases sight with
  | text text =>
    simp only [content?_of_visible?_eq_text h.linked₁.descends hsight₁,
      content?_of_visible?_eq_text h.linked₂.descends hsight₂,
      plainText_congr h.normalize_eq habove]
    exact Run.alike_pure _
  | element tag dataset inner =>
    obtain ⟨hcontent₁, hseen₁, hbelow₁⟩ := of_visible?_eq_element h.linked₁.descends hsight₁
    obtain ⟨hcontent₂, hseen₂, hbelow₂⟩ := of_visible?_eq_element h.linked₂.descends hsight₂
    simp only [hcontent₁, hcontent₂, hseen₁, hseen₂, Bool.false_eq_true, if_false]
    have hnode : c₁.doc.element? node₁ = c₂.doc.element? node₂ := by
      simp only [Document.element?, hcontent₁, hcontent₂]
    have hto₁ : c₁.Reaches root₁ node₁ := hreach₁.tail ⟨hlists₁, hseen₁⟩
    have hto₂ : c₂.Reaches root₂ node₂ := hreach₂.tail ⟨hlists₂, hseen₂⟩
    have hrules : c₁.rulesFor node₁ = c₂.rulesFor node₂ :=
      rulesFor_congr h.looksUpward h.matcher_eq h.registry_eq hnode habove
    refine h.alike_resolve hrules (fun formatter => ?_) (ht hto₁ hto₂ ?_ ?_)
    · have hdataset : c₁.doc.dataset node₁ = c₂.doc.dataset node₂ := by
        simp only [Document.dataset, hcontent₁, hcontent₂]
      exact ⟨rfl, rfl, hdataset, rfl, hto₁, hto₂⟩
    · exact Document.chain_congr hnode habove
    · rw [hbelow₁, hbelow₂]

/-- The texts of two nodes look alike if the nodes have one chain, and the same can be seen below
them. -/
theorem alike_textOf (h : c₁.Twins c₂) {bound₁ bound₂ : Nat} (hb₁ : c₁.doc.size - node₁ < bound₁)
    (hb₂ : c₂.doc.size - node₂ < bound₂) (hreach₁ : c₁.Reaches root₁ node₁)
    (hreach₂ : c₂.Reaches root₂ node₂) (hchain : c₁.doc.chain node₁ = c₂.doc.chain node₂)
    (hvisible : c₁.visibleBelow node₁ = c₂.visibleBelow node₂) :
    Run.Alike (SameCall c₁ c₂ root₁ root₂) (c₁.textOf bound₁ depth node₁)
      (c₂.textOf bound₂ depth node₂) := by
  induction bound₁ generalizing bound₂ depth node₁ node₂ with
  | zero => omega
  | succ bound₁ ih =>
    cases bound₂ with
    | zero => omega
    | succ bound₂ =>
      rw [visibleBelow_eq h.linked₁.descends, visibleBelow_eq h.linked₂.descends] at hvisible
      refine Run.alike_gather hvisible
        (fun child _ => contribution_of_visible?_eq_none h.linked₁.descends)
        (fun child _ => contribution_of_visible?_eq_none h.linked₂.descends)
        fun child₁ hm₁ child₂ hm₂ sight hsight₁ hsight₂ => ?_
      refine h.alike_contribution hm₁ hm₂ hreach₁ hreach₂ hchain hsight₁ hsight₂
        fun hto₁ hto₂ hbelow hinner => ih ?_ ?_ hto₁ hto₂ hbelow hinner
      -- Children have larger numbers, so one level less leaves room enough for them.
      · have hlt := h.linked₁.descends node₁ child₁ hm₁
        have hsize := Document.lt_size_of_mem_children hm₁
        omega
      · have hlt := h.linked₂.descends node₂ child₂ hm₂
        have hsize := Document.lt_size_of_mem_children hm₂
        omega

end Twins

end Conversion

/-! ## Engines -/

namespace Engine

/-- Let formatters look at nothing but their elements. If the same can be seen below roots of two
documents that were built, and the roots have one chain, then the conversions below them end in the
same way, behind events that match one by one; and no formatter is called for an element at or below
an ignored one that lies below the root. -/
theorem convertNode_of_visibleBelow_eq (engine : Engine) (hm : engine.matcher = Descent.matcher)
    (hs : engine.registry.SelfContained) (options : ConversionOptions)
    (edits₁ edits₂ : List Document.Edit) (root₁ root₂ : Nat) :
    let doc₁ := Document.build edits₁
    let doc₂ := Document.build edits₂
    let c₁ := engine.conversion doc₁ options.normalizeWhitespace
    let c₂ := engine.conversion doc₂ options.normalizeWhitespace
    doc₁.chain root₁ = doc₂.chain root₂ → c₁.visibleBelow root₁ = c₂.visibleBelow root₂ →
    ∃ events₁ events₂ result,
      engine.convertNode doc₁ root₁ options = some (events₁, result) ∧
      engine.convertNode doc₂ root₂ options = some (events₂, result) ∧
      List.Forall₂ (Event.Alike (Conversion.SameCall c₁ c₂ root₁ root₂)) events₁ events₂ ∧
      ∀ call ∈ Event.calls events₁, ∀ above, doc₁.Below root₁ above → c₁.isIgnored above = true →
        ¬doc₁.AtOrBelow above call.node := by
  intro doc₁ doc₂ c₁ c₂ hchain hvisible
  have htwins : c₁.Twins c₂ :=
    ⟨rfl, rfl, rfl, (hm ▸ Descent.looksUpward_matcher : engine.matcher.LooksUpward), hs,
      Document.linked_build edits₁, Document.linked_build edits₂⟩
  have htext : Run.Alike (Conversion.SameCall c₁ c₂ root₁ root₂) (c₁.textOf (nesting doc₁) 0 root₁)
      (c₂.textOf (nesting doc₂) 0 root₂) :=
    htwins.alike_textOf (size_sub_lt_nesting doc₁ root₁) (size_sub_lt_nesting doc₂ root₂)
      Relation.ReflTransGen.refl Relation.ReflTransGen.refl hchain hvisible
  have halike : Run.Alike (Conversion.SameCall c₁ c₂ root₁ root₂)
      (engine.convertNode doc₁ root₁ options) (engine.convertNode doc₂ root₂ options) :=
    htext.bind fun raw => Run.alike_pure (engine.finish options raw)
  obtain ⟨events₁, events₂, result, hrun₁, hrun₂, hevents⟩ := halike.exists_of_ends
    (ends_convertNode hs.convertsDownward htwins.linked₁.descends root₁ options)
  refine ⟨events₁, events₂, result, hrun₁, hrun₂, hevents, fun call hc above hbelow hi hat => ?_⟩
  -- A call that matches another one is for a node that is reached.
  obtain ⟨other, hsame⟩ := Event.exists_of_mem_calls hevents hc
  have hseen := hsame.reached₁.isIgnored_eq_false htwins.linked₁ hbelow hat
  rw [hi] at hseen
  cases hseen

/-- One paragraph holds a navigation that is ignored, a comment, and a link below a text, which the
other one does not. Both show a text and one link, so the formatter for links is called once. -/
theorem convertNode_of_visibleBelow_eq_paragraph :
    let edits₁ : List Document.Edit :=
      [.element 1 "p" .empty, .element 2 "nav" .empty, .element 3 "a" .empty, .other 2,
        .text 2 "x  y", .element 6 "a" .empty, .element 2 "a" .empty, .text 8 "z"]
    let edits₂ : List Document.Edit :=
      [.other 1, .element 1 "p" .empty, .text 3 "x  y", .element 3 "a" .empty, .text 5 "z"]
    let link := Formatter.ofPieces "link" [.tag, .content, .convert none]
    let engine : Engine := ⟨Descent.matcher, [⟨"p a", .format link⟩], .empty, ["nav"], none⟩
    let doc₁ := Document.build edits₁
    let doc₂ := Document.build edits₂
    let c₁ := engine.conversion doc₁ true
    let c₂ := engine.conversion doc₂ true
    engine.registry.SelfContained ∧ doc₁.chain 2 = doc₂.chain 3 ∧
      c₁.visibleBelow 2 = c₂.visibleBelow 3 ∧
      (engine.convertNode doc₁ 2 .standard).result? = some (.ok "x yazz") ∧
      Event.calls (engine.convertNode doc₁ 2 .standard).events = [⟨"link", 8, "a", 1⟩] ∧
      ∃ events₁ events₂ result,
        engine.convertNode doc₁ 2 .standard = some (events₁, result) ∧
        engine.convertNode doc₂ 3 .standard = some (events₂, result) ∧
        List.Forall₂ (Event.Alike (Conversion.SameCall c₁ c₂ 2 3)) events₁ events₂ := by
  intro edits₁ edits₂ link engine doc₁ doc₂ c₁ c₂
  have hlink : link.SelfContained := by
    refine ⟨?_, fun doc visit => ?_⟩
    · rintro doc other ⟨node, tag, dataset, depth⟩ ⟨further, tag, dataset, depth⟩ rfl rfl rfl
      rfl
    · rintro (error | text)
      · trivial
      · refine ⟨rfl, ?_⟩
        rintro (error | more) <;> trivial
  have hs : engine.registry.SelfContained := by
    intro formatter hm
    obtain rfl : formatter = link := by
      simpa [engine, Registry.formatters, Rule.formatter?] using hm
    exact hlink
  have hchain : doc₁.chain 2 = doc₂.chain 3 := by decide +kernel
  have hvisible : c₁.visibleBelow 2 = c₂.visibleBelow 3 := by decide +kernel
  obtain ⟨events₁, events₂, result, hrun₁, hrun₂, hevents, -⟩ :=
    convertNode_of_visibleBelow_eq engine rfl hs .standard edits₁ edits₂ 2 3 hchain hvisible
  exact ⟨hs, hchain, hvisible, by decide +kernel, by decide +kernel, events₁, events₂, result,
    hrun₁, hrun₂, hevents⟩

/-- A root is converted even if it is ignored itself, and so is what lies below it. -/
theorem convertNode_calls_below_ignored_root :
    let edits : List Document.Edit := [.element 1 "nav" .empty, .element 2 "a" .empty]
    let link := Formatter.ofPieces "link" [.literal "link"]
    let engine : Engine := ⟨Descent.matcher, [⟨"a", .format link⟩], .empty, ["nav"], none⟩
    let doc := Document.build edits
    engine.registry.SelfContained ∧ (engine.conversion doc true).isIgnored 2 = true ∧
      doc.Below 2 3 ∧
      Event.calls (engine.convertNode doc 2 .standard).events = [⟨"link", 3, "a", 1⟩] := by
  intro edits link engine doc
  have hs : engine.registry.SelfContained := by
    intro formatter hm
    obtain rfl : formatter = link := by
      simpa [engine, Registry.formatters, Rule.formatter?] using hm
    exact ⟨fun _ _ _ => rfl, fun doc visit => trivial⟩
  have hlists : 3 ∈ doc.children 2 := by decide +kernel
  exact ⟨hs, by decide +kernel, Relation.TransGen.single hlists, by decide +kernel⟩

end Engine

end TreeText
