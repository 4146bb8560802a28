/-
# Eager conversion

A conversion computes the text of an element when a rule first asks for it, and keeps it for the
rest of that rule's work. The eager conversion has no such care: it computes the texts of all
children first, by recursion on the tree, and then passes the text through all rules of the element.
Wherever the eager conversion succeeds, the conversion proper ends with the same text.

* `Conversion.eagerText` is the eager conversion.
* `Conversion.result?_resolve` compares the two on one element, whose text is known, and
  `Conversion.result?_textOf` on whole trees.
-/
import TreeText.Engine
import TreeText.Formatter.Piece
import TreeText.Proofs.Document.Tree
import TreeText.Proofs.Registry.Formatters

namespace TreeText

/-! ## Texts through rules -/

/-- What a formatter makes of a text: its answer to it, or a failure if there is none. -/
def Formatter.rewrite (formatter : Formatter) (doc : Document) (visit : Visit)
    (unanswered : ConversionError) (text : String) : Except ConversionError String :=
  match (formatter.script doc visit).answer text with
  | .ok (some changed) => .ok changed
  | .ok none => .error unanswered
  | .error error => .error error

/-- What a rule makes of a text. -/
def Rule.rewrite (doc : Document) (visit : Visit) (text : String) (rule : Rule) :
    Except ConversionError String :=
  match rule.transform with
  | .template template => .ok (template.render text visit.dataset)
  | .format formatter => formatter.rewrite doc visit (.ruleWithoutAnswer rule.selector) text

namespace Conversion

/-- What becomes of an element whose text is computed: all of its rules work on it in their order,
or the fallback does, or it stays as it is. -/
def eagerResolve (c : Conversion) (visit : Visit) (text : String) :
    Except ConversionError String :=
  match c.rulesFor visit.node with
  | [] =>
    match c.registry.fallback with
    | some formatter => formatter.rewrite c.doc visit (.fallbackWithoutAnswer visit.tag) text
    | none => .ok text
  | rules => rules.foldlM (Rule.rewrite c.doc visit) text

/-! ## Trees -/

mutual

/-- What the root of a tree contributes if its own text is computed first. -/
def eagerContribution (c : Conversion) (depth : Nat) : Tree → Except ConversionError String
  | .node number branches =>
    match c.doc.content? number with
    | some (.text text) => .ok (c.plainText number text)
    | some (.element tag dataset) =>
      if c.isIgnored number then .ok ""
      else do
        let text ← c.eagerText (depth + 1) branches
        c.eagerResolve ⟨number, tag, dataset, depth + 1⟩ text
    | _ => .ok ""

/-- The contributions of trees, joined. -/
def eagerText (c : Conversion) (depth : Nat) : List Tree → Except ConversionError String
  | [] => .ok ""
  | tree :: trees => do
    let text ← c.eagerContribution depth tree
    let rest ← c.eagerText depth trees
    return text ++ rest

end

/-! ## One element -/

variable {c : Conversion} {textOf : Nat → Run String} {visit : Visit} {text : String}

/-- A rule makes the same of its content as the eager conversion, whether the content was given or
is computed when it is needed. -/
theorem result?_applyRule {rule : Rule} {given : Option String}
    (hr : ∀ formatter ∈ rule.formatter?, formatter.NeverConverts)
    (hg : Script.Offers textOf visit.node text given) :
    (c.applyRule textOf visit given rule).result? = some (rule.rewrite c.doc visit text) := by
  obtain ⟨selector, template | formatter⟩ := rule
  · cases given with
    | some given =>
      obtain rfl : given = text := hg
      rfl
    | none => exact Run.result?_bind_of_ok hg _
  · have hcall := Formatter.result?_call (hr formatter rfl) hg c.doc
    simp only [applyRule, Rule.rewrite, Formatter.rewrite, Run.result?_bind, hcall]
    rcases (formatter.script c.doc visit).answer text with error | _ | changed <;> rfl

/-- Further rules make the same of a text as the eager conversion. -/
theorem result?_applyRules {rules : List Rule}
    (hr : ∀ rule ∈ rules, ∀ formatter ∈ rule.formatter?, formatter.NeverConverts) :
    (c.applyRules textOf visit rules text).result? =
      some (rules.foldlM (Rule.rewrite c.doc visit) text) := by
  induction rules generalizing text with
  | nil => rfl
  | cons rule rules ih =>
    have hfirst : (c.applyRule textOf visit (some text) rule).result? =
        some (rule.rewrite c.doc visit text) :=
      result?_applyRule (hr rule List.mem_cons_self) rfl
    rw [applyRules, Run.result?_bind, hfirst, List.foldlM_cons]
    cases rule.rewrite c.doc visit text with
    | error error => rfl
    | ok changed => exact ih fun rule h => hr rule (List.mem_cons_of_mem _ h)

/-- An element whose text can be computed ends as in the eager conversion. -/
theorem result?_resolve (hc : c.registry.NeverConverts)
    (ht : (textOf visit.node).result? = some (.ok text)) :
    (c.resolve textOf visit).result? = some (c.eagerResolve visit text) := by
  unfold resolve eagerResolve
  cases hrules : c.rulesFor visit.node with
  | nil =>
    simp only [applyFallback]
    cases hf : c.registry.fallback with
    | none => exact ht
    | some formatter =>
      have hmem : formatter ∈ c.registry.formatters := Registry.mem_formatters_of_fallback hf
      have hg : Script.Offers textOf visit.node text none := ht
      have hcall := Formatter.result?_call (hc formatter hmem) hg c.doc
      simp only [Formatter.rewrite, Run.result?_bind, hcall]
      rcases (formatter.script c.doc visit).answer text with error | _ | changed <;> rfl
  | cons first rules =>
    -- Only the first rule may compute the text; the others are given what is left by then.
    have hr : ∀ rule ∈ first :: rules, ∀ formatter ∈ rule.formatter?, formatter.NeverConverts :=
      fun rule h formatter hf => hc formatter (mem_formatters_of_mem_rulesFor (hrules ▸ h) hf)
    have hfirst : (c.applyRule textOf visit none first).result? =
        some (first.rewrite c.doc visit text) :=
      result?_applyRule (hr first List.mem_cons_self) ht
    simp only [Run.result?_bind, hfirst, List.foldlM_cons]
    cases first.rewrite c.doc visit text with
    | error error => rfl
    | ok changed => exact result?_applyRules fun rule h => hr rule (List.mem_cons_of_mem _ h)

/-! ## Whole trees -/

/-- A node contributes the same as in the eager conversion if the texts of elements are. -/
theorem result?_contribution (hc : c.registry.NeverConverts) (hd : c.doc.Descends)
    {textAt : Nat → Nat → Run String} {depth node : Nat}
    (ht : ∀ text, c.eagerText (depth + 1) (c.doc.tree node).branches = .ok text →
      (textAt (depth + 1) node).result? = some (.ok text))
    (he : c.eagerContribution depth (c.doc.tree node) = .ok text) :
    (c.contribution textAt depth node).result? = some (.ok text) := by
  rw [Document.tree_eq hd] at he ht
  unfold contribution
  unfold eagerContribution at he
  rcases hcontent : c.doc.content? node with _ | ⟨tag, dataset⟩ | content | _ <;>
    simp only [hcontent] at he ⊢
  · exact congrArg some he
  · by_cases hi : c.isIgnored node
    · simp only [hi, if_true] at he ⊢
      exact congrArg some he
    · simp only [hi, Bool.false_eq_true, if_false] at he ⊢
      cases hbody : c.eagerText (depth + 1) ((c.doc.children node).map c.doc.tree) with
      | error error =>
        rw [hbody] at he
        cases he
      | ok body =>
        rw [hbody] at he
        rw [result?_resolve hc (ht body hbody)]
        exact congrArg some he
  · exact congrArg some he
  · exact congrArg some he

/-- The contributions of children are joined as in the eager conversion if each of them is. -/
theorem result?_gather {contribute : Nat → Run String} {depth : Nat} {children : List Nat}
    (h : ∀ child ∈ children, ∀ text, c.eagerContribution depth (c.doc.tree child) = .ok text →
      (contribute child).result? = some (.ok text))
    (he : c.eagerText depth (children.map c.doc.tree) = .ok text) :
    (Run.gather (children.map contribute)).result? = some (.ok text) := by
  induction children generalizing text with
  | nil => exact congrArg some he
  | cons child children ih =>
    rw [List.map_cons, eagerText] at he
    cases hfirst : c.eagerContribution depth (c.doc.tree child) with
    | error error =>
      rw [hfirst] at he
      cases he
    | ok first =>
      cases hrest : c.eagerText depth (children.map c.doc.tree) with
      | error error =>
        rw [hfirst, hrest] at he
        cases he
      | ok rest =>
        rw [hfirst, hrest] at he
        obtain rfl : first ++ rest = text := Except.ok.inj he
        refine Run.result?_gather_cons (h child List.mem_cons_self first hfirst) ?_
        exact ih (fun child hm => h child (List.mem_cons_of_mem _ hm)) hrest

/-- Where the eager conversion succeeds on the trees below a node, the text of the node is the same,
if the bound leaves room for all larger numbers. -/
theorem result?_textOf (hc : c.registry.NeverConverts) (hd : c.doc.Descends)
    {bound depth node : Nat} (hb : c.doc.size - node < bound)
    (he : c.eagerText depth (c.doc.tree node).branches = .ok text) :
    (c.textOf bound depth node).result? = some (.ok text) := by
  induction bound generalizing depth node text with
  | zero => omega
  | succ bound ih =>
    rw [Document.tree_eq hd] at he
    refine result?_gather (fun child hm text he => ?_) he
    -- A child has a larger number than the node, so one level less leaves room enough for it.
    have hlt := hd node child hm
    have hsize := Document.lt_size_of_mem_children hm
    exact result?_contribution hc hd (fun text he => ih (by omega) he) he

/-! ## Templates alone -/

/-- Rules that call no formatter make something of every text. -/
theorem exists_foldlM_rewrite {doc : Document} {rules : List Rule}
    (h : ∀ rule ∈ rules, rule.formatter? = none) (text : String) :
    ∃ changed, rules.foldlM (Rule.rewrite doc visit) text = .ok changed := by
  induction rules generalizing text with
  | nil => exact ⟨text, rfl⟩
  | cons rule rules ih =>
    obtain ⟨selector, template | formatter⟩ := rule
    · exact ih (fun rule hm => h rule (List.mem_cons_of_mem _ hm)) _
    · cases h ⟨selector, .format formatter⟩ List.mem_cons_self

/-- Without formatters, something becomes of every element. -/
theorem exists_eagerResolve (hc : c.registry.formatters = []) (visit : Visit) (text : String) :
    ∃ changed, c.eagerResolve visit text = .ok changed := by
  have hnone : ∀ rule ∈ c.rulesFor visit.node, rule.formatter? = none :=
    fun rule hm => Registry.formatter?_eq_none hc (List.mem_filter.1 hm).1
  unfold eagerResolve
  cases hr : c.rulesFor visit.node with
  | nil =>
    simp only [Registry.fallback_eq_none hc]
    exact ⟨text, rfl⟩
  | cons first rules => exact exists_foldlM_rewrite (hr ▸ hnone) text

/-- Without formatters, the contributions of trees can be joined if each of them can be computed. -/
theorem exists_eagerText {depth : Nat} {trees : List Tree}
    (h : ∀ tree ∈ trees, ∃ text, c.eagerContribution depth tree = .ok text) :
    ∃ text, c.eagerText depth trees = .ok text := by
  induction trees with
  | nil => exact ⟨"", rfl⟩
  | cons tree trees ih =>
    obtain ⟨first, hfirst⟩ := h tree List.mem_cons_self
    obtain ⟨rest, hrest⟩ := ih fun tree hm => h tree (List.mem_cons_of_mem _ hm)
    refine ⟨first ++ rest, ?_⟩
    rw [eagerText, hfirst, hrest]
    rfl

/-- Without formatters, every tree contributes a text. -/
theorem exists_eagerContribution (hc : c.registry.formatters = []) (depth : Nat) (tree : Tree) :
    ∃ text, c.eagerContribution depth tree = .ok text := by
  induction tree generalizing depth with
  | node number branches ih =>
    unfold eagerContribution
    rcases hcontent : c.doc.content? number with _ | ⟨tag, dataset⟩ | content | _ <;> simp only
    · exact ⟨_, rfl⟩
    · by_cases hi : c.isIgnored number
      · exact ⟨"", by rw [if_pos hi]⟩
      · obtain ⟨body, hbody⟩ := exists_eagerText fun tree hm => ih tree hm (depth + 1)
        obtain ⟨text, htext⟩ := exists_eagerResolve hc ⟨number, tag, dataset, depth + 1⟩ body
        refine ⟨text, ?_⟩
        rw [if_neg hi, hbody]
        exact htext
    · exact ⟨_, rfl⟩
    · exact ⟨_, rfl⟩

end Conversion

/-! ## Engines -/

namespace Engine

/-- The raw text of a node, computed eagerly. -/
def eagerText (engine : Engine) (doc : Document) (root : Nat) (normalize : Bool) :
    Except ConversionError String :=
  (engine.conversion doc normalize).eagerText 0 (doc.tree root).branches

/-- An engine ends with the finished text if its raw text is known. -/
theorem result?_convertNode {engine : Engine} {doc : Document} {root : Nat}
    {options : ConversionOptions} {text : String}
    (h : (engine.rawText doc root options.normalizeWhitespace).result? = some (.ok text)) :
    (engine.convertNode doc root options).result? = some (.ok (engine.finish options text)) :=
  Run.result?_bind_of_ok h _

/-- The raw text is the eager one, wherever the eager conversion succeeds. -/
theorem result?_rawText {engine : Engine} (he : engine.registry.NeverConverts) {doc : Document}
    (hd : doc.Descends) {root : Nat} {normalize : Bool} {text : String}
    (ht : engine.eagerText doc root normalize = .ok text) :
    (engine.rawText doc root normalize).result? = some (.ok text) :=
  Conversion.result?_textOf (c := engine.conversion doc normalize) he hd
    (size_sub_lt_nesting doc root) ht

/-- Without formatters, conversions of a document whose numbers are in order give texts. -/
theorem exists_result?_convertNode {engine : Engine} (hf : engine.registry.formatters = [])
    {doc : Document} (hd : doc.Descends) (root : Nat) (options : ConversionOptions) :
    ∃ text, (engine.convertNode doc root options).result? = some (.ok text) := by
  obtain ⟨text, he⟩ :
      ∃ text, engine.eagerText doc root options.normalizeWhitespace = .ok text :=
    Conversion.exists_eagerText fun tree _ => Conversion.exists_eagerContribution hf 0 tree
  have hnever := Registry.neverConverts_of_formatters_eq_nil hf
  exact ⟨_, result?_convertNode (result?_rawText hnever hd he)⟩

/-- On a document that was built, an engine whose formatters never ask for the text of a node
refines the eager conversion, at every node and below every root; and an engine without formatters
never fails. -/
theorem convert_refines_eager (edits : List Document.Edit) (engine : Engine)
    (options : ConversionOptions) :
    let doc := Document.build edits
    let c := engine.conversion doc options.normalizeWhitespace
    (engine.registry.NeverConverts →
      (∀ depth node text, c.eagerContribution depth (doc.tree node) = .ok text →
        (c.contribution (c.textOf (nesting doc)) depth node).result? = some (.ok text)) ∧
      ∀ root text, engine.eagerText doc root options.normalizeWhitespace = .ok text →
        (engine.rawText doc root options.normalizeWhitespace).result? = some (.ok text) ∧
        (engine.convertNode doc root options).result? =
          some (.ok (engine.finish options text))) ∧
    (engine.registry.formatters = [] →
      (∀ root, ∃ text, engine.eagerText doc root options.normalizeWhitespace = .ok text ∧
        (engine.convertNode doc root options).result? =
          some (.ok (engine.finish options text))) ∧
      ∃ text, (engine.convert doc options).result? = some (.ok text)) := by
  intro doc c
  have hd : doc.Descends := Document.descends_build edits
  refine ⟨fun hc => ⟨?_, ?_⟩, fun hnone => ?_⟩
  · intro depth node text he
    refine Conversion.result?_contribution (c := c) hc hd (fun text he => ?_) he
    refine Conversion.result?_textOf (c := c) hc hd ?_ he
    show doc.size - node < doc.size + 1
    omega
  · intro root text he
    have hraw := result?_rawText hc hd he
    exact ⟨hraw, result?_convertNode hraw⟩
  · have hc : engine.registry.NeverConverts := by
      intro formatter hm
      rw [hnone] at hm
      cases hm
    have hall : ∀ root, ∃ text, engine.eagerText doc root options.normalizeWhitespace = .ok text ∧
        (engine.convertNode doc root options).result? =
          some (.ok (engine.finish options text)) := by
      intro root
      obtain ⟨text, he⟩ : ∃ text, c.eagerText 0 (doc.tree root).branches = .ok text :=
        Conversion.exists_eagerText fun tree _ =>
          Conversion.exists_eagerContribution hnone 0 tree
      exact ⟨text, he, result?_convertNode (result?_rawText hc hd he)⟩
    obtain ⟨text, -, hconvert⟩ := hall (startOf doc options)
    exact ⟨hall, _, hconvert⟩

/-- A paragraph goes through a formatter that reads its content twice and then through a template,
and the emphasis in it to the fallback; with the template alone, no formatter is called. -/
theorem convert_refines_eager_nested :
    let edits : List Document.Edit :=
      [.element 1 "p" .empty, .text 2 "a  ", .element 2 "em" .empty, .text 4 "b"]
    let formatter := Formatter.ofPieces "twice" [.content, .literal "|", .content]
    let engine : Engine :=
      ⟨.byTag, [⟨"p", .format formatter⟩, .template "p" "<{content}>"], .empty, [], some formatter⟩
    let plain : Engine := ⟨.byTag, [.template "p" "<{content}>"], .empty, [], none⟩
    (engine.registry.NeverConverts ∧
      engine.eagerText (.build edits) 1 true = .ok "<a b|b|a b|b>" ∧
      (engine.rawText (.build edits) 1 true).result? = some (.ok "<a b|b|a b|b>")) ∧
    plain.registry.formatters = [] ∧
      ∃ text, (plain.convert (.build edits) .standard).result? = some (.ok text) := by
  intro edits formatter engine plain
  have hformatter : formatter.NeverConverts := by
    rintro doc visit (error | first)
    · trivial
    · rintro (error | second) <;> trivial
  have hc : engine.registry.NeverConverts := by
    intro other hm
    obtain rfl : other = formatter := by
      simpa [engine, Registry.formatters, Rule.formatter?, Rule.template] using hm
    exact hformatter
  have he : engine.eagerText (.build edits) 1 true = .ok "<a b|b|a b|b>" := by decide +kernel
  have hraw := (((convert_refines_eager edits engine .standard).1 hc).2 1 _ he).1
  exact ⟨⟨hc, he, hraw⟩, rfl, ((convert_refines_eager edits plain .standard).2 rfl).2⟩

end Engine

end TreeText
