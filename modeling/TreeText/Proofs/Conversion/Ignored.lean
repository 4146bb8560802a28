/-
# Ignored elements as a set

An engine ignores what one of its selectors selects, and a selector selects what one of its
alternatives selects. So only the alternatives count, and of these only which ones there are:
neither their order, nor how often they are listed, in how many requests, and which of them are
joined by commas. The registry keeps the selectors as they were listed, and two that differ in a
blank are two to it; this makes no difference to what is ignored.

* `Registry.listedIgnored` are the selectors that a history lists.
* `Conversion.isIgnored_eq_any_alternatives` says what is ignored.
* `Engine.convertNode_eq_of_alternatives` compares engines with different histories.
-/
import Mathlib.Tactic.Tauto
import TreeText.Proofs.Conversion.Finish
import TreeText.Proofs.Descent.Alternatives
import TreeText.Proofs.Formatter.Piece
import TreeText.Proofs.Registry.History
import TreeText.Proofs.Registry.Usable

namespace TreeText

/-! ## Listed selectors -/

namespace Registry

/-- The selectors to ignore that the valid requests of a history list, in their order and as often
as they are listed. -/
def listedIgnored (matcher : Matcher) (history : List Request) : List String :=
  (history.filter (Request.Valid matcher ·)).flatMap Request.newIgnored

/-- The selectors that a registry ignores after a history are those that are listed. -/
theorem mem_ignored_after_iff {matcher : Matcher} {history : List Request} {selector : String} :
    selector ∈ (empty.after matcher history).ignored ↔ selector ∈ listedIgnored matcher history := by
  rw [after_eq_foldl_enlarge, foldl_enlarge_empty]
  exact List.mem_eraseDups

end Registry

/-! ## Elements that are ignored -/

/-- An element is ignored if one of the alternatives selects it. -/
theorem Conversion.isIgnored_eq_any_alternatives {doc : Document} {registry : Registry}
    (normalize : Bool) (h : ∀ selector ∈ registry.ignored, Descent.matcher.Accepts selector)
    (node : Nat) :
    (⟨doc, Descent.matcher, registry, normalize⟩ : Conversion).isIgnored node =
      (registry.ignored.flatMap Descent.alternatives).any (Descent.selects doc node) := by
  rw [List.any_flatMap]
  show registry.ignored.any (Descent.selects doc node) = _
  rw [Bool.eq_iff_iff, List.any_eq_true, List.any_eq_true]
  refine exists_congr fun selector => and_congr_right fun hm => ?_
  rw [Descent.selects_eq_any_alternatives (h selector hm)]

/-! ## Engines -/

namespace Engine

/-- Engines that have the same alternatives to ignore, and apart from that the same registry, do the
same conversions, within any bound on nesting. -/
theorem convertNodeWithin_eq_of_alternatives {registry₁ registry₂ : Registry}
    (hsame : { registry₁ with ignored := [] } = { registry₂ with ignored := [] })
    (haccepts₁ : ∀ selector ∈ registry₁.ignored, Descent.matcher.Accepts selector)
    (haccepts₂ : ∀ selector ∈ registry₂.ignored, Descent.matcher.Accepts selector)
    (halternatives : ∀ alternative,
      alternative ∈ registry₁.ignored.flatMap Descent.alternatives ↔
        alternative ∈ registry₂.ignored.flatMap Descent.alternatives)
    (bound : Nat) (doc : Document) (root : Nat) (options : ConversionOptions) :
    (⟨Descent.matcher, registry₁⟩ : Engine).convertNodeWithin bound doc root options =
      (⟨Descent.matcher, registry₂⟩ : Engine).convertNodeWithin bound doc root options := by
  obtain ⟨hrules, hplaceholders, -, hfallback⟩ := Registry.mk.inj hsame
  have hagrees : (⟨doc, Descent.matcher, registry₁, options.normalizeWhitespace⟩ : Conversion).Agrees
      ⟨doc, Descent.matcher, registry₂, options.normalizeWhitespace⟩ := by
    refine ⟨rfl, rfl, hfallback, fun node _ => ?_, fun node _ => ?_⟩
    · rw [Conversion.isIgnored_eq_any_alternatives _ haccepts₁,
        Conversion.isIgnored_eq_any_alternatives _ haccepts₂, Bool.eq_iff_iff, List.any_eq_true,
        List.any_eq_true]
      exact exists_congr fun alternative => and_congr_left' (halternatives alternative)
    · show registry₁.rules.filter _ = registry₂.rules.filter _
      rw [hrules]
  unfold convertNodeWithin conversion finish
  rw [hagrees.textOf_eq bound, hplaceholders]

/-- The selectors to ignore count as the set of their alternatives. To join selectors by commas, or
to split one at its commas, keeps their alternatives and whether they are accepted. And two engines
that were told the same but for selectors to ignore do the same conversions of every document, with
the same calls and the same result, if the alternatives that were listed to the one are those that
were listed to the other: in whatever requests and order, however often, joined in whatever way, and
whatever else was refused. -/
theorem convertNode_eq_of_alternatives :
    (∀ parts : List String, parts ≠ [] →
      (Descent.matcher.Accepts (",".intercalate parts) ↔
        ∀ part ∈ parts, Descent.matcher.Accepts part) ∧
      Descent.alternatives (",".intercalate parts) = parts.flatMap Descent.alternatives) ∧
    ∀ history₁ history₂ : List Request,
      let registry₁ := Registry.empty.after Descent.matcher history₁
      let registry₂ := Registry.empty.after Descent.matcher history₂
      let engine₁ : Engine := ⟨Descent.matcher, registry₁⟩
      let engine₂ : Engine := ⟨Descent.matcher, registry₂⟩
      { registry₁ with ignored := [] } = { registry₂ with ignored := [] } →
      (∀ alternative,
        alternative ∈ (Registry.listedIgnored Descent.matcher history₁).flatMap
            Descent.alternatives ↔
          alternative ∈ (Registry.listedIgnored Descent.matcher history₂).flatMap
            Descent.alternatives) →
      ∀ doc root options,
        engine₁.convertNode doc root options = engine₂.convertNode doc root options ∧
          ∀ bound, engine₁.convertNodeWithin bound doc root options =
            engine₂.convertNodeWithin bound doc root options := by
  refine ⟨fun parts hne => ⟨Descent.accepts_intercalate_iff hne,
    Descent.alternatives_intercalate hne⟩, ?_⟩
  intro history₁ history₂ registry₁ registry₂ engine₁ engine₂ hsame hlisted doc root options
  have husable : ∀ history, (Registry.empty.after Descent.matcher history).Usable Descent.matcher :=
    fun history => (Registry.usable_empty Descent.matcher).after history
  have halternatives : ∀ alternative,
      alternative ∈ registry₁.ignored.flatMap Descent.alternatives ↔
        alternative ∈ registry₂.ignored.flatMap Descent.alternatives := by
    intro alternative
    have hlisted := hlisted alternative
    simp only [List.mem_flatMap, ← Registry.mem_ignored_after_iff] at hlisted ⊢
    exact hlisted
  have hwithin : ∀ bound, engine₁.convertNodeWithin bound doc root options =
      engine₂.convertNodeWithin bound doc root options := fun bound =>
    convertNodeWithin_eq_of_alternatives hsame (husable history₁).ignored (husable history₂).ignored
      halternatives bound doc root options
  refine ⟨?_, hwithin⟩
  rw [convertNode_eq_within, convertNode_eq_within, hwithin]

/-- Three alternatives are listed in two selectors; to another engine they are listed in four, some
of them twice, in the other order and around the rules, and a request is refused between them. -/
theorem convertNode_eq_of_alternatives_joined :
    let edits : List Document.Edit :=
      [.element 1 "nav" .empty, .text 2 "x", .element 1 "p" .empty, .text 4 "a",
        .element 4 "em" .empty, .text 6 "b", .element 1 "em" .empty, .text 8 "c"]
    let link := Formatter.ofPieces "link" [.content, .convert (some 6)]
    let history₁ : List Request :=
      [.rules [⟨"p", .format link⟩], .ignore ["nav, p em"], .ignore ["aside "]]
    let history₂ : List Request :=
      [.ignore ["aside", "nav"], .ignore ["h1", "p >"], .rules [⟨"p", .format link⟩],
        .ignore [" p em,nav", "aside", "p em ,aside"]]
    let registry₁ := Registry.empty.after Descent.matcher history₁
    let registry₂ := Registry.empty.after Descent.matcher history₂
    let engine₁ : Engine := ⟨Descent.matcher, registry₁⟩
    let engine₂ : Engine := ⟨Descent.matcher, registry₂⟩
    let doc := Document.build edits
    registry₁.ignored = ["nav, p em", "aside "] ∧
      registry₂.ignored = ["aside", "nav", " p em,nav", "p em ,aside"] ∧
      Descent.alternatives "nav, p em" = ["nav", "p em"] ∧
      (engine₁.convertNode doc 1 .standard).result? = some (.ok "abc") ∧
      engine₂.convertNode doc 1 .standard = engine₁.convertNode doc 1 .standard := by
  intro edits link history₁ history₂ registry₁ registry₂ engine₁ engine₂ doc
  have hlisted₁ : (Registry.listedIgnored Descent.matcher history₁).flatMap Descent.alternatives =
      ["nav", "p em", "aside"] := by
    decide +kernel
  have hlisted₂ : (Registry.listedIgnored Descent.matcher history₂).flatMap Descent.alternatives =
      ["aside", "nav", "p em", "nav", "aside", "p em", "aside"] := by
    decide +kernel
  have hsame : { registry₁ with ignored := [] } = { registry₂ with ignored := [] } := by
    have hvalid₁ : history₁.filter (Request.Valid Descent.matcher ·) = history₁ :=
      List.filter_eq_self.2 (by decide +kernel)
    have hvalid₂ : (history₂.eraseIdx 1).filter (Request.Valid Descent.matcher ·) =
        history₂.eraseIdx 1 :=
      List.filter_eq_self.2 (by decide +kernel)
    have hrefused : ∀ registry : Registry,
        registry.step Descent.matcher (.ignore ["h1", "p >"]) = registry := by
      intro registry
      rw [Registry.step_eq_ite, if_neg (by decide +kernel)]
    have hcarried : registry₂ = Registry.empty.after Descent.matcher (history₂.eraseIdx 1) := by
      show List.foldl (Registry.step Descent.matcher) _ _ = _
      rw [List.foldl_cons, List.foldl_cons, hrefused]
      rfl
    rw [hcarried, Registry.after_eq_foldl_enlarge, hvalid₂]
    show { Registry.empty.after Descent.matcher history₁ with ignored := [] } = _
    rw [Registry.after_eq_foldl_enlarge, hvalid₁]
    rfl
  have halternatives : ∀ alternative,
      alternative ∈ (Registry.listedIgnored Descent.matcher history₁).flatMap
          Descent.alternatives ↔
        alternative ∈ (Registry.listedIgnored Descent.matcher history₂).flatMap
          Descent.alternatives := by
    intro alternative
    rw [hlisted₁, hlisted₂]
    simp only [List.mem_cons, List.not_mem_nil, or_false]
    tauto
  have hresult : (engine₁.convertNode doc 1 .standard).result? = some (.ok "abc") := by
    decide +kernel
  have hsameRun := convertNode_eq_of_alternatives.2 history₁ history₂ hsame halternatives doc 1
    .standard
  exact ⟨by decide +kernel, by decide +kernel, by decide +kernel, hresult, hsameRun.1.symm⟩

end Engine

end TreeText
