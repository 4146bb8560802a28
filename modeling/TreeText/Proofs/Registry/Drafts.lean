/-
# Drafts and what they describe

A draft describes a rule or a placeholder if it has both of its parts. To hand in drafts is to hand
in what they describe. The registry checks the two in different ways: it reads all drafts before it
checks the first rule, and whether a selector is blank or a template empty it finds out from the
draft, and once more from the rule. So the fault that it tells may be another one, but it refuses
the same lists, and it does the same with the others.

* `RuleDraft.Describes` and `PlaceholderDraft.Describes` say what drafts describe.
* `RuleDraft.valid_iff_describes` compares the checks of one draft, and
  `Registry.handle_drafts_eq_ok_iff` what becomes of a list of drafts.
-/
import TreeText.Descent.Selector
import TreeText.Proofs.Registry.Request

namespace TreeText

/-! ## What a draft describes -/

/-- A draft with a selector and a template describes the rule that fills in the template, whatever
the selector and the template are. -/
inductive RuleDraft.Describes : RuleDraft → Rule → Prop
  | both (selector source : String) :
    Describes ⟨some selector, some source⟩ (.template selector source)

/-- A draft with a pattern and a replacement describes the placeholder of the two. -/
inductive PlaceholderDraft.Describes : PlaceholderDraft → Placeholder → Prop
  | both (pattern replacement : String) :
    Describes ⟨some pattern, some replacement⟩ ⟨pattern, replacement⟩

/-- A draft describes one rule if it has both parts, and otherwise none. -/
theorem RuleDraft.describes_iff {draft : RuleDraft} {rule : Rule} :
    draft.Describes rule ↔
      (draft.selector.isSome = true ∧ draft.template.isSome = true) ∧ rule = draft.filled := by
  constructor
  · rintro ⟨selector, source⟩
    exact ⟨⟨rfl, rfl⟩, rfl⟩
  · rcases draft with ⟨_ | selector, _ | source⟩
    · rintro ⟨⟨hselector, -⟩, -⟩
      cases hselector
    · rintro ⟨⟨hselector, -⟩, -⟩
      cases hselector
    · rintro ⟨⟨-, htemplate⟩, -⟩
      cases htemplate
    · rintro ⟨-, rfl⟩
      exact .both selector source

/-- A draft describes one placeholder if it has both parts, and otherwise none. -/
theorem PlaceholderDraft.describes_iff {draft : PlaceholderDraft} {placeholder : Placeholder} :
    draft.Describes placeholder ↔ draft.Valid ∧ placeholder = draft.filled := by
  constructor
  · rintro ⟨pattern, replacement⟩
    exact ⟨⟨rfl, rfl⟩, rfl⟩
  · rcases draft with ⟨_ | pattern, _ | replacement⟩
    · rintro ⟨⟨hpattern, -⟩, -⟩
      cases hpattern
    · rintro ⟨⟨hpattern, -⟩, -⟩
      cases hpattern
    · rintro ⟨⟨-, hreplacement⟩, -⟩
      cases hreplacement
    · rintro ⟨-, rfl⟩
      exact .both pattern replacement

/-- A draft is valid exactly if it describes a rule that is valid. A draft without one of its parts
is refused as one in which the part is empty, and so is the rule with an empty part. -/
theorem RuleDraft.valid_iff_describes {matcher : Matcher} {draft : RuleDraft} :
    draft.Valid matcher ↔ ∃ rule, draft.Describes rule ∧ rule.Valid matcher := by
  constructor
  · intro h
    have hfilled : draft.filled.Valid matcher := (RuleDraft.valid_iff.1 h).2
    obtain ⟨⟨selector, hselector, -⟩, source, htemplate, -⟩ := h
    refine ⟨draft.filled, RuleDraft.describes_iff.2 ⟨⟨?_, ?_⟩, rfl⟩, hfilled⟩
    · exact Option.isSome_of_mem hselector
    · exact Option.isSome_of_mem htemplate
  · rintro ⟨rule, ⟨selector, source⟩, haccepts, hsource⟩
    refine ⟨⟨selector, rfl, haccepts⟩, source, rfl, ?_⟩
    rintro rfl
    exact hsource rfl

/-! ## Lists of drafts -/

/-- Drafts describe rules, one after the other, if all of them have both parts. -/
theorem RuleDraft.forall₂_describes_iff {drafts : List RuleDraft} {rules : List Rule} :
    List.Forall₂ RuleDraft.Describes drafts rules ↔
      (∀ draft ∈ drafts, draft.selector.isSome = true ∧ draft.template.isSome = true) ∧
        rules = drafts.map RuleDraft.filled := by
  rw [← forall₂_and_eq_iff]
  simp only [← RuleDraft.describes_iff]

/-- Drafts describe placeholders, one after the other, if all of them have both parts. -/
theorem PlaceholderDraft.forall₂_describes_iff {drafts : List PlaceholderDraft}
    {list : List Placeholder} :
    List.Forall₂ PlaceholderDraft.Describes drafts list ↔
      (∀ draft ∈ drafts, draft.Valid) ∧ list = drafts.map PlaceholderDraft.filled := by
  rw [← forall₂_and_eq_iff]
  simp only [← PlaceholderDraft.describes_iff]

/-- Drafts are all valid exactly if they describe rules that are all valid. -/
theorem RuleDraft.forall_valid_iff {matcher : Matcher} {drafts : List RuleDraft} :
    (∀ draft ∈ drafts, draft.Valid matcher) ↔
      (∀ draft ∈ drafts, draft.selector.isSome = true ∧ draft.template.isSome = true) ∧
        ∀ rule ∈ drafts.map RuleDraft.filled, rule.Valid matcher := by
  rw [List.forall_mem_map, ← forall₂_and]
  refine forall₂_congr fun draft _ => ?_
  rw [RuleDraft.valid_iff_describes]
  constructor
  · rintro ⟨rule, hdescribes, hvalid⟩
    obtain ⟨hparts, rfl⟩ := RuleDraft.describes_iff.1 hdescribes
    exact ⟨hparts, hvalid⟩
  · rintro ⟨hparts, hvalid⟩
    exact ⟨draft.filled, RuleDraft.describes_iff.2 ⟨hparts, rfl⟩, hvalid⟩

namespace Registry

variable {matcher : Matcher} {registry changed : Registry}

/-- Drafts of rules do what the rules do that they describe. -/
theorem handle_ruleDrafts_iff {drafts : List RuleDraft} :
    registry.handle matcher (.ruleDrafts drafts) = .ok changed ↔
      ∃ rules, List.Forall₂ RuleDraft.Describes drafts rules ∧
        registry.handle matcher (.rules rules) = .ok changed := by
  simp only [handle, registerDrafts_eq_ok_iff, register_eq_ok_iff, RuleDraft.forall_valid_iff]
  constructor
  · rintro ⟨⟨hparts, hvalid⟩, hchanged⟩
    exact ⟨_, RuleDraft.forall₂_describes_iff.2 ⟨hparts, rfl⟩, hvalid, hchanged⟩
  · rintro ⟨rules, hdescribes, hvalid, hchanged⟩
    obtain ⟨hparts, rfl⟩ := RuleDraft.forall₂_describes_iff.1 hdescribes
    exact ⟨⟨hparts, hvalid⟩, hchanged⟩

/-- Drafts of placeholders do what the placeholders do that they describe. -/
theorem handle_placeholderDrafts_iff {drafts : List PlaceholderDraft} :
    registry.handle matcher (.placeholderDrafts drafts) = .ok changed ↔
      ∃ list, List.Forall₂ PlaceholderDraft.Describes drafts list ∧
        registry.handle matcher (.placeholders list) = .ok changed := by
  simp only [handle, addDraftedPlaceholders_eq_ok_iff, Except.ok.injEq]
  constructor
  · rintro ⟨hvalid, hchanged⟩
    exact ⟨_, PlaceholderDraft.forall₂_describes_iff.2 ⟨hvalid, rfl⟩, hchanged.symm⟩
  · rintro ⟨list, hdescribes, hchanged⟩
    obtain ⟨hvalid, rfl⟩ := PlaceholderDraft.forall₂_describes_iff.1 hdescribes
    exact ⟨hvalid, hchanged.symm⟩

/-- A request is carried out, or it changes nothing. -/
theorem handle_eq_ok_step_or (request : Request) :
    registry.handle matcher request = .ok (registry.step matcher request) ∨
      registry.step matcher request = registry := by
  rw [step_eq_ite]
  by_cases hvalid : request.Valid matcher
  · rw [if_pos hvalid]
    exact Or.inl (handle_eq_ok_iff.2 ⟨hvalid, rfl⟩)
  · rw [if_neg hvalid]
    exact Or.inr rfl

/-- Drafts and what they describe come to the same. Drafts of rules are registered exactly if each
of them has a selector and a template and the rules of these are registered; drafts of placeholders
exactly if each of them has a pattern and a replacement. The registry is then the one that comes of
the rules or of the placeholders themselves, and where a list is refused it is the one that was
there. -/
theorem handle_drafts_eq_ok_iff (matcher : Matcher) (registry : Registry) :
    (∀ drafts : List RuleDraft,
      ((∃ rules, List.Forall₂ RuleDraft.Describes drafts rules) ↔
        ∀ draft ∈ drafts, draft.selector.isSome = true ∧ draft.template.isSome = true) ∧
      ∀ changed, registry.handle matcher (.ruleDrafts drafts) = .ok changed ↔
        ∃ rules, List.Forall₂ RuleDraft.Describes drafts rules ∧
          registry.handle matcher (.rules rules) = .ok changed) ∧
    (∀ drafts : List PlaceholderDraft,
      ((∃ changed, registry.handle matcher (.placeholderDrafts drafts) = .ok changed) ↔
        ∀ draft ∈ drafts, draft.pattern.isSome = true ∧ draft.replacement.isSome = true) ∧
      ∀ changed, registry.handle matcher (.placeholderDrafts drafts) = .ok changed ↔
        ∃ list, List.Forall₂ PlaceholderDraft.Describes drafts list ∧
          registry.handle matcher (.placeholders list) = .ok changed) ∧
    ∀ request, registry.handle matcher request = .ok (registry.step matcher request) ∨
      registry.step matcher request = registry := by
  refine ⟨fun drafts => ⟨?_, fun changed => handle_ruleDrafts_iff⟩,
    fun drafts => ⟨?_, fun changed => handle_placeholderDrafts_iff⟩,
    handle_eq_ok_step_or⟩
  · simp only [RuleDraft.forall₂_describes_iff, exists_and_left, exists_eq, and_true]
  · simp only [handle, addDraftedPlaceholders_eq_ok_iff, exists_and_left, exists_eq, and_true]
    rfl

/-- Where two entries are at fault, the one that is told may be another: a draft is read before the
matcher is asked for the selector of the first rule. -/
example :
    empty.registerDrafts Descent.matcher [⟨some ",", some "x"⟩, ⟨some " ", some "y"⟩] =
        .error (.invalidRule " " .missingSelector) ∧
      empty.register Descent.matcher [.template "," "x", .template " " "y"] =
        .error (.invalidRule "," (.selector (.refused "empty selector in \",\""))) := by
  exact ⟨rfl, rfl⟩

end Registry

end TreeText
