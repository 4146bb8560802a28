/-
# What requests do

A request is carried out exactly if all of its entries are valid, and it then adds what it lists: to
the rules behind those that are there, to the placeholders and the ignored selectors one entry after
the other, and to the fallback in the place of another. The checks of the registry read the entries
in their own orders; which entries are valid does not depend on that.

* `Request.Valid` says which requests are valid, entry by entry.
* `Registry.enlarge` is the registry with what a request lists.
* `Registry.handle_eq_ok_iff` describes `Registry.handle` by these two.
-/
import Mathlib.Tactic.Tauto
import TreeText.Proofs.Text.Entries
import TreeText.Registry

namespace TreeText

/-! ## Valid entries -/

/-- A selector that a matcher accepts: it has something but blanks, and it is usable. -/
def Matcher.Accepts (matcher : Matcher) (selector : String) : Prop :=
  Text.allBlank selector = false ∧ (matcher.check selector).isOk = true

instance (matcher : Matcher) : DecidablePred matcher.Accepts :=
  fun _ => inferInstanceAs (Decidable (_ ∧ _))

/-- A rule with an accepted selector and without an empty template. -/
def Rule.Valid (matcher : Matcher) (rule : Rule) : Prop :=
  matcher.Accepts rule.selector ∧ rule.source? ≠ some ""

instance (matcher : Matcher) : DecidablePred (Rule.Valid matcher) :=
  fun _ => inferInstanceAs (Decidable (_ ∧ _))

/-- A draft with an accepted selector and a template that is not empty. -/
def RuleDraft.Valid (matcher : Matcher) (draft : RuleDraft) : Prop :=
  (∃ selector ∈ draft.selector, matcher.Accepts selector) ∧ ∃ source ∈ draft.template, source ≠ ""

instance (matcher : Matcher) : DecidablePred (RuleDraft.Valid matcher) :=
  fun _ => inferInstanceAs (Decidable (_ ∧ _))

/-- A draft with both of its parts. -/
def PlaceholderDraft.Valid (draft : PlaceholderDraft) : Prop :=
  draft.pattern.isSome = true ∧ draft.replacement.isSome = true

instance : DecidablePred PlaceholderDraft.Valid :=
  fun _ => inferInstanceAs (Decidable (_ ∧ _))

/-- A request all of whose entries are valid. -/
def Request.Valid (matcher : Matcher) : Request → Prop
  | .rules list => ∀ rule ∈ list, rule.Valid matcher
  | .ruleDrafts drafts => ∀ draft ∈ drafts, draft.Valid matcher
  | .placeholders _ => True
  | .placeholderDrafts drafts => ∀ draft ∈ drafts, draft.Valid
  | .ignore selectors => ∀ selector ∈ selectors, matcher.Accepts selector
  | .fallback _ => True

instance (matcher : Matcher) : DecidablePred (Request.Valid matcher)
  | .rules list => inferInstanceAs (Decidable (∀ rule ∈ list, rule.Valid matcher))
  | .ruleDrafts drafts => inferInstanceAs (Decidable (∀ draft ∈ drafts, draft.Valid matcher))
  | .placeholders _ => inferInstanceAs (Decidable True)
  | .placeholderDrafts drafts => inferInstanceAs (Decidable (∀ draft ∈ drafts, draft.Valid))
  | .ignore selectors =>
    inferInstanceAs (Decidable (∀ selector ∈ selectors, matcher.Accepts selector))
  | .fallback _ => inferInstanceAs (Decidable True)

/-! ## Faults -/

/-- A selector has no fault exactly if it is accepted. -/
theorem Matcher.fault?_eq_none_iff {matcher : Matcher} {selector : String} :
    matcher.fault? selector = none ↔ matcher.Accepts selector := by
  unfold Matcher.fault? Matcher.Accepts
  cases Text.allBlank selector <;> cases matcher.check selector <;>
    simp [Except.isOk, Except.toBool]

/-- A rule has no fault exactly if it is valid. -/
theorem Rule.fault?_eq_none_iff {matcher : Matcher} {rule : Rule} :
    rule.fault? matcher = none ↔ rule.Valid matcher := by
  unfold Rule.fault? Rule.Valid
  by_cases hb : Text.allBlank rule.selector = true
  · simp [hb, Matcher.Accepts]
  · by_cases hs : rule.source? = some ""
    · simp [hb, hs]
    · simp [hb, hs, Matcher.fault?_eq_none_iff]

namespace Registry

/-- Rules pass the check exactly if all of them are valid. -/
theorem checkRules_eq_ok_iff {matcher : Matcher} {rules : List Rule} :
    checkRules matcher rules = .ok () ↔ ∀ rule ∈ rules, rule.Valid matcher := by
  induction rules with
  | nil => simp [checkRules]
  | cons rule rules ih =>
    rw [checkRules, List.forall_mem_cons, ← Rule.fault?_eq_none_iff]
    cases rule.fault? matcher <;> simp [ih]

/-- Selectors to ignore pass the check exactly if all of them are accepted. -/
theorem checkIgnored_eq_ok_iff {matcher : Matcher} {selectors : List String} :
    checkIgnored matcher selectors = .ok () ↔
      ∀ selector ∈ selectors, matcher.Accepts selector := by
  induction selectors with
  | nil => simp [checkIgnored]
  | cons selector selectors ih =>
    rw [checkIgnored, List.forall_mem_cons, ← Matcher.fault?_eq_none_iff]
    cases matcher.fault? selector <;> simp [ih]

end Registry

/-! ## Drafts -/

/-- The rule that a draft describes, with nothing in the place of what is missing. -/
def RuleDraft.filled (draft : RuleDraft) : Rule :=
  .template (draft.selector.getD "") (draft.template.getD "")

/-- A draft is complete if it has a selector with something but blanks and a template. -/
def RuleDraft.Complete (draft : RuleDraft) : Prop :=
  Text.allBlank (draft.selector.getD "") = false ∧ draft.template.getD "" ≠ ""

/-- The placeholder that a draft describes, with nothing in the place of what is missing. -/
def PlaceholderDraft.filled (draft : PlaceholderDraft) : Placeholder :=
  ⟨draft.pattern.getD "", draft.replacement.getD ""⟩

/-- A draft describes a rule exactly if it is complete. -/
theorem RuleDraft.rule_eq_ok_iff {draft : RuleDraft} {rule : Rule} :
    draft.rule = .ok rule ↔ draft.Complete ∧ rule = draft.filled := by
  unfold RuleDraft.rule RuleDraft.Complete RuleDraft.filled
  cases hb : Text.allBlank (draft.selector.getD "") with
  | true => simp [hb]
  | false =>
    cases draft.template with
    | none => simp [hb]
    | some source => by_cases hs : source = "" <;> simp [hb, hs, eq_comm]

/-- A draft describes a placeholder exactly if it has both parts. -/
theorem PlaceholderDraft.placeholder_eq_ok_iff {draft : PlaceholderDraft}
    {placeholder : Placeholder} :
    draft.placeholder = .ok placeholder ↔ draft.Valid ∧ placeholder = draft.filled := by
  unfold PlaceholderDraft.placeholder PlaceholderDraft.Valid PlaceholderDraft.filled
  cases draft.pattern <;> cases draft.replacement <;> simp [eq_comm]

/-- A draft is valid exactly if it is complete and the rule that it describes is valid. -/
theorem RuleDraft.valid_iff {matcher : Matcher} {draft : RuleDraft} :
    draft.Valid matcher ↔ draft.Complete ∧ draft.filled.Valid matcher := by
  have hblank : Text.allBlank "" = true := rfl
  rcases draft with ⟨_ | selector, _ | source⟩
  · simp [RuleDraft.Valid, RuleDraft.Complete, hblank]
  · simp [RuleDraft.Valid, RuleDraft.Complete, hblank]
  · simp [RuleDraft.Valid, RuleDraft.Complete]
  · simp only [RuleDraft.Valid, RuleDraft.Complete, RuleDraft.filled, Rule.Valid, Matcher.Accepts,
      Rule.template, Rule.source?, Template.parse, Option.mem_def, Option.some.injEq,
      Option.getD_some, exists_eq_left', ne_eq]
    tauto

namespace Registry

/-- Drafts are read exactly if all of them are complete. -/
theorem readRules_eq_ok_iff {drafts : List RuleDraft} {rules : List Rule} :
    readRules drafts = .ok rules ↔
      (∀ draft ∈ drafts, draft.Complete) ∧ rules = drafts.map RuleDraft.filled := by
  have hmap : readRules drafts = drafts.mapM fun draft =>
      draft.rule.mapError (.invalidRule (draft.selector.getD "")) := by
    induction drafts with
    | nil => rfl
    | cons draft drafts ih =>
      rw [readRules, List.mapM_cons, ih]
      cases draft.rule <;> rfl
  rw [hmap, mapM_eq_ok_iff]
  intro draft rule
  rw [← RuleDraft.rule_eq_ok_iff]
  cases draft.rule <;> simp [Except.mapError]

/-- Drafts of placeholders are read exactly if all of them have both parts. -/
theorem readPlaceholders_eq_ok_iff {drafts : List PlaceholderDraft} {list : List Placeholder} :
    readPlaceholders drafts = .ok list ↔
      (∀ draft ∈ drafts, draft.Valid) ∧ list = drafts.map PlaceholderDraft.filled := by
  have hmap : readPlaceholders drafts = drafts.mapM fun draft =>
      draft.placeholder.mapError .invalidPlaceholder := by
    induction drafts with
    | nil => rfl
    | cons draft drafts ih =>
      rw [readPlaceholders, List.mapM_cons, ih]
      cases draft.placeholder <;> rfl
  rw [hmap, mapM_eq_ok_iff]
  intro draft placeholder
  rw [← PlaceholderDraft.placeholder_eq_ok_iff]
  cases draft.placeholder <;> simp [Except.mapError]

end Registry

/-! ## What requests list -/

namespace Request

/-- The rules that a request lists. -/
def newRules : Request → List Rule
  | .rules list => list
  | .ruleDrafts drafts => drafts.map RuleDraft.filled
  | _ => []

/-- The placeholders that a request lists. -/
def newPlaceholders : Request → List Placeholder
  | .placeholders list => list
  | .placeholderDrafts drafts => drafts.map PlaceholderDraft.filled
  | _ => []

/-- The selectors to ignore that a request lists. -/
def newIgnored : Request → List String
  | .ignore selectors => selectors
  | _ => []

/-- The fallback that a request sets. -/
def newFallback? : Request → Option Formatter
  | .fallback formatter => some formatter
  | _ => none

end Request

namespace Registry

/-- The registry with what a request lists, valid or not. -/
def enlarge (registry : Registry) (request : Request) : Registry where
  rules := registry.rules ++ request.newRules
  placeholders := registry.placeholders.insertAll request.newPlaceholders
  ignored := request.newIgnored.foldl addSelector registry.ignored
  fallback := request.newFallback?.or registry.fallback

variable {matcher : Matcher} {registry changed : Registry} {request : Request}

/-- Rules are put in behind those that are there. -/
theorem enlarge_rules (rules : List Rule) :
    registry.enlarge (.rules rules) = registry.addRules rules := rfl

/-- Drafts put in the rules that they describe. -/
theorem enlarge_ruleDrafts (drafts : List RuleDraft) :
    registry.enlarge (.ruleDrafts drafts) = registry.addRules (drafts.map RuleDraft.filled) := rfl

/-- Placeholders are put in one after the other. -/
theorem enlarge_placeholders (list : List Placeholder) :
    registry.enlarge (.placeholders list) = registry.addPlaceholders list := by
  simp only [enlarge, Request.newRules, List.append_nil]
  rfl

/-- Drafts put in the placeholders that they describe. -/
theorem enlarge_placeholderDrafts (drafts : List PlaceholderDraft) :
    registry.enlarge (.placeholderDrafts drafts) =
      registry.addPlaceholders (drafts.map PlaceholderDraft.filled) := by
  simp only [enlarge, Request.newRules, List.append_nil]
  rfl

/-- Selectors to ignore are put in one after the other. -/
theorem enlarge_ignore (selectors : List String) :
    registry.enlarge (.ignore selectors) = registry.addIgnored selectors := by
  simp only [enlarge, Request.newRules, List.append_nil]
  rfl

/-- A fallback takes the place of another. -/
theorem enlarge_fallback (formatter : Formatter) :
    registry.enlarge (.fallback formatter) = registry.setFallback formatter := by
  simp only [enlarge, Request.newRules, List.append_nil]
  rfl

/-! ## What becomes of a request -/

/-- Rules are registered exactly if all of them are valid. -/
theorem register_eq_ok_iff {rules : List Rule} :
    registry.register matcher rules = .ok changed ↔
      (∀ rule ∈ rules, rule.Valid matcher) ∧ changed = registry.addRules rules := by
  rw [← checkRules_eq_ok_iff, register]
  cases checkRules matcher rules <;> simp [Except.map, eq_comm]

/-- Drafts of rules are registered exactly if all of them are valid. -/
theorem registerDrafts_eq_ok_iff {drafts : List RuleDraft} :
    registry.registerDrafts matcher drafts = .ok changed ↔
      (∀ draft ∈ drafts, draft.Valid matcher) ∧
        changed = registry.addRules (drafts.map RuleDraft.filled) := by
  -- The drafts are all read before the first rule is checked, so validity is split in two.
  have hvalid : (∀ draft ∈ drafts, draft.Valid matcher) ↔
      (∀ draft ∈ drafts, draft.Complete) ∧
        ∀ rule ∈ drafts.map RuleDraft.filled, rule.Valid matcher := by
    simp only [RuleDraft.valid_iff, List.forall_mem_map, ← forall₂_and]
  rw [hvalid, registerDrafts]
  cases hr : readRules drafts with
  | error refusal =>
    have hn : ¬ ∀ draft ∈ drafts, draft.Complete := fun h => by
      simp [readRules_eq_ok_iff.mpr ⟨h, rfl⟩] at hr
    simp [hn]
  | ok rules =>
    obtain ⟨hall, rfl⟩ := readRules_eq_ok_iff.mp hr
    rw [register_eq_ok_iff, and_assoc, and_iff_right hall]

/-- Drafts of placeholders are put in exactly if all of them have both parts. -/
theorem addDraftedPlaceholders_eq_ok_iff {drafts : List PlaceholderDraft} :
    registry.addDraftedPlaceholders drafts = .ok changed ↔
      (∀ draft ∈ drafts, draft.Valid) ∧
        changed = registry.addPlaceholders (drafts.map PlaceholderDraft.filled) := by
  rw [addDraftedPlaceholders]
  cases hr : readPlaceholders drafts with
  | error refusal =>
    have hn : ¬ ∀ draft ∈ drafts, draft.Valid := fun h => by
      simp [readPlaceholders_eq_ok_iff.mpr ⟨h, rfl⟩] at hr
    simp [Except.map, hn]
  | ok list =>
    obtain ⟨hall, rfl⟩ := readPlaceholders_eq_ok_iff.mp hr
    rw [and_iff_right hall]
    simp [Except.map, eq_comm]

/-- Selectors to ignore are put in exactly if all of them are accepted. -/
theorem ignore_eq_ok_iff {selectors : List String} :
    registry.ignore matcher selectors = .ok changed ↔
      (∀ selector ∈ selectors, matcher.Accepts selector) ∧
        changed = registry.addIgnored selectors := by
  rw [← checkIgnored_eq_ok_iff, ignore]
  cases checkIgnored matcher selectors <;> simp [Except.map, eq_comm]

/-- A request is carried out exactly if it is valid, and then what it lists is put in. -/
theorem handle_eq_ok_iff :
    registry.handle matcher request = .ok changed ↔
      request.Valid matcher ∧ changed = registry.enlarge request := by
  cases request with
  | rules rules =>
    rw [handle, register_eq_ok_iff, enlarge_rules]
    rfl
  | ruleDrafts drafts =>
    rw [handle, registerDrafts_eq_ok_iff, enlarge_ruleDrafts]
    rfl
  | placeholders list =>
    simp [handle, Request.Valid, enlarge_placeholders, eq_comm]
  | placeholderDrafts drafts =>
    rw [handle, addDraftedPlaceholders_eq_ok_iff, enlarge_placeholderDrafts]
    rfl
  | ignore selectors =>
    rw [handle, ignore_eq_ok_iff, enlarge_ignore]
    rfl
  | fallback formatter =>
    simp [handle, Request.Valid, enlarge_fallback, eq_comm]

/-- A request is refused exactly if it is not valid. -/
theorem exists_handle_eq_error_iff :
    (∃ refusal, registry.handle matcher request = .error refusal) ↔ ¬ request.Valid matcher := by
  cases hh : registry.handle matcher request with
  | error refusal =>
    have hn : ¬ request.Valid matcher := fun h => by
      simp [handle_eq_ok_iff.mpr ⟨h, rfl⟩] at hh
    simp [hn]
  | ok changed =>
    have hv : request.Valid matcher := (handle_eq_ok_iff.mp hh).1
    simp [hv]

/-- A request puts in what it lists if it is valid, and otherwise it changes nothing. -/
theorem step_eq_ite :
    registry.step matcher request =
      if request.Valid matcher then registry.enlarge request else registry := by
  rw [step]
  cases hh : registry.handle matcher request with
  | error refusal => rw [if_neg (exists_handle_eq_error_iff.mp ⟨refusal, hh⟩)]
  | ok changed =>
    obtain ⟨hv, rfl⟩ := handle_eq_ok_iff.mp hh
    rw [if_pos hv]

end Registry

end TreeText
