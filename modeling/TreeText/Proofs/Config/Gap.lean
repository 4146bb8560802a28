/-
# Gaps in configurations that can be applied

The check for gaps and the registration each have a notion of what is missing. They agree on
selectors and on placeholders. On templates they do not: the check takes a template of blanks for a
missing one, whereas such a template can be registered.

* `Config.build_eq_ok_iff` says which configurations can be applied to a new converter.
* `Config.findSome?_ruleGap?`, `Config.findSome?_placeholderGap?` and `Config.findSome?_ignoredGap?`
  look for gaps in their lists.
-/
import TreeText.Proofs.Config.Apply

namespace TreeText.Config

/-! ## Building converters -/

/-- A configuration describes a converter exactly if everything in it can be registered. -/
theorem build_eq_ok_iff [Css.Language] {config : Config} {converter : Converter} :
    config.build = .ok converter ↔
      config.Registrable ∧ converter = config.requests.foldl Converter.enlarge .new := by
  unfold build
  by_cases hall : config.Registrable
  · rw [run_apply_of_registrable hall]
    simp [hall, eq_comm]
  · obtain ⟨refusal, hrefused⟩ := exists_run_apply_of_not_registrable hall .new
    rw [hrefused]
    simp [hall]

/-! ## Entries -/

/-- The only gap in the draft of a valid rule is a template of blanks. -/
theorem ruleGap?_of_valid {matcher : Matcher} {draft : RuleDraft} (hvalid : draft.Valid matcher)
    (index : Nat) :
    ruleGap? draft index = if isBlank draft.template then some (.ruleTemplate index) else none := by
  obtain ⟨⟨selector, hselector, haccepts⟩, -⟩ := hvalid
  rw [Option.mem_def] at hselector
  have hfull : isBlank draft.selector = false := by simp [isBlank, hselector, haccepts.1]
  rw [ruleGap?, hfull]
  rfl

/-- A draft with both parts has no gap, even if the parts are empty. -/
theorem placeholderGap?_of_valid {draft : PlaceholderDraft} (hvalid : draft.Valid) (index : Nat) :
    placeholderGap? draft index = none := by
  obtain ⟨hpattern, hreplacement⟩ := hvalid
  rw [placeholderGap?, Option.isNone_eq_false_iff.mpr hpattern,
    Option.isNone_eq_false_iff.mpr hreplacement]
  rfl

/-- An accepted selector leaves no gap. -/
theorem ignoredGap?_of_accepts {matcher : Matcher} {selector : String}
    (haccepts : matcher.Accepts selector) (index : Nat) : ignoredGap? selector index = none := by
  simp [ignoredGap?, haccepts.1]

/-! ## Lists of entries -/

/-- The first gap in the drafts of valid rules is the first template of blanks. -/
theorem findSome?_ruleGap? {matcher : Matcher} {drafts : List RuleDraft}
    (hvalid : ∀ draft ∈ drafts, draft.Valid matcher) (start : Nat) :
    ((drafts.zipIdx start).findSome? fun entry => ruleGap? entry.1 entry.2) =
      (drafts.findIdx? fun draft => isBlank draft.template).map (.ruleTemplate <| start + ·) := by
  induction drafts generalizing start with
  | nil => rfl
  | cons draft drafts ih =>
    obtain ⟨hdraft, hdrafts⟩ := List.forall_mem_cons.mp hvalid
    rw [List.zipIdx_cons, List.findSome?_cons, List.findIdx?_cons, ruleGap?_of_valid hdraft]
    cases isBlank draft.template with
    | true => rfl
    | false =>
      -- The places in the rest count from the one after `start`.
      have hplace : ∀ index, start + 1 + index = start + (index + 1) := by omega
      simp [ih hdrafts, Function.comp_def, hplace]

/-- There is no gap in the drafts of placeholders that have both parts. -/
theorem findSome?_placeholderGap? {drafts : List PlaceholderDraft}
    (hvalid : ∀ draft ∈ drafts, draft.Valid) :
    (drafts.zipIdx.findSome? fun entry => placeholderGap? entry.1 entry.2) = none := by
  refine List.findSome?_eq_none_iff.mpr fun entry hentry => ?_
  exact placeholderGap?_of_valid (hvalid entry.1 (List.fst_mem_of_mem_zipIdx hentry)) entry.2

/-- There is no gap in accepted selectors. -/
theorem findSome?_ignoredGap? {matcher : Matcher} {selectors : List String}
    (haccepts : ∀ selector ∈ selectors, matcher.Accepts selector) :
    (selectors.zipIdx.findSome? fun entry => ignoredGap? entry.1 entry.2) = none := by
  refine List.findSome?_eq_none_iff.mpr fun entry hentry => ?_
  exact ignoredGap?_of_accepts (haccepts entry.1 (List.fst_mem_of_mem_zipIdx hentry)) entry.2

/-! ## Configurations -/

/-- The gaps are looked for in one list after the other. -/
theorem gap?_eq (config : Config) :
    config.gap? =
      ((config.rules.zipIdx.findSome? fun entry => ruleGap? entry.1 entry.2) <|>
        (config.placeholders.zipIdx.findSome? fun entry => placeholderGap? entry.1 entry.2) <|>
        config.ignored.zipIdx.findSome? fun entry => ignoredGap? entry.1 entry.2) := rfl

/-- The first gap in a configuration that can be applied is its first template of blanks; so it has
no gap exactly if every template has something but blanks. -/
theorem gap?_of_build [Css.Language] {config : Config} {converter : Converter}
    (hbuild : config.build = .ok converter) :
    (config.gap? = none ↔ ∀ draft ∈ config.rules, isBlank draft.template = false) ∧
      config.gap? =
        (config.rules.findIdx? fun draft => isBlank draft.template).map .ruleTemplate := by
  obtain ⟨⟨hplaceholders, hignored, hrules⟩, -⟩ := build_eq_ok_iff.mp hbuild
  have hgap : config.gap? =
      (config.rules.findIdx? fun draft => isBlank draft.template).map .ruleTemplate := by
    rw [gap?_eq, findSome?_placeholderGap? hplaceholders, findSome?_ignoredGap? hignored,
      findSome?_ruleGap? hrules 0]
    simp
  refine ⟨?_, hgap⟩
  rw [hgap, Option.map_eq_none_iff, List.findIdx?_eq_none_iff]

/-- The second of two rules has a template of blanks. -/
theorem gap?_of_build_of_blank_template :
    let config : Config :=
      ⟨.standard, [], [⟨some "p", some "x"⟩, ⟨some "br", some "\n"⟩], [], none⟩
    (∃ converter, config.build = .ok converter) ∧ config.gap? = some (.ruleTemplate 1) := by
  intro config
  have hbuild := build_eq_ok_iff.mpr ⟨(by decide +kernel : config.Registrable), rfl⟩
  exact ⟨⟨_, hbuild⟩, (gap?_of_build hbuild).2⟩

/-- A rule with a line break for a template can be registered, and is a gap. -/
theorem gap?_ne_none_of_build :
    ¬ ∀ (config : Config) (converter : Converter), config.build = .ok converter →
      config.gap? = none := by
  intro h
  let config : Config := ⟨.standard, [], [⟨some "br", some "\n"⟩], [], none⟩
  have hbuild := build_eq_ok_iff.mpr ⟨(by decide +kernel : config.Registrable), rfl⟩
  have hgap : config.gap? = some (.ruleTemplate 0) := by decide
  exact Option.some_ne_none _ (hgap.symm.trans (h config _ hbuild))

end TreeText.Config
