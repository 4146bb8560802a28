/-
# Building from a configuration that was loaded

A configuration that was loaded has no gap. Registration looks for missing parts once more, in its
own way, and finds none: the only thing that it can refuse is a selector that cannot be read. If all
can be read, the converter holds what the configuration lists, and nothing else.

* `Config.gap?_of_load` says that there is no gap, whatever is found where, and
  `Config.gap?_eq_none_iff` what this means for the entries.
* `Config.exists_of_build_eq_error` says what is refused, and `Config.build_of_accepted` what is
  built.
* `Config.build_loaded` puts them together.
-/
import TreeText.Proofs.Config.Found
import TreeText.Proofs.Config.Gap
import TreeText.Proofs.Registry.History

namespace TreeText

/-! ## Checks that fail -/

namespace Registry

variable {matcher : Matcher} {refusal : Refusal}

/-- A check that goes through a list and stops at the first refusal fails with that of an entry. -/
theorem exists_of_check_eq_error {α : Type} {check : List α → Except Refusal Unit}
    {refusal? : α → Option Refusal} (hnil : check [] = .ok ())
    (hcons : ∀ entry entries,
      check (entry :: entries) = (refusal? entry).elim (check entries) .error)
    {entries : List α} (h : check entries = .error refusal) :
    ∃ entry ∈ entries, refusal? entry = some refusal := by
  induction entries with
  | nil =>
    rw [hnil] at h
    cases h
  | cons entry entries ih =>
    rw [hcons] at h
    cases hentry : refusal? entry with
    | some other =>
      rw [hentry] at h
      cases h
      exact ⟨entry, List.mem_cons_self, hentry⟩
    | none =>
      rw [hentry] at h
      obtain ⟨other, hm, hother⟩ := ih h
      exact ⟨other, List.mem_cons_of_mem _ hm, hother⟩

/-- A check of rules fails with the fault of one of them. -/
theorem exists_of_checkRules_eq_error {rules : List Rule}
    (h : checkRules matcher rules = .error refusal) :
    ∃ rule ∈ rules, ∃ fault, rule.fault? matcher = some fault ∧
      .invalidRule rule.selector fault = refusal := by
  have hcons : ∀ rule rules, checkRules matcher (rule :: rules) =
      ((rule.fault? matcher).map (.invalidRule rule.selector)).elim (checkRules matcher rules)
        .error := by
    intro rule rules
    rw [checkRules]
    cases rule.fault? matcher <;> rfl
  obtain ⟨rule, hm, hrule⟩ := exists_of_check_eq_error rfl hcons h
  exact ⟨rule, hm, Option.map_eq_some_iff.1 hrule⟩

/-- A check of selectors to ignore fails with the fault of one of them. -/
theorem exists_of_checkIgnored_eq_error {selectors : List String}
    (h : checkIgnored matcher selectors = .error refusal) :
    ∃ selector ∈ selectors, ∃ fault, matcher.fault? selector = some fault ∧
      .invalidIgnore selector fault = refusal := by
  have hcons : ∀ selector selectors, checkIgnored matcher (selector :: selectors) =
      ((matcher.fault? selector).map (.invalidIgnore selector)).elim
        (checkIgnored matcher selectors) .error := by
    intro selector selectors
    rw [checkIgnored]
    cases matcher.fault? selector <;> rfl
  obtain ⟨selector, hm, hselector⟩ := exists_of_check_eq_error rfl hcons h
  exact ⟨selector, hm, Option.map_eq_some_iff.1 hselector⟩

end Registry

/-- The fault of a selector that is not blank is that the matcher refuses it. -/
theorem Matcher.exists_refused_of_fault? {matcher : Matcher} {selector : String}
    {fault : SelectorFault} (hb : Text.allBlank selector = false)
    (h : matcher.fault? selector = some fault) :
    ∃ reason, matcher.check selector = .error reason ∧ fault = .refused reason := by
  rw [fault?, hb] at h
  cases hcheck : matcher.check selector with
  | ok value =>
    rw [hcheck] at h
    cases h
  | error reason =>
    rw [hcheck] at h
    cases h
    exact ⟨reason, rfl, rfl⟩

/-! ## Drafts -/

/-- The draft of a rule, without a template if the rule has none. -/
def Rule.draft (rule : Rule) : RuleDraft :=
  ⟨some rule.selector, rule.source?⟩

/-- The draft of a placeholder. -/
def Placeholder.draft (placeholder : Placeholder) : PlaceholderDraft :=
  ⟨some placeholder.pattern, some placeholder.replacement⟩

/-- A draft without gaps has a selector and a template, and neither is blank. -/
def RuleDraft.Full (draft : RuleDraft) : Prop :=
  Config.isBlank draft.selector = false ∧ Config.isBlank draft.template = false

/-- A draft without gaps is the draft of the rule that it describes. -/
theorem RuleDraft.Full.draft_filled {draft : RuleDraft} (h : draft.Full) :
    draft.filled.draft = draft := by
  obtain ⟨hselector, htemplate⟩ := h
  obtain ⟨_ | selector, _ | source⟩ := draft
  · cases hselector
  · cases hselector
  · cases htemplate
  · rfl

/-- A draft without gaps is complete. -/
theorem RuleDraft.Full.complete {draft : RuleDraft} (h : draft.Full) : draft.Complete := by
  obtain ⟨hselector, htemplate⟩ := h
  obtain ⟨_ | selector, _ | source⟩ := draft
  · cases hselector
  · cases hselector
  · cases htemplate
  · have hsource : Text.allBlank source = false := htemplate
    refine ⟨hselector, ?_⟩
    rintro rfl
    cases hsource

/-- The fault of a rule whose draft has no gaps is that the matcher refuses its selector. -/
theorem RuleDraft.Full.exists_refused_of_fault? {matcher : Matcher} {draft : RuleDraft}
    (h : draft.Full) {fault : RuleFault} (hfault : draft.filled.fault? matcher = some fault) :
    ∃ reason, matcher.check draft.filled.selector = .error reason ∧
      fault = .selector (.refused reason) := by
  obtain ⟨hblank, hsource⟩ : Text.allBlank draft.filled.selector = false ∧
    draft.template.getD "" ≠ "" := h.complete
  have hfull : ¬draft.filled.source? = some "" := fun he => hsource (Option.some.inj he)
  rw [Rule.fault?, hblank, if_neg Bool.false_ne_true, if_neg hfull] at hfault
  obtain ⟨inner, hinner, rfl⟩ := Option.map_eq_some_iff.1 hfault
  obtain ⟨reason, hcheck, rfl⟩ := Matcher.exists_refused_of_fault? hblank hinner
  exact ⟨reason, hcheck, rfl⟩

/-- A draft without gaps is valid if the matcher does not refuse its selector. -/
theorem RuleDraft.Full.valid {matcher : Matcher} {draft : RuleDraft} (h : draft.Full)
    (hcheck : (matcher.check draft.filled.selector).isOk = true) : draft.Valid matcher := by
  obtain ⟨hblank, hsource⟩ := h.complete
  refine RuleDraft.valid_iff.2 ⟨h.complete, ⟨hblank, hcheck⟩, ?_⟩
  exact fun he => hsource (Option.some.inj he)

/-- A draft with both parts is the draft of the placeholder that it describes. -/
theorem PlaceholderDraft.Valid.draft_filled {draft : PlaceholderDraft} (h : draft.Valid) :
    draft.filled.draft = draft := by
  obtain ⟨hpattern, hreplacement⟩ := h
  obtain ⟨_ | pattern, _ | replacement⟩ := draft
  · cases hpattern
  · cases hpattern
  · cases hreplacement
  · rfl

namespace Config

/-! ## Configurations without gaps -/

/-- Nothing is missing in a list exactly if nothing is missing in its entries, whatever their
places are. -/
theorem findSome?_zipIdx_eq_none_iff {α : Type} {gap? : α → Nat → Option Gap} {Full : α → Prop}
    (hgap : ∀ entry index, gap? entry index = none ↔ Full entry) (list : List α) :
    (list.zipIdx.findSome? fun entry => gap? entry.1 entry.2) = none ↔
      ∀ entry ∈ list, Full entry := by
  rw [List.findSome?_eq_none_iff]
  constructor
  · intro h entry hm
    obtain ⟨index, hindex⟩ := List.getElem?_of_mem hm
    exact (hgap entry index).1 (h (entry, index) (List.mk_mem_zipIdx_iff_getElem?.2 hindex))
  · intro h entry hm
    exact (hgap entry.1 entry.2).2 (h entry.1 (List.fst_mem_of_mem_zipIdx hm))

/-- There is no gap exactly if all drafts of rules have a selector and a template which are not
blank, all drafts of placeholders have both parts, and no selector to ignore is blank. -/
theorem gap?_eq_none_iff {config : Config} :
    config.gap? = none ↔
      (∀ draft ∈ config.rules, draft.Full) ∧ (∀ draft ∈ config.placeholders, draft.Valid) ∧
        ∀ selector ∈ config.ignored, Text.allBlank selector = false := by
  have hrule : ∀ draft index, ruleGap? draft index = none ↔ draft.Full := by
    intro draft index
    unfold ruleGap? RuleDraft.Full
    cases isBlank draft.selector <;> cases isBlank draft.template <;> simp
  have hplaceholder : ∀ draft index, placeholderGap? draft index = none ↔ draft.Valid := by
    intro draft index
    unfold placeholderGap? PlaceholderDraft.Valid
    cases draft.pattern <;> cases draft.replacement <;> simp
  have hignored : ∀ selector index,
      ignoredGap? selector index = none ↔ Text.allBlank selector = false := by
    intro selector index
    unfold ignoredGap?
    cases Text.allBlank selector <;> simp
  have hfirst : ∀ first second : Option Gap,
      (first <|> second) = none ↔ first = none ∧ second = none := by
    intro first second
    cases first <;> simp
  rw [gap?_eq, hfirst, hfirst, findSome?_zipIdx_eq_none_iff hrule,
    findSome?_zipIdx_eq_none_iff hplaceholder, findSome?_zipIdx_eq_none_iff hignored]

/-- A configuration that was read from a file has no gap. -/
theorem gap?_of_ofFile [Toml.Reader] {path : String} {content : List UInt8} {config : Config}
    (h : ofFile path content = .ok config) : config.gap? = none := by
  unfold ofFile at h
  cases hdecode : Text.Utf8.decode content with
  | error fault =>
    rw [hdecode] at h
    cases h
  | ok document =>
    rw [hdecode] at h
    cases hread : ofToml document with
    | error error =>
      simp only [hread] at h
      cases h
    | ok written =>
      simp only [hread] at h
      cases hgap : written.gap? with
      | some gap =>
        rw [hgap] at h
        cases h
      | none =>
        rw [hgap] at h
        cases h
        exact hgap

/-- Neither has one that was made of the answer when a file was read. -/
theorem gap?_of_ofAnswer [Toml.Reader] {path : String} {overrides : Overrides}
    {answer : Except FileFault (List UInt8)} {config : Config}
    (h : ofAnswer path overrides answer = .ok config) : config.gap? = none := by
  cases answer with
  | error fault => cases h
  | ok content =>
    rw [ofAnswer] at h
    cases hfile : ofFile path content with
    | error error =>
      rw [hfile] at h
      cases h
    | ok written =>
      rw [hfile] at h
      cases h
      have hgap : written.gap? = none := gap?_of_ofFile hfile
      exact hgap

/-- A configuration that was loaded has no gap, wherever it was looked for and whatever was found
there. -/
theorem gap?_of_load [Toml.Reader] {σ : Type} (host : Host (StateM σ)) (state : σ)
    (path? : Option String) (overrides : Overrides) {config : Config}
    (h : ((load host path? overrides).run state).1 = .ok config) : config.gap? = none := by
  rw [run_load_eq] at h
  generalize (find host path?).run state = found at h
  obtain ⟨error | (_ | path), after⟩ := found
  · cases h
  · -- Nothing was found: the standard configuration has no entries.
    cases h
    rfl
  · exact gap?_of_ofAnswer h

/-! ## What is refused -/

variable {config : Config}

/-- The selector of the rule that a draft without gaps describes is that of the draft. -/
theorem mem_selectors_of_full {draft : RuleDraft} (hm : draft ∈ config.rules) (h : draft.Full) :
    some draft.filled.selector ∈ config.rules.map RuleDraft.selector :=
  List.mem_map.2 ⟨draft, hm, congrArg RuleDraft.selector h.draft_filled.symm⟩

section

variable [Css.Language]

/-- A configuration with complete placeholders is refused for a selector to ignore first. -/
theorem build_of_checkIgnored_eq_error {list : List Placeholder} {refusal : Refusal}
    (hread : Registry.readPlaceholders config.placeholders = .ok list)
    (hignored : Registry.checkIgnored Css.matcher config.ignored = .error refusal) :
    config.build = .error refusal := by
  simp only [build, apply, Registration.run_bind, Registration.run_ofExcept, hread, hignored]

/-- If there is nothing to refuse in its placeholders and in what it ignores, a configuration with
complete rules is refused for the first of them that has a fault. -/
theorem build_of_checkRules_eq_error {list : List Placeholder} {rules : List Rule}
    {refusal : Refusal} (hread : Registry.readPlaceholders config.placeholders = .ok list)
    (hignored : Registry.checkIgnored Css.matcher config.ignored = .ok ())
    (hrules : Registry.readRules config.rules = .ok rules)
    (hchecked : Registry.checkRules Css.matcher rules = .error refusal) :
    config.build = .error refusal := by
  have hhandle : Converter.new.handle (.ruleDrafts config.rules) = .error refusal := by
    simp only [Converter.handle, Registry.handle, Registry.registerDrafts, hrules,
      Registry.register, hchecked, Except.map]
  simp only [build, apply, Registration.run_bind, Registration.run_ofExcept, hread, hignored,
    Registration.run_request, hhandle]

/-- Without gaps, a configuration is refused for a selector that the matcher refuses, one of a rule
or one to ignore. -/
theorem exists_of_build_eq_error (hgap : config.gap? = none) {refusal : Refusal}
    (h : config.build = .error refusal) :
    ∃ selector reason, Css.matcher.check selector = .error reason ∧
      (refusal = .invalidRule selector (.selector (.refused reason)) ∧
          some selector ∈ config.rules.map RuleDraft.selector ∨
        refusal = .invalidIgnore selector (.refused reason) ∧ selector ∈ config.ignored) := by
  obtain ⟨hrules, hplaceholders, hblank⟩ := gap?_eq_none_iff.1 hgap
  have hread := Registry.readPlaceholders_eq_ok_iff.2 ⟨hplaceholders, rfl⟩
  cases hignored : Registry.checkIgnored Css.matcher config.ignored with
  | error other =>
    have hbuild := build_of_checkIgnored_eq_error hread hignored
    obtain rfl : refusal = other := Except.error.inj (h.symm.trans hbuild)
    obtain ⟨selector, hm, fault, hfault, rfl⟩ := Registry.exists_of_checkIgnored_eq_error hignored
    obtain ⟨reason, hcheck, rfl⟩ := Matcher.exists_refused_of_fault? (hblank selector hm) hfault
    exact ⟨selector, reason, hcheck, Or.inr ⟨rfl, hm⟩⟩
  | ok _ =>
    cases hchecked : Registry.checkRules Css.matcher (config.rules.map RuleDraft.filled) with
    | error other =>
      have hcomplete := Registry.readRules_eq_ok_iff.2
        ⟨fun draft hm => (hrules draft hm).complete, rfl⟩
      have hbuild := build_of_checkRules_eq_error hread hignored hcomplete hchecked
      obtain rfl : refusal = other := Except.error.inj (h.symm.trans hbuild)
      obtain ⟨rule, hrule, fault, hfault, rfl⟩ := Registry.exists_of_checkRules_eq_error hchecked
      obtain ⟨draft, hm, rfl⟩ := List.mem_map.1 hrule
      obtain ⟨reason, hcheck, rfl⟩ := (hrules draft hm).exists_refused_of_fault? hfault
      exact ⟨_, reason, hcheck, Or.inl ⟨rfl, mem_selectors_of_full hm (hrules draft hm)⟩⟩
    | ok _ =>
      -- Everything can be registered, so that nothing is refused.
      have hvalid : ∀ draft ∈ config.rules, draft.Valid Css.matcher := by
        intro draft hm
        have hrule := Registry.checkRules_eq_ok_iff.1 hchecked _ (List.mem_map_of_mem hm)
        exact (hrules draft hm).valid hrule.1.2
      have hall : config.Registrable :=
        ⟨hplaceholders, Registry.checkIgnored_eq_ok_iff.1 hignored, hvalid⟩
      have hbuild := build_eq_ok_iff.2 ⟨hall, rfl⟩
      cases h.symm.trans hbuild

/-! ## What is built -/

/-- The requests of a configuration make up what it lists. -/
theorem foldl_enlarge_requests (config : Config) :
    config.requests.foldl Converter.enlarge .new =
      ⟨⟨config.rules.map RuleDraft.filled,
        .collected (config.placeholders.map PlaceholderDraft.filled), config.ignored.eraseDups,
        none⟩, .empty⟩ := by
  have hregistry := Registry.foldl_enlarge_empty config.requests
  rw [Converter.foldl_enlarge]
  show Converter.mk (config.requests.foldl Registry.enlarge .empty) .empty = _
  rw [hregistry]
  simp [Registry.collected, requests, Request.newRules, Request.newPlaceholders,
    Request.newIgnored, Request.newFallback?]

/-- Without gaps, a configuration whose selectors are all accepted describes a converter: its rules
are those of the configuration in their order; each pattern is where it is first, with the
replacement that is last; each selector to ignore is where it is first; and there is no fallback. -/
theorem build_of_accepted (hgap : config.gap? = none)
    (hrules : ∀ selector, some selector ∈ config.rules.map RuleDraft.selector →
      (Css.matcher.check selector).isOk = true)
    (hignored : ∀ selector ∈ config.ignored, (Css.matcher.check selector).isOk = true) :
    ∃ rules placeholders, rules.map Rule.draft = config.rules ∧
      placeholders.map Placeholder.draft = config.placeholders ∧
      config.build =
        .ok ⟨⟨rules, .collected placeholders, config.ignored.eraseDups, none⟩, .empty⟩ := by
  obtain ⟨hfull, hvalid, hblank⟩ := gap?_eq_none_iff.1 hgap
  have hall : config.Registrable := by
    refine ⟨hvalid, fun selector hm => ⟨hblank selector hm, hignored selector hm⟩, ?_⟩
    intro draft hm
    exact (hfull draft hm).valid (hrules _ (mem_selectors_of_full hm (hfull draft hm)))
  refine ⟨config.rules.map RuleDraft.filled, config.placeholders.map PlaceholderDraft.filled,
    ?_, ?_, build_eq_ok_iff.2 ⟨hall, config.foldl_enlarge_requests.symm⟩⟩
  · rw [List.map_map]
    exact (List.map_congr_left fun draft hm => (hfull draft hm).draft_filled).trans (List.map_id _)
  · rw [List.map_map]
    exact (List.map_congr_left fun draft hm => (hvalid draft hm).draft_filled).trans (List.map_id _)

/-- A configuration that was loaded, from whatever file of whatever machine or without one, and with
whatever options in the place of its own, is refused only for a selector of its own that cannot be
read. If all of its selectors can be read, it describes a converter whose rules are those of the
configuration in their order; where each pattern is at its first place with its last replacement,
and each selector to ignore at its first place; and which has no fallback. -/
theorem build_loaded [Toml.Reader] {σ : Type} (host : Host (StateM σ)) (state : σ)
    (path? : Option String) (overrides : Overrides) (config : Config)
    (h : ((load host path? overrides).run state).1 = .ok config) :
    (∀ refusal, config.build = .error refusal →
      ∃ selector reason, Css.matcher.check selector = .error reason ∧
        (refusal = .invalidRule selector (.selector (.refused reason)) ∧
            some selector ∈ config.rules.map RuleDraft.selector ∨
          refusal = .invalidIgnore selector (.refused reason) ∧ selector ∈ config.ignored)) ∧
    ((∀ selector, some selector ∈ config.rules.map RuleDraft.selector ∨ selector ∈ config.ignored →
        (Css.matcher.check selector).isOk = true) →
      ∃ rules placeholders, rules.map Rule.draft = config.rules ∧
        placeholders.map Placeholder.draft = config.placeholders ∧
        config.build =
          .ok ⟨⟨rules, .collected placeholders, config.ignored.eraseDups, none⟩, .empty⟩) := by
  have hgap := gap?_of_load host state path? overrides h
  refine ⟨fun refusal hrefused => exists_of_build_eq_error hgap hrefused, fun hchecked => ?_⟩
  refine build_of_accepted hgap (fun selector hm => ?_) fun selector hm => ?_
  · exact hchecked selector (Or.inl hm)
  · exact hchecked selector (Or.inr hm)

end

/-- A machine with nothing on it but a configuration at its root, where the program stands. -/
def machineWith (document : String) : World where
  entry? place :=
    if place = [] then some .directory
    else if place = [fileName] then some (.file document.toUTF8.toList)
    else none
  isLocked _ := false
  directory := []
  input := []
  output := ""
  messages := ""

/-- Of two configurations that are found, the first lists an ignored selector twice, and can be
built; the second has a rule whose selector breaks off. -/
theorem build_loaded_of_found :
    let config : Config :=
      ⟨.standard, ["b", "b"], [⟨some "p", some "x"⟩], [⟨some "a", some ""⟩], some "/mation.toml"⟩
    let refused : Config := ⟨.standard, [], [⟨some "p >", some "x"⟩], [], some "/mation.toml"⟩
    (∃ rules placeholders, rules.map Rule.draft = config.rules ∧
      placeholders.map Placeholder.draft = config.placeholders ∧
      config.build = .ok ⟨⟨rules, .collected placeholders, ["b"], none⟩, .empty⟩) ∧
    ∃ reason, refused.build = .error (.invalidRule "p >" (.selector (.refused reason))) := by
  intro config refused
  have hload : ((load World.host none .none).run (machineWith
      ("[convert]\nignore=['b','b']\n[[rules]]\nselector='p'\nto='x'\n" ++
        "[[placeholders]]\nfrom='a'\nto=''"))).1 = .ok config := by decide +kernel
  have hother : ((load World.host none .none).run (machineWith
      "[[rules]]\nselector='p >'\nto='x'")).1 = .ok refused := by decide +kernel
  have hchecked : ∀ selector ∈ ["p", "b"],
      (Css.matcher.check selector).isOk = true := by decide +kernel
  have hdups : config.ignored.eraseDups = ["b"] := by decide
  have hbuilt := (build_loaded World.host _ none .none config hload).2 fun selector hm => by
    refine hchecked selector ?_
    rcases hm with hm | hm
    · obtain rfl := Option.some.inj (List.mem_singleton.1 hm)
      exact List.mem_cons_self
    · rw [← List.mem_eraseDups, hdups] at hm
      exact List.mem_cons_of_mem _ hm
  rw [hdups] at hbuilt
  refine ⟨hbuilt, ?_⟩
  have hnot : ¬refused.Registrable := by decide +kernel
  cases hrefused : refused.build with
  | ok converter => exact absurd (build_eq_ok_iff.1 hrefused).1 hnot
  | error refusal =>
    obtain ⟨selector, reason, -, ⟨rfl, hm⟩ | ⟨-, hm⟩⟩ :=
      (build_loaded World.host _ none .none refused hother).1 refusal hrefused
    · obtain rfl := Option.some.inj (List.mem_singleton.1 hm)
      exact ⟨reason, rfl⟩
    · cases hm

end Config

end TreeText
