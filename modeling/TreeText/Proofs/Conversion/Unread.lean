/-
# Selectors that could not be read

A matcher that meets a selector which it cannot read answers that nothing is selected. A rule with
such a selector would be dead, and nobody would be told. This never comes up: whatever has been asked
for, and whatever of that was refused, all registered selectors can be read. So it does not matter
what the answer would be. To say this, the matchers are given any other answer in its place.

* `Descent.matcherOr` and `Css.Cache.matcherOr` are the matchers with another answer, and
  `Converter.convertNodeWithinOr` is a conversion that tests with it.
* `Converter.after` is a converter after any activities, and `Converter.usable_after` says that what
  it holds can be used.
* `Converter.selectors_read_after` says that conversions do not depend on the other answer.
-/
import TreeText.Descent.Selector
import TreeText.Proofs.Config.Apply
import TreeText.Proofs.Conversion.Finish
import TreeText.Proofs.Registry.Usable

namespace TreeText

/-! ## Matchers with another answer -/

/-- The matcher for descent selectors, with another answer where a selector cannot be read. -/
def Descent.matcherOr (unread : Document → Nat → String → Bool) : Matcher where
  selects := fun doc node selector =>
    match read selector with
    | .ok alternatives => alternatives.any (Alternative.selects doc node)
    | .error _ => unread doc node selector
  check := check

/-- The test of a selector with a cache, with another answer where the selector is neither kept nor
can be read. -/
def Css.Cache.testOr [Language] (cache : Cache) (unread : Document → Nat → String → Bool)
    (doc : Document) (node : Nat) (selector : String) : Bool × Cache :=
  if doc.isElement node then
    match cache.formula? selector with
    | (some formula, after) => (Language.holds formula doc node, after)
    | (none, after) => (unread doc node selector, after)
  else (false, cache)

/-- The matcher that looks into a cache first, with another answer where a selector is neither kept
nor can be read. -/
def Css.Cache.matcherOr [Language] (cache : Cache) (unread : Document → Nat → String → Bool) :
    Matcher where
  selects := fun doc node selector => (cache.testOr unread doc node selector).1
  check := check

/-- The text below a node and the converter afterwards, with another answer to a test where the
selector is neither kept nor can be read. -/
def Converter.convertNodeWithinOr [Css.Language] (converter : Converter)
    (unread : Document → Nat → String → Bool) (bound : Nat) (doc : Document) (root : Nat)
    (options : ConversionOptions) : Run String × Converter :=
  match (converter.fresh.asking bound doc root options).carry
      (fun test selectors => selectors.testOr unread doc test.node test.selector)
      converter.selectors with
  | (run, selectors) => (run, { converter with selectors })

/-- A descent selector that is accepted can be read. -/
theorem Descent.exists_read {selector : String} (h : matcher.Accepts selector) :
    ∃ alternatives, read selector = .ok alternatives := by
  have hcheck : (check selector).isOk = true := h.2
  unfold check at hcheck
  cases hread : read selector with
  | ok alternatives => exact ⟨alternatives, rfl⟩
  | error fault =>
    rw [hread] at hcheck
    cases hcheck

/-- A style selector that is accepted can be read. -/
theorem Css.exists_read [Language] {selector : String} (h : matcher.Accepts selector) :
    ∃ formula, Language.read selector = .ok formula := by
  have hcheck : (check selector).isOk = true := h.2
  unfold check at hcheck
  cases hread : Language.read selector with
  | ok formula => exact ⟨formula, rfl⟩
  | error reason =>
    rw [hread] at hcheck
    cases hcheck

/-- Any cache has a formula for a style selector that is accepted. -/
theorem Css.Cache.exists_formula? [Language] (cache : Cache) {selector : String}
    (h : Css.matcher.Accepts selector) : ∃ formula, (cache.formula? selector).1 = some formula := by
  obtain ⟨formula, hread⟩ := Css.exists_read h
  unfold formula?
  rw [hread]
  cases cache.find? selector with
  | some kept => exact ⟨kept, rfl⟩
  | none => exact ⟨formula, rfl⟩

/-- The other answer is not given for a descent selector that is accepted. -/
theorem Descent.selects_matcherOr {selector : String} (h : matcher.Accepts selector)
    (unread : Document → Nat → String → Bool) (doc : Document) (node : Nat) :
    (matcherOr unread).selects doc node selector = matcher.selects doc node selector := by
  obtain ⟨alternatives, hread⟩ := exists_read h
  simp only [matcherOr, matcher, selects, hread]

/-- The other answer is not given for a style selector that is accepted. -/
theorem Css.Cache.testOr_eq [Language] (cache : Cache) {selector : String}
    (h : Css.matcher.Accepts selector) (unread : Document → Nat → String → Bool) (doc : Document)
    (node : Nat) : cache.testOr unread doc node selector = cache.test doc node selector := by
  obtain ⟨formula, hformula⟩ := cache.exists_formula? h
  unfold testOr test
  by_cases he : doc.isElement node = true
  · rw [if_pos he, if_pos he]
    generalize cache.formula? selector = found at hformula ⊢
    obtain ⟨_ | other, after⟩ := found
    · cases hformula
    · rfl
  · rw [if_neg he, if_neg he]

/-! ## What conversions test -/

/-- Conversions test the selectors of the registry and no others: two matchers that select the same
by these agree. -/
theorem Conversion.agrees_of_selects_eq {doc : Document} {registry : Registry}
    {matcher₁ matcher₂ : Matcher} (normalize : Bool)
    (h : ∀ selector ∈ registry.selectors, ∀ node,
      matcher₁.selects doc node selector = matcher₂.selects doc node selector) :
    Agrees ⟨doc, matcher₁, registry, normalize⟩ ⟨doc, matcher₂, registry, normalize⟩ where
  doc_eq := rfl
  normalize_eq := rfl
  fallback_eq := rfl
  isIgnored_eq := by
    intro node _
    show registry.ignored.any _ = registry.ignored.any _
    rw [Bool.eq_iff_iff, List.any_eq_true, List.any_eq_true]
    refine exists_congr fun selector => and_congr_right fun hm => ?_
    rw [h selector (List.mem_append_left _ hm) node]
  rulesFor_eq := by
    intro node _
    refine List.filter_congr fun rule hm => ?_
    have hselector : rule.selector ∈ registry.selectors :=
      List.mem_append_right _ (List.mem_map.2 ⟨rule, hm, rfl⟩)
    exact h rule.selector hselector node

/-- Conversions are the same with two matchers that select the same by the selectors of the registry,
within any bound on nesting. -/
theorem Engine.convertNodeWithin_eq_of_selects_eq {doc : Document} {registry : Registry}
    {matcher₁ matcher₂ : Matcher}
    (h : ∀ selector ∈ registry.selectors, ∀ node,
      matcher₁.selects doc node selector = matcher₂.selects doc node selector)
    (bound root : Nat) (options : ConversionOptions) :
    (⟨matcher₁, registry⟩ : Engine).convertNodeWithin bound doc root options =
      (⟨matcher₂, registry⟩ : Engine).convertNodeWithin bound doc root options := by
  have hagrees := Conversion.agrees_of_selects_eq options.normalizeWhitespace h
  unfold convertNodeWithin conversion
  rw [hagrees.textOf_eq bound]
  rfl

/-! ## Activities -/

namespace Converter

/-- What can be asked of a converter: to carry out a request, to apply a configuration, to convert
what lies below a node of a document. -/
inductive Activity where
  | request (request : Request)
  | apply (config : Config)
  | convert (doc : Document) (root : Nat) (options : ConversionOptions)

section

variable [Css.Language]

/-- The converter after an activity, whether it is carried out, refused or fails. -/
def act (converter : Converter) : Activity → Converter
  | .request request => ((Registration.request request).run converter).2
  | .apply config => (config.apply.run converter).2
  | .convert doc root options => (converter.convertNode doc root options).2

/-- The converter after activities. -/
def after (converter : Converter) (activities : List Activity) : Converter :=
  activities.foldl act converter

variable {converter : Converter}

/-- An activity is a conversion, or it carries out valid requests, the same for any converter, and
leaves the cache as it is. -/
theorem act_cases (activity : Activity) :
    (∃ doc root options, activity = .convert doc root options) ∨
      (∀ doc root options, activity ≠ .convert doc root options) ∧
        ∃ requests : List Request, (∀ request ∈ requests, request.Valid Css.matcher) ∧
          ∀ converter : Converter, converter.act activity =
            { converter with registry := requests.foldl Registry.enlarge converter.registry } := by
  cases activity with
  | convert doc root options => exact Or.inl ⟨doc, root, options, rfl⟩
  | request request =>
    refine Or.inr ⟨nofun, ?_⟩
    by_cases hvalid : request.Valid Css.matcher
    · refine ⟨[request], List.forall_mem_singleton.2 hvalid, fun converter => ?_⟩
      rw [act, Registration.run_request_of_valid hvalid]
      rfl
    · refine ⟨[], nofun, fun converter => ?_⟩
      obtain ⟨refusal, hrefused⟩ := exists_handle_of_not_valid hvalid converter
      rw [act, Registration.run_request, hrefused]
      rfl
  | apply config =>
    refine Or.inr ⟨nofun, ?_⟩
    by_cases hall : config.Registrable
    · refine ⟨config.requests, Config.registrable_iff.1 hall, fun converter => ?_⟩
      rw [act, Config.run_apply_of_registrable hall, foldl_enlarge]
    · refine ⟨[], nofun, fun converter => ?_⟩
      obtain ⟨refusal, hrefused⟩ := Config.exists_run_apply_of_not_registrable hall converter
      rw [act, hrefused]
      rfl

/-- An activity leaves what a converter holds usable. -/
theorem usable_act (h : converter.registry.Usable Css.matcher) (activity : Activity) :
    (converter.act activity).registry.Usable Css.matcher := by
  obtain ⟨doc, root, options, rfl⟩ | ⟨-, requests, hvalid, hact⟩ := act_cases activity
  · exact h
  · rw [hact]
    exact h.foldl_enlarge hvalid

/-- Activities leave what a converter holds usable. -/
theorem usable_after (h : converter.registry.Usable Css.matcher) (activities : List Activity) :
    (converter.after activities).registry.Usable Css.matcher := by
  induction activities generalizing converter with
  | nil => exact h
  | cons activity activities ih => exact ih (usable_act h activity)

/-- The other answer is not given where all selectors are accepted: a conversion tests no others, and
leaves the same in the cache. -/
theorem convertNodeWithinOr_eq
    (h : ∀ selector ∈ converter.registry.selectors, Css.matcher.Accepts selector)
    (unread : Document → Nat → String → Bool) (bound : Nat) (doc : Document) (root : Nat)
    (options : ConversionOptions) :
    converter.convertNodeWithinOr unread bound doc root options =
      converter.convertNodeWithin bound doc root options := by
  have hrespond : (fun (test : converter.fresh.registry.Test) (selectors : Css.Cache) =>
      selectors.testOr unread doc test.node test.selector) =
        fun test selectors => selectors.test doc test.node test.selector := by
    funext test selectors
    exact selectors.testOr_eq (h test.selector test.registered) unread doc test.node
  unfold convertNodeWithinOr convertNodeWithin
  rw [hrespond]

/-- However a registry came about, all selectors in it have something but blanks and are accepted, and
its templates have been read from sources that are not empty. So with descent selectors and with
style selectors, whatever had been asked of an engine or of a converter and whatever of that was
refused, each selector that a conversion tests can be read, and no conversion depends on what would
be answered for one that cannot: within any bound on nesting, the one of conversions included, and
for any cache, the one of the converter included, whether it stays as it is or is filled by the tests
of the conversion. -/
theorem selectors_read_after :
    (∀ (matcher : Matcher) (history : List Request),
      (Registry.empty.after matcher history).Usable matcher) ∧
    (∀ history : List Request,
      let registry := Registry.empty.after Descent.matcher history
      (∀ selector ∈ registry.selectors, ∃ alternatives,
        Descent.read selector = .ok alternatives) ∧
      ∀ unread bound doc root options,
        (⟨Descent.matcherOr unread, registry⟩ : Engine).convertNodeWithin bound doc root options =
          (⟨Descent.matcher, registry⟩ : Engine).convertNodeWithin bound doc root options) ∧
    ∀ activities : List Activity,
      let converter := Converter.new.after activities
      converter.registry.Usable Css.matcher ∧
      (∀ selector ∈ converter.registry.selectors, ∀ cache : Css.Cache, ∃ formula,
        (cache.formula? selector).1 = some formula) ∧
      ∀ (cache : Css.Cache) unread bound doc root options,
        (⟨cache.matcherOr unread, converter.registry⟩ : Engine).convertNodeWithin bound doc root
            options =
          (⟨cache.matcher, converter.registry⟩ : Engine).convertNodeWithin bound doc root
            options ∧
        (⟨converter.registry, cache⟩ : Converter).convertNodeWithinOr unread bound doc root options =
          (⟨converter.registry, cache⟩ : Converter).convertNodeWithin bound doc root options := by
  have hregistry : ∀ (matcher : Matcher) (history : List Request),
      (Registry.empty.after matcher history).Usable matcher :=
    fun matcher history => (Registry.usable_empty matcher).after history
  refine ⟨hregistry, fun history => ?_, fun activities => ?_⟩
  · intro registry
    have haccepts := (hregistry Descent.matcher history).accepts
    refine ⟨fun selector hm => Descent.exists_read (haccepts selector hm), ?_⟩
    intro unread bound doc root options
    refine Engine.convertNodeWithin_eq_of_selects_eq (fun selector hm node => ?_) bound root options
    exact Descent.selects_matcherOr (haccepts selector hm) unread doc node
  · intro converter
    have husable : converter.registry.Usable Css.matcher :=
      usable_after (Registry.usable_empty Css.matcher) activities
    have haccepts := husable.accepts
    refine ⟨husable, fun selector hm cache => cache.exists_formula? (haccepts selector hm), ?_⟩
    intro cache unread bound doc root options
    constructor
    · refine Engine.convertNodeWithin_eq_of_selects_eq (fun selector hm node => ?_) bound root options
      exact congrArg Prod.fst (cache.testOr_eq (haccepts selector hm) unread doc node)
    · have hall : ∀ selector ∈ (Converter.mk converter.registry cache).registry.selectors,
          Css.matcher.Accepts selector := haccepts
      exact convertNodeWithinOr_eq hall unread bound doc root options

end

/-- Two rules are refused for the second of them, a configuration is applied, a page is converted,
and a list of ignored selectors is refused for a blank: what is left can be read. -/
theorem selectors_read_after_refusals :
    let config : Config := ⟨.standard, ["nav", "p > a"], [⟨some "em", some "*{content}*"⟩], [], none⟩
    let doc := Document.build [.element 1 "em" .empty]
    let converter := Converter.new.after
      [.request (.rules [.template "p" "x", .template "p >" "y"]), .apply config,
        .convert doc 1 .standard, .request (.ignore ["footer", " "])]
    let history : List Request := [.rules [.template "h1, p a" "x"], .ignore ["p > a"]]
    let registry := Registry.empty.after Descent.matcher history
    converter.registry.selectors = ["nav", "p > a", "em"] ∧
      (∃ formula, (converter.selectors.formula? "p > a").1 = some formula) ∧
      registry.selectors = ["h1, p a"] ∧
      (∃ alternatives, Descent.read "h1, p a" = .ok alternatives) ∧
      Descent.matcher.selects doc 2 "p > a" = false ∧
      (Descent.matcherOr fun _ _ _ => true).selects doc 2 "p > a" = true := by
  intro config doc converter history registry
  obtain ⟨-, hdescent, hstyle⟩ := selectors_read_after
  have htested : converter.registry.selectors = ["nav", "p > a", "em"] := by decide +kernel
  have hselectors : registry.selectors = ["h1, p a"] := by decide +kernel
  have hmem : "p > a" ∈ converter.registry.selectors := by
    rw [htested]
    decide
  have hmem' : "h1, p a" ∈ registry.selectors := by
    rw [hselectors]
    decide
  refine ⟨htested, (hstyle _).2.1 "p > a" hmem converter.selectors, hselectors,
    (hdescent history).1 "h1, p a" hmem', by decide +kernel, by decide +kernel⟩

end Converter

end TreeText
