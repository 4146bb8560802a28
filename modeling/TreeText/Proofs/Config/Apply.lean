/-
# Applying a configuration

A configuration is applied as a whole or not at all. It is applied exactly if everything that it
lists can be registered, and the converter is then the one after three requests, for the rules, the
placeholders and the ignored selectors, whichever of them comes first.

* `Config.Registrable` says which configurations can be applied.
* `Config.run_apply_of_registrable` and `Config.exists_run_apply_of_not_registrable` describe what
  comes of those and of all others.
-/
import TreeText.Config.Apply
import TreeText.Css.Selector
import TreeText.Proofs.Registry.Request

namespace TreeText

/-! ## Requests in another order -/

/-- Requests are apart if there is no part of a registry for which both of them list something. -/
structure Request.Apart (first second : Request) : Prop where
  rules : first.newRules = [] ∨ second.newRules = []
  placeholders : first.newPlaceholders = [] ∨ second.newPlaceholders = []
  ignored : first.newIgnored = [] ∨ second.newIgnored = []
  fallback : first.newFallback? = none ∨ second.newFallback? = none

/-- Requests that are apart can change places. -/
theorem Registry.enlarge_comm {first second : Request} (hapart : first.Apart second)
    (registry : Registry) :
    (registry.enlarge first).enlarge second = (registry.enlarge second).enlarge first := by
  unfold Registry.enlarge Placeholders.insertAll
  rw [Registry.mk.injEq]
  refine ⟨?_, ?_, ?_, ?_⟩
  · rcases hapart.rules with h | h <;> simp [h]
  · rcases hapart.placeholders with h | h <;> simp [h]
  · rcases hapart.ignored with h | h <;> simp [h]
  · rcases hapart.fallback with h | h <;> simp [h]

/-! ## Converters -/

namespace Converter

variable [Css.Language]

/-- The converter with what a request lists, valid or not. -/
def enlarge (converter : Converter) (request : Request) : Converter :=
  { converter with registry := converter.registry.enlarge request }

variable {request : Request}

/-- Requests that are apart can change places. -/
theorem enlarge_comm {first second : Request} (hapart : first.Apart second)
    (converter : Converter) :
    (converter.enlarge first).enlarge second = (converter.enlarge second).enlarge first :=
  congrArg (Converter.mk · converter.selectors)
    (Registry.enlarge_comm hapart converter.registry)

/-- A converter carries out the valid requests. -/
theorem handle_of_valid (hvalid : request.Valid Css.matcher) (converter : Converter) :
    converter.handle request = .ok (converter.enlarge request) := by
  rw [handle, Registry.handle_eq_ok_iff.mpr ⟨hvalid, rfl⟩]
  rfl

/-- A converter refuses all other requests. -/
theorem exists_handle_of_not_valid (hvalid : ¬ request.Valid Css.matcher)
    (converter : Converter) :
    ∃ refusal, converter.handle request = .error refusal := by
  obtain ⟨refusal, h⟩ := Registry.exists_handle_eq_error_iff.mpr hvalid
  exact ⟨refusal, by rw [handle, h]; rfl⟩

/-- What many requests list is put into the registry, by each in its turn. -/
theorem foldl_enlarge (requests : List Request) (converter : Converter) :
    requests.foldl enlarge converter =
      { converter with registry := requests.foldl Registry.enlarge converter.registry } := by
  induction requests generalizing converter with
  | nil => rfl
  | cons request requests ih => exact ih (converter.enlarge request)

/-- A converter carries out valid requests one after the other. -/
theorem foldlM_handle_of_valid {requests : List Request}
    (hvalid : ∀ request ∈ requests, request.Valid Css.matcher) (converter : Converter) :
    requests.foldlM handle converter = .ok (requests.foldl enlarge converter) := by
  induction requests generalizing converter with
  | nil => rfl
  | cons request requests ih =>
    obtain ⟨hrequest, hrequests⟩ := List.forall_mem_cons.mp hvalid
    rw [List.foldlM_cons, handle_of_valid hrequest, List.foldl_cons, ← ih hrequests]
    rfl

end Converter

namespace Registration

variable [Css.Language]

/-- A valid request changes the converter. -/
theorem run_request_of_valid {request : Request} (hvalid : request.Valid Css.matcher)
    (converter : Converter) :
    (Registration.request request).run converter = (.ok (), converter.enlarge request) := by
  rw [run_request, Converter.handle_of_valid hvalid]

end Registration

/-! ## Configurations -/

namespace Config

section

variable [Css.Language]

/-- Everything that a configuration lists can be registered. -/
def Registrable (config : Config) : Prop :=
  (∀ draft ∈ config.placeholders, draft.Valid) ∧
    (∀ selector ∈ config.ignored, Css.matcher.Accepts selector) ∧
    ∀ draft ∈ config.rules, draft.Valid Css.matcher

instance : DecidablePred Config.Registrable :=
  fun _ => inferInstanceAs (Decidable (_ ∧ _ ∧ _))

/-- The requests that register what a configuration lists. -/
def requests (config : Config) : List Request :=
  [.ruleDrafts config.rules, .placeholderDrafts config.placeholders, .ignore config.ignored]

/-- A configuration can be applied exactly if its requests are valid. -/
theorem registrable_iff {config : Config} :
    config.Registrable ↔ ∀ request ∈ config.requests, request.Valid Css.matcher := by
  simp only [Registrable, requests, List.forall_mem_cons, List.not_mem_nil, false_implies,
    implies_true, Request.Valid]
  tauto

omit [Css.Language] in
/-- The requests of a configuration are for different parts of a registry. -/
theorem requests_apart (config : Config) : config.requests.Pairwise Request.Apart := by
  have hplaceholders : Request.Apart (.ruleDrafts config.rules)
      (.placeholderDrafts config.placeholders) := ⟨.inr rfl, .inl rfl, .inl rfl, .inl rfl⟩
  have hignored : Request.Apart (.ruleDrafts config.rules) (.ignore config.ignored) :=
    ⟨.inr rfl, .inl rfl, .inl rfl, .inl rfl⟩
  have hother : Request.Apart (.placeholderDrafts config.placeholders) (.ignore config.ignored) :=
    ⟨.inl rfl, .inr rfl, .inl rfl, .inl rfl⟩
  simp [requests, hplaceholders, hignored, hother]

/-- The requests of a configuration can change places. -/
theorem foldl_enlarge_of_perm {config : Config} {order : List Request}
    (horder : order.Perm config.requests) (converter : Converter) :
    order.foldl Converter.enlarge converter =
      config.requests.foldl Converter.enlarge converter := by
  have hcomm : config.requests.Pairwise fun first second => ∀ converter : Converter,
      (converter.enlarge first).enlarge second = (converter.enlarge second).enlarge first :=
    config.requests_apart.imp Converter.enlarge_comm
  refine (horder.symm.foldl_eq' ?_ converter).symm
  exact hcomm.forall_of_forall_of_flip (fun _ _ _ => rfl)
    (hcomm.imp fun h converter => (h converter).symm)

/-- A configuration that can be applied is: the converter is the one after its requests. -/
theorem run_apply_of_registrable {config : Config} (hall : config.Registrable)
    (converter : Converter) :
    config.apply.run converter =
      (.ok (), config.requests.foldl Converter.enlarge converter) := by
  obtain ⟨hplaceholders, hignored, hrules⟩ := hall
  -- The placeholders are put in as they were read, which is what their drafts put in.
  have hlist : ∀ converter : Converter,
      converter.enlarge (.placeholders (config.placeholders.map PlaceholderDraft.filled)) =
        converter.enlarge (.placeholderDrafts config.placeholders) := fun converter => by
    unfold Converter.enlarge
    rw [Registry.enlarge_placeholders, Registry.enlarge_placeholderDrafts]
  simp only [apply, Registration.run_bind, Registration.run_ofExcept,
    Registry.readPlaceholders_eq_ok_iff.mpr ⟨hplaceholders, rfl⟩,
    Registry.checkIgnored_eq_ok_iff.mpr hignored]
  rw [Registration.run_request_of_valid (show Request.Valid _ (.ruleDrafts _) from hrules)]
  dsimp only
  rw [Registration.run_request_of_valid (show Request.Valid _ (.placeholders _) from trivial)]
  dsimp only
  rw [Registration.run_request_of_valid (show Request.Valid _ (.ignore _) from hignored), hlist]
  rfl

/-- Any other configuration is refused, and the converter is as it was: what could be refused later
is checked before the rules are registered. -/
theorem exists_run_apply_of_not_registrable {config : Config} (hall : ¬ config.Registrable)
    (converter : Converter) :
    ∃ refusal, config.apply.run converter = (.error refusal, converter) := by
  simp only [apply, Registration.run_bind, Registration.run_ofExcept]
  cases hplaceholders : Registry.readPlaceholders config.placeholders with
  | error refusal => exact ⟨refusal, rfl⟩
  | ok placeholders =>
    cases hignored : Registry.checkIgnored Css.matcher config.ignored with
    | error refusal => exact ⟨refusal, rfl⟩
    | ok _ =>
      -- Placeholders and ignored selectors are fine, so it must be the rules.
      have hrules : ¬ Request.Valid Css.matcher (.ruleDrafts config.rules) := fun hrules =>
        hall ⟨(Registry.readPlaceholders_eq_ok_iff.mp hplaceholders).1,
          Registry.checkIgnored_eq_ok_iff.mp hignored, hrules⟩
      obtain ⟨refusal, hrefused⟩ :=
        Converter.exists_handle_of_not_valid hrules converter
      refine ⟨refusal, ?_⟩
      dsimp only
      rw [Registration.run_request, hrefused]

/-- A configuration is applied exactly if everything in it can be registered. If it is refused, the
converter is as it was; if it is applied, the converter is the one after the requests for its rules,
its placeholders and its ignored selectors, in any order. -/
theorem apply_all_or_nothing (config : Config) (converter : Converter) :
    ((config.apply.run converter).1 = .ok () ↔ config.Registrable) ∧
      (∀ refusal, (config.apply.run converter).1 = .error refusal →
        (config.apply.run converter).2 = converter) ∧
      ((config.apply.run converter).1 = .ok () → ∀ order : List Request,
        order.Perm config.requests →
          order.foldlM Converter.handle converter = .ok (config.apply.run converter).2) := by
  by_cases hall : config.Registrable
  · rw [run_apply_of_registrable hall]
    refine ⟨by simp [hall], by simp, fun _ order horder => ?_⟩
    have hvalid : ∀ request ∈ order, request.Valid Css.matcher := fun request hrequest =>
      registrable_iff.mp hall request (horder.mem_iff.mp hrequest)
    rw [Converter.foldlM_handle_of_valid hvalid, foldl_enlarge_of_perm horder]
  · obtain ⟨refusal, hrefused⟩ := exists_run_apply_of_not_registrable hall converter
    rw [hrefused]
    exact ⟨by simp [hall], fun _ _ => rfl, by simp⟩

end

/-- A configuration whose ignored selectors could also come first, and one that is refused for
them. -/
theorem apply_all_or_nothing_of_ignored :
    let rules : List RuleDraft := [⟨some "br", some "/"⟩]
    let placeholders : List PlaceholderDraft := [⟨some "a", some "b"⟩]
    let config : Config := ⟨.standard, ["nav"], rules, placeholders, none⟩
    let refused : Config := ⟨.standard, ["nav", " "], rules, placeholders, none⟩
    let converter := Converter.new.enlarge (.rules [.template "p" "q"])
    (config.apply.run converter).1 = .ok () ∧
      [.ignore ["nav"], .ruleDrafts rules, .placeholderDrafts placeholders].foldlM
        Converter.handle converter = .ok (config.apply.run converter).2 ∧
      (refused.apply.run converter).2 = converter := by
  intro rules placeholders config refused converter
  obtain ⟨happlied, -, horder⟩ := apply_all_or_nothing config converter
  obtain ⟨-, hrefused, -⟩ := apply_all_or_nothing refused converter
  have hall : config.Registrable := by decide +kernel
  have hnot : ¬ refused.Registrable := by decide +kernel
  have hok : (config.apply.run converter).1 = .ok () := happlied.mpr hall
  obtain ⟨refusal, hrun⟩ := exists_run_apply_of_not_registrable hnot converter
  refine ⟨hok, horder hok _ (@List.perm_append_comm _ [_] [_, _]), ?_⟩
  exact hrefused refusal (by rw [hrun])

end Config

end TreeText
