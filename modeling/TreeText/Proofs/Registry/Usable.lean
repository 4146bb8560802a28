/-
# Registries that can be used

Rules and ignored selectors get into a registry in several ways, each of which checks them for
itself. None of them lets anything in that cannot be used: whatever was asked for, and whatever of
that was refused, all selectors of the registry have something but blanks and are accepted by the
matcher, and no template is empty.

* `Registry.Usable` says so of a registry.
* `Registry.Usable.enlarge` is one valid request, and `Registry.Usable.after` any history.
-/
import TreeText.Proofs.Registry.Request

namespace TreeText

/-! ## Valid requests -/

namespace Request

variable {matcher : Matcher} {request : Request}

/-- A valid request lists valid rules only, whether they are written down or not. -/
theorem Valid.newRules (h : request.Valid matcher) :
    ∀ rule ∈ request.newRules, rule.Valid matcher := by
  intro rule hm
  cases request with
  | rules list => exact h rule hm
  | ruleDrafts drafts =>
    obtain ⟨draft, hdraft, rfl⟩ := List.mem_map.1 hm
    exact (RuleDraft.valid_iff.1 (h draft hdraft)).2
  | _ => cases hm

/-- A valid request lists accepted selectors to ignore only. -/
theorem Valid.newIgnored (h : request.Valid matcher) :
    ∀ selector ∈ request.newIgnored, matcher.Accepts selector := by
  intro selector hm
  cases request with
  | ignore selectors => exact h selector hm
  | _ => cases hm

end Request

namespace Registry

/-! ## Selectors -/

/-- One more selector is that one or one of those that were there. -/
theorem mem_addSelector {ignored : List String} {more selector : String}
    (h : selector ∈ addSelector ignored more) : selector ∈ ignored ∨ selector = more := by
  unfold addSelector at h
  by_cases hm : ignored.contains more = true
  · rw [if_pos hm] at h
    exact Or.inl h
  · rw [if_neg hm] at h
    exact (List.mem_append.1 h).imp_right List.mem_singleton.1

/-- Selectors that are put in are joined to those that were there. -/
theorem mem_foldl_addSelector {selectors ignored : List String} {selector : String}
    (h : selector ∈ selectors.foldl addSelector ignored) :
    selector ∈ ignored ∨ selector ∈ selectors := by
  induction selectors generalizing ignored with
  | nil => exact Or.inl h
  | cons more selectors ih =>
    rcases ih h with hm | hm
    · rcases mem_addSelector hm with hm | rfl
      · exact Or.inl hm
      · exact Or.inr List.mem_cons_self
    · exact Or.inr (List.mem_cons_of_mem _ hm)

/-! ## Usable registries -/

/-- All selectors of a registry are accepted, those of rules and those of ignored elements; and no
template is empty or has other segments than its source. -/
structure Usable (matcher : Matcher) (registry : Registry) : Prop where
  rules : ∀ rule ∈ registry.rules, matcher.Accepts rule.selector
  ignored : ∀ selector ∈ registry.ignored, matcher.Accepts selector
  templates : ∀ rule ∈ registry.rules, ∀ template, rule.transform = .template template →
    template.source ≠ "" ∧ template.segments = (Template.parse template.source).segments

variable {matcher : Matcher} {registry : Registry}

/-- There is nothing to object to where nothing has been registered. -/
theorem usable_empty (matcher : Matcher) : empty.Usable matcher where
  rules _ hm := absurd hm List.not_mem_nil
  ignored _ hm := absurd hm List.not_mem_nil
  templates _ hm := absurd hm List.not_mem_nil

/-- The selectors of a usable registry are accepted. -/
theorem Usable.accepts (h : registry.Usable matcher) :
    ∀ selector ∈ registry.selectors, matcher.Accepts selector := by
  intro selector hm
  rcases List.mem_append.1 hm with hm | hm
  · exact h.ignored selector hm
  · obtain ⟨rule, hrule, rfl⟩ := List.mem_map.1 hm
    exact h.rules rule hrule

/-- What a valid request lists can be put into a usable registry. -/
theorem Usable.enlarge (h : registry.Usable matcher) {request : Request}
    (hvalid : request.Valid matcher) : (registry.enlarge request).Usable matcher where
  rules := by
    intro rule hm
    rcases List.mem_append.1 hm with hm | hm
    · exact h.rules rule hm
    · exact (hvalid.newRules rule hm).1
  ignored := by
    intro selector hm
    rcases mem_foldl_addSelector hm with hm | hm
    · exact h.ignored selector hm
    · exact hvalid.newIgnored selector hm
  templates := by
    intro rule hm template htransform
    rcases List.mem_append.1 hm with hm | hm
    · exact h.templates rule hm template htransform
    · have hsource : rule.source? = some template.source := by
        rw [Rule.source?, htransform]
      refine ⟨fun hempty => (hvalid.newRules rule hm).2 ?_, template.segments_eq⟩
      rw [hsource, hempty]

/-- What valid requests list can be put into a usable registry. -/
theorem Usable.foldl_enlarge (h : registry.Usable matcher) {requests : List Request}
    (hvalid : ∀ request ∈ requests, request.Valid matcher) :
    (requests.foldl Registry.enlarge registry).Usable matcher := by
  induction requests generalizing registry with
  | nil => exact h
  | cons request requests ih =>
    obtain ⟨hrequest, hrequests⟩ := List.forall_mem_cons.1 hvalid
    exact ih (h.enlarge hrequest) hrequests

/-- A request leaves a usable registry usable, whether it is carried out or refused. -/
theorem Usable.step (h : registry.Usable matcher) (request : Request) :
    (registry.step matcher request).Usable matcher := by
  rw [step_eq_ite]
  by_cases hvalid : request.Valid matcher
  · rw [if_pos hvalid]
    exact h.enlarge hvalid
  · rw [if_neg hvalid]
    exact h

/-- After any history, a usable registry is usable. -/
theorem Usable.after (h : registry.Usable matcher) (history : List Request) :
    (registry.after matcher history).Usable matcher := by
  induction history generalizing registry with
  | nil => exact h
  | cons request history ih => exact ih (h.step request)

end Registry

end TreeText
