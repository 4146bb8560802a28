/-
# The registry after a history

However many requests were made, and whichever of them were refused, the registry holds what the
valid ones list: their rules one after the other; each pattern once, where it was listed first, with
the replacement that was listed last; each selector to ignore once, where it was listed first; and
the fallback that was set last. How a request is cut into smaller ones makes no difference.

* `Registry.collected` is the registry with what given requests list.
* `Registry.after_eq_foldl_enlarge` is a history as the run of its valid requests, and
  `Registry.foldl_enlarge_empty` says what such a run makes up.
* `Request.Splits` says how a request can be cut.
-/
import TreeText.Proofs.Registry.Request
import Mathlib.Data.List.Basic
import Mathlib.Data.List.Induction

namespace TreeText

/-! ## Lists without duplicates -/

/-- One more entry is kept unless it was there before. -/
theorem eraseDups_concat {α : Type} [DecidableEq α] (list : List α) (last : α) :
    (list ++ [last]).eraseDups =
      if last ∈ list then list.eraseDups else list.eraseDups ++ [last] := by
  rw [List.eraseDups_append]
  by_cases h : last ∈ list <;> simp [List.removeAll, h, List.eraseDups_cons]

/-- Nothing is kept twice. -/
theorem nodup_eraseDups {α : Type} [DecidableEq α] (list : List α) : list.eraseDups.Nodup := by
  induction list using List.reverseRecOn with
  | nil => simp
  | append_singleton list last ih =>
    rw [eraseDups_concat]
    split
    · exact ih
    · next h =>
      refine List.nodup_append.mpr ⟨ih, by simp, ?_⟩
      intro entry hentry other hother he
      rw [List.mem_singleton] at hother
      exact h (List.mem_eraseDups.mp (hother ▸ he ▸ hentry))

/-! ## Placeholders -/

namespace Placeholders

/-- The replacement that a list gives for a pattern last. -/
def lastReplacement (list : List Placeholder) (pattern : String) : String :=
  ((list.reverse.find? (·.pattern = pattern)).map (·.replacement)).getD ""

/-- The placeholders that a list describes: each pattern where it is first, with the replacement
that is given for it last. -/
def collected (list : List Placeholder) : Placeholders :=
  ⟨(list.map (·.pattern)).eraseDups.map fun pattern => ⟨pattern, lastReplacement list pattern⟩⟩

/-- The last placeholder of a list decides about its pattern, and about no other. -/
theorem lastReplacement_concat (list : List Placeholder) (last : Placeholder) (pattern : String) :
    lastReplacement (list ++ [last]) pattern =
      if last.pattern = pattern then last.replacement else lastReplacement list pattern := by
  unfold lastReplacement
  rw [List.reverse_append, List.reverse_singleton, List.singleton_append, List.find?_cons]
  by_cases h : last.pattern = pattern <;> simp [h]

/-- A placeholder takes the place of the one with its pattern, or else it comes last. -/
theorem put_map (placeholder : Placeholder) (replacement : String → String) {patterns : List String}
    (hnodup : patterns.Nodup) :
    put placeholder (patterns.map fun pattern => ⟨pattern, replacement pattern⟩) =
      (if placeholder.pattern ∈ patterns then patterns else patterns ++ [placeholder.pattern]).map
        fun pattern => ⟨pattern, if placeholder.pattern = pattern then placeholder.replacement
          else replacement pattern⟩ := by
  induction patterns with
  | nil => simp [put]
  | cons pattern patterns ih =>
    obtain ⟨hnot, hnodup⟩ := List.nodup_cons.mp hnodup
    rw [List.map_cons, put]
    by_cases h : pattern = placeholder.pattern
    · subst h
      -- No other entry has this pattern, so the rest keeps its replacements.
      have hrest : ∀ other ∈ patterns, placeholder.pattern ≠ other := fun other hother he =>
        hnot (he ▸ hother)
      rw [if_pos rfl, if_pos List.mem_cons_self, List.map_cons, if_pos rfl]
      congr 1
      refine List.map_congr_left fun other hother => ?_
      rw [if_neg (hrest other hother)]
    · have h' : placeholder.pattern ≠ pattern := fun e => h e.symm
      rw [if_neg h, ih hnodup]
      by_cases hmem : placeholder.pattern ∈ patterns <;> simp [hmem, h']

/-- Placeholders that are put in one after the other make up what their list describes. -/
theorem insertAll_empty (list : List Placeholder) : empty.insertAll list = collected list := by
  induction list using List.reverseRecOn with
  | nil => rfl
  | append_singleton list last ih =>
    -- The last entry is put in after all others, as the one whose replacement stays.
    have hstep : empty.insertAll (list ++ [last]) = (empty.insertAll list).insert last := by
      simp [insertAll]
    rw [hstep, ih, insert, collected, put_map _ _ (nodup_eraseDups _), collected, List.map_append,
      List.map_singleton, eraseDups_concat]
    simp only [lastReplacement_concat, List.mem_eraseDups]

end Placeholders

namespace Registry

/-! ## Ignored selectors -/

/-- Selectors that are put in one after the other are those of their list, each once. -/
theorem foldl_addSelector (selectors : List String) :
    selectors.foldl addSelector [] = selectors.eraseDups := by
  induction selectors using List.reverseRecOn with
  | nil => rfl
  | append_singleton selectors last ih =>
    rw [List.foldl_append, ih, List.foldl_cons, List.foldl_nil, addSelector, eraseDups_concat]
    by_cases h : last ∈ selectors <;> simp [h]

/-! ## Runs -/

/-- What many requests list, put in by each in its turn. -/
theorem foldl_enlarge (requests : List Request) (registry : Registry) :
    requests.foldl enlarge registry =
      { rules := registry.rules ++ requests.flatMap Request.newRules
        placeholders := registry.placeholders.insertAll (requests.flatMap Request.newPlaceholders)
        ignored := (requests.flatMap Request.newIgnored).foldl addSelector registry.ignored
        fallback := (requests.filterMap Request.newFallback?).getLast?.or registry.fallback } := by
  -- For any registry, since the later requests find what the earlier ones left.
  induction requests generalizing registry with
  | nil => simp [Placeholders.insertAll]
  | cons request requests ih =>
    rw [List.foldl_cons, ih]
    simp only [enlarge, Placeholders.insertAll, List.flatMap_cons, List.append_assoc,
      List.foldl_append, List.getLast?_filterMap, List.reverse_cons, List.findSome?_append,
      List.findSome?_singleton, Option.or_assoc]

/-- A history is the run of its valid requests. -/
theorem after_eq_foldl_enlarge (matcher : Matcher) (registry : Registry) (history : List Request) :
    registry.after matcher history =
      (history.filter (Request.Valid matcher ·)).foldl enlarge registry := by
  rw [List.foldl_filter, after]
  congr 1
  funext registry request
  simp only [step_eq_ite, decide_eq_true_eq]

/-- The registry with what requests list: all rules in their order, each pattern where it is first
with the replacement that is last, each ignored selector where it is first, the last fallback. -/
def collected (requests : List Request) : Registry where
  rules := requests.flatMap Request.newRules
  placeholders := .collected (requests.flatMap Request.newPlaceholders)
  ignored := (requests.flatMap Request.newIgnored).eraseDups
  fallback := (requests.filterMap Request.newFallback?).getLast?

/-- Requests that are carried out one after the other make up what they list together. -/
theorem foldl_enlarge_empty (requests : List Request) :
    requests.foldl enlarge empty = collected requests := by
  simp [foldl_enlarge, collected, empty, Placeholders.insertAll_empty, foldl_addSelector]

end Registry

/-! ## Cutting requests -/

/-- The ways to cut the list of a request into lists for many requests of its kind. -/
inductive Request.Splits : Request → List Request → Prop
  | rules (lists : List (List Rule)) :
    Splits (.rules lists.flatten) (lists.map .rules)
  | ruleDrafts (lists : List (List RuleDraft)) :
    Splits (.ruleDrafts lists.flatten) (lists.map .ruleDrafts)
  | placeholders (lists : List (List Placeholder)) :
    Splits (.placeholders lists.flatten) (lists.map .placeholders)
  | placeholderDrafts (lists : List (List PlaceholderDraft)) :
    Splits (.placeholderDrafts lists.flatten) (lists.map .placeholderDrafts)
  | ignore (lists : List (List String)) :
    Splits (.ignore lists.flatten) (lists.map .ignore)

namespace Request.Splits

variable {request : Request} {parts : List Request}

/-- A request is valid exactly if all its parts are. -/
theorem valid_iff {matcher : Matcher} (hsplits : request.Splits parts) :
    request.Valid matcher ↔ ∀ part ∈ parts, part.Valid matcher := by
  cases hsplits <;>
    simp only [Request.Valid, List.forall_mem_flatten, List.forall_mem_map, implies_true]

/-- The parts of a request list together what the request lists. -/
theorem foldl_enlarge (hsplits : request.Splits parts) (registry : Registry) :
    parts.foldl Registry.enlarge registry = registry.enlarge request := by
  rw [Registry.foldl_enlarge]
  cases hsplits <;>
    simp [Registry.enlarge, newRules, newPlaceholders, newIgnored, newFallback?,
      Placeholders.insertAll, Function.comp_def, List.map_flatten, List.flatMap_def]

end Request.Splits

namespace Registry

/-- After any history, the registry has what the valid requests list. A request is refused exactly
if it is not valid, and then nothing changes. A valid request can be cut into smaller ones. -/
theorem after_empty_eq_collected (matcher : Matcher) (history : List Request) :
    let registry := empty.after matcher history
    registry = collected (history.filter (Request.Valid matcher ·)) ∧
      (∀ request, (∃ refusal, registry.handle matcher request = .error refusal) ↔
        ¬ request.Valid matcher) ∧
      (∀ request refusal, registry.handle matcher request = .error refusal →
        registry.step matcher request = registry) ∧
      ∀ request parts, request.Splits parts → request.Valid matcher →
        (∀ part ∈ parts, part.Valid matcher) ∧
          registry.after matcher parts = registry.step matcher request := by
  intro registry
  refine ⟨?_, fun request => exists_handle_eq_error_iff, ?_, ?_⟩
  · exact (after_eq_foldl_enlarge matcher empty history).trans (foldl_enlarge_empty _)
  · intro request refusal hrefused
    rw [step_eq_ite, if_neg (exists_handle_eq_error_iff.mp ⟨refusal, hrefused⟩)]
  · intro request parts hsplits hvalid
    have hparts : ∀ part ∈ parts, part.Valid matcher := hsplits.valid_iff.mp hvalid
    have hall : parts.filter (Request.Valid matcher ·) = parts := by
      rw [List.filter_eq_self]
      exact fun part hpart => decide_eq_true (hparts part hpart)
    refine ⟨hparts, ?_⟩
    rw [after_eq_foldl_enlarge, hall, step_eq_ite, if_pos hvalid, hsplits.foldl_enlarge]

/-- A history with a request that is refused as a whole, and one cut in two. -/
theorem after_empty_eq_collected_of_ignored :
    let history : List Request :=
      [.ignore ["nav", "aside"], .ignore ["footer", " "], .ignore ["aside", "form", "form"],
        .placeholders [⟨"x", "1"⟩, ⟨"y", "2"⟩], .placeholders [⟨"x", "3"⟩]]
    let registry := empty.after .byTag history
    registry.ignored = ["nav", "aside", "form"] ∧
      registry.placeholders.toList = [⟨"x", "3"⟩, ⟨"y", "2"⟩] ∧
      registry.step .byTag (.ignore ["footer", " "]) = registry ∧
      registry.after .byTag [.ignore ["svg"], .ignore ["nav"]] =
        registry.step .byTag (.ignore ["svg", "nav"]) := by
  intro history registry
  obtain ⟨hall, -, hrefused, hsplits⟩ := after_empty_eq_collected .byTag history
  refine ⟨?_, ?_, hrefused _ (.invalidIgnore " " .blank) rfl, ?_⟩
  · exact (congrArg Registry.ignored hall).trans (by decide)
  · exact (congrArg (Placeholders.toList ∘ Registry.placeholders) hall).trans (by decide)
  · exact (hsplits _ _ (.ignore [["svg"], ["nav"]]) (by decide)).2

end Registry

end TreeText
