/-
# What a cache holds, and what it answers

A matcher that looks into a cache is asked, any number of times and about any documents, whether
selectors select nodes and whether they can be read. Its answers are those of a matcher that reads
each selector anew, and its cache says no more than what it has had to read: the selectors that were
tested on elements, as far as they can be read.

* `Query` is a question, and `Cache.askAll` asks questions one after the other.
* `Cache.Keeps` is the invariant: the cache holds the selectors that were needed.
* `Cache.keeps_test` is what one test does to it, and `Cache.keeps_asked` what all questions do.
* `Cache.askAll_eq` says that the answers do not depend on what was asked before.
-/
import TreeText.Css.Cache

namespace TreeText.Css

variable [Language] {cache : Cache} {needed : String → Prop}

/-! ## Selectors read anew -/

/-- An element is selected if there is a formula and it holds. -/
theorem selects_of_element {doc : Document} {node : Nat} (h : doc.isElement node = true)
    (selector : String) :
    selects doc node selector =
      (Language.read selector).toOption.any (Language.holds · doc node) := by
  unfold selects
  rw [h]
  cases Language.read selector <;> rfl

/-- A selector selects the elements for which its formula holds. -/
theorem selects_eq_true_iff (doc : Document) (node : Nat) (selector : String) :
    selects doc node selector = true ↔ doc.isElement node = true ∧
      ∃ formula, Language.read selector = .ok formula ∧
        Language.holds formula doc node = true := by
  unfold selects
  cases hread : Language.read selector with
  | error reason =>
    constructor
    · intro hfalse
      cases hfalse
    · rintro ⟨-, formula, hok, -⟩
      cases hok
  | ok formula =>
    show (doc.isElement node && Language.holds formula doc node) = true ↔ _
    rw [Bool.and_eq_true]
    constructor
    · exact fun ⟨helement, hholds⟩ => ⟨helement, formula, rfl, hholds⟩
    · rintro ⟨helement, other, hok, hholds⟩
      obtain rfl : formula = other := Except.ok.inj hok
      exact ⟨helement, hholds⟩

/-! ## Questions -/

/-- A question: whether a selector selects a node of a document, or whether it can be read. -/
inductive Query where
  | selects (doc : Document) (node : Nat) (selector : String)
  | check (selector : String)

/-- What is answered to a question. -/
inductive Answer where
  | selected (whether : Bool)
  | checked (verdict : Except String Unit)

/-- The answer of a matcher that reads each selector anew. -/
def Query.answer : Query → Answer
  | .selects doc node selector => .selected (matcher.selects doc node selector)
  | .check selector => .checked (matcher.check selector)

/-- Whether a question needs the formula of a selector: it tests the selector on an element. -/
def Query.Needs (selector : String) : Query → Prop
  | .selects doc node tested => doc.isElement node = true ∧ selector = tested
  | .check _ => False

namespace Cache

/-- The answer of a matcher that looks into a cache first, and the cache afterwards. Only the test of
a selector touches the cache. -/
def ask (cache : Cache) : Query → Answer × Cache
  | .selects doc node selector =>
    (.selected (cache.test doc node selector).1, (cache.test doc node selector).2)
  | .check selector => (.checked (cache.matcher.check selector), cache)

/-- The answers to questions that are asked one after the other, and the cache afterwards. -/
def askAll (cache : Cache) : List Query → List Answer × Cache
  | [] => ([], cache)
  | query :: queries =>
    ((cache.ask query).1 :: ((cache.ask query).2.askAll queries).1,
      ((cache.ask query).2.askAll queries).2)

/-- The cache of a new matcher that has been asked questions. -/
def asked (queries : List Query) : Cache :=
  (empty.askAll queries).2

/-- Further questions are asked with the cache that the first ones leave. -/
theorem askAll_append (cache : Cache) (queries later : List Query) :
    (cache.askAll (queries ++ later)).2 = ((cache.askAll queries).2.askAll later).2 := by
  induction queries generalizing cache with
  | nil => rfl
  | cons query queries ih => exact ih (cache.ask query).2

/-! ## One question -/

/-- A cache that holds the selectors that were needed: each once, with its own formula, and none that
cannot be read. -/
structure Keeps (cache : Cache) (needed : String → Prop) : Prop where
  nodup : (cache.entries.map Prod.fst).Nodup
  mem_iff : ∀ selector formula,
    (selector, formula) ∈ cache.entries ↔ needed selector ∧ Language.read selector = .ok formula

theorem keeps_empty : empty.Keeps fun _ => False where
  nodup := List.nodup_nil
  mem_iff := fun selector formula => by
    constructor
    · intro hmem
      cases hmem
    · rintro ⟨hneeded, -⟩
      exact hneeded.elim

/-- A cache may be said to hold what is needed in other words. -/
theorem Keeps.congr {others : String → Prop} (h : cache.Keeps needed)
    (hiff : ∀ selector, needed selector ↔ others selector) : cache.Keeps others where
  nodup := h.nodup
  mem_iff := fun selector formula => by
    rw [h.mem_iff, hiff]

/-- A formula that is found is the one that is read. -/
theorem Keeps.read_of_find? (h : cache.Keeps needed) {selector : String}
    {formula : Language.Formula} (hfind : cache.find? selector = some formula) :
    needed selector ∧ Language.read selector = .ok formula := by
  have hmem : (selector, formula) ∈ cache.entries := by
    obtain ⟨before, after, hentries, -⟩ := List.lookup_eq_some_iff.1 hfind
    rw [hentries]
    exact List.mem_append_right before List.mem_cons_self
  exact (h.mem_iff selector formula).1 hmem

/-- What can be read and was needed is found. -/
theorem Keeps.not_needed_of_find? (h : cache.Keeps needed) {selector : String}
    {formula : Language.Formula} (hfind : cache.find? selector = none)
    (hread : Language.read selector = .ok formula) :
    ¬ needed selector := by
  intro hneeded
  have hmem : (selector, formula) ∈ cache.entries :=
    (h.mem_iff selector formula).2 ⟨hneeded, hread⟩
  have hne := List.lookup_eq_none_iff.1 hfind (selector, formula) hmem
  simp at hne

/-- Nothing is to be kept for a selector that was needed before. -/
theorem Keeps.again (h : cache.Keeps needed) {selector : String} (hneeded : needed selector) :
    cache.Keeps fun other => needed other ∨ other = selector := by
  refine h.congr fun other => ?_
  constructor
  · exact Or.inl
  · rintro (hother | rfl)
    · exact hother
    · exact hneeded

/-- Nothing is to be kept for a selector that cannot be read. -/
theorem Keeps.unreadable (h : cache.Keeps needed) {selector : String} {reason : String}
    (hread : Language.read selector = .error reason) :
    cache.Keeps fun other => needed other ∨ other = selector where
  nodup := h.nodup
  mem_iff := by
    intro other formula
    rw [h.mem_iff]
    constructor
    · exact fun ⟨hneeded, hother⟩ => ⟨Or.inl hneeded, hother⟩
    · rintro ⟨hneeded | rfl, hother⟩
      · exact ⟨hneeded, hother⟩
      · rw [hread] at hother
        cases hother

/-- A selector that can be read and was not needed before is kept with its formula. -/
theorem Keeps.push (h : cache.Keeps needed) {selector : String} {formula : Language.Formula}
    (hnew : ¬ needed selector) (hread : Language.read selector = .ok formula) :
    (Cache.mk (cache.entries ++ [(selector, formula)])).Keeps
      fun other => needed other ∨ other = selector where
  nodup := by
    rw [List.map_append, List.nodup_append]
    refine ⟨h.nodup, List.pairwise_singleton (· ≠ ·) selector, ?_⟩
    intro kept hkept new hmem
    obtain rfl : new = selector := List.mem_singleton.1 hmem
    obtain ⟨⟨_, other⟩, hentry, rfl⟩ := List.mem_map.1 hkept
    rintro rfl
    exact hnew ((h.mem_iff _ other).1 hentry).1
  mem_iff := by
    intro other found
    rw [List.mem_append, h.mem_iff, List.mem_singleton, Prod.mk.injEq]
    constructor
    · rintro (⟨hneeded, hother⟩ | ⟨rfl, rfl⟩)
      · exact ⟨Or.inl hneeded, hother⟩
      · exact ⟨Or.inr rfl, hread⟩
    · rintro ⟨hneeded | rfl, hother⟩
      · exact Or.inl ⟨hneeded, hother⟩
      · have hsame : formula = found := Except.ok.inj (hread.symm.trans hother)
        exact Or.inr ⟨rfl, hsame.symm⟩

/-- The formula of a selector is what is read, if it can be read; afterwards the cache holds the
selector, too. -/
theorem Keeps.formula? (h : cache.Keeps needed) (selector : String) :
    (cache.formula? selector).1 = (Language.read selector).toOption ∧
      (cache.formula? selector).2.Keeps fun other => needed other ∨ other = selector := by
  unfold Cache.formula?
  cases hfind : cache.find? selector with
  | some formula =>
    obtain ⟨hneeded, hread⟩ := h.read_of_find? hfind
    rw [hread]
    exact ⟨rfl, h.again hneeded⟩
  | none =>
    cases hread : Language.read selector with
    | error reason => exact ⟨rfl, h.unreadable hread⟩
    | ok formula => exact ⟨rfl, h.push (h.not_needed_of_find? hfind hread) hread⟩

/-- An element is tested with the formula of the selector, if there is one. -/
theorem test_of_element {doc : Document} {node : Nat} (h : doc.isElement node = true)
    (cache : Cache) (selector : String) :
    cache.test doc node selector =
      ((cache.formula? selector).1.any (Language.holds · doc node), (cache.formula? selector).2) := by
  unfold test
  rw [if_pos h]
  rcases cache.formula? selector with ⟨_ | formula, after⟩ <;> rfl

/-- No selector selects what is not an element, and none is read for it. -/
theorem test_of_not_element {doc : Document} {node : Nat} (h : ¬ doc.isElement node = true)
    (cache : Cache) (selector : String) : cache.test doc node selector = (false, cache) :=
  if_neg h

/-- A test says what it says without a cache; afterwards the cache holds the selector, too, if the
test was one of an element. -/
theorem Keeps.test (h : cache.Keeps needed) (doc : Document) (node : Nat) (selector : String) :
    (cache.test doc node selector).1 = selects doc node selector ∧
      (cache.test doc node selector).2.Keeps fun other =>
        needed other ∨ doc.isElement node = true ∧ other = selector := by
  by_cases helement : doc.isElement node = true
  · obtain ⟨hformula, hkeeps⟩ := h.formula? selector
    rw [test_of_element helement, hformula, selects_of_element helement]
    exact ⟨rfl, hkeeps.congr fun other => by rw [helement, eq_self_iff_true, true_and]⟩
  · rw [test_of_not_element helement]
    constructor
    · rw [eq_comm, ← Bool.not_eq_true, selects_eq_true_iff]
      exact fun hselects => helement hselects.1
    · exact h.congr fun other => by rw [eq_false helement, false_and, or_false]

/-- Any question is answered as it is without a cache; afterwards the cache holds what it needs,
too. -/
theorem Keeps.ask (h : cache.Keeps needed) (query : Query) :
    (cache.ask query).1 = query.answer ∧
      (cache.ask query).2.Keeps fun selector => needed selector ∨ query.Needs selector := by
  cases query with
  | selects doc node selector =>
    obtain ⟨hanswer, hkeeps⟩ := h.test doc node selector
    exact ⟨congrArg Answer.selected hanswer, hkeeps⟩
  | check selector => exact ⟨rfl, h.congr fun selector => by rw [Query.Needs, or_false]⟩

/-! ## Many questions -/

/-- Questions are answered as they are without a cache, one after the other; afterwards the cache
holds what they need, too. -/
theorem Keeps.askAll (h : cache.Keeps needed) (queries : List Query) :
    (cache.askAll queries).1 = queries.map Query.answer ∧
      (cache.askAll queries).2.Keeps fun selector =>
        needed selector ∨ ∃ query ∈ queries, query.Needs selector := by
  induction queries generalizing cache needed with
  | nil => exact ⟨rfl, h.congr fun selector => by simp⟩
  | cons query queries ih =>
    obtain ⟨hanswer, hkeeps⟩ := h.ask query
    obtain ⟨hanswers, hlast⟩ := ih hkeeps
    refine ⟨?_, hlast.congr fun selector => ?_⟩
    · show (cache.ask query).1 :: ((cache.ask query).2.askAll queries).1 = _
      rw [hanswer, hanswers, List.map_cons]
    · simp only [List.mem_cons, exists_eq_or_imp, or_assoc]

/-- The cache of a matcher holds the selectors that the questions to it have needed so far. -/
theorem keeps_asked (queries : List Query) :
    (asked queries).Keeps fun selector => ∃ query ∈ queries, query.Needs selector :=
  (keeps_empty.askAll queries).2.congr fun selector => by rw [false_or]

/-- Whatever was asked before, questions are answered as they are without a cache. -/
theorem askAll_asked (before queries : List Query) :
    ((asked before).askAll queries).1 = queries.map Query.answer :=
  ((keeps_asked before).askAll queries).1

/-- The cache after further questions is that after all of them. -/
theorem askAll_asked_snd (before queries : List Query) :
    ((asked before).askAll queries).2 = asked (before ++ queries) :=
  (askAll_append empty before queries).symm

/-- Whatever was asked before, selectors select what they select without a cache, and a test is one
more question. -/
theorem test_asked (before : List Query) (doc : Document) (node : Nat) (selector : String) :
    (asked before).test doc node selector =
      (Css.matcher.selects doc node selector, asked (before ++ [.selects doc node selector])) := by
  have hanswer := ((keeps_asked before).test doc node selector).1
  have hafter := askAll_asked_snd before [.selects doc node selector]
  exact Prod.ext hanswer hafter

end Cache

end TreeText.Css
