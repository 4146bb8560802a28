/-
# Selectors read once

How style selectors are written, and which elements a formula holds for, is left to a language. A
cache keeps the formulas of the selectors that have been tested on elements, so that each selector is
read once. Selectors that cannot be read are not kept, and select nothing.

* `Css.Language` is what has to be known of a language.
* `Css.matcher` reads a selector each time that it is tested.
* `Cache.test` tests a selector and says what the cache holds afterwards.
* `Cache.matcher` answers from a cache and reads what the cache does not hold.
-/
import TreeText.Matcher

namespace TreeText.Css

/-! ## Languages -/

/-- A language of selectors: how a selector is read as a formula, or why it cannot be read, and
whether a formula holds for an element. -/
class Language where
  Formula : Type
  read : String → Except String Formula
  holds : Formula → Document → Nat → Bool

variable [Language]

/-! ## Selectors without a cache -/

/-- Whether a selector, read afresh, selects a node. A selector that cannot be read selects none. -/
def selects (doc : Document) (node : Nat) (selector : String) : Bool :=
  match Language.read selector with
  | .ok formula => doc.isElement node && Language.holds formula doc node
  | .error _ => false

/-- Whether a selector can be read. -/
def check (selector : String) : Except String Unit :=
  match Language.read selector with
  | .ok _ => .ok ()
  | .error reason => .error reason

/-- The matcher for style selectors. -/
def matcher : Matcher where
  selects := selects
  check := check

/-! ## Caches -/

/-- Selectors with their formulas, in the order in which they were first needed. -/
structure Cache where
  entries : List (String × Language.Formula)

namespace Cache

/-- The cache in which nothing has been kept. -/
def empty : Cache := ⟨[]⟩

/-- The formula of a selector, if it has been kept. -/
def find? (cache : Cache) (selector : String) : Option Language.Formula :=
  cache.entries.lookup selector

/-- The formula of a selector, if it can be read, and the cache that keeps it. -/
def formula? (cache : Cache) (selector : String) : Option Language.Formula × Cache :=
  match cache.find? selector with
  | some formula => (some formula, cache)
  | none =>
    match Language.read selector with
    | .ok formula => (some formula, ⟨cache.entries ++ [(selector, formula)]⟩)
    | .error _ => (none, cache)

/-- Whether a selector selects a node, and the cache afterwards. The formula is needed for elements
only. -/
def test (cache : Cache) (doc : Document) (node : Nat) (selector : String) : Bool × Cache :=
  if doc.isElement node then
    match cache.formula? selector with
    | (some formula, after) => (Language.holds formula doc node, after)
    | (none, after) => (false, after)
  else (false, cache)

/-- The matcher that looks into a cache first. -/
def matcher (cache : Cache) : Matcher where
  selects := fun doc node selector => (cache.test doc node selector).1
  check := check

end Cache

end TreeText.Css
