/-
# The keys that a registry names

Templates and selectors name the attributes that they look at: a template in its tokens, a selector
in its qualifiers. Of each such name the last attribute counts. Datasets that agree on it for every
key of a registry are the same to its templates and selectors, whatever else they hold.

* `Dataset.Agrees` says that two datasets agree on keys, and `Dataset.Idle.agrees` that a dataset
  may be changed in other ways without a difference.
* `Registry.keys` are the keys that a registry names; `Template.render_of_agrees` and
  `Descent.Qualifier.holds_of_agrees` say that nothing else is looked at.
-/
import Mathlib.Logic.Relation
import TreeText.Descent.Selector
import TreeText.Proofs.Registry.Usable

namespace TreeText

/-! ## Last attributes -/

namespace Dataset

/-- The attributes of a name, in their order. -/
def named (dataset : Dataset) (name : String) : List (String × String) :=
  dataset.attributes.filter fun pair => name == pair.1

/-- The last attribute of a name. -/
def last? (dataset : Dataset) (name : String) : Option (String × String) :=
  (dataset.named name).getLast?

/-- What is looked up is the second part of the first pair with that name. -/
theorem lookup_eq_map_find? (pairs : List (String × String)) (name : String) :
    pairs.lookup name = (pairs.find? fun pair => name == pair.1).map Prod.snd := by
  induction pairs with
  | nil => rfl
  | cons pair pairs ih =>
    rw [List.lookup_cons, List.find?_cons, ih]
    cases name == pair.1 <;> rfl

/-- The value of a name is that of the last attribute of the name. -/
theorem get?_eq_last? (dataset : Dataset) (name : String) :
    dataset.get? name = (dataset.last? name).map Prod.snd := by
  rw [get?, lookup_eq_map_find?, last?, named, List.getLast?_filter]

/-- Two datasets have the same last attribute, or none, of each of the keys. -/
def Agrees (keys : List String) (dataset₁ dataset₂ : Dataset) : Prop :=
  ∀ key ∈ keys, dataset₁.last? key = dataset₂.last? key

variable {keys : List String} {dataset₁ dataset₂ : Dataset}

/-- Datasets that agree on keys have the same values for them. -/
theorem Agrees.get?_eq (h : Agrees keys dataset₁ dataset₂) {key : String} (hm : key ∈ keys) :
    dataset₁.get? key = dataset₂.get? key := by
  rw [get?_eq_last?, get?_eq_last?, h key hm]

/-- Datasets that agree on keys agree on fewer keys. -/
theorem Agrees.of_subset (h : Agrees keys dataset₁ dataset₂) {fewer : List String}
    (hsubset : fewer ⊆ keys) : Agrees fewer dataset₁ dataset₂ :=
  fun key hm => h key (hsubset hm)

/-! ## Idle changes -/

/-- A change of a dataset that does not show in the keys: two neighbours with different names change
places, or an attribute is left out because a later one replaces it or because its name is not among
the keys. -/
inductive Idle (keys : List String) : Dataset → Dataset → Prop where
  | swapped (front back : List (String × String)) {first second : String × String}
      (hnames : first.1 ≠ second.1) :
      Idle keys ⟨front ++ first :: second :: back⟩ ⟨front ++ second :: first :: back⟩
  | overwritten (front back : List (String × String)) {name value : String}
      (hlater : name ∈ back.map Prod.fst) :
      Idle keys ⟨front ++ (name, value) :: back⟩ ⟨front ++ back⟩
  | unnamed (front back : List (String × String)) {name value : String} (hname : name ∉ keys) :
      Idle keys ⟨front ++ (name, value) :: back⟩ ⟨front ++ back⟩

/-- Behind a name that occurs once more, the last attribute of the name is found there. -/
theorem last?_append_of_mem (front : List (String × String)) {back : List (String × String)}
    {name : String} (h : name ∈ back.map Prod.fst) :
    last? ⟨front ++ back⟩ name = last? ⟨back⟩ name := by
  obtain ⟨pair, hm, rfl⟩ := List.mem_map.1 h
  have hnamed : pair ∈ named ⟨back⟩ pair.1 := List.mem_filter.2 ⟨hm, beq_self_eq_true _⟩
  have hlast : (last? ⟨back⟩ pair.1).isSome = true :=
    List.getLast?_isSome.2 (List.ne_nil_of_mem hnamed)
  rw [last?, named, List.filter_append, List.getLast?_append]
  exact Option.or_of_isSome hlast

/-- An attribute in front of others does not count for another name. -/
theorem named_cons_of_ne {pair : String × String} {name : String} (h : name ≠ pair.1)
    (pairs : List (String × String)) : named ⟨pair :: pairs⟩ name = named ⟨pairs⟩ name :=
  List.filter_cons_of_neg (by simpa using h)

/-- An idle change keeps the last attribute of each key. -/
theorem Idle.agrees (h : Idle keys dataset₁ dataset₂) : Agrees keys dataset₁ dataset₂ := by
  intro key hm
  -- What stands in front is the same before and after the change.
  have hfront : ∀ {front back₁ back₂ : List (String × String)},
      named ⟨back₁⟩ key = named ⟨back₂⟩ key →
      last? ⟨front ++ back₁⟩ key = last? ⟨front ++ back₂⟩ key := by
    intro front back₁ back₂ hback
    unfold named at hback
    rw [last?, last?, named, named, List.filter_append, List.filter_append, hback]
  cases h with
  | @swapped front back first second hnames =>
    apply hfront
    by_cases hkey : key = first.1
    · simp [named, hkey, hnames]
    · simp [named, hkey, List.filter_cons]
  | @overwritten front back name value hlater =>
    by_cases hkey : key = name
    · subst hkey
      rw [← List.singleton_append, ← List.append_assoc, last?_append_of_mem _ hlater,
        last?_append_of_mem _ hlater]
    · exact hfront (named_cons_of_ne hkey back)
  | @unnamed front back name value hname =>
    have hkey : key ≠ name := fun heq => hname (heq ▸ hm)
    exact hfront (named_cons_of_ne hkey back)

/-- Any number of idle changes, made or undone, keep the last attribute of each key. -/
theorem agrees_of_eqvGen (h : Relation.EqvGen (Idle keys) dataset₁ dataset₂) :
    Agrees keys dataset₁ dataset₂ := by
  induction h with
  | rel _ _ hidle => exact hidle.agrees
  | refl _ => exact fun _ _ => rfl
  | symm _ _ _ ih => exact fun key hm => (ih key hm).symm
  | trans _ _ _ _ _ ih₁ ih₂ => exact fun key hm => (ih₁ key hm).trans (ih₂ key hm)

end Dataset

/-! ## Templates -/

/-- The key that a segment names, if it is a token for an attribute. -/
def Segment.key? : Segment → Option String
  | .dataset key => some key
  | _ => none

/-- The keys that a template names. -/
def Template.keys (template : Template) : List String :=
  template.segments.filterMap Segment.key?

/-- The keys that the template of a rule names, if it has one. -/
def Rule.keys (rule : Rule) : List String :=
  match rule.transform with
  | .template template => template.keys
  | .format _ => []

variable {dataset₁ dataset₂ : Dataset}

/-- A template is filled in alike for datasets that agree on its keys. -/
theorem Template.render_of_agrees {template : Template}
    (h : Dataset.Agrees template.keys dataset₁ dataset₂) (content : String) :
    template.render content dataset₁ = template.render content dataset₂ := by
  unfold Template.render
  congr 1
  refine List.map_congr_left fun segment hm => ?_
  cases segment with
  | dataset key =>
    have hkey : key ∈ template.keys := List.mem_filterMap.2 ⟨.dataset key, hm, rfl⟩
    rw [Segment.render, Segment.render, Dataset.value, Dataset.value, h.get?_eq hkey]
  | _ => rfl

/-! ## Selectors -/

namespace Descent

/-- The key that a qualifier names. -/
def Qualifier.key : Qualifier → String
  | .hasClass _ => "class"
  | .hasId _ => "id"
  | .hasAttribute name => name

/-- A qualifier looks at nothing but the value of its key. -/
theorem Qualifier.holds_of_get?_eq (qualifier : Qualifier)
    (h : dataset₁.get? qualifier.key = dataset₂.get? qualifier.key) :
    qualifier.holds dataset₁ = qualifier.holds dataset₂ := by
  cases qualifier with
  | hasClass name =>
    have hvalue : dataset₁.value "class" = dataset₂.value "class" := congrArg (·.getD "") h
    rw [Qualifier.holds, Qualifier.holds, Dataset.classes, Dataset.classes, hvalue]
  | hasId name => exact congrArg (· == some name) h
  | hasAttribute name => exact congrArg Option.isSome h

/-- The keys that a compound names. -/
def Compound.keys (compound : Compound) : List String :=
  compound.qualifiers.map Qualifier.key

/-- The qualifiers of a compound hold alike for datasets that agree on its keys. -/
theorem Compound.qualifiers_of_agrees {compound : Compound}
    (h : Dataset.Agrees compound.keys dataset₁ dataset₂) :
    compound.qualifiers.all (Qualifier.holds dataset₁) =
      compound.qualifiers.all (Qualifier.holds dataset₂) := by
  rw [Bool.eq_iff_iff, List.all_eq_true, List.all_eq_true]
  refine forall₂_congr fun qualifier hm => ?_
  rw [qualifier.holds_of_get?_eq (h.get?_eq (List.mem_map_of_mem hm))]

/-- The keys that a selector names; a text that cannot be read names none. -/
def selectorKeys (selector : String) : List String :=
  match read selector with
  | .ok alternatives => alternatives.flatten.flatMap Compound.keys
  | .error _ => []

end Descent

/-- The keys that a registry names: in its templates, in the selectors of its rules and in those of
the elements that it ignores. -/
def Registry.keys (registry : Registry) : List String :=
  registry.rules.flatMap Rule.keys ++ registry.selectors.flatMap Descent.selectorKeys

namespace Registry

variable {registry : Registry}

/-- The keys of a rule's template are keys of the registry. -/
theorem rule_keys_subset {rule : Rule} (h : rule ∈ registry.rules) : rule.keys ⊆ registry.keys :=
  fun _ hm => List.mem_append_left _ (List.mem_flatMap.2 ⟨rule, h, hm⟩)

/-- The keys of a selector are keys of the registry. -/
theorem selectorKeys_subset {selector : String} (h : selector ∈ registry.selectors) :
    Descent.selectorKeys selector ⊆ registry.keys :=
  fun _ hm => List.mem_append_right _ (List.mem_flatMap.2 ⟨selector, h, hm⟩)

end Registry

end TreeText
