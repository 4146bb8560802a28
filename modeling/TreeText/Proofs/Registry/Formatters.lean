/-
# The formatters of a registry

A registry may call the formatters of its rules and its fallback. What is asked of a registry's
formatters is asked of all of these.

* `Registry.formatters` lists them.
* `Conversion.formattersFor` lists those that an element may go to, in their order.
-/
import TreeText.Conversion
import TreeText.Proofs.Formatter.Script

namespace TreeText

/-- The formatter that a rule calls, if it calls one. -/
def Rule.formatter? (rule : Rule) : Option Formatter :=
  match rule.transform with
  | .template _ => none
  | .format formatter => some formatter

namespace Registry

/-- The formatters that a registry may call, those of its rules and its fallback. -/
def formatters (registry : Registry) : List Formatter :=
  registry.rules.filterMap Rule.formatter? ++ registry.fallback.toList

/-- A registry whose formatters never ask for the text of a node. -/
def NeverConverts (registry : Registry) : Prop :=
  ∀ formatter ∈ registry.formatters, formatter.NeverConverts

/-- A registry whose formatters make the failures that they are given their own. -/
def Propagates (registry : Registry) : Prop :=
  ∀ formatter ∈ registry.formatters, formatter.Propagates

/-- A registry whose formatters look at nothing but their elements. -/
def SelfContained (registry : Registry) : Prop :=
  ∀ formatter ∈ registry.formatters, formatter.SelfContained

/-- A registry may call the formatters of its rules. -/
theorem mem_formatters_of_rule {registry : Registry} {rule : Rule} {formatter : Formatter}
    (h : rule ∈ registry.rules) (hf : rule.formatter? = some formatter) :
    formatter ∈ registry.formatters :=
  List.mem_append_left _ (List.mem_filterMap.2 ⟨rule, h, hf⟩)

/-- A registry may call its fallback. -/
theorem mem_formatters_of_fallback {registry : Registry} {formatter : Formatter}
    (h : registry.fallback = some formatter) : formatter ∈ registry.formatters := by
  simp [formatters, h]

/-- Without formatters, no rule calls one. -/
theorem formatter?_eq_none {registry : Registry} {rule : Rule} (h : registry.formatters = [])
    (hm : rule ∈ registry.rules) : rule.formatter? = none :=
  List.filterMap_eq_nil_iff.1 (List.append_eq_nil_iff.1 h).1 rule hm

/-- Without formatters, there is no fallback. -/
theorem fallback_eq_none {registry : Registry} (h : registry.formatters = []) :
    registry.fallback = none :=
  Option.toList_eq_nil_iff.1 (List.append_eq_nil_iff.1 h).2

/-- Without formatters, none asks for the text of a node. -/
theorem neverConverts_of_formatters_eq_nil {registry : Registry} (h : registry.formatters = []) :
    registry.NeverConverts := by
  intro formatter hm
  rw [h] at hm
  cases hm

end Registry

namespace Conversion

/-- The rules of an element are rules of the registry, and so are their formatters. -/
theorem mem_formatters_of_mem_rulesFor {c : Conversion} {node : Nat} {rule : Rule}
    {formatter : Formatter} (h : rule ∈ c.rulesFor node) (hf : rule.formatter? = some formatter) :
    formatter ∈ c.registry.formatters :=
  Registry.mem_formatters_of_rule (List.mem_filter.1 h).1 hf

/-- The formatters that an element may go to, in their order: those of the rules that select it, or
the fallback if no rule does. -/
def formattersFor (c : Conversion) (node : Nat) : List Formatter :=
  match c.rulesFor node with
  | [] => c.registry.fallback.toList
  | rules => rules.filterMap Rule.formatter?

/-- The formatters that an element may go to are formatters of the registry. -/
theorem mem_formatters_of_mem_formattersFor {c : Conversion} {node : Nat} {formatter : Formatter}
    (h : formatter ∈ c.formattersFor node) : formatter ∈ c.registry.formatters := by
  unfold formattersFor at h
  cases hrules : c.rulesFor node with
  | nil =>
    rw [hrules] at h
    exact List.mem_append_right _ h
  | cons first rules =>
    rw [hrules] at h
    obtain ⟨rule, hrule, hformatter⟩ := List.mem_filterMap.1 h
    exact mem_formatters_of_mem_rulesFor (hrules ▸ hrule) hformatter

/-- The formatter that an element goes to first: that of the first rule that selects it, if this
rule calls one, or the fallback if no rule selects it. -/
def firstFormatter? (c : Conversion) (node : Nat) : Option Formatter :=
  match c.rulesFor node with
  | [] => c.registry.fallback
  | first :: _ => first.formatter?

end Conversion

end TreeText
