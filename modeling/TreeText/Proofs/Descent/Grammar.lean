/-
# The grammar of descent selectors

A selector can be read if each of its pieces between commas has words, and each word writes a
compound: a type or none, and behind it any number of qualifiers, each with a name. Names go as far
as they can, and no type goes on where a qualifier begins; so nothing else can be read, and a word
writes one compound only. The qualifiers of a word are also what a scan finds in it that passes over
whatever is none: it has nothing to pass over.

* `TypePart` and `Compound.Writes` say how compounds are written, without a reader.
* `Compound.read?_eq_some_iff` is about words, and `read_eq_ok_iff` about selectors.
* `Compound.searched?_eq_read?` compares with a scan for qualifiers, `Compound.sorted?_eq` with one
  that sorts them by kind, and `Compound.holds_iff` says what the names of each kind ask for.
-/
import Mathlib.Data.List.TakeWhile
import TreeText.Descent.Selector
import TreeText.Proofs.Text.Entries

namespace TreeText.Descent

open Text

/-! ## Names -/

/-- A name that can be written: one or more characters of names. -/
def IsName (name : String) : Prop :=
  name ≠ "" ∧ ∀ c ∈ name.toList, isNameChar c = true

/-- Where no name goes on: nothing follows, or what follows is no character of names. -/
def EndsName (rest : List Char) : Prop :=
  ∀ c ∈ rest.head?, isNameChar c = false

/-- The characters of a name are taken up to where it ends. -/
theorem takeWhile_name {name rest : List Char} (h : ∀ c ∈ name, isNameChar c = true)
    (hrest : EndsName rest) :
    (name ++ rest).takeWhile isNameChar = name ∧ (name ++ rest).dropWhile isNameChar = rest := by
  rw [List.takeWhile_append_of_pos h, List.dropWhile_append_of_pos h]
  cases rest with
  | nil => exact ⟨List.append_nil name, rfl⟩
  | cons c cs =>
    have hc : ¬ isNameChar c = true := by
      rw [hrest c rfl]
      exact Bool.false_ne_true
    rw [List.takeWhile_cons_of_neg hc, List.dropWhile_cons_of_neg hc]
    exact ⟨List.append_nil name, rfl⟩

/-! ## Qualifiers -/

namespace Qualifier

/-- The name that a qualifier asks for. -/
def name : Qualifier → String
  | hasClass name => name
  | hasId name => name
  | hasAttribute name => name

/-- A qualifier as it is written. -/
def text : Qualifier → List Char
  | hasClass name => '.' :: name.toList
  | hasId name => '#' :: name.toList
  | hasAttribute name => '[' :: (name.toList ++ [']'])

/-- A name in front is read as far as it goes. -/
theorem name?_append {name : String} (h : IsName name) {rest : List Char} (hrest : EndsName rest) :
    name? (name.toList ++ rest) = some (name, rest) := by
  obtain ⟨htake, hdrop⟩ := takeWhile_name h.2 hrest
  obtain ⟨c, cs, hname⟩ : ∃ c cs, name.toList = c :: cs :=
    List.exists_cons_of_ne_nil fun hnil => h.1 (String.toList_eq_nil_iff.1 hnil)
  rw [name?, htake, hdrop, hname]
  show some (String.ofList (c :: cs), rest) = some (name, rest)
  rw [← hname, String.ofList_toList]

/-- What is read as a name is one, and stands in front of the rest. -/
theorem of_name?_eq_some {s rest : List Char} {name : String} (h : name? s = some (name, rest)) :
    IsName name ∧ s = name.toList ++ rest := by
  unfold name? at h
  split at h
  · cases h
  · next c cs htake =>
    cases h
    refine ⟨⟨?_, fun d hmem => ?_⟩, ?_⟩
    · intro hempty
      have hnil := congrArg String.toList hempty
      rw [String.toList_ofList] at hnil
      cases hnil
    · rw [String.toList_ofList, ← htake] at hmem
      exact List.mem_takeWhile_imp hmem
    · rw [String.toList_ofList, ← htake, List.takeWhile_append_dropWhile]

/-- A qualifier in front is read. -/
theorem read?_text_append {qualifier : Qualifier} (h : IsName qualifier.name) {rest : List Char}
    (hrest : EndsName rest) : read? (qualifier.text ++ rest) = some (qualifier, rest) := by
  cases qualifier with
  | hasClass name =>
    have hname : name? (name.toList ++ rest) = some (name, rest) := name?_append h hrest
    show (name? (name.toList ++ rest)).map _ = _
    rw [hname]
    rfl
  | hasId name =>
    have hname : name? (name.toList ++ rest) = some (name, rest) := name?_append h hrest
    show (name? (name.toList ++ rest)).map _ = _
    rw [hname]
    rfl
  | hasAttribute name =>
    have hbracket : EndsName (']' :: rest) := by
      intro c hmem
      obtain rfl : ']' = c := Option.some.inj hmem
      decide
    have htext : (hasAttribute name).text ++ rest = '[' :: (name.toList ++ ']' :: rest) := by
      simp [text]
    have hname : name? (name.toList ++ ']' :: rest) = some (name, ']' :: rest) :=
      name?_append h hbracket
    rw [htext, read?, hname]
    rfl

/-- What is read as a qualifier has a name, and stands in front of the rest. -/
theorem of_read?_eq_some {s rest : List Char} {qualifier : Qualifier}
    (h : read? s = some (qualifier, rest)) :
    IsName qualifier.name ∧ s = qualifier.text ++ rest := by
  unfold read? at h
  split at h
  · obtain ⟨⟨name, after⟩, hname, heq⟩ := Option.map_eq_some_iff.1 h
    cases heq
    obtain ⟨hisName, rfl⟩ := of_name?_eq_some hname
    exact ⟨hisName, rfl⟩
  · obtain ⟨⟨name, after⟩, hname, heq⟩ := Option.map_eq_some_iff.1 h
    cases heq
    obtain ⟨hisName, rfl⟩ := of_name?_eq_some hname
    exact ⟨hisName, rfl⟩
  · split at h
    · next hname =>
      cases h
      obtain ⟨hisName, rfl⟩ := of_name?_eq_some hname
      exact ⟨hisName, by simp [text]⟩
    · cases h
  · cases h

/-- What begins a qualifier. -/
theorem head?_flatMap_text (qualifiers : List Qualifier) :
    ∀ c ∈ (qualifiers.flatMap text).head?, c ∈ ['.', '#', '['] := by
  intro c hmem
  cases qualifiers with
  | nil => cases hmem
  | cons qualifier qualifiers =>
    cases qualifier with
    | hasClass name =>
      obtain rfl : '.' = c := Option.some.inj hmem
      decide
    | hasId name =>
      obtain rfl : '#' = c := Option.some.inj hmem
      decide
    | hasAttribute name =>
      obtain rfl : '[' = c := Option.some.inj hmem
      decide

/-- No name goes on where qualifiers follow, or nothing. -/
theorem endsName_flatMap_text (qualifiers : List Qualifier) :
    EndsName (qualifiers.flatMap text) := by
  intro c hmem
  have hc : c ∈ ['.', '#', '['] := head?_flatMap_text qualifiers c hmem
  simp only [List.mem_cons, List.not_mem_nil, or_false] at hc
  rcases hc with rfl | rfl | rfl <;> decide

/-! ## Texts of qualifiers -/

/-- A qualifier in front is the first of them. -/
theorem readAll?_of_read? {s rest : List Char} {qualifier : Qualifier}
    (h : read? s = some (qualifier, rest)) :
    readAll? s = (readAll? rest).map (qualifier :: ·) := by
  cases s with
  | nil => cases h
  | cons c cs =>
    rw [readAll?]
    split
    · next other after hother =>
      cases hother.symm.trans h
      rfl
    · next hnone =>
      rw [hnone] at h
      cases h

/-- A text that does not begin with a qualifier consists of none. -/
theorem readAll?_of_read?_eq_none {c : Char} {cs : List Char} (h : read? (c :: cs) = none) :
    readAll? (c :: cs) = none := by
  rw [readAll?]
  split
  · next other after hother =>
    rw [h] at hother
    cases hother
  · rfl

/-- A text consists of qualifiers exactly if it is written by them one after the other, each with a
name. -/
theorem readAll?_eq_some_iff {s : List Char} {qualifiers : List Qualifier} :
    readAll? s = some qualifiers ↔
      (∀ qualifier ∈ qualifiers, IsName qualifier.name) ∧ s = qualifiers.flatMap text := by
  constructor
  · intro h
    induction qualifiers generalizing s with
    | nil =>
      cases s with
      | nil => exact ⟨fun _ hmem => absurd hmem List.not_mem_nil, rfl⟩
      | cons c cs =>
        cases hread : read? (c :: cs) with
        | none =>
          rw [readAll?_of_read?_eq_none hread] at h
          cases h
        | some found =>
          rw [readAll?_of_read? hread] at h
          obtain ⟨_, -, heq⟩ := Option.map_eq_some_iff.1 h
          cases heq
    | cons first others ih =>
      cases s with
      | nil =>
        rw [readAll?] at h
        cases h
      | cons c cs =>
        cases hread : read? (c :: cs) with
        | none =>
          rw [readAll?_of_read?_eq_none hread] at h
          cases h
        | some found =>
          rw [readAll?_of_read? hread] at h
          obtain ⟨_, hrest, heq⟩ := Option.map_eq_some_iff.1 h
          cases heq
          obtain ⟨hfirst, hs⟩ := of_read?_eq_some hread
          obtain ⟨hothers, hbehind⟩ := ih hrest
          rw [hs, hbehind]
          exact ⟨List.forall_mem_cons.2 ⟨hfirst, hothers⟩, List.flatMap_cons.symm⟩
  · rintro ⟨hnames, rfl⟩
    induction qualifiers with
    | nil =>
      rw [List.flatMap_nil, readAll?]
    | cons first others ih =>
      obtain ⟨hfirst, hothers⟩ := List.forall_mem_cons.1 hnames
      rw [List.flatMap_cons,
        readAll?_of_read? (read?_text_append hfirst (endsName_flatMap_text others)), ih hothers]
      rfl

/-- A scan takes the qualifier in front. -/
theorem found_of_read? {s rest : List Char} {qualifier : Qualifier}
    (h : read? s = some (qualifier, rest)) : found s = qualifier :: found rest := by
  cases s with
  | nil => cases h
  | cons c cs =>
    rw [found]
    split
    · next other after hother =>
      cases hother.symm.trans h
      rfl
    · next hnone =>
      rw [hnone] at h
      cases h

/-- In a text that consists of qualifiers, a scan finds all of them in their order. -/
theorem found_of_readAll? {s : List Char} {qualifiers : List Qualifier}
    (h : readAll? s = some qualifiers) : found s = qualifiers := by
  obtain ⟨hnames, rfl⟩ := readAll?_eq_some_iff.1 h
  clear h
  induction qualifiers with
  | nil =>
    rw [List.flatMap_nil, found]
  | cons first others ih =>
    obtain ⟨hfirst, hothers⟩ := List.forall_mem_cons.1 hnames
    rw [List.flatMap_cons,
      found_of_read? (read?_text_append hfirst (endsName_flatMap_text others)), ih hothers]

end Qualifier

/-! ## Compounds -/

/-- The type in front of a word, and the tag that it asks for: nothing and a star ask for none, and a
name that begins with a letter asks for the tag that it is in lower case. -/
inductive TypePart : List Char → Option String → Prop where
  | absent : TypePart [] none
  | star : TypePart ['*'] none
  | named {c : Char} {cs : List Char} (hletter : c.isAlpha = true)
      (hname : ∀ d ∈ cs, isNameChar d = true) :
      TypePart (c :: cs) (some (String.ofList ((c :: cs).map Char.toLower)))

namespace Compound

/-- A word writes a compound: its type, and behind it its qualifiers one after the other. -/
inductive Writes : List Char → Compound → Prop where
  | mk {part : List Char} {tag : Option String} {qualifiers : List Qualifier}
      (htype : TypePart part tag) (hnames : ∀ qualifier ∈ qualifiers, IsName qualifier.name) :
      Writes (part ++ qualifiers.flatMap Qualifier.text) ⟨tag, qualifiers⟩

/-- A type in front of qualifiers is read. -/
theorem readType_append {part : List Char} {tag : Option String} (h : TypePart part tag)
    (qualifiers : List Qualifier) :
    readType (part ++ qualifiers.flatMap Qualifier.text) =
      (tag, qualifiers.flatMap Qualifier.text) := by
  cases h with
  | absent =>
    have hhead := Qualifier.head?_flatMap_text qualifiers
    rw [List.nil_append]
    cases hrest : qualifiers.flatMap Qualifier.text with
    | nil => rfl
    | cons c cs =>
      rw [hrest] at hhead
      have hc : c ∈ ['.', '#', '['] := hhead c rfl
      simp only [List.mem_cons, List.not_mem_nil, or_false] at hc
      rcases hc with rfl | rfl | rfl <;> rfl
  | star => rfl
  | @named c cs hletter hname =>
    obtain ⟨htake, hdrop⟩ := takeWhile_name hname (Qualifier.endsName_flatMap_text qualifiers)
    have hstar : c ≠ '*' := by
      rintro rfl
      exact absurd hletter (by decide)
    rw [List.cons_append, readType, if_pos hletter, htake, hdrop]
    exact hstar

/-- What is read as a type is one, and stands in front of the rest. -/
theorem exists_typePart_readType (word : List Char) :
    ∃ part, TypePart part (readType word).1 ∧ word = part ++ (readType word).2 := by
  unfold readType
  split
  · exact ⟨['*'], .star, rfl⟩
  · next c rest _ =>
    by_cases hletter : c.isAlpha = true
    · rw [if_pos hletter]
      refine ⟨c :: rest.takeWhile isNameChar, .named hletter fun d => List.mem_takeWhile_imp, ?_⟩
      show c :: rest = c :: (rest.takeWhile isNameChar ++ rest.dropWhile isNameChar)
      rw [List.takeWhile_append_dropWhile]
    · rw [if_neg hletter]
      exact ⟨[], .absent, rfl⟩
  · exact ⟨[], .absent, rfl⟩

/-- A word is read as a compound exactly if it writes it. -/
theorem read?_eq_some_iff {word : List Char} {compound : Compound} :
    read? word = some compound ↔ Writes word compound := by
  constructor
  · intro h
    obtain ⟨part, htype, hword⟩ := exists_typePart_readType word
    rw [read?] at h
    generalize readType word = type at h htype hword
    obtain ⟨tag, rest⟩ := type
    obtain ⟨qualifiers, hrest, rfl⟩ := Option.map_eq_some_iff.1 h
    obtain ⟨hnames, hbehind⟩ := Qualifier.readAll?_eq_some_iff.1 hrest
    have hword : word = part ++ qualifiers.flatMap Qualifier.text := by
      rw [hword, ← hbehind]
    rw [hword]
    exact .mk htype hnames
  · rintro ⟨htype, hnames⟩
    have hread := Qualifier.readAll?_eq_some_iff.2 ⟨hnames, rfl⟩
    rw [read?, readType_append htype]
    show (Qualifier.readAll? _).map _ = _
    rw [hread]
    rfl

/-- Looking for the qualifiers of a word misses none of them and finds no more. -/
theorem searched?_eq_read? (word : List Char) : searched? word = read? word := by
  unfold searched? read?
  cases hrest : Qualifier.readAll? (readType word).2 with
  | none => simp [hrest]
  | some qualifiers => simp [hrest, Qualifier.found_of_readAll? hrest]

end Compound

/-! ## Names by kind -/

/-- Names are put behind those of their kind, in the order of their qualifiers. -/
theorem Names.foldl_add (names : Names) (qualifiers : List Qualifier) :
    qualifiers.foldl Names.add names =
      ⟨names.classes ++ qualifiers.filterMap Qualifier.class?,
        names.ids ++ qualifiers.filterMap Qualifier.id?,
        names.attributes ++ qualifiers.filterMap Qualifier.attribute?⟩ := by
  induction qualifiers generalizing names with
  | nil => simp
  | cons qualifier qualifiers ih =>
    rw [List.foldl_cons, ih, List.filterMap_cons, List.filterMap_cons, List.filterMap_cons]
    cases qualifier <;> simp [Names.add, Qualifier.class?, Qualifier.id?, Qualifier.attribute?]

namespace Compound

/-- Sorting what is looked for in a word gives the names of the compound that is read. -/
theorem sorted?_eq (word : List Char) :
    sorted? word = (read? word).map fun compound => (compound.tag, compound.names) := by
  rw [sorted?, searched?_eq_read?]
  refine congrArg ((read? word).map ·) (funext fun compound => ?_)
  rw [Names.foldl_add]
  rfl

/-- Any names are those of a compound. -/
theorem names_qualifiers (tag : Option String) (names : Names) :
    (Compound.mk tag names.qualifiers).names = names := by
  have hclasses : names.qualifiers.filterMap Qualifier.class? = names.classes := by
    simp [Names.qualifiers, List.filterMap_map, Function.comp_def, Qualifier.class?]
  have hids : names.qualifiers.filterMap Qualifier.id? = names.ids := by
    simp [Names.qualifiers, List.filterMap_map, Function.comp_def, Qualifier.id?]
  have hattributes : names.qualifiers.filterMap Qualifier.attribute? = names.attributes := by
    simp [Names.qualifiers, List.filterMap_map, Function.comp_def, Qualifier.attribute?]
  unfold Compound.names
  rw [hclasses, hids, hattributes]

/-- The qualifiers of a compound hold exactly if each of its names is there as what it is asked for:
as a class, as the identifier, as an attribute. -/
theorem all_holds_iff (compound : Compound) (dataset : Dataset) :
    compound.qualifiers.all (Qualifier.holds dataset) = true ↔
      (∀ name ∈ compound.names.classes, name ∈ dataset.classes) ∧
        (∀ name ∈ compound.names.ids, dataset.get? "id" = some name) ∧
        ∀ name ∈ compound.names.attributes, dataset.contains name = true := by
  unfold names
  induction compound.qualifiers with
  | nil => simp
  | cons qualifier qualifiers ih =>
    rw [List.all_cons, Bool.and_eq_true, ih, List.filterMap_cons, List.filterMap_cons,
      List.filterMap_cons]
    cases qualifier with
    | hasClass name =>
      simp [Qualifier.class?, Qualifier.id?, Qualifier.attribute?, Qualifier.holds, and_assoc]
    | hasId name =>
      simp [Qualifier.class?, Qualifier.id?, Qualifier.attribute?, Qualifier.holds, and_assoc,
        and_left_comm]
    | hasAttribute name =>
      simp [Qualifier.class?, Qualifier.id?, Qualifier.attribute?, Qualifier.holds, and_left_comm]

/-- A compound holds on the elements of its type, without regard to case, that have what its names
ask for. -/
theorem holds_iff {compound : Compound} {doc : Document} {node : Nat} :
    compound.holds doc node = true ↔
      ∃ tag dataset, doc.content? node = some (.element tag dataset) ∧
        (∀ wanted ∈ compound.tag, wanted.toLower = tag.toLower) ∧
        (∀ name ∈ compound.names.classes, name ∈ dataset.classes) ∧
        (∀ name ∈ compound.names.ids, dataset.get? "id" = some name) ∧
        ∀ name ∈ compound.names.attributes, dataset.contains name = true := by
  unfold holds
  rcases doc.content? node with _ | ⟨tag, dataset⟩ | text | _
  · exact iff_of_false nofun nofun
  · show (compound.tag.all _ && compound.qualifiers.all (Qualifier.holds dataset)) = true ↔ _
    rw [Bool.and_eq_true, all_holds_iff, Option.all_eq_true]
    constructor
    · rintro ⟨htag, hnames⟩
      exact ⟨tag, dataset, rfl, fun wanted hm => eq_of_beq (htag wanted hm), hnames⟩
    · rintro ⟨_, _, hcontent, htag, hnames⟩
      cases hcontent
      exact ⟨fun wanted hm => beq_iff_eq.2 (htag wanted hm), hnames⟩
  · exact iff_of_false nofun nofun
  · exact iff_of_false nofun nofun

end Compound

/-! ## Selectors -/

theorem readWord_eq_ok_iff {word : List Char} {compound : Compound} :
    readWord word = .ok compound ↔ Compound.Writes word compound := by
  rw [← Compound.read?_eq_some_iff, readWord]
  cases Compound.read? word with
  | none => exact iff_of_false nofun nofun
  | some other =>
    exact ⟨fun h => congrArg some (Except.ok.inj h), fun h => congrArg Except.ok (Option.some.inj h)⟩

/-- A piece writes an alternative: it has words, and each of them writes one compound. -/
def Alternative.Writes (piece : List Char) (alternative : Alternative) : Prop :=
  words piece ≠ [] ∧ List.Forall₂ Compound.Writes (words piece) alternative

theorem readAlternative_eq_ok_iff {selector : String} {piece : List Char}
    {alternative : Alternative} :
    readAlternative selector piece = .ok alternative ↔ Alternative.Writes piece alternative := by
  have hwords : ∀ compounds, (words piece).mapM readWord = .ok compounds ↔
      List.Forall₂ Compound.Writes (words piece) compounds := fun compounds => by
    simp only [mapM_eq_ok_iff_forall₂, readWord_eq_ok_iff]
  rw [readAlternative, Alternative.Writes, ← hwords]
  cases hread : (words piece).mapM readWord with
  | error fault => exact iff_of_false nofun fun h => nomatch h.2
  | ok compounds =>
    have hlength := ((hwords compounds).1 hread).length_eq
    cases compounds with
    | nil =>
      -- Without words there is no alternative.
      have hnone : words piece = [] := List.length_eq_zero_iff.1 hlength
      exact iff_of_false nofun fun h => h.1 hnone
    | cons compound compounds =>
      have hsome : words piece ≠ [] := by
        intro hnone
        rw [hnone] at hlength
        cases hlength
      exact ⟨fun h => ⟨hsome, h⟩, fun h => h.2⟩

/-- A selector is read exactly if each of its pieces between commas writes one of the alternatives,
in their order. -/
theorem read_eq_ok_iff {selector : String} {alternatives : List Alternative} :
    read selector = .ok alternatives ↔
      List.Forall₂ Alternative.Writes (pieces (· == ',') selector.toList) alternatives := by
  rw [read, mapM_eq_ok_iff_forall₂]
  simp only [readAlternative_eq_ok_iff]

/-- A selector is accepted exactly if it can be read. -/
theorem check_eq_ok_iff {selector : String} :
    matcher.check selector = .ok () ↔ ∃ alternatives, read selector = .ok alternatives := by
  show check selector = .ok () ↔ _
  unfold check
  cases read selector with
  | error fault => exact iff_of_false nofun fun ⟨_, h⟩ => nomatch h
  | ok alternatives => exact iff_of_true rfl ⟨alternatives, rfl⟩

end TreeText.Descent
