/-
# Descent selectors as texts

Alternatives are printed with commas between them, their compounds with spaces between them, and a
compound as its type and its qualifiers one after the other. Neither a comma nor a blank stands in
the text of a compound, so the printed text falls into the same alternatives and words again.

* `read_print` is about the way back from a printed text, which only no alternatives at all do not
  have: `not_forall_read_print`.
* `read_iff_writes_and_read_print` puts it together with the grammar of what can be read.
-/
import TreeText.Proofs.Descent.Grammar
import TreeText.Proofs.Text.Pieces

namespace TreeText.Descent

open Text

/-! ## Letters -/

/-- A letter is a character of names. -/
theorem isNameChar_of_isAlpha {c : Char} (h : c.isAlpha = true) : isNameChar c = true := by
  have hascii : c.toNat < 128 := by
    have hcase : (c.isUpper || c.isLower) = true := h
    rcases Bool.or_eq_true_iff.1 hcase with hupper | hlower
    · have hle : c.toNat ≤ 90 := (of_decide_eq_true hupper).2
      omega
    · have hle : c.toNat ≤ 122 := of_decide_eq_true (Bool.and_eq_true_iff.1 hlower).2
      omega
  have hword : isWordChar c = (c.isAlpha || c.isDigit || c == '_') := if_pos hascii
  rw [isNameChar, hword, h]
  rfl

/-- What is in lower case stays as it is, and in lower case a letter is still a letter and a character
of names one of names. -/
theorem toLower_cases (c : Char) :
    c.toLower.toLower = c.toLower ∧ (c.isAlpha = true → c.toLower.isAlpha = true) ∧
      (isNameChar c = true → isNameChar c.toLower = true) := by
  by_cases hascii : c.toNat < 128
  · have hall : ∀ n < 128, (Char.ofNat n).toLower.toLower = (Char.ofNat n).toLower ∧
        ((Char.ofNat n).isAlpha = true → (Char.ofNat n).toLower.isAlpha = true) ∧
        (isNameChar (Char.ofNat n) = true → isNameChar (Char.ofNat n).toLower = true) := by
      decide +kernel
    have hc := hall c.toNat hascii
    rwa [Char.ofNat_toNat] at hc
  · -- Any other character is its own lower case.
    have hnot : ¬ (c.val ≥ 'A'.val ∧ c.val ≤ 'Z'.val) := by
      rintro ⟨-, hle⟩
      have hle : c.toNat ≤ 90 := hle
      omega
    have hsame : c.toLower = c := dif_neg hnot
    rw [hsame]
    exact ⟨hsame, id, id⟩

/-- The text of a tag is a type that asks for this tag. -/
theorem TypePart.toList_tag {part : List Char} {tag : String} (h : TypePart part (some tag)) :
    TypePart tag.toList (some tag) := by
  cases h with
  | @named c cs hletter hname =>
    have hlower : ∀ d ∈ cs.map Char.toLower, isNameChar d = true := by
      intro d hmem
      obtain ⟨e, he, rfl⟩ := List.mem_map.1 hmem
      exact (toLower_cases e).2.2 (hname e he)
    have hagain : ((c :: cs).map Char.toLower).map Char.toLower = (c :: cs).map Char.toLower := by
      rw [List.map_map]
      exact List.map_congr_left fun d _ => (toLower_cases d).1
    have htype := TypePart.named ((toLower_cases c).2.1 hletter) hlower
    rw [← List.map_cons, hagain] at htype
    rw [String.toList_ofList]
    exact htype

/-! ## Printing -/

namespace Compound

/-- A compound as it is written: its type, unless it asks for none, and its qualifiers. -/
def text (compound : Compound) : List Char :=
  (compound.tag.getD "").toList ++ compound.qualifiers.flatMap Qualifier.text

/-- A compound that can be printed: it asks for something, and some word writes it. -/
def Printable (compound : Compound) : Prop :=
  (compound.tag ≠ none ∨ compound.qualifiers ≠ []) ∧ ∃ word, Writes word compound

/-- The text of a compound writes it. -/
theorem Printable.writes_text {compound : Compound} (h : compound.Printable) :
    Writes compound.text compound := by
  obtain ⟨-, word, ⟨htype, hnames⟩⟩ := h
  unfold text
  cases htype with
  | absent => exact .mk .absent hnames
  | star => exact .mk .absent hnames
  | named hletter hname => exact .mk (TypePart.named hletter hname).toList_tag hnames

/-- The text of a compound that asks for something is not empty. -/
theorem Printable.text_ne_nil {compound : Compound} (h : compound.Printable) :
    compound.text ≠ [] := by
  intro hnil
  obtain ⟨htag, hqualifiers⟩ := List.append_eq_nil_iff.1 hnil
  rcases h with ⟨hasks | hasks, word, ⟨htype, hnames⟩⟩
  · cases htype with
    | absent => exact hasks rfl
    | star => exact hasks rfl
    | named hletter hname =>
      rw [Option.getD_some, String.toList_ofList] at htag
      cases htag
  · obtain ⟨first, others, hlist⟩ := List.exists_cons_of_ne_nil hasks
    rw [hlist, List.flatMap_cons] at hqualifiers
    have hfirst := (List.append_eq_nil_iff.1 hqualifiers).1
    cases first <;> cases hfirst

/-- The characters that a written compound consists of. -/
theorem Writes.forall_mem {word : List Char} {compound : Compound} (h : Writes word compound) :
    ∀ c ∈ word, isNameChar c = true ∨ c ∈ ['*', '.', '#', '[', ']'] := by
  obtain ⟨htype, hnames⟩ := h
  intro c hmem
  rcases List.mem_append.1 hmem with hpart | hrest
  · cases htype with
    | absent => cases hpart
    | star =>
      obtain rfl := List.mem_singleton.1 hpart
      exact .inr (by decide)
    | named hletter hname =>
      rcases List.mem_cons.1 hpart with rfl | htail
      · exact .inl (isNameChar_of_isAlpha hletter)
      · exact .inl (hname c htail)
  · obtain ⟨qualifier, hqualifier, hc⟩ := List.mem_flatMap.1 hrest
    have hname := (hnames qualifier hqualifier).2
    cases qualifier with
    | hasClass name =>
      rcases List.mem_cons.1 hc with rfl | hc
      · exact .inr (by decide)
      · exact .inl (hname c hc)
    | hasId name =>
      rcases List.mem_cons.1 hc with rfl | hc
      · exact .inr (by decide)
      · exact .inl (hname c hc)
    | hasAttribute name =>
      rcases List.mem_cons.1 hc with rfl | hc
      · exact .inr (by decide)
      · rcases List.mem_append.1 hc with hc | hc
        · exact .inl (hname c hc)
        · obtain rfl := List.mem_singleton.1 hc
          exact .inr (by decide)

end Compound

/-- An alternative as it is written. -/
def Alternative.text (alternative : Alternative) : List Char :=
  [' '].intercalate (alternative.map Compound.text)

/-- Alternatives as they are written in a selector. -/
def print (alternatives : List Alternative) : String :=
  String.ofList ([','].intercalate (alternatives.map Alternative.text))

/-! ## Reading what is printed -/

/-- No blank and no comma stands in the text of a compound. -/
theorem Compound.Printable.forall_mem_text {compound : Compound} (h : compound.Printable) :
    ∀ c ∈ compound.text, isBlank c = false ∧ (c == ',') = false := by
  intro c hmem
  rcases h.writes_text.forall_mem c hmem with hname | hsign
  · refine ⟨Bool.eq_false_iff.2 fun hblank => ?_, beq_eq_false_iff_ne.2 ?_⟩
    · rw [isNameChar_of_isBlank hblank] at hname
      cases hname
    · rintro rfl
      exact absurd hname (by decide)
  · simp only [List.mem_cons, List.not_mem_nil, or_false] at hsign
    rcases hsign with rfl | rfl | rfl | rfl | rfl <;> decide

/-- The words of a printed alternative are the texts of its compounds. -/
theorem Alternative.words_text {alternative : Alternative} (hne : alternative ≠ [])
    (h : ∀ compound ∈ alternative, compound.Printable) :
    words alternative.text = alternative.map Compound.text := by
  refine words_intercalate (List.map_eq_nil_iff.not.2 hne) fun word hmem => ?_
  obtain ⟨compound, hcompound, rfl⟩ := List.mem_map.1 hmem
  have hprintable := h compound hcompound
  exact ⟨hprintable.text_ne_nil, fun c hc => (hprintable.forall_mem_text c hc).1⟩

/-- A printed alternative writes it. -/
theorem Alternative.writes_text {alternative : Alternative} (hne : alternative ≠ [])
    (h : ∀ compound ∈ alternative, compound.Printable) :
    Alternative.Writes alternative.text alternative := by
  rw [Alternative.Writes, Alternative.words_text hne h]
  refine ⟨List.map_eq_nil_iff.not.2 hne, ?_⟩
  rw [List.forall₂_map_left_iff, List.forall₂_same]
  exact fun compound hmem => (h compound hmem).writes_text

/-- No comma stands in a printed alternative. -/
theorem Alternative.forall_mem_text {alternative : Alternative}
    (h : ∀ compound ∈ alternative, compound.Printable) :
    ∀ c ∈ alternative.text, (c == ',') = false := by
  intro c hmem
  rcases mem_intercalate hmem with hspace | ⟨word, hword, hc⟩
  · obtain rfl := List.mem_singleton.1 hspace
    rfl
  · obtain ⟨compound, hcompound, rfl⟩ := List.mem_map.1 hword
    exact ((h compound hcompound).forall_mem_text c hc).2

/-- Alternatives with compounds that can be printed are read from what they are printed as. -/
theorem read_print {alternatives : List Alternative} (hne : alternatives ≠ [])
    (h : ∀ alternative ∈ alternatives,
      alternative ≠ [] ∧ ∀ compound ∈ alternative, compound.Printable) :
    read (print alternatives) = .ok alternatives := by
  have hpieces : pieces (· == ',') (print alternatives).toList =
      alternatives.map Alternative.text := by
    rw [print, String.toList_ofList]
    refine pieces_intercalate (List.map_eq_nil_iff.not.2 hne) (fun part hmem => ?_)
      (beq_self_eq_true ',')
    obtain ⟨alternative, halternative, rfl⟩ := List.mem_map.1 hmem
    exact Alternative.forall_mem_text (h alternative halternative).2
  rw [read_eq_ok_iff, hpieces, List.forall₂_map_left_iff, List.forall₂_same]
  exact fun alternative hmem => Alternative.writes_text (h alternative hmem).1 (h alternative hmem).2

/-- No selector is read as no alternatives: a text has a piece at least. -/
theorem read_ne_nil (selector : String) : read selector ≠ .ok [] := by
  intro h
  have hpieces := (read_eq_ok_iff.1 h).length_eq
  exact pieces_ne_nil _ _ (List.length_eq_zero_iff.1 hpieces)

/-- No alternatives cannot be read from what they are printed as. -/
theorem not_forall_read_print : ¬ ∀ alternatives : List Alternative,
    (∀ alternative ∈ alternatives,
      alternative ≠ [] ∧ ∀ compound ∈ alternative, compound.Printable) →
    read (print alternatives) = .ok alternatives := by
  intro h
  exact read_ne_nil (print []) (h [] fun _ hmem => absurd hmem List.not_mem_nil)

/-! ## The grammar -/

/-- A selector is accepted exactly if each of its pieces has words and each word writes a compound;
what is read then has an alternative for each piece and a compound for each word, in their order,
with the type and the qualifiers that are written. Looking for the qualifiers of a word passes over
none of them, and sorting them as they are found gives the names of each kind in their order, which
can be any names at all. Alternatives that are printed are read again, if there are any. -/
theorem read_iff_writes_and_read_print :
    (∀ selector : String, matcher.check selector = .ok () ↔
      ∀ piece ∈ pieces (· == ',') selector.toList,
        words piece ≠ [] ∧ ∀ word ∈ words piece, ∃ compound, Compound.Writes word compound) ∧
    (∀ (selector : String) (alternatives : List Alternative),
      read selector = .ok alternatives ↔
        List.Forall₂ (fun piece alternative =>
            words piece ≠ [] ∧ List.Forall₂ Compound.Writes (words piece) alternative)
          (pieces (· == ',') selector.toList) alternatives) ∧
    (∀ (word : List Char) (compound : Compound), Compound.Writes word compound →
      Compound.searched? word = some compound ∧
        Compound.sorted? word = some (compound.tag, compound.names)) ∧
    (∀ (tag : Option String) (names : Names), (Compound.mk tag names.qualifiers).names = names) ∧
    ∀ alternatives : List Alternative, alternatives ≠ [] →
      (∀ alternative ∈ alternatives,
        alternative ≠ [] ∧ ∀ compound ∈ alternative, compound.Printable) →
      read (print alternatives) = .ok alternatives := by
  refine ⟨fun selector => ?_, fun selector alternatives => read_eq_ok_iff,
    fun word compound h => ?_, Compound.names_qualifiers,
    fun alternatives hne h => read_print hne h⟩
  · have hpiece : ∀ piece : List Char, (∃ alternative, Alternative.Writes piece alternative) ↔
        words piece ≠ [] ∧ ∀ word ∈ words piece, ∃ compound, Compound.Writes word compound := by
      intro piece
      unfold Alternative.Writes
      rw [exists_and_left, exists_forall₂_iff]
    simp only [check_eq_ok_iff, read_eq_ok_iff, exists_forall₂_iff, hpiece]
  · have hread := Compound.read?_eq_some_iff.2 h
    rw [Compound.searched?_eq_read?, Compound.sorted?_eq, hread]
    exact ⟨rfl, rfl⟩

/-- Capitals, a star, and blanks of two kinds: the selector is accepted, and what its first piece is
read as can be printed and read again. -/
theorem read_iff_writes_and_read_print_capitals_and_star :
    matcher.check "UL.x[href]\t #top,*" = .ok () ∧
      read (print [[⟨some "ul", [.hasClass "x", .hasAttribute "href"]⟩, ⟨none, [.hasId "top"]⟩]]) =
        .ok [[⟨some "ul", [.hasClass "x", .hasAttribute "href"]⟩, ⟨none, [.hasId "top"]⟩]] := by
  have hlist : Compound.Writes "UL.x[href]".toList
      ⟨some "ul", [.hasClass "x", .hasAttribute "href"]⟩ :=
    Compound.read?_eq_some_iff.1 (by decide +kernel)
  have htop : Compound.Writes "#top".toList ⟨none, [.hasId "top"]⟩ :=
    Compound.read?_eq_some_iff.1 (by decide +kernel)
  have hstar : Compound.Writes "*".toList ⟨none, []⟩ :=
    Compound.read?_eq_some_iff.1 (by decide +kernel)
  have hpieces : pieces (· == ',') "UL.x[href]\t #top,*".toList =
      ["UL.x[href]\t #top".toList, "*".toList] := by decide
  have hfirst : words "UL.x[href]\t #top".toList = ["UL.x[href]".toList, "#top".toList] := by decide
  have hsecond : words "*".toList = ["*".toList] := by decide
  refine ⟨(read_iff_writes_and_read_print.1 _).2 ?_,
    read_iff_writes_and_read_print.2.2.2.2 _ (by decide) ?_⟩
  · rw [hpieces, List.forall_mem_cons, List.forall_mem_singleton, hfirst, hsecond,
      List.forall_mem_cons, List.forall_mem_singleton, List.forall_mem_singleton]
    exact ⟨⟨by decide, ⟨_, hlist⟩, ⟨_, htop⟩⟩, by decide, ⟨_, hstar⟩⟩
  · rw [List.forall_mem_singleton, List.forall_mem_cons, List.forall_mem_singleton]
    exact ⟨by decide, ⟨by decide, _, hlist⟩, ⟨by decide, _, htop⟩⟩

end TreeText.Descent
