/-
# What texts contribute

A text contributes itself, or its normal form: the blanks of a text are kept if they are not to be
normalized at all, or if the text stands in an element `pre`. The element that counts is the nearest
one above the text, whatever other nodes lie between, and its tag may be written in small letters and
capitals.

* `Text.Spells` says when a tag is a name up to small letters and capitals, and `Document.StandsIn`
  that the nearest element above a node has such a tag; `Conversion.isPreformatted_iff` says that this
  is what is tested.
* `Conversion.contribution_text_normal_form` says what a text contributes.
-/
import Mathlib.Data.List.Forall2
import TreeText.Conversion
import TreeText.Proofs.Document.Upward
import TreeText.Proofs.Text.NormalForm

namespace TreeText

/-! ## Small letters and capitals -/

namespace Text

/-- In lower case, a capital is the letter 32 places behind it, and any other character is itself. -/
theorem toNat_toLower (c : Char) :
    c.toLower.toNat = if 65 ≤ c.toNat ∧ c.toNat ≤ 90 then c.toNat + 32 else c.toNat := by
  by_cases h : 65 ≤ c.toNat ∧ c.toNat ≤ 90
  · have hval : c.toLower.val = c.val + 32 := congrArg Char.val (dif_pos h)
    have hsum : (c.val + 32).toNat = (c.val.toNat + 32) % 2 ^ 32 := UInt32.toNat_add _ _
    have hsmall : c.val.toNat ≤ 90 := h.2
    show c.toLower.val.toNat = _
    rw [if_pos h, hval, hsum, Nat.mod_eq_of_lt (by omega)]
    rfl
  · have hsame : c.toLower = c := dif_neg h
    rw [if_neg h, hsame]

/-- Small letters lie between 97 and 122, and the capital of a small letter 32 places in front of it. -/
theorem toNat_toUpper {c : Char} (h : c.isLower = true) :
    97 ≤ c.toNat ∧ c.toNat ≤ 122 ∧ c.toUpper.toNat + 32 = c.toNat := by
  have hbounds := Bool.and_eq_true_iff.1 h
  have hsmall : 'a'.val ≤ c.val ∧ c.val ≤ 'z'.val :=
    ⟨of_decide_eq_true hbounds.1, of_decide_eq_true hbounds.2⟩
  have hlow : 97 ≤ c.val.toNat := hsmall.1
  have hhigh : c.val.toNat ≤ 122 := hsmall.2
  have hval : c.toUpper.val = c.val + ('A'.val - 'a'.val) := by
    delta Char.toUpper
    rw [dif_pos hsmall]
  have hback : ('A'.val - 'a'.val).toNat = 2 ^ 32 - 32 := by decide
  refine ⟨hlow, hhigh, ?_⟩
  show c.toUpper.val.toNat + 32 = c.val.toNat
  rw [hval, UInt32.toNat_add, hback]
  omega

/-- A small letter is the lower case of itself and of its capital, and of no other character. -/
theorem toLower_eq_iff {c letter : Char} (h : letter.isLower = true) :
    c.toLower = letter ↔ c = letter ∨ c = letter.toUpper := by
  have hlower := toNat_toLower c
  obtain ⟨hlow, hhigh, hupper⟩ := toNat_toUpper h
  rw [← Char.toNat_inj, ← Char.toNat_inj, ← Char.toNat_inj, hlower]
  split <;> omega

/-- A tag spells a name if its letters are those of the name, small or capital. -/
def Spells (name tag : String) : Prop :=
  List.Forall₂ (fun letter c => c = letter ∨ c = letter.toUpper) name.toList tag.toList

/-- In lower case, a tag is a name of small letters exactly if it spells the name. -/
theorem toLower_eq_iff_spells {name : String} (h : ∀ letter ∈ name.toList, letter.isLower = true)
    (tag : String) : tag.toLower = name ↔ Spells name tag := by
  have hlist : tag.toLower.toList = tag.toList.map Char.toLower := String.toList_map
  have hletters : ∀ letters : List Char, (∀ letter ∈ letters, letter.isLower = true) → ∀ cs,
      cs.map Char.toLower = letters ↔
        List.Forall₂ (fun letter c => c = letter ∨ c = letter.toUpper) letters cs := by
    intro letters
    induction letters with
    | nil => simp
    | cons letter letters ih =>
      intro h cs
      obtain ⟨hletter, hrest⟩ := List.forall_mem_cons.1 h
      cases cs with
      | nil => simp
      | cons c cs =>
        rw [List.map_cons, List.cons.injEq, toLower_eq_iff hletter, List.forall₂_cons,
          ih hrest cs]
  rw [← String.toList_inj, hlist]
  exact hletters name.toList h tag.toList

end Text

/-! ## The nearest element -/

/-- The nearest element above a node has a tag that spells a name. -/
def Document.StandsIn (doc : Document) (name : String) (node : Nat) : Prop :=
  ∃ above tag, doc.Seeks (doc.parent? node) (some above) ∧ doc.tag? above = some tag ∧
    Text.Spells name tag

namespace Conversion

/-- Blanks are kept exactly in what stands in an element `pre`. -/
theorem isPreformatted_iff (c : Conversion) (node : Nat) :
    c.isPreformatted node = true ↔ c.doc.StandsIn "pre" node := by
  have hall : "pre".toList.all Char.isLower = true := by decide
  have hsmall : ∀ letter ∈ "pre".toList, letter.isLower = true := List.all_eq_true.1 hall
  have hseeks := c.doc.seeks_parentElement? node
  rw [isPreformatted, Option.any_eq_true]
  constructor
  · rintro ⟨tag, hnearest, hpre⟩
    obtain ⟨above, habove, htag⟩ := Option.bind_eq_some_iff.1 hnearest
    have hspells : Text.Spells "pre" tag :=
      (Text.toLower_eq_iff_spells hsmall tag).1 (beq_iff_eq.1 hpre)
    rw [habove] at hseeks
    exact ⟨above, tag, hseeks, htag, hspells⟩
  · rintro ⟨above, tag, habove, htag, hspells⟩
    have hnearest : c.doc.parentElement? node = some above := hseeks.unique habove
    refine ⟨tag, ?_, beq_iff_eq.2 ((Text.toLower_eq_iff_spells hsmall tag).2 hspells)⟩
    rw [hnearest]
    exact htag

/-! ## Texts -/

/-- What a text contributes is its normal form, if blanks are normalized and the text does not stand in
an element `pre`: its blanks are single spaces, its words and its blank ends are those of the text, and
no other text is like that. So it makes no difference to normalize a text again, or parts of it
beforehand. Otherwise a text contributes itself. -/
theorem contribution_text_normal_form (c : Conversion) {node : Nat} {text : String}
    (h : c.doc.text? node = some text) :
    (∀ textAt depth, c.contribution textAt depth node = pure (c.plainText node text)) ∧
    (c.normalize = true → ¬c.doc.StandsIn "pre" node →
      (∀ s r : String, Text.IsNormalForm s.toList r.toList ↔ r = c.plainText node s) ∧
      (∀ s, c.plainText node (c.plainText node s) = c.plainText node s) ∧
      ∀ s t, c.plainText node (s ++ t) = c.plainText node (c.plainText node s ++ c.plainText node t)) ∧
    (c.normalize = false ∨ c.doc.StandsIn "pre" node → ∀ s, c.plainText node s = s) := by
  have hcontent : c.doc.content? node = some (.text text) := by
    unfold Document.text? at h
    rcases hnode : c.doc.content? node with _ | ⟨tag, dataset⟩ | found | _ <;> rw [hnode] at h
    · cases h
    · cases h
    · cases h
      rfl
    · cases h
  refine ⟨fun textAt depth => ?_, fun hnormalize hnot => ?_, fun hkept s => ?_⟩
  · rw [contribution, hcontent]
  · have hpreformatted : c.isPreformatted node = false :=
      Bool.eq_false_iff.2 fun hpre => hnot ((c.isPreformatted_iff node).1 hpre)
    have hplain : ∀ s, c.plainText node s = Text.collapse s := by
      intro s
      rw [plainText, hnormalize, hpreformatted]
      rfl
    refine ⟨fun s r => ?_, fun s => ?_, fun s t => ?_⟩
    · rw [Text.isNormalForm_iff, hplain, ← Text.toList_collapse, String.toList_inj]
    · rw [hplain, hplain, Text.collapse_collapse]
    · rw [hplain, hplain, hplain, hplain, ← Text.collapse_append]
  · have hoff : (c.normalize && !c.isPreformatted node) = false := by
      rcases hkept with hnormalize | hpre
      · rw [hnormalize]
        rfl
      · rw [(c.isPreformatted_iff node).2 hpre]
        simp
    rw [plainText, hoff]
    rfl

/-- A text in a comment in an element `PRE` keeps its blanks. In an element `code` further down, a text
does not: there, runs of blanks of several kinds become one space each, at its ends too. -/
theorem contribution_text_normal_form_code :
    let edits : List Document.Edit :=
      [.element 1 "PRE" .empty, .other 2, .text 3 "\ta  b", .element 3 "code" .empty, .other 5,
        .text 6 "\u00a0 a\t\nb\u2003"]
    let c : Conversion := ⟨Document.build edits, .byTag, .empty, true⟩
    let nothing : Nat → Nat → Run String := fun _ _ => Run.tooDeep
    c.doc.text? 4 = some "\ta  b" ∧ c.doc.StandsIn "pre" 4 ∧
      c.contribution nothing 0 4 = pure "\ta  b" ∧
      c.doc.text? 7 = some "\u00a0 a\t\nb\u2003" ∧ c.normalize = true ∧ ¬c.doc.StandsIn "pre" 7 ∧
      c.contribution nothing 0 7 = pure " a b " ∧
      ∀ r : String, Text.IsNormalForm "\u00a0 a\t\nb\u2003".toList r.toList ↔ r = " a b " := by
  intro edits c nothing
  have hcomment : c.doc.text? 4 = some "\ta  b" := by decide +kernel
  have hcode : c.doc.text? 7 = some "\u00a0 a\t\nb\u2003" := by decide +kernel
  have hkept : c.doc.StandsIn "pre" 4 := (c.isPreformatted_iff 4).1 (by decide +kernel)
  have hnot : ¬c.doc.StandsIn "pre" 7 := by
    intro hpre
    have hfalse : c.isPreformatted 7 = false := by decide +kernel
    rw [(c.isPreformatted_iff 7).2 hpre] at hfalse
    cases hfalse
  have hvalue : c.plainText 7 "\u00a0 a\t\nb\u2003" = " a b " := by decide +kernel
  obtain ⟨hself, -, hsame⟩ := c.contribution_text_normal_form hcomment
  obtain ⟨hother, hnormal, -⟩ := c.contribution_text_normal_form hcode
  rw [hsame (Or.inr hkept)] at hself
  rw [hvalue] at hother
  refine ⟨hcomment, hkept, hself nothing 0, hcode, rfl, hnot, hother nothing 0, fun r => ?_⟩
  rw [(hnormal rfl hnot).1, hvalue]

end Conversion

end TreeText
