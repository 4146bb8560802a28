/-
# Templates and their segments

Every text is the source of one template, and the segments of the template are another way to write
down the text: each character stands in one segment, the tokens are the tokens of the text, and what
is in no token is literal, as long as it goes. Segments of this form are called canonical. Reading
and writing are inverse to each other between texts and canonical segments.

* `Segment.Canonical` is the form, and `Segment.unparse` the text that segments write.
* `Segment.unparse_scan` and `Segment.canonical_scan` are about the segments of a text,
  `Segment.scan_unparse` about the text of segments.
* `Template.parse_inverse_unparse` puts them together.
-/
import Mathlib.Data.List.Chain
import TreeText.Proofs.Template.Token

namespace TreeText

namespace Segment

/-! ## Canonical segments -/

/-- A text in which no token stands. -/
def IsPlain (text : List Char) : Prop :=
  ∀ token : Segment, token.IsToken → ¬ token.source.toList <:+: text

/-- Whether a segment is a literal. -/
def isLiteral : Segment → Bool
  | literal _ => true
  | _ => false

/-- A token, or a literal that is not empty and in which no token stands. -/
def IsProper : Segment → Prop
  | literal text => text ≠ "" ∧ IsPlain text.toList
  | segment => segment.IsToken

/-- Segments that are proper, and no two literals stand side by side. -/
structure Canonical (segments : List Segment) : Prop where
  proper : ∀ segment ∈ segments, segment.IsProper
  apart : segments.IsChain fun one next => one.isLiteral = false ∨ next.isLiteral = false

/-- The text that segments write, one after another. -/
def unparse (segments : List Segment) : String :=
  String.join (segments.map source)

/-! ## Plain texts -/

theorem isPlain_nil : IsPlain [] := by
  intro token htoken hstands
  obtain ⟨inside, hsource, -⟩ := exists_inside_of_isToken htoken
  rw [List.infix_nil.1 hstands] at hsource
  cases hsource

/-- A text is plain if it begins with no token and is plain behind its first character. -/
theorem isPlain_cons_iff {c : Char} {cs : List Char} :
    IsPlain (c :: cs) ↔ token? (c :: cs) = none ∧ IsPlain cs := by
  rw [token?_eq_none_iff]
  constructor
  · intro h
    refine ⟨fun token htoken hstarts => ?_, fun token htoken hstands => ?_⟩
    · exact h token htoken hstarts.isInfix
    · exact h token htoken (List.infix_cons hstands)
  · rintro ⟨hfront, hplain⟩ token htoken hstands
    rcases List.infix_cons_iff.1 hstands with hstarts | hbehind
    · exact hfront token htoken hstarts
    · exact hplain token htoken hbehind

/-- Whether a text is plain. -/
def decidableIsPlain : (text : List Char) → Decidable (IsPlain text)
  | [] => isTrue isPlain_nil
  | _ :: cs =>
    have := decidableIsPlain cs
    decidable_of_iff _ isPlain_cons_iff.symm

instance : DecidablePred IsPlain := decidableIsPlain

instance : DecidablePred IsProper
  | literal _ => inferInstanceAs (Decidable (_ ∧ _))
  | content => inferInstanceAs (Decidable True)
  | spacing => inferInstanceAs (Decidable True)
  | dataset key => inferInstanceAs (Decidable (IsKey key))

instance (segments : List Segment) : Decidable (Canonical segments) :=
  decidable_of_iff
    ((∀ segment ∈ segments, segment.IsProper) ∧
      segments.IsChain fun one next => one.isLiteral = false ∨ next.isLiteral = false)
    ⟨fun h => ⟨h.1, h.2⟩, fun h => ⟨h.proper, h.apart⟩⟩

/-- The front of a text with no token in front begins with no token. -/
theorem token?_eq_none_of_append {front back : List Char} (h : token? (front ++ back) = none) :
    token? front = none := by
  rw [token?_eq_none_iff] at h ⊢
  intro token htoken hstarts
  exact h token htoken (hstarts.trans (List.prefix_append front back))

/-! ## Lists of segments -/

/-- A proper segment is a token, or a plain literal that is not empty. -/
theorem IsProper.cases {segment : Segment} (h : segment.IsProper) :
    (∃ c cs, segment = literal (String.ofList (c :: cs)) ∧ IsPlain (c :: cs)) ∨
      segment.IsToken ∧ segment.isLiteral = false := by
  cases segment with
  | literal text =>
    left
    obtain ⟨hne, hplain⟩ := h
    obtain ⟨c, cs, htext⟩ : ∃ c cs, text.toList = c :: cs :=
      List.exists_cons_of_ne_nil fun hnil => hne (String.toList_eq_nil_iff.1 hnil)
    refine ⟨c, cs, ?_, htext ▸ hplain⟩
    rw [← htext, String.ofList_toList]
  | content => exact Or.inr ⟨h, rfl⟩
  | spacing => exact Or.inr ⟨h, rfl⟩
  | dataset key => exact Or.inr ⟨h, rfl⟩

/-- A token is proper and no literal. -/
theorem isProper_of_isToken {token : Segment} (h : token.IsToken) :
    token.IsProper ∧ token.isLiteral = false := by
  cases token with
  | literal text => exact absurd h id
  | content => exact ⟨h, rfl⟩
  | spacing => exact ⟨h, rfl⟩
  | dataset key => exact ⟨h, rfl⟩

theorem canonical_nil : Canonical [] :=
  ⟨fun _ hm => absurd hm List.not_mem_nil, .nil⟩

/-- Canonical segments may have a proper one in front, unless two literals come together. -/
theorem canonical_cons_iff {segment : Segment} {segments : List Segment} :
    Canonical (segment :: segments) ↔
      segment.IsProper ∧
        (∀ next ∈ segments.head?, segment.isLiteral = false ∨ next.isLiteral = false) ∧
        Canonical segments := by
  constructor
  · rintro ⟨hproper, hapart⟩
    obtain ⟨hfirst, hrest⟩ := List.isChain_cons.1 hapart
    exact ⟨hproper segment List.mem_cons_self, hfirst,
      fun other hm => hproper other (List.mem_cons_of_mem _ hm), hrest⟩
  · rintro ⟨hproper, hfirst, hrest⟩
    exact ⟨List.forall_mem_cons.2 ⟨hproper, hrest.proper⟩,
      List.isChain_cons.2 ⟨hfirst, hrest.apart⟩⟩

theorem toList_unparse_nil : (unparse []).toList = [] := rfl

/-- The text of the first segment comes first. -/
theorem toList_unparse_cons (segment : Segment) (segments : List Segment) :
    (unparse (segment :: segments)).toList =
      segment.source.toList ++ (unparse segments).toList := by
  rw [unparse, List.map_cons, String.join_cons, String.toList_append]
  rfl

/-- What canonical segments write begins with a brace, unless the first segment is a literal. -/
theorem head?_unparse {segments : List Segment} (h : Canonical segments)
    (hfirst : ∀ first ∈ segments.head?, first.isLiteral = false) :
    ∀ c ∈ (unparse segments).toList.head?, c = '{' := by
  cases segments with
  | nil => exact fun c hc => absurd hc nofun
  | cons first segments =>
    have hno : first.isLiteral = false := hfirst first rfl
    rcases (canonical_cons_iff.1 h).1.cases with ⟨c, cs, rfl, -⟩ | ⟨htoken, -⟩
    · cases hno
    · obtain ⟨inside, hsource, -⟩ := exists_inside_of_isToken htoken
      rw [toList_unparse_cons, hsource]
      exact fun c hc => (Option.some.inj hc).symm

/-! ## From texts to segments -/

/-- A character that joins segments is written in front of them. -/
theorem toList_unparse_consLiteral (c : Char) (segments : List Segment) :
    (unparse (consLiteral c segments)).toList = c :: (unparse segments).toList := by
  have halone : (unparse (literal (String.ofList [c]) :: segments)).toList =
      c :: (unparse segments).toList := by
    rw [toList_unparse_cons, source, String.toList_ofList]
    rfl
  cases segments with
  | nil => exact halone
  | cons first segments =>
    cases first with
    | literal text =>
      rw [consLiteral, toList_unparse_cons, toList_unparse_cons, source, String.toList_ofList]
      rfl
    | content => exact halone
    | spacing => exact halone
    | dataset key => exact halone

/-- The segments of a text write the text. -/
theorem unparse_scan (s : List Char) : (unparse (scan s)).toList = s := by
  induction s using scan.induct with
  | case1 =>
    rw [scan]
    rfl
  | case2 c cs token rest htoken _ ih =>
    rw [scan_token htoken, toList_unparse_cons, ih, (token?_eq_some_iff.1 htoken).2]
  | case3 c cs hnone ih => rw [scan_char hnone, toList_unparse_consLiteral, ih]

/-- A character may join canonical segments if no token begins with it. -/
theorem canonical_consLiteral {c : Char} {segments : List Segment} (h : Canonical segments)
    (hnone : token? (c :: (unparse segments).toList) = none) :
    Canonical (consLiteral c segments) := by
  have hproper : ∀ {cs rest : List Char}, token? (c :: (cs ++ rest)) = none → IsPlain cs →
      (literal (String.ofList (c :: cs))).IsProper := by
    intro cs rest hnone hplain
    refine ⟨by simp, ?_⟩
    rw [String.toList_ofList, isPlain_cons_iff]
    rw [← List.cons_append] at hnone
    exact ⟨token?_eq_none_of_append hnone, hplain⟩
  have halone : (∀ next ∈ segments.head?, next.isLiteral = false) →
      Canonical (literal (String.ofList [c]) :: segments) := by
    intro hfirst
    have hfront : (literal (String.ofList [c])).IsProper := hproper hnone isPlain_nil
    refine canonical_cons_iff.2 ⟨hfront, ?_, h⟩
    exact fun next hm => Or.inr (hfirst next hm)
  cases segments with
  | nil => exact halone fun next hm => absurd hm nofun
  | cons first segments =>
    cases first with
    | literal text =>
      obtain ⟨hfirst, hnext, hrest⟩ := canonical_cons_iff.1 h
      rw [toList_unparse_cons] at hnone
      exact canonical_cons_iff.2 ⟨hproper hnone hfirst.2, hnext, hrest⟩
    | content => exact halone fun next hm => Option.some.inj hm ▸ rfl
    | spacing => exact halone fun next hm => Option.some.inj hm ▸ rfl
    | dataset key => exact halone fun next hm => Option.some.inj hm ▸ rfl

/-- The segments of a text are canonical. -/
theorem canonical_scan (s : List Char) : Canonical (scan s) := by
  induction s using scan.induct with
  | case1 =>
    rw [scan]
    exact canonical_nil
  | case2 c cs token rest htoken _ ih =>
    obtain ⟨hproper, hno⟩ := isProper_of_isToken (token?_eq_some_iff.1 htoken).1
    rw [scan_token htoken]
    exact canonical_cons_iff.2 ⟨hproper, fun _ _ => Or.inl hno, ih⟩
  | case3 c cs hnone ih =>
    rw [scan_char hnone]
    refine canonical_consLiteral ih ?_
    rw [unparse_scan]
    exact hnone

/-! ## From segments to texts -/

/-- A plain text in front of nothing or of a brace joins the segments behind it. -/
theorem scan_plain_append {text rest : List Char} (hplain : IsPlain text)
    (hrest : ∀ c ∈ rest.head?, c = '{') :
    scan (text ++ rest) = text.foldr consLiteral (scan rest) := by
  induction text with
  | nil => rfl
  | cons c cs ih =>
    obtain ⟨hnone, hbehind⟩ := isPlain_cons_iff.1 hplain
    have hboth : token? (c :: cs ++ rest) = none :=
      token?_append_eq_none (List.cons_ne_nil c cs) hrest hnone
    rw [List.cons_append] at hboth ⊢
    rw [scan_char hboth, ih hbehind, List.foldr_cons]

/-- Characters that join segments of which the first is no literal make one literal in front. -/
theorem foldr_consLiteral {segments : List Segment}
    (hfirst : ∀ first ∈ segments.head?, first.isLiteral = false) (c : Char) (cs : List Char) :
    (c :: cs).foldr consLiteral segments = literal (String.ofList (c :: cs)) :: segments := by
  induction cs generalizing c with
  | nil =>
    cases segments with
    | nil => rfl
    | cons first segments =>
      have hno : first.isLiteral = false := hfirst first rfl
      cases first with
      | literal text => cases hno
      | content => rfl
      | spacing => rfl
      | dataset key => rfl
  | cons d ds ih => rw [List.foldr_cons, ih d, consLiteral, String.toList_ofList]

/-- The text of canonical segments has these segments. -/
theorem scan_unparse {segments : List Segment} (h : Canonical segments) :
    scan (unparse segments).toList = segments := by
  induction segments with
  | nil =>
    rw [toList_unparse_nil, scan]
  | cons first segments ih =>
    obtain ⟨hproper, hnext, hrest⟩ := canonical_cons_iff.1 h
    rw [toList_unparse_cons]
    rcases hproper.cases with ⟨c, cs, rfl, hplain⟩ | ⟨htoken, -⟩
    · -- The segment behind a literal is a token, so no token goes over the end of the literal.
      have hliteral : (literal (String.ofList (c :: cs))).isLiteral ≠ false := by simp [isLiteral]
      have hfirst : ∀ next ∈ segments.head?, next.isLiteral = false :=
        fun next hm => (hnext next hm).resolve_left hliteral
      rw [source, String.toList_ofList, scan_plain_append hplain (head?_unparse hrest hfirst),
        ih hrest, foldr_consLiteral hfirst]
    · rw [scan_token (token?_source_append htoken _), ih hrest]

end Segment

/-! ## Templates -/

namespace Template

/-- Reading templates and writing segments are inverse to each other: the segments of a template are
canonical and write its source, and canonical segments are those of the template whose source they
write. -/
theorem parse_inverse_unparse :
    (∀ source : String,
      Segment.Canonical (parse source).segments ∧
        Segment.unparse (parse source).segments = source) ∧
    ∀ segments : List Segment, Segment.Canonical segments →
      (parse (Segment.unparse segments)).segments = segments := by
  refine ⟨fun source => ⟨Segment.canonical_scan source.toList, ?_⟩, fun segments h => ?_⟩
  · exact String.toList_inj.1 (Segment.unparse_scan source.toList)
  · exact Segment.scan_unparse h

/-- Braces that are open when a token begins are literal, and so is a token without a key. -/
theorem parse_inverse_unparse_nested_braces :
    let segments : List Segment :=
      [.literal "\x7b", .content, .literal "\x7bdataset.", .spacing, .dataset "data-id",
        .dataset "é", .literal "\x7d\x7bdataset.\x7d\x7bcontent"]
    Segment.Canonical segments ∧
      Segment.unparse segments = "\x7b\x7bcontent\x7d\x7bdataset.\x7bspacing\x7d" ++
        "\x7bdataset.data-id\x7d\x7bdataset.é\x7d\x7d\x7bdataset.\x7d\x7bcontent" ∧
      (parse (Segment.unparse segments)).segments = segments ∧
      ¬ Segment.Canonical [.literal "\x7b", .literal "content\x7d"] := by
  intro segments
  have hcanonical : Segment.Canonical segments := by decide +kernel
  exact ⟨hcanonical, by decide +kernel, parse_inverse_unparse.2 segments hcanonical,
    by decide +kernel⟩

end Template

end TreeText
