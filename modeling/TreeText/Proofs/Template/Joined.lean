/-
# Templates of joined texts

A token can go over the end of a text only from an opening brace behind which the text has no
closing one. Where there is no such brace, a text can be cut off from what comes behind it: the
tokens of both are those of the two texts, whatever the second begins with, and only the literals on
both sides of the cut come together.

* `Segment.ClosesBraces` says that there is no such brace.
* `Segment.joined` puts segments behind others.
* `Segment.scan_append` says that the segments of joined texts are joined, and
  `Template.segments_parse_append` says so of templates and of what they are filled to.
-/
import Mathlib.Data.List.DropRight
import TreeText.Proofs.Template.Canonical

namespace TreeText

namespace Segment

/-! ## Texts that can be cut off -/

/-- A text without an opening brace, or with a closing one behind the last opening brace. -/
def ClosesBraces (s : List Char) : Prop :=
  '{' ∈ s → '}' ∈ s.rtakeWhile (· ≠ '{')

instance : DecidablePred ClosesBraces :=
  fun _ => inferInstanceAs (Decidable (_ → _))

/-- In such a text, a closing brace stands behind each opening one. -/
theorem ClosesBraces.mem_of_eq_append {s front back : List Char} (h : ClosesBraces s)
    (hs : s = front ++ '{' :: back) : '}' ∈ back := by
  have hmem : '{' ∈ s := by
    rw [hs]
    exact List.mem_append_right front List.mem_cons_self
  have hclose : '}' ∈ s.rtakeWhile (· ≠ '{') := h hmem
  have hnot : '{' ∉ s.rtakeWhile (· ≠ '{') := by
    intro hm
    have hne := List.mem_rtakeWhile_imp hm
    simp at hne
  -- What stands behind the last opening brace ends the text, as does what stands behind this one.
  have hlast : s.rtakeWhile (· ≠ '{') <:+ s := List.rtakeWhile_suffix _ s
  have hthis : '{' :: back <:+ s := ⟨front, hs.symm⟩
  rcases List.suffix_or_suffix_of_suffix hlast hthis with hshort | hlong
  · rcases List.suffix_cons_iff.1 hshort with heq | hbehind
    · rw [heq] at hnot
      exact absurd List.mem_cons_self hnot
    · exact hbehind.subset hclose
  · exact absurd (hlong.subset List.mem_cons_self) hnot

/-- If an opening brace in front is closed, no token goes from it into the text behind. -/
theorem token?_append_eq_none_of_closed {c : Char} {cs : List Char} (hnone : token? (c :: cs) = none)
    (hclosed : c = '{' → '}' ∈ cs) (back : List Char) : token? (c :: cs ++ back) = none := by
  cases hboth : token? (c :: cs ++ back) with
  | none => rfl
  | some found =>
    obtain ⟨token, rest⟩ := found
    rcases token?_append (List.cons_ne_nil c cs) hboth with ⟨left, hfront, -⟩ |
      ⟨tail, hnil, -, hsource, -⟩
    · rw [hnone] at hfront
      cases hfront
    · obtain ⟨inside, hinside, -, hno⟩ :=
        exists_inside_of_isToken (token?_eq_some_iff.1 hboth).1
      -- The one closing brace of the token is its last character, which stands in the second text.
      have hwhole : '{' :: (inside ++ ['}']) = c :: (cs ++ tail) := by
        rw [← hinside, hsource, List.cons_append]
      obtain ⟨hopen, hrest⟩ := List.cons.inj hwhole
      have htail : inside = cs ++ tail.dropLast := by
        have hdrop := congrArg List.dropLast hrest
        rwa [List.dropLast_concat, List.dropLast_append_of_ne_nil hnil] at hdrop
      have hm : '}' ∈ inside := by
        rw [htail]
        exact List.mem_append_left _ (hclosed hopen.symm)
      exact absurd hm hno

/-! ## Joined segments -/

/-- Segments behind others. A literal at the end of the first and one at the beginning of the second
become one. -/
def joined (segments others : List Segment) : List Segment :=
  match segments.getLast?, others with
  | some (literal text), literal more :: rest => segments.dropLast ++ literal (text ++ more) :: rest
  | _, _ => segments ++ others

theorem joined_nil (others : List Segment) : joined [] others = others := rfl

/-- Where there is a further segment, the first one is not met by the others. -/
theorem joined_cons_cons (first next : Segment) (segments others : List Segment) :
    joined (first :: next :: segments) others = first :: joined (next :: segments) others := by
  unfold joined
  rw [List.getLast?_cons_cons]
  split <;> rfl

/-- Others that begin with no literal are put behind. -/
theorem joined_of_head? {others : List Segment}
    (h : ∀ other ∈ others.head?, other.isLiteral = false) (segments : List Segment) :
    joined segments others = segments ++ others := by
  unfold joined
  split
  · next text more rest _ =>
    have hliteral : (literal more).isLiteral = false := h (literal more) rfl
    cases hliteral
  · rfl

/-- A segment that is no literal joins nothing. -/
theorem joined_cons_of_isLiteral_eq_false {first : Segment} (h : first.isLiteral = false)
    (segments others : List Segment) :
    joined (first :: segments) others = first :: joined segments others := by
  cases segments with
  | nil =>
    cases first with
    | literal text => cases h
    | content => rfl
    | spacing => rfl
    | dataset key => rfl
  | cons next segments => exact joined_cons_cons first next segments others

/-- A character in front of a segment that is no literal is a literal of its own. -/
theorem consLiteral_of_head? {segments : List Segment}
    (h : ∀ first ∈ segments.head?, first.isLiteral = false) (c : Char) :
    consLiteral c segments = literal (String.ofList [c]) :: segments :=
  foldr_consLiteral h c []

/-- A segment is a literal or it is none. -/
theorem eq_literal_or (segment : Segment) :
    (∃ text, segment = literal text) ∨ segment.isLiteral = false := by
  cases segment with
  | literal text => exact Or.inl ⟨text, rfl⟩
  | content => exact Or.inr rfl
  | spacing => exact Or.inr rfl
  | dataset key => exact Or.inr rfl

/-- Segments begin with a literal, or the first of them is none. -/
theorem exists_literal_or (segments : List Segment) :
    (∃ text rest, segments = literal text :: rest) ∨
      ∀ first ∈ segments.head?, first.isLiteral = false := by
  cases segments with
  | nil => exact Or.inr fun first hm => absurd hm nofun
  | cons first rest =>
    rcases eq_literal_or first with ⟨text, rfl⟩ | hno
    · exact Or.inl ⟨text, rest, rfl⟩
    · exact Or.inr fun other hm => Option.some.inj hm ▸ hno

/-- A character in front of segments is a literal to which they are joined. -/
theorem consLiteral_eq_joined (c : Char) (others : List Segment) :
    consLiteral c others = joined [literal (String.ofList [c])] others := by
  rcases exists_literal_or others with ⟨more, others, rfl⟩ | h
  · have htext : String.ofList (c :: more.toList) = String.ofList [c] ++ more := by
      rw [← List.singleton_append, String.ofList_append, String.ofList_toList]
    exact congrArg (literal · :: others) htext
  · rw [consLiteral_of_head? h, joined_of_head? h, List.singleton_append]

/-- A character in front of a literal alone joins it, whatever comes behind the literal. -/
theorem consLiteral_joined_literal (c : Char) (text : String) (others : List Segment) :
    consLiteral c (joined [literal text] others) =
      joined [literal (String.ofList (c :: text.toList))] others := by
  rcases exists_literal_or others with ⟨more, others, rfl⟩ | h
  · have htext : String.ofList (c :: (text ++ more).toList) =
        String.ofList (c :: text.toList) ++ more := by
      rw [String.toList_append, ← List.cons_append, String.ofList_append, String.ofList_toList]
    exact congrArg (literal · :: others) htext
  · rw [joined_of_head? h, joined_of_head? h]
    rfl

/-- A character in front of joined segments is one in front of the first of them. -/
theorem consLiteral_joined (c : Char) (segments others : List Segment) :
    consLiteral c (joined segments others) = joined (consLiteral c segments) others := by
  cases segments with
  | nil => exact consLiteral_eq_joined c others
  | cons first segments =>
    rcases eq_literal_or first with ⟨text, rfl⟩ | hno
    · cases segments with
      | nil => exact consLiteral_joined_literal c text others
      | cons next segments =>
        rw [joined_cons_cons, consLiteral, consLiteral, joined_cons_cons]
    · have hfirst : ∀ other ∈ (first :: segments).head?, other.isLiteral = false :=
        fun other hm => Option.some.inj hm ▸ hno
      have hjoined : ∀ other ∈ (joined (first :: segments) others).head?,
          other.isLiteral = false := by
        rw [joined_cons_of_isLiteral_eq_false hno]
        exact fun other hm => Option.some.inj hm ▸ hno
      rw [consLiteral_of_head? hjoined, consLiteral_of_head? hfirst, joined_cons_cons]

/-- Joined segments are filled to what both are filled to. -/
theorem join_render_joined (content : String) (dataset : Dataset) (segments others : List Segment) :
    String.join ((joined segments others).map (render content dataset)) =
      String.join (segments.map (render content dataset)) ++
        String.join (others.map (render content dataset)) := by
  unfold joined
  split
  · next text more rest hlast =>
    obtain ⟨front, rfl⟩ := List.getLast?_eq_some_iff.1 hlast
    rw [List.dropLast_concat]
    simp only [List.map_append, List.map_cons, List.map_nil, String.join_append, String.join_cons,
      String.join_nil, render, String.append_assoc, String.append_empty]
  · rw [List.map_append, String.join_append]

/-! ## Segments of joined texts -/

/-- The segments of joined texts are those of the two texts, if in the first one a closing brace
stands behind each opening one. -/
theorem scan_append {s : List Char} (h : ∀ front back, s = front ++ '{' :: back → '}' ∈ back)
    (t : List Char) : scan (s ++ t) = joined (scan s) (scan t) := by
  induction s using scan.induct with
  | case1 => rw [scan, joined_nil, List.nil_append]
  | case2 c cs token rest htoken _ ih =>
    obtain ⟨his, hs⟩ := token?_eq_some_iff.1 htoken
    have hrest : ∀ front back, rest = front ++ '{' :: back → '}' ∈ back := by
      intro front back hsplit
      refine h (token.source.toList ++ front) back ?_
      rw [hs, hsplit, List.append_assoc]
    have hboth : token? (c :: cs ++ t) = some (token, rest ++ t) := by
      rw [hs, List.append_assoc]
      exact token?_source_append his (rest ++ t)
    rw [scan_token hboth, scan_token htoken, ih hrest,
      joined_cons_of_isLiteral_eq_false (isProper_of_isToken his).2]
  | case3 c cs hnone ih =>
    have hcs : ∀ front back, cs = front ++ '{' :: back → '}' ∈ back := by
      intro front back hsplit
      refine h (c :: front) back ?_
      rw [hsplit, List.cons_append]
    have hclosed : c = '{' → '}' ∈ cs := by
      rintro rfl
      exact h [] cs rfl
    have hboth : token? (c :: (cs ++ t)) = none :=
      token?_append_eq_none_of_closed hnone hclosed t
    rw [List.cons_append, scan_char hboth, scan_char hnone, ih hcs, consLiteral_joined]

end Segment

/-! ## Templates -/

namespace Template

/-- Let the first of two texts have no opening brace, or a closing one behind the last opening
brace. Then the template of both texts has the segments of the first and behind them those of the
second, where two literals come together to one; and whatever it is filled with, it is filled to
what the two templates are filled to. -/
theorem segments_parse_append (s t : String) (h : Segment.ClosesBraces s.toList) :
    (parse (s ++ t)).segments = Segment.joined (parse s).segments (parse t).segments ∧
      ∀ content dataset, (parse (s ++ t)).render content dataset =
        (parse s).render content dataset ++ (parse t).render content dataset := by
  have hsegments : (parse (s ++ t)).segments =
      Segment.joined (parse s).segments (parse t).segments := by
    show Segment.scan (s ++ t).toList = _
    rw [String.toList_append]
    exact Segment.scan_append (fun front back => h.mem_of_eq_append) t.toList
  refine ⟨hsegments, fun content dataset => ?_⟩
  rw [render, hsegments]
  exact Segment.join_render_joined content dataset _ _

/-- The second text begins like the end of a token. It becomes none behind a brace that is closed,
but it does behind one that is open. -/
theorem segments_parse_append_stray_braces :
    let s := "\x7b\x7bcontent\x7d\x7bx\x7dcon"
    let t := "tent\x7d\x7bdataset.k\x7d\x7b"
    Segment.ClosesBraces s.toList ∧
      (parse s).segments = [.literal "\x7b", .content, .literal "\x7bx\x7dcon"] ∧
      (parse t).segments = [.literal "tent\x7d", .dataset "k", .literal "\x7b"] ∧
      (parse (s ++ t)).segments = [.literal "\x7b", .content, .literal "\x7bx\x7dcontent\x7d",
        .dataset "k", .literal "\x7b"] ∧
      (parse (s ++ t)).render "a" ⟨[("k", "b")]⟩ =
        (parse s).render "a" ⟨[("k", "b")]⟩ ++ (parse t).render "a" ⟨[("k", "b")]⟩ ∧
      ¬ Segment.ClosesBraces "\x7bcon".toList ∧
      (parse ("\x7bcon" ++ t)).segments ≠
        Segment.joined (parse "\x7bcon").segments (parse t).segments := by
  intro s t
  have hcloses : Segment.ClosesBraces s.toList := by decide +kernel
  have hs : (parse s).segments = [.literal "\x7b", .content, .literal "\x7bx\x7dcon"] := by
    decide +kernel
  have ht : (parse t).segments = [.literal "tent\x7d", .dataset "k", .literal "\x7b"] := by
    decide +kernel
  obtain ⟨hsegments, hrender⟩ := segments_parse_append s t hcloses
  rw [hs, ht] at hsegments
  exact ⟨hcloses, hs, ht, hsegments, hrender _ _, by decide +kernel, by decide +kernel⟩

end Template

end TreeText
