/-
# Tokens

A token stands in a template for something else: for the content, for nothing, or for an attribute.
It is written as a name between two braces, and no other brace stands in it. So a token that begins
in one text and ends in the text behind it goes on with anything but an opening brace.

* `Segment.source` is a segment as it is written, and `Segment.IsToken` says which ones are tokens.
* `Segment.token?_eq_some_iff` says that the reader takes the token that a text begins with.
* `Segment.token?_append` says how a token that begins in the first of two texts may end.
-/
import Mathlib.Data.List.TakeWhile
import TreeText.Template

namespace TreeText.Segment

open Text

/-! ## How tokens are written -/

/-- A key that can be named in a token: one or more characters of names. -/
def IsKey (key : String) : Prop :=
  key ≠ "" ∧ ∀ c ∈ key.toList, isNameChar c = true

instance (key : String) : Decidable (IsKey key) :=
  decidable_of_iff (key ≠ "" ∧ key.toList.all isNameChar = true)
    (and_congr_right fun _ => List.all_eq_true)

/-- A segment as it is written in a template. -/
def source : Segment → String
  | literal text => text
  | content => "\x7bcontent\x7d"
  | spacing => "\x7bspacing\x7d"
  | dataset key => "\x7bdataset." ++ key ++ "\x7d"

/-- A segment that is written in braces, with a proper key if it names one. -/
def IsToken : Segment → Prop
  | literal _ => False
  | content => True
  | spacing => True
  | dataset key => IsKey key

instance : DecidablePred IsToken
  | literal _ => inferInstanceAs (Decidable False)
  | content => inferInstanceAs (Decidable True)
  | spacing => inferInstanceAs (Decidable True)
  | dataset key => inferInstanceAs (Decidable (IsKey key))

theorem toList_source_dataset (key : String) :
    (dataset key).source.toList = '{' :: ("dataset.".toList ++ key.toList ++ ['}']) := by
  rw [source, String.toList_append, String.toList_append]
  rfl

/-- A brace is no character of a name. -/
theorem notMem_of_isKey {key : String} (h : IsKey key) : '{' ∉ key.toList ∧ '}' ∉ key.toList := by
  constructor
  · intro hm
    have hname := h.2 '{' hm
    exact absurd hname (by decide)
  · intro hm
    have hname := h.2 '}' hm
    exact absurd hname (by decide)

/-- A token begins with an opening brace and ends with a closing one, and no brace stands between
them. -/
theorem exists_inside_of_isToken {token : Segment} (h : token.IsToken) :
    ∃ inside, token.source.toList = '{' :: (inside ++ ['}']) ∧ '{' ∉ inside ∧ '}' ∉ inside := by
  cases token with
  | literal text => exact absurd h id
  | content => exact ⟨"content".toList, rfl, by decide, by decide⟩
  | spacing => exact ⟨"spacing".toList, rfl, by decide, by decide⟩
  | dataset key =>
    obtain ⟨hopen, hclose⟩ := notMem_of_isKey h
    refine ⟨"dataset.".toList ++ key.toList, toList_source_dataset key, ?_, ?_⟩
    · rw [List.mem_append]
      rintro (hm | hm)
      · exact absurd hm (by decide)
      · exact hopen hm
    · rw [List.mem_append]
      rintro (hm | hm)
      · exact absurd hm (by decide)
      · exact hclose hm

/-! ## How tokens are read -/

/-- The characters of a key are taken up to the brace behind it. -/
theorem takeWhile_key {key : String} (h : IsKey key) (rest : List Char) :
    (key.toList ++ '}' :: rest).takeWhile isNameChar = key.toList := by
  rw [List.takeWhile_append_of_pos h.2, List.takeWhile_cons_of_neg (by decide), List.append_nil]

/-- What is left behind the characters of a key begins with the brace. -/
theorem dropWhile_key {key : String} (h : IsKey key) (rest : List Char) :
    (key.toList ++ '}' :: rest).dropWhile isNameChar = '}' :: rest := by
  rw [List.dropWhile_append_of_pos h.2, List.dropWhile_cons_of_neg (by decide)]

/-- A token in front is read. -/
theorem token?_source_append {token : Segment} (h : token.IsToken) (rest : List Char) :
    token? (token.source.toList ++ rest) = some (token, rest) := by
  cases token with
  | literal text => exact absurd h id
  | content => rfl
  | spacing => rfl
  | dataset key =>
    have hcontent : "content\x7d".toList.isPrefixOf?
        ("dataset.".toList ++ (key.toList ++ '}' :: rest)) = none := rfl
    have hspacing : "spacing\x7d".toList.isPrefixOf?
        ("dataset.".toList ++ (key.toList ++ '}' :: rest)) = none := rfl
    have hdataset : "dataset.".toList.isPrefixOf?
        ("dataset.".toList ++ (key.toList ++ '}' :: rest)) = some (key.toList ++ '}' :: rest) :=
      isPrefixOf?_eq_some_iff.2 rfl
    obtain ⟨k, ks, hkey⟩ : ∃ k ks, key.toList = k :: ks :=
      List.exists_cons_of_ne_nil fun hnil => h.1 (String.toList_eq_nil_iff.1 hnil)
    have hagain : String.ofList (k :: ks) = key := by rw [← hkey, String.ofList_toList]
    have htake : (key.toList ++ '}' :: rest).takeWhile isNameChar = k :: ks := by
      rw [takeWhile_key h, hkey]
    have hsource : (dataset key).source.toList ++ rest =
        '{' :: ("dataset.".toList ++ (key.toList ++ '}' :: rest)) := by
      rw [toList_source_dataset]
      simp
    rw [hsource, token?, hcontent, hspacing, hdataset]
    simp only [htake, dropWhile_key h, hagain]

/-- What is read is a token, and the text is this token followed by the rest. -/
theorem of_token?_eq_some {s rest : List Char} {token : Segment}
    (h : token? s = some (token, rest)) : token.IsToken ∧ s = token.source.toList ++ rest := by
  unfold token? at h
  split at h
  · next inside =>
    split at h
    · next hc =>
      cases h
      exact ⟨trivial, by rw [isPrefixOf?_eq_some_iff.1 hc]; rfl⟩
    · split at h
      · next hs =>
        cases h
        exact ⟨trivial, by rw [isPrefixOf?_eq_some_iff.1 hs]; rfl⟩
      · split at h
        · next named hd =>
          split at h
          · next k ks _ hk hr =>
            cases h
            refine ⟨⟨?_, ?_⟩, ?_⟩
            · intro hempty
              have hnil := congrArg String.toList hempty
              simp at hnil
            · intro c hm
              rw [String.toList_ofList, ← hk] at hm
              exact List.mem_takeWhile_imp hm
            · have hnamed : named = (k :: ks) ++ '}' :: rest := by
                rw [← hk, ← hr, List.takeWhile_append_dropWhile]
              rw [isPrefixOf?_eq_some_iff.1 hd, hnamed, toList_source_dataset,
                String.toList_ofList]
              simp
          · cases h
        · cases h
  · cases h

/-- The reader takes a token from the front of a text exactly if the text begins with it. -/
theorem token?_eq_some_iff {s rest : List Char} {token : Segment} :
    token? s = some (token, rest) ↔ token.IsToken ∧ s = token.source.toList ++ rest := by
  constructor
  · exact of_token?_eq_some
  · rintro ⟨htoken, rfl⟩
    exact token?_source_append htoken rest

/-- The reader takes nothing exactly if the text begins with no token. -/
theorem token?_eq_none_iff {s : List Char} :
    token? s = none ↔ ∀ token : Segment, token.IsToken → ¬ token.source.toList <+: s := by
  constructor
  · rintro h token htoken ⟨rest, rfl⟩
    rw [token?_source_append htoken] at h
    cases h
  · intro h
    cases hs : token? s with
    | none => rfl
    | some found =>
      obtain ⟨token, rest⟩ := found
      obtain ⟨htoken, rfl⟩ := token?_eq_some_iff.1 hs
      exact absurd (List.prefix_append _ _) (h token htoken)

/-! ## Tokens in joined texts -/

/-- A token that begins in the first of two texts ends there, or a part of it that has no opening
brace stands at the front of the second. -/
theorem token?_append {front back rest : List Char} {token : Segment} (hne : front ≠ [])
    (h : token? (front ++ back) = some (token, rest)) :
    (∃ left, token? front = some (token, left) ∧ rest = left ++ back) ∨
      ∃ tail, tail ≠ [] ∧ '{' ∉ tail ∧ token.source.toList = front ++ tail ∧
        back = tail ++ rest := by
  obtain ⟨htoken, hsource⟩ := token?_eq_some_iff.1 h
  rcases List.append_eq_append_iff.1 hsource with ⟨tail, hwhole, hback⟩ | ⟨left, hfront, hrest⟩
  · by_cases hnil : tail = []
    · left
      subst hnil
      rw [List.append_nil] at hwhole
      refine ⟨[], token?_eq_some_iff.2 ⟨htoken, ?_⟩, ?_⟩
      · rw [hwhole, List.append_nil]
      · exact hback.symm
    · right
      refine ⟨tail, hnil, ?_, hwhole, hback⟩
      obtain ⟨inside, hinside, hopen, -⟩ := exists_inside_of_isToken htoken
      obtain ⟨c, front, rfl⟩ := List.exists_cons_of_ne_nil hne
      -- The one opening brace of the token is its first character, which stands in the first text.
      have htail : inside ++ ['}'] = front ++ tail := by
        rw [hinside, List.cons_append] at hwhole
        exact (List.cons.inj hwhole).2
      intro hm
      have hboth : '{' ∈ inside ++ ['}'] := htail ▸ List.mem_append_right front hm
      rcases List.mem_append.1 hboth with hm | hm
      · exact hopen hm
      · exact absurd hm (by decide)
  · left
    refine ⟨left, token?_eq_some_iff.2 ⟨htoken, hfront⟩, ?_⟩
    rw [hrest]

/-- Where nothing or an opening brace follows, a token that begins in a text ends there. -/
theorem token?_append_eq_none {front back : List Char} (hne : front ≠ [])
    (hback : ∀ c ∈ back.head?, c = '{') (h : token? front = none) :
    token? (front ++ back) = none := by
  cases hs : token? (front ++ back) with
  | none => rfl
  | some found =>
    obtain ⟨token, rest⟩ := found
    rcases token?_append hne hs with ⟨left, hfront, -⟩ | ⟨tail, hnil, hopen, -, rfl⟩
    · rw [h] at hfront
      cases hfront
    · obtain ⟨c, tail, rfl⟩ := List.exists_cons_of_ne_nil hnil
      have hc : c = '{' := hback c rfl
      exact absurd (hc ▸ List.mem_cons_self) hopen

end TreeText.Segment
