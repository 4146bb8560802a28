/-
# Templates

A template is a text with tokens in braces. The token `content` stands for the content that the
template is rendered with, `spacing` for nothing, and `dataset.KEY` for the value of an attribute.
Whatever else stands in braces is plain text.

* `Segment.scan` cuts a template's source into its segments.
* `Template.parse` makes a template of any source, and `Template.render` fills it in.
-/
import TreeText.Dataset
import TreeText.Text.Quoted
import TreeText.Text.Strip
import TreeText.Text.WordChar

namespace TreeText

open Text

/-! ## Segments -/

/-- A piece of a template. -/
inductive Segment where
  | literal (text : String)
  | content
  | spacing
  | dataset (key : String)
  deriving DecidableEq, Repr

namespace Segment

/-- The token that a text begins with, and the text behind it. -/
def token? : List Char → Option (Segment × List Char)
  | '{' :: inside =>
    match "content\x7d".toList.isPrefixOf? inside with
    | some rest => some (.content, rest)
    | none =>
      match "spacing\x7d".toList.isPrefixOf? inside with
      | some rest => some (.spacing, rest)
      | none =>
        match "dataset.".toList.isPrefixOf? inside with
        | some named =>
          match named.takeWhile isNameChar, named.dropWhile isNameChar with
          | k :: ks, '}' :: rest => some (.dataset (String.ofList (k :: ks)), rest)
          | _, _ => none
        | none => none
  | _ => none

/-- A token takes at least one character. -/
theorem length_lt_of_token? {s rest : List Char} {segment : Segment}
    (h : token? s = some (segment, rest)) : rest.length < s.length := by
  unfold token? at h
  split at h
  · next inside =>
    simp only [List.length_cons]
    split at h
    · next hc => cases h; exact Nat.lt_succ_of_le (length_le_of_isPrefixOf? hc)
    · split at h
      · next hs => cases h; exact Nat.lt_succ_of_le (length_le_of_isPrefixOf? hs)
      · split at h
        · next named hd =>
          split at h
          · next hk hr =>
            cases h
            have h₁ := length_le_of_isPrefixOf? hd
            have h₂ : (named.dropWhile isNameChar).length ≤ named.length :=
              (List.dropWhile_suffix _).length_le
            rw [hr] at h₂
            simp only [List.length_cons] at h₂
            omega
          · simp at h
        · simp at h
  · simp at h

/-- A character in front of segments: it joins a literal that is there already. -/
def consLiteral (c : Char) : List Segment → List Segment
  | .literal text :: rest => .literal (String.ofList (c :: text.toList)) :: rest
  | segments => .literal (String.ofList [c]) :: segments

/-- The segments of a template's source: tokens where a scan from the left meets them, and literals
between them. -/
def scan : List Char → List Segment
  | [] => []
  | c :: cs =>
    match h : token? (c :: cs) with
    | some (segment, rest) =>
      have : rest.length < (c :: cs).length := length_lt_of_token? h
      segment :: scan rest
    | none => consLiteral c (scan cs)
termination_by s => s.length
decreasing_by
  · exact this
  · exact Nat.lt_succ_self cs.length

/-- A token in front is a segment of its own. -/
theorem scan_token {s rest : List Char} {segment : Segment} (h : token? s = some (segment, rest)) :
    scan s = segment :: scan rest := by
  cases s with
  | nil => simp [token?] at h
  | cons c cs =>
    rw [scan]
    split
    · next h' => rw [h] at h'; cases h'; rfl
    · next h' => rw [h] at h'; cases h'

/-- A character that begins no token belongs to a literal. -/
theorem scan_char {c : Char} {cs : List Char} (h : token? (c :: cs) = none) :
    scan (c :: cs) = consLiteral c (scan cs) := by
  rw [scan]
  split
  · next h' => rw [h] at h'; cases h'
  · rfl

/-- What a segment is filled with. -/
def render (content : String) (dataset : Dataset) : Segment → String
  | literal text => text
  | .content => content
  | spacing => ""
  | .dataset key => dataset.value key

/-- The text that describes a segment. -/
def describe : Segment → String
  | literal text => "Literal(" ++ quote text ++ ")"
  | content => "Content"
  | spacing => "Spacing"
  | dataset key => "Dataset(" ++ quote key ++ ")"

end Segment

/-! ## Templates -/

/-- A source text together with its segments. -/
structure Template where
  source : String
  segments : List Segment
  segments_eq : segments = Segment.scan source.toList
  deriving DecidableEq

namespace Template

/-- The template that a source text writes; every text writes one. -/
def parse (source : String) : Template :=
  ⟨source, Segment.scan source.toList, rfl⟩

/-- The template filled with a content and the values of a dataset. -/
def render (template : Template) (content : String) (dataset : Dataset) : String :=
  String.join (template.segments.map (Segment.render content dataset))

/-- The text that describes a template. -/
def describe (template : Template) : String :=
  "Template \x7b source: " ++ quote template.source ++ ", segments: [" ++
    String.intercalate ", " (template.segments.map Segment.describe) ++ "] \x7d"

/-- Templates with one source are one template. -/
theorem eq_of_source_eq {t u : Template} (h : t.source = u.source) : t = u := by
  obtain ⟨s, ss, hs⟩ := t
  obtain ⟨r, rs, hr⟩ := u
  subst hs hr h
  rfl

end Template

end TreeText
