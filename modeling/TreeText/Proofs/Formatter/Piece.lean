/-
# What pieces ask for

Of a formatter that is made of pieces it can be read off what it asks for and what it looks at:
every piece asks and looks for itself.

* `Piece.targets` lists the nodes whose texts a piece asks for, and `Piece.isSelfContained` says
  that it looks at nothing but its element.
* `Formatter.convertsOnly_ofPieces` and `Formatter.selfContained_ofPieces` say what follows for the
  formatter.
-/
import TreeText.Formatter.Piece
import TreeText.Proofs.Formatter.Script

namespace TreeText

/-! ## Pieces -/

namespace Piece

/-- The nodes whose texts a piece asks for; the element itself where none is named. -/
def targets : Piece → List (Option Nat)
  | .convert target => [target]
  | .attempt piece _ => piece.targets
  | _ => []

/-- Whether a piece looks at nothing but the tag, the attributes and the depth of its element, and
asks for no text but that of the element. -/
def isSelfContained : Piece → Bool
  | .node | .kids => false
  | .convert target => target.isNone
  | .attempt piece _ => piece.isSelfContained
  | _ => true

variable {doc other : Document} {visit further : Visit} {piece : Piece}
  {next : Except ConversionError String → Script}

/-- A piece asks for the texts of its targets only, apart from what is done behind it. -/
theorem convertsOnly_script {allowed : Option Nat → Prop}
    (ht : ∀ target ∈ piece.targets, allowed target)
    (hnext : ∀ given, (next given).ConvertsOnly allowed) :
    (piece.script doc visit next).ConvertsOnly allowed := by
  induction piece generalizing next with
  | content => exact hnext
  | convert target =>
    rw [script]
    by_cases hin : target.all (· < doc.size) = true
    · rw [if_pos hin]
      exact ⟨ht target List.mem_cons_self, hnext⟩
    · rw [if_neg hin]
      exact hnext _
  | attempt piece otherwise ih =>
    refine ih ht fun given => ?_
    cases given with
    | ok text => exact hnext _
    | error error => exact hnext _
  | noAnswer => trivial
  | noAnswerIfEmpty =>
    rintro (error | text)
    · exact hnext _
    · by_cases hempty : text = ""
      · simp only [hempty, if_true]
        trivial
      · simp only [hempty, if_false]
        exact hnext _
  | _ => exact hnext _

/-- A piece that looks at nothing but its element asks for no text but that of the element. -/
theorem eq_none_of_mem_targets (h : piece.isSelfContained = true) :
    ∀ target ∈ piece.targets, target = none := by
  induction piece with
  | convert target =>
    intro other hm
    obtain rfl := List.mem_singleton.1 hm
    exact Option.isNone_iff_eq_none.1 h
  | attempt piece otherwise ih => exact ih h
  | _ => exact fun target hm => absurd hm List.not_mem_nil

/-- A piece that looks at nothing but its element does the same for elements that show the same. -/
theorem script_congr (h : piece.isSelfContained = true) (htag : visit.tag = further.tag)
    (hdataset : visit.dataset = further.dataset) (hdepth : visit.depth = further.depth) :
    piece.script doc visit next = piece.script other further next := by
  induction piece generalizing next with
  | convert target =>
    obtain rfl := Option.isNone_iff_eq_none.1 h
    rfl
  | attempt piece otherwise ih => exact ih h
  | node => cases h
  | kids => cases h
  | _ => simp only [script, htag, hdataset, hdepth]

end Piece

/-! ## Formatters -/

namespace Formatter

variable {pieces : List Piece}

/-- Pieces that follow each other ask for the texts of their targets only. -/
theorem convertsOnly_ofPieces {allowed : Option Nat → Prop}
    (h : ∀ piece ∈ pieces, ∀ target ∈ piece.targets, allowed target) (label : String)
    (doc : Document) (visit : Visit) :
    ((ofPieces label pieces).script doc visit).ConvertsOnly allowed := by
  show (Script.ofPieces doc visit pieces "").ConvertsOnly allowed
  generalize "" = ready
  induction pieces generalizing ready with
  | nil => trivial
  | cons piece pieces ih =>
    refine Piece.convertsOnly_script (h piece List.mem_cons_self) ?_
    rintro (error | text)
    · trivial
    · exact ih (fun piece hm => h piece (List.mem_cons_of_mem _ hm)) _

/-- A formatter made of pieces that look at nothing but the element looks at nothing else. -/
theorem selfContained_ofPieces (h : ∀ piece ∈ pieces, piece.isSelfContained = true)
    (label : String) : (ofPieces label pieces).SelfContained where
  script_eq := by
    intro doc other visit further htag hdataset hdepth
    show Script.ofPieces doc visit pieces "" = Script.ofPieces other further pieces ""
    generalize "" = ready
    induction pieces generalizing ready with
    | nil => rfl
    | cons piece pieces ih =>
      have hrest := ih fun piece hm => h piece (List.mem_cons_of_mem _ hm)
      rw [Script.ofPieces, Script.ofPieces]
      simp only [hrest]
      exact Piece.script_congr (h piece List.mem_cons_self) htag hdataset hdepth
  convertsOnly doc visit := by
    refine convertsOnly_ofPieces (fun piece hm => ?_) label doc visit
    exact Piece.eq_none_of_mem_targets (h piece hm)

end Formatter

end TreeText
