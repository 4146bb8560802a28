/-
# Pages given as bytes

Bytes that encode a text are converted as this text is. Bytes that encode no text are refused before
anything is done with them, and the refusal says how long the part in front is that could be read.

* `Converter.convertBytes_accepts_exactly_texts` says both.
-/
import TreeText.Converter
import TreeText.Css.Selector
import TreeText.Proofs.Text.Utf8

namespace TreeText.Converter

open Text.Utf8

section

variable [Css.Language] {converter : Converter} {bytes : List UInt8} {options : ConversionOptions}

/-- The encoding of a text is converted as the text is. -/
theorem convertBytes_toUTF8 (text : String) :
    converter.convertBytes text.toUTF8.toList options = converter.convert text options := by
  unfold convertBytes
  rw [decode_eq_ok_iff.mpr rfl]

/-- Bytes that are no encoding are refused at once. -/
theorem convertBytes_of_decode_eq_error {fault : Fault} (h : decode bytes = .error fault) :
    converter.convertBytes bytes options = (Run.fail (.invalidInput fault), converter) := by
  unfold convertBytes
  rw [h]

/-- The encoding of a text is converted as the text is, with the same calls of formatters. Other
bytes are refused: no formatter is called, nothing happens to the converter, and the index of the
fault is the length of the longest part in front that encodes a text. -/
theorem convertBytes_accepts_exactly_texts (converter : Converter) (bytes : List UInt8)
    (options : ConversionOptions) :
    (∀ text : String, text.toUTF8.toList = bytes →
      converter.convertBytes bytes options = converter.convert text options) ∧
    ((∀ text : String, text.toUTF8.toList ≠ bytes) →
      ∃ fault, (converter.convertBytes bytes options).1.result? =
          some (.error (.invalidInput fault)) ∧
        (converter.convertBytes bytes options).1.events = [] ∧
        (converter.convertBytes bytes options).2 = converter ∧
        IsLongestFront bytes fault.index) := by
  constructor
  · rintro text rfl
    exact convertBytes_toUTF8 text
  · intro hnone
    rcases h : decode bytes with fault | text
    · refine ⟨fault, ?_, ?_, ?_, isLongestFront_of_decode_eq_error h⟩ <;>
        rw [convertBytes_of_decode_eq_error h] <;> rfl
    · exact absurd (decode_eq_ok_iff.mp h) (hnone text)

end

/-- Two bytes give the one letter that they encode; with the last byte missing, they are refused at
index 1. -/
theorem convertBytes_accepts_exactly_texts_letter (options : ConversionOptions) :
    Converter.new.convertBytes [0x61, 0xc3, 0xa9] options = Converter.new.convert "aé" options ∧
      ∃ fault, (Converter.new.convertBytes [0x61, 0xc3] options).1.result? =
          some (.error (.invalidInput fault)) ∧ fault.index = 1 := by
  have htext : "aé".toUTF8.toList = [0x61, 0xc3, 0xa9] := by
    rw [toList_toUTF8]
    decide
  have hfault : decode [0x61, 0xc3] = .error ⟨1, none⟩ := by
    simp [decode, decodeFrom, decodeChar, lead?, follow, Except.map]
  refine ⟨(convertBytes_accepts_exactly_texts _ _ _).1 "aé" htext, ?_⟩
  obtain ⟨fault, hresult, -, -, hfront⟩ :=
    (convertBytes_accepts_exactly_texts Converter.new [0x61, 0xc3] options).2 fun text h => by
      rw [← decode_eq_ok_iff, hfault] at h
      cases h
  exact ⟨fault, hresult, hfront.unique (isLongestFront_of_decode_eq_error hfault)⟩

end TreeText.Converter
