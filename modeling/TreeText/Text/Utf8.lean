/-
# Reading UTF-8

A strict reader: every character has exactly one encoding, and nothing else is accepted. A refusal
says where the first sequence begins that encodes no character, and how many bytes of it were still
possible, or that the input ended inside a sequence.
-/

namespace TreeText.Text.Utf8

/-! ## Faults -/

/-- Where the input stops being the encoding of a text. The length is that of the longest part which
could have begun a sequence; it is missing if the input ends inside a sequence. -/
structure Fault where
  index : Nat
  length : Option Nat
  deriving DecidableEq, Repr

/-- The wording of a fault. -/
def Fault.message (fault : Fault) : String :=
  match fault.length with
  | some n =>
    "invalid utf-8 sequence of " ++ toString n ++ " bytes from index " ++ toString fault.index
  | none => "incomplete utf-8 byte sequence from index " ++ toString fault.index

/-! ## One character -/

/-- What the first byte of a sequence says: the bits that it gives, the number of bytes to come, and
the bounds of the next byte. -/
structure Lead where
  bits : Nat
  more : Nat
  low : Nat
  high : Nat
  deriving DecidableEq, Repr

/-- The meaning of a first byte; some bytes begin no sequence. The bounds of the second byte keep
out overlong forms, surrogates and numbers that are too large. -/
def lead? (b : Nat) : Option Lead :=
  if b < 0x80 then some ⟨b, 0, 0x80, 0xbf⟩
  else if b < 0xc2 then none
  else if b < 0xe0 then some ⟨b - 0xc0, 1, 0x80, 0xbf⟩
  else if b = 0xe0 then some ⟨0, 2, 0xa0, 0xbf⟩
  else if b = 0xed then some ⟨0xd, 2, 0x80, 0x9f⟩
  else if b < 0xf0 then some ⟨b - 0xe0, 2, 0x80, 0xbf⟩
  else if b = 0xf0 then some ⟨0, 3, 0x90, 0xbf⟩
  else if b < 0xf4 then some ⟨b - 0xf0, 3, 0x80, 0xbf⟩
  else if b = 0xf4 then some ⟨4, 3, 0x80, 0x8f⟩
  else none

/-- The code point that a sequence gives once `more` further bytes are read, and the bytes behind
it. A failure gives the number of bytes read so far, or nothing at the end of the input. -/
def follow (value taken low high : Nat) :
    Nat → List UInt8 → Except (Option Nat) (Nat × List UInt8)
  | 0, rest => .ok (value, rest)
  | _ + 1, [] => .error none
  | more + 1, b :: rest =>
    if low ≤ b.toNat ∧ b.toNat ≤ high then
      follow (value * 64 + (b.toNat - 0x80)) (taken + 1) 0x80 0xbf more rest
    else .error (some taken)

/-- The code point at the front of the bytes, the number of bytes it takes, and the bytes behind. -/
def decodeChar (b : UInt8) (rest : List UInt8) : Except (Option Nat) (Nat × Nat × List UInt8) :=
  match lead? b.toNat with
  | none => .error (some 1)
  | some lead =>
    match follow lead.bits 1 lead.low lead.high lead.more rest with
    | .ok (value, behind) => .ok (value, lead.more + 1, behind)
    | .error length => .error length

/-- What follows a sequence is no longer than what follows its first byte. -/
theorem length_le_of_follow {value taken low high more value' : Nat} {bytes behind : List UInt8}
    (h : follow value taken low high more bytes = .ok (value', behind)) :
    behind.length ≤ bytes.length := by
  induction more generalizing value taken low high bytes with
  | zero => simp_all [follow]
  | succ more ih =>
    cases bytes with
    | nil => simp [follow] at h
    | cons b rest =>
      simp only [follow] at h
      split at h
      · exact Nat.le_succ_of_le (ih h)
      · simp at h

/-- What follows a character is no longer than what follows its first byte. -/
theorem length_le_of_decodeChar {b : UInt8} {rest behind : List UInt8} {value count : Nat}
    (h : decodeChar b rest = .ok (value, count, behind)) : behind.length ≤ rest.length := by
  unfold decodeChar at h
  split at h
  · simp at h
  · split at h
    · next hf => cases h; exact length_le_of_follow hf
    · simp at h

/-! ## Whole texts -/

/-- The characters of a text whose first byte has the given index. -/
def decodeFrom (index : Nat) (done : List Char) : List UInt8 → Except Fault (List Char)
  | [] => .ok done.reverse
  | b :: rest =>
    match h : decodeChar b rest with
    | .ok (value, count, behind) =>
      have : behind.length < (b :: rest).length :=
        Nat.lt_succ_of_le (length_le_of_decodeChar h)
      decodeFrom (index + count) (Char.ofNat value :: done) behind
    | .error length => .error ⟨index, length⟩
termination_by bytes => bytes.length
decreasing_by exact this

/-- The text that the bytes encode. -/
def decode (bytes : List UInt8) : Except Fault String :=
  (decodeFrom 0 [] bytes).map String.ofList

end TreeText.Text.Utf8
