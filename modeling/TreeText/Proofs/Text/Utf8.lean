/-
# UTF-8 read strictly

Every text has exactly one encoding, and the reader accepts this one and nothing else. Which bytes
encode a code point is said first without the reader: one to four bytes, with bounds on the first
two of them that leave out overlong forms, surrogates and numbers that are too large.

* `Text.Utf8.Encodes` says which bytes encode a code point. They are what a character is written as,
  by `Text.Utf8.Encodes.exists_char` and `Text.Utf8.encodes_utf8EncodeChar`, and what the reader
  takes for a character, by `Text.Utf8.decodeChar_of_encodes` and
  `Text.Utf8.exists_encodes_of_decodeChar`.
* `Text.Utf8.decode_eq_ok_iff` says that bytes are read as a text exactly if they are its encoding.
* `Text.Utf8.isLongestFront_of_decode_eq_error` says that a refusal points behind the longest part
  in front that is the encoding of a text.
-/
import TreeText.Text.Utf8

namespace TreeText.Text.Utf8

/-! ## What encodes a code point -/

/-- Whether a byte can go on a sequence. -/
def IsTail (b : UInt8) : Prop :=
  0x80 ≤ b.toNat ∧ b.toNat ≤ 0xbf

/-- The bytes that encode a code point. A second byte is bounded further behind four first bytes:
smaller ones would give a number that fewer bytes encode, larger ones a surrogate or a number
behind the last code point. -/
inductive Encodes (value : Nat) : List UInt8 → Prop where
  | one {a : UInt8} (ha : a.toNat < 0x80) (value_eq : value = a.toNat) : Encodes value [a]
  | two {a b : UInt8} (ha : 0xc2 ≤ a.toNat ∧ a.toNat < 0xe0) (hb : IsTail b)
      (value_eq : value = (a.toNat - 0xc0) * 64 + (b.toNat - 0x80)) : Encodes value [a, b]
  | three {a b c : UInt8} (ha : 0xe0 ≤ a.toNat ∧ a.toNat < 0xf0) (hb : IsTail b)
      (overlong : a.toNat = 0xe0 → 0xa0 ≤ b.toNat) (surrogate : a.toNat = 0xed → b.toNat ≤ 0x9f)
      (hc : IsTail c)
      (value_eq : value = ((a.toNat - 0xe0) * 64 + (b.toNat - 0x80)) * 64 + (c.toNat - 0x80)) :
      Encodes value [a, b, c]
  | four {a b c d : UInt8} (ha : 0xf0 ≤ a.toNat ∧ a.toNat < 0xf5) (hb : IsTail b)
      (overlong : a.toNat = 0xf0 → 0x90 ≤ b.toNat) (large : a.toNat = 0xf4 → b.toNat ≤ 0x8f)
      (hc : IsTail c) (hd : IsTail d)
      (value_eq : value = (((a.toNat - 0xf0) * 64 + (b.toNat - 0x80)) * 64 +
        (c.toNat - 0x80)) * 64 + (d.toNat - 0x80)) : Encodes value [a, b, c, d]

/-! ## What a character is written as -/

/-- A byte is the one with its number. -/
theorem ofNat_eq_of_toNat_eq {n : Nat} {b : UInt8} (h : n = b.toNat) : UInt8.ofNat n = b := by
  rw [h, UInt8.ofNat_toNat]

/-- A number that fits is that of its byte. -/
theorem toNat_ofNat_of_lt {n : Nat} (h : n < 256) : (UInt8.ofNat n).toNat = n := by
  rw [UInt8.toNat_ofNat', Nat.mod_eq_of_lt h]

/-- At least one byte encodes a code point. -/
theorem Encodes.ne_nil {value : Nat} {bytes : List UInt8} (h : Encodes value bytes) :
    bytes ≠ [] := by
  cases h <;> exact List.cons_ne_nil _ _

/-- What bytes encode is the code point of a character. -/
theorem Encodes.isValidChar {value : Nat} {bytes : List UInt8} (h : Encodes value bytes) :
    value.isValidChar := by
  unfold Nat.isValidChar
  cases h with
  | one ha value_eq => omega
  | two ha hb value_eq =>
    unfold IsTail at hb
    omega
  | three ha hb overlong surrogate hc value_eq =>
    unfold IsTail at hb hc
    omega
  | four ha hb overlong large hc hd value_eq =>
    unfold IsTail at hb hc hd
    omega

/-- Bytes that encode a code point are what its character is written as. -/
theorem Encodes.exists_char {value : Nat} {bytes : List UInt8} (h : Encodes value bytes) :
    ∃ c : Char, c.toNat = value ∧ String.utf8EncodeChar c = bytes := by
  have hvalue : (Char.ofNat value).val.toNat = value := by
    unfold Char.ofNat
    rw [dif_pos h.isValidChar]
    rfl
  refine ⟨Char.ofNat value, hvalue, ?_⟩
  unfold String.utf8EncodeChar
  simp only [hvalue]
  cases h with
  | one ha value_eq => rw [if_pos (by omega), value_eq, UInt8.ofNat_toNat]
  | two ha hb value_eq =>
    unfold IsTail at hb
    rw [if_neg (by omega), if_pos (by omega)]
    simp only [List.cons.injEq, and_true]
    exact ⟨ofNat_eq_of_toNat_eq (by omega), ofNat_eq_of_toNat_eq (by omega)⟩
  | three ha hb overlong surrogate hc value_eq =>
    unfold IsTail at hb hc
    rw [if_neg (by omega), if_neg (by omega), if_pos (by omega)]
    simp only [List.cons.injEq, and_true]
    exact ⟨ofNat_eq_of_toNat_eq (by omega), ofNat_eq_of_toNat_eq (by omega),
      ofNat_eq_of_toNat_eq (by omega)⟩
  | four ha hb overlong large hc hd value_eq =>
    unfold IsTail at hb hc hd
    rw [if_neg (by omega), if_neg (by omega), if_neg (by omega)]
    simp only [List.cons.injEq, and_true]
    exact ⟨ofNat_eq_of_toNat_eq (by omega), ofNat_eq_of_toNat_eq (by omega),
      ofNat_eq_of_toNat_eq (by omega), ofNat_eq_of_toNat_eq (by omega)⟩

/-- A character is written as bytes that encode its code point. -/
theorem encodes_utf8EncodeChar (c : Char) : Encodes c.toNat (String.utf8EncodeChar c) := by
  have hvalid : c.val.toNat < 0xd800 ∨ 0xdfff < c.val.toNat ∧ c.val.toNat < 0x110000 := c.valid
  show Encodes c.val.toNat _
  unfold String.utf8EncodeChar
  generalize c.val.toNat = value at hvalid ⊢
  simp only
  split
  · refine .one ?_ ?_ <;> simp (disch := omega) only [toNat_ofNat_of_lt]
    omega
  · split
    · refine .two ?_ ?_ ?_ <;> simp (disch := omega) only [toNat_ofNat_of_lt, IsTail] <;> omega
    · split
      · refine .three ?_ ?_ ?_ ?_ ?_ ?_ <;>
          simp (disch := omega) only [toNat_ofNat_of_lt, IsTail] <;> omega
      · refine .four ?_ ?_ ?_ ?_ ?_ ?_ ?_ <;>
          simp (disch := omega) only [toNat_ofNat_of_lt, IsTail] <;> omega

/-! ## What the reader takes for a character -/

/-- The bytes that begin a sequence, and what they say. -/
theorem lead?_eq_some_iff {n : Nat} {lead : Lead} :
    lead? n = some lead ↔
      (n < 0x80 ∧ lead = ⟨n, 0, 0x80, 0xbf⟩) ∨
      ((0xc2 ≤ n ∧ n < 0xe0) ∧ lead = ⟨n - 0xc0, 1, 0x80, 0xbf⟩) ∨
      ((0xe0 ≤ n ∧ n < 0xf0) ∧ lead = ⟨n - 0xe0, 2, if n = 0xe0 then 0xa0 else 0x80,
        if n = 0xed then 0x9f else 0xbf⟩) ∨
      ((0xf0 ≤ n ∧ n < 0xf5) ∧ lead = ⟨n - 0xf0, 3, if n = 0xf0 then 0x90 else 0x80,
        if n = 0xf4 then 0x8f else 0xbf⟩) := by
  unfold lead?
  grind

/-- Nothing is read where no bytes are to come. -/
theorem follow_zero_eq_ok_iff {value taken low high value' : Nat} {bytes behind : List UInt8} :
    follow value taken low high 0 bytes = .ok (value', behind) ↔
      value = value' ∧ bytes = behind := by
  simp only [follow, Except.ok.injEq, Prod.mk.injEq]

/-- Where bytes are to come, the next one lies within the bounds and adds its bits. -/
theorem follow_succ_eq_ok_iff {value taken low high more value' : Nat} {bytes behind : List UInt8} :
    follow value taken low high (more + 1) bytes = .ok (value', behind) ↔
      ∃ b rest, bytes = b :: rest ∧ (low ≤ b.toNat ∧ b.toNat ≤ high) ∧
        follow (value * 64 + (b.toNat - 0x80)) (taken + 1) 0x80 0xbf more rest =
          .ok (value', behind) := by
  cases bytes with
  | nil => simp [follow]
  | cons b rest =>
    simp only [follow, List.cons.injEq]
    constructor
    · intro h
      split at h
      · next hb => exact ⟨b, rest, ⟨rfl, rfl⟩, hb, h⟩
      · simp at h
    · rintro ⟨_, _, ⟨rfl, rfl⟩, hb, h⟩
      rw [if_pos hb, h]

/-- A character is read as its first byte and the bytes that this one asks for. -/
theorem decodeChar_eq_ok_iff_follow {a : UInt8} {rest behind : List UInt8} {value count : Nat} :
    decodeChar a rest = .ok (value, count, behind) ↔
      ∃ lead, lead? a.toNat = some lead ∧ count = lead.more + 1 ∧
        follow lead.bits 1 lead.low lead.high lead.more rest = .ok (value, behind) := by
  unfold decodeChar
  cases lead? a.toNat with
  | none => simp
  | some lead =>
    rcases h : follow lead.bits 1 lead.low lead.high lead.more rest with length | ⟨value', behind'⟩
    · simp [h]
    · simp only [Except.ok.injEq, Prod.mk.injEq, Option.some.injEq, exists_eq_left', h]
      constructor
      · rintro ⟨rfl, rfl, rfl⟩
        exact ⟨rfl, rfl, rfl⟩
      · rintro ⟨rfl, rfl, rfl⟩
        exact ⟨rfl, rfl, rfl⟩

/-- Bounds that are narrower behind some first bytes are those of a tail, and hold behind these. -/
theorem bounds_iff {b : UInt8} {first last : Prop} [Decidable first] [Decidable last]
    {low high : Nat} (hlow : 0x80 ≤ low) (hhigh : high ≤ 0xbf) :
    ((if first then low else 0x80) ≤ b.toNat ∧ b.toNat ≤ if last then high else 0xbf) ↔
      IsTail b ∧ (first → low ≤ b.toNat) ∧ (last → b.toNat ≤ high) := by
  unfold IsTail
  by_cases hfirst : first <;> by_cases hlast : last <;> simp [hfirst, hlast] <;> omega

/-- What is read as a character encodes its code point. -/
theorem exists_encodes_of_decodeChar {a : UInt8} {rest behind : List UInt8} {value count : Nat}
    (h : decodeChar a rest = .ok (value, count, behind)) :
    ∃ bytes, Encodes value bytes ∧ count = bytes.length ∧ a :: rest = bytes ++ behind := by
  obtain ⟨lead, hlead, rfl, hfollow⟩ := decodeChar_eq_ok_iff_follow.mp h
  rcases lead?_eq_some_iff.mp hlead with ⟨ha, rfl⟩ | ⟨ha, rfl⟩ | ⟨ha, rfl⟩ | ⟨ha, rfl⟩
  · obtain ⟨rfl, rfl⟩ := follow_zero_eq_ok_iff.mp hfollow
    exact ⟨[a], .one ha rfl, rfl, rfl⟩
  · obtain ⟨b, _, rfl, hb, hfollow⟩ := follow_succ_eq_ok_iff.mp hfollow
    obtain ⟨rfl, rfl⟩ := follow_zero_eq_ok_iff.mp hfollow
    exact ⟨[a, b], .two ha hb rfl, rfl, rfl⟩
  · obtain ⟨b, _, rfl, hb, hfollow⟩ := follow_succ_eq_ok_iff.mp hfollow
    obtain ⟨c, _, rfl, hc, hfollow⟩ := follow_succ_eq_ok_iff.mp hfollow
    obtain ⟨rfl, rfl⟩ := follow_zero_eq_ok_iff.mp hfollow
    obtain ⟨hb, overlong, surrogate⟩ := (bounds_iff (by decide) (by decide)).mp hb
    exact ⟨[a, b, c], .three ha hb overlong surrogate hc rfl, rfl, rfl⟩
  · obtain ⟨b, _, rfl, hb, hfollow⟩ := follow_succ_eq_ok_iff.mp hfollow
    obtain ⟨c, _, rfl, hc, hfollow⟩ := follow_succ_eq_ok_iff.mp hfollow
    obtain ⟨d, _, rfl, hd, hfollow⟩ := follow_succ_eq_ok_iff.mp hfollow
    obtain ⟨rfl, rfl⟩ := follow_zero_eq_ok_iff.mp hfollow
    obtain ⟨hb, overlong, large⟩ := (bounds_iff (by decide) (by decide)).mp hb
    exact ⟨[a, b, c, d], .four ha hb overlong large hc hd rfl, rfl, rfl⟩

/-- What encodes a code point is read as its character, whatever follows. -/
theorem decodeChar_of_encodes {a : UInt8} {rest behind bytes : List UInt8} {value : Nat}
    (h : Encodes value bytes) (hfront : a :: rest = bytes ++ behind) :
    decodeChar a rest = .ok (value, bytes.length, behind) := by
  rw [decodeChar_eq_ok_iff_follow]
  cases h with
  | one ha value_eq =>
    cases hfront
    refine ⟨_, lead?_eq_some_iff.mpr (.inl ⟨ha, rfl⟩), rfl, ?_⟩
    exact follow_zero_eq_ok_iff.mpr ⟨value_eq.symm, rfl⟩
  | two ha hb value_eq =>
    cases hfront
    refine ⟨_, lead?_eq_some_iff.mpr (.inr (.inl ⟨ha, rfl⟩)), rfl, ?_⟩
    refine follow_succ_eq_ok_iff.mpr ⟨_, _, rfl, hb, ?_⟩
    exact follow_zero_eq_ok_iff.mpr ⟨value_eq.symm, rfl⟩
  | three ha hb overlong surrogate hc value_eq =>
    cases hfront
    refine ⟨_, lead?_eq_some_iff.mpr (.inr (.inr (.inl ⟨ha, rfl⟩))), rfl, ?_⟩
    have hnarrow := (bounds_iff (by decide) (by decide)).mpr ⟨hb, overlong, surrogate⟩
    refine follow_succ_eq_ok_iff.mpr ⟨_, _, rfl, hnarrow, ?_⟩
    refine follow_succ_eq_ok_iff.mpr ⟨_, _, rfl, hc, ?_⟩
    exact follow_zero_eq_ok_iff.mpr ⟨value_eq.symm, rfl⟩
  | four ha hb overlong large hc hd value_eq =>
    cases hfront
    refine ⟨_, lead?_eq_some_iff.mpr (.inr (.inr (.inr ⟨ha, rfl⟩))), rfl, ?_⟩
    have hnarrow := (bounds_iff (by decide) (by decide)).mpr ⟨hb, overlong, large⟩
    refine follow_succ_eq_ok_iff.mpr ⟨_, _, rfl, hnarrow, ?_⟩
    refine follow_succ_eq_ok_iff.mpr ⟨_, _, rfl, hc, ?_⟩
    refine follow_succ_eq_ok_iff.mpr ⟨_, _, rfl, hd, ?_⟩
    exact follow_zero_eq_ok_iff.mpr ⟨value_eq.symm, rfl⟩

/-! ## Whole texts -/

/-- The bytes that characters are written as. -/
def encode (chars : List Char) : List UInt8 :=
  chars.flatMap String.utf8EncodeChar

/-- The first character is written first. -/
theorem encode_cons (c : Char) (chars : List Char) :
    encode (c :: chars) = String.utf8EncodeChar c ++ encode chars :=
  rfl

/-- Behind a character that is read, the reading goes on. -/
theorem decodeFrom_of_decodeChar {index : Nat} {done : List Char} {a : UInt8}
    {rest behind : List UInt8} {value count : Nat}
    (h : decodeChar a rest = .ok (value, count, behind)) :
    decodeFrom index done (a :: rest) =
      decodeFrom (index + count) (Char.ofNat value :: done) behind := by
  rw [decodeFrom]
  split
  · next h' =>
    rw [h] at h'
    cases h'
    rfl
  · next h' =>
    rw [h] at h'
    cases h'

/-- Characters in front are read as themselves, and the reading goes on behind them. -/
theorem decodeFrom_encode_append (index : Nat) (done chars : List Char) (rest : List UInt8) :
    decodeFrom index done (encode chars ++ rest) =
      decodeFrom (index + (encode chars).length) (chars.reverse ++ done) rest := by
  induction chars generalizing index done with
  | nil => rfl
  | cons c chars ih =>
    rw [encode_cons, List.append_assoc]
    have hchar := encodes_utf8EncodeChar c
    obtain ⟨a, tail, hbytes⟩ := List.exists_cons_of_ne_nil hchar.ne_nil
    have hfront : String.utf8EncodeChar c ++ (encode chars ++ rest) =
        a :: (tail ++ (encode chars ++ rest)) := by
      rw [hbytes, List.cons_append]
    calc decodeFrom index done (String.utf8EncodeChar c ++ (encode chars ++ rest))
      _ = decodeFrom (index + (String.utf8EncodeChar c).length) (c :: done)
            (encode chars ++ rest) := by
          rw [hfront, decodeFrom_of_decodeChar (decodeChar_of_encodes hchar hfront.symm),
            Char.ofNat_toNat]
      _ = _ := by
          rw [ih, List.length_append, Nat.add_assoc, List.reverse_cons, List.append_assoc]
          rfl

/-- What is read to the end is what the characters that are read are written as. -/
theorem exists_of_decodeFrom_eq_ok {index : Nat} {done chars : List Char} {bytes : List UInt8}
    (h : decodeFrom index done bytes = .ok chars) :
    ∃ read, chars = done.reverse ++ read ∧ encode read = bytes := by
  -- Either nothing is left, or a character is read and the rest behind it, or no character is read.
  fun_induction decodeFrom index done bytes with
  | case1 index done =>
    cases h
    exact ⟨[], (List.append_nil _).symm, rfl⟩
  | case2 index done a rest value count behind hread hlt ih =>
    obtain ⟨read, rfl, rfl⟩ := ih h
    obtain ⟨bytes, hbytes, -, hfront⟩ := exists_encodes_of_decodeChar hread
    obtain ⟨c, rfl, rfl⟩ := hbytes.exists_char
    refine ⟨c :: read, ?_, ?_⟩
    · rw [Char.ofNat_toNat, List.reverse_cons, List.append_assoc, List.singleton_append]
    · rw [encode_cons, hfront]
  | case3 => cases h

/-- In front of a fault stands what characters are written as. -/
theorem exists_of_decodeFrom_eq_error {index : Nat} {done : List Char} {bytes : List UInt8}
    {fault : Fault} (h : decodeFrom index done bytes = .error fault) :
    ∃ read, encode read <+: bytes ∧ fault.index = index + (encode read).length := by
  fun_induction decodeFrom index done bytes with
  | case1 => cases h
  | case2 index done a rest value count behind hread hlt ih =>
    obtain ⟨read, hfront', hindex⟩ := ih h
    obtain ⟨bytes, hbytes, rfl, hfront⟩ := exists_encodes_of_decodeChar hread
    obtain ⟨c, rfl, rfl⟩ := hbytes.exists_char
    refine ⟨c :: read, ?_, ?_⟩
    · rw [encode_cons, hfront]
      exact (List.prefix_append_right_inj _).mpr hfront'
    · rw [hindex, encode_cons, List.length_append, Nat.add_assoc]
  | case3 index done a rest length hread =>
    cases h
    exact ⟨[], List.nil_prefix, rfl⟩

/-! ## Bytes of texts -/

/-- The bytes from a place on are listed behind those in hand. -/
theorem toList_loop_eq (bytes : ByteArray) (i : Nat) (done : List UInt8) :
    ByteArray.toList.loop bytes i done = done.reverse ++ bytes.data.toList.drop i := by
  fun_induction ByteArray.toList.loop bytes i done with
  | case1 i done hlt ih =>
    have hlt : i < bytes.data.toList.length := hlt
    have hget : bytes.get! i = bytes.data.toList[i] := getElem!_pos bytes.data i hlt
    rw [ih, List.reverse_cons, List.append_assoc, List.drop_eq_getElem_cons hlt, hget]
    rfl
  | case2 i done hge =>
    have hge : bytes.data.toList.length ≤ i := Nat.le_of_not_lt hge
    rw [List.drop_eq_nil_of_le hge, List.append_nil]

/-- The bytes of a text are those of its characters. -/
theorem toList_toUTF8 (text : String) : text.toUTF8.toList = encode text.toList := by
  have hbytes : text.toUTF8 = text.toList.utf8Encode := by
    rw [String.toUTF8_eq_toByteArray, ← String.toByteArray_ofList, String.ofList_toList]
  have hloop := toList_loop_eq text.toUTF8 0 []
  rw [hbytes] at hloop ⊢
  exact hloop.trans (List.toList_data_toByteArray)

/-! ## What is accepted -/

/-- Bytes are read as a text exactly if they are its encoding. -/
theorem decode_eq_ok_iff {bytes : List UInt8} {text : String} :
    decode bytes = .ok text ↔ text.toUTF8.toList = bytes := by
  rw [toList_toUTF8]
  unfold decode
  constructor
  · intro h
    rcases hread : decodeFrom 0 [] bytes with fault | chars
    · rw [hread] at h
      cases h
    · rw [hread] at h
      cases h
      obtain ⟨read, rfl, rfl⟩ := exists_of_decodeFrom_eq_ok hread
      rw [String.toList_ofList]
  · rintro rfl
    have := decodeFrom_encode_append 0 [] text.toList []
    rw [List.append_nil] at this
    rw [this, decodeFrom, List.append_nil, List.reverse_reverse]
    exact congrArg Except.ok (String.ofList_toList)

/-- Whether the longest part in front that is the encoding of a text has the given length. -/
structure IsLongestFront (bytes : List UInt8) (length : Nat) : Prop where
  exists_text : ∃ text : String, text.toUTF8.toList <+: bytes ∧ text.toUTF8.toList.length = length
  length_le (text : String) : text.toUTF8.toList <+: bytes → text.toUTF8.toList.length ≤ length

/-- There is only one longest part. -/
theorem IsLongestFront.unique {bytes : List UInt8} {length length' : Nat}
    (h : IsLongestFront bytes length) (h' : IsLongestFront bytes length') : length = length' := by
  obtain ⟨text, hfront, rfl⟩ := h.exists_text
  obtain ⟨text', hfront', rfl⟩ := h'.exists_text
  exact Nat.le_antisymm (h'.length_le text hfront) (h.length_le text' hfront')

/-- A refusal points behind the longest part in front that is the encoding of a text. -/
theorem isLongestFront_of_decode_eq_error {bytes : List UInt8} {fault : Fault}
    (h : decode bytes = .error fault) : IsLongestFront bytes fault.index := by
  have hread : decodeFrom 0 [] bytes = .error fault := by
    unfold decode at h
    rcases hread : decodeFrom 0 [] bytes with fault' | chars
    · rw [hread] at h
      cases h
      rfl
    · rw [hread] at h
      cases h
  refine ⟨?_, fun text hfront => ?_⟩
  · obtain ⟨read, hfront, hindex⟩ := exists_of_decodeFrom_eq_error hread
    refine ⟨String.ofList read, ?_⟩
    rw [toList_toUTF8, String.toList_ofList, hindex, Nat.zero_add]
    exact ⟨hfront, rfl⟩
  · -- The reader passes every text in front, and only then meets the fault.
    rw [toList_toUTF8] at hfront ⊢
    obtain ⟨rest, rfl⟩ := hfront
    rw [decodeFrom_encode_append] at hread
    obtain ⟨read, -, hindex⟩ := exists_of_decodeFrom_eq_error hread
    omega

end TreeText.Text.Utf8
