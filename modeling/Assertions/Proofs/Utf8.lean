import Assertions.CString
import Mathlib.Tactic.SplitIfs

/-!
Reading back what was encoded. Every character has one well-formed sequence of bytes, and the
lossy reader gives that character for it, whatever comes after the sequence. So the bytes of a text
read back as the text, and two texts with the same bytes are the same.
-/

namespace Assertions.Text

/-- The bytes of a text. -/
def bytes (text : String) : List UInt8 :=
  text.toList.flatMap String.utf8EncodeChar

namespace Utf8

theorem toNat_ofNat {n : Nat} (h : n < 256) : (UInt8.ofNat n).toNat = n :=
  UInt8.toNat_ofNat_of_lt' h

section Sequences

variable {lead second third fourth : UInt8} {rest : List UInt8}

theorem decodeLossy_one (length : lengthOf lead = 1) :
    decodeLossy (lead :: rest) = Char.ofNat lead.toNat :: decodeLossy rest := by
  rw [decodeLossy.eq_def]
  simp only [length]

theorem decodeLossy_two (length : lengthOf lead = 2) (last : isContinuation second) :
    decodeLossy (lead :: second :: rest) = two lead second :: decodeLossy rest := by
  rw [decodeLossy.eq_def]
  simp only [length, last, if_true]

theorem decodeLossy_three (length : lengthOf lead = 3) (next : isSecondOfThree lead second)
    (last : isContinuation third) :
    decodeLossy (lead :: second :: third :: rest) =
      three lead second third :: decodeLossy rest := by
  rw [decodeLossy.eq_def]
  simp only [length, next, last, if_true]

theorem decodeLossy_four (length : lengthOf lead = 4) (next : isSecondOfFour lead second)
    (after : isContinuation third) (last : isContinuation fourth) :
    decodeLossy (lead :: second :: third :: fourth :: rest) =
      four lead second third fourth :: decodeLossy rest := by
  rw [decodeLossy.eq_def]
  simp only [length, next, after, last, if_true]

end Sequences

/-- A lead byte with as many bytes behind it as it asks for. -/
inductive Sequence : List UInt8 → Prop
  | one {lead : UInt8} (length : lengthOf lead = 1) : Sequence [lead]
  | two {lead second : UInt8} (length : lengthOf lead = 2) (last : isContinuation second) :
      Sequence [lead, second]
  | three {lead second third : UInt8} (length : lengthOf lead = 3)
      (next : isSecondOfThree lead second) (last : isContinuation third) :
      Sequence [lead, second, third]
  | four {lead second third fourth : UInt8} (length : lengthOf lead = 4)
      (next : isSecondOfFour lead second) (after : isContinuation third)
      (last : isContinuation fourth) : Sequence [lead, second, third, fourth]

section Ranges

variable {lead second third fourth : UInt8}

theorem lengthOf_one_iff : lengthOf lead = 1 ↔ lead.toNat ≤ 0x7F := by
  grind [lengthOf, inRange]

theorem lengthOf_two_iff : lengthOf lead = 2 ↔ 0xC2 ≤ lead.toNat ∧ lead.toNat ≤ 0xDF := by
  grind [lengthOf, inRange]

theorem lengthOf_three_iff : lengthOf lead = 3 ↔ 0xE0 ≤ lead.toNat ∧ lead.toNat ≤ 0xEF := by
  grind [lengthOf, inRange]

theorem lengthOf_four_iff : lengthOf lead = 4 ↔ 0xF0 ≤ lead.toNat ∧ lead.toNat ≤ 0xF4 := by
  grind [lengthOf, inRange]

theorem isContinuation_iff :
    isContinuation second = true ↔ 0x80 ≤ second.toNat ∧ second.toNat ≤ 0xBF := by
  simp [isContinuation, inRange]

theorem isSecondOfThree_iff : isSecondOfThree lead second = true ↔
    isContinuation second = true ∧ (lead.toNat = 0xE0 → 0xA0 ≤ second.toNat) ∧
      (lead.toNat = 0xED → second.toNat ≤ 0x9F) := by
  rw [isContinuation_iff]
  simp only [isSecondOfThree, isContinuation, inRange]
  split_ifs <;> simp only [Bool.and_eq_true, decide_eq_true_eq] <;> omega

theorem isSecondOfFour_iff : isSecondOfFour lead second = true ↔
    isContinuation second = true ∧ (lead.toNat = 0xF0 → 0x90 ≤ second.toNat) ∧
      (lead.toNat = 0xF4 → second.toNat ≤ 0x8F) := by
  rw [isContinuation_iff]
  simp only [isSecondOfFour, isContinuation, inRange]
  split_ifs <;> simp only [Bool.and_eq_true, decide_eq_true_eq] <;> omega

end Ranges

theorem val_ofNat {n : Nat} (valid : n.isValidChar) : (Char.ofNat n).val.toNat = n := by
  rw [Char.ofNat, dif_pos valid]
  rfl

theorem ofNat_eq {n : Nat} (byte : UInt8) (h : n = byte.toNat) : UInt8.ofNat n = byte := by
  rw [h, UInt8.ofNat_toNat]

/-- What the reader makes of a sequence is the character that it encodes. -/
theorem encode_one {lead : UInt8} (length : lengthOf lead = 1) :
    String.utf8EncodeChar (Char.ofNat lead.toNat) = [lead] := by
  have high := lengthOf_one_iff.mp length
  have point := val_ofNat (n := lead.toNat) (.inl (by omega))
  simp only [String.utf8EncodeChar, point, if_pos high, UInt8.ofNat_toNat]

theorem encode_two {lead second : UInt8} (length : lengthOf lead = 2)
    (last : isContinuation second) : String.utf8EncodeChar (two lead second) = [lead, second] := by
  obtain ⟨low, high⟩ := lengthOf_two_iff.mp length
  obtain ⟨low', high'⟩ := isContinuation_iff.mp last
  have point : (two lead second).val.toNat = (lead.toNat - 0xC0) * 0x40 + (second.toNat - 0x80) :=
    val_ofNat (.inl (by unfold payload; omega))
  unfold String.utf8EncodeChar
  generalize (two lead second).val.toNat = v at point
  dsimp only
  rw [if_neg (by omega), if_pos (by omega), ofNat_eq lead (by omega),
    ofNat_eq second (by omega)]

theorem encode_three {lead second third : UInt8} (length : lengthOf lead = 3)
    (next : isSecondOfThree lead second) (last : isContinuation third) :
    String.utf8EncodeChar (three lead second third) = [lead, second, third] := by
  obtain ⟨low, high⟩ := lengthOf_three_iff.mp length
  obtain ⟨inside, overlong, surrogate⟩ := isSecondOfThree_iff.mp next
  obtain ⟨low', high'⟩ := isContinuation_iff.mp inside
  obtain ⟨low'', high''⟩ := isContinuation_iff.mp last
  have point : (three lead second third).val.toNat = (lead.toNat - 0xE0) * 0x1000 +
      (second.toNat - 0x80) * 0x40 + (third.toNat - 0x80) :=
    val_ofNat (by unfold payload Nat.isValidChar; omega)
  unfold String.utf8EncodeChar
  generalize (three lead second third).val.toNat = v at point
  dsimp only
  rw [if_neg (by omega), if_neg (by omega), if_pos (by omega), ofNat_eq lead (by omega),
    ofNat_eq second (by omega), ofNat_eq third (by omega)]

theorem encode_four {lead second third fourth : UInt8} (length : lengthOf lead = 4)
    (next : isSecondOfFour lead second) (after : isContinuation third)
    (last : isContinuation fourth) :
    String.utf8EncodeChar (four lead second third fourth) = [lead, second, third, fourth] := by
  obtain ⟨low, high⟩ := lengthOf_four_iff.mp length
  obtain ⟨inside, overlong, beyond⟩ := isSecondOfFour_iff.mp next
  obtain ⟨low', high'⟩ := isContinuation_iff.mp inside
  obtain ⟨low'', high''⟩ := isContinuation_iff.mp after
  obtain ⟨low₃, high₃⟩ := isContinuation_iff.mp last
  have point : (four lead second third fourth).val.toNat = (lead.toNat - 0xF0) * 0x40000 +
      (second.toNat - 0x80) * 0x1000 + (third.toNat - 0x80) * 0x40 + (fourth.toNat - 0x80) :=
    val_ofNat (by unfold payload Nat.isValidChar; omega)
  unfold String.utf8EncodeChar
  generalize (four lead second third fourth).val.toNat = v at point
  dsimp only
  rw [if_neg (by omega), if_neg (by omega), if_neg (by omega), ofNat_eq lead (by omega),
    ofNat_eq second (by omega), ofNat_eq third (by omega),
    ofNat_eq fourth (by omega)]

theorem isContinuation_ofNat (n : Nat) : isContinuation (UInt8.ofNat (n % 64 + 128)) = true := by
  rw [isContinuation, inRange, toNat_ofNat (by omega)]
  simp
  omega

theorem sequence_encode (c : Char) : Sequence (String.utf8EncodeChar c) := by
  have valid : c.val.toNat < 0xD800 ∨ 0xDFFF < c.val.toNat ∧ c.val.toNat < 0x110000 := c.valid
  unfold String.utf8EncodeChar
  generalize c.val.toNat = v at valid
  dsimp only
  split_ifs with one two three
  · have lead : (UInt8.ofNat v).toNat = v := toNat_ofNat (by omega)
    exact .one (lengthOf_one_iff.mpr (by omega))
  · have lead : (UInt8.ofNat (v / 64 % 32 + 192)).toNat = v / 64 % 32 + 192 :=
      toNat_ofNat (by omega)
    exact .two (lengthOf_two_iff.mpr (by omega)) (isContinuation_ofNat v)
  · have lead : (UInt8.ofNat (v / 4096 % 16 + 224)).toNat = v / 4096 % 16 + 224 :=
      toNat_ofNat (by omega)
    have second : (UInt8.ofNat (v / 64 % 64 + 128)).toNat = v / 64 % 64 + 128 :=
      toNat_ofNat (by omega)
    refine .three (lengthOf_three_iff.mpr (by omega)) ?_ (isContinuation_ofNat v)
    exact isSecondOfThree_iff.mpr ⟨isContinuation_ofNat _, by omega, by omega⟩
  · have lead : (UInt8.ofNat (v / 262144 % 8 + 240)).toNat = v / 262144 % 8 + 240 :=
      toNat_ofNat (by omega)
    have second : (UInt8.ofNat (v / 4096 % 64 + 128)).toNat = v / 4096 % 64 + 128 :=
      toNat_ofNat (by omega)
    refine .four (lengthOf_four_iff.mpr (by omega)) ?_ (isContinuation_ofNat _)
      (isContinuation_ofNat v)
    exact isSecondOfFour_iff.mpr ⟨isContinuation_ofNat _, by omega, by omega⟩

theorem encode_inj {c d : Char} (h : String.utf8EncodeChar c = String.utf8EncodeChar d) :
    c = d := by
  have texts : String.ofList [c] = String.ofList [d] := by
    rw [← String.toByteArray_inj, String.toByteArray_ofList, String.toByteArray_ofList,
      List.utf8Encode_singleton, List.utf8Encode_singleton, h]
  exact List.head_eq_of_cons_eq (String.ofList_injective texts)

theorem decodeLossy_sequence {bytes : List UInt8} (h : Sequence bytes) (rest : List UInt8) :
    ∃ c, String.utf8EncodeChar c = bytes ∧ decodeLossy (bytes ++ rest) = c :: decodeLossy rest := by
  cases h with
  | one length => exact ⟨_, encode_one length, decodeLossy_one length⟩
  | two length last => exact ⟨_, encode_two length last, decodeLossy_two length last⟩
  | three length next last =>
      exact ⟨_, encode_three length next last, decodeLossy_three length next last⟩
  | four length next after last =>
      exact ⟨_, encode_four length next after last, decodeLossy_four length next after last⟩

/-- A sequence reads as the character that it encodes. -/
theorem decodeLossy_encode (c : Char) (rest : List UInt8) :
    decodeLossy (String.utf8EncodeChar c ++ rest) = c :: decodeLossy rest := by
  obtain ⟨d, same, read⟩ := decodeLossy_sequence (sequence_encode c) rest
  rwa [encode_inj same] at read

/-- What stands behind encoded characters is read by itself. -/
theorem decodeLossy_append (chars : List Char) (rest : List UInt8) :
    decodeLossy (chars.flatMap String.utf8EncodeChar ++ rest) = chars ++ decodeLossy rest := by
  induction chars with
  | nil => rfl
  | cons c chars ih =>
      rw [List.flatMap_cons, List.append_assoc, decodeLossy_encode, ih, List.cons_append]

end Utf8

theorem ofBytesLossy_append (text : String) (rest : List UInt8) :
    ofBytesLossy (bytes text ++ rest) = text ++ ofBytesLossy rest := by
  rw [ofBytesLossy, bytes, Utf8.decodeLossy_append, String.ofList_append, String.ofList_toList]
  rfl

theorem ofBytesLossy_bytes (text : String) : ofBytesLossy (bytes text) = text := by
  have read := ofBytesLossy_append text []
  rwa [List.append_nil, show ofBytesLossy [] = "" from rfl, String.append_empty] at read

theorem bytes_inj {text other : String} : bytes text = bytes other ↔ text = other := by
  constructor
  · intro same
    rw [← ofBytesLossy_bytes text, same, ofBytesLossy_bytes]
  · exact congrArg bytes

end Assertions.Text
