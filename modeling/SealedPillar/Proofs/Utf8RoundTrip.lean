import SealedPillar.Text.Utf8
import Mathlib.Tactic.SplitIfs

/-!
Decoding the UTF-8 bytes of a text gives the text back.

`Text.utf8Bytes` is the concatenation of the characters' encodings (`utf8Bytes_eq`). The decoder
reads each encoding back as its character, whatever follows it (`readChar_encode`): the first
byte announces the width, the range checks hold because a character is no surrogate and lies
below U+110000, and the payload bits reassemble the code point. So decoding a whole encoded text
succeeds with that text (`decodeUtf8_utf8Bytes`), and lossy decoding gives it too
(`decodeLossy_utf8Bytes`).
-/

namespace SealedPillar

namespace Text

theorem byteArray_toList_loop (bs : ByteArray) (i : Nat) (r : List UInt8) :
    ByteArray.toList.loop bs i r = r.reverse ++ bs.data.toList.drop i := by
  fun_induction ByteArray.toList.loop bs i r with
  | case1 i r inside ih =>
    obtain ⟨bytes⟩ := bs
    have bounded : i < bytes.toList.length := by simpa [ByteArray.size] using inside
    rw [ih, List.drop_eq_getElem_cons bounded]
    simp [ByteArray.get!, getElem!_pos bytes i (by simpa using bounded)]
  | case2 i r outside =>
    have empty : bs.data.toList.drop i = [] := List.drop_eq_nil_iff.mpr (by simp; omega)
    simp [empty]

theorem utf8Bytes_eq (s : String) : utf8Bytes s = s.toList.flatMap String.utf8EncodeChar := by
  rw [utf8Bytes, ByteArray.toList, byteArray_toList_loop, String.toUTF8_eq_toByteArray,
    ← String.utf8Encode_toList]
  simp [List.utf8Encode]

theorem length_utf8Bytes (s : String) : (utf8Bytes s).length = s.utf8ByteSize := by
  rw [utf8Bytes, ByteArray.toList, byteArray_toList_loop, String.toUTF8_eq_toByteArray,
    ← String.size_toByteArray]
  simp only [List.reverse_nil, List.nil_append, List.drop_zero, Array.length_toList]
  rfl

theorem readChar_encode (c : Char) (rest : List Nat) :
    readChar ((String.utf8EncodeChar c).map UInt8.toNat ++ rest) = .ok (c, c.utf8Size) := by
  unfold String.utf8EncodeChar Char.utf8Size
  have back : Char.ofNat c.val.toNat = c := Char.ofNat_toNat c
  have valid : c.val.toNat < 0xd800 ∨ (0xdfff < c.val.toNat ∧ c.val.toNat < 0x110000) := c.valid
  simp only [UInt32.le_iff_toNat_le, UInt32.toNat_ofNatLT]
  generalize c.val.toNat = v at *
  subst back
  -- one case per width; in each, the bytes fit in a byte, the first announces the width, the
  -- others are continuations in range, and the payload bits give back `v`
  by_cases one : v ≤ 127
  · have width : sequenceWidth v = 1 := by
      simp only [sequenceWidth, Bool.and_eq_true, decide_eq_true_eq]; split_ifs <;> omega
    simp [one, readChar, Nat.mod_eq_of_lt (show v < 256 by omega), width]
  by_cases two : v ≤ 2047
  · have first : (v / 64 % 32 + 192) % 256 = v / 64 + 192 := by omega
    have second : (v % 64 + 128) % 256 = v % 64 + 128 := by omega
    have width : sequenceWidth (v / 64 + 192) = 2 := by
      simp only [sequenceWidth, Bool.and_eq_true, decide_eq_true_eq]; split_ifs <;> omega
    have range : secondByteRange (v / 64 + 192) = (128, 191) := by
      simp only [secondByteRange, beq_iff_eq]; split_ifs <;> first | rfl | omega
    have tail : ¬ 63 < v % 64 := by omega
    have value : (v / 64 + 192) % 32 * 64 + (v + 128) % 64 = v := by omega
    simp [one, two, readChar, first, second, width, range, tail, value]
  by_cases three : v ≤ 65535
  · have first : (v / 4096 % 16 + 224) % 256 = v / 4096 + 224 := by omega
    have second : (v / 64 % 64 + 128) % 256 = v / 64 % 64 + 128 := by omega
    have third : (v % 64 + 128) % 256 = v % 64 + 128 := by omega
    have width : sequenceWidth (v / 4096 + 224) = 3 := by
      simp only [sequenceWidth, Bool.and_eq_true, decide_eq_true_eq]; split_ifs <;> omega
    -- after `0xE0` the second byte is at least `0xA0`, after `0xED` (surrogates) below `0xA0`
    have range : (secondByteRange (v / 4096 + 224)).1 ≤ v / 64 % 64 + 128 ∧
        v / 64 % 64 + 128 ≤ (secondByteRange (v / 4096 + 224)).2 := by
      simp only [secondByteRange, beq_iff_eq]; split_ifs <;> simp <;> omega
    have tail : ¬ 63 < v % 64 := by omega
    have value : (v / 4096 + 224) % 16 * 4096 + (v / 64 + 128) % 64 * 64 + (v + 128) % 64 = v := by
      omega
    simp [one, two, three, readChar, first, second, third, width, range, isContinuation, tail,
      value]
  have first : (v / 262144 % 8 + 240) % 256 = v / 262144 + 240 := by omega
  have second : (v / 4096 % 64 + 128) % 256 = v / 4096 % 64 + 128 := by omega
  have third : (v / 64 % 64 + 128) % 256 = v / 64 % 64 + 128 := by omega
  have fourth : (v % 64 + 128) % 256 = v % 64 + 128 := by omega
  have width : sequenceWidth (v / 262144 + 240) = 4 := by
    simp only [sequenceWidth, Bool.and_eq_true, decide_eq_true_eq]; split_ifs <;> omega
  -- after `0xF0` the second byte is at least `0x90`, after `0xF4` below `0x90`
  have range : (secondByteRange (v / 262144 + 240)).1 ≤ v / 4096 % 64 + 128 ∧
      v / 4096 % 64 + 128 ≤ (secondByteRange (v / 262144 + 240)).2 := by
    simp only [secondByteRange, beq_iff_eq]; split_ifs <;> simp <;> omega
  have thirdTail : ¬ 63 < v / 64 % 64 := by omega
  have tail : ¬ 63 < v % 64 := by omega
  have value : (v / 262144 + 240) % 8 * 262144 + (v / 4096 + 128) % 64 * 4096 +
      (v / 64 + 128) % 64 * 64 + (v + 128) % 64 = v := by
    omega
  simp [one, two, three, readChar, first, second, third, fourth, width, range, isContinuation,
    thirdTail, tail, value]

theorem encode_append_eq_cons (c : Char) (rest : List Nat) :
    ∃ b more, (String.utf8EncodeChar c).map UInt8.toNat ++ rest = b :: more := by
  have width : ((String.utf8EncodeChar c).map UInt8.toNat).length = c.utf8Size := by simp
  have positive : 0 < c.utf8Size := Char.utf8Size_pos c
  cases encoded : (String.utf8EncodeChar c).map UInt8.toNat with
  | nil => simp [encoded] at width; omega
  | cons b bs => exact ⟨b, _, rfl⟩

theorem decodeFrom_encode (acc : List Char) (n : Nat) (cs : List Char) :
    decodeFrom acc n ((cs.flatMap String.utf8EncodeChar).map UInt8.toNat) =
      .ok (String.ofList (acc.reverse ++ cs)) := by
  induction cs generalizing acc n with
  | nil => simp [decodeFrom]
  | cons c cs ih =>
    have width : ((String.utf8EncodeChar c).map UInt8.toNat).length = c.utf8Size := by simp
    have positive : 0 < c.utf8Size := Char.utf8Size_pos c
    obtain ⟨b, more, split⟩ :=
      encode_append_eq_cons c ((cs.flatMap String.utf8EncodeChar).map UInt8.toNat)
    rw [List.flatMap_cons, List.map_append, split, decodeFrom, ← split, readChar_encode]
    simp only [Nat.max_eq_left positive]
    rw [List.drop_left' width, ih]
    simp

theorem decodeUtf8_utf8Bytes (s : String) : decodeUtf8 (utf8Bytes s) = .ok s := by
  simp [decodeUtf8, utf8Bytes_eq, decodeFrom_encode]

theorem decodeLossyFrom_encode (acc : List Char) (cs : List Char) :
    decodeLossyFrom acc ((cs.flatMap String.utf8EncodeChar).map UInt8.toNat) =
      String.ofList (acc.reverse ++ cs) := by
  induction cs generalizing acc with
  | nil => simp [decodeLossyFrom]
  | cons c cs ih =>
    have width : ((String.utf8EncodeChar c).map UInt8.toNat).length = c.utf8Size := by simp
    have positive : 0 < c.utf8Size := Char.utf8Size_pos c
    obtain ⟨b, more, split⟩ :=
      encode_append_eq_cons c ((cs.flatMap String.utf8EncodeChar).map UInt8.toNat)
    rw [List.flatMap_cons, List.map_append, split, decodeLossyFrom, ← split, readChar_encode]
    simp only [Nat.max_eq_left positive]
    rw [List.drop_left' width, ih]
    simp

theorem decodeLossy_utf8Bytes (s : String) : decodeLossy (utf8Bytes s) = s := by
  simp [decodeLossy, utf8Bytes_eq, decodeLossyFrom_encode]

end Text

end SealedPillar
