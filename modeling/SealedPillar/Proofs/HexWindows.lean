import SealedPillar.Proofs.ArmorCodec
import SealedPillar.Proofs.MockCodec

/-!
When the test codec's decryption faults.

The codec reads the hex of a message two bytes at a time and cuts each window out of the text by
byte offsets, without asking whether the window lies inside the text or ends between two
characters. Such a window is a fault of its own (`CipherError.isSliceFault`), not a failed
decryption. Read off the characters (`Armor.hexFaults`), the reading meets one exactly when, after
pairs of hex digits, it comes to a last lone ASCII character, to an ASCII character followed by a
wider one, or to a character of three or four bytes; a character of two bytes is a window of its
own and is refused as bad hex. Every other failure of the test backend's decryption is a
`decryptionFailed` (`Mock.decrypt_faults_iff`). So a hex part of odd length whose pairs are all
hex, such as `616`, faults where the backend's own errors promise a refusal
(`Mock.decrypt_odd_hex_faults`).
-/

namespace SealedPillar

namespace CipherError

def isSliceFault : CipherError → Bool
  | sliceOutOfBounds .. => true
  | sliceSplitsChar .. => true
  | _ => false

end CipherError

namespace Text

theorem utf8EncodeChar_shape (c : Char) : ∃ b more, String.utf8EncodeChar c = b :: more ∧
    (b.toNat < 0x80 ∨ 0xC0 ≤ b.toNat) ∧ ∀ r ∈ more, 0x80 ≤ r.toNat ∧ r.toNat < 0xC0 := by
  unfold String.utf8EncodeChar
  generalize c.val.toNat = v
  dsimp only
  split_ifs <;> simp <;> omega

theorem decodeUtf8_encodeChars (cs : List Char) :
    decodeUtf8 (cs.flatMap String.utf8EncodeChar) = .ok (String.ofList cs) := by
  simpa [utf8Bytes_eq] using decodeUtf8_utf8Bytes (String.ofList cs)

end Text

namespace Armor

open Text

/-- Whether reading hex two bytes at a time from these characters meets a window that runs past
the end or ends inside a character before it meets a pair that is not hex. -/
def hexFaults : List Char → Bool
  | [] => false
  | [c] => c.utf8Size != 2
  | c :: d :: more =>
    if c.utf8Size = 1 then
      if d.utf8Size = 1 then (pairValue? [c, d]).isSome && hexFaults more else true
    else 2 < c.utf8Size

theorem hexFaults_ascii_even (cs : List Char) (ascii : ∀ c ∈ cs, c.utf8Size = 1)
    (even : cs.length % 2 = 0) : hexFaults cs = false := by
  induction cs using hexFaults.induct with
  | case1 => rfl
  | case2 c => simp at even
  | case3 c d more first second ih =>
    have rest := ih (fun c mem => ascii c (by simp [mem])) (by simp at even; omega)
    simp [hexFaults, first, second, rest]
  | case4 c d more first second => exact absurd (ascii d (by simp)) second
  | case5 c d more first => exact absurd (ascii c (by simp)) first

theorem isCharBoundary_start (pre : List UInt8) (cs : List Char) :
    isCharBoundary (pre ++ cs.flatMap String.utf8EncodeChar) pre.length = true := by
  unfold isCharBoundary
  rw [List.getElem?_append_right (Nat.le_refl _), Nat.sub_self]
  cases cs with
  | nil => simp
  | cons c cs =>
    obtain ⟨b, more, encoding, lead, -⟩ := utf8EncodeChar_shape c
    rw [List.flatMap_cons, encoding]
    simp only [List.cons_append, List.getElem?_cons_zero, Bool.or_eq_true, decide_eq_true_eq]
    omega

theorem isCharBoundary_inside (pre : List UInt8) (c : Char) {k : Nat} (past : 0 < k)
    (within : k < c.utf8Size) (rest : List UInt8) :
    isCharBoundary (pre ++ String.utf8EncodeChar c ++ rest) (pre.length + k) = false := by
  obtain ⟨b, more, encoding, -, continuing⟩ := utf8EncodeChar_shape c
  have length : more.length + 1 = c.utf8Size := by
    rw [← String.length_utf8EncodeChar, encoding, List.length_cons]
  -- the byte at `k` is one of the continuation bytes of `c`
  obtain ⟨j, rfl⟩ : ∃ j, k = j + 1 := ⟨k - 1, by omega⟩
  have bound : j < more.length := by omega
  have byte : (pre ++ String.utf8EncodeChar c ++ rest)[pre.length + (j + 1)]? = some more[j] := by
    rw [List.append_assoc, List.getElem?_append_right (by omega), encoding]
    simp [List.getElem?_append_left bound]
  have continuation := continuing _ (List.getElem_mem bound)
  simp only [isCharBoundary, byte, Bool.or_eq_false_iff, decide_eq_false_iff_not]
  omega

/-! ### The reader's branches -/

section Branches

variable {hex : String} {bytes : List UInt8} {pos fuel : Nat}

theorem decodePairs_done (done : bytes.length ≤ pos) : decodePairs hex bytes pos (fuel + 1) = .ok [] := by
  rw [decodePairs, if_pos done]

theorem decodePairs_overruns (left : pos < bytes.length) (beyond : bytes.length < pos + 2) :
    decodePairs hex bytes pos (fuel + 1) = .error (.sliceOutOfBounds (pos + 2) bytes.length) := by
  rw [decodePairs, if_neg (by omega), if_pos beyond]

theorem decodePairs_splits (inside : pos + 2 ≤ bytes.length)
    (split : isCharBoundary bytes (pos + 2) = false) :
    ∃ e, decodePairs hex bytes pos (fuel + 1) = .error e ∧ e.isSliceFault = true := by
  rw [decodePairs, if_neg (by omega), if_neg (by omega), split]
  exact ⟨_, rfl, rfl⟩

section Window

variable (inside : pos + 2 ≤ bytes.length) (boundary : isCharBoundary bytes (pos + 2) = true)
  {pair : String} (decoded : decodeUtf8 ((bytes.drop pos).take 2) = .ok pair)
include inside boundary decoded

theorem decodePairs_bad_pair (bad : pairValue? pair.toList = none) :
    decodePairs hex bytes pos (fuel + 1) =
      .error (.decryptionFailed "invalid hex: invalid digit found in string") := by
  rw [decodePairs, if_neg (by omega), if_neg (by omega), boundary]
  simp only [Bool.not_true, Bool.false_eq_true, if_false, decoded, bad]

theorem decodePairs_good_pair {v : Nat} (good : pairValue? pair.toList = some v) :
    decodePairs hex bytes pos (fuel + 1) =
      (decodePairs hex bytes (pos + 2) fuel).map (UInt8.ofNat v :: ·) := by
  rw [decodePairs, if_neg (by omega), if_neg (by omega), boundary]
  simp only [Bool.not_true, Bool.false_eq_true, if_false, decoded, good]

end Window

theorem decodePairs_error_cases : ∀ {pos fuel : Nat} {e : CipherError},
    decodePairs hex bytes pos fuel = .error e →
      e.isSliceFault = true ∨ ∃ r, e = .decryptionFailed r
  | _, 0, _, failed => by simp [decodePairs] at failed
  | pos, fuel + 1, e, failed => by
    unfold decodePairs at failed
    -- the branch that reads nothing cannot fail
    split_ifs at failed with done beyond split
    · cases failed
      exact .inl rfl
    · cases failed
      exact .inl rfl
    · split at failed
      · cases failed
        exact .inr ⟨_, rfl⟩
      · split at failed
        · cases failed
          exact .inr ⟨_, rfl⟩
        · -- the rest of the hex failed, and its failure is passed on
          cases later : decodePairs hex bytes (pos + 2) fuel with
          | ok bs =>
            rw [later] at failed
            cases failed
          | error e' =>
            rw [later] at failed
            cases failed
            exact decodePairs_error_cases later

end Branches

/-! ### Windows read off the characters -/

theorem exists_error_map {α β : Type} (r : Except CipherError α) (f : α → β) (P : CipherError → Prop) :
    (∃ e, r.map f = .error e ∧ P e) ↔ ∃ e, r = .error e ∧ P e := by
  cases r <;> simp [Except.map]

theorem pairValue_wide {c : Char} (wide : c.utf8Size = 2) : pairValue? [c] = none := by
  have code : 127 < c.toNat := by
    have := Char.utf8Size_eq_two_iff.mp wide
    rw [UInt32.lt_iff_toNat_lt] at this
    simpa using this.1
  have plus : c ≠ '+' := by
    rintro rfl
    simp at code
  simp only [pairValue?, Char.le_def, UInt32.le_iff_toNat_le, Char.toNat_val]
  split
  · rename_i r signed
    exact absurd (List.cons.inj signed).1 plus
  · simp
    split_ifs <;> omega

section Reading

variable (hex : String)

theorem decodePairs_two_byte_head {c : Char} (wide : c.utf8Size = 2) (rest : List Char)
    (pre : List UInt8) (fuel : Nat) :
    decodePairs hex (pre ++ (c :: rest).flatMap String.utf8EncodeChar) pre.length (fuel + 1) =
      .error (.decryptionFailed "invalid hex: invalid digit found in string") := by
  have width : (String.utf8EncodeChar c).length = 2 := by simp [wide]
  have shape : pre ++ (c :: rest).flatMap String.utf8EncodeChar =
      (pre ++ String.utf8EncodeChar c) ++ rest.flatMap String.utf8EncodeChar := by simp
  have ends : (pre ++ String.utf8EncodeChar c).length = pre.length + 2 := by simp [width]
  -- the window is the character's own two bytes, which end where the next character starts
  have window : ((pre ++ (c :: rest).flatMap String.utf8EncodeChar).drop pre.length).take 2 =
      [c].flatMap String.utf8EncodeChar := by
    simp [List.take_append_of_le_length (le_of_eq width.symm), List.take_of_length_le (le_of_eq width)]
  rw [shape] at window ⊢
  refine decodePairs_bad_pair (by simp [width]) ?_ (by rw [window]; exact decodeUtf8_encodeChars [c]) ?_
  · rw [← ends]
    exact isCharBoundary_start _ rest
  · simpa using pairValue_wide wide

theorem decodePairs_wider_head {c : Char} (wider : 2 < c.utf8Size) (rest : List Char)
    (pre : List UInt8) (fuel : Nat) :
    ∃ e, decodePairs hex (pre ++ (c :: rest).flatMap String.utf8EncodeChar) pre.length (fuel + 1) =
      .error e ∧ e.isSliceFault = true := by
  have shape : pre ++ (c :: rest).flatMap String.utf8EncodeChar =
      pre ++ String.utf8EncodeChar c ++ rest.flatMap String.utf8EncodeChar := by simp
  rw [shape]
  -- the window's end falls on the third byte of the character
  exact decodePairs_splits (by simp; omega) (isCharBoundary_inside pre c (by omega) wider _)

theorem decodePairs_lone_ascii {c : Char} (ascii : c.utf8Size = 1) (pre : List UInt8) (fuel : Nat) :
    decodePairs hex (pre ++ [c].flatMap String.utf8EncodeChar) pre.length (fuel + 1) =
      .error (.sliceOutOfBounds (pre.length + 2) (pre.length + 1)) := by
  have overrun : decodePairs hex (pre ++ [c].flatMap String.utf8EncodeChar) pre.length (fuel + 1) =
      .error (.sliceOutOfBounds (pre.length + 2) (pre ++ [c].flatMap String.utf8EncodeChar).length) :=
    decodePairs_overruns (by simp [ascii]) (by simp [ascii])
  simpa [ascii] using overrun

theorem decodePairs_ascii_then_wide {c d : Char} (ascii : c.utf8Size = 1) (wide : 2 ≤ d.utf8Size)
    (rest : List Char) (pre : List UInt8) (fuel : Nat) :
    ∃ e, decodePairs hex (pre ++ (c :: d :: rest).flatMap String.utf8EncodeChar) pre.length
      (fuel + 1) = .error e ∧ e.isSliceFault = true := by
  have shape : pre ++ (c :: d :: rest).flatMap String.utf8EncodeChar =
      (pre ++ String.utf8EncodeChar c) ++ String.utf8EncodeChar d ++
        rest.flatMap String.utf8EncodeChar := by simp
  have ends : (pre ++ String.utf8EncodeChar c).length = pre.length + 1 := by simp [ascii]
  -- the window's end falls on the second byte of `d`
  have split := isCharBoundary_inside (pre ++ String.utf8EncodeChar c) d (k := 1) (by omega)
    (by omega) (rest.flatMap String.utf8EncodeChar)
  rw [ends] at split
  rw [shape]
  exact decodePairs_splits (by simp [ascii]; omega) split

theorem append_encoded_pair (c d : Char) (rest : List Char) (pre : List UInt8) :
    pre ++ (c :: d :: rest).flatMap String.utf8EncodeChar =
      (pre ++ [c, d].flatMap String.utf8EncodeChar) ++ rest.flatMap String.utf8EncodeChar := by
  simp

section Pair

variable {c d : Char} (first : c.utf8Size = 1) (second : d.utf8Size = 1) (rest : List Char)
  (pre : List UInt8) (fuel : Nat)
include first second

theorem decodePairs_ascii_pair_window :
    ((pre ++ (c :: d :: rest).flatMap String.utf8EncodeChar).drop pre.length).take 2 =
      [c, d].flatMap String.utf8EncodeChar := by
  have width : ([c, d].flatMap String.utf8EncodeChar).length = 2 := by simp [first, second]
  rw [append_encoded_pair c d rest pre, List.append_assoc, List.drop_left,
    List.take_append_of_le_length (le_of_eq width.symm), List.take_of_length_le (le_of_eq width)]

theorem decodePairs_ascii_bad_pair (bad : pairValue? [c, d] = none) :
    decodePairs hex (pre ++ (c :: d :: rest).flatMap String.utf8EncodeChar) pre.length (fuel + 1) =
      .error (.decryptionFailed "invalid hex: invalid digit found in string") := by
  have ends : (pre ++ [c, d].flatMap String.utf8EncodeChar).length = pre.length + 2 := by
    simp [first, second]
  refine decodePairs_bad_pair (by simp [first, second]; omega) ?_
    (by rw [decodePairs_ascii_pair_window first second]; exact decodeUtf8_encodeChars [c, d])
    (by simpa using bad)
  rw [append_encoded_pair c d rest pre, ← ends]
  exact isCharBoundary_start _ rest

theorem decodePairs_ascii_good_pair {v : Nat} (good : pairValue? [c, d] = some v) :
    decodePairs hex (pre ++ (c :: d :: rest).flatMap String.utf8EncodeChar) pre.length (fuel + 1) =
      (decodePairs hex ((pre ++ [c, d].flatMap String.utf8EncodeChar) ++
        rest.flatMap String.utf8EncodeChar) (pre ++ [c, d].flatMap String.utf8EncodeChar).length
        fuel).map (UInt8.ofNat v :: ·) := by
  have ends : (pre ++ [c, d].flatMap String.utf8EncodeChar).length = pre.length + 2 := by
    simp [first, second]
  rw [ends, ← append_encoded_pair c d rest pre]
  refine decodePairs_good_pair (by simp [first, second]; omega) ?_
    (by rw [decodePairs_ascii_pair_window first second]; exact decodeUtf8_encodeChars [c, d])
    (by simpa using good)
  rw [append_encoded_pair c d rest pre, ← ends]
  exact isCharBoundary_start _ rest

end Pair

theorem decodePairs_faults_iff (cs : List Char) : ∀ (pre : List UInt8) (fuel : Nat),
    (cs.flatMap String.utf8EncodeChar).length < fuel →
    ((∃ e, decodePairs hex (pre ++ cs.flatMap String.utf8EncodeChar) pre.length fuel = .error e ∧
      e.isSliceFault = true) ↔ hexFaults cs = true) := by
  induction cs using hexFaults.induct with
  | case1 =>
    rintro pre (_ | fuel) enough
    · simp at enough
    rw [List.flatMap_nil, List.append_nil, decodePairs_done (Nat.le_refl _)]
    simp [hexFaults]
  | case2 c =>
    rintro pre (_ | fuel) enough
    · simp at enough
    rcases Char.utf8Size_eq c with one | two | three | four
    · rw [decodePairs_lone_ascii hex one]
      simp [hexFaults, one, CipherError.isSliceFault]
    · rw [decodePairs_two_byte_head hex two [] pre fuel]
      simp [hexFaults, two, CipherError.isSliceFault]
    · simpa [hexFaults, three] using decodePairs_wider_head hex (by omega) [] pre fuel
    · simpa [hexFaults, four] using decodePairs_wider_head hex (by omega) [] pre fuel
  | case3 c d more first second ih =>
    rintro pre (_ | fuel) enough
    · simp at enough
    cases value : pairValue? [c, d] with
    | none =>
      rw [decodePairs_ascii_bad_pair hex first second more pre fuel value]
      simp [hexFaults, first, second, value, CipherError.isSliceFault]
    | some v =>
      -- a good pair passes on what the rest of the hex gives
      have rest := ih (pre ++ [c, d].flatMap String.utf8EncodeChar) fuel
        (by simp [first, second] at enough ⊢; omega)
      rw [decodePairs_ascii_good_pair hex first second more pre fuel value, exists_error_map]
      simpa [hexFaults, first, second, value] using rest
  | case4 c d more first second =>
    rintro pre (_ | fuel) enough
    · simp at enough
    have wide : 2 ≤ d.utf8Size := by have := Char.utf8Size_pos d; omega
    simpa [hexFaults, first, second] using
      decodePairs_ascii_then_wide hex first wide more pre fuel
  | case5 c d more first =>
    rintro pre (_ | fuel) enough
    · simp at enough
    rcases Char.utf8Size_eq c with one | two | three | four
    · exact absurd one first
    · rw [decodePairs_two_byte_head hex two (d :: more) pre fuel]
      simp [hexFaults, two, CipherError.isSliceFault]
    · simpa [hexFaults, three] using decodePairs_wider_head hex (by omega) (d :: more) pre fuel
    · simpa [hexFaults, four] using decodePairs_wider_head hex (by omega) (d :: more) pre fuel

end Reading

theorem decodeHex_faults (hex : String) :
    (∀ e, decodeHex hex = .error e → e.isSliceFault = true ∨ ∃ r, e = .decryptionFailed r) ∧
      ((∃ e, decodeHex hex = .error e ∧ e.isSliceFault = true) ↔ hexFaults hex.toList = true) := by
  have reading := decodePairs_faults_iff hex hex.toList [] ((utf8Bytes hex).length + 1)
    (by rw [utf8Bytes_eq]; omega)
  rw [List.nil_append, List.length_nil, ← utf8Bytes_eq] at reading
  unfold decodeHex
  cases read : decodePairs hex (utf8Bytes hex) 0 ((utf8Bytes hex).length + 1) with
  | error e =>
    rw [read] at reading
    refine ⟨fun e' failed => ?_, ?_⟩
    · simp only [read, except_error_bind, Except.error.injEq] at failed
      exact failed ▸ decodePairs_error_cases read
    · simpa [read] using reading
  | ok raw =>
    have clean : hexFaults hex.toList = false := by simpa [read] using reading
    -- the pairs were read, so only the decoding of their bytes can fail, as a decryption
    simp only [read, except_ok_bind, clean, Bool.false_eq_true, iff_false, not_exists, not_and]
    cases decoded : decodeUtf8 raw with
    | ok s => exact ⟨fun _ failed => (by cases failed), fun _ failed => (by cases failed)⟩
    | error f =>
      refine ⟨fun _ failed => ?_, fun _ failed fault => ?_⟩ <;> cases failed
      · exact .inr ⟨_, rfl⟩
      · cases fault

theorem split_error_cases {message : String} {e : CipherError} (failed : split message = .error e) :
    ∃ r, e = .decryptionFailed r := by
  unfold split at failed
  dsimp only at failed
  split_ifs at failed
  · split at failed
    · cases failed
    · cases failed
      exact ⟨_, rfl⟩
  · cases failed
    exact ⟨_, rfl⟩

end Armor

namespace Mock

/-- The test backend's decryption answers a plaintext or a failed decryption, except exactly when
the message is for a key it holds and its hex, read two bytes at a time, meets a window past the
end of the hex or inside a character before a pair that is no hex: then the window faults. -/
theorem decrypt_faults_iff (keys : MockKeys) (message : String) (n : Nat) :
    let answer := (((counting keys).decrypt message).run n).1
    (∀ e, answer = .error e → e.isSliceFault = true ∨ ∃ r, e = .decryptionFailed r) ∧
      ((∃ e, answer = .error e ∧ e.isSliceFault = true) ↔
        ∃ key hex, Armor.split message = .ok (key, hex) ∧ key ∈ keys.secrets ∧
          Armor.hexFaults hex.toList = true) := by
  intro answer
  have answered : answer = Armor.decrypt keys.secrets message := by simp [answer]
  rw [answered]
  unfold Armor.decrypt
  cases splitting : Armor.split message with
  | error e =>
    obtain ⟨r, rfl⟩ := Armor.split_error_cases splitting
    simp [CipherError.isSliceFault]
  | ok pair =>
    obtain ⟨key, hex⟩ := pair
    by_cases held : key ∈ keys.secrets
    · simpa [held] using Armor.decodeHex_faults hex
    · -- without the key's secret the call stops before the hex is read
      simp only [except_ok_bind, List.elem_eq_mem, held, decide_false, Bool.not_false,
        if_true, Except.ok.injEq, Prod.mk.injEq]
      refine ⟨fun _ failed => ?_, ⟨fun ⟨_, failed, fault⟩ => ?_, fun ⟨_, _, ⟨same, _⟩, other, _⟩ => ?_⟩⟩
      · cases failed
        exact .inr ⟨_, rfl⟩
      · cases failed
        cases fault
      · exact absurd (same ▸ other) held

/-- A message whose hex `616` has odd length and valid pairs: the backend holds the key, reads the
pair `61`, and then cuts the window of bytes 2 to 4 out of a hex of 3 bytes. -/
theorem decrypt_odd_hex_faults :
    (((counting (MockKeys.single "K1")).decrypt
      "-----BEGIN PGP MESSAGE-----\n\nK1:616\n-----END PGP MESSAGE-----\n").run 0).1 =
      .error (.sliceOutOfBounds 4 3) := by
  have splitting : Armor.split "-----BEGIN PGP MESSAGE-----\n\nK1:616\n-----END PGP MESSAGE-----\n" =
      .ok ("K1", "616") := rfl
  have chars : "616".toList = ['6', '1', '6'] := rfl
  have first := Armor.decodePairs_ascii_good_pair "616" (c := '6') (d := '1') rfl rfl ['6'] [] 3
    (v := 0x61) rfl
  have last := Armor.decodePairs_lone_ascii "616" (c := '6') rfl
    (['6', '1'].flatMap String.utf8EncodeChar) 2
  have read : Armor.decodePairs "616" (Text.utf8Bytes "616") 0 ((Text.utf8Bytes "616").length + 1) =
      .error (.sliceOutOfBounds 4 3) := by
    rw [Text.utf8Bytes_eq, chars]
    refine first.trans ?_
    rw [List.nil_append, last]
    rfl
  simp [Armor.decrypt, splitting, MockKeys.single, Armor.decodeHex, read]

end Mock

end SealedPillar
