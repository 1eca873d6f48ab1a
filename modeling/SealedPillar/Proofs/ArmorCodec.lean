import SealedPillar.Cipher.Armor
import SealedPillar.Proofs.RunLaws
import SealedPillar.Proofs.Utf8RoundTrip
import Mathlib.Data.List.TakeDrop

/-!
The test codec reads back what it writes.

A message for key `K` is the header, a blank line, `K:` and the hex of the plaintext's bytes,
and the footer. Reading it trims the message, finds header and footer, trims the body and splits
it at its first `:`; that gives back `K` and the hex when `K` holds no `:` and does not start
with a blank (`split_encode`), and `K` up to its first `:` when it holds one
(`keyOf_encode_front`). The hex is read two digits at a time back into the bytes, which
decode to the plaintext, so a holder of `K`'s secret decrypts the message to the plaintext
(`decrypt_encode`).
-/

namespace SealedPillar

namespace Text

theorem isWhitespace_visible {c : Char} (above : 32 < c.toNat) (ascii : c.toNat < 128) :
    isWhitespace c = false := by
  simp only [isWhitespace, Bool.or_eq_false_iff, Bool.and_eq_false_iff, decide_eq_false_iff_not,
    Char.le_def, UInt32.le_iff_toNat_le, Char.toNat_val, beq_eq_false_iff_ne, ne_eq,
    ← Char.toNat_inj]
  simp
  omega

theorem trimList_pad {pre body post : List Char} (blankBefore : ∀ c ∈ pre, isWhitespace c = true)
    (blankAfter : ∀ c ∈ post, isWhitespace c = true)
    (first : ∀ c ∈ body.head?, isWhitespace c = false)
    (last : ∀ c ∈ body.getLast?, isWhitespace c = false) :
    trimList (pre ++ body ++ post) = body := by
  unfold trimList
  rw [List.append_assoc, List.dropWhile_append_of_pos blankBefore]
  cases body with
  | nil =>
    have gone : post.dropWhile isWhitespace = [] := by
      rw [← List.append_nil post, List.dropWhile_append_of_pos blankAfter]; rfl
    simp [gone]
  | cons b rest =>
    have kept : (b :: rest ++ post).dropWhile isWhitespace = b :: rest ++ post :=
      List.dropWhile_cons_of_neg (by simpa using first b rfl)
    obtain ⟨init, z, shape⟩ := List.eq_nil_or_concat (b :: rest) |>.resolve_left (by simp)
    have lastKept : z :: init.reverse = ((b :: rest).reverse).dropWhile isWhitespace := by
      have unblank : isWhitespace z = false := last z (by simp [shape])
      rw [shape, List.concat_eq_append, List.reverse_concat,
        List.dropWhile_cons_of_neg (by simp [unblank])]
    rw [kept, List.reverse_append, List.dropWhile_append_of_pos (by simpa using blankAfter),
      ← lastKept, shape]
    simp

theorem utf8Bytes_ascii {cs : List Char} (ascii : ∀ c ∈ cs, c.toNat < 128) :
    utf8Bytes (String.ofList cs) = cs.map Char.toUInt8 := by
  rw [utf8Bytes_eq, String.toList_ofList]
  induction cs with
  | nil => rfl
  | cons c cs ih =>
    have single : c.utf8Size = 1 := by
      have code := ascii c (by simp)
      rw [Char.utf8Size_eq_one_iff, UInt32.le_iff_toNat_le]
      exact Nat.le_of_lt_succ code
    rw [List.flatMap_cons, String.utf8EncodeChar_eq_singleton single, Char.toUInt8_val,
      ih fun d mem => ascii d (by simp [mem])]
    rfl

end Text

namespace Armor

/-! ### Hex digits -/

def hexDigit (n : Nat) : Char := if n < 10 then Char.ofNat (48 + n) else Char.ofNat (87 + n)

def hexValue (c : Char) : Nat :=
  if '0' ≤ c && c ≤ '9' then c.toNat - '0'.toNat
  else if 'a' ≤ c && c ≤ 'f' then c.toNat - 'a'.toNat + 10
  else if 'A' ≤ c && c ≤ 'F' then c.toNat - 'A'.toNat + 10
  else 16

def hexChars (bs : List UInt8) : List Char :=
  bs.flatMap fun b => [hexDigit (b.toNat / 16), hexDigit (b.toNat % 16)]

theorem toNat_ofNat_ascii {n : Nat} (ascii : n < 128) : (Char.ofNat n).toNat = n := by
  rw [Char.ofNat, dif_pos (Or.inl (by omega))]
  rfl

theorem toNat_toUInt8_ascii {c : Char} (ascii : c.toNat < 128) : c.toUInt8.toNat = c.toNat := by
  rw [← Char.toUInt8_val, UInt32.toNat_toUInt8, Char.toNat_val]
  omega

theorem toNat_hexDigit {n : Nat} (nibble : n < 16) :
    (hexDigit n).toNat = if n < 10 then 48 + n else 87 + n := by
  unfold hexDigit
  split_ifs <;> exact toNat_ofNat_ascii (by omega)

theorem toNat_hexDigit_range {n : Nat} (nibble : n < 16) :
    48 ≤ (hexDigit n).toNat ∧ (hexDigit n).toNat ≤ 57 ∨
      97 ≤ (hexDigit n).toNat ∧ (hexDigit n).toNat ≤ 102 := by
  rw [toNat_hexDigit nibble]
  split_ifs <;> omega

theorem hexValue_hexDigit {n : Nat} (nibble : n < 16) : hexValue (hexDigit n) = n := by
  have code := toNat_hexDigit nibble
  simp only [hexValue, Bool.and_eq_true, decide_eq_true_eq, Char.le_def, UInt32.le_iff_toNat_le,
    Char.toNat_val, code]
  have zero : '0'.toNat = 48 := rfl
  have nine : '9'.toNat = 57 := rfl
  have lowA : 'a'.toNat = 97 := rfl
  have lowF : 'f'.toNat = 102 := rfl
  have upA : 'A'.toNat = 65 := rfl
  have upF : 'F'.toNat = 70 := rfl
  simp only [zero, nine, lowA, lowF, upA, upF]
  split_ifs <;> omega

/-! ### Hex texts -/

theorem hexOfBytes_eq (bs : List UInt8) : Text.hexOfBytes bs = String.ofList (hexChars bs) := rfl

theorem hexChars_cons (b : UInt8) (bs : List UInt8) :
    hexChars (b :: bs) = hexDigit (b.toNat / 16) :: hexDigit (b.toNat % 16) :: hexChars bs := rfl

theorem length_hexChars (bs : List UInt8) : (hexChars bs).length = 2 * bs.length := by
  induction bs with
  | nil => rfl
  | cons b bs ih => rw [hexChars_cons]; simp [ih]; omega

theorem toNat_of_mem_hexChars {bs : List UInt8} {c : Char} (mem : c ∈ hexChars bs) :
    48 ≤ c.toNat ∧ c.toNat ≤ 57 ∨ 97 ≤ c.toNat ∧ c.toNat ≤ 102 := by
  obtain ⟨b, -, digit⟩ := List.mem_flatMap.mp mem
  have high : b.toNat / 16 < 16 := by have := b.toNat_lt; omega
  rcases List.mem_cons.mp digit with rfl | pair
  · exact toNat_hexDigit_range high
  obtain rfl := List.mem_singleton.mp pair
  exact toNat_hexDigit_range (Nat.mod_lt _ (by omega))

theorem utf8Bytes_hexOfBytes (bs : List UInt8) :
    Text.utf8Bytes (Text.hexOfBytes bs) = (hexChars bs).map Char.toUInt8 :=
  Text.utf8Bytes_ascii fun c mem => by have := toNat_of_mem_hexChars mem; omega

/-! ### Reading hex back -/

theorem pairValue_pair {c d : Char} (unsigned : c ≠ '+') (first : hexValue c < 16)
    (second : hexValue d < 16) :
    pairValue? [c, d] = some (hexValue c * 16 + hexValue d) := by
  unfold hexValue at first second ⊢
  simp [pairValue?, unsigned, List.foldlM] at first second ⊢
  simp [first, second]

theorem pairValue_hexDigits (b : UInt8) :
    pairValue? [hexDigit (b.toNat / 16), hexDigit (b.toNat % 16)] = some b.toNat := by
  have high : b.toNat / 16 < 16 := by have := b.toNat_lt; omega
  have low : b.toNat % 16 < 16 := Nat.mod_lt _ (by omega)
  -- a digit is no sign, so the pair is read as two digits
  have unsigned : hexDigit (b.toNat / 16) ≠ '+' := by
    intro plus
    have code := congrArg Char.toNat plus
    have := toNat_hexDigit_range high
    simp only [code] at this
    contradiction
  rw [pairValue_pair unsigned (by rw [hexValue_hexDigit high]; exact high)
    (by rw [hexValue_hexDigit low]; exact low), hexValue_hexDigit high, hexValue_hexDigit low]
  congr 1
  omega

theorem isCharBoundary_ascii (pre rest : List UInt8) (ascii : ∀ r ∈ rest, r.toNat < 128) :
    isCharBoundary (pre ++ rest) pre.length = true := by
  unfold isCharBoundary
  rw [List.getElem?_append_right (Nat.le_refl _), Nat.sub_self]
  cases rest with
  | nil => simp
  | cons r rest => simp [ascii r (by simp)]

theorem decodePairs_hexChars (hex : String) (bs : List UInt8) :
    ∀ (pre : List UInt8) (fuel : Nat), bs.length < fuel →
      decodePairs hex (pre ++ (hexChars bs).map Char.toUInt8) pre.length fuel = .ok bs := by
  induction bs with
  | nil =>
    rintro pre (_ | fuel) enough
    · omega
    · simp [decodePairs, hexChars]
  | cons b bs ih =>
    rintro pre (_ | fuel) enough
    · omega
    have nibbles : b.toNat / 16 < 16 ∧ b.toNat % 16 < 16 := by have := b.toNat_lt; omega
    have highRange := toNat_hexDigit_range nibbles.1
    have lowRange := toNat_hexDigit_range nibbles.2
    rw [hexChars_cons, List.map_cons, List.map_cons]
    set high := hexDigit (b.toNat / 16)
    set low := hexDigit (b.toNat % 16)
    set rest := (hexChars bs).map Char.toUInt8
    have ascii : ∀ c ∈ [high, low], c.toNat < 128 := by
      simp only [List.mem_cons, List.not_mem_nil, or_false]
      rintro c (rfl | rfl) <;> omega
    -- the window of two bytes ends before the next digit or at the end of the hex
    have boundary : isCharBoundary (pre ++ high.toUInt8 :: low.toUInt8 :: rest)
        (pre.length + 2) = true := by
      have tail : ∀ r ∈ rest, r.toNat < 128 := by
        intro r mem
        obtain ⟨c, digit, rfl⟩ := List.mem_map.mp mem
        have := toNat_of_mem_hexChars digit
        rw [toNat_toUInt8_ascii (by omega)]
        omega
      simpa using isCharBoundary_ascii (pre ++ [high.toUInt8, low.toUInt8]) rest tail
    have decoded : Text.decodeUtf8 [high.toUInt8, low.toUInt8] =
        .ok (String.ofList [high, low]) := by
      rw [show [high.toUInt8, low.toUInt8] = [high, low].map Char.toUInt8 from rfl,
        ← Text.utf8Bytes_ascii ascii, Text.decodeUtf8_utf8Bytes]
    have pair : pairValue? [high, low] = some b.toNat := pairValue_hexDigits b
    have later : decodePairs hex (pre ++ high.toUInt8 :: low.toUInt8 :: rest) (pre.length + 2)
        fuel = .ok bs := by
      simpa using ih (pre ++ [high.toUInt8, low.toUInt8]) fuel (by simp at enough; omega)
    have unfinished : ¬ pre.length ≥ (pre ++ high.toUInt8 :: low.toUInt8 :: rest).length := by
      simp
    have inside : ¬ pre.length + 2 > (pre ++ high.toUInt8 :: low.toUInt8 :: rest).length := by
      simp
    have window : ((pre ++ high.toUInt8 :: low.toUInt8 :: rest).drop pre.length).take 2 =
        [high.toUInt8, low.toUInt8] := by
      simp
    rw [decodePairs, if_neg unfinished, if_neg inside]
    simp only [boundary, Bool.not_true, Bool.false_eq_true, if_false, window, decoded,
      String.toList_ofList, pair, later, UInt8.ofNat_toNat]
    rfl

theorem decodeHex_hexOfBytes (s : String) :
    decodeHex (Text.hexOfBytes (Text.utf8Bytes s)) = .ok s := by
  have pairs := decodePairs_hexChars (Text.hexOfBytes (Text.utf8Bytes s)) (Text.utf8Bytes s) []
    ((Text.utf8Bytes (Text.hexOfBytes (Text.utf8Bytes s))).length + 1)
    (by rw [utf8Bytes_hexOfBytes, List.length_map, length_hexChars]; omega)
  rw [List.nil_append, List.length_nil, ← utf8Bytes_hexOfBytes] at pairs
  simp [decodeHex, pairs, Text.decodeUtf8_utf8Bytes]
  rfl

/-! ### Messages -/

theorem toList_encode (key plaintext : String) :
    (encode key plaintext).toList = header.toList ++
      ('\n' :: '\n' :: (key.toList ++ ':' :: hexChars (Text.utf8Bytes plaintext)) ++
        '\n' :: footer.toList) ++ ['\n'] := by
  simp [encode, hexOfBytes_eq]

theorem isEncrypted_encode (key plaintext : String) :
    isEncrypted (encode key plaintext) = true := by
  simp only [isEncrypted, Text.contains, decide_eq_true_eq, toList_encode, List.append_assoc]
  exact (List.prefix_append _ _).isInfix

theorem keyLine_edges {key : List Char} (bs : List UInt8)
    (lead : ∀ c ∈ key.head?, Text.isWhitespace c = false) :
    (∀ c ∈ (key ++ ':' :: hexChars bs).head?, Text.isWhitespace c = false) ∧
      ∀ c ∈ (key ++ ':' :: hexChars bs).getLast?, Text.isWhitespace c = false := by
  have visible : ∀ c ∈ ':' :: hexChars bs, Text.isWhitespace c = false := by
    intro c mem
    rcases List.mem_cons.mp mem with rfl | digit
    · decide
    · have := toNat_of_mem_hexChars digit
      exact Text.isWhitespace_visible (by omega) (by omega)
  constructor
  · intro c first
    rw [List.head?_append, List.head?_cons] at first
    cases start : key.head? with
    | none =>
      rw [start, Option.none_or, Option.mem_some_iff] at first
      exact visible c (by rw [← first]; exact List.mem_cons_self)
    | some k =>
      rw [start, Option.some_or] at first
      exact lead c (by rw [start]; exact first)
  · intro c last
    rw [List.getLast?_append] at last
    cases final : (':' :: hexChars bs).getLast? with
    | none => simp at final
    | some z =>
      rw [final, Option.some_or, Option.mem_some_iff] at last
      exact visible c (List.mem_of_getLast? (last ▸ final))

theorem trimList_encode (key plaintext : String) :
    Text.trimList (encode key plaintext).toList = header.toList ++
      ('\n' :: '\n' :: (key.toList ++ ':' :: hexChars (Text.utf8Bytes plaintext)) ++
        '\n' :: footer.toList) := by
  have dash : Text.isWhitespace '-' = false := rfl
  have headerStart : header.toList.head? = some '-' := rfl
  have footerEnd : ('\n' :: footer.toList).getLast? = some '-' := rfl
  rw [toList_encode, ← List.nil_append (header.toList ++ _)]
  refine Text.trimList_pad (by simp) (by simp; rfl) ?_ ?_
  · simp [headerStart, dash]
  · rw [List.getLast?_append, List.getLast?_append, footerEnd]
    simp [dash]

theorem span_keyLine (key hex : List Char) :
    ∃ rest, (key ++ ':' :: hex).span (· != ':') = (key.takeWhile (· != ':'), ':' :: rest) := by
  induction key with
  | nil => exact ⟨hex, by simp [List.span_eq_takeWhile_dropWhile]⟩
  | cons c key ih =>
    obtain ⟨rest, split⟩ := ih
    rw [List.span_eq_takeWhile_dropWhile, Prod.mk.injEq] at split
    by_cases colon : c = ':'
    · subst colon
      exact ⟨key ++ ':' :: hex, by simp [List.span_eq_takeWhile_dropWhile]⟩
    · refine ⟨rest, ?_⟩
      simp [List.span_eq_takeWhile_dropWhile, colon, split.1, split.2]

theorem split_encode_of_span {key plaintext : String} {front rest : List Char}
    (lead : ∀ c ∈ key.toList.head?, Text.isWhitespace c = false)
    (span : (key.toList ++ ':' :: hexChars (Text.utf8Bytes plaintext)).span (· != ':') =
      (front, ':' :: rest)) :
    split (encode key plaintext) = .ok (String.ofList front, String.ofList rest) := by
  set hex := hexChars (Text.utf8Bytes plaintext)
  set line := key.toList ++ ':' :: hex with line_def
  have newline : Text.isWhitespace '\n' = true := rfl
  -- after the header comes the key line framed by line feeds, then the footer
  set framed := '\n' :: '\n' :: line ++ ['\n'] with framed_def
  have outer : Text.trimList (encode key plaintext).toList =
      header.toList ++ (framed ++ footer.toList) := by
    rw [trimList_encode]
    simp [framed_def, line_def, hex]
  have dropped : (header.toList ++ (framed ++ footer.toList)).drop header.length =
      framed ++ footer.toList :=
    List.drop_left' String.length_toList
  have taken : (framed ++ footer.toList).take ((framed ++ footer.toList).length - footer.length) =
      framed :=
    List.take_left' (by simp [String.length_toList])
  have body : Text.trimList framed = line := by
    obtain ⟨lineFirst, lineLast⟩ := keyLine_edges (Text.utf8Bytes plaintext) lead
    rw [framed_def, show '\n' :: '\n' :: line ++ ['\n'] = ['\n', '\n'] ++ line ++ ['\n'] by simp]
    exact Text.trimList_pad (by simp [newline]) (by simp [newline]) lineFirst lineLast
  have prefixed : header.toList.isPrefixOf (header.toList ++ (framed ++ footer.toList)) = true := by
    simp
  have suffixed : footer.toList.isSuffixOf (framed ++ footer.toList) = true := by simp
  simp only [split, outer, dropped, prefixed, suffixed, Bool.and_true, if_true, taken, body, span]

theorem split_encode (key plaintext : String) (noColon : ':' ∉ key.toList)
    (lead : ∀ c ∈ key.toList.head?, Text.isWhitespace c = false) :
    split (encode key plaintext) = .ok (key, Text.hexOfBytes (Text.utf8Bytes plaintext)) := by
  set hex := hexChars (Text.utf8Bytes plaintext)
  have span : (key.toList ++ ':' :: hex).span (· != ':') = (key.toList, ':' :: hex) := by
    rw [List.span_eq_takeWhile_dropWhile,
      List.takeWhile_append_of_pos (by intro c mem; simp; rintro rfl; exact noColon mem),
      List.dropWhile_append_of_pos (by intro c mem; simp; rintro rfl; exact noColon mem)]
    simp
  rw [split_encode_of_span lead span, String.ofList_toList, hexOfBytes_eq]

theorem keyOf_encode_front (key plaintext : String)
    (lead : ∀ c ∈ key.toList.head?, Text.isWhitespace c = false) :
    keyOf (encode key plaintext) = .ok (String.ofList (key.toList.takeWhile (· != ':'))) := by
  obtain ⟨rest, span⟩ := span_keyLine key.toList (hexChars (Text.utf8Bytes plaintext))
  simp [keyOf, split_encode_of_span lead span]

theorem keyOf_encode (key plaintext : String) (noColon : ':' ∉ key.toList)
    (lead : ∀ c ∈ key.toList.head?, Text.isWhitespace c = false) :
    keyOf (encode key plaintext) = .ok key := by
  simp [keyOf, split_encode key plaintext noColon lead]

theorem decrypt_encode {secrets : List String} {key : String} (held : key ∈ secrets)
    (noColon : ':' ∉ key.toList) (lead : ∀ c ∈ key.toList.head?, Text.isWhitespace c = false)
    (plaintext : String) :
    decrypt secrets (encode key plaintext) = .ok plaintext := by
  simp [decrypt, split_encode key plaintext noColon lead, held, decodeHex_hexOfBytes]

theorem decrypt_encode_of_not_mem {secrets : List String} {key : String} (missing : key ∉ secrets)
    (noColon : ':' ∉ key.toList) (lead : ∀ c ∈ key.toList.head?, Text.isWhitespace c = false)
    (plaintext : String) :
    decrypt secrets (encode key plaintext) =
      .error (.decryptionFailed ("no secret key for " ++ key)) := by
  simp [decrypt, split_encode key plaintext noColon lead, missing]
  rfl

end Armor

end SealedPillar
