import SealedPillar.Text.Lines

/-!
UTF-8 validation and decoding of byte lists.

`Text.decodeUtf8` accepts exactly the well-formed UTF-8 byte sequences. When it refuses, it
reports how many leading bytes were valid and, unless the input ends in the middle of a
character, how many bytes make up the invalid sequence: one for a byte that cannot start or
continue a character, otherwise the length of the longest prefix of a valid sequence. Lossy
decoding replaces each such invalid sequence, and an unfinished one at the end, by U+FFFD.
-/

namespace SealedPillar

namespace Text

/-- Why bytes are not UTF-8: the count of valid leading bytes, and the length of the invalid
sequence after them (none if the input ends inside a character). -/
structure Utf8Fault where
  validUpTo : Nat
  errorLength : Option Nat

def Utf8Fault.message (f : Utf8Fault) : String :=
  match f.errorLength with
  | some n => s!"invalid utf-8 sequence of {n} bytes from index {f.validUpTo}"
  | none => s!"incomplete utf-8 byte sequence from index {f.validUpTo}"

def isContinuation (b : Nat) : Bool := 0x80 ≤ b && b ≤ 0xBF

def secondByteRange (first : Nat) : Nat × Nat :=
  if first == 0xE0 then (0xA0, 0xBF)
  else if first == 0xED then (0x80, 0x9F)
  else if first == 0xF0 then (0x90, 0xBF)
  else if first == 0xF4 then (0x80, 0x8F)
  else (0x80, 0xBF)

def sequenceWidth (b : Nat) : Nat :=
  if b < 0x80 then 1
  else if 0xC2 ≤ b && b ≤ 0xDF then 2
  else if 0xE0 ≤ b && b ≤ 0xEF then 3
  else if 0xF0 ≤ b && b ≤ 0xF4 then 4
  else 0

def readChar (bs : List Nat) : Except (Option Nat) (Char × Nat) :=
  match bs with
  | [] => .error none
  | b :: rest =>
    let w := sequenceWidth b
    if w == 0 then .error (some 1)
    else if w == 1 then .ok (Char.ofNat b, 1)
    else
      let (lo, hi) := secondByteRange b
      match rest with
      | [] => .error none
      | b2 :: rest2 =>
        if !(lo ≤ b2 && b2 ≤ hi) then .error (some 1)
        else if w == 2 then .ok (Char.ofNat ((b % 32) * 64 + b2 % 64), 2)
        else
          match rest2 with
          | [] => .error none
          | b3 :: rest3 =>
            if !isContinuation b3 then .error (some 2)
            else if w == 3 then .ok (Char.ofNat ((b % 16) * 4096 + (b2 % 64) * 64 + b3 % 64), 3)
            else
              match rest3 with
              | [] => .error none
              | b4 :: _ =>
                if !isContinuation b4 then .error (some 3)
                else
                  .ok (Char.ofNat ((b % 8) * 262144 + (b2 % 64) * 4096 + (b3 % 64) * 64 + b4 % 64),
                    4)

def decodeFrom (acc : List Char) (consumed : Nat) (bs : List Nat) : Except Utf8Fault String :=
  match bs with
  | [] => .ok (String.ofList acc.reverse)
  | b :: more =>
    match readChar (b :: more) with
    | .error len => .error ⟨consumed, len⟩
    | .ok (c, w) => decodeFrom (c :: acc) (consumed + max w 1) ((b :: more).drop (max w 1))
termination_by bs.length
decreasing_by simp only [List.length_drop, List.length_cons]; omega

def decodeUtf8 (bs : List UInt8) : Except Utf8Fault String :=
  decodeFrom [] 0 (bs.map UInt8.toNat)

def decodeLossyFrom (acc : List Char) (bs : List Nat) : String :=
  match bs with
  | [] => String.ofList acc.reverse
  | b :: more =>
    match readChar (b :: more) with
    | .ok (c, w) => decodeLossyFrom (c :: acc) ((b :: more).drop (max w 1))
    | .error none => String.ofList ('\uFFFD' :: acc).reverse
    | .error (some n) => decodeLossyFrom ('\uFFFD' :: acc) ((b :: more).drop (max n 1))
termination_by bs.length
decreasing_by all_goals (simp only [List.length_drop, List.length_cons]; omega)

def decodeLossy (bs : List UInt8) : String := decodeLossyFrom [] (bs.map UInt8.toNat)

def utf8Bytes (s : String) : List UInt8 := s.toUTF8.toList

end Text

end SealedPillar
