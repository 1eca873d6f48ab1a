import SealedPillar.Text.Utf8
import SealedPillar.Text.Escape

/-!
Armored messages, and the test codec that stands in for encryption.

A value counts as encrypted when it holds the PGP message header anywhere. The test codec
writes `header, blank line, key ":" hex of the UTF-8 bytes, footer`, each on its own line. Reading
a message back trims it, requires the header in front and the footer at the end, trims the body
and splits it at its first `:` into the key and the hex. Hex is read two characters at a time,
each pair as an optionally signed base-16 byte, stopping at the first bad pair; a final single
character reaches past the end of the hex, a fault of its own (`CipherError.sliceOutOfBounds`).

`CipherError` lists the ways a key backend call fails.
-/

namespace SealedPillar

inductive CipherError where
  | encryptionFailed (reason : String)
  | decryptionFailed (reason : String)
  | keyLookupFailed (reason : String)
  | notEncrypted
  | noRecipient
  | unavailable
  /-- A two-character window of hex ran past the end of a hex text of `length` bytes. -/
  | sliceOutOfBounds (endIndex length : Nat)
  /-- A two-character window of hex ended inside a multi-byte character. -/
  | sliceSplitsChar (index : Nat) (ch : Char) (start stop : Nat)
  deriving Inhabited

namespace CipherError

def message : CipherError → String
  | encryptionFailed r => "encryption failed: " ++ r
  | decryptionFailed r => "error decrypting value: " ++ r
  | keyLookupFailed r => "key lookup failed: " ++ r
  | notEncrypted => "value is not encrypted"
  | noRecipient => "no PGP key given for encryption"
  | unavailable => "gpg CLI not found. Install GnuPG from https://gnupg.org/download/"
  | sliceOutOfBounds e n => s!"end byte index {e} is out of bounds for string of length {n}"
  | sliceSplitsChar i c a b =>
    s!"end byte index {i} is not a char boundary; it is inside {Text.quoteChar c} " ++
      s!"(bytes {a}..{b} of string)"

end CipherError

namespace Armor

def header : String := "-----BEGIN PGP MESSAGE-----"

def footer : String := "-----END PGP MESSAGE-----"

def isEncrypted (s : String) : Bool := Text.contains s header

def encode (key plaintext : String) : String :=
  header ++ "\n\n" ++ key ++ ":" ++ Text.hexOfBytes (Text.utf8Bytes plaintext) ++ "\n" ++ footer ++
    "\n"

def split (message : String) : Except CipherError (String × String) :=
  let t := Text.trimList message.toList
  let inner := t.drop header.length
  if header.toList.isPrefixOf t && footer.toList.isSuffixOf inner then
    let body := Text.trimList (inner.take (inner.length - footer.length))
    match body.span (· != ':') with
    | (key, _ :: hex) => .ok (String.ofList key, String.ofList hex)
    | (_, []) => .error (.decryptionFailed "malformed mock message")
  else .error (.decryptionFailed "not a mock message")

def isCharBoundary (bytes : List UInt8) (i : Nat) : Bool :=
  match bytes[i]? with
  | none => i == bytes.length
  | some b => b.toNat < 0x80 || b.toNat ≥ 0xC0

/-- The value of a two-character window read as an optionally signed base-16 byte. -/
def pairValue? (cs : List Char) : Option Nat :=
  let body :=
    match cs with
    | '+' :: r => r
    | r => r
  if body.isEmpty then none
  else
    body.foldlM (fun acc c =>
      let d :=
        if '0' ≤ c && c ≤ '9' then c.toNat - '0'.toNat
        else if 'a' ≤ c && c ≤ 'f' then c.toNat - 'a'.toNat + 10
        else if 'A' ≤ c && c ≤ 'F' then c.toNat - 'A'.toNat + 10
        else 16
      if d < 16 then some (acc * 16 + d) else none) 0

def charAround (s : String) (i : Nat) : Char × Nat × Nat :=
  let rec go : List Char → Nat → Char × Nat × Nat
    | [], pos => ('\x00', pos, pos)
    | c :: cs, pos =>
      let w := c.utf8Size
      if i < pos + w then (c, pos, pos + w) else go cs (pos + w)
  go s.toList 0

/-- Reads hex two characters at a time, from byte offset `pos`. -/
def decodePairs (hex : String) (bytes : List UInt8) (pos : Nat) :
    Nat → Except CipherError (List UInt8)
  | 0 => .ok []
  | fuel + 1 =>
    if pos ≥ bytes.length then .ok []
    else if pos + 2 > bytes.length then .error (.sliceOutOfBounds (pos + 2) bytes.length)
    else if !isCharBoundary bytes (pos + 2) then
      let (c, a, b) := charAround hex (pos + 2)
      .error (.sliceSplitsChar (pos + 2) c a b)
    else
      match Text.decodeUtf8 ((bytes.drop pos).take 2) with
      | .error _ => .error (.decryptionFailed "invalid hex: invalid digit found in string")
      | .ok pair =>
        match pairValue? pair.toList with
        | none => .error (.decryptionFailed "invalid hex: invalid digit found in string")
        | some v => (decodePairs hex bytes (pos + 2) fuel).map (UInt8.ofNat v :: ·)

def decodeHex (hex : String) : Except CipherError String := do
  let bytes := Text.utf8Bytes hex
  let raw ← decodePairs hex bytes 0 (bytes.length + 1)
  match Text.decodeUtf8 raw with
  | .ok s => pure s
  | .error f => throw (.decryptionFailed ("invalid utf8: " ++ f.message))

def decrypt (secrets : List String) (message : String) : Except CipherError String := do
  let (key, hex) ← split message
  if !secrets.contains key then throw (.decryptionFailed ("no secret key for " ++ key))
  decodeHex hex

def keyOf (message : String) : Except CipherError String :=
  match split message with
  | .ok (key, _) => .ok key
  | .error e => .error (.keyLookupFailed e.message)

end Armor

end SealedPillar
