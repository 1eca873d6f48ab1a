import SealedPillar.Cipher.Gpg

/-!
A scripted stand-in for the `gpg` program, answering the invocations the GnuPG backend makes
from a fixed list of keys, with the messages and exit codes GnuPG gives.

Its "ciphertext" has the shape of the test codec: the armor lines around `ids:hex`, where `ids`
is a comma-separated list of key ids and `hex` the lowercase hexadecimal of the plaintext's
bytes. Encrypting finds the recipient by id or by one of its names; decrypting needs one of the
ids to be a key with its secret; listing packets names every id; listing keys prints the
colon-separated record of one key, its user id with `:` escaped as `\x3a`.
-/

namespace SealedPillar

structure ScriptKey where
  id : String
  uid : Option String
  names : List String
  secret : Bool
  deriving Inhabited

/-- The scripted program: its keys, extra text for packet listings, and whether every call
fails. -/
structure GpgScript where
  keys : List ScriptKey
  listingExtra : String
  fail : Bool
  deriving Inhabited

namespace GpgScript

def header : String := "-----BEGIN PGP MESSAGE-----"

def footer : String := "-----END PGP MESSAGE-----"

def parseMessage (input : String) : Option (List String × String) :=
  let t := Text.trim input
  if t.startsWith header && (t.drop header.length).toString.endsWith footer then
    let inner := (t.drop header.length).toString
    let body := Text.trim (inner.take (inner.length - footer.length)).toString
    match body.splitOn ":" with
    | ids :: rest@(_ :: _) => some (ids.splitOn ",", ":".intercalate rest)
    | _ => none
  else none

def hexDigit? (c : Char) : Option Nat :=
  if '0' ≤ c && c ≤ '9' then some (c.toNat - '0'.toNat)
  else if 'a' ≤ c && c ≤ 'f' then some (c.toNat - 'a'.toNat + 10)
  else if 'A' ≤ c && c ≤ 'F' then some (c.toNat - 'A'.toNat + 10)
  else none

def decodeHex : List Char → Option (List UInt8)
  | [] => some []
  | a :: b :: rest => do
    let hi ← hexDigit? a
    let lo ← hexDigit? b
    let tail ← decodeHex rest
    pure (UInt8.ofNat (hi * 16 + lo) :: tail)
  | [_] => none

def bytes (s : String) : List UInt8 := Text.utf8Bytes s

def finish (status : Nat) (out err : String) : ProgramOutput := ⟨status, bytes out, bytes err⟩

def noData : String := "gpg: no valid OpenPGP data found.\n"

def after (args : List String) (flag : String) : Option String :=
  match args.dropWhile (· != flag) with
  | _ :: v :: _ => some v
  | _ => none

/-- Answers one invocation, given its arguments and standard input. -/
def run (g : GpgScript) (args : List String) (input : List UInt8) : ProgramOutput :=
  let x := Text.decodeLossy input
  if g.fail then finish 2 "" "gpg: simulated failure\n"
  else if args.contains "--encrypt" then
    let r := (after args "--recipient").getD ""
    match g.keys.find? (fun k => k.id == r || k.names.contains r) with
    | some k =>
      let armored :=
        header ++ "\n\n" ++ k.id ++ ":" ++ Text.hexOfBytes input ++ "\n" ++ footer ++ "\n"
      ⟨0, bytes armored, []⟩
    | none =>
      finish 2 "" ("gpg: " ++ r ++ ": skipped: No public key\n" ++
        "gpg: [stdin]: encryption failed: No public key\n")
  else if args.contains "--decrypt" then
    let failed := finish 2 "" (noData ++ "gpg: decrypt_message failed: Unknown system error\n")
    match parseMessage x with
    | none => failed
    | some (ids, hex) =>
      if !ids.any (fun i => g.keys.any fun k => k.id == i && k.secret) then
        finish 2 "" ("gpg: encrypted with RSA key, ID " ++ ids.headD "" ++
          "\ngpg: decryption failed: No secret key\n")
      else
        match decodeHex hex.toList with
        | some out => ⟨0, out, []⟩
        | none => failed
  else if args.contains "--list-packets" then
    match parseMessage x with
    | none => finish 2 "" noData
    | some (ids, _) =>
      let out := String.join (ids.map fun i =>
        ":pubkey enc packet: version 3, algo 1, keyid " ++ i ++ "\n\tdata: [2047 bits]\n")
      let err := String.join (ids.map fun i =>
        "gpg: encrypted with rsa2048 key, ID " ++ i ++ ", created 2018-01-01\n")
      finish 0 (out ++ g.listingExtra ++ ":encrypted data packet:\n\tlength: unknown\n") err
  else if args.contains "--list-keys" then
    let i := args.getLastD ""
    match g.keys.find? (·.id == i) with
    | some k =>
      let uid := match k.uid with
        | some u => "uid:u::::1518000000::HASH::" ++ ("\\x3a".intercalate (u.splitOn ":")) ++
            "::::::::::0:\n"
        | none => ""
      finish 0 ("tru::1:1518000000:0:3:1:5\npub:u:2048:1:" ++ i ++
        ":1518000000:::u:::scESC::::::23::0:\n" ++ uid) ""
    | none => finish 2 "" "gpg: error reading key: No public key\n"
  else finish 2 "" "gpg: unsupported invocation\n"

end GpgScript

end SealedPillar
