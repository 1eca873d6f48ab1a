import SealedPillar.Action
import SealedPillar.Config
import SealedPillar.Text.Utf8

/-!
The GnuPG key backend: every call runs the `gpg` program.

Each invocation starts with the keyring arguments the options ask for (`--homedir`,
`--no-default-keyring --keyring`, `--secret-keyring`). Encrypting needs a recipient before
anything runs. A failed run is reported with gpg's standard error, trimmed; output that is not
UTF-8 is an error too. To tell which keys a message is for, the backend lists its packets, reads
the key ids of the `pubkey enc packet` lines (in order, each once), and names each key by the
first user id gpg lists for it, or by its id when gpg lists none.
-/

namespace SealedPillar

structure ProgramOutput where
  status : Nat
  stdout : List UInt8
  stderr : List UInt8
  deriving Inhabited

abbrev ProgramRunner (m : Type → Type) := List String → String → m (Option ProgramOutput)

namespace Gpg

def keyringArgs (o : GpgOptions) : List String :=
  (match o.homedir with
    | some h => ["--homedir", h]
    | none => []) ++
  (match o.keyring with
    | some r => ["--no-default-keyring", "--keyring", r]
    | none => []) ++
  (match o.secretKeyring with
    | some r => ["--secret-keyring", r]
    | none => [])

/-- The key id a packet line names: the first word after its first `keyid `, without trailing
commas; empty when the line names none. -/
def keyIdOf (line : String) : String :=
  match Text.afterFirst "keyid ".toList line.toList with
  | some after =>
    let word := (after.dropWhile Text.isWhitespace).takeWhile (!Text.isWhitespace ·)
    String.ofList (word.reverse.dropWhile (· == ',')).reverse
  | none => ""

def addKeyId (ids : List String) (id : String) : List String :=
  if id.isEmpty || ids.contains id then ids else ids ++ [id]

def parseKeyIds (listing : String) : List String :=
  (((Text.lines listing).filter (Text.contains · "pubkey enc packet")).map keyIdOf).foldl
    addKeyId []

def parseUserId (colons : String) : Option String :=
  match (Text.lines colons).find? (·.startsWith "uid:") with
  | none => none
  | some line =>
    match (line.splitOn ":")[9]? with
    | some uid => if uid.isEmpty then none else some (":".intercalate (uid.splitOn "\\x3a"))
    | none => none

def debugList (xs : List String) : String := "[" ++ ", ".intercalate (xs.map Trace.quoted) ++ "]"

def area : String := "secure_pillar::core::cipher::gpg"

variable {m : Type → Type} [Monad m]

/-- The first user id gpg lists for a key; none when gpg does not run, fails or lists none. -/
def userId (o : GpgOptions) (run : ProgramRunner m) (id : String) : m (Option String) := do
  match ← run (keyringArgs o ++ ["--batch", "--with-colons", "--list-keys", id]) "" with
  | some out => pure (if out.status == 0 then parseUserId (Text.decodeLossy out.stdout) else none)
  | none => pure none

def backend (o : GpgOptions) (run : ProgramRunner m) (tr : Tracer m) : KeyBackend m where
  name := "gpg"
  encrypt plaintext := do
    match o.recipient with
    | none => pure (.error .noRecipient)
    | some r =>
      tr.emit area .trace "encrypting with GPG"
        [("recipient", Trace.quoted r), ("plaintext_len", toString plaintext.utf8ByteSize)]
      let args := keyringArgs o ++
        ["--encrypt", "--armor", "--trust-model", "always", "--batch", "--yes", "--recipient", r]
      match ← run args plaintext with
      | none => pure (.error .unavailable)
      | some out =>
        if out.status != 0 then
          pure (.error (.encryptionFailed
            ("gpg encrypt failed: " ++ Text.trim (Text.decodeLossy out.stderr))))
        else
          match Text.decodeUtf8 out.stdout with
          | .error f => pure (.error (.encryptionFailed ("UTF-8 error: " ++ f.message)))
          | .ok c =>
            tr.emit area .trace "encrypted with GPG" [("ciphertext_len", toString c.utf8ByteSize)]
            pure (.ok c)
  decrypt ciphertext := do
    tr.emit area .trace "decrypting with GPG" [("ciphertext_len", toString ciphertext.utf8ByteSize)]
    match ← run (keyringArgs o ++ ["--decrypt", "--batch", "--yes", "--quiet"]) ciphertext with
    | none => pure (.error .unavailable)
    | some out =>
      if out.status != 0 then
        pure (.error (.decryptionFailed ("gpg decrypt failed: " ++
          Text.trim (Text.decodeLossy out.stderr) ++
          ". Ensure you have the private key in your keyring.")))
      else
        match Text.decodeUtf8 out.stdout with
        | .error f => pure (.error (.decryptionFailed ("UTF-8 error: " ++ f.message)))
        | .ok p =>
          tr.emit area .trace "decrypted with GPG" [("plaintext_len", toString p.utf8ByteSize)]
          pure (.ok p)
  keyIdentity ciphertext := do
    match ← run (keyringArgs o ++ ["--batch", "--list-only", "--list-packets"]) ciphertext with
    | none => pure (.error .unavailable)
    | some out =>
      let ids := parseKeyIds (Text.decodeLossy out.stdout ++ Text.decodeLossy out.stderr)
      if ids.isEmpty then
        pure (.error (.keyLookupFailed "no public key encrypted session packet found"))
      else
        tr.emit area .debug "message recipients" [("keys", debugList ids)]
        let names ← ids.mapM fun id => do pure ((← userId o run id).getD id)
        pure (.ok (", ".intercalate names))

end Gpg

end SealedPillar
