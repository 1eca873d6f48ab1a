import SealedPillar.Cipher.Armor

/-!
What an action does to one string value.

| action   | plaintext            | armored message         |
|----------|----------------------|-------------------------|
| encrypt  | encrypted            | unchanged               |
| decrypt  | unchanged            | decrypted               |
| rotate   | encrypted            | decrypted, re-encrypted |
| identify | `notEncrypted` error | the key's identity      |

A key backend is any monad's three calls that may fail; `Action.applyScalar` makes no call when
the table says "unchanged", and otherwise the calls in the order the table reads.
-/

namespace SealedPillar

inductive Action where
  | encrypt
  | decrypt
  | rotate
  | identify
  deriving DecidableEq, Inhabited

namespace Action

def ofName? : String → Option Action
  | "encrypt" => some encrypt
  | "decrypt" => some decrypt
  | "rotate" => some rotate
  | "identify" => some identify
  | _ => none

def display : Action → String
  | encrypt => "encrypt"
  | decrypt => "decrypt"
  | rotate => "rotate"
  | identify => "keys"

def transforms : Action → Bool
  | identify => false
  | _ => true

theorem beq_identify_of_transforms {a : Action} (rewrites : a.transforms = true) :
    (a == identify) = false := by
  cases a with
  | identify => cases rewrites
  | encrypt | decrypt | rotate => rfl

end Action

/-- A key backend in a monad: encrypt for its key, decrypt with its secret keys, and tell which
key a message is for. -/
structure KeyBackend (m : Type → Type) where
  name : String
  encrypt : String → m (Except CipherError String)
  decrypt : String → m (Except CipherError String)
  keyIdentity : String → m (Except CipherError String)

namespace Action

variable {m : Type → Type} [Monad m]

def encryptValue (kb : KeyBackend m) (s : String) : m (Except CipherError String) :=
  if Armor.isEncrypted s then pure (.ok s) else kb.encrypt s

def decryptValue (kb : KeyBackend m) (s : String) : m (Except CipherError String) :=
  if Armor.isEncrypted s then kb.decrypt s else pure (.ok s)

def applyScalar (kb : KeyBackend m) : Action → String → m (Except CipherError String)
  | encrypt, s => encryptValue kb s
  | decrypt, s => decryptValue kb s
  | rotate, s => do
    match ← decryptValue kb s with
    | .ok plain => kb.encrypt plain
    | .error e => pure (.error e)
  | identify, s => if Armor.isEncrypted s then kb.keyIdentity s else pure (.error .notEncrypted)

end Action

end SealedPillar
