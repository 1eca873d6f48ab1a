import SealedPillar.Action

/-!
The test key backends.

`Mock.backend` encrypts with the test codec (`Armor.encode`) for its key and decrypts messages for
any key it holds a secret for; every call, successful or not, first runs `tick`, which is how a
caller counts calls. `Mock.broken` fails every call with a fixed reason and counts nothing.
-/

namespace SealedPillar

/-- The key a test backend encrypts for, and the keys it can decrypt (its own among them). -/
structure MockKeys where
  key : String
  secrets : List String
  deriving Inhabited

namespace MockKeys

def single (key : String) : MockKeys := ⟨key, [key]⟩

def withSecret (k : MockKeys) (secret : String) : MockKeys :=
  { k with secrets := k.secrets ++ [secret] }

end MockKeys

namespace Mock

variable {m : Type → Type} [Monad m]

def backend (keys : MockKeys) (tick : m Unit) : KeyBackend m where
  name := "mock"
  encrypt s := do tick; pure (.ok (Armor.encode keys.key s))
  decrypt s := do tick; pure (Armor.decrypt keys.secrets s)
  keyIdentity s := do tick; pure (Armor.keyOf s)

def broken : KeyBackend m where
  name := "broken"
  encrypt _ := pure (.error (.encryptionFailed "key revoked"))
  decrypt _ := pure (.error (.decryptionFailed "no secret key"))
  keyIdentity _ := pure (.error (.keyLookupFailed "no key id"))

end Mock

end SealedPillar
