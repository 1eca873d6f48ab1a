import SealedPillar.Proofs.WalkCalls

/-!
The test backend seen call by call.

Every call of the counted test backend adds one to its counter, whatever it answers
(`Mock.encrypt_counting`, `Mock.decrypt_counting`, `Mock.keyIdentity_counting`). For a key with
no colon that does not start with a blank, the message the backend writes is read back by every
test backend: one holding the key's secret decrypts it to the plaintext, one without it is told
so, and each names the key (`Mock.codec_round_trip`).
-/

namespace SealedPillar

namespace Mock

section Calls

variable (keys : MockKeys) (s : String) (n : Nat)

@[simp] theorem encrypt_counting :
    ((counting keys).encrypt s).run n = (.ok (Armor.encode keys.key s), n + 1) := rfl

@[simp] theorem decrypt_counting :
    ((counting keys).decrypt s).run n = (Armor.decrypt keys.secrets s, n + 1) := rfl

@[simp] theorem keyIdentity_counting :
    ((counting keys).keyIdentity s).run n = (Armor.keyOf s, n + 1) := rfl

end Calls

/-- The test codec through the counted backend. For a key with no colon that does not start with
a blank, encrypting writes a message, which counts as encrypted; every test backend decrypts it
to the plaintext when it holds the key's secret and answers that it holds none otherwise, and
names the key as the message's. Every call, successful or not, counts one. -/
theorem codec_round_trip (key plaintext : String) (noColon : ':' ∉ key.toList)
    (lead : ∀ c ∈ key.toList.head?, Text.isWhitespace c = false) (n : Nat) :
    ((counting (MockKeys.single key)).encrypt plaintext).run n =
        (.ok (Armor.encode key plaintext), n + 1) ∧
      Armor.isEncrypted (Armor.encode key plaintext) = true ∧
      (∀ keys : MockKeys,
        ((counting keys).decrypt (Armor.encode key plaintext)).run n =
          (if key ∈ keys.secrets then .ok plaintext
            else .error (.decryptionFailed ("no secret key for " ++ key)), n + 1) ∧
        ((counting keys).keyIdentity (Armor.encode key plaintext)).run n = (.ok key, n + 1)) ∧
      ∀ (keys : MockKeys) (s : String) (start : Nat),
        (((counting keys).encrypt s).run start).2 = start + 1 ∧
        (((counting keys).decrypt s).run start).2 = start + 1 ∧
        (((counting keys).keyIdentity s).run start).2 = start + 1 := by
  refine ⟨encrypt_counting _ _ _, Armor.isEncrypted_encode key plaintext,
    fun keys => ⟨?_, ?_⟩, fun keys s start => ⟨rfl, rfl, rfl⟩⟩
  · -- what the backend answers turns on whether it holds the key's secret
    rw [decrypt_counting]
    by_cases held : key ∈ keys.secrets
    · rw [if_pos held, Armor.decrypt_encode held noColon lead]
    · rw [if_neg held, Armor.decrypt_encode_of_not_mem held noColon lead]
  · rw [keyIdentity_counting, Armor.keyOf_encode key plaintext noColon lead]

theorem codec_round_trip_secret_value :
    ':' ∉ "K1".toList ∧ (∀ c ∈ "K1".toList.head?, Text.isWhitespace c = false) ∧
      ((counting (MockKeys.single "K1")).encrypt "secret-value").run 0 =
          (.ok (Armor.encode "K1" "secret-value"), 1) ∧
        Armor.isEncrypted (Armor.encode "K1" "secret-value") = true ∧
        (∀ keys : MockKeys,
          ((counting keys).decrypt (Armor.encode "K1" "secret-value")).run 0 =
            (if "K1" ∈ keys.secrets then .ok "secret-value"
              else .error (.decryptionFailed ("no secret key for " ++ "K1")), 1) ∧
          ((counting keys).keyIdentity (Armor.encode "K1" "secret-value")).run 0 = (.ok "K1", 1)) ∧
        ∀ (keys : MockKeys) (s : String) (start : Nat),
          (((counting keys).encrypt s).run start).2 = start + 1 ∧
          (((counting keys).decrypt s).run start).2 = start + 1 ∧
          (((counting keys).keyIdentity s).run start).2 = start + 1 :=
  ⟨by decide, fun c first => by simp at first; subst first; rfl,
    codec_round_trip "K1" "secret-value" (by decide)
      (fun c first => by simp at first; subst first; rfl) 0⟩

end Mock

end SealedPillar
