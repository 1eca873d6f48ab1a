import SealedPillar.Proofs.EncryptDecrypt

/-!
Rotating, against decrypting and then encrypting, with one test backend.

Rotating a string decrypts it when it is a message and then encrypts the result, whatever it
holds; encrypting after decrypting skips a plaintext that holds the message header. So where no
message in scope decrypts to such a plaintext (`Mock.OpensPlain`), rotating a string answers what
the two steps answer, with as many calls (`Mock.leafAnswer_rotate`, `Mock.cost_rotate`). Over every
scope a rotation then gives the same document or the same first error as decrypting the scope and
encrypting it again, and when it succeeds both have made the same number of calls
(`Walk.rotate_refines_decrypt_then_encrypt`). The calls a walk makes are those at the strings its
scope covers (`Document.leavesIn`, `Mock.perform_counting_leavesIn`).

Rotating messages for an old key with a backend that encrypts for a new key and holds the old
key's secret gives messages that name the new key, for keys with no colon that do not start with a
blank (`Mock.rotate_to_new_key`). A key with a colon is named only up to its colon.
-/

namespace SealedPillar

namespace Walk

def decryptThenEncrypt {m : Type → Type} [Monad m] (kb : KeyBackend m) (tr : Tracer m)
    (d : Document) (scope : Scope) : ExceptT Error m Outcome := do
  match ← perform kb tr d .decrypt scope with
  | .document e => perform kb tr e .encrypt scope
  | .keys report => pure (.keys report)

end Walk

theorem length_of_mapM_ok {ε α β : Type} {f : α → Except ε β} :
    {l : List α} → {rs : List β} → l.mapM f = .ok rs → rs.length = l.length
  | [], rs, ran => by
    cases ran
    rfl
  | x :: l, rs, ran => by
    obtain ⟨r, rest, -, later, rfl⟩ := mapM_cons_eq_ok ran
    simp [length_of_mapM_ok later]

namespace Mock

variable {keys : MockKeys}

theorem reached_of_mapM_ok {a : Action} :
    {l rs : List String} → l.mapM (leafAnswer keys a) = .ok rs → reached keys a l = l
  | [], _, _ => rfl
  | s :: l, rs, ran => by
    obtain ⟨r, rest, first, later, -⟩ := mapM_cons_eq_ok ran
    -- the head was answered, so the traversal went on to the tail
    cases answered : answer keys a s with
    | error e => simp [leafAnswer, answered, Except.mapError] at first
    | ok r' => simp [reached, answered, Except.isOk, Except.toBool, reached_of_mapM_ok later]

/-- A message decrypts, if at all, to a plaintext that holds no message header. -/
def OpensPlain (keys : MockKeys) (s : String) : Prop :=
  Armor.isEncrypted s = true → ∀ p, Armor.decrypt keys.secrets s = .ok p →
    Armor.isEncrypted p = false

theorem decrypt_of_leafAnswer {s p : String} (encrypted : Armor.isEncrypted s = true)
    (decrypted : leafAnswer keys .decrypt s = .ok p) : Armor.decrypt keys.secrets s = .ok p := by
  cases opened : Armor.decrypt keys.secrets s with
  | error e => simp [leafAnswer, answer, encrypted, opened, Except.mapError] at decrypted
  | ok q => simpa [leafAnswer, answer, encrypted, opened, Except.mapError] using decrypted

theorem leafAnswer_rotate {s : String} (opens : OpensPlain keys s) :
    leafAnswer keys .rotate s = sealed keys <$> leafAnswer keys .decrypt s := by
  by_cases encrypted : Armor.isEncrypted s = true
  · cases decrypted : Armor.decrypt keys.secrets s with
    | error e => simp [leafAnswer, answer, encrypted, decrypted, Except.mapError, Except.map]
    | ok p =>
      have plain := opens encrypted p decrypted
      simp [leafAnswer, answer, encrypted, decrypted, Except.mapError, Except.map, sealed, plain]
  · have plain : Armor.isEncrypted s = false := by simpa using encrypted
    simp [leafAnswer, answer, plain, Except.mapError, Except.map, sealed]

theorem cost_rotate {s p : String} (opens : OpensPlain keys s)
    (decrypted : leafAnswer keys .decrypt s = .ok p) :
    cost keys .rotate s = cost keys .decrypt s + cost keys .encrypt p := by
  by_cases encrypted : Armor.isEncrypted s = true
  · have opened := decrypt_of_leafAnswer encrypted decrypted
    simp [cost, encrypted, opened, opens encrypted p opened, Except.isOk, Except.toBool]
  · have plain : Armor.isEncrypted s = false := by simpa using encrypted
    have same : s = p := by
      simpa [leafAnswer, answer, plain, Except.mapError] using decrypted
    subst same
    simp [cost, plain]

theorem mapM_rotate : {l : List String} → (∀ s ∈ l, OpensPlain keys s) →
    l.mapM (leafAnswer keys .rotate) =
      List.map (sealed keys) <$> l.mapM (leafAnswer keys .decrypt)
  | [], _ => rfl
  | s :: l, opens => by
    rw [List.mapM_cons, List.mapM_cons, leafAnswer_rotate (opens s List.mem_cons_self),
      mapM_rotate fun t member => opens t (List.mem_cons_of_mem s member)]
    cases leafAnswer keys .decrypt s <;> cases l.mapM (leafAnswer keys .decrypt) <;> rfl

theorem sum_cost_rotate : {l ps : List String} → (∀ s ∈ l, OpensPlain keys s) →
    l.mapM (leafAnswer keys .decrypt) = .ok ps →
    (l.map (cost keys .rotate)).sum =
      (l.map (cost keys .decrypt)).sum + (ps.map (cost keys .encrypt)).sum
  | [], ps, _, decrypted => by
    cases decrypted
    rfl
  | s :: l, ps, opens, decrypted => by
    obtain ⟨p, qs, first, rest, rfl⟩ := mapM_cons_eq_ok decrypted
    have later := sum_cost_rotate (fun t member => opens t (List.mem_cons_of_mem s member)) rest
    simp only [List.map_cons, List.sum_cons, cost_rotate (opens s List.mem_cons_self) first, later]
    omega

theorem outcome_ok {a : Action} {d : Document} {scope : Scope} {o : Outcome}
    (ran : outcome keys a d scope = .ok o) :
    ∃ rs e, (d.leavesIn scope).mapM (leafAnswer keys a) = .ok rs ∧ o = .document e ∧
      e.leavesIn scope = rs := by
  cases refused : d.refusal scope with
  | some err =>
    rw [outcome_of_refusal refused] at ran
    cases ran
  | none =>
    rw [outcome_of_accepted refused] at ran
    cases answered : (d.leavesIn scope).mapM (leafAnswer keys a) with
    | error err =>
      rw [answered] at ran
      cases ran
    | ok rs =>
      rw [answered] at ran
      cases ran
      exact ⟨rs, _, rfl, rfl, Document.leavesIn_fillIn (length_of_mapM_ok answered)⟩

def reseal (keys : MockKeys) (scope : Scope) : Outcome → Except Error Outcome
  | .document e => outcome keys .encrypt e scope
  | .keys report => .ok (.keys report)

theorem outcome_rotate (d : Document) (scope : Scope)
    (opens : ∀ s ∈ d.leavesIn scope, OpensPlain keys s) :
    outcome keys .rotate d scope = outcome keys .decrypt d scope >>= reseal keys scope := by
  cases refused : d.refusal scope with
  | some e => rw [outcome_of_refusal refused, outcome_of_refusal refused]; rfl
  | none =>
    rw [outcome_of_accepted refused, outcome_of_accepted refused, mapM_rotate opens]
    cases decrypted : (d.leavesIn scope).mapM (leafAnswer keys .decrypt) with
    | error e => rfl
    | ok ps =>
      -- encrypting the decrypted scope writes the sealed plaintexts over the plaintexts
      have counted := length_of_mapM_ok decrypted
      simp only [except_map_ok, except_ok_bind, reseal]
      rw [outcome_of_accepted ((d.refusal_fillIn scope ps).trans refused),
        Document.leavesIn_fillIn counted, mapM_encrypt, except_map_ok, Document.fillIn_fillIn]

section NewKey

variable {old new : String}

theorem key_rotating : ((MockKeys.single new).withSecret old).key = new := rfl

theorem old_mem_rotating : old ∈ ((MockKeys.single new).withSecret old).secrets := by
  simp [MockKeys.withSecret]

theorem leafAnswer_rotate_to_new (oldNoColon : ':' ∉ old.toList)
    (oldLead : ∀ c ∈ old.toList.head?, Text.isWhitespace c = false) {s : String}
    (sealedOld : Armor.isEncrypted s = true → ∃ p, s = Armor.encode old p) :
    ∃ p, leafAnswer ((MockKeys.single new).withSecret old) .rotate s =
      .ok (Armor.encode new p) := by
  by_cases encrypted : Armor.isEncrypted s = true
  · obtain ⟨p, rfl⟩ := sealedOld encrypted
    have opened := Armor.decrypt_encode
      (old_mem_rotating : old ∈ ((MockKeys.single new).withSecret old).secrets) oldNoColon oldLead p
    exact ⟨p, by simp [leafAnswer, answer, encrypted, opened, key_rotating, Except.mapError,
      Except.map]⟩
  · have plain : Armor.isEncrypted s = false := by simpa using encrypted
    exact ⟨s, by simp [leafAnswer, answer, plain, key_rotating, Except.mapError, Except.map]⟩

theorem mapM_rotate_to_new (oldNoColon : ':' ∉ old.toList)
    (oldLead : ∀ c ∈ old.toList.head?, Text.isWhitespace c = false) :
    {l : List String} → (∀ s ∈ l, Armor.isEncrypted s = true → ∃ p, s = Armor.encode old p) →
    ∃ ps : List String, l.mapM (leafAnswer ((MockKeys.single new).withSecret old) .rotate) =
      .ok (ps.map (Armor.encode new))
  | [], _ => ⟨[], rfl⟩
  | s :: l, sealedOld => by
    obtain ⟨p, first⟩ : ∃ p, leafAnswer ((MockKeys.single new).withSecret old) .rotate s =
        .ok (Armor.encode new p) :=
      leafAnswer_rotate_to_new oldNoColon oldLead (sealedOld s List.mem_cons_self)
    obtain ⟨ps, rest⟩ := mapM_rotate_to_new oldNoColon oldLead
      fun t member => sealedOld t (List.mem_cons_of_mem s member)
    exact ⟨p :: ps, by rw [List.mapM_cons, first, rest]; rfl⟩

theorem rotate_to_new_key (oldNoColon : ':' ∉ old.toList)
    (oldLead : ∀ c ∈ old.toList.head?, Text.isWhitespace c = false)
    (newLead : ∀ c ∈ new.toList.head?, Text.isWhitespace c = false) (d : Document)
    (sealedOld : ∀ s ∈ d.leaves, Armor.isEncrypted s = true → ∃ p, s = Armor.encode old p)
    (n : Nat) :
    ∃ e, ((Walk.perform (counting ((MockKeys.single new).withSecret old)) Tracer.silent d
        .rotate .all).run.run n).1 = .ok (.document e) ∧ e.skeleton = d.skeleton ∧
      ∀ s ∈ e.leaves, Armor.isEncrypted s = true ∧
        Armor.keyOf s = .ok (String.ofList (new.toList.takeWhile (· != ':'))) ∧
        (':' ∉ new.toList → Armor.keyOf s = .ok new) := by
  obtain ⟨ps, rotated⟩ : ∃ ps : List String,
      d.leaves.mapM (leafAnswer ((MockKeys.single new).withSecret old) .rotate) =
        .ok (ps.map (Armor.encode new)) :=
    mapM_rotate_to_new oldNoColon oldLead sealedOld
  have counted : (ps.map (Armor.encode new)).length = d.leaves.length :=
    length_of_mapM_ok rotated
  refine ⟨d.fill (ps.map (Armor.encode new)), ?_, d.skeleton_fill _, ?_⟩
  · rw [perform_all_counting _ d rfl n, rotated]
    rfl
  · intro s member
    rw [d.leaves_fill counted] at member
    obtain ⟨p, -, rfl⟩ := List.mem_map.mp member
    exact ⟨Armor.isEncrypted_encode new p, Armor.keyOf_encode_front new p newLead,
      fun newNoColon => Armor.keyOf_encode new p newNoColon newLead⟩

end NewKey

end Mock

namespace Walk

theorem rotate_agrees_with_decryptThenEncrypt (keys : MockKeys) (d : Document) (scope : Scope)
    (n : Nat) (opens : ∀ s ∈ d.leavesIn scope, Mock.OpensPlain keys s) :
    let rotated := (perform (Mock.counting keys) Tracer.silent d .rotate scope).run.run n
    let composed := (decryptThenEncrypt (Mock.counting keys) Tracer.silent d scope).run.run n
    rotated.1 = composed.1 ∧ ∀ o, rotated.1 = .ok o → rotated.2 = composed.2 := by
  intro rotated composed
  have same := Mock.outcome_rotate d scope opens
  have rotating := Mock.perform_counting_leavesIn keys d (a := .rotate) rfl scope n
  have decrypting := Mock.perform_counting_leavesIn keys d (a := .decrypt) rfl scope n
  have first : rotated = (Mock.outcome keys .rotate d scope, n +
      ((Mock.reached keys .rotate (d.leavesIn scope)).map (Mock.cost keys .rotate)).sum) := by
    simp only [rotated, rotating]
    rfl
  rw [first]
  simp only [composed, decryptThenEncrypt, ExceptT.run_bind, StateT.run_bind, decrypting, pure_bind]
  cases decrypted : Mock.outcome keys .decrypt d scope with
  | error e =>
    rw [decrypted] at same
    exact ⟨same, fun o ran => by cases ran.symm.trans same⟩
  | ok o =>
    obtain ⟨ps, d1, answers, rfl, inScope⟩ := Mock.outcome_ok decrypted
    rw [decrypted] at same
    have encrypting := Mock.perform_counting_leavesIn keys d1 (a := .encrypt) rfl scope
      (n + ((Mock.reached keys .decrypt (d.leavesIn scope)).map (Mock.cost keys .decrypt)).sum)
    simp only [encrypting]
    refine ⟨same, fun o rotatedOk => ?_⟩
    -- the rotation reached every string, so the decryption did, and the encryption reached every
    -- plaintext
    obtain ⟨rs, _, rotatedAll, -⟩ := Mock.outcome_ok rotatedOk
    have sealedAll := Mock.mapM_encrypt keys ps
    rw [Mock.reached_of_mapM_ok rotatedAll, Mock.reached_of_mapM_ok answers, inScope,
      Mock.reached_of_mapM_ok sealedAll, Mock.sum_cost_rotate opens answers]
    simp only [Nat.add_assoc]
    rfl

/-- Rotating refines decrypting and then encrypting. With every test backend, where no message in
scope decrypts to a plaintext that holds the message header, rotating a scope gives what decrypting
it and then encrypting it gives, the same document or the same first error, after as many calls
when it succeeds. Rotating a document whose messages are all for an old key with no colon, with a
backend for a new key that holds the old key's secret, succeeds with messages that name the new
key up to its first colon: the new key itself when it holds none. -/
theorem rotate_refines_decrypt_then_encrypt :
    (∀ (keys : MockKeys) (d : Document) (scope : Scope) (n : Nat),
      (∀ s ∈ d.leavesIn scope, Mock.OpensPlain keys s) →
      let rotated := (perform (Mock.counting keys) Tracer.silent d .rotate scope).run.run n
      let composed := (decryptThenEncrypt (Mock.counting keys) Tracer.silent d scope).run.run n
      rotated.1 = composed.1 ∧ ∀ o, rotated.1 = .ok o → rotated.2 = composed.2) ∧
    ∀ (old new : String), ':' ∉ old.toList →
      (∀ c ∈ old.toList.head?, Text.isWhitespace c = false) →
      (∀ c ∈ new.toList.head?, Text.isWhitespace c = false) →
      ∀ d : Document, (∀ s ∈ d.leaves, Armor.isEncrypted s = true → ∃ p, s = Armor.encode old p) →
      ∀ n : Nat, ∃ e, ((perform (Mock.counting ((MockKeys.single new).withSecret old))
          Tracer.silent d .rotate .all).run.run n).1 = .ok (.document e) ∧
        ∀ s ∈ e.leaves,
          Armor.keyOf s = .ok (String.ofList (new.toList.takeWhile (· != ':'))) ∧
          (':' ∉ new.toList → Armor.keyOf s = .ok new) := by
  refine ⟨fun keys d scope n opens => rotate_agrees_with_decryptThenEncrypt keys d scope n opens,
    fun old new oldNoColon oldLead newLead d sealedOld n => ?_⟩
  obtain ⟨e, rotated, -, named⟩ := Mock.rotate_to_new_key oldNoColon oldLead newLead d sealedOld n
  exact ⟨e, rotated, fun s member => (named s member).2⟩

theorem rotate_db_password :
    let keys := (MockKeys.single "K2").withSecret "K1"
    let d : Document := ⟨[("db", .string (Armor.encode "K1" "hunter2"))]⟩
    (∀ s ∈ d.leavesIn .all, Mock.OpensPlain keys s) ∧
      ((perform (Mock.counting keys) Tracer.silent d .rotate .all).run.run 0).1 =
        ((decryptThenEncrypt (Mock.counting keys) Tracer.silent d .all).run.run 0).1 ∧
      ∃ e, ((perform (Mock.counting keys) Tracer.silent d .rotate .all).run.run 0).1 =
          .ok (.document e) ∧ ∀ s ∈ e.leaves, Armor.keyOf s = .ok "K2" := by
  intro keys d
  have leaves : d.leaves = [Armor.encode "K1" "hunter2"] := rfl
  have oldLead : ∀ c ∈ "K1".toList.head?, Text.isWhitespace c = false := fun c first => by
    simp at first
    subst first
    rfl
  have newLead : ∀ c ∈ "K2".toList.head?, Text.isWhitespace c = false := fun c first => by
    simp at first
    subst first
    rfl
  have sealedOld : ∀ s ∈ d.leaves, Armor.isEncrypted s = true → ∃ p, s = Armor.encode "K1" p := by
    intro s member _
    rw [leaves, List.mem_singleton] at member
    exact ⟨"hunter2", member⟩
  have opens : ∀ s ∈ d.leavesIn .all, Mock.OpensPlain keys s := by
    intro s member _ p opened
    rw [Document.leavesIn, leaves, List.mem_singleton] at member
    subst member
    rw [Armor.decrypt_encode Mock.old_mem_rotating (by decide) oldLead] at opened
    cases opened
    decide +kernel
  have laws := rotate_refines_decrypt_then_encrypt
  obtain ⟨e, rotated, named⟩ := laws.2 "K1" "K2" (by decide) oldLead newLead d sealedOld 0
  exact ⟨opens, (laws.1 keys d .all 0 opens).1, e, rotated,
    fun s member => (named s member).2 (by decide)⟩

/-- A new key with a colon is named only up to it: rotating a message for K1 to the key K:2, two
calls, gives a message that names K. -/
theorem rotate_to_colon_key_names_its_front :
    (perform (Mock.counting ((MockKeys.single "K:2").withSecret "K1")) Tracer.silent
        ⟨[("a", .string (Armor.encode "K1" "v"))]⟩ .rotate .all).run.run 0 =
      (.ok (.document ⟨[("a", .string (Armor.encode "K:2" "v"))]⟩), 2) ∧
    Armor.keyOf (Armor.encode "K:2" "v") = .ok "K" := by
  have oldLead : ∀ c ∈ "K1".toList.head?, Text.isWhitespace c = false := fun c first => by
    simp at first
    subst first
    rfl
  have newLead : ∀ c ∈ "K:2".toList.head?, Text.isWhitespace c = false := fun c first => by
    simp at first
    subst first
    rfl
  have opened := Armor.decrypt_encode
    (Mock.old_mem_rotating : "K1" ∈ ((MockKeys.single "K:2").withSecret "K1").secrets) (by decide)
    oldLead "v"
  have encrypted := Armor.isEncrypted_encode "K1" "v"
  constructor
  · rw [Mock.perform_all_counting _ _ rfl 0]
    simp [Document.leaves, Value.entryLeaves, Value.leaves, Mock.reached, Mock.cost,
      Mock.leafAnswer, Mock.answer, encrypted, opened, Mock.key_rotating, Except.mapError,
      Except.map, Except.isOk, Except.toBool, Document.fill, Value.fillEntries, Value.fill]
    rfl
  · rw [Armor.keyOf_encode_front "K:2" "v" newLead]
    exact congrArg Except.ok (by decide)

end Walk

end SealedPillar
