import SealedPillar.Proofs.Scopes
import SealedPillar.Proofs.PathWrites
import SealedPillar.Proofs.ArmorCodec
import SealedPillar.Proofs.WalkCalls

/-!
Encrypting twice is encrypting once.

A backend seals when every string its encryption succeeds with is a message. Walking a scope with
such a backend, from any state, succeeds only with a document whose strings in that scope are all
messages. Encrypting leaves a message as it is without asking the backend, so encrypting that
document again over the same scope is `pure`: it gives the document back and calls no backend at
all, whichever backend and monad it runs in (`encrypt_twice_is_encrypt_once`).
-/

namespace SealedPillar

namespace Walk

def Ensures {ε σ α : Type} (P : α → Prop) (x : ExceptT ε (StateM σ) α) : Prop :=
  ∀ st a, (x.run.run st).1 = .ok a → P a

section Ensures

variable {ε σ α β γ : Type}

theorem ensures_pure {P : α → Prop} {a : α} (holds : P a) :
    Ensures P (pure a : ExceptT ε (StateM σ) α) := by
  intro st b ran
  cases ran
  exact holds

theorem ensures_throw (P : α → Prop) (e : ε) : Ensures P (throw e : ExceptT ε (StateM σ) α) := by
  intro st b ran
  cases ran

theorem ensures_bind {P : α → Prop} {Q : β → Prop} {x : ExceptT ε (StateM σ) α}
    {f : α → ExceptT ε (StateM σ) β} (first : Ensures P x) (rest : ∀ a, P a → Ensures Q (f a)) :
    Ensures Q (x >>= f) := by
  intro st b ran
  rw [run_run_bind] at ran
  cases ranFirst : x.run.run st with
  | mk r st' =>
    rw [ranFirst] at ran
    cases r with
    | error e => cases ran
    | ok a => exact rest a (first st a (by rw [ranFirst])) st' b ran

theorem ensures_map {P : α → Prop} {Q : β → Prop} {x : ExceptT ε (StateM σ) α} {f : α → β}
    (first : Ensures P x) (image : ∀ a, P a → Q (f a)) : Ensures Q (f <$> x) := by
  rw [map_eq_pure_bind]
  exact ensures_bind first fun a holds => ensures_pure (image a holds)

theorem ensures_mapM (f : γ → ExceptT ε (StateM σ) α) {P : α → Prop} :
    (l : List γ) → (∀ x ∈ l, Ensures P (f x)) →
      Ensures (fun rs => rs.length = l.length ∧ ∀ r ∈ rs, P r) (l.mapM f)
  | [], _ => ensures_pure ⟨rfl, fun _ none => by cases none⟩
  | x :: l, each => by
    rw [List.mapM_cons]
    refine ensures_bind (each x List.mem_cons_self) fun r first => ?_
    refine ensures_bind (ensures_mapM f l fun y mem => each y (List.mem_cons_of_mem x mem))
      fun rs later => ensures_pure ⟨by simp [later.1], ?_⟩
    intro t mem
    rcases List.mem_cons.mp mem with rfl | rest
    · exact first
    · exact later.2 t rest

end Ensures

end Walk

namespace KeyBackend

def Seals {σ : Type} (kb : KeyBackend (StateM σ)) : Prop :=
  ∀ s st r, ((kb.encrypt s).run st).1 = .ok r → Armor.isEncrypted r = true

end KeyBackend

theorem Mock.counting_seals (keys : MockKeys) : (Mock.counting keys).Seals := by
  intro s st r ran
  obtain rfl : Armor.encode keys.key s = r := Except.ok.inj ran
  exact Armor.isEncrypted_encode keys.key s

namespace Walk

section FirstRun

variable {σ : Type} {kb : KeyBackend (StateM σ)}

theorem ensures_leafCall_encrypt (seals : kb.Seals) (s : String) :
    Ensures (fun r => Armor.isEncrypted r = true) (leafCall kb .encrypt s) := by
  intro st r ran
  by_cases encrypted : Armor.isEncrypted s = true
  · -- a message is given back as it is
    simp [leafCall, call, Action.applyScalar, Action.encryptValue, encrypted] at ran
    obtain rfl : s = r := Except.ok.inj ran
    exact encrypted
  · -- a plaintext is sealed by the backend
    simp [leafCall, call, Action.applyScalar, Action.encryptValue, encrypted] at ran
    cases answer : (kb.encrypt s).run st with
    | mk x st' =>
      rw [answer] at ran
      cases x with
      | error e => cases ran
      | ok sealed =>
        obtain rfl : sealed = r := Except.ok.inj ran
        exact seals s st sealed (by rw [answer])

theorem ensures_value_encrypt (seals : kb.Seals) (v : Value) :
    Ensures (fun w => ∀ s ∈ w.leaves, Armor.isEncrypted s = true) (value kb .encrypt v) := by
  rw [value_eq_traverse]
  refine ensures_bind (ensures_mapM _ v.leaves fun s _ => ensures_leafCall_encrypt seals s)
    fun rs answered => ensures_pure ?_
  rw [Value.leaves_fill v rs answered.1]
  exact answered.2

theorem ensures_entries_encrypt (seals : kb.Seals) (es : List (String × Value)) :
    Ensures (fun ws => ∀ s ∈ Value.entryLeaves ws, Armor.isEncrypted s = true)
      (entries kb .encrypt es) := by
  rw [entries_eq_traverse]
  refine ensures_bind
    (ensures_mapM _ (Value.entryLeaves es) fun s _ => ensures_leafCall_encrypt seals s)
    fun rs answered => ensures_pure ?_
  rw [Value.entryLeaves_fillEntries es rs answered.1]
  exact answered.2

end FirstRun

section SecondRun

variable {m : Type → Type} [Monad m] [LawfulMonad m] (kb : KeyBackend m)

theorem leafCall_encrypt_of_encrypted {s : String} (encrypted : Armor.isEncrypted s = true) :
    leafCall kb .encrypt s = pure s := by
  simp [leafCall, call, Action.applyScalar, Action.encryptValue, encrypted]
  rfl

theorem mapM_leafCall_encrypt_of_sealed : (l : List String) →
    (∀ s ∈ l, Armor.isEncrypted s = true) → l.mapM (leafCall kb .encrypt) = pure l
  | [], _ => rfl
  | s :: l, sealed => by
    rw [List.mapM_cons, leafCall_encrypt_of_encrypted kb (sealed s List.mem_cons_self),
      mapM_leafCall_encrypt_of_sealed l fun t mem => sealed t (List.mem_cons_of_mem s mem)]
    simp

theorem value_encrypt_of_sealed {v : Value} (sealed : ∀ s ∈ v.leaves, Armor.isEncrypted s = true) :
    value kb .encrypt v = pure v := by
  rw [value_eq_traverse, mapM_leafCall_encrypt_of_sealed kb v.leaves sealed, pure_bind,
    Value.fill_leaves]

theorem entries_encrypt_of_sealed {es : List (String × Value)}
    (sealed : ∀ s ∈ Value.entryLeaves es, Armor.isEncrypted s = true) :
    entries kb .encrypt es = pure es := by
  rw [entries_eq_traverse, mapM_leafCall_encrypt_of_sealed kb _ sealed, pure_bind,
    Value.fillEntries_entryLeaves]

end SecondRun

/-- Encrypting the scope of an outcome's document again gives it back with no call: it is `pure`
with every backend in every monad. -/
def Resealed (scope : Scope) : Outcome → Prop
  | .document e => ∀ {m : Type → Type} [Monad m] [LawfulMonad m] (kb : KeyBackend m),
      perform kb Tracer.silent e .encrypt scope = pure (.document e)
  | .keys _ => True

section Scopes

variable {σ : Type} {kb : KeyBackend (StateM σ)}

theorem ensures_resealed_all (seals : kb.Seals) (d : Document) :
    Ensures (Resealed .all) (perform kb Tracer.silent d .encrypt .all) := by
  rw [perform_silent_all kb d rfl]
  refine ensures_map (ensures_entries_encrypt seals d.entries) fun es sealed => ?_
  intro m _ _ again
  rw [perform_silent_all again _ rfl, entries_encrypt_of_sealed again sealed, map_pure]

theorem ensures_resealed_element (seals : kb.Seals) (d : Document) (name : String) :
    Ensures (Resealed (.element name)) (perform kb Tracer.silent d .encrypt (.element name)) := by
  cases found : d.element name with
  | none =>
    rw [perform_silent_element_absent kb d rfl found]
    exact ensures_pure fun again => perform_silent_element_absent again d rfl found
  | some v =>
    rw [perform_silent_element kb d rfl found]
    refine ensures_map (ensures_value_encrypt seals v) fun w sealed => ?_
    intro m _ _ again
    -- the encrypted value is found under the name and written there once more
    have refound : Document.element ⟨Value.insertEntry name w d.entries⟩ name = some w :=
      Value.lookup_insertEntry_self name w d.entries
    rw [perform_silent_element again _ rfl refound, value_encrypt_of_sealed again sealed, map_pure,
      Value.insertEntry_insertEntry]

theorem ensures_resealed_path (seals : kb.Seals) (d : Document) (p : ColonPath) :
    Ensures (Resealed (.path p)) (perform kb Tracer.silent d .encrypt (.path p)) := by
  rw [perform_silent_path]
  cases found : d.get p with
  | none =>
    rw [atPath_missing kb d _ found]
    exact ensures_throw _ _
  | some v =>
    cases v with
    | string s =>
      rw [atPath_string kb d rfl found]
      refine ensures_bind (ensures_leafCall_encrypt seals s) fun r encrypted => ensures_pure ?_
      intro m _ _ again
      -- the path now holds the message, and writing it there again changes nothing
      set written : Document := ⟨ColonPath.assignParts p.parts d.entries (.string r)⟩
      have refound : written.get p = some (.string r) := Document.get_assignParts_of_get found _
      rw [perform_silent_path, atPath_string again written rfl refound,
        leafCall_encrypt_of_encrypted again encrypted, pure_bind, ColonPath.assignParts_assignParts]
    | null =>
      rw [atPath_null kb d rfl found]
      exact ensures_pure fun again => atPath_null again d rfl found
    | bool _ | number _ | sequence _ | mapping _ =>
      simp only [atPath, found]
      exact ensures_bind (ensures_throw (fun _ => False) _) fun _ refused => refused.elim

end Scopes

/-- If encrypting a scope with a sealing backend, from some state, gives a document, then
encrypting the same scope of that document is `pure`: it gives the document back, and since this
holds for every backend, one that counts its calls counts none. -/
theorem encrypt_twice_is_encrypt_once {σ : Type} (kb : KeyBackend (StateM σ)) (seals : kb.Seals)
    (d e : Document) (scope : Scope) (st : σ)
    (encrypted : ((perform kb Tracer.silent d .encrypt scope).run.run st).1 = .ok (.document e))
    {m : Type → Type} [Monad m] [LawfulMonad m] (again : KeyBackend m) :
    perform again Tracer.silent e .encrypt scope = pure (.document e) := by
  have resealed : Ensures (Resealed scope) (perform kb Tracer.silent d .encrypt scope) := by
    cases scope with
    | all => exact ensures_resealed_all seals d
    | element name => exact ensures_resealed_element seals d name
    | path p => exact ensures_resealed_path seals d p
  exact resealed st (.document e) encrypted again

theorem encrypt_twice_db_password :
    let kb := Mock.counting (MockKeys.single "K1")
    let sealed : Document := ⟨[("db", .mapping [("password", .string (Armor.encode "K1" "hunter2")),
      ("port", .number (.unsigned 5432))])]⟩
    kb.Seals ∧
      ((perform kb Tracer.silent ⟨[("db", .mapping [("password", .string "hunter2"),
        ("port", .number (.unsigned 5432))])]⟩ .encrypt .all).run.run 0).1 =
        .ok (.document sealed) ∧
      perform kb Tracer.silent sealed .encrypt .all = pure (.document sealed) := by
  intro kb sealed
  have seals : kb.Seals := Mock.counting_seals (MockKeys.single "K1")
  have plain : Armor.isEncrypted "hunter2" = false := by decide +kernel
  obtain ⟨calls, ran⟩ := Mock.perform_counting (MockKeys.single "K1")
    ⟨[("db", .mapping [("password", .string "hunter2"), ("port", .number (.unsigned 5432))])]⟩
    (show Action.encrypt.transforms = true from rfl) .all 0
  have encrypted : ((perform kb Tracer.silent ⟨[("db", .mapping [("password", .string "hunter2"),
      ("port", .number (.unsigned 5432))])]⟩ .encrypt .all).run.run 0).1 =
      .ok (.document sealed) := by
    simp only [kb, ran, Mock.outcome]
    simp [Mock.leafAnswer, Mock.answer, plain, Except.mapError, Document.leaves, Document.fill,
      Value.entryLeaves, Value.leaves, Value.fillEntries, Value.fill, sealed, MockKeys.single]
    rfl
  exact ⟨seals, encrypted, encrypt_twice_is_encrypt_once kb seals _ _ _ 0 encrypted kb⟩

end Walk

end SealedPillar
