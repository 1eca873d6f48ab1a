import SealedPillar.Proofs.EncryptDecrypt
import SealedPillar.Proofs.PathLaws
import SealedPillar.Proofs.MockCodec
import SealedPillar.Pillar

/-!
Storing secrets under names, one after another.

`Pillar.update` runs `Walk.setSecret` for each name in turn, with the value of the same index or
the empty string, on the document the pillar holds, and stops at the first store that fails,
keeping the document the stores before it left (`Pillar.storeSecrets`). Nothing past the last
name's value is read (`Pillar.update_take_values`). With the test backend a store seals its
value (`Mock.sealed`: a message stays, a plaintext becomes the backend's message for it) and fails
only where the path runs into a value that is neither a mapping nor null; its encryption call is
made either way (`Mock.setSecret_counting`).

A later store never disturbs a string that it does not overwrite: a write at a path that is no
prefix of `q` either parts from `q` and leaves it, or runs through it and is refused
(`Document.get_of_set_of_not_prefix`). So after a run that succeeds, every name that no later
name covers holds its sealed value (`Pillar.update_stores_in_order`).
-/

namespace SealedPillar

namespace Document

theorem get_of_set {d d' : Document} {p : ColonPath} {v : Value} (nonempty : p.parts ≠ [])
    (written : d.set p v = .ok d') : d'.get p = some v := by
  cases assigned : ColonPath.assign d.entries p v with
  | error e => simp [set, assigned, Except.map] at written
  | ok es =>
    simp only [set, assigned, Except.map, Except.ok.injEq] at written
    subst written
    exact ColonPath.resolve_of_assign nonempty assigned

theorem get_of_set_of_not_prefix {d d' : Document} {p q : ColonPath} {v : Value} {s : String}
    (held : d.get q = some (.string s)) (notAbove : ¬ p.parts <+: q.parts)
    (written : d.set p v = .ok d') : d'.get q = some (.string s) := by
  cases checked : ColonPath.conflictIn p.parts.dropLast d.entries with
  | some seg => simp [set, ColonPath.assign_of_conflict v checked, Except.map] at written
  | none =>
    simp only [set, ColonPath.assign_of_checked v checked, Except.map, Except.ok.injEq] at written
    subst written
    by_cases below : q.parts <+: p.parts
    · -- `q` lies on the way to `p`, so the check met the string there and refused
      exfalso
      obtain ⟨t, spelled⟩ := below
      have more : t ≠ [] := by
        rintro rfl
        exact notAbove (by simp at spelled; simp [spelled])
      have nonempty : q.parts ≠ [] := ColonPath.parts_ne_nil_of_resolveParts held
      have onWay : q.parts.dropLast ++ [q.parts.getLast nonempty] <+: p.parts.dropLast := by
        rw [List.dropLast_append_getLast nonempty, ← spelled, List.dropLast_append_of_ne_nil more]
        exact List.prefix_append _ _
      have reached : ColonPath.resolveParts (q.parts.dropLast ++ [q.parts.getLast nonempty])
          d.entries = some (.string s) := by
        rw [List.dropLast_append_getLast nonempty]
        exact held
      have blocked := ColonPath.conflictIn_eq_some_iff.mpr
        ⟨_, _, onWay, reached, by simp, by simp⟩
      rw [checked] at blocked
      cases blocked
    · exact (ColonPath.resolveParts_assignParts_of_parted d.entries v below notAbove).trans held

end Document

namespace Armor

theorem decrypt_encode_of_front_not_mem {secrets : List String} {key : String}
    (lead : ∀ c ∈ key.toList.head?, Text.isWhitespace c = false) (plaintext : String)
    (missing : String.ofList (key.toList.takeWhile (· != ':')) ∉ secrets) :
    decrypt secrets (encode key plaintext) = .error (.decryptionFailed
      ("no secret key for " ++ String.ofList (key.toList.takeWhile (· != ':')))) := by
  obtain ⟨rest, span⟩ := span_keyLine key.toList (hexChars (Text.utf8Bytes plaintext))
  simp [decrypt, split_encode_of_span lead span, missing]
  rfl

end Armor

namespace Mock

theorem setSecret_counting (keys : MockKeys) (d : Document) (p : ColonPath) (v : String)
    (k : Nat) :
    (Walk.setSecret (counting keys) d p v).run.run k =
      pure ((d.set p (.string (sealed keys v))).mapError .path, k + cost keys .encrypt v) := by
  have call : Walk.call (Action.encrypt.applyScalar (counting keys) v) =
      Walk.leafCall (counting keys) .encrypt v := rfl
  rw [Walk.setSecret, call, ExceptT.run_bind, StateT.run_bind, leafCall_counting,
    leafAnswer_encrypt]
  cases written : d.set p (.string (sealed keys v)) <;> simp [written, Except.mapError]

theorem cost_encrypt (keys : MockKeys) (v : String) :
    cost keys .encrypt v = if (!Armor.isEncrypted v) = true then 1 else 0 := by
  cases encrypted : Armor.isEncrypted v <;> simp [cost, encrypted]

end Mock

namespace Pillar

section Stores

variable (keys : MockKeys) (values : List String)

theorem storeSecrets_refused {i : Nat} {name : String} {rest : List String} {d : Document}
    {e : PathError}
    (refused : d.set (ColonPath.parse name) (.string (Mock.sealed keys (values.getD i ""))) =
      .error e) (k : Nat) :
    (storeSecrets (Mock.counting keys) Tracer.silent values i (name :: rest) d).run k =
      ((d, some (.path e)), k + Mock.cost keys .encrypt (values.getD i "")) := by
  have first := Mock.setSecret_counting keys d (ColonPath.parse name) (values.getD i "") k
  rw [refused] at first
  simp only [storeSecrets, StateT.run_bind, first]
  rfl

theorem storeSecrets_stored {i : Nat} {name : String} {rest : List String} {d d' : Document}
    (stored : d.set (ColonPath.parse name) (.string (Mock.sealed keys (values.getD i ""))) =
      .ok d') (k : Nat) :
    (storeSecrets (Mock.counting keys) Tracer.silent values i (name :: rest) d).run k =
      (storeSecrets (Mock.counting keys) Tracer.silent values (i + 1) rest d').run
        (k + Mock.cost keys .encrypt (values.getD i "")) := by
  have first := Mock.setSecret_counting keys d (ColonPath.parse name) (values.getD i "") k
  rw [stored] at first
  simp only [storeSecrets, StateT.run_bind, first]
  rfl

theorem storeSecrets_cons_succeeded {i : Nat} {name : String} {rest : List String}
    {d d' : Document} {k k' : Nat}
    (ran : (storeSecrets (Mock.counting keys) Tracer.silent values i (name :: rest) d).run k =
      ((d', none), k')) :
    ∃ d'', d.set (ColonPath.parse name) (.string (Mock.sealed keys (values.getD i ""))) = .ok d'' ∧
      (storeSecrets (Mock.counting keys) Tracer.silent values (i + 1) rest d'').run
        (k + Mock.cost keys .encrypt (values.getD i "")) = ((d', none), k') := by
  cases stored : d.set (ColonPath.parse name) (.string (Mock.sealed keys (values.getD i "")))
    with
  | error e =>
    rw [storeSecrets_refused keys values stored] at ran
    cases ran
  | ok d'' => exact ⟨d'', rfl, (storeSecrets_stored keys values stored k).symm.trans ran⟩

theorem storeSecrets_folds : {names : List String} → {i : Nat} → {d d' : Document} →
    {err : Option Error} → {k k' : Nat} →
    (storeSecrets (Mock.counting keys) Tracer.silent values i names d).run k = ((d', err), k') →
    ∃ t ≤ names.length,
      (((names.zipIdx i).take t).foldlM (fun d e =>
          Walk.setSecret (Mock.counting keys) d (ColonPath.parse e.1) (values.getD e.2 "")) d).run.run
          k = pure (.ok d', k + ((names.zipIdx i).take t).countP
            fun e => !Armor.isEncrypted (values.getD e.2 "")) ∧
      (t < names.length → ∃ e, err = some e ∧
        (Walk.setSecret (Mock.counting keys) d' (ColonPath.parse (names.getD t ""))
          (values.getD (i + t) "")).run.run
          (k + ((names.zipIdx i).take t).countP fun e => !Armor.isEncrypted (values.getD e.2 "")) =
          pure (.error e, k')) ∧
      (t = names.length → err = none) ∧
      k' = k + ((names.zipIdx i).take (t + 1)).countP
        fun e => !Armor.isEncrypted (values.getD e.2 "")
  | [], i, d, d', err, k, k', ran => by
    simp only [storeSecrets] at ran
    cases ran
    exact ⟨0, le_refl 0, rfl, by simp, fun _ => rfl, by simp⟩
  | name :: rest, i, d, d', err, k, k', ran => by
    have first := Mock.setSecret_counting keys d (ColonPath.parse name) (values.getD i "") k
    -- the name at index `i` is reached first; its call is counted before the rest's
    have counted : ∀ t, (((name :: rest).zipIdx i).take (t + 1)).countP
          (fun e => !Armor.isEncrypted (values.getD e.2 "")) =
        ((rest.zipIdx (i + 1)).take t).countP (fun e => !Armor.isEncrypted (values.getD e.2 "")) +
          Mock.cost keys .encrypt (values.getD i "") := by
      intro t
      rw [List.zipIdx_cons, List.take_succ_cons, List.countP_cons, Mock.cost_encrypt]
    cases stored : d.set (ColonPath.parse name) (.string (Mock.sealed keys (values.getD i "")))
      with
    | error e =>
      -- the first store is refused, so none succeeds and the run ends on `d`
      rw [storeSecrets_refused keys values stored] at ran
      cases ran
      rw [stored] at first
      refine ⟨0, by simp, rfl, fun _ => ⟨.path e, rfl, first⟩, by simp, ?_⟩
      rw [counted 0, List.take_zero, List.countP_nil, Nat.zero_add]
    | ok d'' =>
      rw [storeSecrets_stored keys values stored] at ran
      obtain ⟨t, bound, folded, failing, finished, calls⟩ := storeSecrets_folds ran
      rw [stored] at first
      refine ⟨t + 1, by simpa using bound, ?_, fun below => ?_, fun whole => ?_, ?_⟩
      · rw [counted, List.zipIdx_cons, List.take_succ_cons, List.foldlM_cons, ExceptT.run_bind,
          StateT.run_bind, first]
        simp only [Except.mapError, pure_bind]
        rw [folded]
        simp only [Nat.add_assoc, Nat.add_comm (Mock.cost keys .encrypt (values.getD i ""))]
      · obtain ⟨e, failed, call⟩ := failing (by simpa using below)
        refine ⟨e, failed, ?_⟩
        rw [counted, List.getD_cons_succ, show i + (t + 1) = i + 1 + t by omega]
        simpa only [Nat.add_assoc, Nat.add_comm (Mock.cost keys .encrypt (values.getD i ""))]
          using call
      · exact finished (by simpa using whole)
      · rw [calls, counted]
        omega

theorem storeSecrets_keeps {q : ColonPath} {s : String} :
    {names : List String} → {i : Nat} → {d d' : Document} → {k k' : Nat} →
    (storeSecrets (Mock.counting keys) Tracer.silent values i names d).run k = ((d', none), k') →
    d.get q = some (.string s) → (∀ name ∈ names, ¬ (ColonPath.parse name).parts <+: q.parts) →
    d'.get q = some (.string s)
  | [], i, d, d', k, k', ran, held, _ => by
    simp only [storeSecrets] at ran
    cases ran
    exact held
  | name :: rest, i, d, d', k, k', ran, held, clear => by
    obtain ⟨d'', stored, onward⟩ := storeSecrets_cons_succeeded keys values ran
    exact storeSecrets_keeps onward
      (Document.get_of_set_of_not_prefix held (clear name List.mem_cons_self) stored)
      (fun later mem => clear later (List.mem_cons_of_mem name mem))

theorem storeSecrets_sealed :
    {names : List String} → {i : Nat} → {d d' : Document} → {k k' : Nat} →
    (storeSecrets (Mock.counting keys) Tracer.silent values i names d).run k = ((d', none), k') →
    ∀ j < names.length,
      (∀ l, j < l → l < names.length →
        ¬ (ColonPath.parse (names.getD l "")).parts <+: (ColonPath.parse (names.getD j "")).parts) →
      d'.get (ColonPath.parse (names.getD j "")) =
        some (.string (Mock.sealed keys (values.getD (i + j) "")))
  | [], _, _, _, _, _, _, j, index, _ => absurd index (Nat.not_lt_zero j)
  | name :: rest, i, d, d', k, k', ran, j, index, uncovered => by
    obtain ⟨d'', stored, onward⟩ := storeSecrets_cons_succeeded keys values ran
    cases j with
    | zero =>
      -- the name is written here, and no later name is a prefix of it
      have written := Document.get_of_set (ColonPath.parts_parse_ne_nil name) stored
      refine storeSecrets_keeps keys values onward written fun later mem => ?_
      obtain ⟨l, below, rfl⟩ := List.getElem_of_mem mem
      simpa [List.getD_eq_getElem?_getD, below] using
        uncovered (l + 1) (Nat.succ_pos l) (by simpa using below)
    | succ j =>
      have sealedLater := storeSecrets_sealed onward j (by simpa using index)
        fun l above below => uncovered (l + 1) (by omega) (by simpa using below)
      simpa [show i + (j + 1) = i + 1 + j by omega] using sealedLater

end Stores

theorem run_update {σ : Type} (kb : KeyBackend (StateM σ)) (tr : Tracer (StateM σ)) (p : Pillar)
    (names values : List String) (s : σ) :
    (p.update kb tr names values).run.run s =
      (p.afterStores ((storeSecrets kb tr values 0 names p.document).run s).1,
        ((storeSecrets kb tr values 0 names p.document).run s).2) := rfl

section Values

variable {m : Type → Type} [Monad m] (kb : KeyBackend m) (tr : Tracer m)

theorem storeSecrets_congr_values {values values' : List String} :
    {names : List String} → {i : Nat} → (d : Document) →
    (∀ j, i ≤ j → j < i + names.length → values'.getD j "" = values.getD j "") →
    storeSecrets kb tr values' i names d = storeSecrets kb tr values i names d
  | [], _, _, _ => rfl
  | name :: rest, i, d, same => by
    have here : values'.getD i "" = values.getD i "" := same i (Nat.le_refl i) (by simp)
    have later : ∀ d', storeSecrets kb tr values' (i + 1) rest d' =
        storeSecrets kb tr values (i + 1) rest d' := fun d' =>
      storeSecrets_congr_values d' fun j above below => same j (by omega) (by simp; omega)
    simp only [storeSecrets, here, later]

theorem update_take_values (p : Pillar) (names values : List String) :
    p.update kb tr names (values.take names.length) = p.update kb tr names values := by
  have same : ∀ j, 0 ≤ j → j < 0 + names.length →
      (values.take names.length).getD j "" = values.getD j "" := by
    intro j _ below
    simp [List.getD_eq_getElem?_getD, List.getElem?_take_of_lt (by simpa using below)]
  simp only [update, storeSecrets_congr_values kb tr p.document same]

end Values

/-- Storing secrets under names with a test backend made for a key and holding any further
secrets. `update` answers what its run of stores leaves: the first error, or the pillar holding
the document; values past the last name's are never read. The run is the left fold of
`Walk.setSecret` over the names and the indices of their values, as far as the first store that
fails: the `t` stores before it succeed one after another and leave the run's document, and the
failing store, made on that document and refused, still has its call counted. The backend is
called once for each name reached whose value is not a message, and for no other. After a run
that succeeds, a name that no later name covers holds its value sealed: a message as given, a
plaintext as the backend's message for it, which the backend reads back when its key has no
colon and does not start with a blank. -/
theorem update_stores_in_order (key : String) (extras : List String) (p : Pillar)
    (names values : List String) (n : Nat) :
    let kb := Mock.counting (extras.foldl MockKeys.withSecret (MockKeys.single key))
    let run := (storeSecrets kb Tracer.silent values 0 names p.document).run n
    let plain := fun e : String × Nat => !Armor.isEncrypted (values.getD e.2 "")
    (p.update kb Tracer.silent names values).run.run n = (p.afterStores run.1, run.2) ∧
    p.update kb Tracer.silent names (values.take names.length) =
      p.update kb Tracer.silent names values ∧
    (∃ t ≤ names.length,
      ((names.zipIdx.take t).foldlM (fun d e =>
          Walk.setSecret kb d (ColonPath.parse e.1) (values.getD e.2 "")) p.document).run.run n =
        pure (.ok run.1.1, n + (names.zipIdx.take t).countP plain) ∧
      (t < names.length → ∃ e, run.1.2 = some e ∧
        (Walk.setSecret kb run.1.1 (ColonPath.parse (names.getD t "")) (values.getD t "")).run.run
          (n + (names.zipIdx.take t).countP plain) = pure (.error e, run.2)) ∧
      (t = names.length → run.1.2 = none) ∧
      run.2 = n + (names.zipIdx.take (t + 1)).countP plain) ∧
    (run.1.2 = none → ∀ i < names.length,
      (∀ j, i < j → j < names.length →
        ¬ (ColonPath.parse (names.getD j "")).parts <+: (ColonPath.parse (names.getD i "")).parts) →
      run.1.1.get (ColonPath.parse (names.getD i "")) = some (.string
        (if Armor.isEncrypted (values.getD i "") then values.getD i ""
          else Armor.encode key (values.getD i "")))) ∧
    (':' ∉ key.toList → (∀ c ∈ key.toList.head?, Text.isWhitespace c = false) →
      ∀ v k, (kb.decrypt (Armor.encode key v)).run k = (.ok v, k + 1)) := by
  intro kb run plain
  have ran : (storeSecrets kb Tracer.silent values 0 names p.document).run n =
      ((run.1.1, run.1.2), run.2) := rfl
  obtain ⟨t, bound, folded, failing, finished, calls⟩ := storeSecrets_folds _ values ran
  refine ⟨run_update kb Tracer.silent p names values n, update_take_values kb Tracer.silent p names values,
    ⟨t, bound, folded, fun below => by simpa only [Nat.zero_add] using failing below, finished,
      calls⟩,
    fun succeeded i index uncovered => ?_, fun noColon lead v k => ?_⟩
  · have sealedHere := storeSecrets_sealed _ values (succeeded ▸ ran) i index uncovered
    simpa [Mock.sealed, MockKeys.key_foldl_withSecret, MockKeys.single] using sealedHere
  · -- every test backend holds the secret of the key it was made for
    have own := Mock.readsOwn_foldl_withSecret noColon lead extras
    have opened := Armor.decrypt_encode own.held own.noColon own.lead v
    rw [MockKeys.key_foldl_withSecret] at opened
    rw [Mock.decrypt_counting]
    exact Prod.ext opened rfl

theorem update_stores_test_secrets :
    let kb := Mock.counting (([] : List String).foldl MockKeys.withSecret (MockKeys.single "K1"))
    let run := (storeSecrets kb Tracer.silent ["secret_value1"] 0
      ["secret_name1", "nested:secret_name2"] (Pillar.empty (.file "test.sls")).document).run 0
    run.1.2 = none ∧ ':' ∉ "K1".toList ∧ (∀ c ∈ "K1".toList.head?, Text.isWhitespace c = false) ∧
      run.1.1.get (ColonPath.parse "secret_name1") =
        some (.string (Armor.encode "K1" "secret_value1")) ∧
      run.1.1.get (ColonPath.parse "nested:secret_name2") = some (.string (Armor.encode "K1" "")) ∧
      (kb.decrypt (Armor.encode "K1" "secret_value1")).run 0 = (.ok "secret_value1", 1) := by
  dsimp only
  obtain ⟨-, -, -, sealedAt, opens⟩ := update_stores_in_order "K1" []
    (Pillar.empty (.file "test.sls")) ["secret_name1", "nested:secret_name2"] ["secret_value1"] 0
  have sealedAfter := sealedAt (by decide +kernel)
  have noColon : ':' ∉ "K1".toList := by decide
  have lead : ∀ c ∈ "K1".toList.head?, Text.isWhitespace c = false := fun c first => by
    simp at first
    subst first
    rfl
  have plainValue : Armor.isEncrypted "secret_value1" = false := by decide +kernel
  have plainEmpty : Armor.isEncrypted "" = false := by decide +kernel
  have nested : (ColonPath.parse "nested:secret_name2").parts = ["nested", "secret_name2"] := by
    decide +kernel
  have single : (ColonPath.parse "secret_name1").parts = ["secret_name1"] := by decide +kernel
  have notAbove : ¬ (ColonPath.parse "nested:secret_name2").parts <+:
      (ColonPath.parse "secret_name1").parts := by
    rw [nested, single]
    simp
  have first := sealedAfter 0 (by decide) fun j above below => by
    obtain rfl : j = 1 := by simp at below; omega
    exact notAbove
  have second := sealedAfter 1 (by decide) fun j above below => by
    simp at below
    omega
  exact ⟨by decide +kernel, noColon, lead, by simpa [plainValue] using first,
    by simpa [plainEmpty] using second, opens noColon lead "secret_value1" 0⟩

/-- A test backend whose key holds a colon stores a message that it cannot read back: the message
names the key only up to the colon. -/
theorem update_colon_key_stores_unreadable :
    let kb := Mock.counting (MockKeys.single "K:2")
    (Pillar.update kb Tracer.silent (Pillar.empty (.file "test.sls")) ["a"] ["x"]).run.run 0 =
        (.ok ⟨.file "test.sls", ⟨[("a", .string (Armor.encode "K:2" "x"))]⟩⟩, 1) ∧
      (kb.decrypt (Armor.encode "K:2" "x")).run 1 =
        (.error (.decryptionFailed "no secret key for K"), 2) := by
  have plain : Armor.isEncrypted "x" = false := by decide +kernel
  have sealedX : Mock.sealed (MockKeys.single "K:2") (["x"].getD 0 "") = Armor.encode "K:2" "x" := by
    simp [Mock.sealed, MockKeys.single, plain]
  have stored : Document.empty.set (ColonPath.parse "a")
      (.string (Mock.sealed (MockKeys.single "K:2") (["x"].getD 0 ""))) =
      .ok ⟨[("a", .string (Armor.encode "K:2" "x"))]⟩ := by
    rw [sealedX]
    rfl
  have called : Mock.cost (MockKeys.single "K:2") .encrypt (["x"].getD 0 "") = 1 := by
    simp [Mock.cost, plain]
  have lead : ∀ c ∈ "K:2".toList.head?, Text.isWhitespace c = false := fun c first => by
    simp at first
    subst first
    rfl
  have front : String.ofList ("K:2".toList.takeWhile (· != ':')) = "K" := by decide
  constructor
  · rw [run_update, Pillar.empty, storeSecrets_stored _ _ stored, called]
    rfl
  · rw [Mock.decrypt_counting, Armor.decrypt_encode_of_front_not_mem lead "x" (by rw [front]; decide),
      front]
    rfl

end Pillar

end SealedPillar
