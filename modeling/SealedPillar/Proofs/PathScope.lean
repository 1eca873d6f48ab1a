import SealedPillar.Proofs.ElementScope

/-!
A walk at one colon path touches one leaf.

What the walk at a path gives is decided by what the path names. A missing path is not found; a
sequence or a mapping is no scalar; a boolean or a number is no scalar to rewrite and holds no
message to identify; null is kept by a rewrite and holds no message. A string is rewritten by one
call, whose answer is written back by `Document.set`, which cannot fail at a path that can be read:
the path then holds the answer, every mapping keeps its keys and every value off the path's spine
is as it was (`Document.get_of_set_leaf`). Identifying a string asks the backend for the key of a
message and reports it under the path's text.

With a deterministic backend, the leaf a walk at a path writes is the leaf the walk over the whole
document writes there (`path_leaf_of_all`).
-/

namespace SealedPillar

namespace Walk

section Kinds

variable {m : Type → Type} [Monad m] [LawfulMonad m] (kb : KeyBackend m) {d : Document}
  {p : ColonPath} {v : Value}

theorem atPath_collection (a : Action) (found : d.get p = some v)
    (collection : (∃ xs, v = .sequence xs) ∨ ∃ es, v = .mapping es) :
    atPath kb d a p = throw (.path (.notScalar p.display)) := by
  rcases collection with ⟨xs, rfl⟩ | ⟨es, rfl⟩ <;> cases a <;> simp [atPath, found]

theorem atPath_flag (a : Action) (found : d.get p = some v)
    (flag : (∃ b, v = .bool b) ∨ ∃ n, v = .number n) :
    atPath kb d a p =
      throw (if a.transforms then .path (.notScalar p.display) else .cipher .notEncrypted) := by
  rcases flag with ⟨b, rfl⟩ | ⟨n, rfl⟩ <;> cases a <;> simp [atPath, found, Action.transforms]

theorem atPath_identify_null (found : d.get p = some .null) :
    atPath kb d .identify p = throw (.cipher .notEncrypted) := by
  simp [atPath, found, Action.transforms]

theorem atPath_identify_of_string {s : String} (found : d.get p = some (.string s)) :
    atPath kb d .identify p =
      if Armor.isEncrypted s then (fun r => .keys [(p.display, r)]) <$> call (kb.keyIdentity s)
      else throw (.cipher .notEncrypted) := by
  rw [atPath_identify_string kb d found, bind_pure_comp]
  cases sealed : Armor.isEncrypted s with
  | true => simp [leafCall, Action.applyScalar, sealed]
  | false =>
    simp only [leafCall, Action.applyScalar, sealed]
    apply ExceptT.ext
    simp [call, ExceptT.run_throw]
    rfl

theorem atPath_rewrite_of_string {a : Action} (rewrites : a.transforms = true) {s : String}
    (found : d.get p = some (.string s)) :
    atPath kb d a p = (fun r => .document ⟨ColonPath.assignParts p.parts d.entries (.string r)⟩) <$>
      call (a.applyScalar kb s) := by
  rw [atPath_string kb d rewrites found, bind_pure_comp]
  rfl

end Kinds

section Stateless

variable (o : KeyBackend Id) (d : Document) (p : ColonPath)

theorem path_leaf_of_all {a : Action} (rewrites : a.transforms = true) {D : Document}
    (whole : (perform o Tracer.silent d a .all).run = .ok (.document D)) {s : String}
    (found : d.get p = some (.string s)) :
    ∃ d', (perform o Tracer.silent d a (.path p)).run = .ok (.document d') ∧
      d'.get p = D.get p := by
  obtain ⟨answers, written⟩ := perform_all_ok o d rewrites whole
  -- the string at the path is one of the document's, so the whole walk answered it
  have answer : (call (a.applyScalar o s)).run = .ok (answered o a s) :=
    answers s (ColonPath.leaves_subset_of_resolveParts found s (by simp [Value.leaves]))
  refine ⟨⟨ColonPath.assignParts p.parts d.entries (.string (answered o a s))⟩, ?_, ?_⟩
  · rw [perform_silent_path, atPath_rewrite_of_string o rewrites found, ExceptT.run_map, answer]
    rfl
  · rw [written, Document.get_mapLeaves, found]
    exact Document.get_assignParts_of_get found _

end Stateless

/-- The walk at a path, by what the path names, for every backend: only a string is rewritten, by a
write that succeeds and changes nothing off the path's spine. With a deterministic backend, a
rewritten leaf is the one the whole walk writes at the path. -/
theorem path_scope_touches_one_leaf (d : Document) (p : ColonPath) :
    (∀ {m : Type → Type} [Monad m] [LawfulMonad m] (kb : KeyBackend m) (a : Action),
      (d.get p = none →
        perform kb Tracer.silent d a (.path p) = throw (.path (.notFound p.display))) ∧
      (∀ v, d.get p = some v → ((∃ xs, v = .sequence xs) ∨ ∃ es, v = .mapping es) →
        perform kb Tracer.silent d a (.path p) = throw (.path (.notScalar p.display))) ∧
      (∀ v, d.get p = some v → ((∃ b, v = .bool b) ∨ ∃ n, v = .number n) →
        perform kb Tracer.silent d a (.path p) =
          throw (if a.transforms then .path (.notScalar p.display) else .cipher .notEncrypted)) ∧
      (d.get p = some .null → perform kb Tracer.silent d a (.path p) =
        if a.transforms then pure (.document d) else throw (.cipher .notEncrypted)) ∧
      (∀ s, d.get p = some (.string s) → a.transforms = true →
        ∃ write : String → Document,
          perform kb Tracer.silent d a (.path p) =
            (fun r => .document (write r)) <$> call (a.applyScalar kb s) ∧
          ∀ r, d.set p (.string r) = .ok (write r) ∧ (write r).get p = some (.string r) ∧
            (∀ q, ((write r).get q).isSome = (d.get q).isSome) ∧
            ∀ q : ColonPath, ¬ q.parts <+: p.parts → (write r).get q = d.get q) ∧
      (∀ s, d.get p = some (.string s) → perform kb Tracer.silent d .identify (.path p) =
        if Armor.isEncrypted s then (fun r => .keys [(p.display, r)]) <$> call (kb.keyIdentity s)
        else throw (.cipher .notEncrypted))) ∧
    (∀ {σ : Type} {kb : KeyBackend (StateM σ)}, kb.Deterministic →
      ∀ (a : Action), a.transforms = true → ∀ (s : String) (D : Document) (st st' : σ),
      d.get p = some (.string s) →
      ((perform kb Tracer.silent d a .all).run.run st).1 = .ok (.document D) →
      ∃ d', ((perform kb Tracer.silent d a (.path p)).run.run st').1 = .ok (.document d') ∧
        d'.get p = D.get p) := by
  refine ⟨fun kb a => ⟨atPath_missing kb d a, fun v found collection =>
    atPath_collection kb a found collection, fun v found flag => atPath_flag kb a found flag,
    fun found => ?_, fun s found rewrites => ?_, fun s found => atPath_identify_of_string kb found⟩,
    ?_⟩
  · -- null is kept by a rewrite and holds no message
    cases a with
    | identify => exact atPath_identify_null kb found
    | encrypt | decrypt | rotate => exact atPath_null kb d rfl found
  · -- the string is written back by a `set` that cannot fail, and touches the path's spine only
    have leaf : ∀ inner, Value.string s ≠ .mapping inner := fun _ => Value.noConfusion
    refine ⟨fun r => ⟨ColonPath.assignParts p.parts d.entries (.string r)⟩,
      atPath_rewrite_of_string kb rewrites found, fun r => ?_⟩
    have written := Document.set_of_get found (.string r)
    exact ⟨written, Document.get_of_set_leaf found leaf (fun _ => Value.noConfusion) written⟩
  · intro σ kb det a rewrites s D st st' found whole
    rw [perform_frozen det st d a .all st] at whole
    obtain ⟨d', ran, same⟩ := path_leaf_of_all (kb.frozen st) d p rewrites whole found
    exact ⟨d', by rw [perform_frozen det st d a (.path p) st']; exact ran, same⟩

theorem path_scope_db_password :
    let kb := Mock.counting (MockKeys.single "K1")
    let d : Document :=
      ⟨[("db", .mapping [("password", .string "hunter2")]), ("web", .string "x")]⟩
    let p : ColonPath := ⟨["db", "password"]⟩
    kb.Deterministic ∧ d.get p = some (.string "hunter2") ∧
      ((perform kb Tracer.silent d .decrypt .all).run.run 0).1 = .ok (.document d) ∧
      ∃ d', ((perform kb Tracer.silent d .decrypt (.path p)).run.run 3).1 = .ok (.document d') ∧
        d'.get p = some (.string "hunter2") := by
  intro kb d p
  have det := Mock.counting_deterministic (MockKeys.single "K1")
  have found : d.get p = some (.string "hunter2") := rfl
  have plain : ∀ s ∈ ["hunter2", "x"], Armor.isEncrypted s = false := by decide +kernel
  have whole : ((perform kb Tracer.silent d .decrypt .all).run.run 0).1 = .ok (.document d) := by
    rw [perform_frozen det 0 d .decrypt .all 0, run_perform_all _ _ rfl]
    simp [d, entries, value, call, Action.applyScalar, Action.decryptValue, plain]
    rfl
  obtain ⟨d', ran, same⟩ := (path_scope_touches_one_leaf d p).2 det .decrypt rfl "hunter2" d 0 3
    found whole
  exact ⟨det, found, whole, d', ran, same.trans found⟩

end Walk

end SealedPillar
