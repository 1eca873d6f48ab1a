import SealedPillar.Proofs.Traversal
import SealedPillar.Cipher.Mock
import SealedPillar.Proofs.ArmorCodec
import SealedPillar.Proofs.PathWrites
import Mathlib

/-!
The calls a walk makes to the test backend, counted.

The test backend's answer to an action at a string depends on the string alone (`Mock.answer`),
and so does the number of calls it takes to give it (`Mock.cost`). Walking a whole document
with it therefore gives the document refilled with the answers, or the first failing answer's
error, and the counter grows by the cost of every leaf up to and including the first that fails
(`Mock.reached`). `perform_all_walks_leaves` puts this together with the traversal of
`Proofs.Traversal`.

Over any scope, what a rewriting action gives with the test backend is a function of the
document alone (`Mock.outcome`, `perform_counting`): the result never depends on how many calls
were made before. A scope covers some of the document's strings (`Document.leavesIn`); unless a
path scope is refused (`Document.refusal`), the walk answers them in order and writes the answers
back (`Document.fillIn`, `Mock.outcome_of_accepted`), and it calls the backend as often as the
strings it reached cost (`Mock.perform_counting_leavesIn`). Writing back twice keeps the second
answers, and the strings a scope covers after a write are the answers written
(`Document.fillIn_fillIn`, `Document.leavesIn_fillIn`).
-/

namespace SealedPillar

namespace Document

def leavesIn (d : Document) : Scope → List String
  | .all => d.leaves
  | .element name =>
    match d.element name with
    | some v => v.leaves
    | none => []
  | .path p =>
    match d.get p with
    | some (.string s) => [s]
    | _ => []

def fillIn (d : Document) : Scope → List String → Document
  | .all, rs => d.fill rs
  | .element name, rs =>
    match d.element name with
    | some v => ⟨Value.insertEntry name (v.fill rs) d.entries⟩
    | none => d
  | .path p, rs =>
    match d.get p with
    | some (.string _) => ⟨ColonPath.assignParts p.parts d.entries (.string (rs.headD ""))⟩
    | _ => d

def refusal (d : Document) : Scope → Option Error
  | .path p =>
    match d.get p with
    | none => some (.path (.notFound p.display))
    | some (.string _) => none
    | some .null => none
    | some _ => some (.path (.notScalar p.display))
  | .all => none
  | .element _ => none

theorem fillIn_fillIn (d : Document) (scope : Scope) (rs ts : List String) :
    (d.fillIn scope rs).fillIn scope ts = d.fillIn scope ts := by
  cases scope with
  | all => exact d.fill_fill rs ts
  | element name =>
    cases found : d.element name with
    | none => simp [fillIn, found]
    | some v =>
      have refound : Document.element ⟨Value.insertEntry name (v.fill rs) d.entries⟩ name =
          some (v.fill rs) := Value.lookup_insertEntry_self name _ d.entries
      simp [fillIn, found, refound, Value.fill_fill, Value.insertEntry_insertEntry]
  | path p =>
    cases found : d.get p with
    | none => simp [fillIn, found]
    | some v =>
      cases v with
      | string s =>
        simp [fillIn, found, get_assignParts_of_get found, ColonPath.assignParts_assignParts]
      | null | bool _ | number _ | sequence _ | mapping _ => simp [fillIn, found]

theorem refusal_fillIn (d : Document) (scope : Scope) (rs : List String) :
    (d.fillIn scope rs).refusal scope = d.refusal scope := by
  cases scope with
  | all | element _ => rfl
  | path p =>
    cases found : d.get p with
    | none => simp [fillIn, found]
    | some v =>
      cases v with
      | string s => simp [fillIn, refusal, found, get_assignParts_of_get found]
      | null | bool _ | number _ | sequence _ | mapping _ => simp [fillIn, found]

theorem leavesIn_fillIn {d : Document} {scope : Scope} {rs : List String}
    (counted : rs.length = (d.leavesIn scope).length) : (d.fillIn scope rs).leavesIn scope = rs := by
  cases scope with
  | all => exact d.leaves_fill counted
  | element name =>
    cases found : d.element name with
    | none =>
      simp only [leavesIn, found, List.length_nil, List.length_eq_zero_iff] at counted
      simp [fillIn, leavesIn, found, counted]
    | some v =>
      simp only [leavesIn, found] at counted
      have refound : Document.element ⟨Value.insertEntry name (v.fill rs) d.entries⟩ name =
          some (v.fill rs) := Value.lookup_insertEntry_self name _ d.entries
      simp [fillIn, leavesIn, found, refound, Value.leaves_fill v rs counted]
  | path p =>
    cases found : d.get p with
    | none =>
      simp only [leavesIn, found, List.length_nil, List.length_eq_zero_iff] at counted
      simp [fillIn, leavesIn, found, counted]
    | some v =>
      cases v with
      | string s =>
        -- the path covers one string, so there is one answer
        simp only [leavesIn, found, List.length_singleton, List.length_eq_one_iff] at counted
        obtain ⟨r, rfl⟩ := counted
        simp [fillIn, leavesIn, found, get_assignParts_of_get found]
      | null | bool _ | number _ | sequence _ | mapping _ =>
        simp only [leavesIn, found, List.length_nil, List.length_eq_zero_iff] at counted
        simp [fillIn, leavesIn, found, counted]

end Document

namespace Mock

def counting (keys : MockKeys) : KeyBackend (StateM Nat) := backend keys (modify (· + 1))

def answer (keys : MockKeys) : Action → String → Except CipherError String
  | .encrypt, s => if Armor.isEncrypted s then .ok s else .ok (Armor.encode keys.key s)
  | .decrypt, s => if Armor.isEncrypted s then Armor.decrypt keys.secrets s else .ok s
  | .rotate, s =>
    (if Armor.isEncrypted s then Armor.decrypt keys.secrets s else .ok s).map
      (Armor.encode keys.key)
  | .identify, s => if Armor.isEncrypted s then Armor.keyOf s else .error .notEncrypted

/-- The calls an action makes at a string: none to encrypt a message or to decrypt plaintext,
and two to rotate a message that decrypts. -/
def cost (keys : MockKeys) : Action → String → Nat
  | .encrypt, s => if Armor.isEncrypted s then 0 else 1
  | .decrypt, s => if Armor.isEncrypted s then 1 else 0
  | .rotate, s => if Armor.isEncrypted s && (Armor.decrypt keys.secrets s).isOk then 2 else 1
  | .identify, s => if Armor.isEncrypted s then 1 else 0

def reached (keys : MockKeys) (a : Action) : List String → List String
  | [] => []
  | s :: rest => s :: if (answer keys a s).isOk then reached keys a rest else []

def leafAnswer (keys : MockKeys) (a : Action) (s : String) : Except Error String :=
  (answer keys a s).mapError .cipher

theorem applyScalar_counting (keys : MockKeys) (a : Action) (s : String) (n : Nat) :
    (a.applyScalar (counting keys) s).run n = pure (answer keys a s, n + cost keys a s) := by
  by_cases encrypted : Armor.isEncrypted s
  · cases a with
    | rotate =>
      cases decrypted : Armor.decrypt keys.secrets s <;>
        simp [Action.applyScalar, Action.decryptValue, counting, backend, answer, cost,
          encrypted, decrypted, Except.map, Except.isOk, Except.toBool, Nat.add_assoc]
    | encrypt | decrypt | identify =>
      simp [Action.applyScalar, Action.encryptValue, Action.decryptValue, counting, backend,
        answer, cost, encrypted]
  · cases a <;>
      simp [Action.applyScalar, Action.encryptValue, Action.decryptValue, counting, backend,
        answer, cost, encrypted, Except.map]

theorem leafCall_counting (keys : MockKeys) (a : Action) (s : String) (n : Nat) :
    (Walk.leafCall (counting keys) a s).run.run n =
      pure (leafAnswer keys a s, n + cost keys a s) := by
  simp [Walk.leafCall, Walk.call, leafAnswer, applyScalar_counting]

theorem mapM_counting (keys : MockKeys) (a : Action) : (l : List String) → (n : Nat) →
    (l.mapM (Walk.leafCall (counting keys) a)).run.run n =
      pure (l.mapM (leafAnswer keys a), n + ((reached keys a l).map (cost keys a)).sum)
  | [], n => rfl
  | s :: rest, n => by
    have first := leafCall_counting keys a s n
    cases answered : answer keys a s with
    | error e =>
      have failed : leafAnswer keys a s = .error (.cipher e) := by
        simp [leafAnswer, answered, Except.mapError]
      rw [List.mapM_cons, ExceptT.run_bind, StateT.run_bind, first]
      simp [failed, reached, answered, Except.isOk, Except.toBool]
    | ok r =>
      have succeeded : leafAnswer keys a s = .ok r := by
        simp [leafAnswer, answered, Except.mapError]
      have later := mapM_counting keys a rest (n + cost keys a s)
      rw [List.mapM_cons, ExceptT.run_bind, StateT.run_bind, first]
      simp [succeeded, reached, answered, Except.isOk, Except.toBool]
      rw [later]
      simp only [map_pure, Nat.add_assoc]
      rfl

theorem traverse_counting {β : Type} (keys : MockKeys) (a : Action) (l : List String)
    (f : List String → β) (n : Nat) :
    (l.mapM (Walk.leafCall (counting keys) a) >>= fun rs => pure (f rs)).run.run n =
      pure (f <$> l.mapM (leafAnswer keys a), n + ((reached keys a l).map (cost keys a)).sum) := by
  rw [ExceptT.run_bind, StateT.run_bind, mapM_counting]
  cases l.mapM (leafAnswer keys a) <;> simp

theorem perform_all_counting (keys : MockKeys) (d : Document) {a : Action}
    (rewrites : a.transforms = true) (n : Nat) :
    (Walk.perform (counting keys) Tracer.silent d a .all).run.run n =
      pure ((fun rs => Outcome.document (d.fill rs)) <$> d.leaves.mapM (leafAnswer keys a),
        n + ((reached keys a d.leaves).map (cost keys a)).sum) := by
  obtain ⟨span, walked⟩ := Walk.perform_all_eq_traverse (counting keys) Tracer.silent d rewrites
  rw [walked]
  exact traverse_counting keys a d.leaves _ n

def outcome (keys : MockKeys) (a : Action) (d : Document) : Scope → Except Error Outcome
  | .all => (fun rs => .document (d.fill rs)) <$> d.leaves.mapM (leafAnswer keys a)
  | .element name =>
    match d.element name with
    | some v =>
      (fun rs => .document ⟨Value.insertEntry name (v.fill rs) d.entries⟩) <$>
        v.leaves.mapM (leafAnswer keys a)
    | none => .ok (.document d)
  | .path p =>
    match d.get p with
    | none => .error (.path (.notFound p.display))
    | some (.string s) =>
      leafAnswer keys a s >>= fun r =>
        match d.set p (.string r) with
        | .ok e => .ok (.document e)
        | .error e => .error (.path e)
    | some .null => .ok (.document d)
    | some _ => .error (.path (.notScalar p.display))

theorem outcome_of_refusal {keys : MockKeys} {a : Action} {d : Document} {scope : Scope}
    {e : Error} (refused : d.refusal scope = some e) : outcome keys a d scope = .error e := by
  cases scope with
  | all | element _ => cases refused
  | path p =>
    cases found : d.get p with
    | none =>
      simp only [Document.refusal, found, Option.some.injEq] at refused
      simp [outcome, found, refused]
    | some v =>
      cases v with
      | string _ | null => simp [Document.refusal, found] at refused
      | bool _ | number _ | sequence _ | mapping _ =>
        simp only [Document.refusal, found, Option.some.injEq] at refused
        simp [outcome, found, refused]

theorem outcome_of_accepted {keys : MockKeys} {a : Action} {d : Document} {scope : Scope}
    (accepted : d.refusal scope = none) :
    outcome keys a d scope =
      (fun rs => .document (d.fillIn scope rs)) <$> (d.leavesIn scope).mapM (leafAnswer keys a) := by
  cases scope with
  | all => rfl
  | element name =>
    cases found : d.element name with
    | none =>
      simp [outcome, Document.fillIn, Document.leavesIn, found]
      rfl
    | some v => simp [outcome, Document.fillIn, Document.leavesIn, found]
  | path p =>
    cases found : d.get p with
    | none => simp [Document.refusal, found] at accepted
    | some v =>
      cases v with
      | string s =>
        -- the one answer is written at the path, where a write cannot fail
        simp only [outcome, Document.fillIn, Document.leavesIn, found, Document.set_of_get found,
          List.mapM_cons, List.mapM_nil]
        cases leafAnswer keys a s <;> rfl
      | null =>
        simp [outcome, Document.fillIn, Document.leavesIn, found]
        rfl
      | bool _ | number _ | sequence _ | mapping _ => simp [Document.refusal, found] at accepted

theorem atPath_counting (keys : MockKeys) (d : Document) (p : ColonPath) {a : Action}
    (rewrites : a.transforms = true) (n : Nat) :
    (Walk.atPath (counting keys) d a p).run.run n = pure (outcome keys a d (.path p),
      n + ((reached keys a (d.leavesIn (.path p))).map (cost keys a)).sum) := by
  have keeps := Action.beq_identify_of_transforms rewrites
  cases found : d.get p with
  | none => simp [Walk.atPath, found, outcome, Document.leavesIn, reached]
  | some v =>
    cases v with
    | string s =>
      have call : Walk.call (a.applyScalar (counting keys) s) = Walk.leafCall (counting keys) a s :=
        rfl
      -- the path covers its one string, which is always reached
      have counted : ((reached keys a (d.leavesIn (.path p))).map (cost keys a)).sum =
          cost keys a s := by
        simp [Document.leavesIn, found, reached]
      simp only [Walk.atPath, found, pure_bind, call, keeps]
      rw [ExceptT.run_bind, StateT.run_bind, leafCall_counting, counted]
      cases answered : leafAnswer keys a s with
      | error e => simp [outcome, found, answered]
      | ok r => cases written : d.set p (.string r) <;> simp [outcome, found, answered, written]
    | null => simp [Walk.atPath, found, outcome, rewrites, Document.leavesIn, reached]
    | bool _ | number _ =>
      cases a with
      | identify => cases rewrites
      | encrypt | decrypt | rotate => simp [Walk.atPath, found, outcome, Document.leavesIn, reached]
    | sequence _ | mapping _ => simp [Walk.atPath, found, outcome, Document.leavesIn, reached]

/-- The calls a walk with a rewriting action makes: the cost of every string its scope covers, up
to and including the first that fails. -/
theorem perform_counting_leavesIn (keys : MockKeys) (d : Document) {a : Action}
    (rewrites : a.transforms = true) (scope : Scope) (n : Nat) :
    (Walk.perform (counting keys) Tracer.silent d a scope).run.run n =
      pure (outcome keys a d scope,
        n + ((reached keys a (d.leavesIn scope)).map (cost keys a)).sum) := by
  cases scope with
  | all => exact perform_all_counting keys d rewrites n
  | path p => simpa [Walk.perform, Tracer.silent] using atPath_counting keys d p rewrites n
  | element name =>
    cases a with
    | identify => cases rewrites
    | encrypt | decrypt | rotate =>
      cases found : d.element name with
      | none => simp [Walk.perform, found, outcome, Tracer.silent, Document.leavesIn, reached]
      | some v =>
        simp only [Walk.perform, found, Walk.value_eq_traverse, bind_assoc, pure_bind,
          Tracer.silent, ExceptT.run_mk]
        rw [traverse_counting]
        simp only [outcome, found, Document.leavesIn]

theorem perform_counting (keys : MockKeys) (d : Document) {a : Action}
    (rewrites : a.transforms = true) (scope : Scope) (n : Nat) :
    ∃ calls : Nat, (Walk.perform (counting keys) Tracer.silent d a scope).run.run n =
      pure (outcome keys a d scope, n + calls) :=
  ⟨_, perform_counting_leavesIn keys d rewrites scope n⟩

end Mock

namespace Walk

/-- How a walk over the whole document with action `a` goes. With any backend, in any monad, it
asks about the document's strings in order, stopping at the first failure, and refills the
document with the answers; refilling keeps the skeleton and puts the answers at the leaves; and
the counted test backend is called once for each call made at the strings reached. -/
def WalksLeaves (d : Document) (a : Action) : Prop :=
  (∀ {m : Type → Type} [Monad m] [LawfulMonad m] (kb : KeyBackend m) (tr : Tracer m),
    ∃ span : Span, perform kb tr d a .all = ExceptT.mk (tr.within span (ExceptT.run
      (d.leaves.mapM (leafCall kb a) >>= fun rs => pure (Outcome.document (d.fill rs)))))) ∧
  (∀ rs : List String, rs.length = d.leaves.length →
    (d.fill rs).leaves = rs ∧ (d.fill rs).skeleton = d.skeleton) ∧
  (∀ (keys : MockKeys) (n : Nat),
    (perform (Mock.counting keys) Tracer.silent d a .all).run.run n =
      pure ((fun rs => Outcome.document (d.fill rs)) <$> d.leaves.mapM (Mock.leafAnswer keys a),
        n + ((Mock.reached keys a d.leaves).map (Mock.cost keys a)).sum))

theorem perform_all_walks_leaves (d : Document) {a : Action} (rewrites : a.transforms = true) :
    WalksLeaves d a :=
  ⟨fun kb tr => perform_all_eq_traverse kb tr d rewrites,
    fun _ counted => ⟨d.leaves_fill counted, d.skeleton_fill _⟩,
    fun keys n => Mock.perform_all_counting keys d rewrites n⟩

theorem walks_leaves_encrypting_pillar : Action.encrypt.transforms = true ∧
    WalksLeaves ⟨[("db", .mapping [("password", .string "hunter2"),
        ("port", .number (.unsigned 5432))]),
      ("hosts", .sequence [.string "a", .null, .string "b"])]⟩ .encrypt :=
  ⟨rfl, perform_all_walks_leaves _ rfl⟩

end Walk

end SealedPillar
