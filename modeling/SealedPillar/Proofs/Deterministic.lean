import SealedPillar.Proofs.KeyReports
import SealedPillar.Proofs.EncryptDecrypt

/-!
Backends whose answers do not depend on their state.

A backend in a state monad is deterministic when each call answers the same from every state; its
state may still change, as the test backend's counter of calls does. Its answers from any one
state make a backend of its own that keeps no state (`KeyBackend.frozen`), and a walk with the
deterministic backend, from every state, gives what the walk with the frozen backend gives
(`perform_frozen`): its result depends on the document alone.

A rewriting walk with a backend that keeps no state succeeds exactly when every string it reaches
is answered, and then it writes each string's answer in place of the string (`Value.mapLeaves`,
`value_ok`, `value_ok_of_answered`).
-/

namespace SealedPillar

namespace KeyBackend

variable {σ : Type}

structure Deterministic (kb : KeyBackend (StateM σ)) : Prop where
  encrypt : ∀ s st st', ((kb.encrypt s).run st).1 = ((kb.encrypt s).run st').1
  decrypt : ∀ s st st', ((kb.decrypt s).run st).1 = ((kb.decrypt s).run st').1
  keyIdentity : ∀ s st st', ((kb.keyIdentity s).run st).1 = ((kb.keyIdentity s).run st').1

def frozen (kb : KeyBackend (StateM σ)) (st : σ) : KeyBackend Id where
  name := kb.name
  encrypt s := ((kb.encrypt s).run st).1
  decrypt s := ((kb.decrypt s).run st).1
  keyIdentity s := ((kb.keyIdentity s).run st).1

end KeyBackend

theorem Mock.counting_deterministic (keys : MockKeys) : (Mock.counting keys).Deterministic where
  encrypt _ _ _ := rfl
  decrypt _ _ _ := rfl
  keyIdentity _ _ _ := rfl

namespace Walk

def Agrees {ε σ α : Type} (x : ExceptT ε (StateM σ) α) (y : ExceptT ε Id α) : Prop :=
  ∀ st, (x.run.run st).1 = y.run

section Agrees

variable {ε σ α β γ : Type}

theorem agrees_pure (a : α) : Agrees (pure a : ExceptT ε (StateM σ) α) (pure a) := fun _ => rfl

theorem agrees_throw (e : ε) : Agrees (throw e : ExceptT ε (StateM σ) α) (throw e) := fun _ => rfl

theorem agrees_bind {x : ExceptT ε (StateM σ) α} {y : ExceptT ε Id α}
    {f : α → ExceptT ε (StateM σ) β} {g : α → ExceptT ε Id β} (first : Agrees x y)
    (rest : ∀ a, Agrees (f a) (g a)) : Agrees (x >>= f) (y >>= g) := by
  intro st
  rw [run_run_bind, run_bind_id, ← first st]
  rcases x.run.run st with ⟨_ | a, st'⟩
  · rfl
  · exact rest a st'

theorem agrees_throw_bind (e : ε) (f : α → ExceptT ε (StateM σ) β) (g : α → ExceptT ε Id β) :
    Agrees (throw e >>= f) (throw e >>= g) := fun _ => rfl

theorem agrees_map {x : ExceptT ε (StateM σ) α} {y : ExceptT ε Id α} (f : α → β)
    (same : Agrees x y) : Agrees (f <$> x) (f <$> y) := by
  rw [map_eq_pure_bind, map_eq_pure_bind]
  exact agrees_bind same fun a => agrees_pure (f a)

theorem agrees_mapM {f : γ → ExceptT ε (StateM σ) α} {g : γ → ExceptT ε Id α}
    (each : ∀ c, Agrees (f c) (g c)) : (l : List γ) → Agrees (l.mapM f) (l.mapM g)
  | [] => agrees_pure []
  | c :: l => by
    rw [List.mapM_cons, List.mapM_cons]
    exact agrees_bind (each c) fun a =>
      agrees_bind (agrees_mapM each l) fun as => agrees_pure (a :: as)

theorem agrees_foldlM {f : α → γ → ExceptT ε (StateM σ) α} {g : α → γ → ExceptT ε Id α}
    (each : ∀ a c, Agrees (f a c) (g a c)) : (l : List γ) → (a : α) →
      Agrees (l.foldlM f a) (l.foldlM g a)
  | [], a => agrees_pure a
  | c :: l, a => by
    rw [List.foldlM_cons, List.foldlM_cons]
    exact agrees_bind (each a c) fun next => agrees_foldlM each l next

end Agrees

section Frozen

variable {σ : Type} {kb : KeyBackend (StateM σ)} (det : kb.Deterministic) (st₀ : σ)
include det

theorem applyScalar_frozen (a : Action) (s : String) (st : σ) :
    ((a.applyScalar kb s).run st).1 = a.applyScalar (kb.frozen st₀) s := by
  cases a with
  | encrypt =>
    cases encrypted : Armor.isEncrypted s
    · simp only [Action.applyScalar, Action.encryptValue, encrypted]
      exact det.encrypt s st st₀
    · simp only [Action.applyScalar, Action.encryptValue, encrypted]
      rfl
  | decrypt =>
    cases encrypted : Armor.isEncrypted s
    · simp only [Action.applyScalar, Action.decryptValue, encrypted]
      rfl
    · simp only [Action.applyScalar, Action.decryptValue, encrypted]
      exact det.decrypt s st st₀
  | rotate =>
    cases encrypted : Armor.isEncrypted s
    · simp only [Action.applyScalar, Action.decryptValue, encrypted]
      exact det.encrypt s st st₀
    · -- the decryption answers the same from every state, and so does the encryption after it
      simp only [Action.applyScalar, Action.decryptValue, encrypted, if_true, StateT.run_bind]
      have answer := det.decrypt s st st₀
      rcases decrypted : (kb.decrypt s).run st with ⟨failure | plain, st'⟩
      · have frozen : (kb.frozen st₀).decrypt s = Except.error failure := by
          show ((kb.decrypt s).run st₀).1 = _
          rw [← answer, decrypted]
        rw [frozen]
        rfl
      · have frozen : (kb.frozen st₀).decrypt s = Except.ok plain := by
          show ((kb.decrypt s).run st₀).1 = _
          rw [← answer, decrypted]
        rw [frozen]
        exact det.encrypt plain st' st₀
  | identify =>
    cases encrypted : Armor.isEncrypted s
    · simp only [Action.applyScalar, encrypted]
      rfl
    · simp only [Action.applyScalar, encrypted]
      exact det.keyIdentity s st st₀

theorem agrees_leafCall (a : Action) (s : String) :
    Agrees (leafCall kb a s) (leafCall (kb.frozen st₀) a s) := by
  intro st
  show Except.mapError Error.cipher ((a.applyScalar kb s).run st).1 =
    Except.mapError Error.cipher (a.applyScalar (kb.frozen st₀) s : Id (Except CipherError String))
  rw [applyScalar_frozen det st₀ a s st]

theorem agrees_value (a : Action) (v : Value) :
    Agrees (value kb a v) (value (kb.frozen st₀) a v) := by
  rw [value_eq_traverse, value_eq_traverse]
  exact agrees_bind (agrees_mapM (agrees_leafCall det st₀ a) _) fun rs => agrees_pure _

theorem agrees_entries (a : Action) (es : List (String × Value)) :
    Agrees (entries kb a es) (entries (kb.frozen st₀) a es) := by
  rw [entries_eq_traverse, entries_eq_traverse]
  exact agrees_bind (agrees_mapM (agrees_leafCall det st₀ a) _) fun rs => agrees_pure _

theorem agrees_collectStep (report : KeyReport) (leaf : String × String) :
    Agrees (collectStep kb report leaf) (collectStep (kb.frozen st₀) report leaf) := by
  unfold collectStep
  cases encrypted : Armor.isEncrypted leaf.2
  · exact agrees_pure report
  · -- the identity call is the leaf call of identifying, at a message
    have asks : ∀ {m : Type → Type} [Monad m] (kb : KeyBackend m),
        call (kb.keyIdentity leaf.2) = leafCall kb .identify leaf.2 := by
      intro m _ kb
      simp [leafCall, Action.applyScalar, encrypted]
    rw [if_pos rfl, if_pos rfl, asks, asks]
    exact agrees_map _ (agrees_leafCall det st₀ .identify leaf.2)

theorem agrees_collect (pfx : String) (report : KeyReport) (v : Value) :
    Agrees (collect kb Tracer.silent pfx report v)
      (collect (kb.frozen st₀) Tracer.silent pfx report v) := by
  rw [collect_eq_foldlM, collect_eq_foldlM]
  exact agrees_foldlM (agrees_collectStep det st₀) _ report

theorem agrees_collectTop (report : KeyReport) (es : List (String × Value)) :
    Agrees (collectTop kb Tracer.silent report es)
      (collectTop (kb.frozen st₀) Tracer.silent report es) := by
  rw [collectTop_eq_foldlM, collectTop_eq_foldlM]
  exact agrees_foldlM (agrees_collectStep det st₀) _ report

theorem agrees_atPath (d : Document) (a : Action) (p : ColonPath) :
    Agrees (atPath kb d a p) (atPath (kb.frozen st₀) d a p) := by
  -- which string the path names, or why it names none, is read off the document alone
  cases found : d.get p with
  | none =>
    simp only [atPath, found]
    exact agrees_throw_bind _ _ _
  | some v =>
    cases v with
    | string s =>
      simp only [atPath, found, pure_bind]
      refine agrees_bind (agrees_leafCall det st₀ a s) fun r => ?_
      split
      · exact agrees_pure _
      · split
        · exact agrees_pure _
        · exact agrees_throw _
    | null =>
      cases a <;> simp [atPath, found, Action.transforms] <;>
        first | exact agrees_pure _ | exact agrees_throw _
    | bool _ | number _ | sequence _ | mapping _ =>
      cases a <;> simp only [atPath, found] <;> exact agrees_throw_bind _ _ _

/-- A walk with a deterministic backend gives, from every state, what the walk with its answers
from any one state gives. -/
theorem perform_frozen (d : Document) (a : Action) (scope : Scope) :
    Agrees (perform kb Tracer.silent d a scope) (perform (kb.frozen st₀) Tracer.silent d a scope) := by
  cases scope with
  | path p =>
    rw [perform_silent_path, perform_silent_path]
    exact agrees_atPath det st₀ d a p
  | all =>
    cases a with
    | identify =>
      rw [perform_silent_identify_all, perform_silent_identify_all]
      exact agrees_map _ (agrees_collectTop det st₀ [] d.entries)
    | encrypt | decrypt | rotate =>
      rw [perform_silent_all _ _ rfl, perform_silent_all _ _ rfl]
      exact agrees_map _ (agrees_entries det st₀ _ d.entries)
  | element name =>
    cases a with
    | identify =>
      rw [perform_silent_identify_element, perform_silent_identify_element]
      cases d.element name with
      | none => exact agrees_map _ (agrees_pure [])
      | some v => exact agrees_map _ (agrees_collect det st₀ name [] v)
    | encrypt | decrypt | rotate =>
      cases found : d.element name with
      | none =>
        rw [perform_silent_element_absent _ _ rfl found, perform_silent_element_absent _ _ rfl found]
        exact agrees_pure _
      | some v =>
        rw [perform_silent_element _ _ rfl found, perform_silent_element _ _ rfl found]
        exact agrees_map _ (agrees_value det st₀ _ v)

end Frozen

end Walk

namespace Value

mutual

def mapLeaves (f : String → String) : Value → Value
  | .string s => .string (f s)
  | .sequence xs => .sequence (mapItemLeaves f xs)
  | .mapping es => .mapping (mapEntryLeaves f es)
  | .null => .null
  | .bool b => .bool b
  | .number n => .number n

def mapItemLeaves (f : String → String) : List Value → List Value
  | [] => []
  | x :: xs => mapLeaves f x :: mapItemLeaves f xs

def mapEntryLeaves (f : String → String) : List (String × Value) → List (String × Value)
  | [] => []
  | (k, v) :: es => (k, mapLeaves f v) :: mapEntryLeaves f es

end

mutual

theorem fill_map_leaves (f : String → String) : (v : Value) →
    v.fill (v.leaves.map f) = v.mapLeaves f
  | .string _ => rfl
  | .sequence xs => by simp only [fill, leaves, mapLeaves, fillItems_map_itemLeaves f xs]
  | .mapping es => by simp only [fill, leaves, mapLeaves, fillEntries_map_entryLeaves f es]
  | .null => rfl
  | .bool _ => rfl
  | .number _ => rfl

theorem fillItems_map_itemLeaves (f : String → String) : (xs : List Value) →
    fillItems xs ((itemLeaves xs).map f) = mapItemLeaves f xs
  | [] => rfl
  | x :: xs => by
    simp only [fillItems, itemLeaves, mapItemLeaves, List.map_append,
      List.take_left' (List.length_map f), List.drop_left' (List.length_map f), fill_map_leaves,
      fillItems_map_itemLeaves f xs]

theorem fillEntries_map_entryLeaves (f : String → String) : (es : List (String × Value)) →
    fillEntries es ((entryLeaves es).map f) = mapEntryLeaves f es
  | [] => rfl
  | (_, v) :: es => by
    simp only [fillEntries, entryLeaves, mapEntryLeaves, List.map_append,
      List.take_left' (List.length_map f), List.drop_left' (List.length_map f), fill_map_leaves,
      fillEntries_map_entryLeaves f es]

end

theorem lookup_mapEntryLeaves (f : String → String) (k : String) :
    (es : List (String × Value)) → lookup k (mapEntryLeaves f es) = (lookup k es).map (mapLeaves f)
  | [] => rfl
  | (k2, v2) :: es => by
    by_cases same : k = k2
    · subst same
      simp [mapEntryLeaves]
    · simp [mapEntryLeaves, lookup_cons_of_ne same, lookup_mapEntryLeaves f k es]

end Value

namespace ColonPath

theorem resolveParts_mapEntryLeaves (f : String → String) : (parts : List String) →
    (es : List (String × Value)) →
      resolveParts parts (Value.mapEntryLeaves f es) = (resolveParts parts es).map (Value.mapLeaves f)
  | [], _ => rfl
  | [k], es => Value.lookup_mapEntryLeaves f k es
  | k :: k2 :: rest, es => by
    simp only [resolveParts, Value.lookup_mapEntryLeaves]
    cases Value.lookup k es with
    | none => rfl
    | some v =>
      cases v with
      | mapping inner => exact resolveParts_mapEntryLeaves f (k2 :: rest) inner
      | null | bool _ | number _ | string _ | sequence _ => rfl

end ColonPath

namespace Document

def mapLeaves (f : String → String) (d : Document) : Document := ⟨Value.mapEntryLeaves f d.entries⟩

theorem fill_map_leaves (f : String → String) (d : Document) :
    d.fill (d.leaves.map f) = d.mapLeaves f :=
  congrArg Document.mk (Value.fillEntries_map_entryLeaves f d.entries)

theorem get_mapLeaves (f : String → String) (d : Document) (p : ColonPath) :
    (d.mapLeaves f).get p = (d.get p).map (Value.mapLeaves f) :=
  ColonPath.resolveParts_mapEntryLeaves f p.parts d.entries

theorem element_mapLeaves (f : String → String) (d : Document) (name : String) :
    (d.mapLeaves f).element name = (d.element name).map (Value.mapLeaves f) :=
  Value.lookup_mapEntryLeaves f name d.entries

end Document

namespace Walk

variable (o : KeyBackend Id) (a : Action)

def answered (s : String) : String :=
  match (leafCall o a s).run with
  | .ok r => r
  | .error _ => s

def Answered (l : List String) : Prop := ∀ s ∈ l, (leafCall o a s).run = .ok (answered o a s)

variable {o a}

theorem mapM_leafCall_ok : {l : List String} → {rs : List String} →
    (l.mapM (leafCall o a)).run = .ok rs → Answered o a l ∧ rs = l.map (answered o a)
  | [], rs, ran => ⟨(fun _ none => by cases none), (Except.ok.inj ran).symm⟩
  | s :: l, rs, ran => by
    rw [List.mapM_cons, run_bind_id] at ran
    cases first : (leafCall o a s).run with
    | error e =>
      rw [first] at ran
      cases ran
    | ok r =>
      rw [first] at ran
      dsimp only at ran
      rw [run_bind_id] at ran
      have named : answered o a s = r := by simp [answered, first]
      cases rest : (l.mapM (leafCall o a)).run with
      | error e =>
        rw [rest] at ran
        cases ran
      | ok rs' =>
        rw [rest] at ran
        obtain ⟨later, mapped⟩ := mapM_leafCall_ok rest
        refine ⟨fun t member => ?_, ?_⟩
        · rcases List.mem_cons.mp member with rfl | tail
          · rw [first, named]
          · exact later t tail
        · rw [← Except.ok.inj ran, mapped, List.map_cons, named]

theorem mapM_leafCall_of_answered : {l : List String} → Answered o a l →
    (l.mapM (leafCall o a)).run = .ok (l.map (answered o a))
  | [], _ => rfl
  | s :: l, answers => by
    rw [List.mapM_cons, run_bind_id, answers s List.mem_cons_self]
    dsimp only
    rw [run_bind_id,
      mapM_leafCall_of_answered fun t member => answers t (List.mem_cons_of_mem s member)]
    rfl

theorem value_ok {v w : Value} (ran : (value o a v).run = .ok w) :
    Answered o a v.leaves ∧ w = v.mapLeaves (answered o a) := by
  rw [value_eq_traverse, run_bind_id] at ran
  cases walked : (v.leaves.mapM (leafCall o a)).run with
  | error e =>
    rw [walked] at ran
    cases ran
  | ok rs =>
    rw [walked] at ran
    obtain ⟨answers, rfl⟩ := mapM_leafCall_ok walked
    exact ⟨answers, by rw [← Except.ok.inj ran, Value.fill_map_leaves]⟩

theorem value_ok_of_answered {v : Value} (answers : Answered o a v.leaves) :
    (value o a v).run = .ok (v.mapLeaves (answered o a)) := by
  rw [value_eq_traverse, run_bind_id, mapM_leafCall_of_answered answers, ← Value.fill_map_leaves]
  rfl

theorem entries_ok {es ws : List (String × Value)} (ran : (entries o a es).run = .ok ws) :
    Answered o a (Value.entryLeaves es) ∧ ws = Value.mapEntryLeaves (answered o a) es := by
  rw [entries_eq_traverse, run_bind_id] at ran
  cases walked : ((Value.entryLeaves es).mapM (leafCall o a)).run with
  | error e =>
    rw [walked] at ran
    cases ran
  | ok rs =>
    rw [walked] at ran
    obtain ⟨answers, rfl⟩ := mapM_leafCall_ok walked
    exact ⟨answers, by rw [← Except.ok.inj ran, Value.fillEntries_map_entryLeaves]⟩

end Walk

end SealedPillar
