import SealedPillar.Proofs.WalkCalls
import SealedPillar.Proofs.SortedDocuments

/-!
Decrypting after encrypting, with one test backend.

Encrypting seals every plaintext string for the backend's key and leaves messages as they are
(`Mock.sealed`). When the backend holds its key's secret and the key has no `:` and does not
start with a blank, decrypting a sealed string answers what decrypting the string itself answers
(`leafAnswer_decrypt_sealed`). A walk sees nothing of its strings but their answers, and a second
write at one key or path wins over the first, so encrypting a scope and then decrypting it gives
what decrypting it gives: the same document or the same first error (`decrypt_after_encrypt`).
A document without messages, whose mappings are in key order, then comes back unchanged, except
that a path scope naming nothing, or naming a value that is neither a string nor null, is refused
with the same error by both runs (`Walk.plainOutcome`).
-/

namespace SealedPillar

namespace MockKeys

theorem key_foldl_withSecret (extras : List String) (keys : MockKeys) :
    (extras.foldl withSecret keys).key = keys.key := by
  induction extras generalizing keys with
  | nil => rfl
  | cons extra extras ih => exact ih (keys.withSecret extra)

theorem mem_secrets_foldl_withSecret {keys : MockKeys} {secret : String}
    (held : secret ∈ keys.secrets) (extras : List String) :
    secret ∈ (extras.foldl withSecret keys).secrets := by
  induction extras generalizing keys with
  | nil => exact held
  | cons extra extras ih => exact ih (List.mem_append_left _ held)

end MockKeys

namespace Mock

/-- A backend that reads its own messages back: it holds its key's secret, and the key has no
colon and does not start with a blank. -/
structure ReadsOwn (keys : MockKeys) : Prop where
  held : keys.key ∈ keys.secrets
  noColon : ':' ∉ keys.key.toList
  lead : ∀ c ∈ keys.key.toList.head?, Text.isWhitespace c = false

theorem readsOwn_foldl_withSecret {key : String} (noColon : ':' ∉ key.toList)
    (lead : ∀ c ∈ key.toList.head?, Text.isWhitespace c = false) (extras : List String) :
    ReadsOwn (extras.foldl MockKeys.withSecret (MockKeys.single key)) where
  held := by
    rw [MockKeys.key_foldl_withSecret]
    exact MockKeys.mem_secrets_foldl_withSecret List.mem_cons_self extras
  noColon := by rw [MockKeys.key_foldl_withSecret]; exact noColon
  lead := by rw [MockKeys.key_foldl_withSecret]; exact lead

def sealed (keys : MockKeys) (s : String) : String :=
  if Armor.isEncrypted s then s else Armor.encode keys.key s

theorem leafAnswer_encrypt (keys : MockKeys) (s : String) :
    leafAnswer keys .encrypt s = .ok (sealed keys s) := by
  by_cases encrypted : Armor.isEncrypted s <;>
    simp [leafAnswer, answer, sealed, encrypted, Except.mapError]

theorem leafAnswer_decrypt_plain (keys : MockKeys) {s : String}
    (plain : Armor.isEncrypted s = false) : leafAnswer keys .decrypt s = .ok s := by
  simp [leafAnswer, answer, plain, Except.mapError]

theorem leafAnswer_decrypt_sealed {keys : MockKeys} (own : ReadsOwn keys) (s : String) :
    leafAnswer keys .decrypt (sealed keys s) = leafAnswer keys .decrypt s := by
  by_cases encrypted : Armor.isEncrypted s
  · simp [sealed, encrypted]
  · have plain : Armor.isEncrypted s = false := by simpa using encrypted
    rw [leafAnswer_decrypt_plain keys plain]
    simp [sealed, plain, leafAnswer, answer, Armor.isEncrypted_encode,
      Armor.decrypt_encode own.held own.noColon own.lead, Except.mapError]

theorem mapM_encrypt (keys : MockKeys) (l : List String) :
    l.mapM (leafAnswer keys .encrypt) = .ok (l.map (sealed keys)) := by
  have answers : leafAnswer keys .encrypt = fun s => pure (sealed keys s) :=
    funext (leafAnswer_encrypt keys)
  rw [answers, List.mapM_pure]
  rfl

theorem mapM_decrypt_sealed {keys : MockKeys} (own : ReadsOwn keys) (l : List String) :
    (l.map (sealed keys)).mapM (leafAnswer keys .decrypt) = l.mapM (leafAnswer keys .decrypt) := by
  have answers : leafAnswer keys .decrypt ∘ sealed keys = leafAnswer keys .decrypt :=
    funext (leafAnswer_decrypt_sealed own)
  rw [List.mapM_map, answers]

theorem mapM_decrypt_plain (keys : MockKeys) {l : List String}
    (plain : ∀ s ∈ l, Armor.isEncrypted s = false) : l.mapM (leafAnswer keys .decrypt) = .ok l := by
  induction l with
  | nil => rfl
  | cons s l ih =>
    rw [List.mapM_cons, leafAnswer_decrypt_plain keys (plain s List.mem_cons_self),
      ih fun t mem => plain t (List.mem_cons_of_mem s mem)]
    rfl

def reopen (keys : MockKeys) (scope : Scope) : Outcome → Except Error Outcome
  | .document e => outcome keys .decrypt e scope
  | .keys report => .ok (.keys report)

end Mock

namespace Value

theorem leaves_subset_of_mem {entry : String × Value} {es : List (String × Value)}
    (mem : entry ∈ es) : ∀ s ∈ entry.2.leaves, s ∈ entryLeaves es := by
  intro s leaf
  induction es with
  | nil => cases mem
  | cons head rest ih =>
    obtain ⟨k2, v2⟩ := head
    rcases List.mem_cons.mp mem with rfl | tail
    · exact List.mem_append_left _ leaf
    · exact List.mem_append_right _ (ih tail)

end Value

namespace ColonPath

theorem leaves_subset_of_resolveParts {parts : List String} {es : List (String × Value)}
    {v : Value} (found : resolveParts parts es = some v) :
    ∀ s ∈ v.leaves, s ∈ Value.entryLeaves es := by
  induction parts generalizing es with
  | nil => simp [resolveParts] at found
  | cons k rest ih =>
    cases rest with
    | nil => exact Value.leaves_subset_of_mem (Value.mem_of_lookup found)
    | cons k2 rest =>
      obtain ⟨inner, held, deeper⟩ := resolveParts_cons_cons found
      exact fun s leaf =>
        Value.leaves_subset_of_mem (Value.mem_of_lookup held) s (ih deeper s leaf)

end ColonPath

namespace Walk

def encryptThenDecrypt {m : Type → Type} [Monad m] (kb : KeyBackend m) (tr : Tracer m)
    (d : Document) (scope : Scope) : ExceptT Error m Outcome := do
  match ← perform kb tr d .encrypt scope with
  | .document e => perform kb tr e .decrypt scope
  | .keys report => pure (.keys report)

/-- What decrypting a scope of a document without messages gives: the document itself, unless a
path names nothing or a value that is neither a string nor null. -/
def plainOutcome (d : Document) : Scope → Except Error Outcome
  | .path p =>
    match d.get p with
    | none => .error (.path (.notFound p.display))
    | some (.string _) => .ok (.document d)
    | some .null => .ok (.document d)
    | some _ => .error (.path (.notScalar p.display))
  | .all => .ok (.document d)
  | .element _ => .ok (.document d)

end Walk

namespace Mock

theorem encryptThenDecrypt_counting (keys : MockKeys) (d : Document) (scope : Scope) (n : Nat) :
    ∃ calls : Nat, (Walk.encryptThenDecrypt (counting keys) Tracer.silent d scope).run.run n =
      pure (outcome keys .encrypt d scope >>= reopen keys scope, n + calls) := by
  obtain ⟨first, encrypted⟩ :=
    perform_counting keys d (show Action.encrypt.transforms = true from rfl) scope n
  unfold Walk.encryptThenDecrypt
  rw [ExceptT.run_bind, StateT.run_bind, encrypted]
  cases outcome keys .encrypt d scope with
  | error e => exact ⟨first, rfl⟩
  | ok o =>
    cases o with
    | keys report => exact ⟨first, rfl⟩
    | document e =>
      obtain ⟨second, decrypted⟩ := perform_counting keys e
        (show Action.decrypt.transforms = true from rfl) scope (n + first)
      refine ⟨first + second, ?_⟩
      simp only [pure_bind]
      rw [decrypted, Nat.add_assoc]
      rfl

theorem outcome_decrypt_after_encrypt {keys : MockKeys} (own : ReadsOwn keys) (d : Document)
    (scope : Scope) :
    (outcome keys .encrypt d scope >>= reopen keys scope) = outcome keys .decrypt d scope := by
  cases refused : d.refusal scope with
  | some e => rw [outcome_of_refusal refused, outcome_of_refusal refused]; rfl
  | none =>
    -- decrypting the encrypted scope reads the sealed strings, which decrypt as the strings do,
    -- and writes its answers over them
    have counted : ((d.leavesIn scope).map (sealed keys)).length = (d.leavesIn scope).length := by
      simp
    rw [outcome_of_accepted refused, outcome_of_accepted refused, mapM_encrypt]
    simp only [except_map_ok, except_ok_bind, reopen]
    rw [outcome_of_accepted ((d.refusal_fillIn scope _).trans refused),
      Document.leavesIn_fillIn counted, mapM_decrypt_sealed own]
    simp only [Document.fillIn_fillIn]

theorem outcome_decrypt_plain (keys : MockKeys) (d : OrderedDocument)
    (plain : ∀ s ∈ d.leaves, Armor.isEncrypted s = false) (scope : Scope) :
    outcome keys .decrypt d.toDocument scope = Walk.plainOutcome d.toDocument scope := by
  cases scope with
  | all => simp [outcome, mapM_decrypt_plain keys plain, Document.fill_leaves, Walk.plainOutcome]
  | element name =>
    cases found : d.element name with
    | none => simp [outcome, found, Walk.plainOutcome]
    | some v =>
      have valuePlain : ∀ s ∈ v.leaves, Armor.isEncrypted s = false :=
        fun s leaf => plain s (Value.leaves_subset_of_mem (Value.mem_of_lookup found) s leaf)
      have kept : Value.insertEntry name v d.entries = d.entries :=
        Value.insertEntry_of_lookup d.sorted found
      simp [outcome, found, mapM_decrypt_plain keys valuePlain, Value.fill_leaves, kept,
        Walk.plainOutcome]
  | path p =>
    cases found : d.get p with
    | none => simp [outcome, found, Walk.plainOutcome]
    | some v =>
      cases v with
      | string s =>
        have stringPlain : Armor.isEncrypted s = false :=
          plain s (ColonPath.leaves_subset_of_resolveParts found s (by simp [Value.leaves]))
        have kept : ColonPath.assignParts p.parts d.entries (.string s) = d.entries :=
          ColonPath.assignParts_of_resolveParts d.sorted d.below found
        simp [outcome, found, leafAnswer_decrypt_plain keys stringPlain, Document.set_of_get found,
          kept, Walk.plainOutcome]
      | null => simp [outcome, found, Walk.plainOutcome]
      | bool _ | number _ | sequence _ | mapping _ => simp [outcome, found, Walk.plainOutcome]

end Mock

namespace Walk

/-- With one test backend for a key that holds no colon and does not start with a blank, possibly
holding more secrets, encrypting a scope of any document and then decrypting it gives what
decrypting the scope gives, the same document or the same error; for a document without messages
whose maps are sorted, that is the plain outcome of the scope. -/
theorem decrypt_after_encrypt (key : String) (extras : List String) (noColon : ':' ∉ key.toList)
    (lead : ∀ c ∈ key.toList.head?, Text.isWhitespace c = false) (scope : Scope) (n : Nat) :
    let kb := Mock.counting (extras.foldl MockKeys.withSecret (MockKeys.single key))
    (∀ d : Document, ((encryptThenDecrypt kb Tracer.silent d scope).run.run n).1 =
      ((perform kb Tracer.silent d .decrypt scope).run.run n).1) ∧
    ∀ d : OrderedDocument, (∀ s ∈ d.leaves, Armor.isEncrypted s = false) →
      ((encryptThenDecrypt kb Tracer.silent d.toDocument scope).run.run n).1 =
        plainOutcome d.toDocument scope := by
  set keys := extras.foldl MockKeys.withSecret (MockKeys.single key)
  intro kb
  have own : Mock.ReadsOwn keys := Mock.readsOwn_foldl_withSecret noColon lead extras
  -- both runs give what the test backend's outcome of decrypting the scope is
  have same : ∀ d : Document,
      ((encryptThenDecrypt kb Tracer.silent d scope).run.run n).1 =
        Mock.outcome keys .decrypt d scope := by
    intro d
    obtain ⟨calls, composed⟩ := Mock.encryptThenDecrypt_counting keys d scope n
    simp only [kb, composed]
    exact Mock.outcome_decrypt_after_encrypt own d scope
  refine ⟨fun d => ?_, fun d plain => ?_⟩
  · obtain ⟨direct, decrypted⟩ := Mock.perform_counting keys d
      (show Action.decrypt.transforms = true from rfl) scope n
    simp only [same, kb, decrypted]
    rfl
  · rw [same]
    exact Mock.outcome_decrypt_plain keys d plain scope

theorem decrypt_after_encrypt_db_password :
    let d : OrderedDocument :=
      { entries := [("db", .string "hunter2")]
        sorted := List.pairwise_singleton _ _
        below := ⟨trivial, trivial⟩ }
    ':' ∉ "K1".toList ∧ (∀ c ∈ "K1".toList.head?, Text.isWhitespace c = false) ∧
      let kb := Mock.counting (["K2"].foldl MockKeys.withSecret (MockKeys.single "K1"))
      ((encryptThenDecrypt kb Tracer.silent d.toDocument (.path ⟨["db"]⟩)).run.run 0).1 =
          ((perform kb Tracer.silent d.toDocument .decrypt (.path ⟨["db"]⟩)).run.run 0).1 ∧
        ((∀ s ∈ d.leaves, Armor.isEncrypted s = false) →
          ((encryptThenDecrypt kb Tracer.silent d.toDocument (.path ⟨["db"]⟩)).run.run 0).1 =
            plainOutcome d.toDocument (.path ⟨["db"]⟩)) := by
  intro d
  have noColon : ':' ∉ "K1".toList := by decide
  have lead : ∀ c ∈ "K1".toList.head?, Text.isWhitespace c = false := fun c first => by
    simp at first
    subst first
    rfl
  obtain ⟨composed, plain⟩ := decrypt_after_encrypt "K1" ["K2"] noColon lead (.path ⟨["db"]⟩) 0
  exact ⟨noColon, lead, composed d.toDocument, plain d⟩

/-- A path scope that names nothing is refused by encrypting, so the document does not come back. -/
theorem encryptThenDecrypt_missing_path :
    ((encryptThenDecrypt (Mock.counting (MockKeys.single "K1")) Tracer.silent
      ⟨[("a", .string "x")]⟩ (.path ⟨["b"]⟩)).run.run 0).1 ≠
      .ok (.document ⟨[("a", .string "x")]⟩) := by
  intro same
  have refused : ((encryptThenDecrypt (Mock.counting (MockKeys.single "K1")) Tracer.silent
      ⟨[("a", .string "x")]⟩ (.path ⟨["b"]⟩)).run.run 0).1 = .error (.path (.notFound "b")) := rfl
  rw [refused] at same
  cases same

end Walk

end SealedPillar
