import SealedPillar.Proofs.Leaves

/-!
A walk is the traversal of a value's leaves.

Walking a value with an action asks the backend about each string leaf once, in the order
`Value.leaves` lists them, and rebuilds the value from the answers (`value_eq_traverse`). In
`ExceptT` the calls stop at the first that fails, and its error is the walk's, so no later leaf is
asked; when every call succeeds the walk gives the value refilled with the answers. Over the
whole document a rewriting action is this traversal of the document's leaves, run inside the
walk's span (`perform_all_eq_traverse`).
-/

namespace SealedPillar

namespace Walk

variable {m : Type → Type} [Monad m] [LawfulMonad m]

def leafCall (kb : KeyBackend m) (a : Action) (s : String) : ExceptT Error m String :=
  call (a.applyScalar kb s)

theorem mapM_bind_congr_length {n : Type → Type} [Monad n] [LawfulMonad n] {α β γ : Type}
    (f : α → n β) {g g' : List β → n γ} :
    (l : List α) → (∀ rs, rs.length = l.length → g rs = g' rs) → l.mapM f >>= g = l.mapM f >>= g'
  | [], same => by simp [same [] rfl]
  | x :: l, same => by
    simp only [List.mapM_cons, bind_assoc, pure_bind]
    congr 1
    funext r
    exact mapM_bind_congr_length f l fun rs counted => same (r :: rs) (by simp [counted])

mutual

theorem value_eq_traverse (kb : KeyBackend m) (a : Action) : (v : Value) →
    value kb a v = v.leaves.mapM (leafCall kb a) >>= fun rs => pure (v.fill rs)
  | .string s => by simp [value, Value.leaves, Value.fill, leafCall]
  | .sequence xs => by
    simp [value, Value.leaves, Value.fill, items_eq_traverse kb a xs]
  | .mapping es => by
    simp [value, Value.leaves, Value.fill, entries_eq_traverse kb a es]
  | .null => by simp [value, Value.leaves, Value.fill]
  | .bool _ => by simp [value, Value.leaves, Value.fill]
  | .number _ => by simp [value, Value.leaves, Value.fill]

theorem items_eq_traverse (kb : KeyBackend m) (a : Action) : (xs : List Value) →
    items kb a xs = (Value.itemLeaves xs).mapM (leafCall kb a) >>= fun rs =>
      pure (Value.fillItems xs rs)
  | [] => by simp [items, Value.itemLeaves, Value.fillItems]
  | x :: xs => by
    rw [items, value_eq_traverse kb a x, items_eq_traverse kb a xs]
    simp only [Value.itemLeaves, List.mapM_append, bind_assoc, pure_bind]
    -- the first item's answers are exactly as many as its leaves, so they split off the front
    refine mapM_bind_congr_length _ _ fun front counted => ?_
    congr 1
    funext back
    simp [Value.fillItems, List.take_left' counted, List.drop_left' counted]

theorem entries_eq_traverse (kb : KeyBackend m) (a : Action) : (es : List (String × Value)) →
    entries kb a es = (Value.entryLeaves es).mapM (leafCall kb a) >>= fun rs =>
      pure (Value.fillEntries es rs)
  | [] => by simp [entries, Value.entryLeaves, Value.fillEntries]
  | (k, v) :: es => by
    rw [entries, value_eq_traverse kb a v, entries_eq_traverse kb a es]
    simp only [Value.entryLeaves, List.mapM_append, bind_assoc, pure_bind]
    refine mapM_bind_congr_length _ _ fun front counted => ?_
    congr 1
    funext back
    simp [Value.fillEntries, List.take_left' counted, List.drop_left' counted]

end

/-- Over the whole document an action that rewrites is the traversal of the document's leaves,
inside the walk's span. -/
theorem perform_all_eq_traverse (kb : KeyBackend m) (tr : Tracer m) (d : Document) {a : Action}
    (rewrites : a.transforms = true) :
    ∃ span : Span, perform kb tr d a .all = ExceptT.mk (tr.within span (ExceptT.run
      (d.leaves.mapM (leafCall kb a) >>= fun rs => pure (Outcome.document (d.fill rs))))) := by
  cases a with
  | identify => cases rewrites
  | encrypt | decrypt | rotate =>
    exact ⟨_, by simp only [perform, entries_eq_traverse, bind_assoc, pure_bind]; rfl⟩

end Walk

end SealedPillar
