import SealedPillar.Proofs.Traversal
import SealedPillar.Proofs.PathWrites

/-!
What a walk runs for each scope when nothing is traced.

With the silent tracer the walk's span and its events vanish, and `Walk.perform` is the bare
computation of its scope: the entries walk over the whole document; under one name, the value
walk with its result written back under the name, or nothing when the name is absent; the walk of
the one value at a path. A path that names a string is walked by one call at that string, whose
answer is written back at the path; `Document.set` cannot fail there. Identifying collects the keys of the whole document, or of the value
under the name, into a report that starts empty.
-/

namespace SealedPillar

namespace Walk

section Runs

variable {ε σ α β : Type}

theorem run_run_bind (x : ExceptT ε (StateM σ) α) (f : α → ExceptT ε (StateM σ) β) (st : σ) :
    (x >>= f).run.run st = match x.run.run st with
      | (.ok a, st') => (f a).run.run st'
      | (.error e, st') => (.error e, st') := by
  rw [ExceptT.run_bind, StateT.run_bind]
  rcases x.run.run st with ⟨_ | _, _⟩ <;> rfl

theorem run_run_get_bind (f : σ → ExceptT ε (StateM σ) β) (st : σ) :
    (get >>= f : ExceptT ε (StateM σ) β).run.run st = (f st).run.run st := rfl

theorem run_bind_id (x : ExceptT ε Id α) (f : α → ExceptT ε Id β) :
    (x >>= f).run = match x.run with
      | .ok a => (f a).run
      | .error e => .error e := by
  rw [ExceptT.run_bind]
  cases x.run <;> rfl

end Runs

variable {m : Type → Type} [Monad m] (kb : KeyBackend m) (d : Document)

theorem perform_silent_path (a : Action) (p : ColonPath) :
    perform kb Tracer.silent d a (.path p) = atPath kb d a p := rfl

variable [LawfulMonad m]

section Path

variable {p : ColonPath}

theorem atPath_missing (a : Action) (missing : d.get p = none) :
    atPath kb d a p = throw (.path (.notFound p.display)) := by
  simp [atPath, missing]

theorem atPath_string {a : Action} (rewrites : a.transforms = true) {s : String}
    (found : d.get p = some (.string s)) :
    atPath kb d a p = leafCall kb a s >>= fun r =>
      pure (.document ⟨ColonPath.assignParts p.parts d.entries (.string r)⟩) := by
  have keeps := Action.beq_identify_of_transforms rewrites
  simp [atPath, found, keeps, Document.set_of_get found]
  rfl

theorem atPath_identify_string {s : String} (found : d.get p = some (.string s)) :
    atPath kb d .identify p = leafCall kb .identify s >>= fun r => pure (.keys [(p.display, r)]) := by
  simp [atPath, found]
  rfl

theorem atPath_null {a : Action} (rewrites : a.transforms = true) (found : d.get p = some .null) :
    atPath kb d a p = pure (.document d) := by
  simp [atPath, found, rewrites]

end Path

theorem exceptT_mk_map_run {ε α β : Type} (f : α → β) (x : ExceptT ε m α) :
    ExceptT.mk (Except.map f <$> x.run) = f <$> x := by
  apply ExceptT.ext
  simp [ExceptT.run_map]

theorem perform_silent_all {a : Action} (rewrites : a.transforms = true) :
    perform kb Tracer.silent d a .all = (fun es => .document ⟨es⟩) <$> entries kb a d.entries := by
  cases a with
  | identify => cases rewrites
  | encrypt | decrypt | rotate =>
    simp [perform, Tracer.silent, exceptT_mk_map_run]

theorem perform_silent_element_absent {a : Action} (rewrites : a.transforms = true) {name : String}
    (absent : d.element name = none) :
    perform kb Tracer.silent d a (.element name) = pure (.document d) := by
  cases a with
  | identify => cases rewrites
  | encrypt | decrypt | rotate =>
    simp [perform, Tracer.silent, absent]
    rfl

theorem perform_silent_element {a : Action} (rewrites : a.transforms = true) {name : String}
    {v : Value} (found : d.element name = some v) :
    perform kb Tracer.silent d a (.element name) =
      (fun w => .document ⟨Value.insertEntry name w d.entries⟩) <$> value kb a v := by
  cases a with
  | identify => cases rewrites
  | encrypt | decrypt | rotate =>
    simp [perform, Tracer.silent, found, exceptT_mk_map_run]

theorem perform_silent_identify_all :
    perform kb Tracer.silent d .identify .all =
      .keys <$> collectTop kb Tracer.silent [] d.entries := by
  simp [perform, Tracer.silent, exceptT_mk_map_run]

theorem perform_silent_identify_element (name : String) :
    perform kb Tracer.silent d .identify (.element name) = .keys <$>
      match d.element name with
      | some v => collect kb Tracer.silent name [] v
      | none => pure [] := by
  cases found : d.element name with
  | none =>
    simp [perform, Tracer.silent, found]
    rfl
  | some v => simp [perform, Tracer.silent, found, exceptT_mk_map_run]

end Walk

end SealedPillar
