import SealedPillar.Proofs.Deterministic
import SealedPillar.Proofs.AtomicWrite

/-!
Runs on the host that leave the files alone, and one rewriting job on one file.

Two machines are alike when they differ only in what runs change and never read back: their files,
standard error, spans, runs of `gpg` and ticks (`Host.Alike`). A host run settles when it answers
from every machine alike to a first one what it answers from the first, and leaves it alike
(`Host.Settles`); a backend is settled when its calls are (`KeyBackend.Settled`). The GnuPG backend
is, as it answers from its program alone, and so is the counted test backend.

A host run is steady from a machine over a set of trees when, from every machine alike to it whose
files lie in the set, it gives what one run that keeps no state gives, leaves the files as they are
and the machine alike (`Walk.Steady`). Log events and spans are steady, and so are the calls of a
settled backend that touches no file; steady runs compose. A walk with such a backend and the
host's log is then steady and gives what the walk with the backend's answers from the first
machine, and no log, gives (`Walk.steady_perform`).

A file system where the same paths hold directories and the same paths hold files reads every path
the same way (`FileTree.SameShape`). Reading an existing file is steady over the trees where it
holds the same bytes. A job writes its output, the source loaded, walked and rendered, to its sink
(`Job.run_eq_output`). So a rewriting job on a file gives the same answer from every machine alike
to a first one where the file holds the same bytes, and writes that file only: the text it
renders, unless the job or the disk fails (`Job.run_rewrite`).
-/

namespace SealedPillar

namespace Host

/-- What a run reads of a machine and never changes: its environment, standard input and output,
`gpg` program, log and disk. -/
structure Alike (h h' : Host) : Prop where
  env : h'.env = h.env
  stdin : h'.stdin = h.stdin
  stdinTaken : h'.stdinTaken = h.stdinTaken
  stdout : h'.stdout = h.stdout
  gpg : h'.gpg = h.gpg
  log : h'.log = h.log
  disk : h'.disk = h.disk

namespace Alike

variable {h h' h'' : Host}

theorem refl (h : Host) : h.Alike h := ⟨rfl, rfl, rfl, rfl, rfl, rfl, rfl⟩

theorem trans (first : h.Alike h') (second : h'.Alike h'') : h.Alike h'' :=
  ⟨second.env.trans first.env, second.stdin.trans first.stdin,
    second.stdinTaken.trans first.stdinTaken, second.stdout.trans first.stdout,
    second.gpg.trans first.gpg, second.log.trans first.log, second.disk.trans first.disk⟩

theorem files (t : FileTree) : h.Alike { h with files := t } := ⟨rfl, rfl, rfl, rfl, rfl, rfl, rfl⟩

theorem spans (spans : List OpenSpan) : h.Alike { h with spans := spans } :=
  ⟨rfl, rfl, rfl, rfl, rfl, rfl, rfl⟩

theorem ticks (n : Nat) : h.Alike { h with ticks := n } := ⟨rfl, rfl, rfl, rfl, rfl, rfl, rfl⟩


theorem emit (area : String) (level : Level) (message : String) (fields : List (String × String)) :
    h.Alike ((Host.emit area level message fields).run h).2 := by
  unfold Host.emit
  simp only [StateT.run_bind, StateT.run_get, pure_bind]
  split
  · exact refl h
  · split
    · exact ⟨rfl, rfl, rfl, rfl, rfl, rfl, rfl⟩
    · exact refl h

end Alike

section Quiet

variable {α β γ : Type}

/-- A host run that answers from every machine alike to a first one what it answers from the
first, and leaves it alike. -/
def Settles (x : HostM α) : Prop :=
  ∀ h h', h.Alike h' → (x.run h').1 = (x.run h).1 ∧ h.Alike (x.run h').2

theorem keeps_pure (a : α) : Keeps (pure a : HostM α) := fun _ => rfl

theorem keeps_bind {x : HostM α} {f : α → HostM β} (first : Keeps x) (rest : ∀ a, Keeps (f a)) :
    Keeps (x >>= f) := fun h => by
  rw [run_bind_eq, rest, first]

theorem settles_pure (a : α) : Settles (pure a : HostM α) := fun _ _ alike => ⟨rfl, alike⟩

theorem settles_bind {x : HostM α} {f : α → HostM β} (first : Settles x)
    (rest : ∀ a, Settles (f a)) : Settles (x >>= f) := by
  intro h h' alike
  obtain ⟨answered, alike'⟩ := first h h' alike
  -- both runs go on with the first one's answer, from machines alike to the first
  have alikeHere := (first h h (Alike.refl h)).2
  obtain ⟨next, nextAlike⟩ := rest (x.run h).1 h (x.run h').2 alike'
  obtain ⟨nextHere, -⟩ := rest (x.run h).1 h (x.run h).2 alikeHere
  rw [run_bind_eq, run_bind_eq, answered]
  exact ⟨next.trans nextHere.symm, nextAlike⟩

structure Quiet (x : HostM α) : Prop where
  keeps : Keeps x
  settles : Settles x

theorem quiet_pure (a : α) : Quiet (pure a : HostM α) := ⟨keeps_pure a, settles_pure a⟩

theorem quiet_bind {x : HostM α} {f : α → HostM β} (first : Quiet x) (rest : ∀ a, Quiet (f a)) :
    Quiet (x >>= f) :=
  ⟨keeps_bind first.keeps fun a => (rest a).keeps,
    settles_bind first.settles fun a => (rest a).settles⟩

theorem quiet_mapM {f : γ → HostM α} (each : ∀ c, Quiet (f c)) : (l : List γ) → Quiet (l.mapM f)
  | [] => quiet_pure []
  | c :: l => by
    rw [List.mapM_cons]
    exact quiet_bind (each c) fun a => quiet_bind (quiet_mapM each l) fun as => quiet_pure _

theorem quiet_emit (area : String) (level : Level) (message : String)
    (fields : List (String × String)) : Quiet (emit area level message fields) :=
  ⟨emit_files area level message fields, fun _ _ alike =>
    ⟨rfl, alike.trans (Alike.emit area level message fields)⟩⟩

theorem quiet_tick : Quiet tick := ⟨fun _ => rfl, fun _ _ alike => ⟨rfl, alike.trans (Alike.ticks _)⟩⟩

theorem quiet_runGpg (args : List String) (input : String) : Quiet (runGpg args input) := by
  refine ⟨fun h => ?_, fun h h' alike => ?_⟩
  · unfold runGpg
    rw [run_get_bind]
    split <;> rfl
  · unfold runGpg
    rw [run_get_bind, run_get_bind, alike.gpg]
    split
    · exact ⟨rfl, alike⟩
    · -- the call is recorded, and the program is the first machine's
      exact ⟨rfl, alike.env, alike.stdin, alike.stdinTaken, alike.stdout, rfl, alike.log, alike.disk⟩

end Quiet

end Host

namespace KeyBackend

structure KeepsFiles (kb : KeyBackend HostM) : Prop where
  encrypt : ∀ s h, ((kb.encrypt s).run h).2.files = h.files
  decrypt : ∀ s h, ((kb.decrypt s).run h).2.files = h.files
  keyIdentity : ∀ s h, ((kb.keyIdentity s).run h).2.files = h.files

/-- A backend on the host whose answers depend on the machine's settings alone: not on its files,
log or counters. -/
structure Settled (kb : KeyBackend HostM) : Prop where
  encrypt : ∀ s, Host.Settles (kb.encrypt s)
  decrypt : ∀ s, Host.Settles (kb.decrypt s)
  keyIdentity : ∀ s, Host.Settles (kb.keyIdentity s)

structure Quiet (kb : KeyBackend HostM) : Prop where
  encrypt : ∀ s, Host.Quiet (kb.encrypt s)
  decrypt : ∀ s, Host.Quiet (kb.decrypt s)
  keyIdentity : ∀ s, Host.Quiet (kb.keyIdentity s)

theorem Quiet.keepsFiles {kb : KeyBackend HostM} (quiet : kb.Quiet) : kb.KeepsFiles :=
  ⟨fun s => (quiet.encrypt s).keeps, fun s => (quiet.decrypt s).keeps,
    fun s => (quiet.keyIdentity s).keeps⟩

theorem Quiet.settled {kb : KeyBackend HostM} (quiet : kb.Quiet) : kb.Settled :=
  ⟨fun s => (quiet.encrypt s).settles, fun s => (quiet.decrypt s).settles,
    fun s => (quiet.keyIdentity s).settles⟩

end KeyBackend

namespace Gpg

variable (o : GpgOptions)

theorem quiet_userId (id : String) : Host.Quiet (userId o Host.runGpg id) := by
  unfold userId
  refine Host.quiet_bind (Host.quiet_runGpg _ _) fun answer => ?_
  cases answer <;> exact Host.quiet_pure _

theorem quiet_of_runGpg {α : Type} (args : List String) (input : String)
    {f : Option ProgramOutput → HostM α} (rest : ∀ answer, Host.Quiet (f answer)) :
    Host.Quiet (Host.runGpg args input >>= f) :=
  Host.quiet_bind (Host.quiet_runGpg args input) rest

theorem backend_quiet : (backend o Host.runGpg Host.tracer).Quiet := by
  refine ⟨fun s => ?_, fun s => ?_, fun s => ?_⟩
  · dsimp only [backend]
    split
    · exact Host.quiet_pure _
    · refine Host.quiet_bind (Host.quiet_emit _ _ _ _) fun _ => quiet_of_runGpg _ _ fun answer => ?_
      rcases answer with _ | out
      · exact Host.quiet_pure _
      · dsimp only
        split
        · exact Host.quiet_pure _
        · split
          · exact Host.quiet_pure _
          · exact Host.quiet_bind (Host.quiet_emit _ _ _ _) fun _ => Host.quiet_pure _
  · dsimp only [backend]
    refine Host.quiet_bind (Host.quiet_emit _ _ _ _) fun _ => quiet_of_runGpg _ _ fun answer => ?_
    rcases answer with _ | out
    · exact Host.quiet_pure _
    · dsimp only
      split
      · exact Host.quiet_pure _
      · split
        · exact Host.quiet_pure _
        · exact Host.quiet_bind (Host.quiet_emit _ _ _ _) fun _ => Host.quiet_pure _
  · dsimp only [backend]
    refine quiet_of_runGpg _ _ fun answer => ?_
    rcases answer with _ | out
    · exact Host.quiet_pure _
    · dsimp only
      split
      · exact Host.quiet_pure _
      · exact Host.quiet_bind (Host.quiet_emit _ _ _ _) fun _ =>
          Host.quiet_bind (Host.quiet_mapM (fun id => Host.quiet_bind (quiet_userId o id) fun _ =>
            Host.quiet_pure _) _) fun _ => Host.quiet_pure _

end Gpg

theorem Mock.backend_quiet (keys : MockKeys) : (Mock.backend keys Host.tick).Quiet :=
  ⟨fun _ => Host.quiet_bind Host.quiet_tick fun _ => Host.quiet_pure _,
    fun _ => Host.quiet_bind Host.quiet_tick fun _ => Host.quiet_pure _,
    fun _ => Host.quiet_bind Host.quiet_tick fun _ => Host.quiet_pure _⟩

namespace Walk

/-- A host run that gives, from every machine alike to `h₀` whose files pass a test, what one run
that keeps no state gives, leaves the files as they are and the machine alike. -/
def Steady {α : Type} (h₀ : Host) (P : FileTree → Prop) (x : ExceptT Error HostM α)
    (y : ExceptT Error Id α) : Prop :=
  ∀ h, h₀.Alike h → P h.files →
    (x.run.run h).1 = y.run ∧ (x.run.run h).2.files = h.files ∧ h₀.Alike (x.run.run h).2

section Steady

variable {α β γ : Type} {h₀ : Host} {P : FileTree → Prop}

theorem steady_pure (a : α) : Steady h₀ P (pure a) (pure a) := fun _ alike _ => ⟨rfl, rfl, alike⟩

theorem steady_throw (e : Error) : Steady h₀ P (throw e : ExceptT Error HostM α) (throw e) :=
  fun _ alike _ => ⟨rfl, rfl, alike⟩

theorem steady_bind {x : ExceptT Error HostM α} {y : ExceptT Error Id α}
    {f : α → ExceptT Error HostM β} {g : α → ExceptT Error Id β} (first : Steady h₀ P x y)
    (rest : ∀ a, Steady h₀ P (f a) (g a)) : Steady h₀ P (x >>= f) (y >>= g) := by
  intro h alike holds
  obtain ⟨answered, kept, alike'⟩ := first h alike holds
  rw [run_run_bind, run_bind_id, ← answered]
  rcases ran : x.run.run h with ⟨_ | a, h'⟩
  · rw [ran] at kept alike'
    exact ⟨rfl, kept, alike'⟩
  · rw [ran] at kept alike'
    obtain ⟨next, nextKept, nextAlike⟩ := rest a h' alike' (kept ▸ holds)
    exact ⟨next, nextKept.trans kept, nextAlike⟩

theorem steady_throw_bind (e : Error) (f : α → ExceptT Error HostM β) (g : α → ExceptT Error Id β) :
    Steady h₀ P (throw e >>= f) (throw e >>= g) := fun _ alike _ => ⟨rfl, rfl, alike⟩

theorem steady_mapM {f : γ → ExceptT Error HostM α} {g : γ → ExceptT Error Id α}
    (each : ∀ c, Steady h₀ P (f c) (g c)) : (l : List γ) → Steady h₀ P (l.mapM f) (l.mapM g)
  | [] => steady_pure []
  | c :: l => by
    rw [List.mapM_cons, List.mapM_cons]
    exact steady_bind (each c) fun a =>
      steady_bind (steady_mapM each l) fun as => steady_pure (a :: as)

theorem steady_emit (area : String) (level : Level) (message : String)
    (fields : List (String × String)) :
    Steady h₀ P (monadLift (Host.emit area level message fields) : ExceptT Error HostM Unit)
      (pure ()) := by
  intro h alike _
  rw [ExceptT.run_monadLift]
  exact ⟨rfl, Host.emit_files area level message fields h,
    alike.trans (Host.Alike.emit area level message fields)⟩

theorem within_run (s : Span) (x : HostM α) (h : Host) :
    ∃ o : OpenSpan, (Host.within s x).run h =
      ((x.run { h with spans := o :: h.spans }).1,
        { (x.run { h with spans := o :: h.spans }).2 with
          spans := (x.run { h with spans := o :: h.spans }).2.spans.drop 1 }) := by
  unfold Host.within
  exact ⟨_, rfl⟩

theorem steady_within (s : Span) {x : ExceptT Error HostM α} {y : ExceptT Error Id α}
    (inner : Steady h₀ P x y) : Steady h₀ P (ExceptT.mk (Host.within s x.run)) y := by
  intro h alike holds
  obtain ⟨o, ran⟩ := within_run s x.run h
  obtain ⟨answered, kept, alike'⟩ :=
    inner { h with spans := o :: h.spans } (alike.trans (Host.Alike.spans _)) holds
  rw [ExceptT.run_mk, ran]
  exact ⟨answered, kept, alike'.trans (Host.Alike.spans _)⟩

end Steady

section Walks

variable {kb : KeyBackend HostM} (settled : kb.Settled) (keeps : kb.KeepsFiles) (h₀ : Host)
  {P : FileTree → Prop}

include keeps in
theorem applyScalar_files (a : Action) (s : String) (h : Host) :
    ((a.applyScalar kb s).run h).2.files = h.files := by
  cases a with
  | encrypt =>
    cases encrypted : Armor.isEncrypted s
    · simp only [Action.applyScalar, Action.encryptValue, encrypted]
      exact keeps.encrypt s h
    · simp only [Action.applyScalar, Action.encryptValue, encrypted]
      rfl
  | decrypt =>
    cases encrypted : Armor.isEncrypted s
    · simp only [Action.applyScalar, Action.decryptValue, encrypted]
      rfl
    · simp only [Action.applyScalar, Action.decryptValue, encrypted]
      exact keeps.decrypt s h
  | rotate =>
    cases encrypted : Armor.isEncrypted s
    · simp only [Action.applyScalar, Action.decryptValue, encrypted]
      exact keeps.encrypt s h
    · simp only [Action.applyScalar, Action.decryptValue, encrypted, if_true, StateT.run_bind]
      rcases decrypted : (kb.decrypt s).run h with ⟨failure | plain, h'⟩
      · have kept := keeps.decrypt s h
        rw [decrypted] at kept
        exact kept
      · have kept := keeps.decrypt s h
        rw [decrypted] at kept
        exact (keeps.encrypt plain h').trans kept
  | identify =>
    cases encrypted : Armor.isEncrypted s
    · simp only [Action.applyScalar, encrypted]
      rfl
    · simp only [Action.applyScalar, encrypted, if_true]
      exact keeps.keyIdentity s h

include settled in
theorem applyScalar_settles (a : Action) (s : String) : Host.Settles (a.applyScalar kb s) := by
  cases a with
  | encrypt =>
    cases encrypted : Armor.isEncrypted s
    · simp only [Action.applyScalar, Action.encryptValue, encrypted]
      exact settled.encrypt s
    · simp only [Action.applyScalar, Action.encryptValue, encrypted]
      exact Host.settles_pure _
  | decrypt =>
    cases encrypted : Armor.isEncrypted s
    · simp only [Action.applyScalar, Action.decryptValue, encrypted]
      exact Host.settles_pure _
    · simp only [Action.applyScalar, Action.decryptValue, encrypted]
      exact settled.decrypt s
  | rotate =>
    simp only [Action.applyScalar]
    refine Host.settles_bind ?_ fun r => ?_
    · cases encrypted : Armor.isEncrypted s
      · simp only [Action.decryptValue, encrypted]
        exact Host.settles_pure _
      · simp only [Action.decryptValue, encrypted]
        exact settled.decrypt s
    · rcases r with e | plain
      · exact Host.settles_pure _
      · exact settled.encrypt plain
  | identify =>
    cases encrypted : Armor.isEncrypted s
    · simp only [Action.applyScalar, encrypted]
      exact Host.settles_pure _
    · simp only [Action.applyScalar, encrypted, if_true]
      exact settled.keyIdentity s

include settled in
theorem applyScalar_at (a : Action) (s : String) :
    ((a.applyScalar kb s).run h₀).1 = a.applyScalar (kb.frozen h₀) s := by
  cases a with
  | encrypt | decrypt | identify =>
    simp only [Action.applyScalar, Action.encryptValue, Action.decryptValue]
    split <;> rfl
  | rotate =>
    cases encrypted : Armor.isEncrypted s
    · simp only [Action.applyScalar, Action.decryptValue, encrypted]
      rfl
    · simp only [Action.applyScalar, Action.decryptValue, encrypted, if_true, StateT.run_bind]
      rcases decrypted : (kb.decrypt s).run h₀ with ⟨failure | plain, h₁⟩
      · have frozen : (kb.frozen h₀).decrypt s = .error failure := by
          show ((kb.decrypt s).run h₀).1 = _
          rw [decrypted]
        rw [frozen]
        rfl
      · have frozen : (kb.frozen h₀).decrypt s = .ok plain := by
          show ((kb.decrypt s).run h₀).1 = _
          rw [decrypted]
        -- the machine after the decryption is alike, so the encryption answers as from the first
        have alike : h₀.Alike h₁ := by
          have := ((settled.decrypt s) h₀ h₀ (Host.Alike.refl h₀)).2
          rwa [decrypted] at this
        rw [frozen]
        exact ((settled.encrypt plain) h₀ h₁ alike).1

include settled keeps

theorem steady_leafCall (a : Action) (s : String) :
    Steady h₀ P (leafCall kb a s) (leafCall (kb.frozen h₀) a s) := fun h alike _ => by
  obtain ⟨answered, alike'⟩ := applyScalar_settles settled a s h₀ h alike
  refine ⟨?_, applyScalar_files keeps a s h, alike'⟩
  show Except.mapError Error.cipher ((a.applyScalar kb s).run h).1 =
    Except.mapError Error.cipher (a.applyScalar (kb.frozen h₀) s : Id (Except CipherError String))
  rw [answered, applyScalar_at settled h₀ a s]

theorem steady_keyIdentity (s : String) :
    Steady h₀ P (call (kb.keyIdentity s)) (call ((kb.frozen h₀).keyIdentity s)) :=
  fun h alike _ => ⟨congrArg (Except.mapError Error.cipher) ((settled.keyIdentity s) h₀ h alike).1,
    keeps.keyIdentity s h, ((settled.keyIdentity s) h₀ h alike).2⟩

theorem steady_value (a : Action) (v : Value) :
    Steady h₀ P (value kb a v) (value (kb.frozen h₀) a v) := by
  rw [value_eq_traverse, value_eq_traverse]
  exact steady_bind (steady_mapM (steady_leafCall settled keeps h₀ a) _) fun rs => steady_pure _

theorem steady_entries (a : Action) (es : List (String × Value)) :
    Steady h₀ P (entries kb a es) (entries (kb.frozen h₀) a es) := by
  rw [entries_eq_traverse, entries_eq_traverse]
  exact steady_bind (steady_mapM (steady_leafCall settled keeps h₀ a) _) fun rs => steady_pure _

-- the item and entry cases reach the backend only through the value case
set_option linter.unusedSectionVars false in
mutual

theorem steady_collect (pfx : String) (report : KeyReport) : (v : Value) →
    Steady h₀ P (collect kb Host.tracer pfx report v)
      (collect (kb.frozen h₀) Tracer.silent pfx report v)
  | .string s => by
    by_cases encrypted : Armor.isEncrypted s = true
    · simp only [collect, encrypted, if_true]
      exact steady_bind (steady_keyIdentity settled keeps h₀ s) fun identity =>
        steady_bind (steady_emit _ _ _ _) fun _ => steady_pure _
    · simp only [collect, encrypted]
      exact steady_pure report
  | .sequence xs => by
    rw [collect, collect]
    exact steady_collectItems pfx 0 report xs
  | .mapping es => by
    rw [collect, collect]
    exact steady_collectEntries pfx report es
  | .null => steady_pure report
  | .bool _ => steady_pure report
  | .number _ => steady_pure report

theorem steady_collectItems (pfx : String) (index : Nat) (report : KeyReport) :
    (xs : List Value) → Steady h₀ P (collectItems kb Host.tracer pfx index report xs)
      (collectItems (kb.frozen h₀) Tracer.silent pfx index report xs)
  | [] => steady_pure report
  | x :: xs => by
    rw [collectItems, collectItems]
    exact steady_bind (steady_collect _ report x) fun r => steady_collectItems pfx (index + 1) r xs

theorem steady_collectEntries (pfx : String) (report : KeyReport) :
    (es : List (String × Value)) → Steady h₀ P (collectEntries kb Host.tracer pfx report es)
      (collectEntries (kb.frozen h₀) Tracer.silent pfx report es)
  | [] => steady_pure report
  | (k, v) :: es => by
    rw [collectEntries, collectEntries]
    exact steady_bind (steady_collect _ report v) fun r => steady_collectEntries pfx r es

end

theorem steady_collectTop (report : KeyReport) : (es : List (String × Value)) →
    Steady h₀ P (collectTop kb Host.tracer report es)
      (collectTop (kb.frozen h₀) Tracer.silent report es)
  | [] => steady_pure report
  | (k, v) :: es => by
    rw [collectTop, collectTop]
    exact steady_bind (steady_collect settled keeps h₀ k report v) fun r => steady_collectTop r es

theorem steady_atPath (d : Document) (a : Action) (p : ColonPath) :
    Steady h₀ P (atPath kb d a p) (atPath (kb.frozen h₀) d a p) := by
  -- which string the path names, or why it names none, is read off the document alone
  cases found : d.get p with
  | none =>
    simp only [atPath, found]
    exact steady_throw_bind _ _ _
  | some v =>
    cases v with
    | string s =>
      simp only [atPath, found, pure_bind]
      refine steady_bind (steady_leafCall settled keeps h₀ a s) fun r => ?_
      split
      · exact steady_pure _
      · split
        · exact steady_pure _
        · exact steady_throw _
    | null =>
      cases a <;> simp [atPath, found, Action.transforms] <;>
        first | exact steady_pure _ | exact steady_throw _
    | bool _ | number _ | sequence _ | mapping _ =>
      cases a <;> simp only [atPath, found] <;> exact steady_throw_bind _ _ _

/-- A walk with a backend that answers from the message alone and touches no file, and with the
host's log, gives from every state what the walk with the backend's answers and no log gives, and
leaves the files as they are. -/
theorem steady_perform (d : Document) (a : Action) (scope : Scope) :
    Steady h₀ P (perform kb Host.tracer d a scope) (perform (kb.frozen h₀) Tracer.silent d a scope) := by
  unfold perform
  refine steady_within _ ?_
  cases scope with
  | path p => exact steady_atPath settled keeps h₀ d a p
  | all =>
    cases a with
    | identify =>
      exact steady_bind (steady_collectTop settled keeps h₀ [] d.entries) fun report =>
        steady_bind (steady_emit _ _ _ _) fun _ => steady_pure _
    | encrypt | decrypt | rotate =>
      exact steady_bind (steady_entries settled keeps h₀ _ d.entries) fun es => steady_pure _
  | element name =>
    cases a with
    | identify =>
      dsimp only
      cases d.element name with
      | some v =>
        exact steady_bind (steady_collect settled keeps h₀ name [] v) fun report =>
          steady_bind (steady_emit _ _ _ _) fun _ => steady_pure _
      | none =>
        exact steady_bind (steady_pure []) fun report =>
          steady_bind (steady_emit _ _ _ _) fun _ => steady_pure _
    | encrypt | decrypt | rotate =>
      dsimp only
      cases d.element name with
      | some v => exact steady_bind (steady_value settled keeps h₀ _ v) fun w => steady_pure _
      | none => exact steady_bind (steady_emit _ _ _ _) fun _ => steady_pure _

end Walks

end Walk

namespace FileTree

variable {t t' t'' : FileTree}

theorem ne_nil_of_lookup_file {p : List String} {bytes : List UInt8} {m : Nat}
    (found : t.lookup p = some (.file bytes m)) : p ≠ [] := by
  rintro rfl
  simp [lookup] at found

/-- Two trees with one working directory that hold directories, with their modes, at the same
paths, and files at the same paths, whatever their bytes. -/
structure SameShape (t t' : FileTree) : Prop where
  cwd : t'.cwd = t.cwd
  lookup : ∀ q, t'.lookup q = t.lookup q ∨
    ∃ b m b' m', t.lookup q = some (.file b m) ∧ t'.lookup q = some (.file b' m')

namespace SameShape

theorem refl (t : FileTree) : SameShape t t := ⟨rfl, fun _ => .inl rfl⟩

theorem symm (same : SameShape t t') : SameShape t' t := by
  refine ⟨same.cwd.symm, fun q => ?_⟩
  rcases same.lookup q with held | ⟨b, m, b', m', was, now⟩
  · exact .inl held.symm
  · exact .inr ⟨b', m', b, m, now, was⟩

theorem trans (first : SameShape t t') (second : SameShape t' t'') : SameShape t t'' := by
  refine ⟨second.cwd.trans first.cwd, fun q => ?_⟩
  rcases first.lookup q with same | ⟨b, m, b', m', was, now⟩
  · rcases second.lookup q with same' | ⟨b', m', b'', m'', was', now'⟩
    · exact .inl (same'.trans same)
    · exact .inr ⟨b', m', b'', m'', same ▸ was', now'⟩
  · rcases second.lookup q with same' | ⟨b₁, m₁, b'', m'', was', now'⟩
    · exact .inr ⟨b, m, b', m', was, same'.trans now⟩
    · exact .inr ⟨b, m, b'', m'', was, now'⟩

theorem put_file {pl : List String} {b0 b1 : List UInt8} {m0 m1 : Nat}
    (was : t.lookup pl = some (.file b0 m0)) : SameShape t (t.put pl (.file b1 m1)) := by
  refine ⟨cwd_put _ _, fun q => ?_⟩
  rw [lookup_put (ne_nil_of_lookup_file was)]
  by_cases at_pl : q = pl
  · subst at_pl
    exact .inr ⟨b0, m0, b1, m1, was, if_pos rfl⟩
  · exact .inl (if_neg at_pl)

section Same

variable (same : SameShape t t')
include same

theorem locate (cur : List String) : (ns : List String) → t'.locate cur ns = t.locate cur ns
  | [] => rfl
  | [_] => rfl
  | n :: n2 :: rest => by
    rw [FileTree.locate, FileTree.locate]
    rcases same.lookup (if n == ".." then cur.dropLast else cur ++ [n]) with
      held | ⟨b, m, b', m', was, now⟩
    · rw [held]
      split <;> first | rfl | exact locate _ (n2 :: rest)
    · rw [was, now]

theorem place (s : String) : t'.place s = t.place s := by
  unfold FileTree.place
  split
  · rfl
  · rw [show t'.origin s = t.origin s by simp [origin, same.cwd], same.locate]

theorem stat_of_lookup {s : String} {q : List String} {mustBeDir : Bool}
    (placed : t.place s = .ok (q, mustBeDir)) (held : t'.lookup q = t.lookup q) :
    t'.stat s = t.stat s := by
  simp only [stat, same.place, placed, bind, Except.bind, held]

theorem isDir (s : String) : t'.isDir s = t.isDir s := by
  rcases placed : t.place s with failure | ⟨q, mustBeDir⟩
  · simp [FileTree.isDir, stat, same.place, placed, bind, Except.bind]
  rcases same.lookup q with held | ⟨b, m, b', m', was, now⟩
  · rw [FileTree.isDir, FileTree.isDir, same.stat_of_lookup placed held]
  · cases mustBeDir <;>
      simp [FileTree.isDir, stat, same.place, placed, bind, Except.bind, was, now]

theorem exists? (s : String) : t'.exists? s = t.exists? s := by
  rcases placed : t.place s with failure | ⟨q, mustBeDir⟩
  · simp [FileTree.exists?, stat, same.place, placed, bind, Except.bind]
  rcases same.lookup q with held | ⟨b, m, b', m', was, now⟩
  · rw [FileTree.exists?, FileTree.exists?, same.stat_of_lookup placed held]
  · cases mustBeDir <;>
      simp [FileTree.exists?, stat, same.place, placed, bind, Except.bind, was, now,
        Except.toOption]

end Same

theorem stat_of_bases {t₀ : FileTree} (base : SameShape t₀ t) (base' : SameShape t₀ t')
    {s : String} {q : List String} {mustBeDir : Bool} (placed : t₀.place s = .ok (q, mustBeDir))
    (held : t'.lookup q = t.lookup q) : t'.stat s = t.stat s :=
  (base.symm.trans base').stat_of_lookup (by rw [base.place]; exact placed) held

end SameShape

theorem stat_eq_file_iff {s : String} {bytes : List UInt8} {m : Nat} :
    t.stat s = .ok (.file bytes m) ↔
      ∃ p, t.place s = .ok (p, false) ∧ t.lookup p = some (.file bytes m) := by
  constructor
  · intro found
    rcases placed : t.place s with failure | ⟨p, mustBeDir⟩
    · simp [stat, placed, bind, Except.bind] at found
    rcases held : t.lookup p with _ | (⟨b, m'⟩ | m')
    · simp [stat, placed, bind, Except.bind, held] at found
    · cases mustBeDir
      · simp only [stat, placed, bind, Except.bind, held, Bool.false_eq_true, if_false] at found
        rw [Except.ok.injEq] at found
        exact ⟨p, rfl, by rw [held, found]⟩
      · simp [stat, placed, bind, Except.bind, held] at found
    · simp [stat, placed, bind, Except.bind, held] at found
  · rintro ⟨p, placed, found⟩
    exact stat_of_file placed found

theorem stat_of_isDir {s : String} (directory : t.isDir s = true) : ∃ m, t.stat s = .ok (.dir m) := by
  obtain ⟨p, mustBeDir, m, placed, found⟩ := isDir_iff.mp directory
  exact ⟨m, stat_of_dir placed found⟩

theorem exists?_of_stat {s : String} {e : FsEntry} (found : t.stat s = .ok e) :
    t.exists? s = true := by
  simp [exists?, found, Except.toOption]

end FileTree

theorem Store.read_file_run {g : Host} {p : String} {bytes : List UInt8} {m : Nat}
    (found : g.files.stat p = .ok (.file bytes m)) :
    (Store.read (.file p)).run g =
      ((Text.decodeUtf8 bytes).mapError fun _ => Error.store (.read p .invalidUtf8), g) := by
  have there := FileTree.exists?_of_stat found
  have notDir : g.files.isDir p = false := by simp [FileTree.isDir, found]
  have read : g.files.read p = .ok bytes := by simp [FileTree.read, found]
  simp only [Store.read, StateT.run_bind, StateT.run_get, pure_bind, there, notDir, read]
  cases Text.decodeUtf8 bytes <;> rfl

namespace Walk

variable {α β : Type} {h₀ : Host} {P : FileTree → Prop}

theorem Steady.run_bind {x : ExceptT Error HostM α} {y : ExceptT Error Id α}
    (steady : Steady h₀ P x y) (f : α → ExceptT Error HostM β) {h : Host} (alike : h₀.Alike h)
    (holds : P h.files) :
    ∃ h', h'.files = h.files ∧ h₀.Alike h' ∧ (x >>= f).run.run h = match y.run with
      | .ok a => (f a).run.run h'
      | .error e => (.error e, h') := by
  obtain ⟨answered, kept, alike'⟩ := steady h alike holds
  refine ⟨(x.run.run h).2, kept, alike', ?_⟩
  rw [run_run_bind, ← answered]
  rcases x.run.run h with ⟨_ | a, h'⟩ <;> rfl

theorem steady_except (e : Except Error α) :
    Steady h₀ P (ExceptT.mk (pure e)) (ExceptT.mk (pure e)) := fun _ alike _ => ⟨rfl, rfl, alike⟩

theorem steady_read {p : String} {bytes : List UInt8} {m : Nat} :
    Steady h₀ (fun t => t.stat p = .ok (.file bytes m)) (ExceptT.mk (Store.read (.file p)))
      (ExceptT.mk (pure ((Text.decodeUtf8 bytes).mapError fun _ =>
        Error.store (.read p .invalidUtf8)))) := by
  intro h alike found
  rw [ExceptT.run_mk, Store.read_file_run found]
  exact ⟨rfl, rfl, alike⟩

theorem steady_parse (source : Source) (text : String) :
    Steady h₀ P (Pillar.parse Host.tracer source text) (Pillar.parse Tracer.silent source text) := by
  unfold Pillar.parse
  rcases Document.parseReport source.name text with ⟨result, event⟩
  dsimp only
  -- the parser's own event, then the document or its error
  rcases event with _ | ⟨message, fields⟩
  · cases result with
    | error e => exact steady_throw _
    | ok d => exact steady_bind (steady_emit _ _ _ _) fun _ => steady_pure _
  · cases result with
    | error e => exact steady_bind (steady_emit _ _ _ _) fun _ => steady_throw _
    | ok d =>
      exact steady_bind (steady_emit _ _ _ _) fun _ =>
        steady_bind (steady_emit _ _ _ _) fun _ => steady_pure _

end Walk

namespace Job

section Output

variable {m : Type → Type} [Monad m]

def output (st : Storage m) (kb : KeyBackend m) (tr : Tracer m) (job : Job) :
    ExceptT Error m String := do
  let pillar ← Pillar.load st tr job.source
  let outcome ← Walk.perform kb tr pillar.document job.action job.scope
  ExceptT.mk (pure (render outcome job.source.name job.format))

theorem run_eq_output [LawfulMonad m] (st : Storage m) (kb : KeyBackend m) (tr : Tracer m)
    (job : Job) :
    job.run st kb tr = ExceptT.mk (tr.within
      ⟨Pillar.area, "job", [("file", .shown job.source.name), ("output", .shown job.sink.name)]⟩
      (job.output st kb tr >>= fun out => ExceptT.mk (st.write job.sink out)).run) := by
  simp only [run, output, Pillar.load, bind_assoc]

end Output

theorem tracer_within {α : Type} (s : Span) (x : HostM α) : Host.tracer.within s x = Host.within s x :=
  rfl

variable {kb : KeyBackend HostM} (settled : kb.Settled) (keeps : kb.KeepsFiles)
include settled keeps

theorem run_rewrite {p q : String} {bytes : List UInt8} {m : Nat} (action : Action) (scope : Scope)
    (parent : FileTree.parentText p = some q) (nonempty : q ≠ "")
    (named : ∀ mustBeDir, FileTree.names p ≠ some ([], mustBeDir)) (h₀ : Host) :
    ∃ (answer : Except Error Nat) (written : Option String),
      (∀ out, written = some out → answer = .ok out.utf8ByteSize) ∧
      ∀ (g : Host) (pl : List String), h₀.Alike g →
        g.files.place p = .ok (pl, false) → g.files.lookup pl = some (.file bytes m) →
        g.files.isDir q = true →
        let ran :=
          (Job.run Store.storage kb Host.tracer ⟨.file p, .file p, action, scope, .yaml⟩).run.run g
        ran.1 = answer ∧
          (∀ out, written = some out → ran.2.files = g.files.put pl (.file (Text.utf8Bytes out) 0o600)) ∧
          (written = none → ran.2.files = g.files) ∧ h₀.Alike ran.2 := by
  -- the backend answers alike from alike machines, so the job's output is the one steady run's
  obtain ⟨front, steady⟩ : ∃ front, Walk.Steady h₀ (fun t => t.stat p = .ok (.file bytes m))
      (output Store.storage kb Host.tracer ⟨.file p, .file p, action, scope, .yaml⟩) front := by
    unfold output Pillar.load
    exact ⟨_, Walk.steady_bind (Walk.steady_bind Walk.steady_read fun text =>
      Walk.steady_parse _ text) fun pillar =>
        Walk.steady_bind (Walk.steady_perform settled keeps h₀ _ action scope) fun outcome =>
          Walk.steady_except _⟩
  have tempIs : Store.tempDir p = q := by
    have : q.isEmpty = false := by simpa [String.isEmpty_iff] using nonempty
    simp [Store.tempDir, parent, this]
  -- what is written is the output, unless the disk fails a step of the write
  obtain ⟨answer, written, answered, spec⟩ : ∃ (answer : Except Error Nat) (written : Option String),
      (∀ out, written = some out → answer = .ok out.utf8ByteSize) ∧
      (∀ e, front.run = .error e → answer = .error e ∧ written = none) ∧
      ∀ out, front.run = .ok out →
        (Store.writeSteps.findSome? h₀.disk).elim (answer = .ok out.utf8ByteSize ∧ written = some out)
          fun e => answer = .error (.store (.write p e)) ∧ written = none := by
    rcases front.run with e | out
    · exact ⟨.error e, none, fun _ wrong => (by cases wrong), fun _ same => (by cases same; exact ⟨rfl, rfl⟩),
        fun _ wrong => (by cases wrong)⟩
    · cases Store.writeSteps.findSome? h₀.disk with
      | none => exact ⟨.ok out.utf8ByteSize, some out, fun _ same => (by cases same; rfl),
          fun _ wrong => (by cases wrong), fun _ same => (by cases same; exact ⟨rfl, rfl⟩)⟩
      | some e => exact ⟨.error (.store (.write p e)), none, fun _ wrong => (by cases wrong),
          fun _ wrong => (by cases wrong), fun _ same => (by cases same; exact ⟨rfl, rfl⟩)⟩
  refine ⟨answer, written, answered, fun g pl alike placed found isDir => ?_⟩
  intro ran
  unfold ran
  rw [run_eq_output, ExceptT.run_mk]
  dsimp only [Source.name, Sink.name]
  rw [tracer_within]
  obtain ⟨o, entering⟩ := Walk.within_run _
    (output Store.storage kb Host.tracer ⟨.file p, .file p, action, scope, .yaml⟩ >>= fun out =>
      ExceptT.mk (Store.storage.write (.file p) out)).run g
  rw [entering]
  dsimp only
  have holds : ({ g with spans := o :: g.spans } : Host).files.stat p = .ok (.file bytes m) :=
    FileTree.stat_of_file placed found
  obtain ⟨h', keptFiles, alike', written'⟩ :=
    steady.run_bind (fun out => ExceptT.mk (Store.storage.write (.file p) out))
      (alike.trans (Host.Alike.spans _)) holds
  rw [written']
  have here : h'.files = g.files := keptFiles
  -- closing the span changes the spans only
  have closing : ∀ h'' : Host, h₀.Alike h'' → h₀.Alike { h'' with spans := h''.spans.drop 1 } :=
    fun h'' alike'' => alike''.trans (Host.Alike.spans _)
  rcases outcome : front.run with e | out
  · obtain ⟨failed, nothing⟩ := spec.1 e outcome
    exact ⟨failed.symm, fun _ wrong => (by rw [nothing] at wrong; cases wrong), fun _ => here,
      closing _ alike'⟩
  · -- the file and its directory are where they were, so the write goes through unless the disk
    -- fails one of its steps
    have spec' := spec.2 out outcome
    dsimp only [Store.storage]
    have sameDisk : Store.writeSteps.findSome? h'.disk = Store.writeSteps.findSome? h₀.disk := by
      rw [alike'.disk]
    rw [ExceptT.run_mk, Store.write_file_plain out (by rw [tempIs, here]; exact isDir)
      (by rw [here]; exact placed) named (fun m' held => by rw [here, found] at held; cases held),
      sameDisk]
    cases faults : Store.writeSteps.findSome? h₀.disk with
    | none =>
      rw [faults] at spec'
      obtain ⟨answeredOk, writtenOut⟩ := spec'
      simp only [Option.elim]
      refine ⟨answeredOk.symm, fun out' same => ?_,
        fun wrong => (by rw [writtenOut] at wrong; cases wrong),
        closing _ (((alike'.trans (Host.Alike.files _)).trans (Host.Alike.emit _ _ _ _)).trans
          (Host.Alike.emit _ _ _ _))⟩
      rw [writtenOut] at same
      cases same
      show (((Host.emit _ _ _ _).run ((Host.emit _ _ _ _).run _).2).2).files = _
      rw [Host.emit_files, Host.emit_files, here]
    | some e =>
      rw [faults] at spec'
      obtain ⟨failedWrite, nothing⟩ := spec'
      exact ⟨failedWrite.symm, fun _ wrong => (by rw [nothing] at wrong; cases wrong),
        fun _ => here, closing _ alike'⟩

end Job

end SealedPillar
