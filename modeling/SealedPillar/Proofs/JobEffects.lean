import SealedPillar.Proofs.KeyListings

/-!
What a job does to the files.

A host run frames the files by a relation when, from every state, the files it leaves stand in
that relation to the files it found (`Walk.Frames`). For a reflexive and transitive relation,
framing runs compose, and events, spans and runs that keep the files frame them. A walk with a
backend that touches no file keeps the files, and so do the GnuPG backend and the counted test
backend.

A tree only gains on another for a source (`FileTree.OnlyAdds`) when every entry of the first is
still there and each new entry is a directory of mode 700, or an empty file of mode 600 where the
source file is: what reading a missing pillar file makes. Reading a source only gains so, and a
write that fails makes at most directories. So a job whose sink is a file that is there, when it
fails, leaves that file as it was and no other new file than its empty source; when it succeeds,
the sink holds the text the job rendered, private, and the job answers its length in bytes
(`Job.run_sink`).
-/

namespace SealedPillar

namespace Walk

/-- A host run leaves files that stand in `R` to the files it found. -/
def Frames {α : Type} (R : FileTree → FileTree → Prop) (x : ExceptT Error HostM α) : Prop :=
  ∀ h, R h.files (x.run.run h).2.files

section Frames

variable {α β γ : Type} {R : FileTree → FileTree → Prop}

theorem frames_pure (refl : ∀ t, R t t) (a : α) : Frames R (pure a : ExceptT Error HostM α) :=
  fun h => refl h.files

theorem frames_throw (refl : ∀ t, R t t) (e : Error) : Frames R (throw e : ExceptT Error HostM α) :=
  fun h => refl h.files

theorem frames_bind (trans : ∀ t t' t'', R t t' → R t' t'' → R t t'')
    {x : ExceptT Error HostM α} {f : α → ExceptT Error HostM β} (first : Frames R x)
    (rest : ∀ a, Frames R (f a)) : Frames R (x >>= f) := by
  intro h
  have before := first h
  rw [run_run_bind]
  rcases ran : x.run.run h with ⟨_ | a, h'⟩
  · rw [ran] at before
    exact before
  · rw [ran] at before
    exact trans _ _ _ before (rest a h')

theorem frames_mapM (refl : ∀ t, R t t) (trans : ∀ t t' t'', R t t' → R t' t'' → R t t'')
    {f : γ → ExceptT Error HostM α} (each : ∀ c, Frames R (f c)) :
    (l : List γ) → Frames R (l.mapM f)
  | [] => frames_pure refl []
  | c :: l => by
    rw [List.mapM_cons]
    exact frames_bind trans (each c) fun a =>
      frames_bind trans (frames_mapM refl trans each l) fun as => frames_pure refl (a :: as)

theorem keeps_pure (a : α) : Frames Eq (pure a : ExceptT Error HostM α) :=
  frames_pure (fun _ => rfl) a

theorem keeps_throw (e : Error) : Frames Eq (throw e : ExceptT Error HostM α) :=
  frames_throw (fun _ => rfl) e

theorem keeps_bind {x : ExceptT Error HostM α} {f : α → ExceptT Error HostM β}
    (first : Frames Eq x) (rest : ∀ a, Frames Eq (f a)) : Frames Eq (x >>= f) :=
  frames_bind (R := Eq) (fun _ _ _ => Eq.trans) first rest

theorem keeps_mapM {f : γ → ExceptT Error HostM α} (each : ∀ c, Frames Eq (f c)) (l : List γ) :
    Frames Eq (l.mapM f) :=
  frames_mapM (R := Eq) (fun _ => rfl) (fun _ _ _ => Eq.trans) each l

theorem frames_of_keeps (refl : ∀ t, R t t) {x : ExceptT Error HostM α} (keeps : Frames Eq x) :
    Frames R x := fun h => keeps h ▸ refl h.files

theorem frames_emit (area : String) (level : Level) (message : String)
    (fields : List (String × String)) :
    Frames Eq (monadLift (Host.emit area level message fields) : ExceptT Error HostM Unit) := by
  intro h
  rw [ExceptT.run_monadLift]
  exact (Host.emit_files area level message fields h).symm

theorem frames_within (s : Span) {x : ExceptT Error HostM α} (inner : Frames R x) :
    Frames R (ExceptT.mk (Host.within s x.run)) := by
  intro h
  obtain ⟨o, ran⟩ := within_run s x.run h
  rw [ExceptT.run_mk, ran]
  exact inner { h with spans := o :: h.spans }

theorem keeps_except (e : Except Error α) : Frames Eq (ExceptT.mk (pure e) : ExceptT Error HostM α) :=
  fun _ => rfl

theorem keeps_parse (source : Source) (text : String) :
    Frames Eq (Pillar.parse Host.tracer source text) :=
  fun h => ((steady_parse (P := fun _ => True) source text) h (Host.Alike.refl h) trivial).2.1.symm

end Frames

/-! ### A walk keeps the files -/

section Walks

variable {kb : KeyBackend HostM} (keeps : kb.KeepsFiles)
include keeps

theorem keeps_leafCall (a : Action) (s : String) : Frames Eq (leafCall kb a s) := fun h =>
  (applyScalar_files keeps a s h).symm

theorem keeps_keyIdentity (s : String) : Frames Eq (call (kb.keyIdentity s)) := fun h =>
  (keeps.keyIdentity s h).symm

theorem keeps_value (a : Action) (v : Value) : Frames Eq (value kb a v) := by
  rw [value_eq_traverse]
  exact keeps_bind (keeps_mapM (keeps_leafCall keeps a) _) fun rs => keeps_pure _

theorem keeps_entries (a : Action) (es : List (String × Value)) : Frames Eq (entries kb a es) := by
  rw [entries_eq_traverse]
  exact keeps_bind (keeps_mapM (keeps_leafCall keeps a) _) fun rs => keeps_pure _

-- the item and entry cases reach the backend only through the value case
set_option linter.unusedSectionVars false in
mutual

theorem keeps_collect (pfx : String) (report : KeyReport) : (v : Value) →
    Frames Eq (collect kb Host.tracer pfx report v)
  | .string s => by
    by_cases encrypted : Armor.isEncrypted s = true
    · simp only [collect, encrypted, if_true]
      exact keeps_bind (keeps_keyIdentity keeps s) fun identity =>
        keeps_bind (frames_emit _ _ _ _) fun _ => keeps_pure _
    · simp only [collect, encrypted]
      exact keeps_pure report
  | .sequence xs => by
    rw [collect]
    exact keeps_collectItems pfx 0 report xs
  | .mapping es => by
    rw [collect]
    exact keeps_collectEntries pfx report es
  | .null => keeps_pure report
  | .bool _ => keeps_pure report
  | .number _ => keeps_pure report

theorem keeps_collectItems (pfx : String) (index : Nat) (report : KeyReport) :
    (xs : List Value) → Frames Eq (collectItems kb Host.tracer pfx index report xs)
  | [] => keeps_pure report
  | x :: xs => by
    rw [collectItems]
    exact keeps_bind (keeps_collect _ report x) fun r =>
      keeps_collectItems pfx (index + 1) r xs

theorem keeps_collectEntries (pfx : String) (report : KeyReport) :
    (es : List (String × Value)) → Frames Eq (collectEntries kb Host.tracer pfx report es)
  | [] => keeps_pure report
  | (k, v) :: es => by
    rw [collectEntries]
    exact keeps_bind (keeps_collect _ report v) fun r =>
      keeps_collectEntries pfx r es

end

theorem keeps_collectTop (report : KeyReport) : (es : List (String × Value)) →
    Frames Eq (collectTop kb Host.tracer report es)
  | [] => keeps_pure report
  | (k, v) :: es => by
    rw [collectTop]
    exact keeps_bind (keeps_collect keeps k report v) fun r =>
      keeps_collectTop r es

theorem keeps_atPath (d : Document) (a : Action) (p : ColonPath) :
    Frames Eq (atPath kb d a p) := by
  cases found : d.get p with
  | none =>
    simp only [atPath, found]
    exact keeps_throw _
  | some v =>
    cases v with
    | string s =>
      simp only [atPath, found, pure_bind]
      refine keeps_bind (keeps_leafCall keeps a s) fun r => ?_
      split
      · exact keeps_pure _
      · split
        · exact keeps_pure _
        · exact keeps_throw _
    | null =>
      cases a <;> simp [atPath, found, Action.transforms] <;>
        first | exact keeps_pure _ | exact keeps_throw _
    | bool _ | number _ | sequence _ | mapping _ =>
      cases a <;> simp only [atPath, found] <;> exact keeps_throw _

theorem keeps_perform (d : Document) (a : Action) (scope : Scope) :
    Frames Eq (perform kb Host.tracer d a scope) := by
  unfold perform
  refine frames_within _ ?_
  cases scope with
  | path p => exact keeps_atPath keeps d a p
  | all =>
    cases a with
    | identify =>
      exact keeps_bind (keeps_collectTop keeps [] d.entries) fun report =>
        keeps_bind (frames_emit _ _ _ _) fun _ => keeps_pure _
    | encrypt | decrypt | rotate =>
      exact keeps_bind (keeps_entries keeps _ d.entries) fun es =>
        keeps_pure _
  | element name =>
    cases a with
    | identify =>
      dsimp only
      cases d.element name with
      | some v =>
        exact keeps_bind (keeps_collect keeps name [] v) fun report =>
          keeps_bind (frames_emit _ _ _ _) fun _ => keeps_pure _
      | none =>
        exact keeps_bind (keeps_pure []) fun report =>
          keeps_bind (frames_emit _ _ _ _) fun _ => keeps_pure _
    | encrypt | decrypt | rotate =>
      dsimp only
      cases d.element name with
      | some v =>
        exact keeps_bind (keeps_value keeps _ v) fun w =>
          keeps_pure _
      | none =>
        exact keeps_bind (frames_emit _ _ _ _) fun _ =>
          keeps_pure _

end Walks

end Walk

/-! ### Trees that only gain entries -/

namespace FileTree

variable {t t' t'' : FileTree}

/-- `t'` holds every entry of `t`, and each entry it adds is a directory of mode 700 or, at the
place of the file `source` names, an empty file of mode 600: what reading a missing pillar file
makes. -/
structure OnlyAdds (source : Source) (t t' : FileTree) : Prop where
  sameCwd : t'.cwd = t.cwd
  keeps : ∀ q e, t.lookup q = some e → t'.lookup q = some e
  adds : ∀ q e, t'.lookup q = some e → t.lookup q = none →
    e = .dir 0o700 ∨ e = .file [] 0o600 ∧ ∃ s, source = .file s ∧ t'.place s = .ok (q, false)

namespace OnlyAdds

variable {source : Source}

theorem refl (t : FileTree) : OnlyAdds source t t where
  sameCwd := rfl
  keeps _ _ held := held
  adds _ _ held absent := by
    rw [held] at absent
    cases absent

theorem of_eq (same : t = t') : OnlyAdds source t t' := same ▸ refl t

theorem dirs (grown : OnlyAdds source t t') :
    ∀ q m, t.lookup q = some (.dir m) → t'.lookup q = some (.dir m) :=
  fun q m held => grown.keeps q (.dir m) held

theorem trans (first : OnlyAdds source t t') (second : OnlyAdds source t' t'') :
    OnlyAdds source t t'' where
  sameCwd := second.sameCwd.trans first.sameCwd
  keeps q e held := second.keeps q e (first.keeps q e held)
  adds q e held absent := by
    cases middle : t'.lookup q with
    | none => exact second.adds q e held middle
    | some e' =>
      -- an entry the first step added is still there, where the source's file still is
      have same : e' = e := by
        rw [second.keeps q e' middle] at held
        exact Option.some.inj held
      subst same
      rcases first.adds q e' middle absent with made | ⟨empty, s, named, placed⟩
      · exact .inl made
      · exact .inr ⟨empty, s, named, place_of_keepsDirs second.dirs second.sameCwd placed⟩

theorem stat_file (grown : OnlyAdds source t t') {s : String} {bytes : List UInt8} {m : Nat}
    (found : t.stat s = .ok (.file bytes m)) : t'.stat s = .ok (.file bytes m) := by
  obtain ⟨p, placed, held⟩ := stat_eq_file_iff.mp found
  exact stat_of_file (place_of_keepsDirs grown.dirs grown.sameCwd placed) (grown.keeps p _ held)

theorem put_dir {q : List String} (absent : t.lookup q = none) :
    OnlyAdds source t (t.put q (.dir 0o700)) where
  sameCwd := cwd_put _ _
  keeps q' e held := by
    rw [lookup_put (ne_nil_of_lookup_none absent), if_neg]
    · exact held
    · rintro rfl
      rw [held] at absent
      cases absent
  adds q' e held _ := by
    rw [lookup_put (ne_nil_of_lookup_none absent)] at held
    split_ifs at held with here
    · exact .inl (Option.some.inj held).symm
    · exact absurd held (by simp_all)

theorem put_source {q : List String} {s : String} (absent : t.lookup q = none)
    (placed : t.place s = .ok (q, false)) :
    OnlyAdds (.file s) t (t.put q (.file [] 0o600)) := by
  have nonempty := ne_nil_of_lookup_none absent
  have dirs : ∀ q' m, t.lookup q' = some (.dir m) →
      (t.put q (.file [] 0o600)).lookup q' = some (.dir m) :=
    dirs_put (fun m held => by rw [absent] at held; cases held) nonempty _
  refine ⟨cwd_put _ _, fun q' e held => ?_, fun q' e held was => ?_⟩
  · rw [lookup_put nonempty, if_neg]
    · exact held
    · rintro rfl
      rw [held] at absent
      cases absent
  · rw [lookup_put nonempty] at held
    split_ifs at held with here
    · subst here
      exact .inr ⟨(Option.some.inj held).symm, s, rfl, place_of_keepsDirs dirs (cwd_put _ _) placed⟩
    · rw [held] at was
      cases was

end OnlyAdds

theorem mkdir_onlyAdds {source : Source} {path : String} (made : t.mkdir path 0o700 = .ok t') :
    OnlyAdds source t t' := by
  unfold mkdir at made
  split at made
  · cases made
  · cases made
  · rename_i ns _ _ _
    rcases located : t.locate (t.origin path) ns with failure | p
    · simp [located, bind, Except.bind] at made
    · simp only [located, bind, Except.bind] at made
      cases held : t.lookup p with
      | some e =>
        rw [held] at made
        cases made
      | none =>
        rw [held] at made
        cases made
        exact OnlyAdds.put_dir held

theorem mkdirAll_onlyAdds {source : Source} : ∀ (fuel : Nat) {path : String} {t t' : FileTree},
    t.mkdirAll path 0o700 fuel = .ok t' → OnlyAdds source t t'
  | 0, _, _, _, made => by
    rw [mkdirAll] at made
    cases made
  | fuel + 1, path, t, t', made => by
    rw [mkdirAll] at made
    by_cases empty : path.isEmpty = true
    · rw [if_pos empty] at made
      cases made
      exact OnlyAdds.refl t
    rw [if_neg empty] at made
    split at made
    · rename_i made' direct
      cases made
      exact mkdir_onlyAdds direct
    · -- a missing parent is made first, then the directory in it
      split at made
      · cases made
      · rename_i parent _
        rcases parents : t.mkdirAll parent 0o700 fuel with failure | t₁
        · simp [parents, bind, Except.bind] at made
        · simp only [parents, bind, Except.bind] at made
          have first : OnlyAdds source t t₁ := mkdirAll_onlyAdds fuel parents
          split at made
          · rename_i made' again
            cases made
            exact first.trans (mkdir_onlyAdds again)
          · by_cases isDir : t₁.isDir path = true
            · rw [if_pos isDir] at made
              cases made
              exact first
            · rw [if_neg isDir] at made
              cases made
    · by_cases isDir : t.isDir path = true
      · rw [if_pos isDir] at made
        cases made
        exact OnlyAdds.refl t
      · rw [if_neg isDir] at made
        cases made

theorem touch_onlyAdds {s : String} (made : t.touch s 0o600 = .ok t') : OnlyAdds (.file s) t t' := by
  unfold touch at made
  split at made
  · cases made
  · cases made
  · rename_i ns mustBeDir _ named
    rcases located : t.locate (t.origin s) ns with failure | p
    · simp [located, bind, Except.bind] at made
    · simp only [located, bind, Except.bind] at made
      cases mustBeDir with
      | true => cases made
      | false =>
        simp only [Bool.false_eq_true, if_false] at made
        have placed : t.place s = .ok (p, false) := place_iff.mpr ⟨ns, named, located⟩
        cases held : t.lookup p with
        | none =>
          rw [held] at made
          cases made
          exact OnlyAdds.put_source held placed
        | some e =>
          cases e with
          | dir m =>
            rw [held] at made
            cases made
          | file b m =>
            rw [held] at made
            cases made
            exact OnlyAdds.refl t

end FileTree

/-! ### Reading and writing only add what they must -/

namespace Store

variable {source : Source}

theorem createDirs_onlyAdds (dir : String) (h : Host) :
    h.files.OnlyAdds source ((createDirs dir).run h).2.files := by
  unfold createDirs
  simp only [StateT.run_bind, StateT.run_get, pure_bind]
  split_ifs
  · exact .refl _
  · split
    · rename_i t' made
      exact FileTree.mkdirAll_onlyAdds _ made
    · exact .refl _

theorem read_onlyAdds (h : Host) : h.files.OnlyAdds source ((read source).run h).2.files := by
  cases source with
  | stdin =>
    unfold read
    rw [Host.run_bind_of_run (show Host.takeStdin.run h =
      (h.stdin, { h with stdin := [], stdinTaken := true }) from rfl)]
    split <;> exact .refl _
  | file s =>
    unfold read
    rw [Host.run_get_bind]
    dsimp only
    by_cases there : h.files.exists? s = true
    · -- a file or directory that is there is only read
      rw [if_neg (by simp [there])]
      split_ifs
      · exact .refl _
      · split
        · exact .refl _
        · split <;> exact .refl _
    · rw [if_pos (by simpa using there), Host.run_emit_bind]
      have start : h.files.OnlyAdds (.file s)
          ((Host.emit area .debug "creating missing pillar file" [("path", s)]).run h).2.files :=
        .of_eq (Host.emit_files _ _ _ _ h).symm
      generalize ((Host.emit area .debug "creating missing pillar file" [("path", s)]).run h).2 = h₁
        at start ⊢
      -- the missing directories are made first, then the empty file
      cases FileTree.parentText s with
      | none =>
        rw [Host.run_bind_of_run (show (pure (.ok ()) : HostM (Except Error Unit)).run h₁ =
          (.ok (), h₁) from rfl), Host.run_get_bind]
        split
        · rename_i t' touched
          exact start.trans (FileTree.touch_onlyAdds touched)
        · exact start
      | some parent =>
        rcases ran : (createDirs parent).run h₁ with ⟨made, h₂⟩
        have grown : h.files.OnlyAdds (.file s) h₂.files := by
          have dirs : h₁.files.OnlyAdds (.file s) ((createDirs parent).run h₁).2.files :=
            createDirs_onlyAdds parent h₁
          rw [ran] at dirs
          exact start.trans dirs
        rw [Host.run_bind_of_run ran]
        cases made with
        | error e => exact grown
        | ok u =>
          rw [Host.run_get_bind]
          split
          · rename_i t' touched
            exact grown.trans (FileTree.touch_onlyAdds touched)
          · exact grown


theorem write_file_cases (p text : String) (h : Host) :
    (∃ e, ((write (.file p) text).run h).1 = .error e) ∧
        h.files.OnlyAdds source ((write (.file p) text).run h).2.files ∨
      ((write (.file p) text).run h).1 = .ok text.utf8ByteSize ∧
        ((write (.file p) text).run h).2.files.stat p = .ok (.file (Text.utf8Bytes text) 0o600) := by
  have dirs : h.files.OnlyAdds source ((createDirs (tempDir p)).run h).2.files :=
    createDirs_onlyAdds (tempDir p) h
  have cases := writeAtomic_cases p (Text.utf8Bytes text) (fun _ => pure (.ok ())) (fun _ _ => rfl) h
  rcases ran : (writeAtomic p (Text.utf8Bytes text) fun _ => pure (.ok ())).run h with ⟨r, h₁⟩
  rw [ran] at cases
  unfold write
  rw [Host.run_bind_of_run ran]
  rcases cases with ⟨⟨e, rfl⟩, kept⟩ | ⟨rfl, pl, placed, notDir, written⟩
  · rw [← kept] at dirs
    exact .inl ⟨⟨e, rfl⟩, dirs⟩
  · -- the closing log event touches no file
    have logged := Host.emit_files area .info ("wrote out to file: '" ++ p ++ "'") [] h₁
    dsimp only
    rw [Host.run_emit_bind]
    refine .inr ⟨by rw [Text.length_utf8Bytes]; rfl, ?_⟩
    show ((Host.emit area .info ("wrote out to file: '" ++ p ++ "'") []).run h₁).2.files.stat p = _
    rw [logged, written]
    exact FileTree.stat_put_file placed notDir _ _

end Store

/-! ### What a job leaves -/

namespace Job

variable {kb : KeyBackend HostM} (keeps : kb.KeepsFiles)
include keeps

theorem output_onlyAdds (job : Job) :
    Walk.Frames (FileTree.OnlyAdds job.source) (job.output Store.storage kb Host.tracer) := by
  have refl : ∀ t, FileTree.OnlyAdds job.source t t := FileTree.OnlyAdds.refl
  have trans : ∀ t t' t'', FileTree.OnlyAdds job.source t t' → FileTree.OnlyAdds job.source t' t'' →
      FileTree.OnlyAdds job.source t t'' := fun _ _ _ => FileTree.OnlyAdds.trans
  have read : Walk.Frames (FileTree.OnlyAdds job.source)
      (ExceptT.mk (Store.storage.read job.source)) := fun h => Store.read_onlyAdds h
  unfold output Pillar.load
  exact Walk.frames_bind trans
    (Walk.frames_bind trans read fun text => Walk.frames_of_keeps refl (Walk.keeps_parse _ text))
    fun pillar => Walk.frames_bind trans (Walk.frames_of_keeps refl (Walk.keeps_perform keeps _ _ _))
      fun outcome => Walk.frames_of_keeps refl (Walk.keeps_except _)

theorem run_sink (job : Job) {p : String} (sink : job.sink = .file p) (h : Host) :
    (∀ e, ((job.run Store.storage kb Host.tracer).run.run h).1 = .error e →
      h.files.OnlyAdds job.source ((job.run Store.storage kb Host.tracer).run.run h).2.files) ∧
    (∀ n, ((job.run Store.storage kb Host.tracer).run.run h).1 = .ok n →
      ∃ (o : OpenSpan) (text : String),
        ((job.output Store.storage kb Host.tracer).run.run { h with spans := o :: h.spans }).1 =
          .ok text ∧ n = text.utf8ByteSize ∧
        ((job.run Store.storage kb Host.tracer).run.run h).2.files.stat p =
          .ok (.file (Text.utf8Bytes text) 0o600)) := by
  obtain ⟨o, entering⟩ := Walk.within_run
    ⟨Pillar.area, "job", [("file", .shown job.source.name), ("output", .shown job.sink.name)]⟩
    (job.output Store.storage kb Host.tracer >>= fun out =>
      ExceptT.mk (Store.storage.write job.sink out)).run h
  rw [run_eq_output, ExceptT.run_mk, tracer_within, entering, Walk.run_run_bind]
  dsimp only
  have grown := output_onlyAdds keeps job { h with spans := o :: h.spans }
  rcases made : (job.output Store.storage kb Host.tracer).run.run { h with spans := o :: h.spans }
    with ⟨_ | text, h₁⟩
  · rw [made] at grown
    exact ⟨fun _ _ => grown, fun _ failed => by cases failed⟩
  · rw [made] at grown
    dsimp only
    rw [sink, ExceptT.run_mk]
    dsimp only [Store.storage]
    rcases @Store.write_file_cases job.source p text h₁ with ⟨⟨e, failed⟩, wrote⟩ | ⟨wrote, stored⟩
    · rw [failed]
      exact ⟨fun _ _ => grown.trans wrote, fun _ wrong => by cases wrong⟩
    · rw [wrote]
      exact ⟨fun _ wrong => (by cases wrong), fun n answered => ⟨o, text,
        congrArg Prod.fst made, (Except.ok.inj answered).symm, stored⟩⟩

end Job

/-- A job never damages a sink file. With the GnuPG backend, or any backend that touches no file,
a job that fails, at whichever step and whatever the disk fails, leaves a sink that was there with
its bytes and mode, and adds no file but directories and its empty source, so no temporary file
stays; a job that answers `n` leaves in the sink, private, the text of `n` bytes that its output
renders. On a healthy disk an atomic write runs its last check on a fresh temporary file beside
the target, named after it and holding the bytes, private; when the check fails the write fails
with its error and the files are as they were. -/
theorem job_never_damages_sink :
    (∀ o : GpgOptions, (Gpg.backend o Host.runGpg Host.tracer).KeepsFiles) ∧
    (∀ kb : KeyBackend HostM, kb.KeepsFiles → ∀ (job : Job) (p : String), job.sink = .file p →
      ∀ h : Host,
      let ran := (job.run Store.storage kb Host.tracer).run.run h
      (∀ e, ran.1 = .error e → h.files.OnlyAdds job.source ran.2.files ∧
        ∀ bytes mode, h.files.stat p = .ok (.file bytes mode) →
          ran.2.files.stat p = .ok (.file bytes mode)) ∧
      (∀ n, ran.1 = .ok n → ∃ (o : OpenSpan) (text : String),
        ((job.output Store.storage kb Host.tracer).run.run { h with spans := o :: h.spans }).1 =
          .ok text ∧ n = text.utf8ByteSize ∧
        ran.2.files.stat p = .ok (.file (Text.utf8Bytes text) 0o600))) ∧
    ∀ (h : Host) (dest : String) (bytes : List UInt8)
      (beforeCommit : String → HostM (Except IoError Unit)),
      (∀ s, h.disk s = none) → h.files.isDir (Store.tempDir dest) = true →
      (∀ path, Host.Keeps (beforeCommit path)) →
      ∃ (tmp : List String) (k : Nat),
        let tmpPath := FileTree.joinName (Store.tempDir dest)
          (Store.tempPrefix ++ FileTree.fileName dest ++ toString k)
        h.files.lookup tmp = none ∧ h.files.place tmpPath = .ok (tmp, false) ∧
        ∀ e h', (beforeCommit tmpPath).run { h with files := h.files.put tmp (.file bytes 0o600) } =
            (.error e, h') →
          (Store.writeAtomic dest bytes beforeCommit).run h =
            (.error (.store (.write dest e)), { h' with files := h.files }) := by
  refine ⟨fun o => (Gpg.backend_quiet o).keepsFiles, fun kb keeps job p sink h => ?_,
    fun h dest bytes beforeCommit healthy dirThere hook => ?_⟩
  · obtain ⟨failed, succeeded⟩ := Job.run_sink keeps job sink h
    refine ⟨fun e answered => ?_, succeeded⟩
    have grown := failed e answered
    exact ⟨grown, fun bytes mode found => grown.stat_file found⟩
  · exact Store.writeAtomic_hook_fails bytes healthy dirThere hook

theorem job_never_damages_sink_of_mock :
    let kb := Mock.backend (MockKeys.single "K1") Host.tick
    let job : Job := ⟨.file "db.sls", .file "db.sls", .encrypt, .all, .yaml⟩
    let h := Host.start ⟨[(["db.sls"], .file [] 0o600)], []⟩ [] [] none
    let check : String → HostM (Except IoError Unit) := fun _ => pure (.error .inputOutput)
    kb.KeepsFiles ∧ job.sink = .file "db.sls" ∧
      (∀ e, ((job.run Store.storage kb Host.tracer).run.run h).1 = .error e →
        ((job.run Store.storage kb Host.tracer).run.run h).2.files.stat "db.sls" =
          .ok (.file [] 0o600)) ∧
      (∀ s, h.disk s = none) ∧ h.files.isDir (Store.tempDir "db.sls") = true ∧
      (∀ path, Host.Keeps (check path)) ∧
      ((Store.writeAtomic "db.sls" (Text.utf8Bytes "a: 1\n") check).run h).2.files = h.files := by
  intro kb job h check
  have keeps : kb.KeepsFiles := (Mock.backend_quiet _).keepsFiles
  have found : h.files.stat "db.sls" = .ok (.file [] 0o600) := by decide +kernel
  have healthy : ∀ s, h.disk s = none := fun _ => rfl
  have dirThere : h.files.isDir (Store.tempDir "db.sls") = true := by decide +kernel
  have quiet : ∀ path, Host.Keeps (check path) := fun _ _ => rfl
  obtain ⟨tmp, k, -, -, refused⟩ :=
    job_never_damages_sink.2.2 h "db.sls" (Text.utf8Bytes "a: 1\n") check healthy dirThere quiet
  refine ⟨keeps, rfl, fun e failed => ?_, healthy, dirThere, quiet, ?_⟩
  · exact ((job_never_damages_sink.2.1 kb keeps job "db.sls" rfl h).1 e failed).2 [] 0o600 found
  · rw [refused .inputOutput _ rfl]

end SealedPillar
