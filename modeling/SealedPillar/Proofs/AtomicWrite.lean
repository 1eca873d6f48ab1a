import SealedPillar.Proofs.DirectoryWalk
import SealedPillar.Proofs.Scopes
import SealedPillar.Proofs.Utf8RoundTrip

/-!
Atomic writes to the file system.

A write goes through a temporary file made fresh beside its target (`FileTree.createTemp_ok`):
its bytes are written, synced, measured, made private and handed to a hook, and it is renamed over
the target (`FileTree.rename_ok`). The disk may fail any of these steps. A failed step leaves the
temporary file holding what it held, and removing it then leaves the tree as it was before the
file was made (`FileTree.remove_put`); the rename moves the file's entry over the target's, so a
write that goes through leaves the tree as it was but for the target (`Store.writeAtomic_cases`).
-/

namespace SealedPillar

namespace FileTree

variable {t t' : FileTree}

theorem lookup_put {p : List String} (nonempty : p ≠ []) (e : FsEntry) (q : List String) :
    (t.put p e).lookup q = if q = p then some e else t.lookup q := by
  by_cases top : q = []
  · subst top
    simp [lookup, Ne.symm nonempty]
  rw [lookup_of_ne_nil top, lookup_of_ne_nil top]
  unfold put
  split
  · rename_i present
    -- the entries keep their paths, so the same entry is found first
    have keys : ((·.1 == q) ∘ fun (x : List String × FsEntry) =>
        if x.1 == p then (x.1, e) else (x.1, x.2)) = (·.1 == q) := by
      funext x
      simp only [Function.comp_apply]
      split <;> rfl
    rw [List.find?_map, keys, Option.map_map]
    cases found : t.entries.find? (·.1 == q) with
    | none =>
      have other : q ≠ p := by
        rintro rfl
        obtain ⟨x, member, key⟩ := List.any_eq_true.mp present
        exact List.find?_eq_none.mp found x member key
      simp [other]
    | some x =>
      have at_q : x.1 = q := by simpa using List.find?_some found
      by_cases same : q = p <;> simp [at_q, same]
  · rename_i absent
    rw [List.find?_append]
    cases found : t.entries.find? (·.1 == q) with
    | none =>
      by_cases same : q = p
      · simp [same]
      · simp [same, Ne.symm same]
    | some x =>
      have at_q : x.1 = q := by simpa using List.find?_some found
      have other : q ≠ p := by
        rintro rfl
        exact absent (List.any_eq_true.mpr ⟨x, List.mem_of_find?_eq_some found, by simp [at_q]⟩)
      simp [other]

@[simp]
theorem lookup_put_self {p : List String} (nonempty : p ≠ []) (e : FsEntry) :
    (t.put p e).lookup p = some e := by
  rw [lookup_put nonempty, if_pos rfl]

@[simp]
theorem cwd_put (p : List String) (e : FsEntry) : (t.put p e).cwd = t.cwd := by
  unfold put
  split <;> rfl

@[simp]
theorem cwd_remove (p : List String) : (t.remove p).cwd = t.cwd := rfl

theorem ne_nil_of_lookup_none {q : List String} (absent : t.lookup q = none) : q ≠ [] := by
  rintro rfl
  simp [lookup] at absent

theorem any_of_lookup_none {q : List String} (absent : t.lookup q = none) :
    t.entries.any (·.1 == q) = false := by
  rw [lookup_of_ne_nil (ne_nil_of_lookup_none absent), Option.map_eq_none_iff,
    List.find?_eq_none] at absent
  simpa using absent

theorem lookup_remove {p : List String} (nonempty : p ≠ []) (q : List String) :
    (t.remove p).lookup q = if q = p then none else t.lookup q := by
  by_cases top : q = []
  · subst top
    simp [lookup, Ne.symm nonempty]
  rw [lookup_of_ne_nil top, lookup_of_ne_nil top]
  simp only [remove, List.find?_filter]
  by_cases same : q = p
  · subst same
    simp
  · rw [if_neg same]
    congr 2
    funext x
    by_cases here : x.1 = q
    · simp [here, same]
    · simp [here]

theorem put_put (p : List String) (e e' : FsEntry) : (t.put p e).put p e' = t.put p e' := by
  unfold put
  by_cases present : t.entries.any (·.1 == p) = true
  · -- the first write keeps `p` among the places, so the second maps the entries once more
    rw [if_pos present, if_pos present, if_pos, List.map_map]
    · congr 1
      refine List.map_congr_left fun x _ => ?_
      obtain ⟨q, old⟩ := x
      by_cases at_p : q = p <;> simp [at_p]
    · obtain ⟨x, member, key⟩ := List.any_eq_true.mp present
      refine List.any_eq_true.mpr ⟨_, List.mem_map_of_mem member, ?_⟩
      simp only [beq_iff_eq] at key
      simp [key]
  · -- the first write adds `p` at the end, where the second one replaces its entry
    have absent : ∀ x ∈ t.entries, ¬ x.1 = p := fun x member key =>
      present (List.any_eq_true.mpr ⟨x, member, by simp [key]⟩)
    rw [if_neg present, if_neg present, if_pos, List.map_append]
    · congr 1
      congr 1
      · refine (List.map_congr_left fun x member => ?_).trans (List.map_id' _)
        obtain ⟨q, old⟩ := x
        simp [absent _ member]
      · simp
    · simp

theorem remove_put {p : List String} (absent : t.lookup p = none) (e : FsEntry) :
    (t.put p e).remove p = t := by
  have none := any_of_lookup_none absent
  have others : ∀ x ∈ t.entries, (x.1 != p) = true := by
    intro x member
    have := List.any_eq_false.mp none x member
    simpa using this
  simp only [put, none, Bool.false_eq_true, if_false, remove, List.filter_append,
    List.filter_eq_self.mpr others]
  simp

theorem dirs_put {p : List String} (notDir : ∀ m, t.lookup p ≠ some (.dir m)) (nonempty : p ≠ [])
    (e : FsEntry) : ∀ q m, t.lookup q = some (.dir m) → (t.put p e).lookup q = some (.dir m) := by
  intro q m held
  rw [lookup_put nonempty, if_neg]
  · exact held
  · rintro rfl
    exact notDir m held

theorem locate_of_keepsDirs (dirs : ∀ q m, t.lookup q = some (.dir m) → t'.lookup q = some (.dir m)) :
    ∀ (cur ns : List String) {r : List String}, t.locate cur ns = .ok r → t'.locate cur ns = .ok r
  | _, [], _, located => located
  | _, [_], _, located => located
  | cur, n :: n2 :: rest, r, located => by
    rw [FileTree.locate] at located ⊢
    cases held : t.lookup (if n == ".." then cur.dropLast else cur ++ [n]) with
    | none =>
      rw [held] at located
      cases located
    | some e =>
      cases e with
      | file b m =>
        rw [held] at located
        cases located
      | dir m =>
        rw [held] at located
        rw [dirs _ _ held]
        exact locate_of_keepsDirs dirs _ _ located

theorem place_of_keepsDirs (dirs : ∀ q m, t.lookup q = some (.dir m) → t'.lookup q = some (.dir m))
    (sameCwd : t'.cwd = t.cwd) {s : String} {p : List String} {mustBeDir : Bool}
    (placed : t.place s = .ok (p, mustBeDir)) : t'.place s = .ok (p, mustBeDir) := by
  obtain ⟨ns, named, located⟩ := place_iff.mp placed
  refine place_iff.mpr ⟨ns, named, ?_⟩
  have origin : t'.origin s = t.origin s := by simp [origin, sameCwd]
  rw [origin]
  exact locate_of_keepsDirs dirs _ ns located

theorem notDir_of_put_file {q p : List String} (absent : t.lookup q = none) {b : List UInt8}
    {m : Nat} (notDir : ∀ m', (t.put q (.file b m)).lookup p ≠ some (.dir m')) :
    ∀ m', t.lookup p ≠ some (.dir m') := fun m' held =>
  notDir m' (dirs_put (fun _ found => by simp [absent] at found) (ne_nil_of_lookup_none absent) _
    p m' held)

theorem stat_put_file {s : String} {p : List String} (placed : t.place s = .ok (p, false))
    (notDir : ∀ m, t.lookup p ≠ some (.dir m)) (bytes : List UInt8) (mode : Nat) :
    (t.put p (.file bytes mode)).stat s = .ok (.file bytes mode) := by
  -- the root is a directory, so the place lies below it
  have nonempty : p ≠ [] := by
    rintro rfl
    exact notDir 0o755 rfl
  exact stat_of_file (place_of_keepsDirs (dirs_put notDir nonempty _) (cwd_put _ _) placed)
    (lookup_put_self nonempty _)

theorem place_of_put_file {q : List String} (absent : t.lookup q = none) {b : List UInt8}
    {m : Nat} {s : String} {p : List String} {mustBeDir : Bool}
    (placed : (t.put q (.file b m)).place s = .ok (p, mustBeDir)) :
    t.place s = .ok (p, mustBeDir) := by
  refine place_of_keepsDirs (fun p' m' held => ?_) (cwd_put (t := t) q _).symm placed
  rw [lookup_put (ne_nil_of_lookup_none absent)] at held
  split_ifs at held with here
  · cases held
  · exact held

/-! ### The calls of an atomic write -/

theorem createTemp_ok {dir stem : String} {tmp : List String} {tmpPath : String}
    (made : t.createTemp dir stem = .ok (tmp, tmpPath, t')) :
    t.lookup tmp = none ∧ t' = t.put tmp (.file [] 0o600) ∧
      ∃ k : Nat, tmpPath = joinName dir (stem ++ toString k) := by
  unfold createTemp at made
  rcases placed : t.place dir with failure | ⟨p, mustBeDir⟩
  · simp [placed, bind, Except.bind] at made
  simp only [placed, bind, Except.bind] at made
  split at made
  · split at made
    · rename_i name free
      obtain ⟨fresh, listed⟩ := List.find?_some free, List.mem_of_find?_eq_some free
      obtain ⟨k, -, rfl⟩ := List.mem_map.mp listed
      cases made
      exact ⟨by simpa using fresh, rfl, k, rfl⟩
    · cases made
  · cases made
  · cases made

theorem rename_ok {src : List String} {dest : String} (renamed : t.rename src dest = .ok t') :
    ∃ p e, t.place dest = .ok (p, false) ∧ (∀ m, t.lookup p ≠ some (.dir m)) ∧
      t.lookup src = some e ∧ t' = (t.remove src).put p e := by
  unfold rename at renamed
  split at renamed
  · cases renamed
  · cases renamed
  · rename_i ns mustBeDir _ named
    rcases located : t.locate (t.origin dest) ns with failure | p
    · simp [located, bind, Except.bind] at renamed
    simp only [located, bind, Except.bind] at renamed
    cases mustBeDir with
    | true => cases renamed
    | false =>
      simp only [Bool.false_eq_true, if_false] at renamed
      have placed : t.place dest = .ok (p, false) := place_iff.mpr ⟨ns, named, located⟩
      rcases held : t.lookup src with _ | e
      · rw [held] at renamed
        cases renamed
      · rw [held] at renamed
        have notDir : ∀ m, t.lookup p ≠ some (.dir m) := by
          intro m target
          rw [target] at renamed
          cases renamed
        refine ⟨p, e, placed, notDir, rfl, ?_⟩
        rcases target : t.lookup p with _ | (_ | _) <;> rw [target] at renamed <;> cases renamed <;> rfl

theorem rename_of_place {src : List String} {dest : String} {p : List String} {e : FsEntry}
    (placed : t.place dest = .ok (p, false)) (named : ∀ b, names dest ≠ some ([], b))
    (held : t.lookup src = some e) (notDir : ∀ m, t.lookup p ≠ some (.dir m)) :
    t.rename src dest = .ok ((t.remove src).put p e) := by
  obtain ⟨ns, named', located⟩ := place_iff.mp placed
  obtain ⟨n, rest, rfl⟩ := List.exists_cons_of_ne_nil fun empty => named false (empty ▸ named')
  unfold rename
  rw [named']
  rcases target : t.lookup p with _ | (_ | m)
  · simp only [located, bind, Except.bind, Bool.false_eq_true, if_false, held, target]
  · simp only [located, bind, Except.bind, Bool.false_eq_true, if_false, held, target]
  · exact absurd target (notDir m)

theorem rename_put {tmp : List String} (absent : t.lookup tmp = none) {dest : String}
    {p : List String} (placed : t.place dest = .ok (p, false))
    (named : ∀ b, names dest ≠ some ([], b)) (notDir : ∀ m, t.lookup p ≠ some (.dir m))
    (bytes : List UInt8) (mode : Nat) :
    (t.put tmp (.file bytes mode)).rename tmp dest = .ok (t.put p (.file bytes mode)) := by
  have nonempty := ne_nil_of_lookup_none absent
  have notDirAt : ∀ m, t.lookup tmp ≠ some (.dir m) := fun m found => by simp [absent] at found
  -- the file adds no directory, so the target is where it was and holds no directory
  have placed' : (t.put tmp (.file bytes mode)).place dest = .ok (p, false) :=
    place_of_keepsDirs (dirs_put notDirAt nonempty _) (cwd_put _ _) placed
  have notDir' : ∀ m, (t.put tmp (.file bytes mode)).lookup p ≠ some (.dir m) := by
    intro m found
    rw [lookup_put nonempty] at found
    split_ifs at found
    · cases found
    · exact notDir m found
  rw [rename_of_place placed' named (lookup_put_self nonempty _) notDir', remove_put absent]

theorem exists_free (p : List String) {candidates : List String} (distinct : candidates.Nodup)
    (more : t.entries.length < candidates.length) : ∃ n ∈ candidates, t.lookup (p ++ [n]) = none := by
  by_contra full
  simp only [not_exists, not_and] at full
  have inside : candidates.map (p ++ [·]) ⊆ t.entries.map Prod.fst := by
    intro q member
    obtain ⟨n, listed, rfl⟩ := List.mem_map.mp member
    obtain ⟨e, found⟩ := Option.ne_none_iff_exists'.mp (full n listed)
    exact List.mem_map.mpr ⟨_, mem_of_lookup (by simp) found, rfl⟩
  have injective : Function.Injective (p ++ [·] : String → List String) := fun a b same => by
    simpa using same
  have := ((distinct.map injective).subperm inside).length_le
  simp only [List.length_map] at this
  omega

/-- In a directory, a temporary file is always made: of the names numbered up to the number of
entries, one is free. -/
theorem createTemp_of_dir {dir : String} (stem : String) {p : List String} {mustBeDir : Bool} {m : Nat}
    (placed : t.place dir = .ok (p, mustBeDir)) (isDirAt : t.lookup p = some (.dir m)) :
    ∃ k : Nat, t.lookup (p ++ [stem ++ toString k]) = none ∧
      t.createTemp dir stem = .ok (p ++ [stem ++ toString k], joinName dir (stem ++ toString k),
        t.put (p ++ [stem ++ toString k]) (.file [] 0o600)) := by
  let candidates := (List.range (t.entries.length + 1)).map fun k => stem ++ toString k
  have distinct : candidates.Nodup := List.nodup_range.map fun a b same =>
    Nat.repr_inj.mp ((String.append_right_inj stem).mp same)
  obtain ⟨name, listed, free⟩ := exists_free (t := t) p distinct (by simp [candidates])
  obtain ⟨first, found⟩ : ∃ first,
      candidates.find? (fun name => (t.lookup (p ++ [name])).isNone) = some first :=
    Option.isSome_iff_exists.mp (List.find?_isSome.mpr ⟨name, listed, by simp [free]⟩)
  obtain ⟨k, -, rfl⟩ := List.mem_map.mp (List.mem_of_find?_eq_some found)
  refine ⟨k, by simpa using List.find?_some found, ?_⟩
  simp only [createTemp, placed, isDirAt, bind, Except.bind]
  rw [show (List.range (t.entries.length + 1)).map (fun k => stem ++ toString k) = candidates
    from rfl, found]
  rfl

theorem place_joinName {dir name : String} {p : List String} {mustBeDir : Bool} {m : Nat}
    (placed : t.place dir = .ok (p, mustBeDir)) (isDirAt : t.lookup p = some (.dir m))
    (plain : Plain name) : t.place (joinName dir name) = .ok (p ++ [name], false) := by
  obtain ⟨ns, named, located⟩ := place_iff.mp placed
  have single : ∀ n ∈ [name], Plain n := by simpa using plain
  have joined : joinName dir name = Batch.joinBelow dir [name] := by simp [Batch.joinBelow]
  rw [joined]
  refine place_iff.mpr ⟨ns ++ [name], names_joinBelow named (List.cons_ne_nil _ _) single, ?_⟩
  rw [origin_joinBelow named (List.cons_ne_nil _ _) single,
    locate_append [name] located (.inr ⟨m, isDirAt⟩)]
  exact locate_of_dirs single fun k positive short => by simp at short; omega

theorem slash_not_mem_fileName (path : String) : '/' ∉ (fileName path).toList := by
  unfold fileName
  split
  · rename_i ns mustBeDir named
    split
    · rename_i n last
      split
      · simp
      · have member : n ∈ ns := List.mem_of_getLast? last
        rw [names_eq_filter named] at member
        exact slash_not_mem_of_mem_segments (List.mem_filter.mp member).1
    · simp
  · simp

section File

variable {p : List String} {old : List UInt8} {mode : Nat} (held : t.lookup p = some (.file old mode))
include held

theorem overwrite_of_lookup (bytes : List UInt8) :
    t.overwrite p bytes = .ok (t.put p (.file bytes mode)) := by
  simp [overwrite, held]

theorem size_of_lookup : t.size p = .ok old.length := by
  simp [size, held]

theorem setMode_of_lookup (mode' : Nat) : t.setMode p mode' = .ok (t.put p (.file old mode')) := by
  simp [setMode, held]

end File

section PutFile

variable {p : List String} (nonempty : p ≠ []) (old : List UInt8) (mode : Nat)
include nonempty

theorem overwrite_put_file (bytes : List UInt8) :
    (t.put p (.file old mode)).overwrite p bytes = .ok (t.put p (.file bytes mode)) := by
  rw [overwrite_of_lookup (lookup_put_self nonempty _), put_put]

theorem size_put_file : (t.put p (.file old mode)).size p = .ok old.length :=
  size_of_lookup (lookup_put_self nonempty _)

theorem setMode_put_file (mode' : Nat) :
    (t.put p (.file old mode)).setMode p mode' = .ok (t.put p (.file old mode')) := by
  rw [setMode_of_lookup (lookup_put_self nonempty _), put_put]

end PutFile

end FileTree

/-! ### The steps of an atomic write -/

namespace Host

theorem run_bind_of_run {α β : Type} {x : HostM α} {f : α → HostM β} {h h' : Host} {a : α}
    (ran : x.run h = (a, h')) : (x >>= f).run h = (f a).run h' := by
  rw [StateT.run_bind, ran]
  rfl

theorem run_bind_eq {α β : Type} (x : HostM α) (f : α → HostM β) (h : Host) :
    (x >>= f).run h = (f (x.run h).1).run (x.run h).2 :=
  rfl

theorem run_get_bind {β : Type} (f : Host → HostM β) (h : Host) :
    (get >>= f).run h = (f h).run h :=
  rfl

theorem run_setFiles_bind {β : Type} (t : FileTree) (f : Unit → HostM β) (h : Host) :
    (Host.setFiles t >>= f).run h = (f ()).run { h with files := t } :=
  run_bind_of_run rfl

theorem run_emit_bind {β : Type} (area : String) (level : Level) (message : String)
    (fields : List (String × String)) (f : Unit → HostM β) (h : Host) :
    (Host.emit area level message fields >>= f).run h =
      (f ()).run ((Host.emit area level message fields).run h).2 := by
  rw [StateT.run_bind]
  rfl

def Keeps {α : Type} (x : HostM α) : Prop := ∀ h, (x.run h).2.files = h.files

end Host

namespace Store

variable {dest : String} {s : WriteStep}

theorem ioCall_cases {α : Type} (dest : String) (s : WriteStep) (call : FileTree → Except IoError α)
    (h : Host) :
    (∃ e, (ioCall dest s call).run.run h = (.error e, h)) ∨
      ∃ a, h.disk s = none ∧ call h.files = .ok a ∧ (ioCall dest s call).run.run h = (.ok a, h) := by
  unfold ioCall
  rw [Walk.run_run_get_bind]
  rcases faulty : h.disk s with _ | e
  · rcases answer : call h.files with e | a
    · exact .inl ⟨_, rfl⟩
    · exact .inr ⟨a, rfl, rfl, rfl⟩
  · exact .inl ⟨_, rfl⟩

theorem ioCall_ok {α : Type} {call : FileTree → Except IoError α} {h : Host} {a : α}
    (healthy : h.disk s = none) (answer : call h.files = .ok a) :
    (ioCall dest s call).run.run h = (.ok a, h) := by
  unfold ioCall
  rw [Walk.run_run_get_bind, healthy, answer]
  rfl

theorem ioChange_cases (dest : String) (s : WriteStep) (change : FileTree → Except IoError FileTree)
    (h : Host) :
    (∃ e, (ioChange dest s change).run.run h = (.error e, h)) ∨
      ∃ t, h.disk s = none ∧ change h.files = .ok t ∧
        (ioChange dest s change).run.run h = (.ok (), { h with files := t }) := by
  unfold ioChange
  rw [Walk.run_run_bind]
  rcases ioCall_cases dest s change h with ⟨e, failed⟩ | ⟨t, healthy, changed, ran⟩
  · rw [failed]
    exact .inl ⟨e, rfl⟩
  · rw [ran]
    exact .inr ⟨t, healthy, changed, rfl⟩

theorem ioChange_ok {change : FileTree → Except IoError FileTree} {h : Host} {t : FileTree}
    (healthy : h.disk s = none) (changed : change h.files = .ok t) :
    (ioChange dest s change).run.run h = (.ok (), { h with files := t }) := by
  unfold ioChange
  rw [Walk.run_run_bind, ioCall_ok healthy changed]
  rfl

theorem ioCall_fault {α : Type} {call : FileTree → Except IoError α} {h : Host} {e : IoError}
    (faulty : h.disk s = some e) :
    (ioCall dest s call).run.run h = (.error (.store (.write dest e)), h) := by
  unfold ioCall
  rw [Walk.run_run_get_bind, faulty]
  rfl

theorem ioChange_fault {change : FileTree → Except IoError FileTree} {h : Host} {e : IoError}
    (faulty : h.disk s = some e) :
    (ioChange dest s change).run.run h = (.error (.store (.write dest e)), h) := by
  unfold ioChange
  rw [Walk.run_run_bind, ioCall_fault faulty]

theorem createDirs_of_isDir {dir : String} {h : Host} (isDir : h.files.isDir dir = true) :
    (createDirs dir).run h = (.ok (), h) := by
  obtain ⟨p, mustBeDir, m, placed, found⟩ := FileTree.isDir_iff.mp isDir
  have there : h.files.exists? dir = true := by
    simp [FileTree.exists?, FileTree.stat_of_dir placed found, Except.toOption]
  simp [createDirs, there]
  rfl

theorem plain_tempName (dest : String) (k : Nat) :
    FileTree.Plain (tempPrefix ++ FileTree.fileName dest ++ toString k) := by
  have chars : (tempPrefix ++ FileTree.fileName dest ++ toString k).toList =
      'g' :: 's' :: 'p' :: '-' :: ((FileTree.fileName dest).toList ++ Nat.toDigits 10 k) := by
    simp [tempPrefix, Nat.repr]
  have digit : ∀ c ∈ Nat.toDigits 10 k, c ≠ '/' := fun c member slash => by
    have := Nat.isDigit_of_mem_toDigits (by decide) (by decide) member
    rw [slash] at this
    cases this
  refine ⟨fun empty => ?_, fun slash => ?_, fun dot => ?_, fun dots => ?_⟩
  · have spelled := congrArg String.toList empty
    rw [chars] at spelled
    simp at spelled
  · rw [chars] at slash
    simp only [List.mem_cons, List.mem_append] at slash
    rcases slash with wrong | wrong | wrong | wrong | inName | inNumber
    · cases wrong
    · cases wrong
    · cases wrong
    · cases wrong
    · exact FileTree.slash_not_mem_fileName dest inName
    · exact digit '/' inNumber rfl
  · have spelled := congrArg String.toList dot
    rw [chars] at spelled
    simp at spelled
  · have spelled := congrArg String.toList dots
    rw [chars] at spelled
    simp at spelled

def commitSteps : List WriteStep := [.writeAll, .syncAll, .metadata, .setPermissions, .persist]

def writeSteps : List WriteStep := .createTemp :: commitSteps

section Prepare

variable {t : FileTree} {tmp : List String} {tmpPath : String} {bytes : List UInt8}
  {beforeCommit : String → HostM (Except IoError Unit)} (absent : t.lookup tmp = none)
  {h : Host} {b : List UInt8} {m : Nat} (held : h.files = t.put tmp (.file b m))
include absent held

theorem prepareTemp_cases (dest : String) (bytes : List UInt8) (hook : Host.Keeps (beforeCommit tmpPath)) :
    (∃ b' m', ((prepareTemp dest tmp tmpPath bytes beforeCommit).run.run h).2.files =
      t.put tmp (.file b' m')) ∧
    (((prepareTemp dest tmp tmpPath bytes beforeCommit).run.run h).1 = .ok () →
      ((prepareTemp dest tmp tmpPath bytes beforeCommit).run.run h).2.files =
        t.put tmp (.file bytes 0o600)) := by
  have nonempty := FileTree.ne_nil_of_lookup_none absent
  unfold prepareTemp
  rw [Walk.run_run_bind]
  rcases ioChange_cases dest .writeAll (·.overwrite tmp bytes) h with
    ⟨e, failed⟩ | ⟨t₁, -, changed, ran⟩
  · rw [failed]
    exact ⟨⟨b, m, held⟩, fun wrong => by cases wrong⟩
  rw [ran]
  dsimp only
  have written : t₁ = t.put tmp (.file bytes m) := by
    rw [held, FileTree.overwrite_put_file nonempty] at changed
    exact (Except.ok.inj changed).symm
  -- syncing and measuring only read the file, which holds the bytes
  rw [Walk.run_run_bind]
  rcases ioCall_cases dest .syncAll (fun _ => .ok ()) { h with files := t₁ } with
    ⟨e, failed⟩ | ⟨_, -, -, synced⟩
  · rw [failed]
    exact ⟨⟨bytes, m, written⟩, fun wrong => by cases wrong⟩
  rw [synced]
  dsimp only
  rw [Walk.run_run_bind]
  rcases ioCall_cases dest .metadata (·.size tmp) { h with files := t₁ } with
    ⟨e, failed⟩ | ⟨copied, -, sized, measured⟩
  · rw [failed]
    exact ⟨⟨bytes, m, written⟩, fun wrong => by cases wrong⟩
  rw [measured]
  dsimp only
  have whole : copied = bytes.length := by
    rw [written, FileTree.size_put_file nonempty] at sized
    exact (Except.ok.inj sized).symm
  subst whole
  simp only [bne_self_eq_false, Bool.false_eq_true, if_false]
  rw [Walk.run_run_bind]
  rcases ioChange_cases dest .setPermissions (·.setMode tmp 0o600)
    { h with files := t₁ } with ⟨e, failed⟩ | ⟨t₂, -, changed, ran⟩
  · rw [failed]
    exact ⟨⟨bytes, m, written⟩, fun wrong => by cases wrong⟩
  rw [ran]
  dsimp only
  have restricted : t₂ = t.put tmp (.file bytes 0o600) := by
    rw [written, FileTree.setMode_put_file nonempty] at changed
    exact (Except.ok.inj changed).symm
  -- the hook reads what it likes and leaves the files alone
  rcases hooked : (beforeCommit tmpPath).run { h with files := t₂ } with ⟨r, h₃⟩
  have kept : h₃.files = t₂ := by
    have := hook { h with files := t₂ }
    rwa [hooked] at this
  rw [ExceptT.run_mk, Host.run_bind_of_run hooked]
  rcases r with e | ⟨⟩
  · exact ⟨⟨bytes, 0o600, kept.trans restricted⟩, fun wrong => by cases wrong⟩
  · exact ⟨⟨bytes, 0o600, kept.trans restricted⟩, fun _ => kept.trans restricted⟩

theorem prepareTemp_plain (dest tmpPath : String) (bytes : List UInt8) :
    ∃ b' m', (prepareTemp dest tmp tmpPath bytes fun _ => pure (.ok ())).run.run h =
      ([WriteStep.writeAll, .syncAll, .metadata, .setPermissions].findSome? h.disk).elim
        (.ok (), { h with files := t.put tmp (.file bytes 0o600) })
        fun e => (.error (.store (.write dest e)), { h with files := t.put tmp (.file b' m') }) := by
  have nonempty := FileTree.ne_nil_of_lookup_none absent
  have written : h.files.overwrite tmp bytes = .ok (t.put tmp (.file bytes m)) := by
    rw [held, FileTree.overwrite_put_file nonempty]
  -- the steps change the files only, so the disk answers each of them as it did
  have stays : ∀ {s o} f, h.disk s = o → ({ h with files := f } : Host).disk s = o :=
    fun _ same => same
  unfold prepareTemp
  rw [Walk.run_run_bind]
  rcases c1 : h.disk .writeAll with _ | e
  swap
  · -- each step the disk fails ends the steps with the file as it is
    rw [ioChange_fault c1]
    refine ⟨b, m, ?_⟩
    simp only [List.findSome?_cons, c1, Option.elim]
    rw [← held]
  -- once the bytes are written, a failed step leaves them there
  refine ⟨bytes, m, ?_⟩
  rw [ioChange_ok c1 written]
  dsimp only
  rw [Walk.run_run_bind]
  rcases c2 : h.disk .syncAll with _ | e
  swap
  · rw [ioCall_fault (stays _ c2)]
    simp only [List.findSome?_cons, c1, c2, Option.elim]
  rw [@ioCall_ok _ _ _ (fun _ => .ok ()) _ _ (stays _ c2) rfl]
  dsimp only
  rw [Walk.run_run_bind]
  rcases c3 : h.disk .metadata with _ | e
  swap
  · rw [ioCall_fault (stays _ c3)]
    simp only [List.findSome?_cons, c1, c2, c3, Option.elim]
  rw [ioCall_ok (stays _ c3) (FileTree.size_put_file nonempty _ _)]
  dsimp only
  simp only [bne_self_eq_false, Bool.false_eq_true, if_false]
  rw [Walk.run_run_bind]
  rcases c4 : h.disk .setPermissions with _ | e
  swap
  · rw [ioChange_fault (stays _ c4)]
    simp only [List.findSome?_cons, c1, c2, c3, c4, Option.elim]
  rw [ioChange_ok (stays _ c4) (FileTree.setMode_put_file nonempty _ _ 0o600)]
  simp only [List.findSome?_cons, c1, c2, c3, c4, List.findSome?_nil, Option.elim]
  rfl

variable (healthy : ∀ s, h.disk s = none)
include healthy

theorem prepareTemp_healthy {r : Except IoError Unit} {h' : Host}
    (hooked : (beforeCommit tmpPath).run { h with files := t.put tmp (.file bytes 0o600) } =
      (r, h')) :
    (prepareTemp dest tmp tmpPath bytes beforeCommit).run.run h =
      (r.mapError fun e => .store (.write dest e), h') := by
  have nonempty := FileTree.ne_nil_of_lookup_none absent
  -- the steps change the files only, so the disk stays healthy for each of them
  have healthy' : ∀ f s, ({ h with files := f } : Host).disk s = none := fun _ => healthy
  unfold prepareTemp
  rw [Walk.run_run_bind, ioChange_ok (healthy _)
    (held ▸ FileTree.overwrite_put_file nonempty _ _ bytes)]
  dsimp only
  rw [Walk.run_run_bind, @ioCall_ok _ _ _ (fun _ => .ok ()) _ _ (healthy' _ _) rfl]
  dsimp only
  rw [Walk.run_run_bind, ioCall_ok (healthy' _ _) (FileTree.size_put_file nonempty _ _)]
  dsimp only
  simp only [bne_self_eq_false, Bool.false_eq_true, if_false]
  rw [Walk.run_run_bind, ioChange_ok (healthy' _ _) (FileTree.setMode_put_file nonempty _ _ 0o600)]
  dsimp only
  rw [ExceptT.run_mk, Host.run_bind_of_run hooked]
  rcases r with e | ⟨⟩ <;> rfl

end Prepare

section Commit

variable {t : FileTree} {tmp : List String} {tmpPath : String} {bytes : List UInt8}
  {beforeCommit : String → HostM (Except IoError Unit)} (absent : t.lookup tmp = none)
  {h : Host} {b : List UInt8} {m : Nat} (held : h.files = t.put tmp (.file b m))
include absent held

omit held in
theorem run_dropTemp (e : Error) {h₁ : Host} {b₁ : List UInt8} {m₁ : Nat}
    (held₁ : h₁.files = t.put tmp (.file b₁ m₁)) :
    (Host.setFiles (h₁.files.remove tmp) >>= fun () =>
      (pure (.error e) : HostM (Except Error Nat))).run h₁ = (.error e, { h₁ with files := t }) := by
  rw [Host.run_setFiles_bind, held₁, FileTree.remove_put absent]
  rfl

theorem commitTemp_cases (hook : Host.Keeps (beforeCommit tmpPath)) :
    let ran := (commitTemp dest tmp tmpPath bytes beforeCommit).run h
    (∃ e, ran.1 = .error e) ∧ ran.2.files = t ∨
      ran.1 = .ok bytes.length ∧ ∃ p, t.place dest = .ok (p, false) ∧
        (∀ m, t.lookup p ≠ some (.dir m)) ∧ ran.2.files = t.put p (.file bytes 0o600) := by
  intro ran
  unfold ran commitTemp
  obtain ⟨⟨b', m', prepared⟩, whole⟩ :=
    prepareTemp_cases absent held dest bytes hook
  rcases prep : (prepareTemp dest tmp tmpPath bytes beforeCommit).run.run h with ⟨r, h₁⟩
  rw [prep] at prepared whole
  -- a failed step leaves the temporary file, and dropping it gives back the files before it
  rcases r with e | ⟨⟩
  · rw [Host.run_bind_of_run (by rw [Walk.run_run_bind, prep])]
    dsimp only
    rw [Host.run_get_bind, run_dropTemp absent _ prepared]
    exact .inl ⟨⟨e, rfl⟩, rfl⟩
  have written := whole rfl
  rcases ioChange_cases dest .persist (·.rename tmp dest) h₁ with
    ⟨e, failed⟩ | ⟨t', -, renamed, persisted⟩
  · rw [Host.run_bind_of_run (by rw [Walk.run_run_bind, prep]; exact failed)]
    dsimp only
    rw [Host.run_get_bind, run_dropTemp absent _ prepared]
    exact .inl ⟨⟨e, rfl⟩, rfl⟩
  rw [Host.run_bind_of_run (by rw [Walk.run_run_bind, prep]; exact persisted)]
  dsimp only
  rw [Host.run_emit_bind]
  -- the rename moves the temporary file's entry over the target
  obtain ⟨p, e, placed, notDir, moved, rfl⟩ := FileTree.rename_ok renamed
  rw [written, FileTree.lookup_put_self (FileTree.ne_nil_of_lookup_none absent)] at moved
  cases moved
  rw [written] at placed notDir ⊢
  refine .inr ⟨rfl, p, FileTree.place_of_put_file absent placed,
    FileTree.notDir_of_put_file absent notDir, ?_⟩
  rw [FileTree.remove_put absent]
  exact Host.emit_files _ _ _ _ _

theorem commitTemp_plain {p : List String} (placed : t.place dest = .ok (p, false))
    (named : ∀ mustBeDir, FileTree.names dest ≠ some ([], mustBeDir))
    (notDir : ∀ m, t.lookup p ≠ some (.dir m)) :
    (commitTemp dest tmp tmpPath bytes fun _ => pure (.ok ())).run h =
      (commitSteps.findSome? h.disk).elim
        (.ok bytes.length, ((Host.emit area .debug "atomic write complete"
          [("path", dest), ("bytes", toString bytes.length)]).run
            { h with files := t.put p (.file bytes 0o600) }).2)
        fun e => (.error (.store (.write dest e)), { h with files := t }) := by
  obtain ⟨b', m', prepared⟩ :=
    prepareTemp_plain absent held dest tmpPath bytes
  have steps : commitSteps.findSome? h.disk =
      ([WriteStep.writeAll, .syncAll, .metadata, .setPermissions].findSome? h.disk).or
        (h.disk .persist) := by
    rw [show commitSteps = [.writeAll, .syncAll, .metadata, .setPermissions] ++ [.persist] from rfl,
      List.findSome?_append]
    simp [Option.or]
  unfold commitTemp
  rw [steps]
  rcases found : [WriteStep.writeAll, .syncAll, .metadata, .setPermissions].findSome? h.disk
    with _ | e
  · rw [found, Option.elim] at prepared
    rcases last : h.disk .persist with _ | e
    · -- every step goes through: the rename moves the file over the target
      rw [Host.run_bind_of_run (by
        rw [Walk.run_run_bind, prepared]
        exact ioChange_ok last (FileTree.rename_put absent placed named notDir _ _))]
      rw [Host.run_emit_bind]
      rfl
    · rw [Host.run_bind_of_run (by
        rw [Walk.run_run_bind, prepared]
        exact ioChange_fault last)]
      dsimp only
      rw [Host.run_get_bind]
      exact run_dropTemp absent _ rfl
  · rw [found, Option.elim] at prepared
    rw [Host.run_bind_of_run (by rw [Walk.run_run_bind, prepared])]
    dsimp only
    rw [Host.run_get_bind]
    exact run_dropTemp absent _ rfl

variable (healthy : ∀ s, h.disk s = none)
include healthy

theorem commitTemp_hook_fails {e : IoError} {h' : Host}
    (hooked : (beforeCommit tmpPath).run { h with files := t.put tmp (.file bytes 0o600) } =
      (.error e, h')) :
    (commitTemp dest tmp tmpPath bytes beforeCommit).run h =
      (.error (.store (.write dest e)), { h' with files := h'.files.remove tmp }) := by
  unfold commitTemp
  rw [Host.run_bind_of_run (by
    rw [Walk.run_run_bind, prepareTemp_healthy absent held healthy hooked]
    rfl)]
  rfl

end Commit

variable {bytes : List UInt8} {beforeCommit : String → HostM (Except IoError Unit)}

/-- A write with a hook that leaves the files alone either fails and leaves the files as the
making of the target's directory left them, or leaves there the bytes, private, over the target. -/
theorem writeAtomic_cases (dest : String) (bytes : List UInt8)
    (beforeCommit : String → HostM (Except IoError Unit)) (hook : ∀ path, Host.Keeps (beforeCommit path))
    (h : Host) :
    let made := ((createDirs (tempDir dest)).run h).2.files
    let ran := (writeAtomic dest bytes beforeCommit).run h
    (∃ e, ran.1 = .error e) ∧ ran.2.files = made ∨
      ran.1 = .ok bytes.length ∧ ∃ pl, made.place dest = .ok (pl, false) ∧
        (∀ m, made.lookup pl ≠ some (.dir m)) ∧ ran.2.files = made.put pl (.file bytes 0o600) := by
  intro made ran
  unfold ran writeAtomic
  rcases dirs : (createDirs (tempDir dest)).run h with ⟨r, h₁⟩
  have madeFiles : made = h₁.files := by
    unfold made
    rw [dirs]
  rw [Host.run_bind_of_run dirs, madeFiles]
  rcases r with e | ⟨⟩
  · exact .inl ⟨⟨e, rfl⟩, rfl⟩
  dsimp only
  rcases ioCall_cases dest .createTemp
    (·.createTemp (tempDir dest) (tempPrefix ++ FileTree.fileName dest)) h₁ with
    ⟨e, failed⟩ | ⟨⟨tmp, tmpPath, t⟩, -, created, ran⟩
  · rw [Host.run_bind_of_run failed]
    exact .inl ⟨⟨e, rfl⟩, rfl⟩
  rw [Host.run_bind_of_run ran]
  obtain ⟨absent, rfl, -⟩ := FileTree.createTemp_ok created
  dsimp only
  rw [Host.run_setFiles_bind]
  exact commitTemp_cases absent rfl (hook tmpPath)

theorem writeAtomic_made {h : Host} (bytes : List UInt8)
    (beforeCommit : String → HostM (Except IoError Unit)) (made : h.disk .createTemp = none)
    (dirThere : h.files.isDir (tempDir dest) = true) :
    ∃ (tmp : List String) (k : Nat), h.files.lookup tmp = none ∧
      h.files.place (FileTree.joinName (tempDir dest)
        (tempPrefix ++ FileTree.fileName dest ++ toString k)) = .ok (tmp, false) ∧
      (writeAtomic dest bytes beforeCommit).run h =
        (commitTemp dest tmp (FileTree.joinName (tempDir dest)
          (tempPrefix ++ FileTree.fileName dest ++ toString k)) bytes beforeCommit).run
          { h with files := h.files.put tmp (.file [] 0o600) } := by
  obtain ⟨p, mustBeDir, m, placed, isDirAt⟩ := FileTree.isDir_iff.mp dirThere
  obtain ⟨k, free, created⟩ :=
    FileTree.createTemp_of_dir (tempPrefix ++ FileTree.fileName dest) placed isDirAt
  refine ⟨_, k, free, FileTree.place_joinName placed isDirAt (plain_tempName dest k), ?_⟩
  unfold writeAtomic
  rw [Host.run_bind_of_run (createDirs_of_isDir dirThere)]
  dsimp only
  rw [Host.run_bind_of_run (ioCall_ok made created)]
  dsimp only
  rw [Host.run_setFiles_bind]

theorem writeAtomic_hook_fails {h : Host} (bytes : List UInt8)
    {beforeCommit : String → HostM (Except IoError Unit)} (healthy : ∀ s, h.disk s = none)
    (dirThere : h.files.isDir (tempDir dest) = true) (hook : ∀ path, Host.Keeps (beforeCommit path)) :
    ∃ (tmp : List String) (k : Nat),
      let tmpPath := FileTree.joinName (tempDir dest)
        (tempPrefix ++ FileTree.fileName dest ++ toString k)
      h.files.lookup tmp = none ∧ h.files.place tmpPath = .ok (tmp, false) ∧
      ∀ e h', (beforeCommit tmpPath).run { h with files := h.files.put tmp (.file bytes 0o600) } =
          (.error e, h') →
        (writeAtomic dest bytes beforeCommit).run h =
          (.error (.store (.write dest e)), { h' with files := h.files }) := by
  obtain ⟨tmp, k, absent, placed, ran⟩ :=
    writeAtomic_made bytes beforeCommit (healthy .createTemp) dirThere
  refine ⟨tmp, k, absent, placed, fun e h' hooked => ?_⟩
  -- the check leaves the files, so removing the temporary file gives back the first ones
  have kept : h'.files = h.files.put tmp (.file bytes 0o600) :=
    (congrArg (fun ran => ran.2.files) hooked).symm.trans (hook _ _)
  rw [ran, commitTemp_hook_fails (h := { h with files := h.files.put tmp (.file [] 0o600) })
    absent rfl (fun _ => healthy _) hooked, kept, FileTree.remove_put absent]

theorem writeAtomic_plain {h : Host} (dirThere : h.files.isDir (tempDir dest) = true)
    {p : List String} (placed : h.files.place dest = .ok (p, false))
    (named : ∀ mustBeDir, FileTree.names dest ≠ some ([], mustBeDir))
    (notDir : ∀ m, h.files.lookup p ≠ some (.dir m)) :
    (writeAtomic dest bytes fun _ => pure (.ok ())).run h =
      (writeSteps.findSome? h.disk).elim
        (.ok bytes.length, ((Host.emit area .debug "atomic write complete"
          [("path", dest), ("bytes", toString bytes.length)]).run
            { h with files := h.files.put p (.file bytes 0o600) }).2)
        fun e => (.error (.store (.write dest e)), h) := by
  rcases made : h.disk .createTemp with _ | e
  · obtain ⟨tmp, k, absent, -, ran⟩ := writeAtomic_made bytes (fun _ => pure (.ok ())) made dirThere
    rw [ran, commitTemp_plain absent rfl placed named notDir]
    simp only [writeSteps, List.findSome?_cons, made]
  · unfold writeAtomic
    rw [Host.run_bind_of_run (createDirs_of_isDir dirThere)]
    dsimp only
    rw [Host.run_bind_of_run (ioCall_fault made)]
    simp only [writeSteps, List.findSome?_cons, made, Option.elim]
    rfl

theorem write_file_plain {h : Host} {path : String} (text : String)
    (dirThere : h.files.isDir (tempDir path) = true) {p : List String}
    (placed : h.files.place path = .ok (p, false))
    (named : ∀ mustBeDir, FileTree.names path ≠ some ([], mustBeDir))
    (notDir : ∀ m, h.files.lookup p ≠ some (.dir m)) :
    (write (.file path) text).run h =
      (writeSteps.findSome? h.disk).elim
        (.ok text.utf8ByteSize, ((Host.emit area .info ("wrote out to file: '" ++ path ++ "'") []).run
          ((Host.emit area .debug "atomic write complete"
            [("path", path), ("bytes", toString (Text.utf8Bytes text).length)]).run
              { h with files := h.files.put p (.file (Text.utf8Bytes text) 0o600) }).2).2)
        fun e => (.error (.store (.write path e)), h) := by
  unfold write
  rw [StateT.run_bind, writeAtomic_plain dirThere placed named notDir]
  cases writeSteps.findSome? h.disk with
  | none =>
    simp only [Option.elim]
    rw [Text.length_utf8Bytes]
    rfl
  | some e => rfl

end Store

end SealedPillar
