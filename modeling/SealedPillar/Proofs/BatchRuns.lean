import SealedPillar.Proofs.HostRuns

/-!
A batch run over a directory treats its files one by one and accounts for each once.

The loop of a batch run adds each file's outcome to the report (`Batch.tally`): a file that did
something is processed, with its key report filed under its path when identifying, a file with
nothing to do is skipped and a failure is recorded with its error. Over the files found, the report
then holds each file once, on the list its own outcome names, in the order they were found
(`Batch.Accounts`).

The file system changes one file at a time. Each file is run from a machine alike to the first,
with a tree of the first tree's shape that holds the file as it was, so it has the outcome it has
when run alone and leaves the file as its run alone leaves it, and changes no other file
(`Batch.RunsAlone`). For rewriting actions a file's outcome is that of its job: written, empty or
failed; identifying reads each file and writes none.
-/

namespace SealedPillar

namespace BatchReport

variable {file : String} {report : KeyReport} {l : List (String × KeyReport)}

theorem key_mem_insertKeys {entry : String × KeyReport} (member : entry ∈ insertKeys file report l) :
    entry = (file, report) ∨ entry ∈ l := by
  induction l with
  | nil => simpa [insertKeys] using member
  | cons head rest ih =>
    obtain ⟨f, r⟩ := head
    unfold insertKeys at member
    split at member
    · rcases List.mem_cons.mp member with same | later
      · exact .inl same
      · exact .inr (List.mem_cons_of_mem _ later)
    · split at member
      · rcases List.mem_cons.mp member with same | later
        · exact .inl same
        · exact .inr later
      · rcases List.mem_cons.mp member with same | later
        · exact .inr (same ▸ List.mem_cons_self)
        · exact (ih later).imp_right (List.mem_cons_of_mem _)

def KeysSorted (l : List (String × KeyReport)) : Prop := l.Pairwise fun a b => a.1 < b.1

theorem sorted_insertKeys (sorted : KeysSorted l) : KeysSorted (insertKeys file report l) := by
  induction l with
  | nil => simp [KeysSorted, insertKeys]
  | cons head rest ih =>
    obtain ⟨f, r⟩ := head
    obtain ⟨headLess, tailSorted⟩ := List.pairwise_cons.mp sorted
    unfold insertKeys
    split
    · rename_i same
      have same : f = file := by simpa using same
      subst same
      exact List.pairwise_cons.mpr ⟨headLess, tailSorted⟩
    · split
      · rename_i _ less
        have less : file < f := of_decide_eq_true less
        refine List.pairwise_cons.mpr ⟨fun entry member => ?_, sorted⟩
        rcases List.mem_cons.mp member with same | later
        · rw [same]
          exact less
        · exact String.lt_trans less (headLess entry later)
      · rename_i different notLess
        have notLess : ¬ file < f := fun less => notLess (decide_eq_true less)
        have greater : f < file := Std.lt_of_le_of_ne notLess (by simpa using different)
        refine List.pairwise_cons.mpr ⟨fun entry member => ?_, ih tailSorted⟩
        rcases key_mem_insertKeys member with filed | older
        · rw [filed]
          exact greater
        · exact headLess entry older

theorem mem_insertKeys (sorted : KeysSorted l) {f : String} {r : KeyReport} :
    (f, r) ∈ insertKeys file report l ↔ (f = file ∧ r = report) ∨ ((f, r) ∈ l ∧ f ≠ file) := by
  induction l with
  | nil => simp [insertKeys]
  | cons head rest ih =>
    obtain ⟨f', r'⟩ := head
    obtain ⟨headLess, tailSorted⟩ := List.pairwise_cons.mp sorted
    unfold insertKeys
    split
    · rename_i same
      have same : f' = file := by simpa using same
      subst same
      -- the later files all come after this one
      have later : ∀ entry ∈ rest, entry.1 ≠ f' := fun entry member => (headLess entry member).ne'
      constructor
      · intro member
        rcases List.mem_cons.mp member with first | older
        · exact .inl (by simpa using first)
        · exact .inr ⟨List.mem_cons_of_mem _ older, later _ older⟩
      · rintro (⟨rfl, rfl⟩ | ⟨older, other⟩)
        · exact List.mem_cons_self
        · rcases List.mem_cons.mp older with same | tail
          · exact absurd (congrArg Prod.fst same) other
          · exact List.mem_cons_of_mem _ tail
    · split
      · rename_i _ less
        have less : file < f' := of_decide_eq_true less
        -- every file of the list comes after the new one
        have after : ∀ entry ∈ (f', r') :: rest, entry.1 ≠ file := by
          intro entry member
          rcases List.mem_cons.mp member with same | tail
          · rw [same]
            exact less.ne'
          · exact (String.lt_trans less (headLess entry tail)).ne'
        constructor
        · intro member
          rcases List.mem_cons.mp member with first | older
          · exact .inl (by simpa using first)
          · exact .inr ⟨older, after _ older⟩
        · rintro (⟨rfl, rfl⟩ | ⟨older, -⟩)
          · exact List.mem_cons_self
          · exact List.mem_cons_of_mem _ older
      · rename_i different _
        have different : f' ≠ file := by simpa using different
        rw [List.mem_cons, ih tailSorted, List.mem_cons]
        constructor
        · rintro (same | filed | ⟨older, other⟩)
          · obtain ⟨rfl, rfl⟩ := Prod.mk.inj same
            exact .inr ⟨.inl rfl, different⟩
          · exact .inl filed
          · exact .inr ⟨.inr older, other⟩
        · rintro (filed | ⟨same | older, other⟩)
          · exact .inr (.inl filed)
          · exact .inl same
          · exact .inr (.inr ⟨older, other⟩)

end BatchReport

namespace Batch

def tally (action : Action) (r : BatchReport) (path : String) :
    Except Error (Option KeyReport) → BatchReport
  | .ok (some keys) =>
    if action == .identify then
      { r with processed := r.processed ++ [path],
               keys := BatchReport.insertKeys path keys r.keys }
    else { r with processed := r.processed ++ [path] }
  | .ok none => { r with skipped := r.skipped ++ [path] }
  | .error e => { r with failed := r.failed ++ [(path, e)] }

/-- A report accounts for the files done so far when it holds each of them once, on the list its
own outcome names and in the order they were done, with the key reports of the processed files
filed by path when identifying. -/
structure Accounts (action : Action) (outcome : String → Except Error (Option KeyReport))
    (done : List String) (r : BatchReport) : Prop where
  perm : (r.processed ++ r.skipped ++ r.failed.map Prod.fst).Perm done
  processed_sublist : r.processed.Sublist done
  skipped_sublist : r.skipped.Sublist done
  failed_sublist : (r.failed.map Prod.fst).Sublist done
  mem_processed : ∀ p, p ∈ r.processed ↔ p ∈ done ∧ ∃ keys, outcome p = .ok (some keys)
  mem_skipped : ∀ p, p ∈ r.skipped ↔ p ∈ done ∧ outcome p = .ok none
  mem_failed : ∀ p e, (p, e) ∈ r.failed ↔ p ∈ done ∧ outcome p = .error e
  keys_sorted : BatchReport.KeysSorted r.keys
  mem_keys : ∀ p keys, (p, keys) ∈ r.keys ↔
    action = .identify ∧ p ∈ done ∧ outcome p = .ok (some keys)

section Membership

variable {α : Type} {L : List α} {done : List String} (file : α → String) {Q : α → Prop}
  (was : ∀ x, x ∈ L ↔ file x ∈ done ∧ Q x)
include was

-- A list of the entries of the files done that pass a test, as one more file is done.

theorem mem_of_fails {p : String} (fails : ∀ x, file x = p → ¬ Q x) :
    ∀ x, x ∈ L ↔ file x ∈ done ++ [p] ∧ Q x := by
  intro x
  rw [was, List.mem_append, List.mem_singleton]
  constructor
  · rintro ⟨old, passes⟩
    exact ⟨.inl old, passes⟩
  · rintro ⟨old | new, passes⟩
    · exact ⟨old, passes⟩
    · exact absurd passes (fails x new)

theorem mem_append_of_passes (x₀ : α) (passes : Q x₀) (only : ∀ x, file x = file x₀ → Q x → x = x₀) :
    ∀ x, x ∈ L ++ [x₀] ↔ file x ∈ done ++ [file x₀] ∧ Q x := by
  intro x
  rw [List.mem_append, List.mem_singleton, was, List.mem_append, List.mem_singleton]
  constructor
  · rintro (⟨old, holds⟩ | rfl)
    · exact ⟨.inl old, holds⟩
    · exact ⟨.inr rfl, passes⟩
  · rintro ⟨old | new, holds⟩
    · exact .inl ⟨old, holds⟩
    · exact .inr (only x new holds)

end Membership

namespace Accounts

variable {action : Action} {outcome : String → Except Error (Option KeyReport)}
  {done : List String} {r : BatchReport}

theorem empty : Accounts action outcome [] BatchReport.empty where
  perm := .nil
  processed_sublist := .slnil
  skipped_sublist := .slnil
  failed_sublist := .slnil
  mem_processed _ := by simp [BatchReport.empty]
  mem_skipped _ := by simp [BatchReport.empty]
  mem_failed _ _ := by simp [BatchReport.empty]
  keys_sorted := .nil
  mem_keys _ _ := by simp [BatchReport.empty]

theorem perm_push {P S F done : List String} (perm : (P ++ S ++ F).Perm done) (p : String) :
    ((P ++ [p]) ++ S ++ F).Perm (done ++ [p]) ∧ (P ++ (S ++ [p]) ++ F).Perm (done ++ [p]) ∧
      (P ++ S ++ (F ++ [p])).Perm (done ++ [p]) := by
  refine ⟨?_, ?_, ?_⟩ <;>
  · refine List.Perm.trans ?_ (perm.append_right [p])
    exact List.perm_iff_count.mpr fun a => by simp only [List.count_append]; omega

variable (acc : Accounts action outcome done r)
include acc

theorem mem_failed' : ∀ x : String × Error, x ∈ r.failed ↔ x.1 ∈ done ∧ outcome x.1 = .error x.2 :=
  fun x => acc.mem_failed x.1 x.2

-- A list whose test the next file fails keeps its members when the file is done.

theorem mem_processed_push {p : String} (unreported : ∀ keys, outcome p ≠ .ok (some keys)) :
    ∀ x, x ∈ r.processed ↔ x ∈ done ++ [p] ∧ ∃ keys, outcome x = .ok (some keys) :=
  mem_of_fails id acc.mem_processed fun x same did => by
    obtain ⟨keys, did⟩ := did
    exact unreported keys ((show x = p from same) ▸ did)

theorem mem_skipped_push {p : String} (unskipped : outcome p ≠ .ok none) :
    ∀ x, x ∈ r.skipped ↔ x ∈ done ++ [p] ∧ outcome x = .ok none :=
  mem_of_fails id acc.mem_skipped fun x same skipped => unskipped ((show x = p from same) ▸ skipped)

theorem mem_failed_push {p : String} (unfailed : ∀ e, outcome p ≠ .error e) :
    ∀ x : String × Error, x ∈ r.failed ↔ x.1 ∈ done ++ [p] ∧ outcome x.1 = .error x.2 :=
  mem_of_fails Prod.fst acc.mem_failed' fun x same failure => unfailed x.2 (same ▸ failure)

theorem mem_keys_push {p : String} (unreported : ∀ keys, outcome p ≠ .ok (some keys)) :
    ∀ p' keys, (p', keys) ∈ r.keys ↔
      action = .identify ∧ p' ∈ done ++ [p] ∧ outcome p' = .ok (some keys) := by
  intro p' keys
  rw [acc.mem_keys, List.mem_append, List.mem_singleton]
  constructor
  · rintro ⟨identifying, old, did⟩
    exact ⟨identifying, .inl old, did⟩
  · rintro ⟨identifying, old | rfl, did⟩
    · exact ⟨identifying, old, did⟩
    · exact absurd did (unreported keys)

theorem mem_insertKeys_push {p : String} {keys : KeyReport} (identifying : action = .identify)
    (answered : outcome p = .ok (some keys)) :
    ∀ p' keys', (p', keys') ∈ BatchReport.insertKeys p keys r.keys ↔
      action = .identify ∧ p' ∈ done ++ [p] ∧ outcome p' = .ok (some keys') := by
  intro p' keys'
  rw [BatchReport.mem_insertKeys acc.keys_sorted, acc.mem_keys, List.mem_append,
    List.mem_singleton]
  constructor
  · rintro (⟨rfl, rfl⟩ | ⟨⟨-, old, did⟩, -⟩)
    · exact ⟨identifying, .inr rfl, answered⟩
    · exact ⟨identifying, .inl old, did⟩
  · rintro ⟨-, where_, did⟩
    by_cases same : p' = p
    · subst same
      rw [answered] at did
      cases did
      exact .inl ⟨rfl, rfl⟩
    · exact .inr ⟨⟨identifying, where_.resolve_right same, did⟩, same⟩

theorem tally_processed {p : String} {keys : KeyReport} (answered : outcome p = .ok (some keys)) :
    Accounts action outcome (done ++ [p]) (Batch.tally action r p (.ok (some keys))) := by
  obtain ⟨pushP, -, -⟩ := perm_push acc.perm p
  have grown : done.Sublist (done ++ [p]) := List.sublist_append_left done [p]
  have processed := mem_append_of_passes id acc.mem_processed p ⟨keys, answered⟩
    fun _ same _ => same
  have skipped := acc.mem_skipped_push (p := p) (by simp [answered])
  have failed := acc.mem_failed_push (p := p) (by simp [answered])
  -- only identifying files the file's keys
  by_cases identifying : action = .identify
  · have isIdentify : (action == .identify) = true := by simpa using identifying
    simp only [Batch.tally, isIdentify, if_true]
    exact ⟨pushP, acc.processed_sublist.append (.refl [p]), acc.skipped_sublist.trans grown,
      acc.failed_sublist.trans grown, processed, skipped, fun p' e => failed (p', e),
      BatchReport.sorted_insertKeys acc.keys_sorted, acc.mem_insertKeys_push identifying answered⟩
  · have notIdentify : (action == .identify) = false := by simpa using identifying
    simp only [Batch.tally, notIdentify, Bool.false_eq_true, if_false]
    refine ⟨pushP, acc.processed_sublist.append (.refl [p]), acc.skipped_sublist.trans grown,
      acc.failed_sublist.trans grown, processed, skipped, fun p' e => failed (p', e),
      acc.keys_sorted, fun p' keys' => ?_⟩
    rw [acc.mem_keys]
    simp [identifying]

theorem tally_skipped {p : String} (answered : outcome p = .ok none) :
    Accounts action outcome (done ++ [p]) (Batch.tally action r p (.ok none)) := by
  obtain ⟨-, pushS, -⟩ := perm_push acc.perm p
  have grown : done.Sublist (done ++ [p]) := List.sublist_append_left done [p]
  exact ⟨pushS, acc.processed_sublist.trans grown, acc.skipped_sublist.append (.refl [p]),
    acc.failed_sublist.trans grown, acc.mem_processed_push (by simp [answered]),
    mem_append_of_passes id acc.mem_skipped p answered fun _ same _ => same,
    fun p' e => acc.mem_failed_push (p := p) (by simp [answered]) (p', e), acc.keys_sorted,
    acc.mem_keys_push (by simp [answered])⟩

theorem tally_failed {p : String} {e : Error} (answered : outcome p = .error e) :
    Accounts action outcome (done ++ [p]) (Batch.tally action r p (.error e)) := by
  obtain ⟨-, -, pushF⟩ := perm_push acc.perm p
  have grown : done.Sublist (done ++ [p]) := List.sublist_append_left done [p]
  -- the file is filed once, with its own error
  have failed := mem_append_of_passes Prod.fst acc.mem_failed' (p, e) answered
    fun x same failure => by
      obtain ⟨p', e'⟩ := x
      simp only at same failure
      subst same
      rw [answered] at failure
      cases failure
      rfl
  exact ⟨by simpa [Batch.tally] using pushF, acc.processed_sublist.trans grown,
    acc.skipped_sublist.trans grown,
    by simpa [Batch.tally] using acc.failed_sublist.append (.refl [p]),
    acc.mem_processed_push (by simp [answered]), acc.mem_skipped_push (by simp [answered]),
    fun p' e' => failed (p', e'), acc.keys_sorted, acc.mem_keys_push (by simp [answered])⟩

theorem tally (p : String) :
    Accounts action outcome (done ++ [p]) (Batch.tally action r p (outcome p)) := by
  cases answered : outcome p with
  | ok result =>
    cases result with
    | some keys => exact acc.tally_processed answered
    | none => exact acc.tally_skipped answered
  | error e => exact acc.tally_failed answered

theorem total_eq : r.total = done.length := by
  have counted := acc.perm.length_eq
  simp only [List.length_append, List.length_map] at counted
  simp only [BatchReport.total]
  omega

theorem not_processed {p : String} (unprocessed : p ∈ r.skipped ++ r.failed.map Prod.fst) :
    p ∈ done ∧ ∀ keys, outcome p ≠ .ok (some keys) := by
  rcases List.mem_append.mp unprocessed with skipped | failed
  · obtain ⟨member, none⟩ := (acc.mem_skipped p).mp skipped
    exact ⟨member, fun keys did => by rw [none] at did; cases did⟩
  · obtain ⟨⟨p', e⟩, entry, rfl⟩ := List.mem_map.mp failed
    obtain ⟨member, failure⟩ := (acc.mem_failed p' e).mp entry
    exact ⟨member, fun keys did => by rw [failure] at did; cases did⟩

theorem foldl (l : List String) :
    Accounts action outcome (done ++ l) (l.foldl (fun r p => Batch.tally action r p (outcome p)) r) := by
  induction l generalizing done r with
  | nil => simpa using acc
  | cons p l ih =>
    rw [List.foldl_cons, List.append_cons]
    exact ih (acc.tally p)

end Accounts

/-- A run that, from every machine alike to the first whose tree has the first tree's shape and
holds a place as the first tree does, gives the answer it gives from the first, leaves that place
as it leaves it there, changes neither another place nor the shape of the tree, and leaves the
machine alike. -/
def RunsAlone {α : Type} (x : HostM α) (h : Host) (pl : List String) : Prop :=
  ∀ g : Host, h.Alike g → h.files.SameShape g.files → g.files.lookup pl = h.files.lookup pl →
    (x.run g).1 = (x.run h).1 ∧ (x.run g).2.files.lookup pl = (x.run h).2.files.lookup pl ∧
    (∀ q ≠ pl, (x.run g).2.files.lookup q = g.files.lookup q) ∧
    g.files.SameShape (x.run g).2.files ∧ h.Alike (x.run g).2

section Loop

variable {kb : KeyBackend HostM} {action : Action} {scope : Scope} {h : Host} {dir : String}
  {root : List String} {f : BatchReport → String → HostM BatchReport}
  (body : ∀ r p g, ((f r p).run g).1 = tally action r p ((processFile kb action scope p).run g).1 ∧
    ((f r p).run g).2.files = ((processFile kb action scope p).run g).2.files ∧
    ((processFile kb action scope p).run g).2.Alike ((f r p).run g).2)
include body

theorem foldlM_run (rels : List (List String))
    (each : ∀ rel ∈ rels, RunsAlone (processFile kb action scope (joinBelow dir rel)) h (root ++ rel))
    (distinct : rels.Nodup) (r : BatchReport) (g : Host) (alike : h.Alike g)
    (shape : h.files.SameShape g.files)
    (fresh : ∀ rel ∈ rels, g.files.lookup (root ++ rel) = h.files.lookup (root ++ rel)) :
    let ran := ((rels.map (joinBelow dir)).foldlM f r).run g
    ran.1 = (rels.map (joinBelow dir)).foldl
        (fun r p => tally action r p ((processFile kb action scope p).run h).1) r ∧
      h.files.SameShape ran.2.files ∧
      (∀ rel ∈ rels, ran.2.files.lookup (root ++ rel) =
        ((processFile kb action scope (joinBelow dir rel)).run h).2.files.lookup (root ++ rel)) ∧
      ∀ q, (∀ rel ∈ rels, q ≠ root ++ rel) → ran.2.files.lookup q = g.files.lookup q := by
  induction rels generalizing r g with
  | nil => exact ⟨rfl, shape, fun _ none => (by cases none), fun _ _ => rfl⟩
  | cons rel rels ih =>
    obtain ⟨absent, distinctTail⟩ := List.nodup_cons.mp distinct
    obtain ⟨answer, atFile, elsewhere, stillShape, stillAlike⟩ :=
      each rel List.mem_cons_self g alike shape (fresh rel List.mem_cons_self)
    obtain ⟨stepAnswer, stepFiles, stepAlike⟩ := body r (joinBelow dir rel) g
    -- the places of the other files are not this file's
    have apart : ∀ rel' ∈ rels, root ++ rel' ≠ root ++ rel := fun rel' member same =>
      absent ((List.append_cancel_left same) ▸ member)
    set g₁ := ((f r (joinBelow dir rel)).run g).2 with g₁_def
    have shape₁ : h.files.SameShape g₁.files := shape.trans (stepFiles ▸ stillShape)
    have alike₁ : h.Alike g₁ := stillAlike.trans stepAlike
    have fresh₁ : ∀ rel' ∈ rels, g₁.files.lookup (root ++ rel') = h.files.lookup (root ++ rel') := by
      intro rel' member
      rw [stepFiles, elsewhere _ (apart rel' member), fresh rel' (List.mem_cons_of_mem _ member)]
    obtain ⟨ranAnswer, ranShape, ranFiles, ranFrame⟩ := ih
      (fun rel' member => each rel' (List.mem_cons_of_mem _ member)) distinctTail _ g₁ alike₁ shape₁
      fresh₁
    have first : (f r (joinBelow dir rel)).run g = (((f r (joinBelow dir rel)).run g).1, g₁) := rfl
    rw [List.map_cons, List.foldlM_cons, Host.run_bind_of_run first]
    refine ⟨?_, ranShape, fun rel' member => ?_, fun q away => ?_⟩
    · rw [ranAnswer, stepAnswer, answer, List.foldl_cons]
    · rcases List.mem_cons.mp member with rfl | later
      · rw [ranFrame _ fun rel'' member'' same => apart rel'' member'' same.symm, stepFiles, atFile]
      · exact ranFiles rel' later
    · rw [ranFrame q fun rel' member => away rel' (List.mem_cons_of_mem _ member), stepFiles,
        elsewhere q (away rel List.mem_cons_self)]

end Loop

section OneFile

variable {kb : KeyBackend HostM} {action : Action} {scope : Scope}

theorem processFile_rewrite_run (notIdentify : action ≠ .identify) {p : String} {g g₂ : Host}
    {answer : Except Error Nat}
    (ran : (Job.run Store.storage kb Host.tracer ⟨.file p, .file p, action, scope, .yaml⟩).run.run g =
      (answer, g₂)) :
    ((processFile kb action scope p).run g).2 = g₂ ∧
      (∀ n, answer = .ok n → ((processFile kb action scope p).run g).1 = .ok (some [])) ∧
      (∀ name, answer = .error (.document (.empty name)) →
        ((processFile kb action scope p).run g).1 = .ok none) ∧
      (∀ e, answer = .error e → (∀ name, e ≠ .document (.empty name)) →
        ((processFile kb action scope p).run g).1 = .error e) := by
  have notIdentify : (action == .identify) = false := by simpa using notIdentify
  rw [processFile, if_neg (by simp [notIdentify])]
  dsimp only
  rw [Host.run_bind_of_run ran]
  refine ⟨by split <;> rfl, fun n wrote => by subst wrote; rfl,
    fun name empty => by subst empty; rfl, fun e failed other => ?_⟩
  subst failed
  split
  next same => cases same
  next name same =>
    cases same
    exact absurd rfl (other name)
  next same =>
    cases same
    rfl

theorem processFile_rewrite_answer (notIdentify : action ≠ .identify) {p : String}
    {g g' g₂ g₂' : Host} {answer : Except Error Nat}
    (ran : (Job.run Store.storage kb Host.tracer ⟨.file p, .file p, action, scope, .yaml⟩).run.run g =
      (answer, g₂))
    (ran' : (Job.run Store.storage kb Host.tracer ⟨.file p, .file p, action, scope, .yaml⟩).run.run
      g' = (answer, g₂')) :
    ((processFile kb action scope p).run g).1 = ((processFile kb action scope p).run g').1 := by
  obtain ⟨-, wrote, empty, failed⟩ := processFile_rewrite_run notIdentify ran
  obtain ⟨-, wrote', empty', failed'⟩ := processFile_rewrite_run notIdentify ran'
  cases answer with
  | ok n => rw [wrote n rfl, wrote' n rfl]
  | error e =>
    by_cases nothing : ∃ name, e = .document (.empty name)
    · obtain ⟨name, rfl⟩ := nothing
      rw [empty name rfl, empty' name rfl]
    · have other : ∀ name, e ≠ .document (.empty name) := fun name same => nothing ⟨name, same⟩
      rw [failed e rfl other, failed' e rfl other]

theorem processFile_identify_run {p : String} {g g₂ : Host} {answer : Except Error KeyReport}
    (ran : (identifyFile kb p scope).run.run g = (answer, g₂)) :
    (processFile kb .identify scope p).run g =
      ((fun keys => if keys.isEmpty then none else some keys) <$> answer, g₂) := by
  rw [processFile, if_pos (by decide)]
  rw [Host.run_bind_of_run ran]
  cases answer <;> rfl

theorem processFile_rewrite_verdict (notIdentify : action ≠ .identify) (p : String) (g : Host) :
    let job := ((Job.run Store.storage kb Host.tracer ⟨.file p, .file p, action, scope, .yaml⟩).run.run
      g).1
    let ran := ((processFile kb action scope p).run g).1
    ((∃ keys, ran = .ok (some keys)) ↔ ∃ n, job = .ok n) ∧
      (ran = .ok none ↔ ∃ name, job = .error (.document (.empty name))) ∧
      ∀ e, ran = .error e ↔ job = .error e ∧ ∀ name, e ≠ .document (.empty name) := by
  intro job ran
  rcases jobRun : (Job.run Store.storage kb Host.tracer
    ⟨.file p, .file p, action, scope, .yaml⟩).run.run g with ⟨answer, g₂⟩
  obtain ⟨-, wrote, empty, failed⟩ := processFile_rewrite_run notIdentify jobRun
  have answered : job = answer := by simp only [job, jobRun]
  rw [answered]
  cases answer with
  | ok n =>
    rw [show ran = _ from wrote n rfl]
    simp
  | error e =>
    by_cases nothing : ∃ name, e = .document (.empty name)
    · obtain ⟨name, rfl⟩ := nothing
      rw [show ran = _ from empty name rfl]
      simp
    · have other : ∀ name, e ≠ .document (.empty name) := fun name same => nothing ⟨name, same⟩
      rw [show ran = _ from failed e rfl other]
      simp only [reduceCtorEq, exists_false, Except.error.injEq, false_iff, true_and]
      refine ⟨fun ⟨name, same⟩ => other name same, fun e' => ⟨fun same => ⟨same, same ▸ other⟩,
        fun ⟨same, _⟩ => same⟩⟩

theorem processFile_identify_verdict (p : String) (g : Host) :
    let report := ((identifyFile kb p scope).run.run g).1
    let ran := ((processFile kb .identify scope p).run g).1
    (∀ keys, ran = .ok (some keys) ↔ report = .ok keys ∧ keys ≠ []) ∧
      (ran = .ok none ↔ report = .ok []) ∧ ∀ e, ran = .error e ↔ report = .error e := by
  intro report ran
  rcases identified : (identifyFile kb p scope).run.run g with ⟨answer, g₂⟩
  have answered : report = answer := by simp only [report, identified]
  rw [answered, show ran = _ from congrArg Prod.fst (processFile_identify_run identified)]
  cases answer with
  | ok keys =>
    cases keys with
    | nil => simp [Functor.map, Except.map]
    | cons entry rest => simp [Functor.map, Except.map]
  | error e => simp [Functor.map, Except.map]

variable (settled : kb.Settled) (keeps : kb.KeepsFiles)
include settled keeps

theorem steady_identifyFile (h₀ : Host) (p : String) {bytes : List UInt8} {m : Nat} :
    ∃ y, Walk.Steady h₀ (fun t => t.stat p = .ok (.file bytes m)) (identifyFile kb p scope) y := by
  unfold identifyFile Pillar.load
  refine ⟨_, Walk.steady_bind (Walk.steady_bind Walk.steady_read fun text =>
    Walk.steady_parse _ text) fun pillar =>
      Walk.steady_bind (Walk.steady_perform settled keeps h₀ _ _ _) fun outcome =>
        (?_ : Walk.Steady _ _ _ (Outcome.casesOn (motive := fun _ => ExceptT Error Id KeyReport)
          outcome (fun _ => pure []) pure))⟩
  cases outcome <;> exact Walk.steady_pure _

variable {h : Host} (wf : h.files.WellFormed) {dir : String} {root : List String}
  {mustBeDir : Bool} (placed : h.files.place dir = .ok (root, mustBeDir)) {m : Nat}
  (rootDir : h.files.lookup root = some (.dir m)) {rel : List String} {bytes : List UInt8}
  {mode : Nat} (member : (root ++ rel, .file bytes mode) ∈ h.files.entries) (nonempty : rel ≠ [])
include wf placed rootDir member nonempty

omit settled keeps in
theorem found_of_sameShape {g : Host} (shape : h.files.SameShape g.files)
    (same : g.files.lookup (root ++ rel) = h.files.lookup (root ++ rel)) :
    g.files.place (joinBelow dir rel) = .ok (root ++ rel, false) ∧
      g.files.lookup (root ++ rel) = some (.file bytes mode) ∧
      ∀ q, FileTree.parentText (joinBelow dir rel) = some q → g.files.isDir q = true := by
  obtain ⟨q, parentIs, -, m', parentDir⟩ :=
    FileTree.parent_joinBelow wf member placed rootDir nonempty
  refine ⟨by rw [shape.place]; exact FileTree.place_joinBelow wf member placed rootDir nonempty,
    same.trans (FileTree.lookup_of_mem wf (by simp [nonempty]) member), fun q' parentIs' => ?_⟩
  rw [parentIs] at parentIs'
  cases parentIs'
  rw [shape.isDir, FileTree.isDir, parentDir]

omit settled keeps m rootDir in
theorem names_found : ∀ mustBeDir', FileTree.names (joinBelow dir rel) ≠ some ([], mustBeDir') := by
  obtain ⟨ns, named, -⟩ := FileTree.place_iff.mp placed
  intro mustBeDir' none
  rw [FileTree.names_joinBelow named nonempty fun n listed => wf.plain _ member n (by simp [listed])]
    at none
  simp only [Option.some.injEq, Prod.mk.injEq, List.append_eq_nil_iff] at none
  exact nonempty none.1.2

theorem processFile_identify_alike {g : Host} (alike : h.Alike g) (shape : h.files.SameShape g.files)
    (same : g.files.lookup (root ++ rel) = h.files.lookup (root ++ rel)) :
    ((processFile kb .identify scope (joinBelow dir rel)).run g).1 =
        ((processFile kb .identify scope (joinBelow dir rel)).run h).1 ∧
      ((processFile kb .identify scope (joinBelow dir rel)).run g).2.files = g.files ∧
      h.Alike ((processFile kb .identify scope (joinBelow dir rel)).run g).2 := by
  obtain ⟨y, steady⟩ : ∃ y, Walk.Steady h (fun t => t.stat (joinBelow dir rel) = .ok (.file bytes mode))
      (identifyFile kb (joinBelow dir rel) scope) y :=
    steady_identifyFile settled keeps h (joinBelow dir rel)
  obtain ⟨placedG, fileG, -⟩ := found_of_sameShape wf placed rootDir member nonempty shape same
  obtain ⟨placedH, fileH, -⟩ :=
    found_of_sameShape wf placed rootDir member nonempty (FileTree.SameShape.refl _) rfl
  -- the report is the steady one from both machines, and reading changes no file
  have fromG := steady g alike (FileTree.stat_of_file placedG fileG)
  have fromH := steady h (Host.Alike.refl h) (FileTree.stat_of_file placedH fileH)
  rcases runG : (identifyFile kb (joinBelow dir rel) scope).run.run g with ⟨answerG, g₂⟩
  rcases runH : (identifyFile kb (joinBelow dir rel) scope).run.run h with ⟨answerH, h₂⟩
  simp only [runG] at fromG
  simp only [runH] at fromH
  rw [processFile_identify_run runG, processFile_identify_run runH]
  exact ⟨by rw [fromG.1, fromH.1], fromG.2.1, fromG.2.2⟩

theorem processFile_rewrite_alike (rewriting : action ≠ .identify) :
    ∃ written : Option String, (∀ out, written = some out →
        ∃ keys, ((processFile kb action scope (joinBelow dir rel)).run h).1 = .ok (some keys)) ∧
      ∀ g : Host, h.Alike g → h.files.SameShape g.files →
        g.files.lookup (root ++ rel) = h.files.lookup (root ++ rel) →
        ((processFile kb action scope (joinBelow dir rel)).run g).1 =
          ((processFile kb action scope (joinBelow dir rel)).run h).1 ∧
        (∀ out, written = some out → ((processFile kb action scope (joinBelow dir rel)).run g).2.files =
          g.files.put (root ++ rel) (.file (Text.utf8Bytes out) 0o600)) ∧
        (written = none →
          ((processFile kb action scope (joinBelow dir rel)).run g).2.files = g.files) ∧
        h.Alike ((processFile kb action scope (joinBelow dir rel)).run g).2 := by
  obtain ⟨q, parentIs, parentNonempty, -⟩ :=
    FileTree.parent_joinBelow wf member placed rootDir nonempty
  obtain ⟨answer, written, answered, rewrite⟩ :=
    @Job.run_rewrite kb settled keeps (joinBelow dir rel) q bytes mode action scope parentIs
      parentNonempty (names_found wf placed member nonempty) h
  -- the job's run from every machine of the shape is the one `Job.run_rewrite` describes
  have jobFrom := fun (g : Host) (alike : h.Alike g) (shape : h.files.SameShape g.files)
      (same : g.files.lookup (root ++ rel) = h.files.lookup (root ++ rel)) =>
    have found := found_of_sameShape wf placed rootDir member nonempty shape same
    rewrite g (root ++ rel) alike found.1 found.2.1 (found.2.2 q parentIs)
  rcases runH : (Job.run Store.storage kb Host.tracer
    ⟨.file (joinBelow dir rel), .file (joinBelow dir rel), action, scope, .yaml⟩).run.run h with
    ⟨answerH, h₂⟩
  have answeredH := (jobFrom h (Host.Alike.refl h) (FileTree.SameShape.refl _) rfl).1
  simp only [runH] at answeredH
  refine ⟨written, fun out made => ⟨[], (processFile_rewrite_run rewriting runH).2.1 _
    (by rw [answeredH, answered out made])⟩, fun g alike shape same => ?_⟩
  obtain ⟨answeredG, wroteG, keptG, alikeG⟩ := jobFrom g alike shape same
  rcases runG : (Job.run Store.storage kb Host.tracer
    ⟨.file (joinBelow dir rel), .file (joinBelow dir rel), action, scope, .yaml⟩).run.run g with
    ⟨answerG, g₂⟩
  simp only [runG] at answeredG wroteG keptG alikeG
  have stateG := (processFile_rewrite_run rewriting runG).1
  rw [answeredG, ← answeredH] at runG
  refine ⟨processFile_rewrite_answer rewriting runG runH, fun out made => ?_, fun none => ?_, ?_⟩
  · rw [stateG]
    exact wroteG out made
  · rw [stateG]
    exact keptG none
  · rw [stateG]
    exact alikeG

theorem processFile_effect (action : Action) (scope : Scope) :
    ∃ (written : Bool) (e : FsEntry), (∃ b m', e = .file b m') ∧
      (written = true → action ≠ .identify ∧
        ∃ keys, ((processFile kb action scope (joinBelow dir rel)).run h).1 = .ok (some keys)) ∧
      ∀ g : Host, h.Alike g → h.files.SameShape g.files →
        g.files.lookup (root ++ rel) = h.files.lookup (root ++ rel) →
        ((processFile kb action scope (joinBelow dir rel)).run g).1 =
          ((processFile kb action scope (joinBelow dir rel)).run h).1 ∧
        ((processFile kb action scope (joinBelow dir rel)).run g).2.files =
          (if written then g.files.put (root ++ rel) e else g.files) ∧
        h.Alike ((processFile kb action scope (joinBelow dir rel)).run g).2 := by
  by_cases identifying : action = .identify
  · subst identifying
    exact ⟨false, .file bytes mode, ⟨_, _, rfl⟩, fun wrong => absurd wrong (by decide),
      fun g alike shape same =>
        processFile_identify_alike settled keeps wf placed rootDir member nonempty alike shape same⟩
  · obtain ⟨written, did, alike⟩ :=
      processFile_rewrite_alike settled keeps wf placed rootDir member nonempty identifying
    -- a job that renders writes the file; one that fails writes nothing
    cases written with
    | some out =>
      refine ⟨true, .file (Text.utf8Bytes out) 0o600, ⟨_, _, rfl⟩,
        fun _ => ⟨identifying, did out rfl⟩, fun g alikeG shape same => ?_⟩
      obtain ⟨answer, wrote, -, alikeRun⟩ := alike g alikeG shape same
      exact ⟨answer, wrote out rfl, alikeRun⟩
    | none =>
      refine ⟨false, .file bytes mode, ⟨_, _, rfl⟩, fun wrong => absurd wrong (by decide),
        fun g alikeG shape same => ?_⟩
      obtain ⟨answer, -, kept, alikeRun⟩ := alike g alikeG shape same
      exact ⟨answer, kept rfl, alikeRun⟩

theorem processFile_runsAlone (action : Action) (scope : Scope) :
    RunsAlone (processFile kb action scope (joinBelow dir rel)) h (root ++ rel) := by
  obtain ⟨written, e, ⟨b, m', rfl⟩, -, effect⟩ :=
    processFile_effect settled keeps wf placed rootDir member nonempty action scope
  have fileAt : h.files.lookup (root ++ rel) = some (.file bytes mode) :=
    FileTree.lookup_of_mem wf (by simp [nonempty]) member
  have nonemptyPlace : root ++ rel ≠ [] := by simp [nonempty]
  intro g alike shape same
  obtain ⟨answer, files, alikeRun⟩ := effect g alike shape same
  obtain ⟨-, filesH, -⟩ := effect h (Host.Alike.refl h) (FileTree.SameShape.refl _) rfl
  refine ⟨answer, ?_, fun q other => ?_, ?_, alikeRun⟩ <;> rw [files] <;> try rw [filesH]
  · cases written
    · exact same
    · simp [FileTree.lookup_put nonemptyPlace]
  · cases written
    · rfl
    · simp [FileTree.lookup_put nonemptyPlace, other]
  · cases written
    · exact FileTree.SameShape.refl _
    · exact FileTree.SameShape.put_file (same.trans fileAt)

theorem processFile_keeps (action : Action) (scope : Scope)
    (unwritten : action = .identify ∨
      ∀ keys, ((processFile kb action scope (joinBelow dir rel)).run h).1 ≠ .ok (some keys)) :
    ((processFile kb action scope (joinBelow dir rel)).run h).2.files = h.files := by
  obtain ⟨written, e, -, writes, effect⟩ :=
    processFile_effect settled keeps wf placed rootDir member nonempty action scope
  have notWritten : written = false := by
    cases written
    · rfl
    · obtain ⟨rewriting, keys, did⟩ := writes rfl
      rcases unwritten with identifying | notDone
      · exact absurd identifying rewriting
      · exact absurd did (notDone keys)
  rw [(effect h (Host.Alike.refl h) (FileTree.SameShape.refl _) rfl).2.1, notWritten]
  rfl

end OneFile

section Directory

variable {kb : KeyBackend HostM} (settled : kb.Settled) (keeps : kb.KeepsFiles) {h : Host}
  {dir ext : String} {action : Action} {scope : Scope}

theorem processDir_of_not_dir (notDir : h.files.isDir dir = false) :
    (processDir kb dir ext action scope).run h = (.error (.store (.notADirectory dir)), h) := by
  rw [processDir, Host.run_bind_of_run (findFiles_of_not_dir notDir)]
  rfl

theorem processDir_loop : ∃ f : BatchReport → String → HostM BatchReport,
    (∀ r p g, ((f r p).run g).1 = tally action r p ((processFile kb action scope p).run g).1 ∧
      ((f r p).run g).2.files = ((processFile kb action scope p).run g).2.files ∧
      ((processFile kb action scope p).run g).2.Alike ((f r p).run g).2) ∧
    ∀ {h₁ : Host} {paths : List String}, (findFiles dir ext).run h = (.ok paths, h₁) →
      (processDir kb dir ext action scope).run h =
        (.ok ((paths.foldlM f BatchReport.empty).run h₁).1,
          ((paths.foldlM f BatchReport.empty).run h₁).2) := by
  -- the step is read off the loop itself
  apply Exists.intro
  refine ⟨?_, fun found => ?_⟩
  pick_goal 2
  · rw [processDir, Host.run_bind_of_run found]
    dsimp only
    rw [StateT.run_bind]
    rfl
  intro r p g
  rcases processed : (processFile kb action scope p).run g with ⟨answer, g₂⟩
  dsimp only
  rw [Host.run_bind_of_run processed]
  -- the file's outcome picks the list; the log is all else the step writes
  rcases answer with e | _ | keys
  · rw [Host.run_emit_bind]
    exact ⟨rfl, Host.emit_files _ _ _ _ _, Host.Alike.emit _ _ _ _⟩
  · rw [Host.run_emit_bind]
    exact ⟨rfl, Host.emit_files _ _ _ _ _, Host.Alike.emit _ _ _ _⟩
  · cases action <;> exact ⟨rfl, rfl, Host.Alike.refl _⟩

theorem findFiles_alike (h : Host) : h.Alike ((findFiles dir ext).run h).2 := by
  unfold findFiles
  rw [Host.run_get_bind]
  dsimp only
  split
  · split
    · exact Host.Alike.refl h
    · rw [Host.run_emit_bind]
      exact Host.Alike.emit _ _ _ _
  · exact Host.Alike.refl h

include settled keeps

/-- A batch run over a directory of a well-formed tree processes the files it finds in turn:
each file's outcome alone enters the report, each file ends as its run alone leaves it, and no
other place changes. -/
theorem processDir_of_dir (wf : h.files.WellFormed) (isDir : h.files.isDir dir = true) :
    ∃ root mustBeDir m, ∃ rels : List (List String), h.files.place dir = .ok (root, mustBeDir) ∧
      h.files.lookup root = some (.dir m) ∧
      ((findFiles dir ext).run h).1 = .ok (rels.map (joinBelow dir)) ∧ rels.Pairwise (· < ·) ∧
      (∀ rel, rel ∈ rels ↔ rel ≠ [] ∧ (∃ bytes m, (root ++ rel, .file bytes m) ∈ h.files.entries) ∧
        Text.contains (rel.getLastD "") ext = true) ∧
      let ran := (processDir kb dir ext action scope).run h
      ran.1 = .ok ((rels.map (joinBelow dir)).foldl
        (fun r p => tally action r p ((processFile kb action scope p).run h).1) BatchReport.empty) ∧
      h.files.SameShape ran.2.files ∧
      (∀ rel ∈ rels, ran.2.files.lookup (root ++ rel) =
        ((processFile kb action scope (joinBelow dir rel)).run h).2.files.lookup (root ++ rel)) ∧
      ∀ q, (∀ rel ∈ rels, q ≠ root ++ rel) → ran.2.files.lookup q = h.files.lookup q := by
  obtain ⟨root, mustBeDir, m, rels, placed, rootDir, found, keptFiles, sorted, listed⟩ :=
    @findFiles_of_dir h dir ext wf isDir
  refine ⟨root, mustBeDir, m, rels, placed, rootDir, found, sorted, listed, ?_⟩
  have each : ∀ rel ∈ rels,
      RunsAlone (processFile kb action scope (joinBelow dir rel)) h (root ++ rel) := by
    intro rel listedRel
    obtain ⟨nonempty, ⟨bytes, mode, member⟩, -⟩ := (listed rel).mp listedRel
    exact processFile_runsAlone settled keeps wf placed rootDir member nonempty action scope
  have distinct : rels.Nodup := sorted.imp ne_of_lt
  have alike : h.Alike ((findFiles dir ext).run h).2 := findFiles_alike h
  rcases findRun : (findFiles dir ext).run h with ⟨answer, h₁⟩
  simp only [findRun] at found keptFiles alike
  subst found
  obtain ⟨f, body, loop⟩ := @processDir_loop kb h dir ext action scope
  obtain ⟨ranAnswer, ranShape, ranFiles, ranFrame⟩ := foldlM_run body rels each distinct
    BatchReport.empty h₁ alike (keptFiles ▸ FileTree.SameShape.refl _) (fun rel _ => by rw [keptFiles])
  intro ran
  rw [show ran = _ from loop findRun]
  exact ⟨congrArg Except.ok ranAnswer, ranShape, ranFiles,
    fun q away => (ranFrame q away).trans (by rw [keptFiles])⟩

end Directory

section Found

variable {kb : KeyBackend HostM} (settled : kb.Settled) (keeps : kb.KeepsFiles) {h : Host}
  (wf : h.files.WellFormed) {dir : String} {root : List String} {mustBeDir : Bool}
  (placed : h.files.place dir = .ok (root, mustBeDir)) {m : Nat}
  (rootDir : h.files.lookup root = some (.dir m)) {rels : List (List String)}
  (files : ∀ rel ∈ rels, rel ≠ [] ∧ ∃ bytes mode, (root ++ rel, .file bytes mode) ∈ h.files.entries)
include wf placed rootDir files

theorem place_found : ∀ rel ∈ rels, h.files.place (joinBelow dir rel) = .ok (root ++ rel, false) := by
  intro rel listed
  obtain ⟨nonempty, bytes, mode, member⟩ := files rel listed
  exact FileTree.place_joinBelow wf member placed rootDir nonempty

theorem nodup_found (distinct : rels.Nodup) : (rels.map (joinBelow dir)).Nodup := by
  refine distinct.map_on fun rel listed rel' listed' same => ?_
  have places := (place_found wf placed rootDir files rel listed).symm.trans
    (same ▸ place_found wf placed rootDir files rel' listed')
  simpa using places

include settled keeps

theorem shape_found (action : Action) (scope : Scope) {rel : List String} (listed : rel ∈ rels) :
    h.files.SameShape ((processFile kb action scope (joinBelow dir rel)).run h).2.files := by
  obtain ⟨nonempty, bytes, mode, member⟩ := files rel listed
  exact (processFile_runsAlone settled keeps wf placed rootDir member nonempty action scope h
    (Host.Alike.refl h) (FileTree.SameShape.refl _) rfl).2.2.2.1

theorem keeps_found (action : Action) (scope : Scope) {rel : List String} (listed : rel ∈ rels)
    (unwritten : action = .identify ∨
      ∀ keys, ((processFile kb action scope (joinBelow dir rel)).run h).1 ≠ .ok (some keys)) :
    ((processFile kb action scope (joinBelow dir rel)).run h).2.files = h.files := by
  obtain ⟨nonempty, bytes, mode, member⟩ := files rel listed
  exact processFile_keeps settled keeps wf placed rootDir member nonempty action scope unwritten

theorem lookup_of_unwritten {ran : FileTree} (action : Action) (scope : Scope)
    (ranFiles : ∀ rel ∈ rels, ran.lookup (root ++ rel) =
      ((processFile kb action scope (joinBelow dir rel)).run h).2.files.lookup (root ++ rel))
    (ranFrame : ∀ q, (∀ rel ∈ rels, q ≠ root ++ rel) → ran.lookup q = h.files.lookup q)
    (q : List String) (unwritten : ∀ rel ∈ rels, q = root ++ rel → action = .identify ∨
      ∀ keys, ((processFile kb action scope (joinBelow dir rel)).run h).1 ≠ .ok (some keys)) :
    ran.lookup q = h.files.lookup q := by
  by_cases onFile : ∃ rel ∈ rels, q = root ++ rel
  · obtain ⟨rel, member, rfl⟩ := onFile
    rw [ranFiles rel member, keeps_found settled keeps wf placed rootDir files action scope member
      (unwritten rel member rfl)]
  · exact ranFrame q fun rel member same => onFile ⟨rel, member, same⟩

end Found

section Report

variable {kb : KeyBackend HostM} (settled : kb.Settled) (keeps : kb.KeepsFiles) (h : Host)
  (dir ext : String) (action : Action) (scope : Scope)
include settled keeps

/-- A batch run, with the GnuPG backend or any backend whose answers depend on the machine's
settings alone and that touches no file, over a path that is no directory is an error, and over a
directory of a well-formed tree it finds the regular files below it whose name holds the
extension, in order, and accounts for each once, on the list its own run alone names. With a
rewriting action each file ends as its job alone leaves it and no other place changes;
identifying changes nothing and files each processed file's key report under its path. -/
theorem batch_run_accounts_for_each_file (wf : h.files.WellFormed) :
    let run := (processDir kb dir ext action scope).run h
    let job := fun p =>
      (Job.run Store.storage kb Host.tracer ⟨.file p, .file p, action, scope, .yaml⟩).run.run h
    let keysOf := fun p => ((identifyFile kb p scope).run.run h).1
    (∀ o : GpgOptions, (Gpg.backend o Host.runGpg Host.tracer).Settled ∧
      (Gpg.backend o Host.runGpg Host.tracer).KeepsFiles) ∧
    (run.1 = .error (.store (.notADirectory dir)) ↔ h.files.isDir dir = false) ∧
    (h.files.isDir dir = true → ∃ (root : List String) (rels : List (List String)) (r : BatchReport),
      (∃ mustBeDir, h.files.place dir = .ok (root, mustBeDir)) ∧
      ((findFiles dir ext).run h).1 = .ok (rels.map (joinBelow dir)) ∧ rels.Pairwise (· < ·) ∧
      (∀ rel, rel ∈ rels ↔ rel ≠ [] ∧ (∃ bytes m, (root ++ rel, .file bytes m) ∈ h.files.entries) ∧
        Text.contains (rel.getLastD "") ext = true) ∧
      run.1 = .ok r ∧ (rels.map (joinBelow dir)).Nodup ∧
      (r.processed ++ r.skipped ++ r.failed.map Prod.fst).Perm (rels.map (joinBelow dir)) ∧
      r.processed.Sublist (rels.map (joinBelow dir)) ∧ r.skipped.Sublist (rels.map (joinBelow dir)) ∧
      (r.failed.map Prod.fst).Sublist (rels.map (joinBelow dir)) ∧
      r.total = (rels.map (joinBelow dir)).length ∧
      (action ≠ .identify →
        (∀ p, p ∈ r.processed ↔ p ∈ rels.map (joinBelow dir) ∧ ∃ n, (job p).1 = .ok n) ∧
        (∀ p, p ∈ r.skipped ↔
          p ∈ rels.map (joinBelow dir) ∧ ∃ name, (job p).1 = .error (.document (.empty name))) ∧
        (∀ p e, (p, e) ∈ r.failed ↔ p ∈ rels.map (joinBelow dir) ∧ (job p).1 = .error e ∧
          ∀ name, e ≠ .document (.empty name)) ∧
        (∀ p ∈ r.processed, run.2.files.stat p = (job p).2.files.stat p) ∧
        (∀ p ∈ r.skipped ++ r.failed.map Prod.fst, run.2.files.stat p = h.files.stat p) ∧
        ∀ q, (∀ p ∈ r.processed, h.files.place p ≠ .ok (q, false)) →
          run.2.files.lookup q = h.files.lookup q) ∧
      (action = .identify →
        (∀ q, run.2.files.lookup q = h.files.lookup q) ∧
        (∀ p, p ∈ r.processed ↔
          p ∈ rels.map (joinBelow dir) ∧ ∃ keys, keysOf p = .ok keys ∧ keys ≠ []) ∧
        (∀ p, p ∈ r.skipped ↔ p ∈ rels.map (joinBelow dir) ∧ keysOf p = .ok []) ∧
        (∀ p e, (p, e) ∈ r.failed ↔ p ∈ rels.map (joinBelow dir) ∧ keysOf p = .error e) ∧
        BatchReport.KeysSorted r.keys ∧
        ∀ p keys, (p, keys) ∈ r.keys ↔ p ∈ r.processed ∧ keysOf p = .ok keys)) := by
  intro run job keysOf
  refine ⟨fun o => ⟨(Gpg.backend_quiet o).settled, (Gpg.backend_quiet o).keepsFiles⟩, ?_,
    fun isDir => ?_⟩
  · cases isDir : h.files.isDir dir with
    | false => simp [run, processDir_of_not_dir isDir]
    | true =>
      obtain ⟨_, _, _, _, _, _, _, _, _, ranAnswer, -⟩ :=
        @processDir_of_dir kb settled keeps h dir ext action scope wf isDir
      simp [run, ranAnswer]
  obtain ⟨root, mustBeDir, m, rels, placed, rootDir, found, sorted, listed, ranAnswer, ranShape,
    ranFiles, ranFrame⟩ := @processDir_of_dir kb settled keeps h dir ext action scope wf isDir
  have files : ∀ rel ∈ rels, rel ≠ [] ∧ ∃ bytes mode,
      (root ++ rel, .file bytes mode) ∈ h.files.entries := fun rel member =>
    ⟨((listed rel).mp member).1, ((listed rel).mp member).2.1⟩
  have placedFound := place_found wf placed rootDir files
  -- the report accounts for the files found, each by its own run alone
  have acc : Accounts action (fun p => ((processFile kb action scope p).run h).1)
      (rels.map (joinBelow dir)) ((rels.map (joinBelow dir)).foldl
        (fun r p => tally action r p ((processFile kb action scope p).run h).1) BatchReport.empty) := by
    simpa using Accounts.empty.foldl (rels.map (joinBelow dir))
  refine ⟨root, rels, _, ⟨mustBeDir, placed⟩, found, sorted, listed, ranAnswer,
    nodup_found wf placed rootDir files (sorted.imp ne_of_lt), acc.perm, acc.processed_sublist,
    acc.skipped_sublist, acc.failed_sublist, acc.total_eq, fun rewriting => ?_,
    fun identifying => ?_⟩
  · have verdict := fun p => @processFile_rewrite_verdict kb action scope rewriting p h
    -- what processing a file alone leaves is what its job alone leaves
    have jobFiles : ∀ p, ((processFile kb action scope p).run h).2 = (job p).2 := fun p =>
      (processFile_rewrite_run rewriting (Prod.eta _).symm).1
    refine ⟨fun p => ?_, fun p => ?_, fun p e => ?_, fun p processed => ?_, fun p unprocessed => ?_,
      fun q away => ?_⟩
    · rw [acc.mem_processed]
      exact and_congr_right fun _ => (verdict p).1
    · rw [acc.mem_skipped]
      exact and_congr_right fun _ => (verdict p).2.1
    · rw [acc.mem_failed]
      exact and_congr_right fun _ => (verdict p).2.2 e
    · obtain ⟨rel, member, rfl⟩ := List.mem_map.mp (acc.processed_sublist.subset processed)
      rw [← jobFiles]
      exact FileTree.SameShape.stat_of_bases
        (shape_found settled keeps wf placed rootDir files action scope member) ranShape
        (placedFound rel member) (ranFiles rel member)
    · obtain ⟨found, notDone⟩ := acc.not_processed unprocessed
      obtain ⟨rel, member, rfl⟩ := List.mem_map.mp found
      refine FileTree.SameShape.stat_of_bases (FileTree.SameShape.refl _) ranShape
        (placedFound rel member) ?_
      rw [ranFiles rel member, keeps_found settled keeps wf placed rootDir files action scope member
        (.inr notDone)]
    · -- a file found at the place is not processed, so its run alone leaves it
      refine lookup_of_unwritten settled keeps wf placed rootDir files action scope ranFiles ranFrame q
        fun rel member same => .inr fun keys did => ?_
      exact away _ ((acc.mem_processed _).mpr ⟨List.mem_map_of_mem member, keys, did⟩)
        (same ▸ placedFound rel member)
  · subst identifying
    have verdict := fun p => @processFile_identify_verdict kb scope p h
    refine ⟨fun q => ?_, fun p => ?_, fun p => ?_, fun p e => ?_, acc.keys_sorted, fun p keys => ?_⟩
    · exact lookup_of_unwritten settled keeps wf placed rootDir files .identify scope ranFiles
        ranFrame q fun _ _ _ => .inl rfl
    · rw [acc.mem_processed]
      exact and_congr_right fun _ => exists_congr fun keys => (verdict p).1 keys
    · rw [acc.mem_skipped]
      exact and_congr_right fun _ => (verdict p).2.1
    · rw [acc.mem_failed]
      exact and_congr_right fun _ => (verdict p).2.2 e
    · rw [acc.mem_keys, acc.mem_processed]
      constructor
      · rintro ⟨-, member, did⟩
        exact ⟨⟨member, keys, did⟩, (((verdict p).1 keys).mp did).1⟩
      · rintro ⟨⟨member, keys', did⟩, reported⟩
        have same : Except.ok keys = Except.ok keys' :=
          reported.symm.trans (((verdict p).1 keys').mp did).1
        cases same
        exact ⟨rfl, member, did⟩

end Report

theorem batch_run_one_pillar :
    let tree : FileTree := ⟨[(["srv"], .dir 0o755), (["srv", "db.sls"], .file [] 0o600)], []⟩
    let h := Host.start tree [] [] none
    let kb := Mock.backend (MockKeys.single "K1") Host.tick
    kb.Settled ∧ kb.KeepsFiles ∧ h.files.WellFormed ∧ h.files.isDir "srv" = true ∧
      ∃ r, ((processDir kb "srv" ".sls" .encrypt .all).run h).1 = .ok r ∧ r.total = 1 := by
  intro tree h kb
  have settled : kb.Settled := (Mock.backend_quiet _).settled
  have keeps : kb.KeepsFiles := (Mock.backend_quiet _).keepsFiles
  have wf : h.files.WellFormed := by
    refine ⟨by decide +kernel, fun entry member n named => ?_, fun entry member k positive short => ?_⟩
    · simp only [h, tree, Host.start, List.mem_cons, List.not_mem_nil, or_false] at member
      rcases member with rfl | rfl <;> simp at named <;> rcases named with rfl | rfl <;>
        simp [FileTree.Plain]
    · simp only [h, tree, Host.start, List.mem_cons, List.not_mem_nil, or_false] at member
      rcases member with rfl | rfl
      · simp at short
        omega
      · have one : k = 1 := by simp at short; omega
        subst one
        exact ⟨0o755, by decide +kernel⟩
  have isDir : h.files.isDir "srv" = true := by decide +kernel
  refine ⟨settled, keeps, wf, isDir, ?_⟩
  obtain ⟨root, rels, r, ⟨mustBeDir, placed⟩, -, sorted, listed, ran, -, -, -, -, -, total, -⟩ :=
    (batch_run_accounts_for_each_file settled keeps h "srv" ".sls" .encrypt .all wf).2.2 isDir
  refine ⟨r, ran, ?_⟩
  -- the directory is the place of its one name, and it holds one pillar file
  have rootIs : root = ["srv"] := by
    have computed : (h.files.place "srv").toOption = some (["srv"], false) := by decide +kernel
    rw [placed] at computed
    cases computed
    rfl
  subst rootIs
  have only : ∀ rel ∈ rels, rel = ["db.sls"] := by
    intro rel member
    obtain ⟨-, ⟨bytes, m, entry⟩, -⟩ := (listed rel).mp member
    simp only [h, tree, Host.start, List.mem_cons, List.not_mem_nil, or_false, Prod.mk.injEq,
      reduceCtorEq, and_false, false_or] at entry
    exact List.append_cancel_left (entry.1.trans (by rfl : ["srv", "db.sls"] = ["srv"] ++ ["db.sls"]))
  have present : ["db.sls"] ∈ rels :=
    (listed _).mpr ⟨by simp, ⟨[], 0o600, by simp [h, tree, Host.start]⟩, by decide +kernel⟩
  have replicated := List.eq_replicate_iff.mpr ⟨rfl, only⟩
  have atMost : rels.length ≤ 1 :=
    List.nodup_replicate.mp (replicated ▸ sorted.imp ne_of_lt)
  have atLeast : 0 < rels.length := List.length_pos_of_mem present
  rw [total, List.length_map]
  omega

end Batch

end SealedPillar
