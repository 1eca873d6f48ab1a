import Mathlib
import SealedPillar.Proofs.PathTexts

/-!
Walking a directory tree, and the files a batch run finds there.

A well-formed tree holds each path once, its names are plain, and the directories above each
entry are there (`FileTree.WellFormed`). In such a tree a directory's names come once each, in
ascending order, and a walk from a place lists exactly the entries strictly below it
(`FileTree.mem_walk`) in ascending order of their paths (`FileTree.walk_sorted`). Paths compare
name by name, so a directory comes just before what it holds. No path is longer than the tree has
entries, so the fuel of a walk over the whole tree reaches every entry.

Below a directory, the path of an entry joined to the directory's text leads back to the entry,
and its parent is a directory that is there (`FileTree.place_joinBelow`,
`FileTree.parent_joinBelow`). The files a batch run finds are, by their path below the directory,
the regular files there whose name contains the extension, in ascending order
(`Batch.findFiles_of_dir`); a path that is no directory is an error, and finding changes no file.
-/

namespace SealedPillar

namespace FileTree

/-- A tree as a file system keeps it: each path once, plain names, and every entry's parents are
directories that are there. -/
structure WellFormed (t : FileTree) : Prop where
  distinct : (t.entries.map Prod.fst).Nodup
  plain : ∀ entry ∈ t.entries, ∀ n ∈ entry.1, Plain n
  parents : ∀ entry ∈ t.entries, ∀ k, 0 < k → k < entry.1.length →
    ∃ m, t.lookup (entry.1.take k) = some (.dir m)

variable {t : FileTree}

theorem lookup_of_ne_nil {p : List String} (nonempty : p ≠ []) :
    t.lookup p = (t.entries.find? (·.1 == p)).map (·.2) := by
  simp [lookup, nonempty]

theorem mem_of_lookup {p : List String} {e : FsEntry} (nonempty : p ≠ [])
    (found : t.lookup p = some e) : (p, e) ∈ t.entries := by
  rw [lookup_of_ne_nil nonempty] at found
  obtain ⟨entry, first, rfl⟩ := Option.map_eq_some_iff.mp found
  have same : entry.1 = p := by simpa using List.find?_some first
  rw [← same]
  exact List.mem_of_find?_eq_some first

theorem lookup_of_mem (wf : t.WellFormed) {p : List String} {e : FsEntry} (nonempty : p ≠ [])
    (member : (p, e) ∈ t.entries) : t.lookup p = some e := by
  rw [lookup_of_ne_nil nonempty]
  have present : (t.entries.find? (·.1 == p)).isSome := by
    rw [List.find?_isSome]
    exact ⟨(p, e), member, by simp⟩
  obtain ⟨found, first⟩ := Option.isSome_iff_exists.mp present
  have same : found.1 = (p, e).1 := by simpa using List.find?_some first
  -- the tree holds one entry at each path
  have unique := List.inj_on_of_nodup_map wf.distinct (List.mem_of_find?_eq_some first) member same
  rw [first, unique]
  rfl

theorem child_name_iff {p q : List String} {n : String} :
    ((if (q.length == p.length + 1 && q.take p.length == p) = true then q.getLast? else none) =
      some n) ↔ q = p ++ [n] := by
  constructor
  · intro named
    split at named
    · rename_i below
      simp only [Bool.and_eq_true, beq_iff_eq] at below
      obtain ⟨long, front⟩ := below
      -- the path is its first `p.length` names and one more
      have split : q = q.take p.length ++ q.drop p.length := (List.take_append_drop _ q).symm
      obtain ⟨last, single⟩ : ∃ last, q.drop p.length = [last] :=
        List.length_eq_one_iff.mp (by simp [long])
      rw [front, single] at split
      rw [split] at named ⊢
      simpa using named
    · cases named
  · rintro rfl
    simp

theorem mem_children {p : List String} {n : String} :
    n ∈ t.children p ↔ ∃ e, (p ++ [n], e) ∈ t.entries := by
  simp only [children, List.mem_mergeSort, List.mem_filterMap]
  constructor
  · rintro ⟨⟨q, e⟩, member, named⟩
    have below : q = p ++ [n] := child_name_iff.mp named
    rw [below] at member
    exact ⟨e, member⟩
  · rintro ⟨e, member⟩
    exact ⟨(p ++ [n], e), member, child_name_iff.mpr rfl⟩

theorem children_sorted (wf : t.WellFormed) (p : List String) :
    (t.children p).Pairwise (· < ·) := by
  let below : List String → Option String := fun q =>
    if q.length == p.length + 1 && q.take p.length == p then q.getLast? else none
  have named : t.children p =
      ((t.entries.map Prod.fst).filterMap below).mergeSort (fun a b => decide (a ≤ b)) := by
    unfold children
    rw [List.filterMap_map]
    rfl
  have ordered := @List.pairwise_mergeSort String (fun a b => decide (a ≤ b))
    (fun a b c ab bc => by simpa using le_trans (by simpa using ab) (by simpa using bc))
    (fun a b => by simpa using le_total a b) ((t.entries.map Prod.fst).filterMap below)
  -- two paths one level below `p` with the same last name are the same path
  have once : ((t.entries.map Prod.fst).filterMap below).Nodup := by
    refine List.Nodup.filterMap (fun q q' n first second => ?_) wf.distinct
    rw [Option.mem_def, child_name_iff] at first second
    rw [first, second]
  have distinct := (List.mergeSort_perm _ (fun a b : String => decide (a ≤ b))).nodup_iff.mpr once
  rw [named]
  exact (ordered.and distinct).imp fun both => lt_of_le_of_ne (by simpa using both.1) both.2

theorem extends_of_mem_walk : {fuel : Nat} → {p q : List String} → {e : FsEntry} →
    (q, e) ∈ t.walk p fuel → ∃ rel, rel ≠ [] ∧ q = p ++ rel
  | 0, _, _, _, member => by simp [walk] at member
  | fuel + 1, p, q, e, member => by
    simp only [walk, List.mem_flatMap] at member
    obtain ⟨n, -, inBlock⟩ := member
    split at inBlock
    · rcases List.mem_cons.mp inBlock with same | deeper
      · cases same
        exact ⟨[n], by simp, rfl⟩
      · obtain ⟨rel, -, rfl⟩ := extends_of_mem_walk deeper
        exact ⟨n :: rel, by simp, by simp⟩
    · rcases List.mem_singleton.mp inBlock with ⟨⟩
      exact ⟨[n], by simp, rfl⟩
    · cases inBlock

theorem mem_walk (wf : t.WellFormed) : {fuel : Nat} → {p q : List String} → {e : FsEntry} →
    ((q, e) ∈ t.walk p fuel ↔
      ∃ rel, rel ≠ [] ∧ q = p ++ rel ∧ rel.length ≤ fuel ∧ (q, e) ∈ t.entries)
  | 0, p, q, e => by
    simp only [walk, List.not_mem_nil, false_iff, not_exists, not_and]
    intro rel nonempty _ short
    exact absurd (List.eq_nil_of_length_eq_zero (by omega)) nonempty
  | fuel + 1, p, q, e => by
    simp only [walk, List.mem_flatMap]
    constructor
    · rintro ⟨n, -, inBlock⟩
      split at inBlock
      · rename_i m found
        rcases List.mem_cons.mp inBlock with same | deeper
        · cases same
          exact ⟨[n], by simp, rfl, by simp, mem_of_lookup (by simp) found⟩
        · obtain ⟨rel, nonempty, rfl, short, member⟩ := (mem_walk wf).mp deeper
          exact ⟨n :: rel, by simp, by simp, by simpa using short, member⟩
      · rename_i e' _ found
        rcases List.mem_singleton.mp inBlock with ⟨⟩
        exact ⟨[n], by simp, rfl, by simp, mem_of_lookup (by simp) found⟩
      · cases inBlock
    · rintro ⟨_ | ⟨n, rel⟩, nonempty, rfl, short, member⟩
      · exact absurd rfl nonempty
      rcases eq_or_ne rel [] with rfl | deeper
      · -- an entry one level down is its directory's child, found by its path
        have found := lookup_of_mem wf (by simp) member
        refine ⟨n, mem_children.mpr ⟨e, member⟩, ?_⟩
        cases e <;> simp [found]
      · -- an entry further down has a directory one level down on its way
        have longer : p.length + 1 < (p ++ n :: rel).length := by
          have := List.length_pos_of_ne_nil deeper
          simp only [List.length_append, List.length_cons]
          omega
        obtain ⟨m, found⟩ := wf.parents _ member (p.length + 1) (by omega) longer
        have step : (p ++ n :: rel).take (p.length + 1) = p ++ [n] := by
          rw [List.take_append]
          simp
        rw [step] at found
        refine ⟨n, mem_children.mpr ⟨_, mem_of_lookup (by simp) found⟩, ?_⟩
        simp only [found, List.mem_cons]
        exact Or.inr ((mem_walk wf).mpr ⟨rel, deeper, by simp, by simpa using short, member⟩)

theorem lt_append_of_ne_nil (q : List String) {rel : List String} (nonempty : rel ≠ []) :
    q < q ++ rel := by
  obtain ⟨n, rest, rfl⟩ := List.exists_cons_of_ne_nil nonempty
  simpa using @List.append_left_lt _ _ q [] (n :: rest) (List.nil_lt_cons n rest)

theorem pairwise_flatMap_of_heads {p names : List String} {f : String → List (List String)}
    (sorted : names.Pairwise (· < ·)) (inner : ∀ n ∈ names, (f n).Pairwise (· < ·))
    (heads : ∀ n ∈ names, ∀ x ∈ f n, ∃ rest, x = p ++ n :: rest) :
    (names.flatMap f).Pairwise (· < ·) := by
  rw [List.pairwise_flatMap]
  refine ⟨inner, sorted.imp_of_mem fun {n₁ n₂} first second ordered x inX y inY => ?_⟩
  obtain ⟨r₁, rfl⟩ := heads n₁ first x inX
  obtain ⟨r₂, rfl⟩ := heads n₂ second y inY
  exact List.append_left_lt (List.cons_lt_cons_iff.mpr (Or.inl ordered))

theorem walk_sorted (wf : t.WellFormed) : (fuel : Nat) → (p : List String) →
    ((t.walk p fuel).map Prod.fst).Pairwise (· < ·)
  | 0, _ => by simp [walk]
  | fuel + 1, p => by
    simp only [walk, List.map_flatMap]
    refine pairwise_flatMap_of_heads (p := p) (children_sorted wf p) (fun n _ => ?_)
      (fun n _ x listed => ?_)
    · -- a child comes first, then what the walk lists below it
      split
      · rw [List.map_cons, List.pairwise_cons]
        refine ⟨fun y below => ?_, walk_sorted wf fuel (p ++ [n])⟩
        obtain ⟨⟨y, e⟩, member, rfl⟩ := List.mem_map.mp below
        obtain ⟨rel, nonempty, rfl⟩ := extends_of_mem_walk member
        exact lt_append_of_ne_nil _ nonempty
      · simp
      · simp
    · split at listed
      · simp only [List.map_cons, List.mem_cons] at listed
        rcases listed with rfl | below
        · exact ⟨[], by simp⟩
        · obtain ⟨⟨y, e⟩, member, rfl⟩ := List.mem_map.mp below
          obtain ⟨rel, -, rfl⟩ := extends_of_mem_walk member
          exact ⟨rel, by simp⟩
      · simp only [List.map_cons, List.map_nil, List.mem_singleton] at listed
        exact ⟨[], by simp [listed]⟩
      · simp at listed

theorem length_le_of_mem (wf : t.WellFormed) {q : List String} {e : FsEntry}
    (member : (q, e) ∈ t.entries) : q.length ≤ t.entries.length := by
  let starts := (List.range q.length).map fun k => q.take (k + 1)
  have distinct : starts.Nodup := by
    apply List.Nodup.of_map List.length
    have lengths : starts.map List.length = (List.range q.length).map (· + 1) := by
      simp only [starts, List.map_map]
      apply List.map_congr_left
      intro k inRange
      rw [List.mem_range] at inRange
      simp only [Function.comp_apply, List.length_take]
      omega
    rw [lengths]
    exact List.nodup_range.map fun a b same => by simpa using same
  have inside : starts ⊆ t.entries.map Prod.fst := by
    intro p listed
    obtain ⟨k, inRange, rfl⟩ := List.mem_map.mp listed
    rw [List.mem_range] at inRange
    rcases Nat.lt_or_ge (k + 1) q.length with shorter | whole
    · obtain ⟨m, found⟩ := wf.parents _ member (k + 1) (by omega) shorter
      have nonempty : q.take (k + 1) ≠ [] :=
        List.ne_nil_of_length_pos (by rw [List.length_take]; omega)
      exact List.mem_map.mpr ⟨_, mem_of_lookup nonempty found, rfl⟩
    · rw [List.take_of_length_le whole]
      exact List.mem_map.mpr ⟨_, member, rfl⟩
  calc q.length = starts.length := by simp [starts]
    _ ≤ (t.entries.map Prod.fst).length := (distinct.subperm inside).length_le
    _ = t.entries.length := List.length_map ..

theorem locate_append {cur mid : List String} : {ns : List String} → (rest : List String) →
    t.locate cur ns = .ok mid → (ns = [] ∨ ∃ m, t.lookup mid = some (.dir m)) →
    t.locate cur (ns ++ rest) = t.locate mid rest
  | [], rest, reached, _ => by
    simp only [locate, Except.ok.injEq] at reached
    rw [← reached]
    rfl
  | [n], [], reached, _ => by rw [List.append_nil, reached]; rfl
  | [n], r :: rs, reached, isDir => by
    simp only [locate, Except.ok.injEq] at reached
    rcases isDir with empty | ⟨m, found⟩
    · cases empty
    · simp only [List.singleton_append, locate, reached, found]
  | n :: n' :: ns, rest, reached, isDir => by
    rw [locate] at reached
    split at reached
    · rename_i m found
      rw [List.cons_append, List.cons_append, locate]
      simp only [found]
      rw [← List.cons_append]
      exact locate_append rest reached (Or.inr (isDir.resolve_left (by simp)))
    · cases reached
    · cases reached

theorem locate_of_dirs {mid : List String} : {rel : List String} → (∀ n ∈ rel, Plain n) →
    (∀ k, 0 < k → k < rel.length → ∃ m, t.lookup (mid ++ rel.take k) = some (.dir m)) →
    t.locate mid rel = .ok (mid ++ rel)
  | [], _, _ => by simp [locate]
  | [n], plain, _ => by
    have down : (n == "..") = false := by simpa using (plain n (by simp)).2.2.2
    simp [locate, down]
  | n :: n' :: rest, plain, dirs => by
    have down : (n == "..") = false := by simpa using (plain n (by simp)).2.2.2
    obtain ⟨m, found⟩ := dirs 1 (by omega) (by simp)
    rw [locate]
    simp only [down, Bool.false_eq_true, if_false]
    simp only [List.take_one, List.head?_cons, Option.toList_some] at found
    simp only [found]
    have further := @locate_of_dirs (mid ++ [n]) (n' :: rest)
      (fun x listed => plain x (List.mem_cons_of_mem n listed))
      (fun k positive shorter => by simpa using dirs (k + 1) (by omega) (by simpa using shorter))
    simpa using further

section Stat

variable {s : String} {p : List String} {mustBeDir : Bool}

theorem stat_of_dir (placed : t.place s = .ok (p, mustBeDir)) {m : Nat}
    (found : t.lookup p = some (.dir m)) : t.stat s = .ok (.dir m) := by
  simp [stat, placed, bind, Except.bind, found]

theorem stat_of_file (placed : t.place s = .ok (p, false)) {bytes : List UInt8} {m : Nat}
    (found : t.lookup p = some (.file bytes m)) : t.stat s = .ok (.file bytes m) := by
  simp [stat, placed, bind, Except.bind, found]

theorem isDir_iff : t.isDir s = true ↔
    ∃ p mustBeDir m, t.place s = .ok (p, mustBeDir) ∧ t.lookup p = some (.dir m) := by
  constructor
  · intro directory
    rcases placed : t.place s with failure | ⟨p, mustBeDir⟩
    · simp [isDir, stat, placed, bind, Except.bind] at directory
    rcases found : t.lookup p with _ | (⟨bytes, m⟩ | m)
    · simp [isDir, stat, placed, bind, Except.bind, found] at directory
    · cases mustBeDir <;> simp [isDir, stat, placed, bind, Except.bind, found] at directory
    · exact ⟨p, mustBeDir, m, rfl, found⟩
  · rintro ⟨p, mustBeDir, m, placed, found⟩
    simp [isDir, stat_of_dir placed found]

end Stat

theorem place_iff {s : String} {p : List String} {mustBeDir : Bool} :
    t.place s = .ok (p, mustBeDir) ↔
      ∃ ns, names s = some (ns, mustBeDir) ∧ t.locate (t.origin s) ns = .ok p := by
  unfold place
  rcases named : names s with _ | ⟨ns, mustBeDir'⟩
  · simp
  · rcases located : t.locate (t.origin s) ns with failure | p'
    · simp [bind, Except.bind, located]
    · simp [bind, Except.bind, located, pure, Except.pure, and_comm, eq_comm]

section Joined

variable (wf : t.WellFormed) {root rel : List String} {e : FsEntry}
  (member : (root ++ rel, e) ∈ t.entries)
include wf member

theorem locate_below {front : List String} (short : front <+: rel) :
    t.locate root front = .ok (root ++ front) := by
  obtain ⟨back, rfl⟩ := short
  refine locate_of_dirs (fun n listed => wf.plain _ member n (by simp [listed]))
    fun k positive shorter => ?_
  obtain ⟨m', found⟩ := wf.parents _ member (root.length + k) (by omega)
    (by simp only [List.length_append] at shorter ⊢; omega)
  refine ⟨m', ?_⟩
  rw [← found]
  congr 1
  rw [List.take_append, List.take_append_of_le_length (by omega)]
  simp

variable {dir : String} {mustBeDir : Bool} (placed : t.place dir = .ok (root, mustBeDir)) {m : Nat}
  (rootDir : t.lookup root = some (.dir m)) (nonempty : rel ≠ [])
include placed rootDir nonempty

theorem place_joinBelow : t.place (Batch.joinBelow dir rel) = .ok (root ++ rel, false) := by
  obtain ⟨ns, named, located⟩ := place_iff.mp placed
  have plain : ∀ n ∈ rel, Plain n := fun n listed => wf.plain _ member n (by simp [listed])
  refine place_iff.mpr ⟨ns ++ rel, names_joinBelow named nonempty plain, ?_⟩
  rw [origin_joinBelow named nonempty plain, locate_append rel located (.inr ⟨m, rootDir⟩)]
  exact locate_below wf member (List.prefix_refl rel)

theorem parent_joinBelow : ∃ parent, parentText (Batch.joinBelow dir rel) = some parent ∧
    parent ≠ "" ∧ ∃ m', t.stat parent = .ok (.dir m') := by
  obtain ⟨ns, named, located⟩ := place_iff.mp placed
  obtain ⟨parent, texted, nonemptyParent, sameOrigin, parentMustBeDir, parentNamed⟩ :=
    parentText_joinBelow named nonempty fun n listed => wf.plain _ member n (by simp [listed])
  have parentPlaced : t.place parent = .ok (root ++ rel.dropLast, parentMustBeDir) := by
    refine place_iff.mpr ⟨_, parentNamed, ?_⟩
    rw [sameOrigin, locate_append _ located (.inr ⟨m, rootDir⟩)]
    exact locate_below wf member (List.dropLast_prefix rel)
  -- the parent is the directory itself, or a directory on the entry's way down
  have parentDir : ∃ m', t.lookup (root ++ rel.dropLast) = some (.dir m') := by
    rcases eq_or_ne rel.dropLast [] with empty | deeper
    · rw [empty, List.append_nil]
      exact ⟨m, rootDir⟩
    · have shorter : rel.dropLast.length < rel.length := by
        rw [List.length_dropLast]
        have := List.length_pos_of_ne_nil nonempty
        omega
      obtain ⟨m', found⟩ := wf.parents _ member (root ++ rel.dropLast).length
        (by simp only [List.length_append]; have := List.length_pos_of_ne_nil deeper; omega)
        (by simp only [List.length_append]; omega)
      have start : (root ++ rel).take (root ++ rel.dropLast).length = root ++ rel.dropLast :=
        (List.prefix_iff_eq_take.mp
          (List.prefix_append_right_inj root |>.mpr (List.dropLast_prefix rel))).symm
      exact ⟨m', by rwa [start] at found⟩
  obtain ⟨m', found⟩ := parentDir
  exact ⟨parent, texted, nonemptyParent, m', stat_of_dir parentPlaced found⟩

end Joined

theorem lt_of_append_lt_append {r r' : List String} :
    (root : List String) → root ++ r < root ++ r' → r < r'
  | [], lt => lt
  | n :: root, lt =>
    lt_of_append_lt_append root ((List.cons_lt_cons_iff.mp lt).resolve_left (lt_irrefl n)).2

theorem getLastD_append_of_ne_nil (q : List String) {rel : List String} (nonempty : rel ≠ []) :
    (q ++ rel).getLastD "" = rel.getLastD "" := by
  rw [List.getLastD_eq_getLast?, List.getLastD_eq_getLast?,
    List.getLast?_append_of_ne_nil _ nonempty]

section Found

variable (wf : t.WellFormed) {root : List String} {dir ext : String}
  {F : List String × FsEntry → Option String}
  (picks : ∀ q e y, F (q, e) = some y ↔ (∃ bytes m, e = .file bytes m) ∧
    Text.contains (q.getLastD "") ext = true ∧ y = Batch.joinBelow dir (q.drop root.length))
include wf picks

theorem filterMap_walk : ∃ rels : List (List String),
    (t.walk root (t.entries.length + 1)).filterMap F = rels.map (Batch.joinBelow dir) ∧
    rels.Pairwise (· < ·) ∧
    ∀ rel, rel ∈ rels ↔ rel ≠ [] ∧ (∃ bytes m, (root ++ rel, .file bytes m) ∈ t.entries) ∧
      Text.contains (rel.getLastD "") ext = true := by
  let G : List String × FsEntry → Option (List String) := fun x =>
    if (F x).isSome then some (x.1.drop root.length) else none
  refine ⟨(t.walk root (t.entries.length + 1)).filterMap G, ?_, ?_, fun rel => ?_⟩
  · rw [List.map_filterMap]
    refine List.filterMap_congr fun ⟨q, e⟩ _ => ?_
    cases found : F (q, e) with
    | none => simp [G, found]
    | some y => simp [G, found, ((picks q e y).mp found).2.2]
  · -- the walk's paths all lie below the root, and dropping it keeps their order
    have ordered := List.pairwise_map.mp (walk_sorted wf (t.entries.length + 1) root)
    have below : (t.walk root (t.entries.length + 1)).Pairwise fun x x' =>
        ∃ r r', x.1 = root ++ r ∧ x'.1 = root ++ r' ∧ r < r' := by
      refine ordered.imp_of_mem fun {x x'} listed listed' lt => ?_
      obtain ⟨r, -, under⟩ := extends_of_mem_walk (e := x.2) listed
      obtain ⟨r', -, under'⟩ := extends_of_mem_walk (e := x'.2) listed'
      rw [under, under'] at lt
      exact ⟨r, r', under, under', lt_of_append_lt_append root lt⟩
    refine List.Pairwise.filterMap G (fun x x' ⟨r, r', under, under', lt⟩ d picked d'
      picked' => ?_) below
    obtain ⟨-, rfl⟩ : (F x).isSome ∧ x.1.drop root.length = d := by simpa [G] using picked
    obtain ⟨-, rfl⟩ : (F x').isSome ∧ x'.1.drop root.length = d' := by simpa [G] using picked'
    rw [under, under']
    simpa using lt
  · simp only [List.mem_filterMap]
    constructor
    · rintro ⟨⟨q, e⟩, listed, picked⟩
      obtain ⟨r, nonempty, rfl, -, member⟩ := (mem_walk wf).mp listed
      simp only [G] at picked
      split at picked
      · rename_i chosen
        obtain ⟨y, found⟩ := Option.isSome_iff_exists.mp chosen
        obtain ⟨⟨bytes, m, rfl⟩, contains, -⟩ := (picks _ _ y).mp found
        simp only [List.drop_left, Option.some.injEq] at picked
        subst picked
        exact ⟨nonempty, ⟨bytes, m, member⟩, by rwa [getLastD_append_of_ne_nil _ nonempty] at contains⟩
      · cases picked
    · rintro ⟨nonempty, ⟨bytes, m, member⟩, contains⟩
      have short : rel.length ≤ t.entries.length + 1 := by
        have := length_le_of_mem wf member
        simp only [List.length_append] at this
        omega
      refine ⟨(root ++ rel, .file bytes m), (mem_walk wf).mpr ⟨rel, nonempty, rfl, short, member⟩, ?_⟩
      have found := (picks (root ++ rel) (.file bytes m) _).mpr
        ⟨⟨bytes, m, rfl⟩, by rwa [getLastD_append_of_ne_nil _ nonempty], rfl⟩
      simp [G, found]

end Found

end FileTree

theorem Host.emit_files (area : String) (level : Level) (message : String)
    (fields : List (String × String)) (h : Host) :
    ((Host.emit area level message fields).run h).2.files = h.files := by
  unfold Host.emit
  simp only [StateT.run_bind, StateT.run_get, pure_bind]
  split
  · rfl
  · split <;> rfl

theorem Host.emit_run_then {α : Type} (area : String) (level : Level) (message : String)
    (fields : List (String × String)) (x : α) (h : Host) :
    ((Host.emit area level message fields).run h >>= fun p => pure (x, p.2) : Id (α × Host)) =
      (x, ((Host.emit area level message fields).run h).2) := rfl

namespace Batch

variable {h : Host} {dir ext : String}

theorem findFiles_of_not_dir (notDir : h.files.isDir dir = false) :
    (findFiles dir ext).run h = (.error (.store (.notADirectory dir)), h) := by
  -- unfolding by `rw`, not `simp`: the kernel checks a `simp` unfolding of the walk for minutes
  rw [findFiles, StateT.run_bind, StateT.run_get, pure_bind]
  dsimp only
  split
  · rw [notDir]
    rfl
  · rfl

/-- In a well-formed tree the files found under a directory are, by their path below it, the
regular files there whose name contains the extension, in ascending order of their paths; finding
them changes no file. -/
theorem findFiles_of_dir (wf : h.files.WellFormed) (isDir : h.files.isDir dir = true) :
    ∃ root mustBeDir m, ∃ rels : List (List String), h.files.place dir = .ok (root, mustBeDir) ∧
      h.files.lookup root = some (.dir m) ∧
      ((findFiles dir ext).run h).1 = .ok (rels.map (joinBelow dir)) ∧
      ((findFiles dir ext).run h).2.files = h.files ∧ rels.Pairwise (· < ·) ∧
      ∀ rel, rel ∈ rels ↔ rel ≠ [] ∧ (∃ bytes m, (root ++ rel, .file bytes m) ∈ h.files.entries) ∧
        Text.contains (rel.getLastD "") ext = true := by
  obtain ⟨root, mustBeDir, m, placed, rootDir⟩ := FileTree.isDir_iff.mp isDir
  refine ⟨root, mustBeDir, m, ?_⟩
  rw [findFiles, StateT.run_bind, StateT.run_get, pure_bind]
  dsimp only
  rw [placed]
  dsimp only
  rw [isDir, Bool.not_true, if_neg Bool.false_ne_true, StateT.run_bind]
  simp only [StateT.run_pure]
  rw [Host.emit_run_then]
  dsimp only
  rw [Host.emit_files]
  simp only [true_and, Except.ok.injEq, rootDir]
  -- a file is picked when its name contains the extension; a directory never is
  refine FileTree.filterMap_walk wf fun q e y => ?_
  cases e with
  | file bytes mode =>
    by_cases named : Text.contains (q.getLastD "") ext = true
    · simp only [named, if_true, Option.some.injEq, true_and]
      exact ⟨fun same => ⟨⟨bytes, mode, rfl⟩, same.symm⟩, fun ⟨_, same⟩ => same.symm⟩
    · rw [if_neg named]
      exact ⟨fun picked => (by cases picked), fun ⟨_, contains, _⟩ => absurd contains named⟩
  | dir mode => simp

end Batch


end SealedPillar
