import SealedPillar.Batch

/-!
The names of a path joined below a directory.

A path is split at each `/` into segments (`FileTree.segments`); its names are the segments that
are neither empty nor `.`. A batch run names each file it finds by the directory's path, a
separator and the names below it (`Batch.joinBelow`). When those names are plain (not empty, no
separator, neither `.` nor `..`, as the names of a directory's entries are), the joined path names
the directory's names and then the names below (`names_joinBelow`), and its parent's text names the
directory's names and all the names below but the last (`parentText_joinBelow`).
-/

namespace SealedPillar

namespace FileTree

def Plain (n : String) : Prop := n ≠ "" ∧ '/' ∉ n.toList ∧ n ≠ "." ∧ n ≠ ".."

def kept (c : String) : Bool := !c.isEmpty && c != "."

theorem kept_of_plain {n : String} (plain : Plain n) : kept n = true := by
  obtain ⟨nonempty, -, notDot, -⟩ := plain
  simp [kept, nonempty, notDot]

section Segments

theorem not_mem_of_mem_splitOn (a : Char) : (xs : List Char) → ∀ l ∈ xs.splitOn a, a ∉ l
  | [] => by simp
  | x :: xs => by
    rw [List.splitOn_cons_eq_if_modifyHead]
    split
    · intro l member
      rcases List.mem_cons.mp member with rfl | later
      · simp
      · exact not_mem_of_mem_splitOn a xs l later
    · rename_i other
      obtain ⟨first, rest, split⟩ := List.exists_cons_of_ne_nil (List.splitOn_ne_nil a xs)
      have inner := not_mem_of_mem_splitOn a xs
      rw [split] at inner ⊢
      intro l member
      simp only [List.modifyHead_cons, List.mem_cons] at member
      rcases member with rfl | later
      · simp only [List.mem_cons, not_or]
        exact ⟨fun same => other (by simp [same]), inner first List.mem_cons_self⟩
      · exact inner l (List.mem_cons_of_mem _ later)

theorem slash_not_mem_of_mem_segments {path seg : String} (member : seg ∈ segments path) :
    '/' ∉ seg.toList := by
  obtain ⟨chars, inSplit, rfl⟩ := List.mem_map.mp member
  simpa using not_mem_of_mem_splitOn '/' path.toList chars inSplit

theorem segments_append_slash (a b : String) :
    segments (a ++ "/" ++ b) = segments a ++ segments b := by
  simp only [segments, String.toList_append]
  rw [show a.toList ++ "/".toList ++ b.toList = a.toList ++ '/' :: b.toList by simp,
    List.splitOn_append_cons_self, List.map_append]

theorem segments_intercalate {parts : List String} (nonempty : parts ≠ [])
    (noSlash : ∀ n ∈ parts, '/' ∉ n.toList) : segments ("/".intercalate parts) = parts := by
  simp only [segments, String.toList_intercalate]
  rw [show "/".toList = ['/'] by simp, List.splitOn_intercalate]
  · simp [Function.comp_def]
  · simpa using noSlash
  · simpa using nonempty

theorem segments_of_head {path : String} {c : Char} {cs : List Char} (chars : path.toList = c :: cs)
    (notSlash : c ≠ '/') :
    ∃ first rest, segments path = first :: rest ∧ first.toList.head? = some c := by
  unfold segments
  rw [chars, List.splitOn_cons_eq_if_modifyHead, if_neg (by simpa using notSlash)]
  obtain ⟨first, rest, split⟩ := List.exists_cons_of_ne_nil (List.splitOn_ne_nil '/' cs)
  rw [split]
  exact ⟨String.ofList (c :: first), rest.map String.ofList, rfl, by simp⟩

theorem filter_segments_closed (base : String) :
    (segments (base ++ "/")).filter kept = (segments base).filter kept := by
  rw [show base ++ "/" = base ++ "/" ++ "" by simp, segments_append_slash]
  simp [kept, segments]

end Segments

section Trim

theorem trimmed_eq_not_kept : (fun s : String => s.isEmpty || s == ".") = fun s => !kept s := by
  funext s
  simp [kept, bne]

theorem filter_dropWhile_not_kept : (l : List String) →
    (l.dropWhile fun s => !kept s).filter kept = l.filter kept
  | [] => rfl
  | s :: rest => by
    cases keeps : kept s
    · simp [keeps, filter_dropWhile_not_kept rest]
    · simp [keeps]

theorem filter_trimEnd (l : List String) : (trimEnd l).filter kept = l.filter kept := by
  cases l with
  | nil => rfl
  | cons first rest =>
    simp only [trimEnd, trimmed_eq_not_kept, List.filter_cons, List.filter_reverse,
      filter_dropWhile_not_kept, List.reverse_reverse]

theorem mem_of_mem_trimEnd {l : List String} {s : String} (member : s ∈ trimEnd l) : s ∈ l := by
  cases l with
  | nil => cases member
  | cons first rest =>
    rcases List.mem_cons.mp member with rfl | later
    · exact List.mem_cons_self
    · have kept := (List.dropWhile_suffix _).subset (List.mem_reverse.mp later)
      exact List.mem_cons_of_mem _ (List.mem_reverse.mp kept)

theorem trimEnd_of_last_kept (first : String) (front : List String) {last : String}
    (lastKept : kept last = true) :
    trimEnd (first :: (front ++ [last])) = first :: (front ++ [last]) := by
  simp [trimEnd, trimmed_eq_not_kept, lastKept]

end Trim

section Named

variable {dir : String} {ns : List String} {mustBeDir : Bool}
  (named : names dir = some (ns, mustBeDir))
include named

theorem ne_empty_of_names : dir ≠ "" := by
  rintro rfl
  simp [names] at named

theorem names_eq_filter : ns = (segments dir).filter kept := by
  unfold names at named
  split at named
  · cases named
  · exact (Prod.mk.inj (Option.some.inj named)).1.symm

end Named

theorem names_of_ne_empty {path : String} (nonempty : path ≠ "") :
    names path = some ((segments path).filter kept,
      (segments path).length > 1 &&
        ((segments path).getLastD "" == "" || (segments path).getLastD "" == ".")) := by
  have filled : path.isEmpty = false := by simpa [String.isEmpty_iff] using nonempty
  simp only [names, filled, Bool.false_eq_true, if_false]
  rfl

theorem segments_ne_nil (path : String) : segments path ≠ [] := by
  simp [segments, List.splitOn_ne_nil]

theorem origin_of_ne_empty (t : FileTree) {path : String} (nonempty : path ≠ "") :
    t.origin path = if (segments path).headD "" = "" then [] else t.cwd := by
  obtain ⟨c, cs, chars⟩ := List.exists_cons_of_ne_nil (by simpa using nonempty : path.toList ≠ [])
  by_cases slash : c = '/'
  · subst slash
    have starts : path.startsWith "/" = true := by
      simp [String.startsWith_string_iff, chars]
    have first : (segments path).headD "" = "" := by
      simp [segments, chars, List.splitOn_cons_eq_if_modifyHead]
    rw [origin, if_pos starts, if_pos first]
  · obtain ⟨first, rest, segs, head⟩ := segments_of_head chars slash
    have notStarts : path.startsWith "/" = false := by
      simpa [String.startsWith_string_iff, chars] using fun same => slash same.symm
    have filled : first ≠ "" := fun empty => by simp [empty] at head
    simp [origin, notStarts, segs, filled]

theorem parentText_of_trimmed {path first last : String} {mid : List String}
    (trimmed : trimEnd (segments path) = first :: (mid ++ [last])) :
    parentText path = some (if trimEnd (first :: mid) = [""] then "/"
      else "/".intercalate (trimEnd (first :: mid))) := by
  obtain ⟨x, xs, long⟩ : ∃ x xs, mid ++ [last] = x :: xs := by
    cases mid with
    | nil => exact ⟨last, [], rfl⟩
    | cons m ms => exact ⟨m, ms ++ [last], rfl⟩
  have drop : (first :: x :: xs).dropLast = first :: mid := by
    rw [← long, ← List.cons_append, List.dropLast_concat]
  unfold parentText
  rw [trimmed, long]
  simp only [drop]
  split <;> simp_all

theorem joinBelow_eq (dir : String) (below : List String) :
    ∃ base, Batch.joinBelow dir below = base ++ "/" ++ "/".intercalate below ∧
      (dir = base ∨ dir = base ++ "/") := by
  unfold Batch.joinBelow FileTree.joinName
  split
  · rename_i closed
    rw [← String.endsWith_toSlice, String.Slice.endsWith_string_iff] at closed
    obtain ⟨front, split⟩ := closed
    refine ⟨String.ofList front, ?_, .inr ?_⟩ <;> apply String.toList_inj.mp <;> simp_all
  · exact ⟨dir, rfl, .inl rfl⟩

theorem segments_base {dir base : String} (shape : dir = base ∨ dir = base ++ "/") :
    (segments base).headD "" = (segments dir).headD "" ∧
      (segments base).filter kept = (segments dir).filter kept := by
  rcases shape with rfl | rfl
  · exact ⟨rfl, rfl⟩
  · obtain ⟨first, rest, segs⟩ := List.exists_cons_of_ne_nil (segments_ne_nil base)
    refine ⟨?_, (filter_segments_closed base).symm⟩
    rw [show base ++ "/" = base ++ "/" ++ "" by simp, segments_append_slash, segs]
    rfl

section Joined

variable {dir : String} {ns : List String} {mustBeDir : Bool}
  (named : names dir = some (ns, mustBeDir)) {below : List String}
  (nonempty : below ≠ []) (plain : ∀ n ∈ below, Plain n)
include named nonempty plain

theorem segments_joinBelow : ∃ first rest, segments (Batch.joinBelow dir below) =
    first :: (rest ++ below) ∧ first = (segments dir).headD "" ∧ (first :: rest).filter kept = ns := by
  obtain ⟨base, joined, shape⟩ := joinBelow_eq dir below
  obtain ⟨first, rest, segs⟩ := List.exists_cons_of_ne_nil (segments_ne_nil base)
  obtain ⟨sameFirst, sameKept⟩ := segments_base shape
  refine ⟨first, rest, ?_, ?_, ?_⟩
  · rw [joined, segments_append_slash, segments_intercalate nonempty fun n member =>
      (plain n member).2.1, segs]
    rfl
  · rw [← sameFirst, segs]
    rfl
  · rw [← segs, sameKept, names_eq_filter named]

theorem names_joinBelow : names (Batch.joinBelow dir below) = some (ns ++ below, false) := by
  obtain ⟨first, rest, segmented, -, keptBase⟩ := segments_joinBelow named nonempty plain
  have joinedNonempty : Batch.joinBelow dir below ≠ "" := by
    obtain ⟨base, joined, -⟩ := joinBelow_eq dir below
    rw [joined]
    intro empty
    have := congrArg String.length empty
    simp at this
  have lastPlain := plain _ (List.getLast_mem nonempty)
  have last : (first :: (rest ++ below)).getLast? = some (below.getLast nonempty) := by
    rw [← List.cons_append, List.getLast?_append, List.getLast?_eq_some_getLast nonempty,
      Option.some_or]
  rw [names_of_ne_empty joinedNonempty, segmented]
  simp only [List.getLastD_eq_getLast?, last]
  rw [← List.cons_append, List.filter_append,
    List.filter_eq_self.mpr fun n member => kept_of_plain (plain n member), keptBase]
  simp [lastPlain.1, lastPlain.2.2.1]

theorem origin_joinBelow (t : FileTree) : t.origin (Batch.joinBelow dir below) = t.origin dir := by
  obtain ⟨first, rest, segmented, sameFirst, -⟩ := segments_joinBelow named nonempty plain
  have joinedNonempty : Batch.joinBelow dir below ≠ "" := fun empty => by
    have := names_joinBelow named nonempty plain
    rw [empty] at this
    simp [names] at this
  rw [origin_of_ne_empty t joinedNonempty, origin_of_ne_empty t (ne_empty_of_names named),
    segmented, ← sameFirst]
  rfl

theorem parentText_joinBelow :
    ∃ parent, parentText (Batch.joinBelow dir below) = some parent ∧ parent ≠ "" ∧
      (∀ t : FileTree, t.origin parent = t.origin dir) ∧
      ∃ parentMustBeDir, names parent = some (ns ++ below.dropLast, parentMustBeDir) := by
  obtain ⟨first, rest, segmented, sameFirst, keptBase⟩ := segments_joinBelow named nonempty plain
  obtain ⟨front, last, split⟩ := List.eq_nil_or_concat below |>.resolve_left nonempty
  rw [List.concat_eq_append] at split
  subst split
  have lastPlain := plain last (by simp)
  have trimmed : trimEnd (segments (Batch.joinBelow dir (front ++ [last]))) =
      first :: (rest ++ front ++ [last]) := by
    rw [segmented, ← List.append_assoc,
      trimEnd_of_last_kept first (rest ++ front) (kept_of_plain lastPlain)]
  -- the parent's segments are the trimmed segments before the last name
  obtain ⟨kept', trimmedParent⟩ : ∃ kept', trimEnd (first :: (rest ++ front)) = first :: kept' :=
    ⟨_, rfl⟩
  have frontKept : front.filter kept = front :=
    List.filter_eq_self.mpr fun n member => kept_of_plain (plain n (by simp [member]))
  have filtered : (first :: kept').filter kept = ns ++ front := by
    rw [← trimmedParent, filter_trimEnd, ← List.cons_append, List.filter_append, frontKept,
      keptBase]
  have noSlash : ∀ n ∈ first :: kept', '/' ∉ n.toList := by
    intro n member
    rw [← trimmedParent, ← List.cons_append] at member
    rcases List.mem_append.mp (mem_of_mem_trimEnd member) with inBase | inFront
    · refine slash_not_mem_of_mem_segments (?_ : n ∈ segments (Batch.joinBelow dir (front ++ [last])))
      rw [segmented]
      rcases List.mem_cons.mp inBase with rfl | later
      · exact List.mem_cons_self
      · exact List.mem_cons_of_mem _ (List.mem_append_left _ later)
    · exact (plain n (by simp [inFront])).2.1
  rw [parentText_of_trimmed (by rw [trimmed, List.append_assoc]), trimmedParent]
  split
  · -- only an empty first segment is left: the parent is the root
    rename_i root
    obtain ⟨rfl, rfl⟩ := List.cons.inj root
    have none : ns ++ front = [] := by rw [← filtered]; rfl
    refine ⟨"/", rfl, by decide, fun t => ?_, true, ?_⟩
    · rw [origin_of_ne_empty t (by decide), origin_of_ne_empty t (ne_empty_of_names named),
        ← sameFirst]
      rfl
    · rw [List.dropLast_concat, none]
      rfl
  · rename_i notRoot
    have parentSegments : segments ("/".intercalate (first :: kept')) = first :: kept' :=
      segments_intercalate (by simp) noSlash
    have parentNonempty : "/".intercalate (first :: kept') ≠ "" := by
      intro empty
      rw [empty] at parentSegments
      exact notRoot (by simpa [segments] using parentSegments.symm)
    refine ⟨_, rfl, parentNonempty, fun t => ?_, ?_⟩
    · rw [origin_of_ne_empty t parentNonempty, origin_of_ne_empty t (ne_empty_of_names named),
        parentSegments, ← sameFirst]
      rfl
    · rw [names_of_ne_empty parentNonempty, parentSegments, filtered, List.dropLast_concat]
      exact ⟨_, rfl⟩

end Joined

end FileTree

end SealedPillar
