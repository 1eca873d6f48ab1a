import SealedPillar.Proofs.Scopes

/-!
Key reports as folds over the strings of a document and their report paths.

`Value.leafPaths pfx v` lists the strings of `v` depth first, each with the path a key report
files it under when `v` is collected below `pfx`: mapping keys and sequence indices joined to
`pfx` by `ColonPath.join`. Collecting keys is a left fold over that list that files the identity
of each message under its path (`collect_eq_foldlM`, `collectTop_eq_foldlM`).

A report is kept in ascending path order, each path once. Keeping only the entries whose paths
pass a test commutes with filing an entry (`filter_insert`), so it commutes with the whole fold
(`foldlM_collectStep_filter`). Below a nonempty prefix every path is the prefix or starts with it
and a colon (`leafPaths_under`), which is how the paths of one top-level key are told apart from
those of another.
-/

namespace SealedPillar

namespace KeyReport

def Sorted (r : KeyReport) : Prop := r.Pairwise fun left right => left.1 < right.1

theorem key_mem_insert {path identity : String} {r : KeyReport} {entry : String × String}
    (member : entry ∈ insert path identity r) : entry.1 = path ∨ ∃ old ∈ r, entry.1 = old.1 := by
  induction r with
  | nil =>
    simp only [insert, List.mem_singleton] at member
    exact Or.inl (by rw [member])
  | cons head rest ih =>
    obtain ⟨p, i⟩ := head
    unfold insert at member
    split at member
    · rcases List.mem_cons.mp member with same | tail
      · exact Or.inl (by rw [same])
      · exact Or.inr ⟨entry, tail, rfl⟩
    · split at member
      · rcases List.mem_cons.mp member with same | tail
        · exact Or.inl (by rw [same])
        · exact Or.inr ⟨entry, List.mem_cons_of_mem _ tail, rfl⟩
      · rcases List.mem_cons.mp member with same | tail
        · exact Or.inr ⟨(p, i), List.mem_cons_self, by rw [same]⟩
        · rcases ih tail with filed | ⟨old, oldMember, equal⟩
          · exact Or.inl filed
          · exact Or.inr ⟨old, List.mem_cons_of_mem _ oldMember, equal⟩

theorem sorted_insert (path identity : String) {r : KeyReport} (sorted : Sorted r) :
    Sorted (insert path identity r) := by
  induction r with
  | nil => simp [Sorted, insert]
  | cons head rest ih =>
    obtain ⟨p, i⟩ := head
    obtain ⟨headLess, tailSorted⟩ := List.pairwise_cons.mp sorted
    unfold insert
    split
    · rename_i less
      apply List.pairwise_cons.mpr
      refine ⟨fun entry member => ?_, sorted⟩
      rcases List.mem_cons.mp member with same | tail
      · rw [same]; exact less
      · exact String.lt_trans less (headLess entry tail)
    · split
      · rename_i _ equal
        have same : path = p := by simpa using equal
        subst same
        exact List.pairwise_cons.mpr ⟨headLess, tailSorted⟩
      · rename_i notLess unequal
        have different : path ≠ p := by simpa using unequal
        have greater : p < path := Std.lt_of_le_of_ne notLess (Ne.symm different)
        apply List.pairwise_cons.mpr
        refine ⟨fun entry member => ?_, ih tailSorted⟩
        rcases key_mem_insert member with filed | ⟨old, oldMember, equal⟩
        · rw [filed]; exact greater
        · rw [equal]; exact headLess old oldMember

theorem insert_of_below {path identity : String} {r : KeyReport}
    (below : ∀ entry ∈ r, path < entry.1) : insert path identity r = (path, identity) :: r := by
  cases r with
  | nil => rfl
  | cons head rest =>
    obtain ⟨p, i⟩ := head
    simp [insert, below (p, i) List.mem_cons_self]

theorem filter_insert (keep : String → Bool) (path identity : String) {r : KeyReport}
    (sorted : Sorted r) :
    (insert path identity r).filter (fun entry => keep entry.1) =
      if keep path then insert path identity (r.filter fun entry => keep entry.1)
      else r.filter fun entry => keep entry.1 := by
  induction r with
  | nil => cases passes : keep path <;> simp [insert, passes]
  | cons head rest ih =>
    obtain ⟨p, i⟩ := head
    obtain ⟨headLess, tailSorted⟩ := List.pairwise_cons.mp sorted
    by_cases less : path < p
    · -- the entry goes first, below every kept path
      have below :
          ∀ entry ∈ ((p, i) :: rest).filter (fun entry => keep entry.1), path < entry.1 := by
        intro entry member
        rcases List.mem_cons.mp (List.mem_filter.mp member).1 with same | tail
        · rw [same]; exact less
        · exact String.lt_trans less (headLess entry tail)
      cases passes : keep path
      · simp [insert, less, passes]
      · rw [if_pos rfl, insert_of_below below]
        simp [insert, less, passes]
    · by_cases same : path = p
      · subst same
        cases passes : keep path <;> simp [insert, passes]
      · have notBelow : ¬ path < p := less
        cases kept : keep p <;> cases passes : keep path <;>
          simp [insert, notBelow, same, kept, passes, ih tailSorted]

end KeyReport

namespace Value

mutual

def leafPaths (pfx : String) : Value → List (String × String)
  | .string s => [(pfx, s)]
  | .sequence xs => itemPaths pfx 0 xs
  | .mapping es => entryPaths pfx es
  | .null => []
  | .bool _ => []
  | .number _ => []

def itemPaths (pfx : String) (index : Nat) : List Value → List (String × String)
  | [] => []
  | x :: xs => leafPaths (ColonPath.join pfx (toString index)) x ++ itemPaths pfx (index + 1) xs

def entryPaths (pfx : String) : List (String × Value) → List (String × String)
  | [] => []
  | (k, v) :: es => leafPaths (ColonPath.join pfx k) v ++ entryPaths pfx es

end

def topPaths : List (String × Value) → List (String × String)
  | [] => []
  | (k, v) :: es => leafPaths k v ++ topPaths es

end Value

namespace Walk

variable {m : Type → Type} [Monad m] [LawfulMonad m] (kb : KeyBackend m)

def collectStep (report : KeyReport) (leaf : String × String) : ExceptT Error m KeyReport :=
  if Armor.isEncrypted leaf.2 then
    (fun identity => KeyReport.insert leaf.1 identity report) <$> call (kb.keyIdentity leaf.2)
  else pure report

mutual

theorem collect_eq_foldlM (pfx : String) (report : KeyReport) : (v : Value) →
    collect kb Tracer.silent pfx report v = (v.leafPaths pfx).foldlM (collectStep kb) report
  | .string s => by
    by_cases encrypted : Armor.isEncrypted s = true
    · simp [collect, Value.leafPaths, collectStep, encrypted, Tracer.silent]
    · simp [collect, Value.leafPaths, collectStep, encrypted]
  | .sequence xs => by
    rw [collect, Value.leafPaths, collectItems_eq_foldlM]
  | .mapping es => by
    rw [collect, Value.leafPaths, collectEntries_eq_foldlM]
  | .null => by simp [collect, Value.leafPaths]
  | .bool _ => by simp [collect, Value.leafPaths]
  | .number _ => by simp [collect, Value.leafPaths]

theorem collectItems_eq_foldlM (pfx : String) (index : Nat) (report : KeyReport) :
    (xs : List Value) → collectItems kb Tracer.silent pfx index report xs =
      (Value.itemPaths pfx index xs).foldlM (collectStep kb) report
  | [] => by simp [collectItems, Value.itemPaths]
  | x :: xs => by
    simp only [collectItems, Value.itemPaths, List.foldlM_append, collect_eq_foldlM]
    congr 1
    funext r
    exact collectItems_eq_foldlM pfx (index + 1) r xs

theorem collectEntries_eq_foldlM (pfx : String) (report : KeyReport) :
    (es : List (String × Value)) → collectEntries kb Tracer.silent pfx report es =
      (Value.entryPaths pfx es).foldlM (collectStep kb) report
  | [] => by simp [collectEntries, Value.entryPaths]
  | (k, v) :: es => by
    simp only [collectEntries, Value.entryPaths, List.foldlM_append, collect_eq_foldlM]
    congr 1
    funext r
    exact collectEntries_eq_foldlM pfx r es

end

theorem collectTop_eq_foldlM (report : KeyReport) : (es : List (String × Value)) →
    collectTop kb Tracer.silent report es = (Value.topPaths es).foldlM (collectStep kb) report
  | [] => by simp [collectTop, Value.topPaths]
  | (k, v) :: es => by
    simp only [collectTop, Value.topPaths, List.foldlM_append, collect_eq_foldlM]
    congr 1
    funext r
    exact collectTop_eq_foldlM r es

section Filter

variable (o : KeyBackend Id) (keep : String → Bool)

theorem collectStep_filter {report next : KeyReport} {leaf : String × String}
    (sorted : report.Sorted) (stepped : (collectStep o report leaf).run = .ok next) :
    next.Sorted ∧
      if keep leaf.1 then
        (collectStep o (report.filter fun e => keep e.1) leaf).run =
          .ok (next.filter fun e => keep e.1)
      else (next.filter fun e => keep e.1) = report.filter fun e => keep e.1 := by
  unfold collectStep at stepped ⊢
  by_cases encrypted : Armor.isEncrypted leaf.2 = true
  · simp only [encrypted, if_true] at stepped ⊢
    cases called : (call (o.keyIdentity leaf.2)).run with
    | error e =>
      rw [ExceptT.run_map, called] at stepped
      cases stepped
    | ok identity =>
      rw [ExceptT.run_map, called] at stepped
      obtain rfl : KeyReport.insert leaf.1 identity report = next := Except.ok.inj stepped
      refine ⟨KeyReport.sorted_insert _ _ sorted, ?_⟩
      rw [KeyReport.filter_insert keep _ _ sorted]
      cases passes : keep leaf.1
      · rfl
      · rw [ExceptT.run_map, called]
        rfl
  · simp only [encrypted] at stepped ⊢
    obtain rfl : report = next := Except.ok.inj stepped
    refine ⟨sorted, ?_⟩
    cases keep leaf.1 <;> rfl

theorem foldlM_collectStep_filter : (leaves : List (String × String)) → (report done : KeyReport) →
    report.Sorted → (leaves.foldlM (collectStep o) report).run = .ok done →
    ((leaves.filter fun leaf => keep leaf.1).foldlM (collectStep o)
      (report.filter fun e => keep e.1)).run = .ok (done.filter fun e => keep e.1)
  | [], report, done, _, ran => by
    obtain rfl : report = done := Except.ok.inj ran
    rfl
  | leaf :: leaves, report, done, sorted, ran => by
    rw [List.foldlM_cons, run_bind_id] at ran
    cases stepped : (collectStep o report leaf).run with
    | error e =>
      rw [stepped] at ran
      cases ran
    | ok next =>
      rw [stepped] at ran
      obtain ⟨nextSorted, filtered⟩ := collectStep_filter o keep sorted stepped
      have rest := foldlM_collectStep_filter leaves next done nextSorted ran
      cases passes : keep leaf.1
      · rw [if_neg (by simp [passes])] at filtered
        simp only [List.filter_cons, passes, Bool.false_eq_true, if_false, ← filtered]
        exact rest
      · rw [if_pos passes] at filtered
        simp only [List.filter_cons, passes, if_true]
        rw [List.foldlM_cons, run_bind_id, filtered]
        exact rest

end Filter

end Walk

namespace ColonPath

/-- Whether a report path is filed under `name`: it is `name`, or `name` and a colon begin it. -/
def isUnder (name path : String) : Bool :=
  path == name || (name ++ ":").toList.isPrefixOf path.toList

theorem isUnder_iff {name path : String} :
    isUnder name path = true ↔ path = name ∨ ∃ rest, path = name ++ ":" ++ rest := by
  simp only [isUnder, Bool.or_eq_true, beq_iff_eq, List.isPrefixOf_iff_prefix]
  refine or_congr Iff.rfl ⟨fun ⟨rest, joined⟩ => ⟨String.ofList rest, ?_⟩, fun ⟨rest, joined⟩ =>
    ⟨rest.toList, by rw [joined]; simp⟩⟩
  apply String.toList_inj.mp
  simp [← joined]

theorem join_of_ne_empty {pfx : String} (nonempty : pfx ≠ "") (key : String) :
    join pfx key = pfx ++ ":" ++ key := by
  simp [join, String.isEmpty_iff, nonempty]

theorem append_colon_ne_empty (pfx key : String) : pfx ++ ":" ++ key ≠ "" := by
  intro empty
  have := congrArg String.toList empty
  simp at this

theorem eq_of_append_colon {a b x y : List Char} (aPlain : ':' ∉ a) (bPlain : ':' ∉ b)
    (same : a ++ ':' :: x = b ++ ':' :: y) : a = b := by
  induction a generalizing b with
  | nil =>
    cases b with
    | nil => rfl
    | cons c b =>
      obtain ⟨colon, -⟩ := List.cons.inj same
      exact absurd (colon ▸ List.mem_cons_self) bPlain
  | cons c a ih =>
    cases b with
    | nil =>
      obtain ⟨colon, -⟩ := List.cons.inj same
      exact absurd (colon ▸ List.mem_cons_self) aPlain
    | cons d b =>
      obtain ⟨rfl, rest⟩ := List.cons.inj same
      rw [ih (fun mem => aPlain (List.mem_cons_of_mem c mem))
        (fun mem => bPlain (List.mem_cons_of_mem c mem)) rest]

theorem eq_of_isUnder {key name path : String} (keyPlain : ':' ∉ key.toList)
    (namePlain : ':' ∉ name.toList) (fromKey : path = key ∨ ∃ rest, path = key ++ ":" ++ rest)
    (under : isUnder name path = true) : key = name := by
  rcases fromKey with rfl | ⟨rest, rfl⟩ <;> rcases isUnder_iff.mp under with same | ⟨other, same⟩
  · exact same
  · exact absurd (by rw [same]; simp) keyPlain
  · exact absurd (by rw [← same]; simp) namePlain
  · have joined : key.toList ++ ':' :: rest.toList = name.toList ++ ':' :: other.toList := by
      simpa using congrArg String.toList same
    exact String.toList_inj.mp (eq_of_append_colon keyPlain namePlain joined)

end ColonPath

namespace Value

mutual

theorem leafPaths_under {pfx : String} (nonempty : pfx ≠ "") : (v : Value) →
    ∀ leaf ∈ v.leafPaths pfx, leaf.1 = pfx ∨ ∃ rest, leaf.1 = pfx ++ ":" ++ rest
  | .string s => by simp [leafPaths]
  | .sequence xs => fun leaf member => Or.inr (itemPaths_under nonempty 0 xs leaf member)
  | .mapping es => fun leaf member => Or.inr (entryPaths_under nonempty es leaf member)
  | .null => by simp [leafPaths]
  | .bool _ => by simp [leafPaths]
  | .number _ => by simp [leafPaths]

theorem itemPaths_under {pfx : String} (nonempty : pfx ≠ "") (index : Nat) : (xs : List Value) →
    ∀ leaf ∈ itemPaths pfx index xs, ∃ rest, leaf.1 = pfx ++ ":" ++ rest
  | [] => by simp [itemPaths]
  | x :: xs => by
    intro leaf member
    rw [itemPaths, List.mem_append] at member
    rcases member with here | later
    · rw [ColonPath.join_of_ne_empty nonempty] at here
      rcases leafPaths_under (ColonPath.append_colon_ne_empty _ _) x leaf here with
        same | ⟨rest, deeper⟩
      · exact ⟨_, same⟩
      · exact ⟨toString index ++ ":" ++ rest, by simp [deeper, String.append_assoc]⟩
    · exact itemPaths_under nonempty (index + 1) xs leaf later

theorem entryPaths_under {pfx : String} (nonempty : pfx ≠ "") : (es : List (String × Value)) →
    ∀ leaf ∈ entryPaths pfx es, ∃ rest, leaf.1 = pfx ++ ":" ++ rest
  | [] => by simp [entryPaths]
  | (k, v) :: es => by
    intro leaf member
    rw [entryPaths, List.mem_append] at member
    rcases member with here | later
    · rw [ColonPath.join_of_ne_empty nonempty] at here
      rcases leafPaths_under (ColonPath.append_colon_ne_empty _ _) v leaf here with
        same | ⟨rest, deeper⟩
      · exact ⟨_, same⟩
      · exact ⟨k ++ ":" ++ rest, by simp [deeper, String.append_assoc]⟩
    · exact entryPaths_under nonempty es leaf later

end

theorem lookup_eq_none {k : String} : {es : List (String × Value)} →
    (∀ entry ∈ es, entry.1 ≠ k) → lookup k es = none
  | [], _ => rfl
  | (k2, v2) :: es, absent => by
    rw [lookup_cons_of_ne (Ne.symm (absent (k2, v2) List.mem_cons_self))]
    exact lookup_eq_none fun entry member => absent entry (List.mem_cons_of_mem _ member)

theorem topPaths_filter {name : String} {es : List (String × Value)} (sorted : Sorted es)
    (keysPlain : ∀ entry ∈ es, entry.1 ≠ "" ∧ ':' ∉ entry.1.toList)
    (namePlain : ':' ∉ name.toList) :
    (topPaths es).filter (fun leaf => ColonPath.isUnder name leaf.1) =
      match lookup name es with
      | some v => v.leafPaths name
      | none => [] := by
  induction es with
  | nil => simp [topPaths, lookup]
  | cons entry es ih =>
    obtain ⟨k, v⟩ := entry
    obtain ⟨headLess, tailSorted⟩ := List.pairwise_cons.mp sorted
    obtain ⟨keyNonempty, keyPlain⟩ := keysPlain (k, v) List.mem_cons_self
    have later := ih tailSorted fun entry member => keysPlain entry (List.mem_cons_of_mem _ member)
    rw [topPaths, List.filter_append]
    by_cases same : k = name
    · subst same
      -- every path of the key's value is filed under it, and no later key is the same
      have all : (v.leafPaths k).filter (fun leaf => ColonPath.isUnder k leaf.1) = v.leafPaths k :=
        List.filter_eq_self.mpr fun leaf member =>
          ColonPath.isUnder_iff.mpr (leafPaths_under keyNonempty v leaf member)
      have absent : lookup k es = none :=
        lookup_eq_none fun entry member equal => by
          have above := headLess entry member
          rw [equal] at above
          exact Std.lt_irrefl above
      rw [all, later, absent, lookup_cons_self, List.append_nil]
    · have none : (v.leafPaths k).filter (fun leaf => ColonPath.isUnder name leaf.1) = [] :=
        List.filter_eq_nil_iff.mpr fun leaf member under =>
          same (ColonPath.eq_of_isUnder keyPlain namePlain
            (leafPaths_under keyNonempty v leaf member) under)
      rw [none, later, lookup_cons_of_ne (Ne.symm same), List.nil_append]

end Value

end SealedPillar
