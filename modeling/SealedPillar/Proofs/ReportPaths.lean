import SealedPillar.Proofs.KeyReports
import SealedPillar.Proofs.PathScope
import SealedPillar.Proofs.Deterministic
import SealedPillar.Proofs.SortedDocuments

/-!
Report paths name the strings they were filed for.

Identifying a whole document calls the backend at its messages only, in the order of their report
paths, stops at the first failure and files each identity under its path
(`Walk.identify_all_eq_foldlM`); the report paths list the document's strings in order
(`Value.map_snd_topPaths`).

With top-level keys that are not empty, mapping keys without colons and each key once in its
mapping, as the document's map keeps them, report paths tell the strings apart
(`Value.nodup_topPaths`), so a report holds one entry for each message (`Walk.identify_all_report`).
A string reached through mappings alone is filed under its keys joined by colons
(`Value.mem_topPaths_of_resolveParts`), and that path parses back into the keys
(`ColonPath.parse_intercalate`), so identifying at it gives the report's entry
(`Walk.identify_path_of_leaf`). Main statement: `Walk.key_report_complete_and_addressable`.

An empty top-level key is dropped from the paths of the strings below it, and what is left names
nothing in the document (`Walk.empty_top_key_path_names_nothing`).
-/

namespace SealedPillar

namespace ColonPath

theorem segmentsFrom_eq_splitOnPPrepend (acc cs : List Char) :
    segmentsFrom acc cs = List.splitOnPPrepend (· == ':') cs acc := by
  induction cs generalizing acc with
  | nil => simp [segmentsFrom, List.splitOnPPrepend]
  | cons c rest ih =>
    by_cases colon : c = ':'
    · simp [segmentsFrom, List.splitOnPPrepend, colon, ih]
    · simp [segmentsFrom, List.splitOnPPrepend, colon, ih]

theorem parse_intercalate {ks : List String} (nonempty : ks ≠ [])
    (plain : ∀ k ∈ ks, ':' ∉ k.toList) : parse (":".intercalate ks) = ⟨ks⟩ := by
  have split : (":".intercalate ks).toList.splitOn ':' = ks.map String.toList := by
    rw [String.toList_intercalate, show ":".toList = [':'] by simp, List.splitOn_intercalate]
    · simpa using plain
    · simpa using nonempty
  have segments : segmentsFrom [] (":".intercalate ks).toList = ks.map String.toList := by
    rw [segmentsFrom_eq_splitOnPPrepend, ← split]
    rfl
  unfold parse
  rw [segments, List.map_map]
  simp [Function.comp_def]

theorem join_ne_empty {pfx : String} (nonempty : pfx ≠ "") (key : String) : join pfx key ≠ "" := by
  rw [join_of_ne_empty nonempty]
  exact append_colon_ne_empty pfx key

theorem eq_of_isUnder_join {pfx a b path : String} (nonempty : pfx ≠ "")
    (aPlain : ':' ∉ a.toList) (bPlain : ':' ∉ b.toList)
    (underA : isUnder (join pfx a) path = true) (underB : isUnder (join pfx b) path = true) :
    a = b := by
  rw [join_of_ne_empty nonempty] at underA underB
  -- below the prefix and its colon, the path is filed under each key
  have strip : ∀ {key : String}, isUnder (pfx ++ ":" ++ key) path = true →
      ∃ tail, path = pfx ++ ":" ++ tail ∧ (tail = key ∨ ∃ rest, tail = key ++ ":" ++ rest) := by
    intro key under
    rcases isUnder_iff.mp under with same | ⟨rest, same⟩
    · exact ⟨key, same, Or.inl rfl⟩
    · exact ⟨key ++ ":" ++ rest, by rw [same]; simp [String.append_assoc], Or.inr ⟨rest, rfl⟩⟩
  obtain ⟨tailA, pathA, fromA⟩ := strip underA
  obtain ⟨tailB, pathB, fromB⟩ := strip underB
  have same : tailA = tailB :=
    String.toList_inj.mp (by simpa using congrArg String.toList (pathA.symm.trans pathB))
  subst same
  exact eq_of_isUnder aPlain bPlain fromA (isUnder_iff.mpr fromB)

theorem colon_not_mem_index (i : Nat) : ':' ∉ (toString i).toList := by
  intro member
  rw [show toString i = Nat.repr i from rfl, Nat.toList_repr] at member
  have digit := Nat.isDigit_of_mem_toDigits (by decide) (by decide) member
  exact absurd digit (by decide)

end ColonPath

namespace KeyReport

theorem mem_insert_self (path identity : String) (r : KeyReport) :
    (path, identity) ∈ insert path identity r := by
  induction r with
  | nil => simp [insert]
  | cons head rest ih =>
    obtain ⟨p, i⟩ := head
    unfold insert
    split
    · exact List.mem_cons_self
    · split
      · exact List.mem_cons_self
      · exact List.mem_cons_of_mem _ ih

theorem mem_insert_of_ne {path identity : String} {r : KeyReport} {entry : String × String}
    (member : entry ∈ r) (different : entry.1 ≠ path) : entry ∈ insert path identity r := by
  induction r with
  | nil => cases member
  | cons head rest ih =>
    obtain ⟨p, i⟩ := head
    unfold insert
    split
    · exact List.mem_cons_of_mem _ member
    · split
      · rename_i equal
        have same : path = p := by simpa using equal
        rcases List.mem_cons.mp member with rfl | later
        · exact absurd same.symm different
        · exact List.mem_cons_of_mem _ later
      · rcases List.mem_cons.mp member with rfl | later
        · exact List.mem_cons_self
        · exact List.mem_cons_of_mem _ (ih later)

theorem length_insert_of_absent {path identity : String} {r : KeyReport}
    (absent : ∀ entry ∈ r, entry.1 ≠ path) : (insert path identity r).length = r.length + 1 := by
  induction r with
  | nil => rfl
  | cons head rest ih =>
    obtain ⟨p, i⟩ := head
    have different : path ≠ p := fun same => absent (p, i) List.mem_cons_self same.symm
    unfold insert
    split
    · rfl
    · rw [if_neg (by simpa using different), List.length_cons, List.length_cons,
        ih fun entry member => absent entry (List.mem_cons_of_mem _ member)]

theorem nodup_of_sorted {r : KeyReport} (sorted : r.Sorted) : (r.map Prod.fst).Nodup := by
  apply (List.pairwise_map.mpr sorted).imp
  intro a b less same
  exact Std.lt_irrefl (same ▸ less)

end KeyReport

namespace Value

mutual

def KeysPlain : Value → Prop
  | .sequence xs => ItemsKeysPlain xs
  | .mapping es => EntriesKeysPlain es
  | .null => True
  | .bool _ => True
  | .number _ => True
  | .string _ => True

def ItemsKeysPlain : List Value → Prop
  | [] => True
  | x :: xs => KeysPlain x ∧ ItemsKeysPlain xs

def EntriesKeysPlain : List (String × Value) → Prop
  | [] => True
  | (k, v) :: es => ':' ∉ k.toList ∧ KeysPlain v ∧ EntriesKeysPlain es

end

theorem keysPlain_of_mem {entry : String × Value} : {es : List (String × Value)} →
    EntriesKeysPlain es → entry ∈ es → ':' ∉ entry.1.toList ∧ KeysPlain entry.2
  | [], _, member => by cases member
  | (k, v) :: es, ⟨keyPlain, valuePlain, restPlain⟩, member => by
    rcases List.mem_cons.mp member with rfl | later
    · exact ⟨keyPlain, valuePlain⟩
    · exact keysPlain_of_mem restPlain later

theorem plain_of_resolveParts : {ks : List String} → {es : List (String × Value)} → {v : Value} →
    EntriesKeysPlain es → ColonPath.resolveParts ks es = some v → ∀ k ∈ ks, ':' ∉ k.toList
  | [], _, _, _, found => by simp [ColonPath.resolveParts] at found
  | [k], _, _, plain, found => by
    intro k' member
    rw [List.mem_singleton] at member
    subst member
    exact (keysPlain_of_mem plain (mem_of_lookup found)).1
  | k :: k2 :: rest, _, _, plain, found => by
    obtain ⟨inner, looked, deeper⟩ := ColonPath.resolveParts_cons_cons found
    obtain ⟨keyPlain, innerPlain⟩ := keysPlain_of_mem plain (mem_of_lookup looked)
    intro k' member
    rcases List.mem_cons.mp member with rfl | later
    · exact keyPlain
    · exact plain_of_resolveParts innerPlain deeper k' later

mutual

theorem map_snd_leafPaths (pfx : String) : (v : Value) → (v.leafPaths pfx).map Prod.snd = v.leaves
  | .string _ => rfl
  | .sequence xs => map_snd_itemPaths pfx 0 xs
  | .mapping es => map_snd_entryPaths pfx es
  | .null => rfl
  | .bool _ => rfl
  | .number _ => rfl

theorem map_snd_itemPaths (pfx : String) (index : Nat) : (xs : List Value) →
    (itemPaths pfx index xs).map Prod.snd = itemLeaves xs
  | [] => rfl
  | x :: xs => by
    rw [itemPaths, itemLeaves, List.map_append, map_snd_leafPaths, map_snd_itemPaths]

theorem map_snd_entryPaths (pfx : String) : (es : List (String × Value)) →
    (entryPaths pfx es).map Prod.snd = entryLeaves es
  | [] => rfl
  | (k, v) :: es => by
    rw [entryPaths, entryLeaves, List.map_append, map_snd_leafPaths, map_snd_entryPaths]

end

theorem map_snd_topPaths : (es : List (String × Value)) → (topPaths es).map Prod.snd = entryLeaves es
  | [] => rfl
  | (k, v) :: es => by
    rw [topPaths, entryLeaves, List.map_append, map_snd_leafPaths, map_snd_topPaths]

section Membership

variable {leaf : String × String}

theorem mem_entryPaths_of_mem {pfx k : String} {v : Value} : {es : List (String × Value)} →
    (k, v) ∈ es → leaf ∈ v.leafPaths (ColonPath.join pfx k) → leaf ∈ entryPaths pfx es
  | [], member, _ => by cases member
  | (k2, v2) :: es, member, here => by
    rw [entryPaths, List.mem_append]
    rcases List.mem_cons.mp member with same | later
    · obtain ⟨rfl, rfl⟩ := Prod.mk.inj same
      exact Or.inl here
    · exact Or.inr (mem_entryPaths_of_mem later here)

theorem mem_topPaths_of_mem {k : String} {v : Value} : {es : List (String × Value)} →
    (k, v) ∈ es → leaf ∈ v.leafPaths k → leaf ∈ topPaths es
  | [], member, _ => by cases member
  | (k2, v2) :: es, member, here => by
    rw [topPaths, List.mem_append]
    rcases List.mem_cons.mp member with same | later
    · obtain ⟨rfl, rfl⟩ := Prod.mk.inj same
      exact Or.inl here
    · exact Or.inr (mem_topPaths_of_mem later here)

theorem mem_entryPaths_of_resolveParts {s : String} : {ks : List String} → {pfx : String} →
    {es : List (String × Value)} → pfx ≠ "" →
    ColonPath.resolveParts ks es = some (.string s) →
    (pfx ++ ":" ++ ":".intercalate ks, s) ∈ entryPaths pfx es
  | [], _, _, _, found => by simp [ColonPath.resolveParts] at found
  | [k], pfx, _, nonempty, found => by
    refine mem_entryPaths_of_mem (mem_of_lookup found) ?_
    simp [leafPaths, ColonPath.join_of_ne_empty nonempty]
  | k :: k2 :: rest, pfx, _, nonempty, found => by
    obtain ⟨inner, looked, deeper⟩ := ColonPath.resolveParts_cons_cons found
    have below :=
      mem_entryPaths_of_resolveParts (ColonPath.append_colon_ne_empty pfx k) deeper
    refine mem_entryPaths_of_mem (mem_of_lookup looked) ?_
    rw [leafPaths, ColonPath.join_of_ne_empty nonempty, String.intercalate_cons_cons]
    simpa [String.append_assoc] using below

theorem mem_topPaths_of_resolveParts {s : String} {es : List (String × Value)}
    (keysNonempty : ∀ entry ∈ es, entry.1 ≠ "") :
    {ks : List String} → ColonPath.resolveParts ks es = some (.string s) →
    (":".intercalate ks, s) ∈ topPaths es
  | [], found => by simp [ColonPath.resolveParts] at found
  | [k], found => by
    refine mem_topPaths_of_mem (mem_of_lookup found) ?_
    simp [leafPaths]
  | k :: k2 :: rest, found => by
    obtain ⟨inner, looked, deeper⟩ := ColonPath.resolveParts_cons_cons found
    have member := mem_of_lookup looked
    have below := mem_entryPaths_of_resolveParts (keysNonempty _ member) deeper
    refine mem_topPaths_of_mem member ?_
    rw [leafPaths, String.intercalate_cons_cons]
    exact below

end Membership

section Apart

variable {leaf : String × String}

theorem isUnder_of_mem_leafPaths {pfx : String} (nonempty : pfx ≠ "") {v : Value}
    (member : leaf ∈ v.leafPaths pfx) : ColonPath.isUnder pfx leaf.1 = true :=
  ColonPath.isUnder_iff.mpr (leafPaths_under nonempty v leaf member)

theorem itemPaths_under_index {pfx : String} (nonempty : pfx ≠ "") :
    {index : Nat} → {xs : List Value} → leaf ∈ itemPaths pfx index xs →
    ∃ j, index ≤ j ∧ ColonPath.isUnder (ColonPath.join pfx (toString j)) leaf.1 = true
  | _, [], member => by simp [itemPaths] at member
  | index, x :: xs, member => by
    rw [itemPaths, List.mem_append] at member
    rcases member with here | later
    · exact ⟨index, Nat.le_refl index,
        isUnder_of_mem_leafPaths (ColonPath.join_ne_empty nonempty _) here⟩
    · obtain ⟨j, above, under⟩ := itemPaths_under_index nonempty later
      exact ⟨j, by omega, under⟩

theorem entryPaths_under_key {pfx : String} (nonempty : pfx ≠ "") :
    {es : List (String × Value)} → leaf ∈ entryPaths pfx es →
    ∃ entry ∈ es, ColonPath.isUnder (ColonPath.join pfx entry.1) leaf.1 = true
  | [], member => by simp [entryPaths] at member
  | (k, v) :: es, member => by
    rw [entryPaths, List.mem_append] at member
    rcases member with here | later
    · exact ⟨(k, v), List.mem_cons_self,
        isUnder_of_mem_leafPaths (ColonPath.join_ne_empty nonempty _) here⟩
    · obtain ⟨entry, member, under⟩ := entryPaths_under_key nonempty later
      exact ⟨entry, List.mem_cons_of_mem _ member, under⟩

theorem topPaths_under_key : {es : List (String × Value)} → (∀ entry ∈ es, entry.1 ≠ "") →
    leaf ∈ topPaths es → ∃ entry ∈ es, ColonPath.isUnder entry.1 leaf.1 = true
  | [], _, member => by simp [topPaths] at member
  | (k, v) :: es, keysNonempty, member => by
    rw [topPaths, List.mem_append] at member
    rcases member with here | later
    · exact ⟨(k, v), List.mem_cons_self,
        isUnder_of_mem_leafPaths (keysNonempty (k, v) List.mem_cons_self) here⟩
    · obtain ⟨entry, member, under⟩ :=
        topPaths_under_key (fun e m => keysNonempty e (List.mem_cons_of_mem _ m)) later
      exact ⟨entry, List.mem_cons_of_mem _ member, under⟩

theorem ne_of_sorted_cons {k : String} {v : Value} {es : List (String × Value)}
    (sorted : Sorted ((k, v) :: es)) {entry : String × Value} (member : entry ∈ es) :
    k ≠ entry.1 := fun same =>
  Std.lt_irrefl (same ▸ (List.pairwise_cons.mp sorted).1 entry member)

mutual

theorem nodup_leafPaths {pfx : String} (nonempty : pfx ≠ "") : (v : Value) → v.Ordered →
    v.KeysPlain → ((v.leafPaths pfx).map Prod.fst).Nodup
  | .string _, _, _ => by simp [leafPaths]
  | .sequence xs, ordered, plain => nodup_itemPaths nonempty 0 xs ordered plain
  | .mapping es, ⟨sorted, ordered⟩, plain => nodup_entryPaths nonempty es sorted ordered plain
  | .null, _, _ => by simp [leafPaths]
  | .bool _, _, _ => by simp [leafPaths]
  | .number _, _, _ => by simp [leafPaths]

theorem nodup_itemPaths {pfx : String} (nonempty : pfx ≠ "") (index : Nat) : (xs : List Value) →
    ItemsOrdered xs → ItemsKeysPlain xs → ((itemPaths pfx index xs).map Prod.fst).Nodup
  | [], _, _ => by simp [itemPaths]
  | x :: xs, ⟨ordered, restOrdered⟩, ⟨plain, restPlain⟩ => by
    rw [itemPaths, List.map_append, List.nodup_append]
    refine ⟨nodup_leafPaths (ColonPath.join_ne_empty nonempty _) x ordered plain,
      nodup_itemPaths nonempty (index + 1) xs restOrdered restPlain, ?_⟩
    -- an item's paths are filed under its index, the later items' under greater ones
    intro path here path' later same
    obtain ⟨leaf, inItem, rfl⟩ := List.mem_map.mp here
    obtain ⟨leaf', inLater, rfl⟩ := List.mem_map.mp later
    obtain ⟨j, above, under⟩ := itemPaths_under_index nonempty inLater
    have written := ColonPath.eq_of_isUnder_join nonempty (ColonPath.colon_not_mem_index index)
      (ColonPath.colon_not_mem_index j)
      (isUnder_of_mem_leafPaths (ColonPath.join_ne_empty nonempty _) inItem) (same ▸ under)
    have equal : index = j := Nat.repr_inj.mp written
    omega

theorem nodup_entryPaths {pfx : String} (nonempty : pfx ≠ "") : (es : List (String × Value)) →
    Sorted es → EntriesOrdered es → EntriesKeysPlain es →
    ((entryPaths pfx es).map Prod.fst).Nodup
  | [], _, _, _ => by simp [entryPaths]
  | (k, v) :: es, sorted, ⟨ordered, restOrdered⟩, ⟨keyPlain, plain, restPlain⟩ => by
    rw [entryPaths, List.map_append, List.nodup_append]
    refine ⟨nodup_leafPaths (ColonPath.join_ne_empty nonempty _) v ordered plain,
      nodup_entryPaths nonempty es (List.pairwise_cons.mp sorted).2 restOrdered restPlain, ?_⟩
    -- an entry's paths are filed under its key, the later entries' under greater keys
    intro path here path' later same
    obtain ⟨leaf, inEntry, rfl⟩ := List.mem_map.mp here
    obtain ⟨leaf', inLater, rfl⟩ := List.mem_map.mp later
    obtain ⟨entry, member, under⟩ := entryPaths_under_key nonempty inLater
    exact ne_of_sorted_cons sorted member (ColonPath.eq_of_isUnder_join nonempty keyPlain
      (keysPlain_of_mem restPlain member).1
      (isUnder_of_mem_leafPaths (ColonPath.join_ne_empty nonempty _) inEntry) (same ▸ under))

end

theorem nodup_topPaths : {es : List (String × Value)} → Sorted es → EntriesOrdered es →
    EntriesKeysPlain es → (∀ entry ∈ es, entry.1 ≠ "") → ((topPaths es).map Prod.fst).Nodup
  | [], _, _, _, _ => by simp [topPaths]
  | (k, v) :: es, sorted, ⟨ordered, restOrdered⟩, ⟨keyPlain, plain, restPlain⟩, keysNonempty => by
    have keyNonempty := keysNonempty (k, v) List.mem_cons_self
    rw [topPaths, List.map_append, List.nodup_append]
    refine ⟨nodup_leafPaths keyNonempty v ordered plain,
      nodup_topPaths (List.pairwise_cons.mp sorted).2 restOrdered restPlain
        (fun e m => keysNonempty e (List.mem_cons_of_mem _ m)), ?_⟩
    intro path here path' later same
    obtain ⟨leaf, inKey, rfl⟩ := List.mem_map.mp here
    obtain ⟨leaf', inLater, rfl⟩ := List.mem_map.mp later
    obtain ⟨entry, member, under⟩ :=
      topPaths_under_key (fun e m => keysNonempty e (List.mem_cons_of_mem _ m)) inLater
    exact ne_of_sorted_cons sorted member (ColonPath.eq_of_isUnder keyPlain
      (keysPlain_of_mem restPlain member).1 (leafPaths_under keyNonempty v leaf inKey)
      (same ▸ under))

end Apart

end Value

namespace Walk

section Steps

variable {m : Type → Type} [Monad m] [LawfulMonad m] (kb : KeyBackend m)

def identifyStep (report : KeyReport) (leaf : String × String) : ExceptT Error m KeyReport :=
  (fun identity => KeyReport.insert leaf.1 identity report) <$> call (kb.keyIdentity leaf.2)

theorem foldlM_collectStep_eq_filter : (leaves : List (String × String)) → (report : KeyReport) →
    leaves.foldlM (collectStep kb) report =
      (leaves.filter fun leaf => Armor.isEncrypted leaf.2).foldlM (identifyStep kb) report
  | [], _ => rfl
  | leaf :: leaves, report => by
    by_cases encrypted : Armor.isEncrypted leaf.2 = true
    · simp only [List.foldlM_cons, List.filter_cons, encrypted, if_true, collectStep,
        identifyStep, foldlM_collectStep_eq_filter leaves]
    · simp only [List.foldlM_cons, List.filter_cons, encrypted, collectStep, pure_bind,
        Bool.false_eq_true, if_false, foldlM_collectStep_eq_filter leaves]

theorem identify_all_eq_foldlM (d : Document) :
    perform kb Tracer.silent d .identify .all =
      Outcome.keys <$> ((Value.topPaths d.entries).filter fun leaf =>
        Armor.isEncrypted leaf.2).foldlM (identifyStep kb) [] := by
  rw [perform_silent_identify_all, collectTop_eq_foldlM, foldlM_collectStep_eq_filter]

end Steps

section Runs

variable {σ : Type} (kb : KeyBackend (StateM σ))

theorem identifyStep_run (report : KeyReport) (leaf : String × String) (st : σ) :
    (identifyStep kb report leaf).run.run st =
      ((((kb.keyIdentity leaf.2).run st).1.mapError Error.cipher).map
          (fun identity => KeyReport.insert leaf.1 identity report),
        ((kb.keyIdentity leaf.2).run st).2) := by
  simp only [identifyStep, call, ExceptT.run_map, ExceptT.run_mk, StateT.run_map]
  rcases (kb.keyIdentity leaf.2).run st with ⟨_ | identity, st₁⟩ <;> rfl

theorem identified_of_foldlM : (leaves : List (String × String)) → (report done : KeyReport) →
    (st : σ) → (leaves.map Prod.fst).Nodup → (∀ leaf ∈ leaves, ∀ entry ∈ report, entry.1 ≠ leaf.1) →
    report.Sorted → ((leaves.foldlM (identifyStep kb) report).run.run st).1 = .ok done →
    done.Sorted ∧ (∀ entry ∈ report, entry ∈ done) ∧ done.length = report.length + leaves.length ∧
      ∀ leaf ∈ leaves, ∃ (identity : String) (st' : σ),
        ((kb.keyIdentity leaf.2).run st').1 = .ok identity ∧ (leaf.1, identity) ∈ done
  | [], report, done, _, _, _, sorted, ran => by
    obtain rfl : report = done := Except.ok.inj ran
    exact ⟨sorted, fun _ member => member, rfl, fun _ member => by cases member⟩
  | leaf :: leaves, report, done, st, distinct, absent, sorted, ran => by
    rw [List.foldlM_cons, run_run_bind, identifyStep_run] at ran
    rcases answered : (kb.keyIdentity leaf.2).run st with ⟨_ | identity, st₁⟩
    · rw [answered] at ran
      cases ran
    rw [answered] at ran
    obtain ⟨fresh, restDistinct⟩ := List.nodup_cons.mp distinct
    -- the filed entry is new, and no later message is filed under its path or an old one
    have notHeld : ∀ entry ∈ report, entry.1 ≠ leaf.1 := absent leaf List.mem_cons_self
    have laterAbsent : ∀ later ∈ leaves,
        ∀ entry ∈ KeyReport.insert leaf.1 identity report, entry.1 ≠ later.1 := by
      intro later member entry filed same
      rcases KeyReport.key_mem_insert filed with here | ⟨old, oldMember, equal⟩
      · exact fresh (List.mem_map.mpr ⟨later, member, by rw [← same, here]⟩)
      · exact absent later (List.mem_cons_of_mem _ member) old oldMember (equal ▸ same)
    obtain ⟨doneSorted, kept, counted, held⟩ := identified_of_foldlM leaves _ done st₁ restDistinct
      laterAbsent (KeyReport.sorted_insert _ _ sorted) ran
    refine ⟨doneSorted, fun entry member => kept entry
      (KeyReport.mem_insert_of_ne member (notHeld entry member)), ?_, ?_⟩
    · rw [counted, KeyReport.length_insert_of_absent notHeld, List.length_cons]
      omega
    · intro message member
      rcases List.mem_cons.mp member with rfl | later
      · exact ⟨identity, st, by rw [answered], kept _ (KeyReport.mem_insert_self _ _ _)⟩
      · exact held message later

variable (d : OrderedDocument)

theorem identify_all_report (keysNonempty : ∀ entry ∈ d.entries, entry.1 ≠ "")
    (plain : Value.EntriesKeysPlain d.entries) {R : KeyReport} {st : σ}
    (whole : ((perform kb Tracer.silent d.toDocument .identify .all).run.run st).1 = .ok (.keys R)) :
    (R.map Prod.fst).Nodup ∧ R.length = (d.leaves.filter Armor.isEncrypted).length ∧
      ∀ leaf ∈ Value.topPaths d.entries, Armor.isEncrypted leaf.2 = true →
        ∃ (identity : String) (st' : σ),
          ((kb.keyIdentity leaf.2).run st').1 = .ok identity ∧ (leaf.1, identity) ∈ R := by
  set messages := (Value.topPaths d.entries).filter fun leaf => Armor.isEncrypted leaf.2
  rw [identify_all_eq_foldlM, ExceptT.run_map, StateT.run_map] at whole
  rcases collected : (messages.foldlM (identifyStep kb) []).run.run st with ⟨_ | found, st'⟩
  · rw [collected] at whole
    cases whole
  rw [collected] at whole
  obtain rfl : found = R := by cases whole; rfl
  have distinct : (messages.map Prod.fst).Nodup :=
    (List.filter_sublist.map Prod.fst).nodup
      (Value.nodup_topPaths d.sorted d.below plain keysNonempty)
  obtain ⟨sorted, -, counted, held⟩ := identified_of_foldlM kb messages [] found st distinct
    (fun _ _ _ member => by cases member) List.Pairwise.nil (by rw [collected])
  refine ⟨KeyReport.nodup_of_sorted sorted, ?_, fun leaf member encrypted =>
    held leaf (List.mem_filter.mpr ⟨member, encrypted⟩)⟩
  rw [counted, Document.leaves, ← Value.map_snd_topPaths, List.filter_map, List.length_map,
    List.length_nil, Nat.zero_add]
  rfl

end Runs

section Stateless

variable (o : KeyBackend Id) {d : Document}

theorem identify_path_of_leaf (plain : Value.EntriesKeysPlain d.entries) {ks : List String}
    {s identity : String} (found : d.get ⟨ks⟩ = some (.string s))
    (encrypted : Armor.isEncrypted s = true) (answered : o.keyIdentity s = .ok identity) :
    (perform o Tracer.silent d .identify (.path (ColonPath.parse (":".intercalate ks)))).run =
      .ok (.keys [(":".intercalate ks, identity)]) := by
  rw [ColonPath.parse_intercalate (ColonPath.parts_ne_nil_of_resolveParts found)
    (Value.plain_of_resolveParts plain found), perform_silent_path,
    atPath_identify_of_string o found, if_pos encrypted, ExceptT.run_map]
  simp [call, answered, Except.mapError]
  rfl

end Stateless

/-- Key reports are complete and, in a document as its maps keep it, addressable. With every
backend, identifying a whole document calls the backend at its messages only, in the order of their
report paths, stops at the first failure, and files each identity under the message's path; the
report paths list the document's strings in order. When the document's maps are sorted, its
top-level keys are not empty and no key holds a colon, the strings' paths are all different and a
report holds one entry for each message, with every backend. With a backend that answers from the
message alone, each entry is the backend's identity of its message, and a string reached through
keys is filed under the keys joined by colons, that path reads the string back, and identifying at
it gives the report's entry. -/
theorem key_report_complete_and_addressable :
    (∀ {m : Type → Type} [Monad m] [LawfulMonad m] (kb : KeyBackend m) (d : Document),
      perform kb Tracer.silent d .identify .all =
        Outcome.keys <$> ((Value.topPaths d.entries).filter fun leaf =>
          Armor.isEncrypted leaf.2).foldlM (identifyStep kb) [] ∧
      (Value.topPaths d.entries).map Prod.snd = d.leaves) ∧
    (∀ {σ : Type} (kb : KeyBackend (StateM σ)) (d : OrderedDocument),
      (∀ entry ∈ d.entries, entry.1 ≠ "") → Value.EntriesKeysPlain d.entries →
      ((Value.topPaths d.entries).map Prod.fst).Nodup ∧
      ∀ (R : KeyReport) (st : σ),
        ((perform kb Tracer.silent d.toDocument .identify .all).run.run st).1 = .ok (.keys R) →
        (R.map Prod.fst).Nodup ∧ R.length = (d.leaves.filter Armor.isEncrypted).length) ∧
    ∀ {σ : Type} {kb : KeyBackend (StateM σ)}, kb.Deterministic → ∀ d : OrderedDocument,
      (∀ entry ∈ d.entries, entry.1 ≠ "") → Value.EntriesKeysPlain d.entries →
      ∀ (R : KeyReport) (st : σ),
        ((perform kb Tracer.silent d.toDocument .identify .all).run.run st).1 = .ok (.keys R) →
        (∀ leaf ∈ Value.topPaths d.entries, Armor.isEncrypted leaf.2 = true →
          ∃ identity, ((kb.keyIdentity leaf.2).run st).1 = .ok identity ∧
            (leaf.1, identity) ∈ R) ∧
        ∀ (ks : List String) (s : String), d.get ⟨ks⟩ = some (.string s) →
          (":".intercalate ks, s) ∈ Value.topPaths d.entries ∧
          d.get (ColonPath.parse (":".intercalate ks)) = some (.string s) ∧
          (Armor.isEncrypted s = true → ∀ identity, (":".intercalate ks, identity) ∈ R →
            ∀ st' : σ, ((perform kb Tracer.silent d.toDocument .identify
              (.path (ColonPath.parse (":".intercalate ks)))).run.run st').1 =
                .ok (.keys [(":".intercalate ks, identity)])) := by
  refine ⟨fun kb d => ⟨identify_all_eq_foldlM kb d, Value.map_snd_topPaths d.entries⟩,
    fun kb d keysNonempty plain => ?_, ?_⟩
  · refine ⟨Value.nodup_topPaths d.sorted d.below plain keysNonempty, fun R st whole => ?_⟩
    obtain ⟨distinct, counted, -⟩ := identify_all_report kb d keysNonempty plain whole
    exact ⟨distinct, counted⟩
  intro σ kb det d keysNonempty plain R st whole
  obtain ⟨distinct, -, held⟩ := identify_all_report kb d keysNonempty plain whole
  -- the backend answers every message from any state as it does from the walk's first state
  have answered : ∀ leaf ∈ Value.topPaths d.entries, Armor.isEncrypted leaf.2 = true →
      ∃ identity, ((kb.keyIdentity leaf.2).run st).1 = .ok identity ∧ (leaf.1, identity) ∈ R := by
    intro leaf member encrypted
    obtain ⟨identity, st', gave, filed⟩ := held leaf member encrypted
    exact ⟨identity, by rw [det.keyIdentity leaf.2 st st', gave], filed⟩
  refine ⟨answered, fun ks s found => ?_⟩
  have filed := Value.mem_topPaths_of_resolveParts keysNonempty found
  have parsed := ColonPath.parse_intercalate (ColonPath.parts_ne_nil_of_resolveParts found)
    (Value.plain_of_resolveParts plain found)
  refine ⟨filed, by rw [parsed]; exact found, fun encrypted identity member st' => ?_⟩
  obtain ⟨answer, gave, answerMember⟩ := answered _ filed encrypted
  -- the report holds one identity under the path
  have same : identity = answer :=
    (Prod.mk.inj (List.inj_on_of_nodup_map distinct member answerMember rfl)).2
  subst same
  rw [perform_frozen det st d.toDocument .identify _ st']
  exact identify_path_of_leaf (kb.frozen st) plain found encrypted gave

theorem key_report_db_password :
    let d : OrderedDocument :=
      { entries := [("db", .mapping [("password", .string (Armor.encode "K1" "hunter2"))])]
        sorted := List.pairwise_singleton _ _
        below := ⟨⟨List.pairwise_singleton _ _, trivial, trivial⟩, trivial⟩ }
    (Mock.counting (MockKeys.single "K1")).Deterministic ∧
      (∀ entry ∈ d.entries, entry.1 ≠ "") ∧ Value.EntriesKeysPlain d.entries ∧
      d.get ⟨["db", "password"]⟩ = some (.string (Armor.encode "K1" "hunter2")) ∧
      ∀ (R : KeyReport) (st : Nat),
        ((perform (Mock.counting (MockKeys.single "K1")) Tracer.silent d.toDocument .identify
          .all).run.run st).1 = .ok (.keys R) →
        R.length = 1 ∧ ∀ identity, ("db:password", identity) ∈ R → ∀ st' : Nat,
          ((perform (Mock.counting (MockKeys.single "K1")) Tracer.silent d.toDocument .identify
            (.path (ColonPath.parse "db:password"))).run.run st').1 =
            .ok (.keys [("db:password", identity)]) := by
  intro d
  have det := Mock.counting_deterministic (MockKeys.single "K1")
  have keysNonempty : ∀ entry ∈ d.entries, entry.1 ≠ "" := by decide
  have plain : Value.EntriesKeysPlain d.entries := ⟨by decide, ⟨by decide, trivial, trivial⟩, trivial⟩
  have found : d.get ⟨["db", "password"]⟩ = some (.string (Armor.encode "K1" "hunter2")) := rfl
  have joined : ":".intercalate ["db", "password"] = "db:password" := by decide
  have laws := key_report_complete_and_addressable
  refine ⟨det, keysNonempty, plain, found, fun R st whole => ?_⟩
  obtain ⟨-, counted⟩ := (laws.2.1 _ d keysNonempty plain).2 R st whole
  obtain ⟨-, addressed⟩ := laws.2.2 det d keysNonempty plain R st whole
  have messages : d.leaves.filter Armor.isEncrypted = [Armor.encode "K1" "hunter2"] := by
    simp [d, Document.leaves, Value.entryLeaves, Value.leaves, Armor.isEncrypted_encode]
  refine ⟨by rw [counted, messages]; rfl, fun identity member st' => ?_⟩
  rw [← joined] at member ⊢
  exact (addressed ["db", "password"] _ found).2.2 (Armor.isEncrypted_encode _ _) identity member st'

/-- Below an empty top-level key a message is filed under the path of its own key alone, which
names nothing in the document, so identifying at that path fails. -/
theorem empty_top_key_path_names_nothing :
    let d : Document := ⟨[("", .mapping [("b", .string (Armor.encode "K1" "x"))])]⟩
    (perform (Mock.counting (MockKeys.single "K1")) Tracer.silent d .identify .all).run.run 0 =
        (.ok (.keys [("b", "K1")]), 1) ∧
      d.get (ColonPath.parse "b") = none ∧
      (perform (Mock.counting (MockKeys.single "K1")) Tracer.silent d .identify
        (.path (ColonPath.parse "b"))).run.run 0 = (.error (.path (.notFound "b")), 0) := by
  intro d
  have parsed : ColonPath.parse "b" = ⟨["b"]⟩ := by
    simpa using @ColonPath.parse_intercalate ["b"] (by simp) (by decide)
  have missing : d.get ⟨["b"]⟩ = none := rfl
  have lead : ∀ c ∈ "K1".toList.head?, Text.isWhitespace c = false := fun c first => by
    simp at first
    subst first
    rfl
  have answered : ((Mock.counting (MockKeys.single "K1")).keyIdentity
      (Armor.encode "K1" "x")).run 0 = (.ok "K1", 1) := by
    rw [← Armor.keyOf_encode "K1" "x" (by decide) lead]
    rfl
  have paths : Value.topPaths d.entries = [("b", Armor.encode "K1" "x")] := by
    simp [d, Value.topPaths, Value.leafPaths, Value.entryPaths, ColonPath.join]
  refine ⟨?_, by rw [parsed]; exact missing, ?_⟩
  · rw [identify_all_eq_foldlM, paths]
    simp [Armor.isEncrypted_encode, identifyStep, call, answered, KeyReport.insert]
    rfl
  · rw [parsed, perform_silent_path, atPath_missing _ _ _ missing]
    rfl

end Walk

end SealedPillar
