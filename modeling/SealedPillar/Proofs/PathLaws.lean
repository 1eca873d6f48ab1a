import SealedPillar.Proofs.SortedDocuments

/-!
The laws of writing at a colon path.

A write is refused exactly when walking the path's parents from the top reaches a value that is
neither a mapping nor null before any missing or null segment, and the conflict names that
segment (`conflictIn_eq_some_iff`). A write that succeeds puts the value at the path, leaves alone
every path that parts from it, and leaves a mapping at every segment on its way
(`resolveParts_spine_assignParts`). In a mapping whose keys are in order, writing back what a path
holds changes nothing; of two writes at one path the second wins (`assign_assign`); and the
building pass never meets the conflict that the check rules out. `path_write_laws` gathers these
for the paths read from text.
-/

namespace SealedPillar

namespace ColonPath

theorem resolveParts_cons_of_mapping {k : String} {rest : List String} (more : rest ≠ [])
    {es inner : List (String × Value)} (found : Value.lookup k es = some (.mapping inner)) :
    resolveParts (k :: rest) es = resolveParts rest inner := by
  obtain ⟨k2, rest2, rfl⟩ := List.exists_cons_of_ne_nil more
  simp [resolveParts, found]

theorem resolveParts_cons_eq_some {k : String} {rest : List String} (more : rest ≠ [])
    {es : List (String × Value)} {w : Value} (found : resolveParts (k :: rest) es = some w) :
    ∃ inner, Value.lookup k es = some (.mapping inner) ∧ resolveParts rest inner = some w := by
  obtain ⟨k2, rest2, rfl⟩ := List.exists_cons_of_ne_nil more
  exact resolveParts_cons_cons found

theorem mapping_of_proper_prefix {parts q : List String} {es : List (String × Value)} {w : Value}
    (found : resolveParts parts es = some w) (nonempty : q ≠ []) (pre : q <+: parts)
    (shorter : q.length < parts.length) : ∃ inner, resolveParts q es = some (.mapping inner) := by
  induction parts generalizing q es with
  | nil => simp at shorter
  | cons k rest ih =>
    obtain ⟨j, qs, rfl⟩ := List.exists_cons_of_ne_nil nonempty
    obtain ⟨rfl, below⟩ := List.cons_prefix_cons.mp pre
    have more : rest ≠ [] := by
      rintro rfl
      simp at shorter
    obtain ⟨inner, held, deeper⟩ := resolveParts_cons_eq_some more found
    cases qs with
    | nil => exact ⟨inner, by simpa [resolveParts] using held⟩
    | cons j2 qs =>
      rw [resolveParts_cons_of_mapping (List.cons_ne_nil j2 qs) held]
      exact ih deeper (List.cons_ne_nil j2 qs) below (by simpa using shorter)

theorem blocked_cons {k seg : String} {rest : List String} {es : List (String × Value)} :
    (∃ front w, front ++ [seg] <+: k :: rest ∧ resolveParts (front ++ [seg]) es = some w ∧
        w ≠ .null ∧ ∀ inner, w ≠ .mapping inner) ↔
      (seg = k ∧ ∃ w, Value.lookup k es = some w ∧ w ≠ .null ∧ ∀ inner, w ≠ .mapping inner) ∨
      ∃ inner, Value.lookup k es = some (.mapping inner) ∧
        ∃ front w, front ++ [seg] <+: rest ∧ resolveParts (front ++ [seg]) inner = some w ∧
          w ≠ .null ∧ ∀ inner, w ≠ .mapping inner := by
  constructor
  · rintro ⟨_ | ⟨j, front⟩, w, pre, reached, notNull, notMapping⟩
    · obtain ⟨rfl, -⟩ := List.cons_prefix_cons.mp pre
      exact Or.inl ⟨rfl, w, by simpa [resolveParts] using reached, notNull, notMapping⟩
    · obtain ⟨rfl, below⟩ := List.cons_prefix_cons.mp pre
      obtain ⟨inner, held, deeper⟩ := resolveParts_cons_eq_some (by simp) reached
      exact Or.inr ⟨inner, held, front, w, below, deeper, notNull, notMapping⟩
  · rintro (⟨rfl, w, held, notNull, notMapping⟩ |
      ⟨inner, held, front, w, below, deeper, notNull, notMapping⟩)
    · exact ⟨[], w, by simp, by simpa [resolveParts] using held, notNull, notMapping⟩
    · refine ⟨k :: front, w, List.cons_prefix_cons.mpr ⟨rfl, below⟩, ?_, notNull, notMapping⟩
      rw [List.cons_append, resolveParts_cons_of_mapping (by simp) held]
      exact deeper

theorem conflictIn_eq_some_iff {parts : List String} {es : List (String × Value)} {seg : String} :
    conflictIn parts es = some seg ↔ ∃ front w, front ++ [seg] <+: parts ∧
      resolveParts (front ++ [seg]) es = some w ∧ w ≠ .null ∧ ∀ inner, w ≠ .mapping inner := by
  induction parts generalizing es with
  | nil => simp [conflictIn]
  | cons k rest ih =>
    rw [blocked_cons]
    cases found : Value.lookup k es with
    | none => simp [conflictIn, found]
    | some held =>
      cases held with
      | mapping inner => simp [conflictIn, found, ih]
      | null => simp [conflictIn, found]
      | bool _ | number _ | string _ | sequence _ => simp [conflictIn, found, eq_comm]

theorem resolveParts_spine_assignParts {parts q : List String} (es : List (String × Value))
    (v : Value) (nonempty : q ≠ []) (spine : q <+: parts.dropLast) :
    ∃ inner, resolveParts q (assignParts parts es v) = some (.mapping inner) := by
  have partsNonempty : parts ≠ [] := by
    rintro rfl
    exact nonempty (List.prefix_nil.mp spine)
  have short := spine.length_le
  rw [List.length_dropLast] at short
  have positive := List.length_pos_iff.mpr nonempty
  exact mapping_of_proper_prefix (resolveParts_assignParts parts partsNonempty es v) nonempty
    (spine.trans (List.dropLast_prefix parts)) (by omega)

theorem assign_assign (es : List (String × Value)) {p : ColonPath} (nonempty : p.parts ≠ [])
    (v w : Value) : (assign es p v >>= fun written => assign written p w) = assign es p w := by
  cases checked : conflictIn p.parts.dropLast es with
  | some seg =>
    rw [assign_of_conflict v checked, assign_of_conflict w checked]
    rfl
  | none =>
    -- the first write leaves mappings all along the path, so the second check passes too
    have again : conflictIn p.parts.dropLast (assignParts p.parts es v) = none :=
      conflictIn_dropLast_of_resolveParts (resolveParts_assignParts p.parts nonempty es v)
    rw [assign_of_checked v checked, assign_of_checked w checked]
    show assign (assignParts p.parts es v) p w = _
    rw [assign_of_checked w again, assignParts_assignParts]

theorem assign_of_resolve (d : OrderedDocument) {p : ColonPath} {v : Value}
    (found : resolve d.entries p = some v) : assign d.entries p v = .ok d.entries := by
  rw [assign_of_checked v (conflictIn_dropLast_of_resolveParts found),
    assignParts_of_resolveParts d.sorted d.below found]

/-- Writing at a path read from text. The write is refused exactly when walking the path's
parents reaches, through mappings only, a value that is neither a mapping nor null, and the refusal
names the text and that segment. A write that succeeds puts the value at the path, leaves every
path that parts from it as it was, and leaves a mapping at every segment on its way, so a null there
has become one. In a document whose maps are sorted, writing back what the path holds changes
nothing. Of two writes the second wins. Once the check has passed, the building pass meets no
conflict. -/
theorem path_write_laws (m : List (String × Value)) (s : String) (v : Value) :
    (∀ e, assign m (parse s) v = .error e ↔ ∃ front seg w,
      front ++ [seg] <+: (parse s).parts.dropLast ∧
      (∀ q, q ≠ [] → q <+: front → ∃ inner, resolve m ⟨q⟩ = some (.mapping inner)) ∧
      resolve m ⟨front ++ [seg]⟩ = some w ∧ w ≠ .null ∧ (∀ inner, w ≠ .mapping inner) ∧
      e = .conflict s seg) ∧
    (∀ m', assign m (parse s) v = .ok m' → resolve m' (parse s) = some v ∧
      (∀ q : ColonPath, ¬ q.parts <+: (parse s).parts → ¬ (parse s).parts <+: q.parts →
        resolve m' q = resolve m q) ∧
      ∀ q : ColonPath, q.parts ≠ [] → q.parts <+: (parse s).parts.dropLast →
        ∃ inner, resolve m' q = some (.mapping inner)) ∧
    (∀ d : OrderedDocument, resolve d.entries (parse s) = some v →
      assign d.entries (parse s) v = .ok d.entries) ∧
    (∀ v1 v2 : Value,
      (assign m (parse s) v1 >>= fun m' => assign m' (parse s) v2) = assign m (parse s) v2) ∧
    (conflictIn (parse s).parts.dropLast m = none →
      buildParts s (parse s).parts m v = .ok (assignParts (parse s).parts m v)) := by
  have nonempty := parts_parse_ne_nil s
  have shown := display_parse s
  refine ⟨fun e => ⟨fun refused => ?_,
      fun ⟨front, seg, w, pre, _, reached, notNull, notMapping, named⟩ => ?_⟩,
    fun m' written => ?_, fun d found => assign_of_resolve d found,
    fun v1 v2 => assign_assign m nonempty v1 v2,
    fun checked => ?_⟩
  · -- a refusal comes from the check, at the segment where the walk was blocked
    cases checked : conflictIn (parse s).parts.dropLast m with
    | none =>
      rw [assign_of_checked v checked] at refused
      cases refused
    | some seg =>
      rw [assign_of_conflict v checked, shown] at refused
      obtain ⟨front, w, pre, reached, notNull, notMapping⟩ := conflictIn_eq_some_iff.mp checked
      refine ⟨front, seg, w, pre, fun q nonemptyQ below => ?_, reached, notNull, notMapping,
        (Except.error.inj refused).symm⟩
      exact mapping_of_proper_prefix reached nonemptyQ (below.trans (List.prefix_append _ _))
        (by have := below.length_le; simp; omega)
  · rw [assign_of_conflict v
      (conflictIn_eq_some_iff.mpr ⟨front, w, pre, reached, notNull, notMapping⟩), shown, named]
  · cases checked : conflictIn (parse s).parts.dropLast m with
    | some seg =>
      rw [assign_of_conflict v checked] at written
      cases written
    | none =>
      rw [assign_of_checked v checked] at written
      cases written
      exact ⟨resolveParts_assignParts _ nonempty m v,
        fun q notBelow notAbove => resolveParts_assignParts_of_parted m v notBelow notAbove,
        fun q nonemptyQ spine => resolveParts_spine_assignParts m v nonemptyQ spine⟩
  · have built := buildParts_of_checked (parse s).display v checked
    rwa [shown] at built

theorem path_write_laws_db_password :
    let d : OrderedDocument :=
      { entries := [("db", .mapping [("password", .string "hunter2")])]
        sorted := List.pairwise_singleton _ _
        below := ⟨⟨List.pairwise_singleton _ _, trivial, trivial⟩, trivial⟩ }
    let m := d.entries
    resolve m (parse "db:password") = some (.string "hunter2") ∧
      assign m (parse "db:password") (.string "hunter2") = .ok m ∧
      conflictIn (parse "db:password").parts.dropLast m = none ∧
      buildParts "db:password" (parse "db:password").parts m (.string "hunter2") =
        .ok (assignParts (parse "db:password").parts m (.string "hunter2")) := by
  intro d m
  have laws := path_write_laws m "db:password" (.string "hunter2")
  have found : resolve m (parse "db:password") = some (.string "hunter2") := by rfl
  have checked : conflictIn (parse "db:password").parts.dropLast m = none := by rfl
  exact ⟨found, laws.2.2.1 d found, checked, laws.2.2.2.2 checked⟩

end ColonPath

end SealedPillar
