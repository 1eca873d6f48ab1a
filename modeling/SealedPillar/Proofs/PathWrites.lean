import SealedPillar.Document

/-!
Writing at a key and at a colon path, as a lens.

The second of two writes at one key or one path wins (`insertEntry_insertEntry`,
`assignParts_assignParts`). A path that can be read meets no conflict, so it can be written
(`conflictIn_dropLast_of_resolveParts`). Where every mapping has its keys in order, each once, as
the mappings of a parsed document do, writing back what a key or a path holds changes nothing
(`insertEntry_of_lookup`, `assignParts_of_resolveParts`). Writing a value that is no mapping over
one that is no mapping changes only the written path's spine, and keeps the paths that can be
read (`Document.get_of_set_leaf`).
-/

namespace SealedPillar

namespace Value

theorem insertEntry_insertEntry (k : String) (v w : Value) (es : List (String × Value)) :
    insertEntry k w (insertEntry k v es) = insertEntry k w es := by
  induction es with
  | nil => simp [insertEntry]
  | cons entry rest ih =>
    obtain ⟨k2, v2⟩ := entry
    by_cases less : k < k2
    · simp [insertEntry, less]
    · by_cases same : k = k2
      · subst same
        simp [insertEntry]
      · simp [insertEntry, less, same, ih]

@[simp] theorem lookup_cons_self (k : String) (v : Value) (rest : List (String × Value)) :
    lookup k ((k, v) :: rest) = some v := by
  simp [lookup]

@[simp] theorem lookup_cons_of_ne {k k2 : String} (different : k ≠ k2) (v2 : Value)
    (rest : List (String × Value)) : lookup k ((k2, v2) :: rest) = lookup k rest := by
  simp [lookup, different]

theorem mem_of_lookup {k : String} {v : Value} {es : List (String × Value)}
    (found : lookup k es = some v) : (k, v) ∈ es := by
  induction es with
  | nil => simp [lookup] at found
  | cons entry rest ih =>
    obtain ⟨k2, v2⟩ := entry
    by_cases same : k = k2
    · subst same
      rw [lookup_cons_self, Option.some.injEq] at found
      rw [found]
      exact List.mem_cons_self
    · rw [lookup_cons_of_ne same] at found
      exact List.mem_cons_of_mem _ (ih found)

theorem insertEntry_of_lookup {k : String} {v : Value} {es : List (String × Value)}
    (sorted : Sorted es) (found : lookup k es = some v) : insertEntry k v es = es := by
  induction es with
  | nil => simp [lookup] at found
  | cons entry rest ih =>
    obtain ⟨k2, v2⟩ := entry
    obtain ⟨headLess, tailSorted⟩ := List.pairwise_cons.mp sorted
    by_cases same : k = k2
    · subst same
      rw [lookup_cons_self, Option.some.injEq] at found
      simp [insertEntry, found]
    · rw [lookup_cons_of_ne same] at found
      -- the key sits further on, so it is above the first key
      have above : k2 < k := headLess (k, v) (mem_of_lookup found)
      simp [insertEntry, String.lt_asymm above, same, ih tailSorted found]

mutual

/-- Every mapping inside a value has its keys in ascending order, each once. -/
def Ordered : Value → Prop
  | .sequence xs => ItemsOrdered xs
  | .mapping es => Sorted es ∧ EntriesOrdered es
  | .null => True
  | .bool _ => True
  | .number _ => True
  | .string _ => True

def ItemsOrdered : List Value → Prop
  | [] => True
  | x :: xs => Ordered x ∧ ItemsOrdered xs

def EntriesOrdered : List (String × Value) → Prop
  | [] => True
  | (_, v) :: es => Ordered v ∧ EntriesOrdered es

end

theorem ordered_of_mem {entry : String × Value} {es : List (String × Value)}
    (ordered : EntriesOrdered es) (mem : entry ∈ es) : Ordered entry.2 := by
  induction es with
  | nil => cases mem
  | cons head rest ih =>
    obtain ⟨k2, v2⟩ := head
    obtain ⟨here, later⟩ := ordered
    rcases List.mem_cons.mp mem with rfl | tail
    · exact here
    · exact ih later tail

end Value

namespace ColonPath

theorem resolveParts_cons_cons {k k2 : String} {rest : List String} {es : List (String × Value)}
    {v : Value} (found : resolveParts (k :: k2 :: rest) es = some v) :
    ∃ inner, Value.lookup k es = some (.mapping inner) ∧
      resolveParts (k2 :: rest) inner = some v := by
  simp only [resolveParts] at found
  split at found
  · exact ⟨_, ‹_›, found⟩
  · cases found

theorem assignParts_assignParts (parts : List String) (es : List (String × Value))
    (v w : Value) : assignParts parts (assignParts parts es v) w = assignParts parts es w := by
  induction parts generalizing es v w with
  | nil => rfl
  | cons k rest ih =>
    cases rest with
    | nil => exact Value.insertEntry_insertEntry k v w es
    | cons k2 rest =>
      simp only [assignParts, Value.lookup_insertEntry_self, ih, Value.insertEntry_insertEntry]

theorem conflictIn_dropLast_of_resolveParts {parts : List String} {es : List (String × Value)}
    {v : Value} (found : resolveParts parts es = some v) : conflictIn parts.dropLast es = none := by
  induction parts generalizing es with
  | nil => simp [resolveParts] at found
  | cons k rest ih =>
    cases rest with
    | nil => rfl
    | cons k2 rest =>
      obtain ⟨inner, held, deeper⟩ := resolveParts_cons_cons found
      simp [conflictIn, held, ih deeper]

theorem parts_ne_nil_of_resolveParts {parts : List String} {es : List (String × Value)}
    {v : Value} (found : resolveParts parts es = some v) : parts ≠ [] := by
  rintro rfl
  simp [resolveParts] at found

theorem resolveParts_nil_entries (parts : List String) : resolveParts parts [] = none := by
  match parts with
  | [] => rfl
  | [_] => rfl
  | _ :: _ :: _ => rfl

theorem resolveParts_cons_congr {k : String} {es es' : List (String × Value)}
    (same : Value.lookup k es = Value.lookup k es') (rest : List String) :
    resolveParts (k :: rest) es = resolveParts (k :: rest) es' := by
  cases rest <;> simp [resolveParts, same]

theorem resolveParts_assignParts_of_parted {parts q : List String} (es : List (String × Value))
    (v : Value) (notBelow : ¬ q <+: parts) (notAbove : ¬ parts <+: q) :
    resolveParts q (assignParts parts es v) = resolveParts q es := by
  induction parts generalizing q es with
  | nil => exact absurd List.nil_prefix notAbove
  | cons k rest ih =>
    cases q with
    | nil => exact absurd List.nil_prefix notBelow
    | cons j qs =>
      by_cases same : j = k
      · subst same
        -- both paths go through `j`, and part below it
        have notBelow' : ¬ qs <+: rest := fun below =>
          notBelow (List.cons_prefix_cons.mpr ⟨rfl, below⟩)
        have notAbove' : ¬ rest <+: qs := fun above =>
          notAbove (List.cons_prefix_cons.mpr ⟨rfl, above⟩)
        cases rest with
        | nil => exact absurd List.nil_prefix notAbove'
        | cons k2 rest =>
          cases qs with
          | nil => exact absurd List.nil_prefix notBelow'
          | cons j2 qs =>
            simp only [assignParts, resolveParts, Value.lookup_insertEntry_self]
            rw [ih _ notBelow' notAbove']
            -- a missing or non-mapping value under `j` is written over by an empty mapping
            split <;> simp [resolveParts_nil_entries]
      · cases rest <;> exact resolveParts_cons_congr (Value.lookup_insertEntry_of_ne same _ es) qs

theorem resolveParts_append_of_leaf {parts : List String} {es : List (String × Value)} {v : Value}
    (found : resolveParts parts es = some v) (leaf : ∀ inner, v ≠ .mapping inner)
    (x : String) (xs : List String) : resolveParts (parts ++ x :: xs) es = none := by
  induction parts generalizing es with
  | nil => simp [resolveParts] at found
  | cons k rest ih =>
    cases rest with
    | nil =>
      simp only [resolveParts] at found
      simp only [List.cons_append, List.nil_append, resolveParts, found]
      cases v <;> simp_all
    | cons k2 rest =>
      obtain ⟨inner, held, deeper⟩ := resolveParts_cons_cons found
      simp only [List.cons_append, resolveParts, held]
      exact ih deeper

theorem isSome_resolveParts_of_extension {parts q : List String} {es : List (String × Value)}
    {v : Value} (found : resolveParts parts es = some v) (pre : q <+: parts) (nonempty : q ≠ []) :
    (resolveParts q es).isSome := by
  induction parts generalizing q es with
  | nil => exact absurd (List.prefix_nil.mp pre) nonempty
  | cons k rest ih =>
    cases q with
    | nil => exact absurd rfl nonempty
    | cons j qs =>
      obtain ⟨rfl, below⟩ := List.cons_prefix_cons.mp pre
      cases rest with
      | nil =>
        obtain rfl := List.prefix_nil.mp below
        simp [found]
      | cons k2 rest =>
        obtain ⟨inner, held, deeper⟩ := resolveParts_cons_cons found
        cases qs with
        | nil => simp [resolveParts, held]
        | cons j2 qs =>
          simp only [resolveParts, held]
          exact ih deeper below (List.cons_ne_nil j2 qs)

section Leaf

variable {parts : List String} {es : List (String × Value)} {v w : Value}
  (found : resolveParts parts es = some v) (leaf : ∀ inner, v ≠ .mapping inner)
  (newLeaf : ∀ inner, w ≠ .mapping inner)
include found leaf newLeaf

theorem resolveParts_assignParts_off_spine {q : List String} (offSpine : ¬ q <+: parts) :
    resolveParts q (assignParts parts es w) = resolveParts q es := by
  by_cases above : parts <+: q
  · -- below the written path nothing is read, before or after
    obtain ⟨t, rfl⟩ := above
    cases t with
    | nil => simp at offSpine
    | cons x xs =>
      have written := resolveParts_assignParts parts (parts_ne_nil_of_resolveParts found) es w
      rw [resolveParts_append_of_leaf found leaf, resolveParts_append_of_leaf written newLeaf]
  · exact resolveParts_assignParts_of_parted es w offSpine above

theorem isSome_resolveParts_assignParts (q : List String) :
    (resolveParts q (assignParts parts es w)).isSome = (resolveParts q es).isSome := by
  by_cases spine : q <+: parts
  · cases q with
    | nil => rfl
    | cons j qs =>
      have written := resolveParts_assignParts parts (parts_ne_nil_of_resolveParts found) es w
      rw [isSome_resolveParts_of_extension written spine (List.cons_ne_nil j qs),
        isSome_resolveParts_of_extension found spine (List.cons_ne_nil j qs)]
  · rw [resolveParts_assignParts_off_spine found leaf newLeaf spine]

end Leaf

theorem assignParts_of_resolveParts {parts : List String} {es : List (String × Value)} {v : Value}
    (sorted : Value.Sorted es) (ordered : Value.EntriesOrdered es)
    (found : resolveParts parts es = some v) : assignParts parts es v = es := by
  induction parts generalizing es with
  | nil => simp [resolveParts] at found
  | cons k rest ih =>
    cases rest with
    | nil => exact Value.insertEntry_of_lookup sorted found
    | cons k2 rest =>
      obtain ⟨inner, held, deeper⟩ := resolveParts_cons_cons found
      obtain ⟨innerSorted, innerOrdered⟩ := Value.ordered_of_mem ordered (Value.mem_of_lookup held)
      simp only [assignParts, held, ih innerSorted innerOrdered deeper]
      exact Value.insertEntry_of_lookup sorted held

end ColonPath

namespace Document

def Ordered (d : Document) : Prop := Value.Sorted d.entries ∧ Value.EntriesOrdered d.entries

theorem set_of_get {d : Document} {p : ColonPath} {v : Value} (found : d.get p = some v)
    (w : Value) : d.set p w = .ok ⟨ColonPath.assignParts p.parts d.entries w⟩ := by
  simp [set, ColonPath.assign_of_checked w (ColonPath.conflictIn_dropLast_of_resolveParts found),
    Except.map]

theorem get_assignParts_of_get {d : Document} {p : ColonPath} {v : Value} (found : d.get p = some v)
    (w : Value) : Document.get ⟨ColonPath.assignParts p.parts d.entries w⟩ p = some w :=
  ColonPath.resolveParts_assignParts _ (ColonPath.parts_ne_nil_of_resolveParts found) _ _

theorem get_of_set_leaf {d d' : Document} {p : ColonPath} {v w : Value} (found : d.get p = some v)
    (leaf : ∀ inner, v ≠ .mapping inner) (newLeaf : ∀ inner, w ≠ .mapping inner)
    (written : d.set p w = .ok d') :
    d'.get p = some w ∧ (∀ q, (d'.get q).isSome = (d.get q).isSome) ∧
      ∀ q : ColonPath, ¬ q.parts <+: p.parts → d'.get q = d.get q := by
  rw [set_of_get found w] at written
  cases written
  exact ⟨get_assignParts_of_get found w,
    fun q => ColonPath.isSome_resolveParts_assignParts found leaf newLeaf q.parts,
    fun q offSpine => ColonPath.resolveParts_assignParts_off_spine found leaf newLeaf offSpine⟩

end Document

end SealedPillar
