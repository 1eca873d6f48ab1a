import SealedPillar.Number

/-!
The values a pillar document holds.

A value is null, a boolean, a number, a string, a sequence, or a mapping from string keys to
values. A mapping is a list of entries kept in ascending key order (the order of the keys' UTF-8
bytes, which is the order of their code points); inserting a present key replaces its value.

Main statements: an insertion changes what exactly one key holds (`lookup_insertEntry`) and keeps
the entries sorted (`sorted_insertEntry`).
-/

namespace SealedPillar

inductive Value where
  | null
  | bool (b : Bool)
  | number (n : Number)
  | string (s : String)
  | sequence (items : List Value)
  | mapping (entries : List (String × Value))
  deriving Inhabited

namespace Value

def kind : Value → String
  | null => "null"
  | bool _ => "bool"
  | number _ => "number"
  | string _ => "string"
  | sequence _ => "sequence"
  | mapping _ => "mapping"

/-- Inserts an entry into a key-ordered entry list, replacing the value of a present key. -/
def insertEntry (k : String) (v : Value) : List (String × Value) → List (String × Value)
  | [] => [(k, v)]
  | (k2, v2) :: rest =>
    if k < k2 then (k, v) :: (k2, v2) :: rest
    else if k == k2 then (k, v) :: rest
    else (k2, v2) :: insertEntry k v rest

def lookup (k : String) : List (String × Value) → Option Value
  | [] => none
  | (k2, v2) :: rest => if k == k2 then some v2 else lookup k rest

theorem lookup_insertEntry_self (k : String) (v : Value) (es : List (String × Value)) :
    lookup k (insertEntry k v es) = some v := by
  induction es with
  | nil => simp [insertEntry, lookup]
  | cons entry rest ih =>
    obtain ⟨k2, v2⟩ := entry
    unfold insertEntry
    split
    · simp [lookup]
    · split
      · simp [lookup]
      · rename_i _ unequal
        have different : (k == k2) = false := by simpa using unequal
        simp [lookup, different, ih]

theorem lookup_insertEntry_of_ne {k j : String} (different : j ≠ k) (v : Value)
    (es : List (String × Value)) : lookup j (insertEntry k v es) = lookup j es := by
  induction es with
  | nil => simp [insertEntry, lookup, different]
  | cons entry rest ih =>
    obtain ⟨k2, v2⟩ := entry
    unfold insertEntry
    split
    · simp [lookup, different]
    · split
      · rename_i _ equal
        have same : k = k2 := by simpa using equal
        subst same
        simp [lookup, different]
      · simp [lookup, ih]

theorem lookup_insertEntry (k j : String) (v : Value) (es : List (String × Value)) :
    lookup j (insertEntry k v es) = if j = k then some v else lookup j es := by
  by_cases same : j = k
  · subst same
    simp [lookup_insertEntry_self]
  · simp [same, lookup_insertEntry_of_ne same]

def Sorted (es : List (String × Value)) : Prop :=
  es.Pairwise fun left right => left.1 < right.1

theorem key_mem_insertEntry {k : String} {v : Value} {es : List (String × Value)}
    {entry : String × Value} (member : entry ∈ insertEntry k v es) :
    entry.1 = k ∨ ∃ old ∈ es, entry.1 = old.1 := by
  induction es with
  | nil =>
    simp only [insertEntry, List.mem_singleton] at member
    exact Or.inl (by rw [member])
  | cons head rest ih =>
    obtain ⟨k2, v2⟩ := head
    unfold insertEntry at member
    split at member
    · rcases List.mem_cons.mp member with same | tail
      · exact Or.inl (by rw [same])
      · exact Or.inr ⟨entry, tail, rfl⟩
    · split at member
      · rcases List.mem_cons.mp member with same | tail
        · exact Or.inl (by rw [same])
        · exact Or.inr ⟨entry, List.mem_cons_of_mem _ tail, rfl⟩
      · rcases List.mem_cons.mp member with same | tail
        · exact Or.inr ⟨(k2, v2), List.mem_cons_self, by rw [same]⟩
        · rcases ih tail with inserted | ⟨old, oldMember, equal⟩
          · exact Or.inl inserted
          · exact Or.inr ⟨old, List.mem_cons_of_mem _ oldMember, equal⟩

theorem sorted_insertEntry (k : String) (v : Value) {es : List (String × Value)}
    (sorted : Sorted es) : Sorted (insertEntry k v es) := by
  induction es with
  | nil => simp [Sorted, insertEntry]
  | cons head rest ih =>
    obtain ⟨k2, v2⟩ := head
    obtain ⟨headLess, tailSorted⟩ := List.pairwise_cons.mp sorted
    unfold insertEntry
    split
    · rename_i less
      apply List.pairwise_cons.mpr
      refine ⟨fun entry member => ?_, sorted⟩
      rcases List.mem_cons.mp member with same | tail
      · rw [same]; exact less
      · exact String.lt_trans less (headLess entry tail)
    · split
      · rename_i _ equal
        have same : k = k2 := by simpa using equal
        subst same
        exact List.pairwise_cons.mpr ⟨headLess, tailSorted⟩
      · rename_i notLess unequal
        have different : k ≠ k2 := by simpa using unequal
        have greater : k2 < k := Std.lt_of_le_of_ne notLess (Ne.symm different)
        apply List.pairwise_cons.mpr
        refine ⟨fun entry member => ?_, ih tailSorted⟩
        rcases key_mem_insertEntry member with inserted | ⟨old, oldMember, equal⟩
        · rw [inserted]; exact greater
        · rw [equal]; exact headLess old oldMember

/-- Equality of values: numbers compare as numbers (all NaNs equal, the two zeros equal), all
else structurally. -/
def same : Value → Value → Bool
  | null, null => true
  | bool a, bool b => a == b
  | number a, number b => a.same b
  | string a, string b => a == b
  | sequence as, sequence bs => sameItems as bs
  | mapping as, mapping bs => sameEntries as bs
  | _, _ => false
where
  sameItems : List Value → List Value → Bool
    | [], [] => true
    | a :: as, b :: bs => same a b && sameItems as bs
    | _, _ => false
  sameEntries : List (String × Value) → List (String × Value) → Bool
    | [], [] => true
    | (k, a) :: as, (j, b) :: bs => k == j && same a b && sameEntries as bs
    | _, _ => false

end Value

end SealedPillar
