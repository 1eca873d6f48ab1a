import SealedPillar.Walk

/-!
The string leaves of a value, in the order a walk reaches them, and the value refilled with new
leaves.

`Value.leaves` lists the strings of a value depth first, sequence items by index and mapping
entries in their order. `Value.fill` puts a list of strings back in those places, and
`Value.skeleton` forgets every string. A value is its skeleton together with its leaves: filling
keeps the skeleton, and given as many strings as there are leaves it reads them back
(`leaves_fill`, `skeleton_fill`, `fill_leaves`).
-/

namespace SealedPillar

namespace Value

mutual

def leaves : Value → List String
  | .string s => [s]
  | .sequence xs => itemLeaves xs
  | .mapping es => entryLeaves es
  | .null => []
  | .bool _ => []
  | .number _ => []

def itemLeaves : List Value → List String
  | [] => []
  | x :: xs => leaves x ++ itemLeaves xs

def entryLeaves : List (String × Value) → List String
  | [] => []
  | (_, v) :: es => leaves v ++ entryLeaves es

end

mutual

def fill : Value → List String → Value
  | .string _, rs => .string (rs.headD "")
  | .sequence xs, rs => .sequence (fillItems xs rs)
  | .mapping es, rs => .mapping (fillEntries es rs)
  | .null, _ => .null
  | .bool b, _ => .bool b
  | .number n, _ => .number n

def fillItems : List Value → List String → List Value
  | [], _ => []
  | x :: xs, rs => fill x (rs.take (leaves x).length) :: fillItems xs (rs.drop (leaves x).length)

def fillEntries : List (String × Value) → List String → List (String × Value)
  | [], _ => []
  | (k, v) :: es, rs =>
    (k, fill v (rs.take (leaves v).length)) :: fillEntries es (rs.drop (leaves v).length)

end

mutual

/-- The value with every string emptied: its kinds, keys, lengths and scalars other than strings. -/
def skeleton : Value → Value
  | .string _ => .string ""
  | .sequence xs => .sequence (skeletonItems xs)
  | .mapping es => .mapping (skeletonEntries es)
  | .null => .null
  | .bool b => .bool b
  | .number n => .number n

def skeletonItems : List Value → List Value
  | [] => []
  | x :: xs => skeleton x :: skeletonItems xs

def skeletonEntries : List (String × Value) → List (String × Value)
  | [] => []
  | (k, v) :: es => (k, skeleton v) :: skeletonEntries es

end

example : fill (.sequence [.string "a", .null, .mapping [("k", .string "b")]]) ["x", "y"] =
    .sequence [.string "x", .null, .mapping [("k", .string "y")]] := rfl

mutual

theorem leaves_fill : (v : Value) → (rs : List String) → rs.length = (leaves v).length →
    leaves (fill v rs) = rs
  | .string _, rs, counted => by
    obtain ⟨r, rfl⟩ := List.length_eq_one_iff.mp counted
    rfl
  | .sequence xs, rs, counted => itemLeaves_fillItems xs rs counted
  | .mapping es, rs, counted => entryLeaves_fillEntries es rs counted
  | .null, rs, counted => (List.length_eq_zero_iff.mp counted).symm
  | .bool _, rs, counted => (List.length_eq_zero_iff.mp counted).symm
  | .number _, rs, counted => (List.length_eq_zero_iff.mp counted).symm

theorem itemLeaves_fillItems : (xs : List Value) → (rs : List String) →
    rs.length = (itemLeaves xs).length → itemLeaves (fillItems xs rs) = rs
  | [], rs, counted => (List.length_eq_zero_iff.mp counted).symm
  | x :: xs, rs, counted => by
    have split : rs.length = (leaves x).length + (itemLeaves xs).length := by
      simpa [itemLeaves] using counted
    have front := leaves_fill x (rs.take (leaves x).length) (by simp; omega)
    have back := itemLeaves_fillItems xs (rs.drop (leaves x).length) (by simp; omega)
    simp only [fillItems, itemLeaves, front, back, List.take_append_drop]

theorem entryLeaves_fillEntries : (es : List (String × Value)) → (rs : List String) →
    rs.length = (entryLeaves es).length → entryLeaves (fillEntries es rs) = rs
  | [], rs, counted => (List.length_eq_zero_iff.mp counted).symm
  | (_, v) :: es, rs, counted => by
    have split : rs.length = (leaves v).length + (entryLeaves es).length := by
      simpa [entryLeaves] using counted
    have front := leaves_fill v (rs.take (leaves v).length) (by simp; omega)
    have back := entryLeaves_fillEntries es (rs.drop (leaves v).length) (by simp; omega)
    simp only [fillEntries, entryLeaves, front, back, List.take_append_drop]

end

mutual

theorem skeleton_fill : (v : Value) → (rs : List String) → skeleton (fill v rs) = skeleton v
  | .string _, _ => rfl
  | .sequence xs, rs => by simp only [fill, skeleton, skeletonItems_fillItems xs rs]
  | .mapping es, rs => by simp only [fill, skeleton, skeletonEntries_fillEntries es rs]
  | .null, _ => rfl
  | .bool _, _ => rfl
  | .number _, _ => rfl

theorem skeletonItems_fillItems : (xs : List Value) → (rs : List String) →
    skeletonItems (fillItems xs rs) = skeletonItems xs
  | [], _ => rfl
  | x :: xs, rs => by
    simp only [fillItems, skeletonItems, skeleton_fill, skeletonItems_fillItems xs]

theorem skeletonEntries_fillEntries : (es : List (String × Value)) → (rs : List String) →
    skeletonEntries (fillEntries es rs) = skeletonEntries es
  | [], _ => rfl
  | (_, v) :: es, rs => by
    simp only [fillEntries, skeletonEntries, skeleton_fill, skeletonEntries_fillEntries es]

end

mutual

theorem length_leaves_fill : (v : Value) → (rs : List String) →
    (leaves (fill v rs)).length = (leaves v).length
  | .string _, _ => rfl
  | .sequence xs, rs => length_itemLeaves_fillItems xs rs
  | .mapping es, rs => length_entryLeaves_fillEntries es rs
  | .null, _ => rfl
  | .bool _, _ => rfl
  | .number _, _ => rfl

theorem length_itemLeaves_fillItems : (xs : List Value) → (rs : List String) →
    (itemLeaves (fillItems xs rs)).length = (itemLeaves xs).length
  | [], _ => rfl
  | x :: xs, rs => by
    simp only [fillItems, itemLeaves, List.length_append, length_leaves_fill,
      length_itemLeaves_fillItems xs]

theorem length_entryLeaves_fillEntries : (es : List (String × Value)) → (rs : List String) →
    (entryLeaves (fillEntries es rs)).length = (entryLeaves es).length
  | [], _ => rfl
  | (_, v) :: es, rs => by
    simp only [fillEntries, entryLeaves, List.length_append, length_leaves_fill,
      length_entryLeaves_fillEntries es]

end

mutual

theorem fill_fill : (v : Value) → (rs ts : List String) → fill (fill v rs) ts = fill v ts
  | .string _, _, _ => rfl
  | .sequence xs, rs, ts => by simp only [fill, fillItems_fillItems xs rs ts]
  | .mapping es, rs, ts => by simp only [fill, fillEntries_fillEntries es rs ts]
  | .null, _, _ => rfl
  | .bool _, _, _ => rfl
  | .number _, _, _ => rfl

theorem fillItems_fillItems : (xs : List Value) → (rs ts : List String) →
    fillItems (fillItems xs rs) ts = fillItems xs ts
  | [], _, _ => rfl
  | x :: xs, rs, ts => by
    simp only [fillItems, length_leaves_fill, fill_fill, fillItems_fillItems xs]

theorem fillEntries_fillEntries : (es : List (String × Value)) → (rs ts : List String) →
    fillEntries (fillEntries es rs) ts = fillEntries es ts
  | [], _, _ => rfl
  | (_, v) :: es, rs, ts => by
    simp only [fillEntries, length_leaves_fill, fill_fill, fillEntries_fillEntries es]

end

mutual

theorem fill_leaves : (v : Value) → fill v (leaves v) = v
  | .string _ => rfl
  | .sequence xs => by simp only [fill, leaves, fillItems_itemLeaves xs]
  | .mapping es => by simp only [fill, leaves, fillEntries_entryLeaves es]
  | .null => rfl
  | .bool _ => rfl
  | .number _ => rfl

theorem fillItems_itemLeaves : (xs : List Value) → fillItems xs (itemLeaves xs) = xs
  | [] => rfl
  | x :: xs => by
    simp only [fillItems, itemLeaves, List.take_left', List.drop_left', fill_leaves,
      fillItems_itemLeaves xs]

theorem fillEntries_entryLeaves : (es : List (String × Value)) →
    fillEntries es (entryLeaves es) = es
  | [] => rfl
  | (_, v) :: es => by
    simp only [fillEntries, entryLeaves, List.take_left', List.drop_left', fill_leaves,
      fillEntries_entryLeaves es]

end

end Value

namespace Document

def leaves (d : Document) : List String := Value.entryLeaves d.entries

def fill (d : Document) (rs : List String) : Document := ⟨Value.fillEntries d.entries rs⟩

def skeleton (d : Document) : Document := ⟨Value.skeletonEntries d.entries⟩

theorem leaves_fill (d : Document) {rs : List String} (counted : rs.length = d.leaves.length) :
    (d.fill rs).leaves = rs :=
  Value.entryLeaves_fillEntries d.entries rs counted

theorem skeleton_fill (d : Document) (rs : List String) : (d.fill rs).skeleton = d.skeleton := by
  simp only [fill, skeleton, Value.skeletonEntries_fillEntries]

theorem fill_fill (d : Document) (rs ts : List String) : (d.fill rs).fill ts = d.fill ts := by
  simp only [fill, Value.fillEntries_fillEntries]

theorem fill_leaves (d : Document) : d.fill d.leaves = d := by
  simp only [fill, leaves, Value.fillEntries_entryLeaves]

end Document

end SealedPillar
