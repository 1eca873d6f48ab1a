import Mathlib.Tactic.SplitIfs
import SealedPillar.Proofs.PathWrites

/-!
Documents as their sorted maps keep them.

Every mapping of a pillar is a sorted map: each key once, in ascending order. `SortedDocument` is
a document whose own map is sorted, `OrderedDocument` one whose maps are sorted at every depth.

The loader fills each mapping by inserting every key in its place, and everything it holds or
fills stays ordered from one event to the next (`Yaml.Loader.feed_ordered`), so every document
read from text is ordered (`Document.parseReport_ordered`). Writing an ordered value at a path of
an ordered document keeps it ordered (`Document.set_ordered`).
-/

namespace SealedPillar

/-- A document whose own map holds each key once, in ascending order. -/
structure SortedDocument extends Document where
  sorted : Value.Sorted entries

/-- A document whose maps, at every depth, hold each key once, in ascending order. -/
structure OrderedDocument extends SortedDocument where
  below : Value.EntriesOrdered entries

theorem OrderedDocument.ordered (d : OrderedDocument) : d.toDocument.Ordered := ⟨d.sorted, d.below⟩

namespace Value

theorem itemsOrdered_iff {xs : List Value} : ItemsOrdered xs ↔ ∀ x ∈ xs, x.Ordered := by
  induction xs with
  | nil => simp [ItemsOrdered]
  | cons x xs ih => simp [ItemsOrdered, ih]

theorem entriesOrdered_iff {es : List (String × Value)} :
    EntriesOrdered es ↔ ∀ entry ∈ es, entry.2.Ordered := by
  induction es with
  | nil => simp [EntriesOrdered]
  | cons entry es ih =>
    obtain ⟨k, v⟩ := entry
    simp [EntriesOrdered, ih]

theorem mem_insertEntry {k : String} {v : Value} {entry : String × Value} :
    ∀ {es : List (String × Value)}, entry ∈ insertEntry k v es → entry = (k, v) ∨ entry ∈ es
  | [], member => .inl (List.mem_singleton.mp member)
  | (k2, v2) :: rest, member => by
    unfold insertEntry at member
    split_ifs at member
    · exact List.mem_cons.mp member
    · rcases List.mem_cons.mp member with here | later
      · exact .inl here
      · exact .inr (List.mem_cons_of_mem _ later)
    · rcases List.mem_cons.mp member with here | later
      · exact .inr (here ▸ List.mem_cons_self)
      · exact (mem_insertEntry later).imp_right (List.mem_cons_of_mem _)

theorem entriesOrdered_insertEntry {k : String} {v : Value} {es : List (String × Value)}
    (ordered : EntriesOrdered es) (inserted : v.Ordered) : EntriesOrdered (insertEntry k v es) :=
  entriesOrdered_iff.mpr fun entry member => by
    rcases mem_insertEntry member with rfl | old
    · exact inserted
    · exact entriesOrdered_iff.mp ordered entry old

theorem ordered_insertEntry {k : String} {v : Value} {es : List (String × Value)}
    (ordered : (mapping es).Ordered) (inserted : v.Ordered) : (mapping (insertEntry k v es)).Ordered :=
  ⟨sorted_insertEntry k v ordered.1, entriesOrdered_insertEntry ordered.2 inserted⟩

theorem ordered_of_lookup {k : String} {v : Value} {es : List (String × Value)}
    (ordered : EntriesOrdered es) (found : lookup k es = some v) : v.Ordered :=
  ordered_of_mem ordered (mem_of_lookup found)

end Value

namespace Yaml

theorem ordered_resolvePlain (text : String) : (resolvePlain text).Ordered := by
  unfold resolvePlain
  split_ifs
  · trivial
  · split
    · trivial
    · split <;> trivial

def OpenNode.Ordered : OpenNode → Prop
  | .sequence items => ∀ x ∈ items.toList, x.Ordered
  | .mapping entries _ => (Value.mapping entries).Ordered

namespace Loader

/-- Everything the loader holds or is filling is ordered. -/
structure Ordered (l : Loader) : Prop where
  stack : ∀ frame ∈ l.stack, frame.node.Ordered
  anchors : ∀ entry ∈ l.anchors, entry.2.Ordered
  root : ∀ v ∈ l.root, v.Ordered

section Steps

variable {l l' : Loader} (ordered : l.Ordered)
include ordered

section Top

variable {frame : Frame} {rest : List Frame} (stacked : l.stack = frame :: rest)
include stacked

theorem Ordered.top : frame.node.Ordered :=
  ordered.stack frame (by rw [stacked]; exact List.mem_cons_self)

theorem Ordered.pop : ({ l with stack := rest } : Loader).Ordered :=
  ⟨fun f member => ordered.stack f (by rw [stacked]; exact List.mem_cons_of_mem _ member),
    ordered.anchors, ordered.root⟩

theorem Ordered.withTop {frame' : Frame} (held : frame'.node.Ordered) :
    ({ l with stack := frame' :: rest } : Loader).Ordered := by
  refine ⟨fun f member => ?_, ordered.anchors, ordered.root⟩
  rcases List.mem_cons.mp member with rfl | below
  · exact held
  · exact (ordered.pop stacked).stack f below

end Top

theorem remember_ordered (anchor : Nat) {v : Value} (held : v.Ordered) :
    (l.remember anchor v).Ordered := by
  unfold remember
  split_ifs
  · refine ⟨ordered.stack, fun entry member => ?_, ordered.root⟩
    rcases List.mem_cons.mp member with rfl | older
    · exact held
    · exact ordered.anchors entry (List.mem_filter.mp older).1
  · exact ordered

theorem setKey_ordered (k : String) : (l.setKey k).Ordered := by
  unfold setKey
  split
  · rename_i entries pending anchor rest stacked
    -- the pending key is no part of what the frame holds
    have top := ordered.top stacked
    exact ordered.withTop stacked top
  · exact ordered

theorem attach_ordered {v : Value} (held : v.Ordered) : (l.attach v).Ordered := by
  unfold attach
  split
  · split_ifs
    · exact ⟨ordered.stack, ordered.anchors, fun w set => by cases set; exact held⟩
    · exact ordered
  · rename_i items anchor rest stacked
    have top := ordered.top stacked
    refine ordered.withTop stacked fun x pushed => ?_
    rw [Array.toList_push, List.mem_append, List.mem_singleton] at pushed
    rcases pushed with old | rfl
    · exact top x old
    · exact held
  · rename_i entries k anchor rest stacked
    have top : (Value.mapping entries).Ordered := ordered.top stacked
    exact ordered.withTop stacked (Value.ordered_insertEntry top held)
  · exact ordered

theorem openNode_ordered {node : OpenNode} (empty : node.Ordered) (anchor : Nat)
    (opened : l.openNode node anchor = .ok l') : l'.Ordered := by
  unfold openNode at opened
  split_ifs at opened
  cases opened
  refine ⟨fun frame member => ?_, ordered.anchors, ordered.root⟩
  rcases List.mem_cons.mp member with rfl | below
  · exact empty
  · exact ordered.stack frame below

theorem closeNode_ordered (closed : l.closeNode = .ok l') : l'.Ordered := by
  unfold closeNode at closed
  split at closed
  · cases closed
  · rename_i frame rest stacked
    cases closed
    have top := ordered.top stacked
    have popped := ordered.pop stacked
    -- the closed collection is the value its frame was filling
    obtain ⟨node, anchor⟩ := frame
    cases node with
    | sequence items =>
      have closedValue : (Value.sequence items.toList).Ordered := Value.itemsOrdered_iff.mpr top
      exact attach_ordered (remember_ordered popped anchor closedValue) closedValue
    | mapping entries pending =>
      exact attach_ordered (remember_ordered popped anchor top) top

theorem feed_ordered {e : Event} (fed : l.feed e = .ok l') : l'.Ordered := by
  unfold feed at fed
  split at fed
  · cases fed
  · cases fed
  · cases fed
  · rename_i text style anchor
    have quoted : (Value.string text).Ordered := trivial
    split_ifs at fed
    · cases fed
      exact setKey_ordered (remember_ordered ordered anchor quoted) text
    · cases fed
      exact attach_ordered (remember_ordered ordered anchor (ordered_resolvePlain text))
        (ordered_resolvePlain text)
    · cases fed
      exact attach_ordered (remember_ordered ordered anchor quoted) quoted
  · rename_i anchor
    split at fed
    · cases fed
    · rename_i key v found
      have held : v.Ordered := ordered.anchors _ (List.mem_of_find?_eq_some found)
      split_ifs at fed
      · cases keyed : keyText v with
        | error reason =>
          rw [keyed] at fed
          cases fed
        | ok k =>
          rw [keyed] at fed
          cases fed
          exact setKey_ordered ordered k
      · cases fed
        exact attach_ordered ordered held
  · exact openNode_ordered ordered
      (show OpenNode.Ordered (.sequence #[]) from fun x member => by simp at member) _ fed
  · exact openNode_ordered ordered
      (show OpenNode.Ordered (.mapping [] none) from ⟨List.Pairwise.nil, trivial⟩) _ fed
  · exact closeNode_ordered ordered fed
  · exact closeNode_ordered ordered fed
  · cases fed
    exact ordered

end Steps

theorem empty_ordered : empty.Ordered where
  stack _ member := by cases member
  anchors _ member := by cases member
  root _ held := by cases held

theorem foldlM_feed_ordered : ∀ (events : List Event) {l l' : Loader}, l.Ordered →
    events.foldlM feed l = .ok l' → l'.Ordered
  | [], _, _, ordered, ran => by
    cases ran
    exact ordered
  | e :: events, l, l', ordered, ran => by
    rw [List.foldlM_cons] at ran
    cases fed : l.feed e with
    | error reason =>
      rw [fed] at ran
      cases ran
    | ok l₁ =>
      rw [fed] at ran
      exact foldlM_feed_ordered events (feed_ordered ordered fed) ran

end Loader

theorem loadEvents_ordered {events : List Event} {v : Value}
    (loaded : loadEvents events = .ok (some v)) : v.Ordered := by
  unfold loadEvents at loaded
  cases ran : events.foldlM Loader.feed Loader.empty with
  | error reason =>
    rw [ran] at loaded
    cases loaded
  | ok l =>
    rw [ran] at loaded
    have rooted : l.root = some v := Except.ok.inj loaded
    exact (Loader.foldlM_feed_ordered events Loader.empty_ordered ran).root v rooted

end Yaml

namespace Document

theorem loadValue_ordered {text : String} {v : Value} (loaded : loadValue text = .ok (some v)) :
    v.Ordered := by
  unfold loadValue at loaded
  split at loaded
  · cases loaded
  · exact Yaml.loadEvents_ordered loaded

/-- Every document read from text has its maps sorted at every depth. -/
theorem parseReport_ordered {file text : String} {d : Document}
    (read : (parseReport file text).1 = .ok d) : d.Ordered := by
  unfold parseReport at read
  split at read
  · cases read
  · split_ifs at read
    · cases read
      exact ⟨List.Pairwise.nil, trivial⟩
    · split at read
      · cases read
      · cases read
        exact ⟨List.Pairwise.nil, trivial⟩
      · cases read
        exact ⟨List.Pairwise.nil, trivial⟩
      · rename_i es loaded
        cases read
        exact loadValue_ordered loaded
      · cases read

end Document

namespace ColonPath

theorem ordered_assignParts (v : Value) (held : v.Ordered) :
    ∀ (parts : List String) {es : List (String × Value)}, (Value.mapping es).Ordered →
      (Value.mapping (assignParts parts es v)).Ordered
  | [], _, ordered => ordered
  | [k], _, ordered => Value.ordered_insertEntry ordered held
  | k :: k2 :: rest, es, ordered => by
    -- the mapping under the first key, or an empty one, is ordered and gets the rest of the path
    refine Value.ordered_insertEntry ordered (ordered_assignParts v held (k2 :: rest) ?_)
    split
    · rename_i m found
      exact Value.ordered_of_lookup ordered.2 found
    · exact ⟨List.Pairwise.nil, trivial⟩

end ColonPath

/-- Writing an ordered value at a path of an ordered document keeps it ordered. -/
theorem Document.set_ordered {d d' : Document} {p : ColonPath} {v : Value} (ordered : d.Ordered)
    (held : v.Ordered) (written : d.set p v = .ok d') : d'.Ordered := by
  unfold set ColonPath.assign at written
  split at written
  · cases written
  · rename_i checked
    rw [ColonPath.buildParts_of_checked _ v checked] at written
    cases written
    exact ColonPath.ordered_assignParts v held p.parts ordered

end SealedPillar
