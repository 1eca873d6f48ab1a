import SealedPillar.Yaml.Load

/-!
The loader as a machine that reads a tree.

The parser hands the loader the events of one document: the pre-order of a tree whose collections
open and close properly and whose mappings hold key and value nodes in turn. `Node` is that tree
and `Node.events` its events, so feeding the loader any such stream is feeding it `n.events` for
some node `n`.

`Node.value` and `Node.key` read a node recursively, in value and in key position, threading the
anchored values known so far: a plain value scalar resolves, any other scalar is a string, a key
is its scalar's text or the key text of its alias's value, a repeated key keeps its last value,
an alias is a copy of its anchor's value, and every node records its value under its anchor once
it is complete. The loader's stack of open collections, with a mapping frame's pending key, is
this recursion unrolled: feeding a node's events leaves the loader as if its value had been
attached at once (`feed_events_value`), so the loader's root is the tree's value, and its first
failure is the recursion's (`loadEvents_events`).
-/

namespace SealedPillar

namespace Yaml

/-- A node of a document, as the parser's events describe it. -/
inductive Node where
  | scalar (text : String) (style : ScalarStyle) (anchor : Nat) (tag : Option Tag)
  | alias (anchor : Nat)
  | sequence (anchor : Nat) (tag : Option Tag) (items : List Node)
  | mapping (anchor : Nat) (tag : Option Tag) (entries : List (Node × Node))

abbrev Anchors := List (Nat × Value)

def recordAnchor {α : Type} (env : List (Nat × α)) (anchor : Nat) (v : α) : List (Nat × α) :=
  if anchor > 0 then (anchor, v) :: env.filter (·.1 != anchor) else env

namespace Node

mutual

def events : Node → List Event
  | scalar text style anchor tag => [.scalar text style anchor tag]
  | .alias anchor => [.alias anchor]
  | sequence anchor tag items => .sequenceStart anchor tag :: itemEvents items ++ [.sequenceEnd]
  | mapping anchor tag entries => .mappingStart anchor tag :: entryEvents entries ++ [.mappingEnd]

def itemEvents : List Node → List Event
  | [] => []
  | n :: rest => n.events ++ itemEvents rest

def entryEvents : List (Node × Node) → List Event
  | [] => []
  | (k, v) :: rest => k.events ++ v.events ++ entryEvents rest

end

def key (env : Anchors) : Node → Except String (String × Anchors)
  | scalar _ _ _ (some t) => .error (Loader.tagReason t)
  | scalar text _ anchor none => .ok (text, recordAnchor env anchor (.string text))
  | .alias id =>
    match env.lookup id with
    | none => .error ("unknown anchor " ++ toString id)
    | some v => (Loader.keyText v).map fun k => (k, env)
  | sequence _ (some t) _ => .error (Loader.tagReason t)
  | mapping _ (some t) _ => .error (Loader.tagReason t)
  | sequence _ none _ => .error "unsupported mapping key: collection"
  | mapping _ none _ => .error "unsupported mapping key: collection"

mutual

def value (env : Anchors) : Node → Except String (Value × Anchors)
  | scalar _ _ _ (some t) => .error (Loader.tagReason t)
  | scalar text style anchor none =>
    let v := if style == .plain then resolvePlain text else .string text
    .ok (v, recordAnchor env anchor v)
  | .alias id =>
    match env.lookup id with
    | none => .error ("unknown anchor " ++ toString id)
    | some v => .ok (v, env)
  | sequence _ (some t) _ => .error (Loader.tagReason t)
  | sequence anchor none items =>
    (itemValues env items).map fun r => (.sequence r.1, recordAnchor r.2 anchor (.sequence r.1))
  | mapping _ (some t) _ => .error (Loader.tagReason t)
  | mapping anchor none entries =>
    (entryValues env [] entries).map fun r => (.mapping r.1, recordAnchor r.2 anchor (.mapping r.1))

def itemValues (env : Anchors) : List Node → Except String (List Value × Anchors)
  | [] => .ok ([], env)
  | n :: rest =>
    (n.value env).bind fun r =>
      (itemValues r.2 rest).map fun s => (r.1 :: s.1, s.2)

def entryValues (env : Anchors) (acc : List (String × Value)) :
    List (Node × Node) → Except String (List (String × Value) × Anchors)
  | [] => .ok (acc, env)
  | (k, v) :: rest =>
    (k.key env).bind fun named =>
      (v.value named.2).bind fun r =>
        entryValues r.2 (Value.insertEntry named.1 r.1 acc) rest

end

end Node

namespace Loader

theorem remember_eq (l : Loader) (anchor : Nat) (v : Value) :
    l.remember anchor v = { l with anchors := recordAnchor l.anchors anchor v } := by
  unfold remember recordAnchor
  split <;> rfl

theorem find_anchor (env : Anchors) (id : Nat) :
    (env.find? (·.1 == id)).map (·.2) = env.lookup id := by
  induction env with
  | nil => rfl
  | cons entry rest ih =>
    obtain ⟨k, v⟩ := entry
    by_cases same : k = id
    · subst same
      simp [List.find?]
    · have found : (k == id) = false := beq_false_of_ne same
      have looked : (id == k) = false := beq_false_of_ne (Ne.symm same)
      simp only [List.find?, found, List.lookup_cons, looked]
      exact ih

theorem feed_alias_missing (l : Loader) {id : Nat} (missing : l.anchors.lookup id = none) :
    l.feed (.alias id) = .error ("unknown anchor " ++ toString id) := by
  rw [← find_anchor, Option.map_eq_none_iff] at missing
  simp [feed, missing]

theorem openNode_of_value (l : Loader) (node : OpenNode) (anchor : Nat)
    (expectsValue : l.awaitingKey = false) :
    l.openNode node anchor = .ok { l with stack := ⟨node, anchor⟩ :: l.stack } := by
  simp [openNode, expectsValue]

theorem feed_alias_held (l : Loader) {id : Nat} {v : Value} (held : l.anchors.lookup id = some v) :
    l.feed (.alias id) = if l.awaitingKey then (keyText v).map l.setKey else .ok (l.attach v) := by
  rw [← find_anchor, Option.map_eq_some_iff] at held
  obtain ⟨⟨k, w⟩, found, rfl⟩ := held
  simp [feed, found]

end Loader

namespace Node

theorem feed_events_key (l : Loader) (expectsKey : l.awaitingKey = true) (n : Node) :
    n.events.foldlM Loader.feed l =
      (n.key l.anchors).map fun r => ({ l with anchors := r.2 } : Loader).setKey r.1 := by
  cases n with
  | scalar text style anchor tag =>
    cases tag with
    | some t => rfl
    | none => simp [events, key, Loader.feed, expectsKey, Loader.remember_eq, Except.map]
  | «alias» id =>
    cases held : l.anchors.lookup id with
    | none => simp [events, key, held, Loader.feed_alias_missing l held, Except.map]
    | some v =>
      cases keyed : Loader.keyText v <;>
        simp [events, key, held, keyed, Loader.feed_alias_held l held, expectsKey, Except.map]
  -- a collection is refused at its start event, whatever follows
  | sequence anchor tag items =>
    cases tag with
    | some t => simp [events, key, Loader.feed, bind, Except.bind, Except.map]
    | none => simp [events, key, Loader.feed, Loader.openNode, expectsKey, bind, Except.bind,
        Except.map]
  | mapping anchor tag entries =>
    cases tag with
    | some t => simp [events, key, Loader.feed, bind, Except.bind, Except.map]
    | none => simp [events, key, Loader.feed, Loader.openNode, expectsKey, bind, Except.bind,
        Except.map]

mutual

/-- A node fed where a value is due gives the loader its value, attached where the loader expects
it, or fails as reading the value does. -/
theorem feed_events_value : (n : Node) → (l : Loader) → l.awaitingKey = false →
    n.events.foldlM Loader.feed l =
      (n.value l.anchors).map fun r => ({ l with anchors := r.2 } : Loader).attach r.1
  | scalar text style anchor (some t), l, _ => rfl
  | scalar text style anchor none, l, expectsValue => by
    simp [events, value, Loader.feed, expectsValue, Loader.remember_eq, Except.map]
  | .alias id, l, expectsValue => by
    cases held : l.anchors.lookup id with
    | none => simp [events, value, held, Loader.feed_alias_missing l held, Except.map]
    | some v =>
      simp [events, value, held, Loader.feed_alias_held l held, expectsValue, Except.map]
  | sequence anchor (some t) items, l, _ => by
    simp [events, value, Loader.feed, bind, Except.bind, Except.map]
  | sequence anchor none items, l, expectsValue => by
    -- the items run on the open frame, then the end event closes it
    rw [events, List.cons_append, List.foldlM_cons, Loader.feed,
      Loader.openNode_of_value l _ anchor expectsValue]
    simp only [bind, Except.bind]
    rw [List.foldlM_append, feed_itemEvents items _ #[] anchor l.stack rfl]
    cases read : itemValues l.anchors items with
    | error e => simp [value, read, Except.map, bind, Except.bind]
    | ok r =>
      simp [value, read, Loader.feed, Loader.closeNode, Loader.remember_eq, Except.map, bind,
        Except.bind, pure, Except.pure]
  | mapping anchor (some t) entries, l, _ => by
    simp [events, value, Loader.feed, bind, Except.bind, Except.map]
  | mapping anchor none entries, l, expectsValue => by
    rw [events, List.cons_append, List.foldlM_cons, Loader.feed,
      Loader.openNode_of_value l _ anchor expectsValue]
    simp only [bind, Except.bind]
    rw [List.foldlM_append, feed_entryEvents entries _ [] anchor l.stack rfl]
    cases read : entryValues l.anchors [] entries with
    | error e => simp [value, read, Except.map, bind, Except.bind]
    | ok r =>
      simp [value, read, Loader.feed, Loader.closeNode, Loader.remember_eq, Except.map, bind,
        Except.bind, pure, Except.pure]

theorem feed_itemEvents : (items : List Node) → (l : Loader) → (arr : Array Value) →
    (anchor : Nat) → (below : List Frame) → l.stack = ⟨.sequence arr, anchor⟩ :: below →
    (itemEvents items).foldlM Loader.feed l =
      (itemValues l.anchors items).map fun r =>
        ({ l with anchors := r.2, stack := ⟨.sequence (arr ++ r.1.toArray), anchor⟩ :: below } :
          Loader)
  | [], l, arr, anchor, below, top => by
    cases l
    simp_all [itemEvents, itemValues, Except.map, pure, Except.pure]
  | n :: rest, l, arr, anchor, below, top => by
    have expectsValue : l.awaitingKey = false := by simp [Loader.awaitingKey, top]
    rw [itemEvents, List.foldlM_append, feed_events_value n l expectsValue]
    cases read : n.value l.anchors with
    | error e => simp [itemValues, read, Except.map, bind, Except.bind]
    | ok r =>
      have attached : ({ l with anchors := r.2 } : Loader).attach r.1 =
          { l with anchors := r.2, stack := ⟨.sequence (arr.push r.1), anchor⟩ :: below } := by
        simp [Loader.attach, top]
      simp only [Except.map, attached, bind, Except.bind]
      rw [feed_itemEvents rest _ (arr.push r.1) anchor below rfl]
      cases later : itemValues r.2 rest with
      | error e => simp [itemValues, read, later, Except.map, Except.bind]
      | ok s => simp [itemValues, read, later, Except.map, Except.bind]

theorem feed_entryEvents : (entries : List (Node × Node)) → (l : Loader) →
    (acc : List (String × Value)) → (anchor : Nat) → (below : List Frame) →
    l.stack = ⟨.mapping acc none, anchor⟩ :: below →
    (entryEvents entries).foldlM Loader.feed l =
      (entryValues l.anchors acc entries).map fun r =>
        ({ l with anchors := r.2, stack := ⟨.mapping r.1 none, anchor⟩ :: below } : Loader)
  | [], l, acc, anchor, below, top => by
    cases l
    simp_all [entryEvents, entryValues, Except.map, pure, Except.pure]
  | (k, v) :: rest, l, acc, anchor, below, top => by
    have expectsKey : l.awaitingKey = true := by simp [Loader.awaitingKey, top]
    rw [entryEvents, List.foldlM_append, List.foldlM_append, feed_events_key l expectsKey k]
    cases keyRead : k.key l.anchors with
    | error e => simp [entryValues, keyRead, Except.map, bind, Except.bind]
    | ok named =>
      -- the key waits in the frame for its value
      have keyed : ({ l with anchors := named.2 } : Loader).setKey named.1 =
          { l with anchors := named.2, stack := ⟨.mapping acc (some named.1), anchor⟩ :: below } := by
        simp [Loader.setKey, top]
      have expectsValue : Loader.awaitingKey
          { l with anchors := named.2, stack := ⟨.mapping acc (some named.1), anchor⟩ :: below } =
            false := rfl
      simp only [Except.map, keyed, bind, Except.bind]
      rw [feed_events_value v _ expectsValue]
      cases valueRead : v.value named.2 with
      | error e => simp [entryValues, keyRead, valueRead, Except.map, Except.bind]
      | ok r =>
        have attached : Loader.attach
            { l with anchors := r.2, stack := ⟨.mapping acc (some named.1), anchor⟩ :: below } r.1 =
            { l with
              anchors := r.2
              stack := ⟨.mapping (Value.insertEntry named.1 r.1 acc) none, anchor⟩ :: below } := rfl
        simp only [Except.map, attached]
        rw [feed_entryEvents rest _ (Value.insertEntry named.1 r.1 acc) anchor below rfl]
        simp [entryValues, keyRead, valueRead, Except.map, Except.bind]

end

end Node

theorem loadEvents_events (n : Node) : loadEvents n.events = (n.value []).map (some ·.1) := by
  unfold loadEvents
  rw [Node.feed_events_value n Loader.empty rfl]
  simp only [Loader.empty]
  cases n.value [] <;> rfl

def anchorKinds (env : Anchors) : List (Nat × String) :=
  env.map fun entry => (entry.1, entry.2.kind)

def unkeyableKinds : List String := ["null", "sequence", "mapping"]

namespace Node

def checkKey (ks : List (Nat × String)) : Node → Except String (List (Nat × String))
  | scalar _ _ _ (some t) => .error (Loader.tagReason t)
  | scalar _ _ anchor none => .ok (recordAnchor ks anchor "string")
  | .alias id =>
    match ks.lookup id with
    | none => .error ("unknown anchor " ++ toString id)
    | some k => if k ∈ unkeyableKinds then .error ("unsupported mapping key: " ++ k) else .ok ks
  | sequence _ (some t) _ => .error (Loader.tagReason t)
  | mapping _ (some t) _ => .error (Loader.tagReason t)
  | sequence _ none _ => .error "unsupported mapping key: collection"
  | mapping _ none _ => .error "unsupported mapping key: collection"

mutual

/-- The loader's first fault in a node in value position, in event order, from the kinds of the
anchored values alone; otherwise the kinds known after the node. -/
def checkValue (ks : List (Nat × String)) : Node → Except String (List (Nat × String))
  | scalar _ _ _ (some t) => .error (Loader.tagReason t)
  | scalar text style anchor none =>
    .ok (recordAnchor ks anchor (if style == .plain then (resolvePlain text).kind else "string"))
  | .alias id =>
    match ks.lookup id with
    | none => .error ("unknown anchor " ++ toString id)
    | some _ => .ok ks
  | sequence _ (some t) _ => .error (Loader.tagReason t)
  | sequence anchor none items => (checkItems ks items).map (recordAnchor · anchor "sequence")
  | mapping _ (some t) _ => .error (Loader.tagReason t)
  | mapping anchor none entries => (checkEntries ks entries).map (recordAnchor · anchor "mapping")

def checkItems (ks : List (Nat × String)) : List Node → Except String (List (Nat × String))
  | [] => .ok ks
  | n :: rest => (n.checkValue ks).bind fun after => checkItems after rest

def checkEntries (ks : List (Nat × String)) :
    List (Node × Node) → Except String (List (Nat × String))
  | [] => .ok ks
  | (k, v) :: rest =>
    (k.checkKey ks).bind fun keyed => (v.checkValue keyed).bind fun after => checkEntries after rest

end

end Node

theorem anchorKinds_record (env : Anchors) (anchor : Nat) (v : Value) :
    anchorKinds (recordAnchor env anchor v) = recordAnchor (anchorKinds env) anchor v.kind := by
  unfold anchorKinds recordAnchor
  split
  · simp [List.filter_map, Function.comp_def]
  · rfl

theorem lookup_anchorKinds (env : Anchors) (id : Nat) :
    (anchorKinds env).lookup id = (env.lookup id).map Value.kind := by
  induction env with
  | nil => rfl
  | cons entry rest ih =>
    obtain ⟨k, v⟩ := entry
    cases same : id == k with
    | true => simp only [anchorKinds, List.map_cons, List.lookup_cons, same, Option.map_some]
    | false =>
      simp only [anchorKinds, List.map_cons, List.lookup_cons, same]
      exact ih

namespace Node

theorem key_kinds (env : Anchors) (n : Node) :
    (n.key env).map (fun r => anchorKinds r.2) = n.checkKey (anchorKinds env) := by
  cases n with
  | scalar text style anchor tag =>
    cases tag with
    | some t => rfl
    | none => simp [key, checkKey, anchorKinds_record, Value.kind, Except.map]
  | «alias» id =>
    rw [checkKey, lookup_anchorKinds]
    cases held : env.lookup id with
    | none => simp [key, held, Except.map]
    | some v =>
      -- an alias key takes the text of a string, boolean or number only
      cases v <;> simp [key, held, Loader.keyText, Value.kind, unkeyableKinds, Except.map]
  | sequence anchor tag items => cases tag <;> rfl
  | mapping anchor tag entries => cases tag <;> rfl

mutual

theorem value_kinds : (n : Node) → (env : Anchors) →
    (n.value env).map (fun r => anchorKinds r.2) = n.checkValue (anchorKinds env)
  | scalar text style anchor (some t), env => rfl
  | scalar text style anchor none, env => by
    simp only [value, checkValue, Except.map, anchorKinds_record]
    split <;> rfl
  | .alias id, env => by
    rw [value, checkValue, lookup_anchorKinds]
    cases env.lookup id <;> rfl
  | sequence anchor (some t) items, env => rfl
  | sequence anchor none items, env => by
    rw [value, checkValue, ← itemValues_kinds items env]
    cases itemValues env items <;> simp [Except.map, anchorKinds_record, Value.kind]
  | mapping anchor (some t) entries, env => rfl
  | mapping anchor none entries, env => by
    rw [value, checkValue, ← entryValues_kinds entries env []]
    cases entryValues env [] entries <;> simp [Except.map, anchorKinds_record, Value.kind]

theorem itemValues_kinds : (items : List Node) → (env : Anchors) →
    (itemValues env items).map (fun r => anchorKinds r.2) = checkItems (anchorKinds env) items
  | [], env => rfl
  | n :: rest, env => by
    rw [itemValues, checkItems, ← value_kinds n env]
    cases n.value env with
    | error e => rfl
    | ok r =>
      rw [Except.bind, Except.map, Except.bind, ← itemValues_kinds rest r.2]
      cases itemValues r.2 rest <;> rfl

theorem entryValues_kinds : (entries : List (Node × Node)) → (env : Anchors) →
    (acc : List (String × Value)) →
    (entryValues env acc entries).map (fun r => anchorKinds r.2) =
      checkEntries (anchorKinds env) entries
  | [], env, acc => rfl
  | (k, v) :: rest, env, acc => by
    rw [entryValues, checkEntries, ← key_kinds env k]
    cases k.key env with
    | error e => rfl
    | ok named =>
      rw [Except.bind, Except.map, Except.bind, ← value_kinds v named.2]
      cases v.value named.2 with
      | error e => rfl
      | ok r =>
        rw [Except.bind, Except.map, Except.bind, ← entryValues_kinds rest r.2]

end

end Node

/-- Feeding the loader the events of a document tree ends in one of two ways. It fails with a
reason exactly when the kind-level check of the tree stops at that reason, the first fault in
event order: a tag, a collection in key position, an alias key whose anchored value is null, a
sequence or a mapping, or an alias to an anchor whose node is not complete yet. Otherwise its
root is the tree's value, and the anchored values it keeps have the kinds the check found. -/
theorem loader_reads_document_tree (n : Node) :
    (∀ reason, loadEvents n.events = .error reason ↔ n.checkValue [] = .error reason) ∧
    ∀ ks, n.checkValue [] = .ok ks →
      ∃ v env, n.value [] = .ok (v, env) ∧ anchorKinds env = ks ∧
        loadEvents n.events = .ok (some v) := by
  have abstracted : (n.value []).map (fun r => anchorKinds r.2) = n.checkValue [] :=
    Node.value_kinds n []
  rw [loadEvents_events, ← abstracted]
  constructor
  · intro reason
    cases n.value [] <;> simp [Except.map]
  · intro ks checked
    cases read : n.value [] with
    | error e => simp [read, Except.map] at checked
    | ok r =>
      simp only [read, Except.map, Except.ok.injEq] at checked
      exact ⟨r.1, r.2, rfl, checked, rfl⟩

theorem loader_reads_aliases_to_anchored_values :
    let doc : Node := .mapping 0 none
      [(.scalar "base" .plain 0 none, .scalar "hunter2" .plain 1 none),
       (.scalar "copy" .plain 0 none, .alias 1),
       (.scalar "list" .plain 0 none,
        .sequence 2 none [.scalar "a" .plain 0 none, .scalar "b" .plain 0 none]),
       (.scalar "again" .plain 0 none, .alias 2)]
    doc.checkValue [] = .ok [(2, "sequence"), (1, "string")] ∧
      ∃ v env, doc.value [] = .ok (v, env) ∧ anchorKinds env = [(2, "sequence"), (1, "string")] ∧
        loadEvents doc.events = .ok (some v) := by
  intro doc
  have checked : doc.checkValue [] = .ok [(2, "sequence"), (1, "string")] := by
    rfl
  exact ⟨checked, (loader_reads_document_tree doc).2 _ checked⟩

end Yaml

end SealedPillar
