import SealedPillar.Yaml.Event
import SealedPillar.Yaml.Resolve

/-!
Building a value from the events of one document.

The loader keeps a stack of open collections. A scalar or alias closes at once; a collection
closes at its end event and is then handed to the collection below it (or becomes the root).
Inside a mapping, nodes alternate between key and value. The loader refuses, with the first such
reason:

* any tagged node: `unsupported tag <handle><suffix>`;
* a collection where a key is expected: `unsupported mapping key: collection`;
* an alias in key position whose value is not a string, boolean or number:
  `unsupported mapping key: <kind>`;
* an alias to an anchor whose node has not been completed: `unknown anchor <n>`.

Key scalars keep their text whatever it looks like; an alias key takes the text of its string,
boolean or number. A repeated key keeps its last value. Values of anchored nodes (keys included,
as strings) are recorded when the node completes.
-/

namespace SealedPillar

namespace Yaml

inductive OpenNode where
  | sequence (items : Array Value)
  /-- A mapping, with the key whose value comes next, if one was read. -/
  | mapping (entries : List (String × Value)) (pending : Option String)

structure Frame where
  node : OpenNode
  anchor : Nat

structure Loader where
  stack : List Frame
  anchors : List (Nat × Value)
  root : Option Value

namespace Loader

def empty : Loader := ⟨[], [], none⟩

def awaitingKey (l : Loader) : Bool :=
  match l.stack with
  | ⟨.mapping _ none, _⟩ :: _ => true
  | _ => false

def remember (l : Loader) (anchor : Nat) (v : Value) : Loader :=
  if anchor > 0 then { l with anchors := (anchor, v) :: l.anchors.filter (·.1 != anchor) } else l

def setKey (l : Loader) (k : String) : Loader :=
  match l.stack with
  | ⟨.mapping entries _, a⟩ :: rest =>
    { l with stack := ⟨.mapping entries (some k), a⟩ :: rest }
  | _ => l

def attach (l : Loader) (v : Value) : Loader :=
  match l.stack with
  | [] => if l.root.isNone then { l with root := some v } else l
  | ⟨.sequence items, a⟩ :: rest =>
    { l with stack := ⟨.sequence (items.push v), a⟩ :: rest }
  | ⟨.mapping entries (some k), a⟩ :: rest =>
    { l with stack := ⟨.mapping (Value.insertEntry k v entries) none, a⟩ :: rest }
  | ⟨.mapping _ none, _⟩ :: _ => l

/-- The text a value gives when an alias to it is used as a key. -/
def keyText (v : Value) : Except String String :=
  match v with
  | .string s => .ok s
  | .bool b => .ok (if b then "true" else "false")
  | .number n => .ok n.text
  | other => .error ("unsupported mapping key: " ++ other.kind)

def openNode (l : Loader) (node : OpenNode) (anchor : Nat) : Except String Loader :=
  if l.awaitingKey then .error "unsupported mapping key: collection"
  else .ok { l with stack := ⟨node, anchor⟩ :: l.stack }

def closeNode (l : Loader) : Except String Loader :=
  match l.stack with
  | [] => .error "unbalanced collection end"
  | frame :: rest =>
    let v : Value :=
      match frame.node with
      | .sequence items => .sequence items.toList
      | .mapping entries _ => .mapping entries
    .ok ((({ l with stack := rest } : Loader).remember frame.anchor v).attach v)

def tagReason (t : Tag) : String := "unsupported tag " ++ t.handle ++ t.suffix

def feed (l : Loader) : Event → Except String Loader
  | .scalar _ _ _ (some t) => .error (tagReason t)
  | .sequenceStart _ (some t) => .error (tagReason t)
  | .mappingStart _ (some t) => .error (tagReason t)
  | .scalar text style anchor none =>
    if l.awaitingKey then .ok ((l.remember anchor (.string text)).setKey text)
    else
      let v := if style == .plain then resolvePlain text else .string text
      .ok ((l.remember anchor v).attach v)
  | .alias anchor =>
    match l.anchors.find? (·.1 == anchor) with
    | none => .error ("unknown anchor " ++ toString anchor)
    | some (_, v) =>
      if l.awaitingKey then (keyText v).map l.setKey
      else .ok (l.attach v)
  | .sequenceStart anchor none => l.openNode (.sequence #[]) anchor
  | .mappingStart anchor none => l.openNode (.mapping [] none) anchor
  | .sequenceEnd => l.closeNode
  | .mappingEnd => l.closeNode
  | _ => .ok l

end Loader

def loadEvents (events : List Event) : Except String (Option Value) :=
  (events.foldlM Loader.feed Loader.empty).map (·.root)

end Yaml

end SealedPillar
