import SealedPillar.Action
import SealedPillar.Error
import SealedPillar.Trace

/-!
Walking a document with an action.

A walk applies the action to every string it reaches, rebuilding sequences and mappings from
their walked children and passing null, booleans and numbers through; the first failing string
stops it. Identifying does not rebuild anything: it collects the key of every encrypted string
into a `KeyReport`, under the string's colon path (sequence items by index), and skips plaintext.

A `Scope` says what is walked: the whole document, the subtree under one top-level key, or the
one value at a path. A path must name a string; null is left alone by actions that rewrite, and
identifying a null, boolean or number by path reports it as not encrypted.
-/

namespace SealedPillar

inductive Scope where
  | all
  | element (name : String)
  | path (p : ColonPath)
  deriving Inhabited

namespace Scope

/-- The scope of a top-level key, where no key or an empty one means the whole document. -/
def ofElement : Option String → Scope
  | some name => if name.isEmpty then all else element name
  | none => all

def display : Scope → String
  | all => "all"
  | element name => "element " ++ name
  | path p => "path " ++ p.display

end Scope

abbrev KeyReport := List (String × String)

def KeyReport.insert (path identity : String) : KeyReport → KeyReport
  | [] => [(path, identity)]
  | (p, i) :: rest =>
    if path < p then (path, identity) :: (p, i) :: rest
    else if path == p then (path, identity) :: rest
    else (p, i) :: insert path identity rest

inductive Outcome where
  | document (d : Document)
  | keys (report : KeyReport)
  deriving Inhabited

namespace Walk

variable {m : Type → Type} [Monad m]

def area : String := "secure_pillar::core::processor"

def call (x : m (Except CipherError String)) : ExceptT Error m String :=
  ExceptT.mk ((fun r => r.mapError Error.cipher) <$> x)

mutual

def value (kb : KeyBackend m) (a : Action) : Value → ExceptT Error m Value
  | .string s => Value.string <$> call (a.applyScalar kb s)
  | .sequence xs => Value.sequence <$> items kb a xs
  | .mapping es => Value.mapping <$> entries kb a es
  | .null => pure .null
  | .bool b => pure (.bool b)
  | .number n => pure (.number n)

def items (kb : KeyBackend m) (a : Action) : List Value → ExceptT Error m (List Value)
  | [] => pure []
  | x :: xs => do
    let y ← value kb a x
    let ys ← items kb a xs
    pure (y :: ys)

def entries (kb : KeyBackend m) (a : Action) :
    List (String × Value) → ExceptT Error m (List (String × Value))
  | [] => pure []
  | (k, v) :: es => do
    let w ← value kb a v
    let rest ← entries kb a es
    pure ((k, w) :: rest)

end

mutual

def collect (kb : KeyBackend m) (tr : Tracer m) (pfx : String) (report : KeyReport) :
    Value → ExceptT Error m KeyReport
  | .string s =>
    if Armor.isEncrypted s then do
      let identity ← call (kb.keyIdentity s)
      tr.emit area .trace "key found" [("path", Trace.quoted pfx), ("identity", identity)]
      pure (report.insert pfx identity)
    else pure report
  | .sequence xs => collectItems kb tr pfx 0 report xs
  | .mapping es => collectEntries kb tr pfx report es
  | .null => pure report
  | .bool _ => pure report
  | .number _ => pure report

def collectItems (kb : KeyBackend m) (tr : Tracer m) (pfx : String) (index : Nat)
    (report : KeyReport) : List Value → ExceptT Error m KeyReport
  | [] => pure report
  | x :: xs => do
    let r ← collect kb tr (ColonPath.join pfx (toString index)) report x
    collectItems kb tr pfx (index + 1) r xs

def collectEntries (kb : KeyBackend m) (tr : Tracer m) (pfx : String) (report : KeyReport) :
    List (String × Value) → ExceptT Error m KeyReport
  | [] => pure report
  | (k, v) :: es => do
    let r ← collect kb tr (ColonPath.join pfx k) report v
    collectEntries kb tr pfx r es

end

def collectTop (kb : KeyBackend m) (tr : Tracer m) (report : KeyReport) :
    List (String × Value) → ExceptT Error m KeyReport
  | [] => pure report
  | (k, v) :: es => do
    let r ← collect kb tr k report v
    collectTop kb tr r es

def atPath (kb : KeyBackend m) (d : Document) (a : Action) (p : ColonPath) :
    ExceptT Error m Outcome := do
  let text ← match d.get p, a with
    | none, _ => throw (.path (.notFound p.display))
    | some (.string s), _ => pure (some s)
    | some .null, a => if a.transforms then pure none else throw (.cipher .notEncrypted)
    | some (.bool _), .identify => throw (.cipher .notEncrypted)
    | some (.number _), .identify => throw (.cipher .notEncrypted)
    | some _, _ => throw (.path (.notScalar p.display))
  match text with
  | none => pure (.document d)
  | some s =>
    let result ← call (a.applyScalar kb s)
    if a == .identify then pure (.keys [(p.display, result)])
    else
      match d.set p (.string result) with
      | .ok d' => pure (.document d')
      | .error e => throw (.path e)

/-- Runs an action over the part of a document a scope selects. -/
def perform (kb : KeyBackend m) (tr : Tracer m) (d : Document) (a : Action) (scope : Scope) :
    ExceptT Error m Outcome :=
  let span : Span := ⟨area, "perform",
    [("action", .shown a.display), ("scope", .shown scope.display), ("backend", .text kb.name)]⟩
  ExceptT.mk <| tr.within span <|
    ExceptT.run <|
      match scope, a with
      | .path p, _ => atPath kb d a p
      | .element name, .identify => do
        let report ← match d.element name with
          | some v => collect kb tr name [] v
          | none => pure []
        tr.emit area .debug "identify complete" [("keys", toString report.length)]
        pure (.keys report)
      | .all, .identify => do
        let report ← collectTop kb tr [] d.entries
        tr.emit area .debug "identify complete" [("keys", toString report.length)]
        pure (.keys report)
      | .element name, _ =>
        match d.element name with
        | some v => do
          let w ← value kb a v
          pure (.document ⟨Value.insertEntry name w d.entries⟩)
        | none => do
          tr.emit area .debug "element not present, nothing to do" [("element", name)]
          pure (.document d)
      | .all, _ => do
        let es ← entries kb a d.entries
        pure (.document ⟨es⟩)

def setSecret (kb : KeyBackend m) (d : Document) (p : ColonPath) (plaintext : String) :
    ExceptT Error m Document := do
  let secret ← call (Action.encrypt.applyScalar kb plaintext)
  match d.set p (.string secret) with
  | .ok d' => pure d'
  | .error e => throw (.path e)

end Walk

end SealedPillar
