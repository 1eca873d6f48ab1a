import SealedPillar.Walk
import SealedPillar.Text.Json
import SealedPillar.Yaml.Emit

/-!
Pillar files: a document tied to where it came from, and the text a walk's outcome is written as.

A rewritten document is written as block YAML after the renderer header `#!yaml|gpg`, so that the
configuration system runs it through its decryption step. A key report is written as bare YAML
or as pretty JSON. Nothing is written for an empty document or an empty report.

A `Job` reads a source, walks it and writes the result to a sink, through a `Storage` that says
how sources are read and sinks written.
-/

namespace SealedPillar

inductive Source where
  | stdin
  | file (path : String)
  deriving DecidableEq, Inhabited

namespace Source

def parse (name : String) : Source :=
  if name == "-" || name == "/dev/stdin" then stdin else file name

def name : Source → String
  | stdin => "stdin"
  | file p => p

end Source

inductive Sink where
  | stdout
  | file (path : String)
  deriving DecidableEq, Inhabited

namespace Sink

def parse (name : String) : Sink :=
  if name == "-" || name == "/dev/stdout" then stdout else file name

def name : Sink → String
  | stdout => "stdout"
  | file p => p

end Sink

inductive ReportFormat where
  | yaml
  | json
  deriving DecidableEq, Inhabited

structure Storage (m : Type → Type) where
  read : Source → m (Except Error String)
  write : Sink → String → m (Except Error Nat)

def rendererHeader : String := "#!yaml|gpg\n\n"

structure Pillar where
  source : Source
  document : Document
  deriving Inhabited

namespace Pillar

variable {m : Type → Type} [Monad m]

def area : String := "secure_pillar::core::pillar"

def empty (source : Source) : Pillar := ⟨source, Document.empty⟩

def parse (tr : Tracer m) (source : Source) (text : String) : ExceptT Error m Pillar := do
  let (result, event) := Document.parseReport source.name text
  if let some (message, fields) := event then tr.emit Document.area .trace message fields
  match result with
  | .error e => throw (.document e)
  | .ok d =>
    tr.emit area .debug "pillar loaded" [("file", source.name), ("keys", toString d.size)]
    pure ⟨source, d⟩

def load (st : Storage m) (tr : Tracer m) (source : Source) : ExceptT Error m Pillar := do
  let text ← ExceptT.mk (st.read source)
  parse tr source text

/-- Stores each value encrypted under its name, in order, into the document the caller holds: the
value at index `i` goes under the name at index `i`, and a name past the end of `values` gets the
empty string. Gives the document as the last successful store left it and the error that
stopped the run, if one did; a store that fails leaves the document as it was. -/
def storeSecrets (kb : KeyBackend m) (tr : Tracer m) (values : List String) :
    Nat → List String → Document → m (Document × Option Error)
  | _, [], d => pure (d, none)
  | i, name :: rest, d => do
    match ← (Walk.setSecret kb d (ColonPath.parse name) (values.getD i "")).run with
    | .error e => pure (d, some e)
    | .ok d' =>
      tr.emit area .debug "secret set" [("name", name)]
      storeSecrets kb tr values (i + 1) rest d'

def afterStores (p : Pillar) : Document × Option Error → Except Error Pillar
  | (_, some e) => .error e
  | (d, none) => .ok { p with document := d }

def update (kb : KeyBackend m) (tr : Tracer m) (p : Pillar) (names values : List String) :
    ExceptT Error m Pillar :=
  ExceptT.mk (p.afterStores <$> storeSecrets kb tr values 0 names p.document)

end Pillar

def render (outcome : Outcome) (name : String) (format : ReportFormat) : Except Error String :=
  match outcome with
  | .document d =>
    if d.isEmpty then .error (.document (.empty name)) else .ok (rendererHeader ++ d.toYaml)
  | .keys report =>
    if report.isEmpty then .error (.document (.empty name))
    else
      match format with
      | .yaml => .ok (Yaml.Emit.stringMap report)
      | .json => .ok (Json.prettyStrings report ++ "\n")

structure Job where
  source : Source
  sink : Sink
  action : Action
  scope : Scope
  format : ReportFormat
  deriving Inhabited

namespace Job

variable {m : Type → Type} [Monad m]

def run (st : Storage m) (kb : KeyBackend m) (tr : Tracer m) (job : Job) : ExceptT Error m Nat :=
  let name := job.source.name
  let span : Span :=
    ⟨Pillar.area, "job", [("file", .shown name), ("output", .shown job.sink.name)]⟩
  ExceptT.mk <| tr.within span <| ExceptT.run do
    let text ← ExceptT.mk (st.read job.source)
    let pillar ← Pillar.parse tr job.source text
    let outcome ← Walk.perform kb tr pillar.document job.action job.scope
    let out ← ExceptT.mk (pure (render outcome name job.format))
    ExceptT.mk (st.write job.sink out)

end Job

end SealedPillar
