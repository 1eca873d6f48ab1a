import SealedPillar.Host.FileTree
import SealedPillar.Host.Log
import SealedPillar.Cipher.Gpg

/-!
The machine the command line runs on, as a state: its files, environment, standard streams, the
`gpg` program on its search path, where its log goes, and how its disk answers the steps of an
atomic write.

`HostM` computations read and change this state. Standard input is consumed by reading it;
standard output and error only grow. The `gpg` program is any program: what it answers to its
arguments and standard input. Every run of it is recorded with its arguments and input. The
host's tracer writes each event the log filter shows to standard error at once, so log lines
interleave with the program's own messages there. The disk may fail any step of an atomic write
with an error of its own; a healthy disk fails none.
-/

namespace SealedPillar

structure OpenSpan where
  span : Span
  shown : Bool
  scope : Option Verbosity
  deriving Inhabited

structure LogSink where
  filter : LogFilter
  ansi : Bool
  deriving Inhabited

/-- A program: what it answers to its arguments and standard input. -/
abbrev Executable := List String → List UInt8 → ProgramOutput

/-- The steps of an atomic write that the disk may fail. -/
inductive WriteStep where
  | createTemp
  | writeAll
  | syncAll
  | metadata
  | setPermissions
  | persist
  deriving Inhabited, DecidableEq

/-- The state of the machine. -/
structure Host where
  files : FileTree
  env : List (String × String)
  stdin : List UInt8
  /-- Whether standard input has been read. -/
  stdinTaken : Bool
  stdout : String
  stderr : String
  /-- The `gpg` program on the search path, if any. -/
  gpg : Option Executable
  /-- Every run of `gpg`: its arguments and standard input. -/
  gpgCalls : Array (List String × String)
  log : Option LogSink
  /-- The entered spans, innermost first. -/
  spans : List OpenSpan
  /-- Calls counted by a test key backend. -/
  ticks : Nat
  /-- The error the disk fails each step of an atomic write with, if any. -/
  disk : WriteStep → Option IoError
  deriving Inhabited

abbrev HostM := StateM Host

namespace Host

def start (files : FileTree) (env : List (String × String)) (stdin : List UInt8)
    (gpg : Option Executable) : Host :=
  ⟨files, env, stdin, false, "", "", gpg, #[], none, [], 0, fun _ => none⟩

def envVar (name : String) : HostM (Option String) := do
  pure ((← get).env.lookup name)

def home : HostM (Option String) := do
  match ← envVar "HOME" with
  | some h => pure (if h.isEmpty then none else some h)
  | none => pure none

def setFiles (t : FileTree) : HostM Unit := modify fun h => { h with files := t }

def takeStdin : HostM (List UInt8) := do
  let h ← get
  set { h with stdin := [], stdinTaken := true }
  pure h.stdin

def writeOut (s : String) : HostM Unit := modify fun h => { h with stdout := h.stdout ++ s }

def writeErr (s : String) : HostM Unit := modify fun h => { h with stderr := h.stderr ++ s }

def tick : HostM Unit := modify fun h => { h with ticks := h.ticks + 1 }

def runGpg : ProgramRunner HostM := fun args input => do
  let h ← get
  match h.gpg with
  | none => pure none
  | some g =>
    set { h with gpgCalls := h.gpgCalls.push (args, input) }
    pure (some (g args (Text.utf8Bytes input)))

def emit (area : String) (level : Level) (message : String) (fields : List (String × String)) :
    HostM Unit := do
  let h ← get
  match h.log with
  | none => pure ()
  | some sink =>
    let scopes := h.spans.filterMap (·.scope)
    if sink.filter.allowsEvent scopes area level ("message" :: fields.map (·.1)) then
      let shown := (h.spans.filter (·.shown)).reverse.map (·.span)
      set { h with stderr := h.stderr ++ LogLine.render sink.ansi shown level message fields }

def within {α : Type} (s : Span) (x : HostM α) : HostM α := do
  let h ← get
  let entry : OpenSpan :=
    match h.log with
    | none => ⟨s, false, none⟩
    | some sink =>
      let shown := sink.filter.allowsSpan (h.spans.filterMap (·.scope)) s
      ⟨s, shown, if shown then sink.filter.spanScope s else none⟩
  set { h with spans := entry :: h.spans }
  let r ← x
  modify fun h => { h with spans := h.spans.drop 1 }
  pure r

def tracer : Tracer HostM := ⟨emit, within⟩

end Host

end SealedPillar
