import SealedPillar.Batch
import SealedPillar.Cli.Parse
import SealedPillar.Cli.Output
import SealedPillar.Config

/-!
Running a command that was read.

Every command but `completions` first sets up the GnuPG backend: it loads the configuration file
(`--config`, or the one under the home directory; none without a home), resolves the key and
keyrings from the flags and the selected profile, and logs the options. Then:

* `create` adds secrets to the output file, read first when it exists, and writes it back, or
  writes a new document to standard output; `update` does the same to an input file or to
  standard input, written to standard output;
* `encrypt`, `decrypt` and `rotate` run a job over one file, or a batch over a directory, and
  report what happened;
* `keys` writes the key report of a file or of every file under a directory; a file without
  encrypted values is only mentioned.
-/

namespace SealedPillar

namespace Cli

namespace Run

def area : String := "secure_pillar::cli"

def readConfig (path : String) : HostM (Option (Except IoError String)) := do
  let t := (← get).files
  if !t.exists? path then pure none
  else
    match t.read path with
    | .error e => pure (some (.error e))
    | .ok bytes =>
      match Text.decodeUtf8 bytes with
      | .ok s => pure (some (.ok s))
      | .error _ => pure (some (.error .invalidUtf8))

def optionsDebug (o : GpgOptions) : String :=
  let shown (v : Option String) : String :=
    match v with
    | some s => "Some(" ++ Trace.quoted s ++ ")"
    | none => "None"
  "GpgOptions \x7b recipient: " ++ shown o.recipient ++ ", homedir: " ++ shown o.homedir ++
    ", keyring: " ++ shown o.keyring ++ ", secret_keyring: " ++ shown o.secretKeyring ++ " \x7d"

def backend (inv : Invocation) : ExceptT Error HostM (KeyBackend HostM) := do
  let home ← Host.home
  let config ← match inv.get? "config", home with
    | some p, _ => Config.load Host.tracer readConfig p
    | none, some h => Config.load Host.tracer readConfig (joinPath h configFile)
    | none, none => do
      Host.emit area .debug ("skipping config: " ++ ConfigError.noHome.message) []
      pure ⟨[]⟩
  let settings : Settings :=
    ⟨inv.get? "profile", inv.get? "pgp_key", inv.get? "pubring", inv.get? "secring",
      inv.get? "gnupg_home"⟩
  let opts ← Settings.resolve Host.tracer settings config (← Host.envVar "GNUPGHOME") home
  Host.emit area .debug "gpg options" [("options", optionsDebug opts)]
  pure (Gpg.backend opts Host.runGpg Host.tracer)

def writePillar (p : Pillar) (sink : Sink) : ExceptT Error HostM Unit := do
  let text ← ExceptT.mk (pure (render (.document p.document) p.source.name .yaml))
  let _ ← ExceptT.mk (Store.write sink text)
  if let .file path := sink then
    Output.success ("wrote out to file: '" ++ (← Output.path path) ++ "'")

def fill (kb : KeyBackend HostM) (p : Pillar) (names values : List String) :
    ExceptT Error HostM Pillar := do
  if values.length > names.length then
    Output.warn (toString values.length ++ " values given for " ++ toString names.length ++
      " names; extra values ignored")
  Pillar.update kb Host.tracer p names values

def create (kb : KeyBackend HostM) (names values : List String) (output : String) :
    ExceptT Error HostM Unit := do
  let sink := Sink.parse output
  let pillar ← match sink with
    | .file path =>
      if (← get).files.exists? path then Pillar.load Store.storage Host.tracer (.file path)
      else pure (Pillar.empty (.file path))
    | .stdout => pure (Pillar.empty .stdin)
  let pillar ← fill kb pillar names values
  writePillar pillar sink

def update (kb : KeyBackend HostM) (names values : List String) (file : String) :
    ExceptT Error HostM Unit := do
  let source := Source.parse file
  let sink : Sink := match source with
    | .file path => .file path
    | .stdin => .stdout
  let pillar ← Pillar.load Store.storage Host.tracer source
  let pillar ← fill kb pillar names values
  writePillar pillar sink

def single (kb : KeyBackend HostM) (action : Action) (scope : Scope) (source : Source)
    (sink : Sink) : ExceptT Error HostM Unit := do
  let job : Job := ⟨source, sink, action, scope, .yaml⟩
  let _ ← job.run Store.storage kb Host.tracer
  if let .file path := sink then
    Output.success ("wrote out to file: '" ++ (← Output.path path) ++ "'")

def summarize (action : Action) (r : BatchReport) : HostM Unit := do
  for (path, e) in r.failed do
    Output.warn (path ++ ": " ++ e.message)
  for path in r.skipped do
    Output.dimmed ("  skipped " ++ path ++ " (nothing to do)")
  if r.total == 0 then Output.warn "no pillar files found"
  else if r.success then
    Output.success (action.display ++ ": " ++ toString r.processed.length ++ " files")
  else
    Output.kv "processed" (toString r.processed.length)
    Output.kv "skipped" (toString r.skipped.length)
    Output.kv "failed" (toString r.failed.length)

def recurse (kb : KeyBackend HostM) (action : Action) (scope : Scope) (dir : String) :
    ExceptT Error HostM Unit := do
  let report ← ExceptT.mk (Batch.processDir kb dir ".sls" action scope)
  summarize action report

/-- Where a file command writes: back to its input file with `--update`, else to the output. -/
def sinkFor (source : Source) (update : Bool) (output : String) : Sink :=
  match source with
  | .file path => if update then .file path else Sink.parse output
  | .stdin => Sink.parse output

def transform (kb : KeyBackend HostM) (action : Action) (inv : Invocation) (target : String) :
    ExceptT Error HostM Unit := do
  let element := Scope.ofElement (inv.get? "element")
  let source := Source.parse ((inv.get? "input").getD "-")
  let sink := sinkFor source (inv.flag "update") ((inv.get? "output").getD "-")
  match target with
  | "recurse" => recurse kb action element ((inv.get? "dir").getD "")
  | "path" => single kb action (.path (ColonPath.parse ((inv.get? "path").getD ""))) source sink
  | _ => single kb action element source sink

def rotate (kb : KeyBackend HostM) (inv : Invocation) : ExceptT Error HostM Unit := do
  let scope := Scope.ofElement (inv.get? "element")
  match inv.get? "dir" with
  | some dir => recurse kb .rotate scope dir
  | none =>
    let source := Source.parse ((inv.get? "input").getD "-")
    let sink := sinkFor source (inv.flag "update") ((inv.get? "output").getD "-")
    single kb .rotate scope source sink

def renderReports (reports : List (String × KeyReport)) (format : ReportFormat) : String :=
  match format with
  | .yaml =>
    Yaml.Emit.document (.mapping (reports.map fun (f, r) =>
      (f, .mapping (r.map fun (k, v) => (k, .string v)))))
  | .json => Json.prettyNested reports ++ "\n"

def keys (kb : KeyBackend HostM) (inv : Invocation) (target : String) :
    ExceptT Error HostM Unit := do
  let element := Scope.ofElement (inv.get? "element")
  let format : ReportFormat := if inv.flag "json" then .json else .yaml
  match target with
  | "recurse" =>
    let dir := (inv.get? "dir").getD ""
    let report ← ExceptT.mk (Batch.processDir kb dir ".sls" .identify element)
    summarize .identify report
    if !report.keys.isEmpty then
      let _ ← ExceptT.mk (Store.write .stdout (renderReports report.keys format))
  | _ =>
    let scope := if target == "path" then .path (ColonPath.parse ((inv.get? "path").getD ""))
      else element
    let job : Job := ⟨Source.parse ((inv.get? "input").getD "-"),
      Sink.parse ((inv.get? "output").getD "-"), .identify, scope, format⟩
    let outcome : Except Error Nat ←
      (ExceptT.lift (job.run Store.storage kb Host.tracer).run :
        ExceptT Error HostM (Except Error Nat))
    match outcome with
    | .ok _ => pure ()
    | .error (.document (.empty file)) => Output.dimmed ("no encrypted values in " ++ file)
    | .error e => throw e

def execute (inv : Invocation) : ExceptT Error HostM Unit := do
  let kb ← backend inv
  match inv.path with
  | ["create"] =>
    create kb (inv.getAll "names") (inv.getAll "values") ((inv.get? "output").getD "-")
  | ["update"] => update kb (inv.getAll "names") (inv.getAll "values") ((inv.get? "file").getD "-")
  | ["encrypt", target] => transform kb .encrypt inv target
  | ["decrypt", target] => transform kb .decrypt inv target
  | ["rotate"] => rotate kb inv
  | ["keys", target] => keys kb inv target
  | _ => pure ()

end Run

end Cli

end SealedPillar
