import SealedPillar.Host.Store

/-!
One action over every pillar file under a directory.

The files are the regular files whose name contains the extension, found by a walk that visits
each directory's names in byte order and a directory before what it holds; their paths are the
directory's path joined with the path below it. Each file is its own unit: a failure is
recorded and the run goes on. Rewriting actions write each file back in place, and a file with
nothing to write is skipped. Identifying leaves files alone and keeps a key report for each file
that has encrypted values, skipping the others.
-/

namespace SealedPillar

structure BatchReport where
  processed : List String
  skipped : List String
  failed : List (String × Error)
  /-- Key reports by file, in order of file name. -/
  keys : List (String × KeyReport)
  deriving Inhabited

namespace BatchReport

def empty : BatchReport := ⟨[], [], [], []⟩

def success (r : BatchReport) : Bool := r.failed.isEmpty

def total (r : BatchReport) : Nat := r.processed.length + r.skipped.length + r.failed.length

def insertKeys (file : String) (report : KeyReport) :
    List (String × KeyReport) → List (String × KeyReport)
  | [] => [(file, report)]
  | (f, r) :: rest =>
    if f == file then (file, report) :: rest
    else if decide (file < f) then (file, report) :: (f, r) :: rest
    else (f, r) :: insertKeys file report rest

end BatchReport

namespace Batch

def area : String := "secure_pillar::core::batch"

def joinBelow (dir : String) (below : List String) : String :=
  FileTree.joinName dir ("/".intercalate below)

/-- The files under a directory whose name contains the extension. -/
def findFiles (dir ext : String) : HostM (Except Error (List String)) := do
  let t := (← get).files
  match t.place dir with
  | .ok (root, _) =>
    if !t.isDir dir then pure (.error (.store (.notADirectory dir)))
    else
      let found := (t.walk root (t.entries.length + 1)).filterMap fun (q, e) =>
        match e with
        | .file .. =>
          if Text.contains (q.getLastD "") ext then some (joinBelow dir (q.drop root.length))
          else none
        | .dir _ => none
      Host.emit area .debug "pillar files found"
        [("dir", dir), ("count", toString found.length)]
      pure (.ok found)
  | .error _ => pure (.error (.store (.notADirectory dir)))

def identifyFile (kb : KeyBackend HostM) (path : String) (scope : Scope) :
    ExceptT Error HostM KeyReport := do
  let pillar ← Pillar.load Store.storage Host.tracer (.file path)
  match ← Walk.perform kb Host.tracer pillar.document .identify scope with
  | .keys report => pure report
  | .document _ => pure []

def processFile (kb : KeyBackend HostM) (action : Action) (scope : Scope) (path : String) :
    HostM (Except Error (Option KeyReport)) :=
  if action == .identify then do
    match ← (identifyFile kb path scope).run with
    | .ok keys => pure (.ok (if keys.isEmpty then none else some keys))
    | .error e => pure (.error e)
  else do
    let job : Job := ⟨.file path, .file path, action, scope, .yaml⟩
    match ← (job.run Store.storage kb Host.tracer).run with
    | .ok _ => pure (.ok (some []))
    | .error (.document (.empty _)) => pure (.ok none)
    | .error e => pure (.error e)

def processDir (kb : KeyBackend HostM) (dir ext : String) (action : Action) (scope : Scope) :
    HostM (Except Error BatchReport) := do
  match ← findFiles dir ext with
  | .error e => pure (.error e)
  | .ok paths =>
    let report ← paths.foldlM (fun (r : BatchReport) path => do
      match ← processFile kb action scope path with
      | .ok (some keys) =>
        let r := { r with processed := r.processed ++ [path] }
        if action == .identify then pure { r with keys := BatchReport.insertKeys path keys r.keys }
        else pure r
      | .ok none =>
        Host.emit area .debug "nothing to do" [("file", path)]
        pure { r with skipped := r.skipped ++ [path] }
      | .error e =>
        Host.emit area .warn (path ++ ": " ++ e.message) []
        pure { r with failed := r.failed ++ [(path, e)] }) BatchReport.empty
    pure (.ok report)

end Batch

end SealedPillar
