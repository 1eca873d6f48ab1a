import SealedPillar.Cli.Program

/-!
The `secure-pillar` executable.

The program runs against a host state. This layer fills one from the process: the arguments,
the environment variables the program reads, standard input, and the regular files that the
arguments name by relative paths. It runs the command line on that state, prints what the run
printed, writes back the files and directories the run changed, and exits with the run's status.

Standard input is read only when the command reads it: the command first runs with none, and
runs again with the real input if it asked for it. `gpg` is not started from here, so commands
that need it report that it could not be run.
-/

namespace SealedPillar

namespace Launch

def namedPaths (arg : String) : List String :=
  if arg.startsWith "--" then
    match arg.splitOn "=" with
    | _ :: rest@(_ :: _) => [arg, "=".intercalate rest]
    | _ => [arg]
  else if arg.startsWith "-" && arg.length > 2 then [arg, (arg.drop 2).toString]
  else [arg]

/-- The regular files at relative paths among `paths`, read into a tree. -/
def load (paths : List String) : IO FileTree :=
  let step (t : FileTree) (p : String) : IO FileTree := do
    if p.startsWith "/" || p.isEmpty then return t
    try
      let bytes ← IO.FS.readBinFile p
      return t.plant p (.file bytes.toList 0o644)
    catch _ => return t
  paths.foldlM step FileTree.empty

def store (before after : FileTree) : IO Unit := do
  for (p, e) in after.all do
    if before.lookup p != some e then
      let path := "/".intercalate p
      match e with
      | .dir _ => IO.FS.createDirAll path
      | .file bytes _ => IO.FS.writeBinFile path ⟨bytes.toArray⟩

partial def readAll (s : IO.FS.Stream) (acc : ByteArray) : IO ByteArray := do
  let chunk ← s.read 65536
  if chunk.isEmpty then return acc else readAll s (acc ++ chunk)

end Launch

end SealedPillar

open SealedPillar in
def main (args : List String) : IO UInt32 := do
  let env ← Cli.Program.environment.filterMapM fun k => do
    return (← IO.getEnv k).map (k, ·)
  let files ← Launch.load (args.flatMap Launch.namedPaths)
  let dry := (Cli.Program.perform args).run (Host.start files env [] none)
  let (code, h) ←
    if dry.2.stdinTaken then do
      let input ← Launch.readAll (← IO.getStdin) ByteArray.empty
      pure ((Cli.Program.perform args).run (Host.start files env input.toList none))
    else pure dry
  let out ← IO.getStdout
  out.putStr h.stdout
  out.flush
  let err ← IO.getStderr
  err.putStr h.stderr
  err.flush
  Launch.store files h.files
  return code.toUInt32
