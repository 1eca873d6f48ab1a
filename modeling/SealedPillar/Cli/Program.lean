import SealedPillar.Cli.Run
import SealedPillar.Cli.Interface
import SealedPillar.Cli.Complete

/-!
The program as a whole, on a host: read the command line, then run it.

`Program.invoke` reads and runs a command line and gives what happened: reading stopped (help,
version, or a usage error), or the command's result. `Program.main` is the program as started
from a shell: a stop is printed, with colors when they are asked for, help and version on
standard output and errors on standard error; the log is set up from `SECURE_PILLAR_LOG`, else
from `--verbose`; an error is printed with a hint where one helps. It gives the exit status: 0
for success, 1 for a failed command, 2 for a usage error.
-/

namespace SealedPillar

namespace Cli

namespace Program

def interface : HostM Command := do
  let env := (← get).env
  pure (Interface.parsing fun k => env.lookup k)

def run (inv : Invocation) : HostM (Except Error Unit) := do
  if inv.path == ["completions"] then
    -- the reader has checked the shell's name against the choices
    if let some sh := (inv.get? "shell").bind Shell.ofName? then
      Host.writeOut (sh.script Interface.completing)
    pure (.ok ())
  else (Run.execute inv).run

def invoke (args : List String) : HostM (Except Stop (Except Error Unit)) := do
  match Cli.read (← interface) args with
  | .error stop => pure (.error stop)
  | .ok inv => pure (.ok (← run inv))

def hint : Error → Option String
  | .cipher .noRecipient => some "pass a key with -k or set default_key in a profile"
  | .cipher .unavailable => some "install GnuPG and make sure gpg is on PATH"
  | .config (.profileNotFound _) => some "check the profiles in ~/.config/secure-pillar/config.toml"
  | .document (.includeDetected _) =>
    some "files with include directives are skipped; move secrets to a separate file"
  | _ => none

/-- Whether help and usage errors are colored: `NO_COLOR` turns colors off, `CLICOLOR_FORCE`
turns them on; without either, output that is not a terminal has none. -/
def usageColored : HostM Bool := do
  match ← Host.envVar "NO_COLOR" with
  | some v => if !v.isEmpty then return false
  | none => pure ()
  match ← Host.envVar "CLICOLOR_FORCE" with
  | some v => pure (v != "0")
  | none => pure false

/-- The log filter: `SECURE_PILLAR_LOG` when it is set and valid, else debug events of the
program with `--verbose` and warnings without. -/
def logFilter (verbose : Bool) : HostM LogFilter := do
  let fallback :=
    (LogFilter.parse (if verbose then "secure_pillar=debug" else "secure_pillar=warn")).getD
      LogFilter.silent
  match ← Host.envVar "SECURE_PILLAR_LOG" with
  | some text => pure ((LogFilter.parse text).getD fallback)
  | none => pure fallback

def logColored : HostM Bool := do
  match ← Host.envVar "NO_COLOR" with
  | some v => pure v.isEmpty
  | none => pure true

def environment : List String :=
  ["HOME", "GNUPGHOME", "SECURE_PILLAR_PROFILE", "SECURE_PILLAR_LOG", "NO_COLOR", "CLICOLOR_FORCE"]

def perform (args : List String) : HostM Nat := do
  match Cli.read (← interface) args with
  | .error stop =>
    let text := stop.text.render (← usageColored)
    if stop.kind.toStdout then Host.writeOut text else Host.writeErr text
    pure stop.kind.exitCode
  | .ok inv =>
    let filter ← logFilter (inv.flag "verbose")
    let ansi ← logColored
    modify fun h => { h with log := some ⟨filter, ansi⟩ }
    match ← run inv with
    | .ok () => pure 0
    | .error e =>
      Output.error e.message
      if let some h := hint e then Output.hint h
      pure 1

end Program

end Cli

end SealedPillar
