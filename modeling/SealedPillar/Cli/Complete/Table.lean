import SealedPillar.Cli.Spec

/-!
Completion tables: for each sequence of words that reaches a command, the candidates offered
there.

A key is the words typed so far joined by semicolons, starting with the program's name. Every
name and alias of a subcommand makes its own key, so a command reached by two names appears
twice, and so does everything below it. The candidates of a command are its options, short forms
first, each with its description, then its subcommands' names and aliases with theirs.
-/

namespace SealedPillar

namespace Cli

namespace Complete

inductive CandidateKind where
  | short
  | long
  | subcommand
  deriving DecidableEq, Repr

structure Candidate where
  word : String
  kind : CandidateKind
  description : String

def quoteDescription (s : String) : String := s.replace "'" "''"

def tooltip (help fallback : String) : String :=
  if help.isEmpty then fallback else quoteDescription help

def argCandidates (a : Arg) : List Candidate :=
  a.short.toList.map (fun ch => ⟨"-" ++ ch.toString, .short, tooltip a.help ch.toString⟩) ++
    a.long.toList.map (fun l => ⟨"--" ++ l, .long, tooltip a.help l⟩)

def candidates (c : Command) : List Candidate :=
  c.valueOptions.flatMap argCandidates ++ c.switches.flatMap argCandidates ++
    c.subcommands.flatMap fun s => s.names.map fun n => ⟨n, .subcommand, tooltip s.about n⟩

/-- The table below a command reached by the keys `keys`: its own rows, one per key, then for
each subcommand the rows reached through each key and each of the subcommand's names. -/
def table : Nat → List String → Command → List (String × Command)
  | 0, _, _ => []
  | fuel + 1, keys, c =>
    keys.map (·, c) ++ c.subcommands.flatMap fun s =>
      keys.flatMap fun k => table fuel (s.names.map (k ++ ";" ++ ·)) s

def completionTable (top : Command) : List (String × Command) :=
  table Command.depthLimit [top.name] top

end Complete

end Cli

end SealedPillar
