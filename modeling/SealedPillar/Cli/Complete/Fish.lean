import SealedPillar.Cli.Spec

/-!
Completion scripts for fish.

The script is one `complete` line per option and per subcommand name of each command, guarded by
a condition on the words typed so far. For a tree with subcommands it first defines two helper
functions: one that tells whether a subcommand has been typed yet, skipping the top command's
options, and one that tells whether the subcommand typed is one of those given. Conditions reach
two levels of subcommands; commands deeper than that get no lines.
-/

namespace SealedPillar

namespace Cli

namespace Complete

namespace Fish

def escape (s : String) : String :=
  String.join <| s.toList.map fun
    | '\\' => "\\\\"
    | '\'' => "\\'"
    | ch => ch.toString

def escapeHelp (s : String) : String := escape (s.replace "\n" " ")

def escapeValue (s : String) : String := (escape s).replace "," "\\,"

def valueHint (a : Arg) : String :=
  if !a.choices.isEmpty then
    " -r -f -a \"\x7b" ++ ",".intercalate (a.choices.map fun v => escapeValue v ++ "\\t''") ++
      "\x7d\""
  else if a.path then " -r -F"
  else " -r"

def described (a : Arg) : String :=
  String.join (a.short.toList.map fun ch => " -s " ++ ch.toString) ++
    String.join (a.long.toList.map fun l => " -l " ++ escape l) ++
    (if a.help.isEmpty then "" else " -d '" ++ escapeHelp a.help ++ "'")

/-- The condition under which a command's lines apply, from the names typed to reach it: none
at the top of a tree without subcommands, and no lines at all deeper than two subcommands.
`needs` tells that no subcommand is typed yet, `seen` that one of those given is. -/
def condition (needs seen : String) (parents : List String) (c : Command) :
    Option String :=
  match parents with
  | [] => some (if c.subcommands.isEmpty then "" else " -n \"" ++ needs ++ "\"")
  | [p] =>
    some (" -n \"" ++ seen ++ " " ++ p ++
      (if c.subcommands.isEmpty then "" else "; and not __fish_seen_subcommand_from") ++
      String.join (c.allSubNames.map (" " ++ ·)) ++ "\"")
  | [p, q] =>
    some (" -n \"" ++ seen ++ " " ++ p ++ "; and __fish_seen_subcommand_from " ++ q ++ "\"")
  | _ => none

def lines (program needs seen : String) : Nat → List String → Command → List String
  | 0, _, _ => []
  | fuel + 1, parents, c =>
    match condition needs seen parents c with
    | none => []
    | some guard =>
      let base := "complete -c " ++ program ++ guard
      let subBase := base ++ (if c.positionals.isEmpty then " -f" else "")
      c.valueOptions.map (fun a => base ++ described a ++ valueHint a) ++
        c.switches.map (fun a => base ++ described a) ++
        c.subcommands.flatMap (fun s => s.names.map fun n =>
          subBase ++ " -a \"" ++ n ++ "\"" ++
            (if s.about.isEmpty then "" else " -d '" ++ escapeHelp s.about ++ "'")) ++
        c.subcommands.flatMap fun s =>
          s.names.flatMap fun n => lines program needs seen fuel (parents ++ [n]) s

def optionSpecs (c : Command) : String :=
  String.join <| c.options.map fun a =>
    " " ++ (a.short.map Char.toString).getD "" ++
      (match a.short, a.long with
       | some _, some l => "/" ++ escape l
       | none, some l => escape l
       | _, none => "") ++
      (if a.takesValue then "=" else "")

def helpers (name : String) (c : Command) : String :=
  "# Print an optspec for argparse to handle cmd's options that are independent of any " ++
    "subcommand.\n" ++
  "function __fish_" ++ name ++ "_global_optspecs\n" ++
  "    string join \\n" ++ optionSpecs c ++ "\n" ++
  "end\n" ++
  "\n" ++
  "function __fish_" ++ name ++ "_needs_command\n" ++
  "    # Figure out if the current invocation already has a command.\n" ++
  "    set -l cmd (commandline -opc)\n" ++
  "    set -e cmd[1]\n" ++
  "    argparse -s (__fish_" ++ name ++ "_global_optspecs) -- $cmd 2>/dev/null\n" ++
  "    or return\n" ++
  "    if set -q argv[1]\n" ++
  "        # Also print the command, so this can be used to figure out what it is.\n" ++
  "        echo $argv[1]\n" ++
  "        return 1\n" ++
  "    end\n" ++
  "    return 0\n" ++
  "end\n" ++
  "\n" ++
  "function __fish_" ++ name ++ "_using_subcommand\n" ++
  "    set -l cmd (__fish_" ++ name ++ "_needs_command)\n" ++
  "    test -z \"$cmd\"\n" ++
  "    and return 1\n" ++
  "    contains -- $cmd[1] $argv\n" ++
  "end\n" ++
  "\n"

def script (top : Command) : String :=
  let name := top.name.replace "-" "_"
  let (head, needs, seen) :=
    if top.subcommands.isEmpty then ("", "__fish_use_subcommand", "__fish_seen_subcommand_from")
    else (helpers name top, "__fish_" ++ name ++ "_needs_command",
      "__fish_" ++ name ++ "_using_subcommand")
  head ++ String.join ((lines top.name needs seen Command.depthLimit [] top).map (· ++ "\n"))

end Fish

end Complete

end Cli

end SealedPillar
