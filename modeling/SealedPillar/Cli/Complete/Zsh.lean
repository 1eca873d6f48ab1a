import SealedPillar.Cli.Spec

/-!
Completion scripts for zsh.

The script's main function describes the top command to `_arguments`: each option with its
description and what completes its value, each positional argument, and, for a command with
subcommands, a state that dispatches on the subcommand's name to the description of that
subcommand, nested as deep as the tree. One further function per command lists its subcommands
with their descriptions.
-/

namespace SealedPillar

namespace Cli

namespace Complete

namespace Zsh

def escapeHelp (s : String) : String :=
  String.join <| s.toList.map fun
    | '\\' => "\\\\"
    | '\'' => "'\\''"
    | '[' => "\\["
    | ']' => "\\]"
    | ':' => "\\:"
    | '$' => "\\$"
    | '`' => "\\`"
    | '\n' => " "
    | ch => ch.toString

def escapeTitle (s : String) : String :=
  String.join <| s.toList.map fun
    | '[' => "\\["
    | ']' => "\\]"
    | '\'' => "'\\''"
    | ':' => "\\:"
    | ch => ch.toString

def valueAction (a : Arg) : String :=
  if !a.choices.isEmpty then "(" ++ " ".intercalate a.choices ++ ")"
  else if a.path then "_files"
  else "_default"

def exclusions (c : Command) (a : Arg) : String :=
  let excluded := a.conflicts.filterMap c.findArg
  let words := excluded.flatMap fun b =>
    b.short.toList.map (fun ch => "-" ++ ch.toString) ++ b.long.toList.map ("--" ++ ·)
  if excluded.isEmpty then "" else "(" ++ " ".intercalate words ++ ")"

def repeatMark (a : Arg) : String := if a.action == .append then "*" else ""

def optionSpecs (c : Command) (a : Arg) : List String :=
  let lead := exclusions c a ++ repeatMark a
  let tail := "[" ++ escapeHelp a.help ++ "]:" ++ (a.valueName.getD " ") ++ ":" ++ valueAction a ++
    "' \\"
  a.short.toList.map (fun ch => "'" ++ lead ++ "-" ++ ch.toString ++ "+" ++ tail) ++
    a.long.toList.map (fun l => "'" ++ lead ++ "--" ++ l ++ "=" ++ tail)

def switchSpecs (c : Command) (a : Arg) : List String :=
  let lead := exclusions c a ++ repeatMark a
  let tail := "[" ++ escapeHelp a.help ++ "]' \\"
  a.short.toList.map (fun ch => "'" ++ lead ++ "-" ++ ch.toString ++ tail) ++
    a.long.toList.map (fun l => "'" ++ lead ++ "--" ++ l ++ tail)

/-- The specs of the positional arguments. A list of values ends the specs that follow it, so
only the first is described; with subcommands, the subcommand takes the rest. -/
def positionalSpecs (c : Command) : List String :=
  let step (acc : List String × Bool) (a : Arg) : List String × Bool :=
    let many := a.action == .append
    if acc.2 && many then acc
    else
      let (count, closed) :=
        if many && c.subcommands.isEmpty then ("*:", true)
        else if !a.required then (":", acc.2)
        else ("", acc.2)
      let title := if a.help.isEmpty then "" else " -- " ++ a.help
      let spec := "'" ++ count ++ ":" ++ a.id ++ escapeTitle title ++ ":" ++ valueAction a ++ "' \\"
      (acc.1 ++ [spec], closed)
  (c.positionals.foldl step ([], false)).1

def commandsFunction (c : Command) : String :=
  "_" ++ c.fullName.replace " " "__subcmd__" ++ "_commands"

def arguments (c : Command) : String :=
  "\n".intercalate <|
    ["_arguments \"$\x7b_arguments_options[@]\x7d\" : \\"] ++
    c.valueOptions.flatMap (optionSpecs c) ++ c.switches.flatMap (switchSpecs c) ++
    positionalSpecs c ++
    (if c.subcommands.isEmpty then []
     else ["\":: :" ++ commandsFunction c ++ "\" \\", "\"*::: :->" ++ c.name ++ "\" \\"]) ++
    ["&& ret=0"]

def dispatch : Nat → Command → String
  | 0, _ => ""
  | fuel + 1, c =>
    if c.subcommands.isEmpty then ""
    else
      let pos := toString (c.positionals.length + 1)
      let branches := c.subcommands.flatMap fun s =>
        let inner := dispatch fuel s
        s.names.map fun n =>
          "\n".intercalate (["(" ++ n ++ ")", arguments s] ++
            (if inner.isEmpty then [] else [inner]) ++ [";;"])
      "\n    case $state in\n    (" ++ c.name ++ ")\n" ++
      "        words=($line[" ++ pos ++ "] \"$\x7bwords[@]\x7d\")\n" ++
      "        (( CURRENT += 1 ))\n" ++
      "        curcontext=\"$\x7bcurcontext%:*:*\x7d:" ++ c.fullName.replace " " "-" ++
        "-command-$line[" ++ pos ++ "]:\"\n" ++
      "        case $line[" ++ pos ++ "] in\n" ++
      "            " ++ "\n".intercalate branches ++ "\n" ++
      "        esac\n" ++
      "    ;;\n" ++
      "esac"

def listing (c : Command) : String :=
  let entries := c.subcommands.flatMap fun s =>
    s.names.map fun n => "'" ++ n ++ ":" ++ escapeHelp s.about ++ "' \\"
  let list := if entries.isEmpty then "" else "\n".intercalate ("" :: entries ++ ["    "])
  let fn := commandsFunction c
  "(( $+functions[" ++ fn ++ "] )) ||\n" ++
  fn ++ "() \x7b\n" ++
  "    local commands; commands=(" ++ list ++ ")\n" ++
  "    _describe -t commands '" ++ c.fullName ++ " commands' commands \"$@\"\n" ++
  "\x7d"

def script (top : Command) : String :=
  let name := top.name
  let below := (Command.descendants Command.depthLimit top).mergeSort
    fun x y => compare x.fullName y.fullName != .gt
  "#compdef " ++ name ++ "\n" ++
  "\n" ++
  "autoload -U is-at-least\n" ++
  "\n" ++
  "_" ++ name ++ "() \x7b\n" ++
  "    typeset -A opt_args\n" ++
  "    typeset -a _arguments_options\n" ++
  "    local ret=1\n" ++
  "\n" ++
  "    if is-at-least 5.2; then\n" ++
  "        _arguments_options=(-s -S -C)\n" ++
  "    else\n" ++
  "        _arguments_options=(-s -C)\n" ++
  "    fi\n" ++
  "\n" ++
  "    local context curcontext=\"$curcontext\" state line\n" ++
  "    " ++ arguments top ++ dispatch Command.depthLimit top ++ "\n" ++
  "\x7d\n" ++
  "\n" ++
  "\n".intercalate ((top :: below).map listing) ++ "\n" ++
  "\n" ++
  "if [ \"$funcstack[1]\" = \"_" ++ name ++ "\" ]; then\n" ++
  "    _" ++ name ++ " \"$@\"\n" ++
  "else\n" ++
  "    compdef _" ++ name ++ " " ++ name ++ "\n" ++
  "fi\n"

end Zsh

end Complete

end Cli

end SealedPillar
