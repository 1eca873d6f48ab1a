import SealedPillar.Cli.Spec

/-!
Completion scripts for bash.

The script defines one function. It first walks the words typed before the cursor through the
command tree: a state names the command reached, and each name or alias of a subcommand moves to
that subcommand's state. It then offers what the command reached takes: its options, the values
of its positional arguments, and its subcommands; after an option that takes a value it offers
that option's values, or file names.

The states of the walk are built from the names of the commands on the way, joined by
`__subcmd__`; the branches that offer words are keyed by the full name of a command with its
dashes and blanks rewritten the same way. The two spellings agree on the top command only, and
the script is written exactly so.
-/

namespace SealedPillar

namespace Cli

namespace Complete

namespace Bash

def ident (s : String) : String := s.replace "-" "__"

structure Move where
  source : String
  word : String
  target : String

def Move.le (x y : Move) : Bool :=
  ((compare x.source y.source).then ((compare x.word y.word).then (compare x.target y.target)))
    != .gt

/-- The moves below a command in state `state`: each name of a subcommand leads to the
subcommand's state, and the subcommand's own moves follow. -/
def moves : Nat → String → Command → List Move
  | 0, _, _ => []
  | fuel + 1, state, c => c.subcommands.flatMap fun s =>
    let next := state ++ "__subcmd__" ++ ident s.name
    s.names.map (fun w => ⟨state, w, next⟩) ++ moves fuel next s

def Move.text (m : Move) : String :=
  "\n            " ++ m.source ++ "," ++ m.word ++ ")\n                cmd=\"" ++ m.target ++
    "\"\n                ;;"

def offered (c : Command) : String :=
  " ".intercalate
    ((c.options.filterMap (·.short)).map (fun ch => "-" ++ ch.toString) ++
      (c.options.filterMap (·.long)).map ("--" ++ ·) ++
      c.positionals.flatMap (fun a => if a.choices.isEmpty then [a.display] else a.choices) ++
      c.allSubNames)

def valueWords (a : Arg) : String :=
  if a.choices.isEmpty then "$(compgen -f \"$\x7bcur\x7d\")"
  else "$(compgen -W \"" ++ " ".intercalate a.choices ++ "\" -- \"$\x7bcur\x7d\")"

def afterOption (a : Arg) : String :=
  let branch (word : String) : String :=
    "\n                " ++ word ++ ")\n                    COMPREPLY=(" ++ valueWords a ++
      ")\n                    return 0\n                    ;;"
  String.join (a.long.toList.map (fun l => branch ("--" ++ l)) ++
    a.short.toList.map (fun ch => branch ("-" ++ ch.toString)))

def offer (label : String) (level : Nat) (c : Command) : String :=
  "\n        " ++ label ++ ")\n            opts=\"" ++ offered c ++
    "\"\n            if [[ $\x7bcur\x7d == -* || $\x7bCOMP_CWORD\x7d -eq " ++ toString level ++
    " ]] ; then\n" ++
    "                COMPREPLY=( $(compgen -W \"$\x7bopts\x7d\" -- \"$\x7bcur\x7d\") )" ++
    "\n                return 0\n            fi\n            case \"$\x7bprev\x7d\" in" ++
    String.join (c.valueOptions.map afterOption) ++
    "\n                *)\n                    COMPREPLY=()\n                    ;;" ++
    "\n            esac" ++
    "\n            COMPREPLY=( $(compgen -W \"$\x7bopts\x7d\" -- \"$\x7bcur\x7d\") )" ++
    "\n            return 0\n            ;;"

def key (c : Command) : String := c.fullName.replace " " "__"

def label (k : String) : String := (ident k).replace "__" "__subcmd__"

def script (top : Command) : String :=
  let root := ident top.name
  let walk := (moves Command.depthLimit root top).mergeSort Move.le
  let below := (Command.descendants Command.depthLimit top).mergeSort
    fun x y => compare (key x) (key y) != .gt
  "_" ++ root ++ "() \x7b\n" ++
  "    local i cur prev opts cmd\n" ++
  "    COMPREPLY=()\n" ++
  "    if [[ \"$\x7bBASH_VERSINFO[0]\x7d\" -ge 4 ]]; then\n" ++
  "        cur=\"$2\"\n" ++
  "    else\n" ++
  "        cur=\"$\x7bCOMP_WORDS[COMP_CWORD]\x7d\"\n" ++
  "    fi\n" ++
  "    prev=\"$3\"\n" ++
  "    cmd=\"\"\n" ++
  "    opts=\"\"\n" ++
  "\n" ++
  "    for i in \"$\x7bCOMP_WORDS[@]:0:COMP_CWORD\x7d\"\n" ++
  "    do\n" ++
  "        case \"$\x7bcmd\x7d,$\x7bi\x7d\" in\n" ++
  "            \",$1\")\n" ++
  "                cmd=\"" ++ root ++ "\"\n" ++
  "                ;;" ++ String.join (walk.map Move.text) ++ "\n" ++
  "            *)\n" ++
  "                ;;\n" ++
  "        esac\n" ++
  "    done\n" ++
  "\n" ++
  "    case \"$\x7bcmd\x7d\" in" ++ offer root 1 top ++
  String.join (below.map fun c => offer (label (key c)) (key c |>.splitOn "__").length c) ++ "\n" ++
  "    esac\n" ++
  "\x7d\n" ++
  "\n" ++
  "if [[ \"$\x7bBASH_VERSINFO[0]\x7d\" -eq 4 && \"$\x7bBASH_VERSINFO[1]\x7d\" -ge 4 || " ++
    "\"$\x7bBASH_VERSINFO[0]\x7d\" -gt 4 ]]; then\n" ++
  "    complete -F _" ++ root ++ " -o nosort -o bashdefault -o default " ++ top.name ++ "\n" ++
  "else\n" ++
  "    complete -F _" ++ root ++ " -o bashdefault -o default " ++ top.name ++ "\n" ++
  "fi\n"

end Bash

end Complete

end Cli

end SealedPillar
