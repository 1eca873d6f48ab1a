/-!
Command-line interfaces as data: a tree of commands, each with its arguments.

An argument is a switch, an option taking a value (once, or any number of times), a positional
value, or one of the built-in help and version switches. A command names its subcommands; a
command with subcommands may require one.

`Command.build` completes an interface the way it is presented and parsed: every command gets a
`-h` (`--help`) switch after its own arguments, the top command a `-V` (`--version`) switch when
it has a version, and every command with subcommands a `help` subcommand. Global arguments are
copied into every subcommand below the one that declares them, after the subcommand's own
arguments, except into `help`. Options are numbered in the order they are declared, which is the
order help lists them in; the built-in switches come last. Each command learns its full name, the
program's name followed by the subcommand path, and each argument read from the environment
records the value the environment holds.
-/

namespace SealedPillar

namespace Cli

inductive ArgAction where
  /-- A switch, present or not. -/
  | flag
  /-- Takes one value; giving it twice is an error. -/
  | set
  /-- Takes one value each time it is given, and keeps them all. -/
  | append
  /-- Shows the help text. -/
  | help
  /-- Shows the version. -/
  | version
  deriving DecidableEq, Inhabited, Repr

structure Arg where
  id : String
  short : Option Char
  long : Option String
  /-- The placeholder of the value, for arguments that take one. -/
  valueName : Option String
  help : String
  action : ArgAction
  required : Bool
  /-- Required unless one of these arguments is given. -/
  requiredUnless : List String
  conflicts : List String
  default : Option String
  /-- The environment variable a missing value is read from, with the value it holds. -/
  env : Option (String × Option String)
  /-- The values allowed, when only some are. -/
  choices : List String
  positional : Bool
  global : Bool
  /-- Whether the value names a file or directory: an empty one is refused, and shells
  complete it as a file name. -/
  path : Bool
  /-- The place in help listings. -/
  order : Nat
  deriving Inhabited

namespace Arg

def option (id long valueName help : String) : Arg :=
  { id, short := none, long := some long, valueName := some valueName, help, action := .set,
    required := false, requiredUnless := [], conflicts := [], default := none, env := none,
    choices := [], positional := false, global := false, path := false, order := 0 }

def switch (id long help : String) : Arg :=
  { (option id long "" help) with valueName := none, action := .flag }

def value (id valueName help : String) : Arg :=
  { (option id "" valueName help) with long := none, positional := true }

def withShort (a : Arg) (c : Char) : Arg := { a with short := some c }

def isRequired (a : Arg) : Arg := { a with required := true }

def isGlobal (a : Arg) : Arg := { a with global := true }

def repeated (a : Arg) : Arg := { a with action := .append }

def withDefault (a : Arg) (v : String) : Arg := { a with default := some v }

def fromEnv (a : Arg) (name : String) : Arg := { a with env := some (name, none) }

def isPath (a : Arg) : Arg := { a with path := true }

def withChoices (a : Arg) (vs : List String) : Arg := { a with choices := vs }

def requiredUnlessPresent (a : Arg) (ids : List String) : Arg := { a with requiredUnless := ids }

def conflictsWith (a : Arg) (ids : List String) : Arg := { a with conflicts := ids }

def takesValue (a : Arg) : Bool := a.action == .set || a.action == .append

/-- How the argument is named in messages: its long form, else its short form, then its value
placeholder; a positional is its placeholder alone. -/
def display (a : Arg) : String :=
  let name :=
    match a.long, a.short with
    | some l, _ => "--" ++ l
    | none, some c => "-" ++ String.singleton c
    | none, none => ""
  let v := a.valueName.getD a.id
  if a.positional then
    (if a.required then "<" ++ v ++ ">" else "[" ++ v ++ "]") ++
      (if a.action == .append then "..." else "")
  else if a.takesValue then name ++ " <" ++ v ++ ">"
  else name

def helpSwitch : Arg :=
  { (switch "help" "help" "Print help").withShort 'h' with action := .help, order := 999 }

def versionSwitch : Arg :=
  { (switch "version" "version" "Print version").withShort 'V' with
    action := .version
    order := 999 }

end Arg

structure Command where
  name : String
  about : String
  aliases : List String
  args : List Arg
  subcommands : List Command
  afterHelp : Option String
  version : Option String
  subcommandRequired : Bool
  helpSwitch : Bool
  /-- The program's name followed by the subcommand path. -/
  fullName : String

instance : Inhabited Command :=
  ⟨{ name := "", about := "", aliases := [], args := [], subcommands := [], afterHelp := none,
     version := none, subcommandRequired := false, helpSwitch := true, fullName := "" }⟩

namespace Command

def leaf (name about : String) (args : List Arg) : Command :=
  { name, about, aliases := [], args, subcommands := [], afterHelp := none, version := none,
    subcommandRequired := false, helpSwitch := true, fullName := name }

def group (name about : String) (args : List Arg) (subs : List Command) : Command :=
  { (leaf name about args) with subcommands := subs, subcommandRequired := true }

def withAlias (c : Command) (a : String) : Command := { c with aliases := c.aliases ++ [a] }

def helpAbout : String := "Print this message or the help of the given subcommand(s)"

def helpCommand : Command :=
  { (leaf "help" helpAbout
      [(Arg.value "subcommand" "COMMAND" "Print help for the subcommand(s)").repeated]) with
    helpSwitch := false }

def depthLimit : Nat := 16

/-- A copy of a command's subcommand tree with names and descriptions only, as the `help`
subcommand offers it for completion. -/
def helpCopy : Nat → Command → Command
  | 0, c => { (leaf c.name c.about []) with helpSwitch := false }
  | fuel + 1, c =>
    { (leaf c.name c.about []) with
      helpSwitch := false
      subcommands := c.subcommands.map (helpCopy fuel) }

def helpTree (siblings : List Command) : Command :=
  { helpCommand with
    args := []
    subcommands :=
      siblings.map (helpCopy depthLimit) ++
        [{ (leaf "help" helpAbout []) with helpSwitch := false }] }

def prepare (env : String → Option String) (args : List Arg) : List Arg :=
  let step (acc : List Arg × Nat) (a : Arg) : List Arg × Nat :=
    let a := match a.env with
      | some (name, _) => { a with env := some (name, env name) }
      | none => a
    if a.positional then (acc.1 ++ [a], acc.2)
    else (acc.1 ++ [{ a with order := acc.2 }], acc.2 + 1)
  (args.foldl step ([], 0)).1

/-- Completes a command below a parent whose global arguments are `inherited`; `expandHelp`
gives `help` subcommands the tree they describe. -/
def buildFrom (env : String → Option String) (expandHelp : Bool) (fullName : String)
    (inherited : List Arg) : Nat → Command → Command
  | 0, c => c
  | fuel + 1, c =>
    let own := prepare env c.args
    let copied := inherited.filter fun g => !own.any (·.id == g.id)
    let builtin := (if c.helpSwitch then [Arg.helpSwitch] else []) ++
      (if c.version.isSome then [Arg.versionSwitch] else [])
    let args := own ++ copied ++ builtin
    let globals := args.filter (·.global)
    let subs := c.subcommands.map fun s =>
      buildFrom env expandHelp (fullName ++ " " ++ s.name) globals fuel s
    let helpSub :=
      if c.subcommands.isEmpty || !c.helpSwitch then []
      else
        let h := if expandHelp then helpTree c.subcommands else helpCommand
        [buildFrom env expandHelp (fullName ++ " help") [] fuel h]
    { c with args, subcommands := subs ++ helpSub, fullName }

def build (env : String → Option String) (expandHelp : Bool) (c : Command) : Command :=
  buildFrom env expandHelp c.name [] depthLimit c

def findSub (c : Command) (word : String) : Option Command :=
  c.subcommands.find? fun s => s.name == word || s.aliases.contains word

def findLong (c : Command) (l : String) : Option Arg := c.args.find? (·.long == some l)

def findShort (c : Command) (ch : Char) : Option Arg := c.args.find? (·.short == some ch)

def findArg (c : Command) (id : String) : Option Arg := c.args.find? (·.id == id)

def positionals (c : Command) : List Arg := c.args.filter (·.positional)

def options (c : Command) : List Arg := c.args.filter (!·.positional)

def names (c : Command) : List String := c.name :: c.aliases

def allSubNames (c : Command) : List String := c.subcommands.flatMap names

def valueOptions (c : Command) : List Arg := c.args.filter fun a => !a.positional && a.takesValue

def switches (c : Command) : List Arg := c.args.filter fun a => !a.positional && !a.takesValue

def descendants : Nat → Command → List Command
  | 0, _ => []
  | fuel + 1, c => c.subcommands.flatMap fun s => s :: descendants fuel s

end Command

end Cli

end SealedPillar
