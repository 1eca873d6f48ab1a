import SealedPillar.Cli.Spec
import SealedPillar.Cli.Complete.Shell

/-!
The `secure-pillar` command line: its global options, and one subcommand for each thing the
program does.

* `create` and `update` store secrets under colon paths, in a new file or an existing one;
* `encrypt` and `decrypt` work on every value of a file (`all`), on every `.sls` file under a
  directory (`recurse`), or on one value (`path`);
* `rotate` re-encrypts a file or a directory for the given key;
* `keys` tells which keys values are encrypted for, for a file, a directory or one value;
* `completions` prints a completion script for a shell.
-/

namespace SealedPillar

namespace Cli

namespace Interface

def globalArgs : List Arg :=
  [((Arg.option "profile" "profile" "PROFILE" "Profile to use from the config file").fromEnv
      "SECURE_PILLAR_PROFILE").isGlobal,
   ((Arg.option "config" "config" "FILE"
      "Config file (defaults to ~/.config/secure-pillar/config.toml)").isPath).isGlobal,
   ((Arg.option "pgp_key" "pgp-key" "PGP_KEY"
      "PGP key name, email, or ID to use for encryption").withShort 'k').isGlobal,
   ((Arg.option "pubring" "pubring" "FILE" "PGP public keyring").isPath).isGlobal,
   ((Arg.option "secring" "secring" "FILE" "PGP private keyring").isPath).isGlobal,
   ((Arg.option "gnupg_home" "gnupg-home" "DIR" "GnuPG home directory").isPath).isGlobal,
   ((Arg.option "element" "element" "ELEMENT"
      "Top level element under which encrypted values are kept").withShort 'e').isGlobal,
   ((Arg.switch "verbose" "verbose" "Enable debug logging").withShort 'v').isGlobal]

def secretArgs : List Arg :=
  [(((Arg.option "names" "name" "NAMES"
      "Secret name; a colon path such as `app:db:password`").withShort 'n').repeated).isRequired,
   ((Arg.option "values" "value" "VALUES" "Secret value, paired with names by position").withShort
      's').repeated]

def inputArg : Arg :=
  ((Arg.option "input" "file" "INPUT" "Input file (defaults to STDIN)").withShort
      'f').withDefault "-"

def outputArg : Arg :=
  ((Arg.option "output" "outfile" "OUTPUT" "Output file (defaults to STDOUT)").withShort
    'o').withDefault "-"

def fileArgs : List Arg :=
  [inputArg, outputArg, (Arg.switch "update" "update" "Write back to the input file").withShort 'u']

def dirArg : Arg :=
  (((Arg.option "dir" "dir" "DIR" "Directory to recurse over").withShort 'd').isRequired).isPath

def pathArg : Arg :=
  ((Arg.option "path" "path" "PATH" "Colon path to the value").withShort 'p').isRequired

def jsonArg : Arg := Arg.switch "json" "json" "Output as JSON"

def reportArgs : List Arg := [inputArg, outputArg, jsonArg]

def targets : List Command :=
  [Command.leaf "all" "Every value in a file" fileArgs,
   Command.leaf "recurse" "Every .sls file under a directory, rewritten in place" [dirArg],
   Command.leaf "path" "The value at one path in a file" (pathArg :: fileArgs)]

def keyTargets : List Command :=
  [Command.leaf "all" "Keys for every encrypted value in a file" reportArgs,
   Command.leaf "recurse" "Keys for every .sls file under a directory" [dirArg, jsonArg],
   Command.leaf "path" "Key for the value at one path" (pathArg :: reportArgs)]

def rotateArgs : List Arg :=
  [((Arg.option "input" "file" "INPUT" "Rotate a single file instead of a directory").withShort
      'f').requiredUnlessPresent ["dir"],
   (Arg.option "output" "outfile" "OUTPUT" "Output file for --file (defaults to STDOUT)").withShort
      'o',
   (Arg.switch "update" "update" "Write back to the input file").withShort 'u',
   (((Arg.option "dir" "dir" "DIR" "Directory to recurse over").withShort
      'd').isPath).conflictsWith ["input"]]

def shells : List String := Shell.all.map Shell.name

def program : Command :=
  { (Command.group "secure-pillar"
      "Create and update encrypted content or decrypt encrypted content" globalArgs
      [(Command.leaf "create" "Create a new sls file" (secretArgs ++ [outputArg])).withAlias "c",
       (Command.leaf "update" "Set the given names to encrypted values in an existing file"
          (secretArgs ++
            [((Arg.option "file" "file" "FILE"
                "File to update (defaults to STDIN, written to STDOUT)").withShort
              'f').withDefault "-"])).withAlias "u",
       (Command.group "encrypt" "Encrypt plaintext values" [] targets).withAlias "e",
       (Command.group "decrypt" "Decrypt encrypted values (requires the private key)" []
          targets).withAlias "d",
       (Command.leaf "rotate" "Decrypt existing values and re-encrypt them with the given key"
          rotateArgs).withAlias "r",
       (Command.group "keys" "Show the PGP keys values are encrypted for" [] keyTargets).withAlias
          "k",
       Command.leaf "completions" "Generate shell completions"
          [((Arg.value "shell" "SHELL" "Shell to generate completions for").isRequired).withChoices
            shells]]) with
    version := some "0.1.0"
    afterHelp := some "Files with include directives are never processed." }

def parsing (env : String → Option String) : Command := program.build env false

/-- The command line as completion scripts describe it: `help` subcommands know the tree. -/
def completing : Command := program.build (fun _ => none) true

end Interface

end Cli

end SealedPillar
