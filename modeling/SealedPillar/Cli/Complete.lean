import SealedPillar.Cli.Complete.Shell
import SealedPillar.Cli.Complete.Bash
import SealedPillar.Cli.Complete.Elvish
import SealedPillar.Cli.Complete.Fish
import SealedPillar.Cli.Complete.PowerShell
import SealedPillar.Cli.Complete.Zsh

/-!
The completion script of a command tree for each shell.
-/

namespace SealedPillar

namespace Cli

def Shell.script : Shell → Command → String
  | .bash => Complete.Bash.script
  | .elvish => Complete.Elvish.script
  | .fish => Complete.Fish.script
  | .powershell => Complete.PowerShell.script
  | .zsh => Complete.Zsh.script

end Cli

end SealedPillar
