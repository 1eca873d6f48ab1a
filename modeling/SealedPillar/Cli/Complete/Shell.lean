/-!
The shells a completion script can be written for, and the names they go by on the command line.
-/

namespace SealedPillar

namespace Cli

inductive Shell where
  | bash
  | elvish
  | fish
  | powershell
  | zsh
  deriving DecidableEq, Repr

namespace Shell

def name : Shell → String
  | bash => "bash"
  | elvish => "elvish"
  | fish => "fish"
  | powershell => "powershell"
  | zsh => "zsh"

def all : List Shell := [bash, elvish, fish, powershell, zsh]

def ofName? (s : String) : Option Shell := all.find? (·.name == s)

theorem ofName?_name (sh : Shell) : ofName? sh.name = some sh := by
  cases sh <;> rfl

end Shell

end Cli

end SealedPillar
