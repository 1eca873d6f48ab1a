import SealedPillar.Host.Machine

/-!
The program's own messages on standard error: successes after `✓`, errors after `✗`, warnings
after `⚠`, hints after `→`, counts as label and value, and secondary lines. Standard output is
kept for documents and reports.

Colors are used when `NO_COLOR` is unset and `CLICOLOR_FORCE` asks for them: green for successes,
red for errors, yellow for warnings, cyan for hints and paths, dim for secondary text.
-/

namespace SealedPillar

namespace Cli

namespace Output

def colored : HostM Bool := do
  let noColor ← Host.envVar "NO_COLOR"
  let force ← Host.envVar "CLICOLOR_FORCE"
  pure (noColor.isNone && (force.map (· != "0")).getD false)

def paint (on : Bool) (code text : String) : String :=
  if on then "\x1b[" ++ code ++ "m" ++ text ++ "\x1b[0m" else text

def line (s : String) : HostM Unit := Host.writeErr (s ++ "\n")

def success (msg : String) : HostM Unit := do
  line (paint (← colored) "32" "✓" ++ " " ++ msg)

def error (msg : String) : HostM Unit := do
  line (paint (← colored) "31" "✗" ++ " " ++ msg)

def warn (msg : String) : HostM Unit := do
  line (paint (← colored) "33" "⚠" ++ " " ++ msg)

def hint (msg : String) : HostM Unit := do
  let on ← colored
  line (paint on "36" "→" ++ " " ++ paint on "36" msg)

def kv (label value : String) : HostM Unit := do
  let on ← colored
  line ("  " ++ paint on "2" label ++ "  " ++ paint on "1" value)

def path (p : String) : HostM String := do pure (paint (← colored) "36" p)

def dimmed (msg : String) : HostM Unit := do
  line (paint (← colored) "2" msg)

end Output

end Cli

end SealedPillar
