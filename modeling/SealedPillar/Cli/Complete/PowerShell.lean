import SealedPillar.Cli.Complete.Table

/-!
Completion scripts for PowerShell: an argument completer that joins the words typed before the
first option with semicolons and switches on the result over the completion table.

PowerShell compares completions without regard to case, so a short option in upper case is
listed with a trailing blank to tell it from its lower-case neighbour.
-/

namespace SealedPillar

namespace Cli

namespace Complete

namespace PowerShell

def result (c : Candidate) : String :=
  let listed :=
    match c.kind, c.word.toList with
    | .short, ['-', ch] => if ch.isUpper then c.word ++ " " else c.word
    | _, _ => c.word
  let kind := if c.kind == .subcommand then "ParameterValue" else "ParameterName"
  "\n            [CompletionResult]::new('" ++ c.word ++ "', '" ++ listed ++
    "', [CompletionResultType]::" ++ kind ++ ", '" ++ c.description ++ "')"

def branch (row : String × Command) : String :=
  "\n        '" ++ row.1 ++ "' \x7b" ++ String.join ((candidates row.2).map result) ++
    "\n            break\n        \x7d"

def script (top : Command) : String :=
  let name := top.name
  "\n" ++
  "using namespace System.Management.Automation\n" ++
  "using namespace System.Management.Automation.Language\n" ++
  "\n" ++
  "Register-ArgumentCompleter -Native -CommandName '" ++ name ++ "' -ScriptBlock \x7b\n" ++
  "    param($wordToComplete, $commandAst, $cursorPosition)\n" ++
  "\n" ++
  "    $commandElements = $commandAst.CommandElements\n" ++
  "    $command = @(\n" ++
  "        '" ++ name ++ "'\n" ++
  "        for ($i = 1; $i -lt $commandElements.Count; $i++) \x7b\n" ++
  "            $element = $commandElements[$i]\n" ++
  "            if ($element -isnot [StringConstantExpressionAst] -or\n" ++
  "                $element.StringConstantType -ne [StringConstantType]::BareWord -or\n" ++
  "                $element.Value.StartsWith('-') -or\n" ++
  "                $element.Value -eq $wordToComplete) \x7b\n" ++
  "                break\n" ++
  "        \x7d\n" ++
  "        $element.Value\n" ++
  "    \x7d) -join ';'\n" ++
  "\n" ++
  "    $completions = @(switch ($command) \x7b" ++
    String.join ((completionTable top).map branch) ++ "\n" ++
  "    \x7d)\n" ++
  "\n" ++
  "    $completions.Where\x7b $_.CompletionText -like \"$wordToComplete*\" \x7d |\n" ++
  "        Sort-Object -Property ListItemText\n" ++
  "\x7d\n"

end PowerShell

end Complete

end Cli

end SealedPillar
