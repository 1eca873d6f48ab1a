import SealedPillar.Cli.Complete.Table

/-!
Completion scripts for elvish: the completion table as a map from keys to candidate lists, looked
up with the words typed before the first option.
-/

namespace SealedPillar

namespace Cli

namespace Complete

namespace Elvish

def entry (row : String × Command) : String :=
  "\n        &'" ++ row.1 ++ "'= \x7b" ++
    String.join ((candidates row.2).map fun c =>
      "\n            cand " ++ c.word ++ " '" ++ c.description ++ "'") ++
    "\n        \x7d"

def script (top : Command) : String :=
  let name := top.name
  "\n" ++
  "use builtin;\n" ++
  "use str;\n" ++
  "\n" ++
  "set edit:completion:arg-completer[" ++ name ++ "] = \x7b|@words|\n" ++
  "    fn spaces \x7b|n|\n" ++
  "        builtin:repeat $n ' ' | str:join ''\n" ++
  "    \x7d\n" ++
  "    fn cand \x7b|text desc|\n" ++
  "        edit:complex-candidate $text &display=$text' '(spaces (- 14 (wcswidth $text)))$desc\n" ++
  "    \x7d\n" ++
  "    var command = '" ++ name ++ "'\n" ++
  "    for word $words[1..-1] \x7b\n" ++
  "        if (str:has-prefix $word '-') \x7b\n" ++
  "            break\n" ++
  "        \x7d\n" ++
  "        set command = $command';'$word\n" ++
  "    \x7d\n" ++
  "    var completions = [" ++ String.join ((completionTable top).map entry) ++ "\n" ++
  "    ]\n" ++
  "    $completions[$command]\n" ++
  "\x7d\n"

end Elvish

end Complete

end Cli

end SealedPillar
