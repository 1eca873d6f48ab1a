import SealedPillar.Cli.Spec
import SealedPillar.Cli.Styled

/-!
Usage lines and help texts.

A usage line is the command's full name, `[OPTIONS]` when it has optional options and no
arguments are singled out, the required options and the arguments singled out (each once,
options first, then positionals in order, optional positionals in brackets), and `<COMMAND>` when
a subcommand is required.

A help text is the description, the usage line, then the sections `Commands`, `Arguments` and
`Options`, then the closing note. Rows of a section are aligned two columns past its longest
entry; options are listed by their place, then by their short name (lowercase first) or long
name. A row's description is followed by the environment variable with its value, the default
and the allowed values, and a subcommand's by its aliases.
-/

namespace SealedPillar

namespace Cli

open Styled

def argUsage (a : Arg) (required : Bool) : Styled :=
  let name :=
    match a.long, a.short with
    | some l, _ => lit ("--" ++ l)
    | none, some c => lit ("-" ++ String.singleton c)
    | none, none => []
  let v := a.valueName.getD a.id
  if a.positional then
    ph ((if required then "<" ++ v ++ ">" else "[" ++ v ++ "]") ++
      (if a.action == .append then "..." else ""))
  else if a.takesValue then name ++ ph " " ++ ph ("<" ++ v ++ ">")
  else name

def dedupIds (ids : List String) : List String :=
  ids.foldl (fun acc i => if acc.contains i then acc else acc ++ [i]) []

namespace Command

def needsOptionsTag (c : Command) : Bool :=
  c.options.any fun a =>
    a.long != some "help" && a.long != some "version" && !a.required

def usageArgs (c : Command) (incls : List String) : List Styled :=
  let ids := dedupIds ((c.args.filter (·.required)).map (·.id) ++ incls)
  let found := ids.filterMap c.findArg
  let opts := (found.filter (!·.positional)).map (argUsage · true)
  let optsUnique := opts.foldl (fun acc o => if acc.contains o then acc else acc ++ [o]) []
  let pos := c.positionals.map fun p =>
    if found.any (·.id == p.id) then argUsage p true else argUsage p false
  optsUnique ++ pos

def usage (c : Command) (used : List String) : Styled :=
  let head := lit c.fullName
  let tag := if used.isEmpty && c.needsOptionsTag then [ph "[OPTIONS]"] else []
  let sub :=
    if c.subcommands.isEmpty then []
    else if c.subcommandRequired then [ph "<COMMAND>"]
    else if used.isEmpty then [ph "[COMMAND]"] else []
  sep " " ([head] ++ tag ++ c.usageArgs used ++ sub)

def usageTitled (c : Command) (used : List String) : Styled :=
  tone .header "Usage:" ++ text " " ++ c.usage used

def requiredList (c : Command) (missing present : List String) : List String :=
  let ids := (dedupIds ((c.args.filter (·.required)).map (·.id) ++ missing)).filter
    (!present.contains ·)
  let found := ids.filterMap c.findArg
  let opts := ((found.filter (!·.positional)).map fun a => (argUsage a true).plainText)
  let optsUnique := opts.foldl (fun acc o => if acc.contains o then acc else acc ++ [o]) []
  optsUnique ++ (found.filter (·.positional)).map fun a => (argUsage a true).plainText

end Command

/-- The key options are listed by after their place: the short name in lowercase marked by its
case, else the long name. -/
def optionKey (a : Arg) : String :=
  match a.short, a.long with
  | some c, _ => String.singleton c.toLower ++ (if c.isLower then "0" else "1")
  | none, some l => l
  | none, none => "\x7b" ++ a.id

def keyBefore (a b : Arg) : Bool :=
  a.order < b.order || (a.order == b.order && decide (optionKey a < optionKey b))

def specNotes (a : Arg) : List String :=
  (match a.env with
    | some (name, v) => ["[env: " ++ name ++ "=" ++ v.getD "" ++ "]"]
    | none => []) ++
  (match a.default with
    | some d =>
      if a.takesValue || a.positional then
        ["[default: " ++ (if d.any Char.isWhitespace then "\"" ++ d ++ "\"" else d) ++ "]"]
      else []
    | none => []) ++
  (if a.choices.isEmpty then []
   else ["[possible values: " ++ ", ".intercalate a.choices ++ "]"])

def withNotes (about : String) (notes : List String) : String :=
  if notes.isEmpty then about
  else if about.isEmpty then " ".intercalate notes
  else about ++ " " ++ " ".intercalate notes

def spaces (n : Nat) : String := String.ofList (List.replicate n ' ')

def argRows (args : List Arg) : Styled :=
  let counted := args.filter fun a => a.takesValue || a.long.isSome || a.short.isNone
  let longest := counted.foldl (fun m a => max m a.display.length) 2
  let sorted := args.mergeSort keyBefore
  sep "\n" (sorted.map fun a =>
    let shortPart :=
      match a.short with
      | some c => lit ("-" ++ String.singleton c)
      | none => if a.long.isSome then text "    " else []
    let longPart :=
      match a.long with
      | some l => (if a.short.isSome then text ", " else []) ++ lit ("--" ++ l)
      | none => []
    let suffix :=
      if a.positional then argUsage a a.required
      else if a.takesValue then ph " " ++ ph ("<" ++ a.valueName.getD a.id ++ ">")
      else []
    let pad :=
      if a.positional then longest + 2 - a.display.length
      else if a.long.isSome then longest + 2 - a.display.length
      else longest + 6 - a.display.length
    text "  " ++ shortPart ++ longPart ++ suffix ++ text (spaces pad) ++
      text (withNotes a.help (specNotes a)))

def commandRows (subs : List Command) : Styled :=
  let longest := subs.foldl (fun m s => max m s.name.length) 2
  sep "\n" (subs.map fun s =>
    let notes :=
      match s.aliases with
      | [] => []
      | [a] => ["[alias: " ++ a ++ "]"]
      | als => ["[aliases: " ++ ", ".intercalate als ++ "]"]
    text "  " ++ lit s.name ++ text (spaces (longest + 2 - s.name.length)) ++
      text (withNotes s.about notes))

namespace Command

def helpText (c : Command) : Styled :=
  let sections : List Styled :=
    (if c.subcommands.isEmpty then []
     else [tone .header "Commands:" ++ text "\n" ++ commandRows c.subcommands]) ++
    (if c.positionals.isEmpty then []
     else [tone .header "Arguments:" ++ text "\n" ++ argRows c.positionals]) ++
    (if c.options.isEmpty then []
     else [tone .header "Options:" ++ text "\n" ++ argRows c.options])
  let body :=
    (if c.about.isEmpty then [] else text (c.about ++ "\n")) ++ text "\n" ++ c.usageTitled [] ++
      text "\n\n" ++ sep "\n\n" sections ++
      (match c.afterHelp with
        | some note => text ("\n\n" ++ note)
        | none => [])
  trimEnd body ++ text "\n"

def versionText (c : Command) : String := c.name ++ " " ++ (c.version.getD "") ++ "\n"

end Command

end Cli

end SealedPillar
