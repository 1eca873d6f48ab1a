/-!
Text with styles, as help and error messages are written: each piece has a tone, and rendering
with colors wraps every piece of a tone that has a look in its escape codes and a reset.
Rendering without colors gives the bare text.
-/

namespace SealedPillar

namespace Cli

inductive Tone where
  | plain
  /-- Text typed as it is shown: names of the program, options and subcommands. -/
  | literal
  /-- Text standing for a value. -/
  | placeholder
  /-- Section headings and the usage title. -/
  | header
  | error
  /-- What was given wrongly. -/
  | invalid
  /-- What may be given instead. -/
  | valid
  deriving DecidableEq, Inhabited

namespace Tone

def codes : Tone → String
  | plain => ""
  | literal => "\x1b[1m"
  | placeholder => ""
  | header => "\x1b[1m\x1b[4m"
  | error => "\x1b[1m\x1b[31m"
  | invalid => "\x1b[33m"
  | valid => "\x1b[32m"

end Tone

abbrev Styled := List (Tone × String)

namespace Styled

def text (s : String) : Styled := [(.plain, s)]

def lit (s : String) : Styled := [(.literal, s)]

def ph (s : String) : Styled := [(.placeholder, s)]

def tone (t : Tone) (s : String) : Styled := [(t, s)]

def plainText (s : Styled) : String := String.join (s.map (·.2))

def render (ansi : Bool) (s : Styled) : String :=
  if !ansi then s.plainText
  else
    String.join (s.map fun (t, x) =>
      if t.codes.isEmpty then x else t.codes ++ x ++ "\x1b[0m")

def width (s : Styled) : Nat := s.plainText.length

def sep (between : String) : List Styled → Styled
  | [] => []
  | [x] => x
  | x :: xs => x ++ text between ++ sep between xs

def trimEnd (s : Styled) : Styled :=
  let rec go : List (Tone × String) → List (Tone × String)
    | [] => []
    | (t, x) :: rest =>
      let kept :=
        String.ofList (x.toList.reverse.dropWhile (fun c => c == ' ' || c == '\n')).reverse
      if kept.isEmpty then go rest else (t, kept) :: rest
  (go s.reverse).reverse

end Styled

end Cli

end SealedPillar
