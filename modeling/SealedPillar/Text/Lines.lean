/-!
Lines and whitespace of text.

`Text.lines` splits at line feeds; a line feed preceded by a carriage return ends the line as one
break, a final line feed ends the last line rather than starting an empty one, and a carriage
return without a line feed stays in the text. `Text.isWhitespace` is the Unicode `White_Space`
property, and `Text.trim` drops such characters at both ends. `Text.afterFirst` finds what follows
the first occurrence of a piece of text.
-/

namespace SealedPillar

namespace Text

def isWhitespace (c : Char) : Bool :=
  c == ' ' || ('\t' ≤ c && c ≤ '\r') || c == '\u0085' || c == '\u00A0' || c == '\u1680' ||
    ('\u2000' ≤ c && c ≤ '\u200A') || c == '\u2028' || c == '\u2029' || c == '\u202F' ||
    c == '\u205F' || c == '\u3000'

def trimStartList (cs : List Char) : List Char := cs.dropWhile isWhitespace

def trimList (cs : List Char) : List Char :=
  ((cs.dropWhile isWhitespace).reverse.dropWhile isWhitespace).reverse

def trim (s : String) : String := String.ofList (trimList s.toList)

def trimStart (s : String) : String := String.ofList (trimStartList s.toList)

def trimEnd (s : String) : String :=
  String.ofList ((s.toList.reverse.dropWhile isWhitespace).reverse)

def dropCarriageReturn (line : List Char) : List Char :=
  if line.getLast? == some '\r' then line.dropLast else line

def linesFrom : List Char → List Char → List (List Char)
  | [], [] => []
  | [], acc => [acc.reverse]
  | '\n' :: rest, acc => dropCarriageReturn acc.reverse :: linesFrom rest []
  | c :: rest, acc => linesFrom rest (c :: acc)

def linesOf (cs : List Char) : List (List Char) := linesFrom cs []

def lines (s : String) : List String := (linesOf s.toList).map String.ofList

/-- Whether `needle` occurs in `s`. The decision procedure is named so that the definition is the
same whatever else is imported. -/
def contains (s needle : String) : Bool :=
  @decide (needle.toList <:+: s.toList) (List.instDecidableIsInfixOfDecidableEq _ _)

def afterFirst (needle cs : List Char) : Option (List Char) :=
  if needle.isPrefixOf cs then some (cs.drop needle.length)
  else
    match cs with
    | [] => none
    | _ :: rest => afterFirst needle rest

def hexOfBytes (bs : List UInt8) : String :=
  let digit (n : Nat) : Char := if n < 10 then Char.ofNat (48 + n) else Char.ofNat (87 + n)
  String.ofList (bs.flatMap fun b => [digit (b.toNat / 16), digit (b.toNat % 16)])

end Text

end SealedPillar
