import SealedPillar.Value

/-!
JSON text for values and string maps.

Strings escape `"`, `\` and the control characters below U+0020 (with the short forms `\b`, `\t`,
`\n`, `\f`, `\r` where they exist, `\u00xx` otherwise) and keep every other character as it is.
Doubles are written in their shortest form; NaN and the infinities, which JSON lacks, as `null`.
The pretty form puts each member on its own line, indented by two spaces per level.
-/

namespace SealedPillar

namespace Json

def hexDigit (n : Nat) : Char :=
  if n < 10 then Char.ofNat (48 + n) else Char.ofNat (87 + n)

def escapeChar (c : Char) : List Char :=
  if c == '"' then ['\\', '"']
  else if c == '\\' then ['\\', '\\']
  else if c == '\n' then ['\\', 'n']
  else if c == '\r' then ['\\', 'r']
  else if c == '\t' then ['\\', 't']
  else if c == '\x08' then ['\\', 'b']
  else if c == '\x0C' then ['\\', 'f']
  else if c.toNat < 0x20 then
    ['\\', 'u', '0', '0', hexDigit (c.toNat / 16), hexDigit (c.toNat % 16)]
  else [c]

def quote (s : String) : String := String.ofList ('"' :: s.toList.flatMap escapeChar ++ ['"'])

def number : Number → String
  | .float x => if x.isFinite then x.shortestText else "null"
  | n => n.text

mutual

def compact : Value → String
  | .null => "null"
  | .bool b => if b then "true" else "false"
  | .number n => number n
  | .string s => quote s
  | .sequence xs => "[" ++ ",".intercalate (compactItems xs) ++ "]"
  | .mapping es => "\x7b" ++ ",".intercalate (compactEntries es) ++ "\x7d"

def compactItems : List Value → List String
  | [] => []
  | x :: xs => compact x :: compactItems xs

def compactEntries : List (String × Value) → List String
  | [] => []
  | (k, v) :: es => (quote k ++ ":" ++ compact v) :: compactEntries es

end

def prettyStringsAt (level : Nat) (entries : List (String × String)) : String :=
  if entries.isEmpty then "\x7b\x7d"
  else
    let pad := String.ofList (List.replicate (2 * level + 2) ' ')
    let close := String.ofList (List.replicate (2 * level) ' ')
    "\x7b\n" ++ ",\n".intercalate (entries.map fun (k, v) => pad ++ quote k ++ ": " ++ quote v) ++
      "\n" ++ close ++ "\x7d"

def prettyStrings (entries : List (String × String)) : String := prettyStringsAt 0 entries

def prettyNested (groups : List (String × List (String × String))) : String :=
  if groups.isEmpty then "\x7b\x7d"
  else
    "\x7b\n" ++ ",\n".intercalate (groups.map fun (k, m) => "  " ++ quote k ++ ": " ++
      prettyStringsAt 1 m) ++ "\n\x7d"

end Json

end SealedPillar
