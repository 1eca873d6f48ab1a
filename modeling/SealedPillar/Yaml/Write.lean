import SealedPillar.Value
import SealedPillar.Binary64.Read
import SealedPillar.Text.Lines

/-!
Writing a document as block YAML.

Mappings and sequences are written in block style, two spaces per level, with the entries of a
sequence inside a mapping indented under its key and a nested collection in a sequence entry
starting on the entry's line (`- - x`). Empty collections are `[]` and `{}`, null is `~`.

A string is written

* as a literal block (`|`, or `|-` without a final line break) when literal blocks are enabled,
  the string has a line break and every character may stand in a block;
* double-quoted when it could be misread unquoted (`Write.needsQuotes`), with `\"`, `\\`, the
  short escapes `\b \t \n \f \r` and `\u00XX` for other control characters;
* as it is otherwise.

Literal blocks are enabled for a whole document only when every multi-line string value reads
back unchanged from a block (`Write.literalSafe`): its first nonempty line does not start with a
blank, no line consists of whitespace only, and it does not end with two line breaks.
-/

namespace SealedPillar

namespace Yaml

namespace Write

def readsAsInt64 (s : String) : Bool :=
  let (neg, body) :=
    match s.toList with
    | '+' :: r => (false, r)
    | '-' :: r => (true, r)
    | r => (false, r)
  !body.isEmpty && body.all Char.isDigit &&
    (let v := Binary64.digitsValue body
     if neg then v ≤ Nat.pow 2 63 else v < Nat.pow 2 63)

def reservedWords : List String :=
  ["true", "false", "True", "False", "TRUE", "FALSE", "null", "Null", "NULL", "~", "y", "Y", "n",
   "N", "yes", "Yes", "YES", "no", "No", "NO", "on", "On", "ON", "off", "Off", "OFF"]

def forcesQuotes (c : Char) : Bool :=
  ":\x7b\x7d[],#`\"'\\\t\n\r".toList.contains c || c.toNat ≤ 6 ||
    (0x0E ≤ c.toNat && c.toNat ≤ 0x1A) || (0x1C ≤ c.toNat && c.toNat ≤ 0x1F)

/-- Whether a string must be quoted to read back as the same string. -/
def needsQuotes (s : String) : Bool :=
  s.isEmpty || s.startsWith " " || s.endsWith " " ||
    (match s.toList.head? with
     | some c => "&*?|-<>=!%@".toList.contains c
     | none => false) ||
    s.toList.any forcesQuotes || reservedWords.contains s || s.startsWith "." ||
    s.startsWith "0x" || readsAsInt64 s || (Binary64.ofDecimalText? s).isSome

def escapeChar (c : Char) : String :=
  let hex4 (n : Nat) : String :=
    let digit (d : Nat) : Char := if d < 10 then Char.ofNat (48 + d) else Char.ofNat (87 + d)
    "\\u00" ++ String.ofList [digit (n / 16), digit (n % 16)]
  if c == '"' then "\\\""
  else if c == '\\' then "\\\\"
  else if c == '\x08' then "\\b"
  else if c == '\t' then "\\t"
  else if c == '\n' then "\\n"
  else if c == '\x0c' then "\\f"
  else if c == '\r' then "\\r"
  else if c.toNat < 0x20 || c.toNat == 0x7F then hex4 c.toNat
  else String.singleton c

def doubleQuoted (s : String) : String :=
  "\"" ++ String.join (s.toList.map escapeChar) ++ "\""

def blockChar (c : Char) : Bool :=
  c == '\t' || c == '\n' || (' ' ≤ c && c ≤ '~') || c == '\u0085' ||
    (0xA0 ≤ c.toNat && c.toNat ≤ 0xD7FFF)

def indentation (level : Int) : String :=
  String.ofList (List.replicate (2 * level.toNat) ' ')

def literalBlock (level : Int) (s : String) : String :=
  (if s.endsWith "\n" then "|" else "|-") ++
    String.join ((Text.lines s).map fun line => "\n" ++ indentation (level + 1) ++ line)

def scalar (literal : Bool) (level : Int) (s : String) : String :=
  if literal && s.toList.contains '\n' && s.toList.all blockChar then literalBlock level s
  else if needsQuotes s then doubleQuoted s
  else s

mutual

def afterIndicator (literal : Bool) (level : Int) (inline : Bool) : Value → String
  | .null => " ~"
  | .bool b => if b then " true" else " false"
  | .number n => " " ++ n.text
  | .string s => " " ++ scalar literal level s
  | .sequence [] => " []"
  | .sequence (x :: xs) =>
    (if inline then " " else "\n" ++ indentation (level + 1)) ++
      items literal (level + 1) true (x :: xs)
  | .mapping [] => " \x7b\x7d"
  | .mapping (e :: es) =>
    (if inline then " " else "\n" ++ indentation (level + 1)) ++
      entries literal (level + 1) true (e :: es)

def items (literal : Bool) (level : Int) (first : Bool) : List Value → String
  | [] => ""
  | x :: xs =>
    (if first then "" else "\n" ++ indentation level) ++ "-" ++
      afterIndicator literal level true x ++ items literal level false xs

def entries (literal : Bool) (level : Int) (first : Bool) : List (String × Value) → String
  | [] => ""
  | (k, v) :: es =>
    (if first then "" else "\n" ++ indentation level) ++ scalar literal level k ++ ":" ++
      afterIndicator literal level false v ++ entries literal level false es

end

/-- Whether a multi-line string reads back unchanged from a literal block. -/
def blockSafeString (s : String) : Bool :=
  if !s.toList.contains '\n' then true
  else
    let ls := Text.lines s
    let firstOk :=
      match ls.find? (fun l => !l.isEmpty) with
      | some l => !(l.startsWith " " || l.startsWith "\t")
      | none => false
    firstOk && ls.all (fun l => l.isEmpty || !(Text.trim l).isEmpty) && !s.endsWith "\n\n"

mutual

def literalSafe : Value → Bool
  | .string s => blockSafeString s
  | .sequence xs => literalSafeItems xs
  | .mapping es => literalSafeEntries es
  | _ => true

def literalSafeItems : List Value → Bool
  | [] => true
  | x :: xs => literalSafe x && literalSafeItems xs

def literalSafeEntries : List (String × Value) → Bool
  | [] => true
  | (_, v) :: es => literalSafe v && literalSafeEntries es

end

def document (es : List (String × Value)) : String :=
  match es with
  | [] => "\x7b\x7d\n"
  | e :: rest => entries (literalSafeEntries es) 0 true (e :: rest) ++ "\n"

end Write

end Yaml

end SealedPillar
