import SealedPillar.Binary64.Read

/-!
TOML documents as trees with source spans, and how their errors are shown.

Every value remembers the characters it was read from, and a table the header that opened it
(widened to its last value), so an error about a value can point at it. Tables made implicitly,
by a dotted key or by a header naming a nested table, have no span of their own; an error about
one points at the key instead.

An error is shown as the line it points at, with carets under the span, then its message:

```
TOML parse error at line 1, column 12
  |
1 | profiles = 3
  |            ^
invalid type: integer `3`, expected a sequence
```
-/

namespace SealedPillar

namespace Toml

structure Span where
  start : Nat
  stop : Nat
  deriving Inhabited, DecidableEq

inductive Node where
  | string (s : String) (span : Span)
  | integer (i : Int) (span : Span)
  | float (x : Binary64) (span : Span)
  | boolean (b : Bool) (span : Span)
  | datetime (text : String) (span : Span)
  | array (items : List Node) (span : Span)
  /-- A table written inline; `dotted` when a dotted key made it. -/
  | inline (entries : List (String × Span × Node)) (dotted : Bool) (span : Option Span)
  /-- A table; `implicit` when only named on the way to another, `dotted` when a dotted key
  made it. -/
  | table (entries : List (String × Span × Node)) (implicit dotted : Bool) (span : Option Span)
  /-- An array of tables, each a `table`. -/
  | tables (items : List Node) (span : Option Span)
  deriving Inhabited

abbrev Entries := List (String × Span × Node)

namespace Node

def span? : Node → Option Span
  | string _ s => some s
  | integer _ s => some s
  | float _ s => some s
  | boolean _ s => some s
  | datetime _ s => some s
  | array _ s => some s
  | inline _ _ s => s
  | table _ _ _ s => s
  | tables _ s => s

def typeName : Node → String
  | string .. => "string"
  | integer .. => "integer"
  | float .. => "float"
  | boolean .. => "boolean"
  | datetime .. => "datetime"
  | array .. => "array"
  | inline .. => "inline table"
  | table .. => "table"
  | tables .. => "array of tables"

end Node

structure TomlError where
  message : String
  span : Option Span
  keys : List String
  deriving Inhabited

def spaces (n : Nat) : String := String.ofList (List.replicate n ' ')

/-- The line and column (both from zero) of a character offset. The column counts characters,
but bytes when the character at the offset takes more than one byte: the column is measured on
the line's bytes up to and including the offset's first byte, which are then no whole text. -/
def position (cs : Array Char) (index : Nat) : Nat × Nat :=
  if cs.size = 0 then (0, index)
  else
    let safe := min index (cs.size - 1)
    let before := (cs.toList.take safe)
    let lineStart := before.length - (before.reverse.takeWhile (· != '\n')).length
    let line := (before.take lineStart).count '\n'
    let wide := match cs[index]? with
      | some c => c.utf8Size != 1
      | none => false
    let column :=
      if wide then (before.drop lineStart).foldl (fun n c => n + c.utf8Size) 0
      else safe - lineStart + (index - safe)
    (line, column)

def TomlError.display (raw : String) (e : TomlError) : String :=
  let context :=
    match e.span with
    | none => ""
    | some sp =>
      let cs := raw.toList.toArray
      let (line, column) := position cs sp.start
      let lineNum := line + 1
      let gutter := (toString lineNum).length
      let content := (raw.splitOn "\n").getD line ""
      let spanText := String.ofList ((cs.toList.drop sp.start).take (sp.stop - sp.start))
      let spanBytes := spanText.utf8ByteSize
      let highlight := min spanBytes (content.utf8ByteSize - column)
      s!"TOML parse error at line {lineNum}, column {column + 1}\n" ++
        spaces (gutter + 1) ++ "|\n" ++
        s!"{lineNum} | " ++ content ++ "\n" ++ spaces (gutter + 1) ++ "|" ++ spaces (column + 1) ++
        "^" ++ String.ofList (List.replicate (highlight - 1) '^') ++ "\n"
  let keys :=
    if e.span.isNone && !e.keys.isEmpty then "in `" ++ ".".intercalate e.keys ++ "`\n" else ""
  context ++ e.message ++ "\n" ++ keys

end Toml

end SealedPillar
