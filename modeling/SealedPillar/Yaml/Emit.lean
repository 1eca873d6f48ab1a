import SealedPillar.Value

/-!
Values as block YAML in the style of a serializer that marks every string which would read back
as something else.

A string is written plain when it may be, single-quoted when it would read as null, a boolean or
a number (or is a run of digits with a leading zero), and as a literal block when it holds a line
feed. The writer then downgrades a style the text does not allow: plain to single-quoted to
double-quoted, and a literal block to double-quoted. What a text allows is decided by one pass
over its characters (`Emit.facts`): indicators at its start, `: ` and ` #` inside, leading or
trailing spaces, breaks, and characters outside the printable set.

Mappings are block mappings whose keys are written inline when short and single-line, after `? `
otherwise; sequences are block sequences, not indented under a mapping key; empty collections
are written `{}` and `[]`.
-/

namespace SealedPillar

namespace Yaml

namespace Emit

inductive Style where
  | plain
  | single
  | double
  | literal
  deriving DecidableEq, Inhabited

structure Facts where
  multiline : Bool
  flowPlain : Bool
  blockPlain : Bool
  singleQuoted : Bool
  block : Bool

def isPrintable (c : Char) : Bool :=
  let n := c.toNat
  c == '\n' || (0x20 ≤ n && n ≤ 0x7E) || (0xA0 ≤ n && n ≤ 0xD7FF) ||
    (0xE000 ≤ n && n ≤ 0xFFFD && n != 0xFEFF) || 0x10000 ≤ n

def isBreak (c : Char) : Bool :=
  c == '\r' || c == '\n' || c == '\u0085' || c == '\u2028' || c == '\u2029'

def isBlankZ : Option Char → Bool
  | none => true
  | some c => c == ' ' || c == '\t' || isBreak c || c == '\x00'

structure Scan where
  blockIndicators : Bool := false
  flowIndicators : Bool := false
  lineBreaks : Bool := false
  special : Bool := false
  leadingSpace : Bool := false
  leadingBreak : Bool := false
  trailingSpace : Bool := false
  trailingBreak : Bool := false
  breakSpace : Bool := false
  spaceBreak : Bool := false
  previousSpace : Bool := false
  previousBreak : Bool := false

def Scan.step (s : Scan) (n i : Nat) (c : Char) (preceded followed : Bool) : Scan :=
  let s :=
    if i == 0 then
      let s :=
        if "#,[]\x7b\x7d&*!|>'\"%@`".toList.contains c then
          { s with flowIndicators := true, blockIndicators := true }
        else s
      let s :=
        if c == '?' || c == ':' then
          { s with flowIndicators := true, blockIndicators := s.blockIndicators || followed }
        else s
      if c == '-' && followed then { s with flowIndicators := true, blockIndicators := true }
      else s
    else
      let s := if ",?[]\x7b\x7d".toList.contains c then { s with flowIndicators := true } else s
      let s :=
        if c == ':' then
          { s with flowIndicators := true, blockIndicators := s.blockIndicators || followed }
        else s
      if c == '#' && preceded then { s with flowIndicators := true, blockIndicators := true }
      else s
  let s := if !isPrintable c then { s with special := true } else s
  let s := if isBreak c then { s with lineBreaks := true } else s
  if c == ' ' then
    { s with
      leadingSpace := s.leadingSpace || i == 0
      trailingSpace := s.trailingSpace || i + 1 == n
      breakSpace := s.breakSpace || s.previousBreak
      previousSpace := true
      previousBreak := false }
  else if isBreak c then
    { s with
      leadingBreak := s.leadingBreak || i == 0
      trailingBreak := s.trailingBreak || i + 1 == n
      spaceBreak := s.spaceBreak || s.previousSpace
      previousSpace := false
      previousBreak := true }
  else { s with previousSpace := false, previousBreak := false }

def scanFrom (n : Nat) : Nat → Option Char → List Char → Scan → Scan
  | _, _, [], s => s
  | i, prev, c :: rest, s =>
    let preceded := i == 0 || isBlankZ prev
    scanFrom n (i + 1) (some c) rest (s.step n i c preceded (isBlankZ rest.head?))

/-- The styles a text allows. -/
def facts (text : String) : Facts :=
  let cs := text.toList
  if cs.isEmpty then
    { multiline := false, flowPlain := false, blockPlain := true, singleQuoted := true,
      block := false }
  else
    let start :=
      if cs.take 3 == ['-', '-', '-'] || cs.take 3 == ['.', '.', '.'] then
        ({ blockIndicators := true, flowIndicators := true } : Scan)
      else {}
    let s := scanFrom cs.length 0 none cs start
    let edges := s.leadingSpace || s.leadingBreak || s.trailingSpace || s.trailingBreak
    let unquotable := s.spaceBreak || s.special
    { multiline := s.lineBreaks
      flowPlain := !(edges || s.breakSpace || unquotable || s.lineBreaks || s.flowIndicators)
      blockPlain := !(edges || s.breakSpace || unquotable || s.lineBreaks || s.blockIndicators)
      singleQuoted := !(s.breakSpace || unquotable)
      block := !(s.trailingSpace || unquotable) }

def typedWords : List String :=
  ["~", "null", "Null", "NULL", "true", "True", "TRUE", "false", "False", "FALSE"]

def readsAsOther (s : String) : Bool :=
  let cs := s.toList
  s.isEmpty || typedWords.contains s ||
    (Number.readUnsignedInt? (Int.pow 2 128 - 1) cs).isSome ||
    (Number.readNegativeInt? (-(Int.pow 2 127)) (Int.pow 2 127 - 1) cs).isSome ||
    Number.leadingZeroDigits cs ||
    (Number.readFloat? s).isSome

def requested (s : String) : Style :=
  if s.toList.contains '\n' then .literal
  else if readsAsOther s then .single
  else .plain

/-- The style a scalar is written in, inline as a key or not. -/
def select (text : String) (wanted : Style) (simpleKey : Bool) : Style :=
  let f := facts text
  let st := if simpleKey && f.multiline then Style.double else wanted
  let st :=
    if st == .plain then
      if !f.blockPlain || (text.isEmpty && simpleKey) then Style.single else st
    else st
  let st := if st == .single && !f.singleQuoted then Style.double else st
  if st == .literal && (!f.block || simpleKey) then .double else st

structure Out where
  text : String := ""
  column : Nat := 0
  whitespace : Bool := true
  indention : Bool := true

namespace Out

def put (o : Out) (c : Char) : Out := { o with text := o.text.push c, column := o.column + 1 }

def putBreak (o : Out) : Out := { o with text := o.text.push '\n', column := 0 }

def writeBreak (o : Out) (c : Char) : Out := { o with text := o.text.push c, column := 0 }

def writeIndent (o : Out) (indent : Nat) : Out :=
  let o :=
    if !o.indention || o.column > indent || (o.column == indent && !o.whitespace) then o.putBreak
    else o
  let pad := indent - o.column
  { o with
    text := o.text ++ String.ofList (List.replicate pad ' ')
    column := o.column + pad
    whitespace := true
    indention := true }

def indicator (o : Out) (ind : String) (needWhitespace isWhitespace isIndention : Bool) : Out :=
  let o := if needWhitespace && !o.whitespace then o.put ' ' else o
  { o with
    text := o.text ++ ind
    column := o.column + ind.length
    whitespace := isWhitespace
    indention := o.indention && isIndention }

end Out

def hexDigit (n : Nat) : Char :=
  if n < 10 then Char.ofNat (48 + n) else Char.ofNat (55 + n)

def hexWidth : Nat → Nat → List Char
  | 0, _ => []
  | width + 1, n => hexWidth width (n / 16) ++ [hexDigit (n % 16)]

def doubleChar (c : Char) : List Char :=
  if isPrintable c && !isBreak c && c != '"' && c != '\\' then [c]
  else
    let n := c.toNat
    if n == 0x00 then ['\\', '0']
    else if n == 0x07 then ['\\', 'a']
    else if n == 0x08 then ['\\', 'b']
    else if n == 0x09 then ['\\', 't']
    else if n == 0x0A then ['\\', 'n']
    else if n == 0x0B then ['\\', 'v']
    else if n == 0x0C then ['\\', 'f']
    else if n == 0x0D then ['\\', 'r']
    else if n == 0x1B then ['\\', 'e']
    else if n == 0x22 then ['\\', '"']
    else if n == 0x5C then ['\\', '\\']
    else if n == 0x85 then ['\\', 'N']
    else if n == 0xA0 then ['\\', '_']
    else if n == 0x2028 then ['\\', 'L']
    else if n == 0x2029 then ['\\', 'P']
    else if n ≤ 0xFF then '\\' :: 'x' :: hexWidth 2 n
    else if n ≤ 0xFFFF then '\\' :: 'u' :: hexWidth 4 n
    else '\\' :: 'U' :: hexWidth 8 n

def writeDouble (o : Out) (text : String) : Out :=
  let o := o.indicator "\"" true false false
  let body := text.toList.flatMap doubleChar
  let o := { o with text := o.text ++ String.ofList body, column := o.column + body.length }
  let o := o.indicator "\"" false false false
  { o with whitespace := false, indention := false }

def writePlain (o : Out) (text : String) : Out :=
  let o := if !o.whitespace && !text.isEmpty then o.put ' ' else o
  { o with
    text := o.text ++ text
    column := o.column + text.length
    whitespace := false
    indention := false }

def writeLines (indent : Nat) (quoteDoubling : Bool) : Out → Bool → List Char → Out × Bool
  | o, breaks, [] => (o, breaks)
  | o, breaks, c :: rest =>
    if isBreak c then
      let o := if quoteDoubling && !breaks && c == '\n' then o.putBreak else o
      writeLines indent quoteDoubling ({ o.writeBreak c with indention := true }) true rest
    else
      let o := if breaks then o.writeIndent indent else o
      let o := if quoteDoubling && c == '\'' then o.put '\'' else o
      writeLines indent quoteDoubling ({ o.put c with indention := false }) false rest

def writeSingle (o : Out) (indent : Nat) (text : String) : Out :=
  let o := o.indicator "'" true false false
  let (o, breaks) := writeLines indent true o false text.toList
  let o := if breaks then o.writeIndent indent else o
  let o := o.indicator "'" false false false
  { o with whitespace := false, indention := false }

/-- The chomping indicator of a literal block: strip without a final break, keep with more than
one. -/
def chompHint (cs : List Char) : String :=
  match cs.reverse with
  | [] => "-"
  | last :: before =>
    if !isBreak last then "-"
    else
      match before with
      | [] => "+"
      | c :: _ => if isBreak c then "+" else ""

def writeLiteral (o : Out) (indent : Nat) (text : String) : Out :=
  let cs := text.toList
  let o := o.indicator "|" true false false
  let o :=
    match cs with
    | c :: _ => if c == ' ' || isBreak c then o.indicator "2" false false false else o
    | [] => o
  let hint := chompHint cs
  let o := if hint.isEmpty then o else o.indicator hint false false false
  let o := { o.putBreak with indention := true, whitespace := true }
  (writeLines indent false o true cs).1

def writeScalar (o : Out) (indent : Nat) (text : String) : Style → Out
  | .plain => writePlain o text
  | .single => writeSingle o indent text
  | .double => writeDouble o text
  | .literal => writeLiteral o indent text

def isSimpleKey (key : String) : Bool :=
  !(facts key).multiline && key.utf8ByteSize ≤ 128

def deeper (indent : Int) : Nat := if indent < 0 then 0 else indent.toNat + 2

mutual

def node (o : Out) (indent : Int) (inMapping simpleKey : Bool) : Value → Out
  | .string s => writeScalar o (deeper indent) s (select s (requested s) simpleKey)
  | .sequence [] => (o.indicator "[" true true false).indicator "]" false false false
  | .sequence (x :: xs) =>
    let inner : Nat :=
      if inMapping && !o.indention then (if indent < 0 then 0 else indent.toNat)
      else deeper indent
    items o inner (x :: xs)
  | .mapping [] => (o.indicator "\x7b" true true false).indicator "\x7d" false false false
  | .mapping (e :: es) => entries o (deeper indent) (e :: es)
  | .null => writePlain o "null"
  | .bool b => writePlain o (if b then "true" else "false")
  | .number n => writePlain o n.text

def items (o : Out) (indent : Nat) : List Value → Out
  | [] => o
  | x :: xs =>
    let o := (o.writeIndent indent).indicator "-" true false true
    items (node o indent false false x) indent xs

def entries (o : Out) (indent : Nat) : List (String × Value) → Out
  | [] => o
  | (k, v) :: es =>
    let o := o.writeIndent indent
    let o :=
      if isSimpleKey k then
        let o := writeScalar o (indent + 2) k (select k (requested k) true)
        node (o.indicator ":" false false false) indent true false v
      else
        let o := o.indicator "?" true false true
        let o := writeScalar o (indent + 2) k (select k (requested k) false)
        let o := (o.writeIndent indent).indicator ":" true false true
        node o indent true false v
    entries o indent es

end

def document (v : Value) : String :=
  let o := node {} (-1) false false v
  (o.writeIndent 0).text

def stringMap (entries : List (String × String)) : String :=
  document (.mapping (entries.map fun (k, v) => (k, .string v)))

end Emit

end Yaml

end SealedPillar
