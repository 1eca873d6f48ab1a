import SealedPillar.Toml.Tree

/-!
Reading TOML text into a tree.

The reader walks the text once. A failure is either soft, when an enclosing choice may try
something else from where it started, or hard, when it is the error of the whole read. Where a
failure happens and the names of what was expected there make its message: a value that starts
with no value's first character is an "invalid string" expecting a quote, a key followed by
neither `.` nor `=` expects those, and so on.

Tables are built as the reader goes (`Build`): a key-value pair goes into the open table, creating
dotted tables along a dotted key; a header closes the open table, putting it in place in the
document, and opens the one it names. Defining a key twice, reopening a table, or extending a
value that is not a table are errors at the start of the pair or header that does it.
-/

namespace SealedPillar

namespace Toml

/-- A failure at a character offset; a `hard` one is not retried by an enclosing choice. -/
structure Fault where
  offset : Nat
  message : String
  hard : Bool
  deriving Inhabited

abbrev ReadM := StateT Nat (Except Fault)

def duplicateKey (key : String) : Option (List String) → String
  | none => "duplicate key `" ++ key ++ "`"
  | some [] => "duplicate key `" ++ key ++ "` in document root"
  | some t => "duplicate key `" ++ key ++ "` in table `" ++ ".".intercalate t ++ "`"

def extendWrongType (path : List String) (actual : String) : String :=
  "dotted key `" ++ ".".intercalate path ++ "` attempted to extend non-table type (" ++
    actual ++ ")"

namespace Entries

def find? (es : Entries) (k : String) : Option (Span × Node) :=
  (List.find? (fun e => e.1 == k) es).map (·.2)

def replace (es : Entries) (k : String) (ks : Span) (n : Node) : Entries :=
  es.map fun e => if e.1 == k then (k, ks, n) else e

def remove (es : Entries) (k : String) : Entries := es.filter (·.1 != k)

end Entries

/-- Walks down a path of tables, making a missing one as an implicit table (dotted when `dotted`),
entering the last table of an array of tables, and applies `f` to the table reached, told whether
that table is dotted. `done` is the path walked so far. -/
def descend {α : Type} (dotted : Bool) (f : Bool → Entries → Except String (Entries × α)) :
    List String → List (String × Span) → Bool → Entries → Except String (Entries × α)
  | _, [], isDotted, es => f isDotted es
  | done, (k, ks) :: rest, _, es =>
    match Entries.find? es k with
    | none => do
      let (inner, a) ← descend dotted f (done ++ [k]) rest dotted []
      pure (es ++ [(k, ks, .table inner true dotted none)], a)
    | some (ks0, .table inner impl dot sp) =>
      if dotted && !impl then .error (duplicateKey k none)
      else do
        let (inner', a) ← descend dotted f (done ++ [k]) rest dot inner
        pure (Entries.replace es k ks0 (.table inner' impl dot sp), a)
    | some (ks0, .tables items sp) =>
      match items.getLast? with
      | some (.table inner impl dot tsp) => do
        let (inner', a) ← descend dotted f (done ++ [k]) rest dot inner
        let items' := items.dropLast ++ [.table inner' impl dot tsp]
        pure (Entries.replace es k ks0 (.tables items' sp), a)
      | _ => .error (extendWrongType (done ++ [k]) "array of tables")
    | some (_, v) => .error (extendWrongType (done ++ [k]) v.typeName)

structure Build where
  root : Entries
  current : Entries
  currentSpan : Option Span
  currentPath : List (String × Span)
  currentIsArray : Bool

namespace Build

def start : Build := ⟨[], [], none, [], false⟩

def keyval (b : Build) (path : List (String × Span)) (key : String × Span) (v : Node) :
    Except String Build := do
  let span :=
    match b.currentSpan, v.span? with
    | some s, some vs => some ⟨s.start, vs.stop⟩
    | s, _ => s
  let (es, _) ← descend true (fun isDotted es =>
      if isDotted == path.isEmpty then .error (duplicateKey key.1 none)
      else
        match Entries.find? es key.1 with
        | some _ => .error (duplicateKey key.1 (some (b.currentPath.map (·.1))))
        | none => .ok (es ++ [(key.1, key.2, v)], ())) [] path false b.current
  pure { b with current := es, currentSpan := span }

def close (b : Build) : Except String Build :=
  match b.currentPath.getLast? with
  | none => .ok { b with root := b.current, current := [] }
  | some (k, ks) =>
    let parents := b.currentPath.dropLast
    let dup := duplicateKey k (some (parents.map (·.1)))
    let t : Node := .table b.current false false b.currentSpan
    let place (_ : Bool) (es : Entries) : Except String (Entries × Unit) :=
      if b.currentIsArray then
        match Entries.find? es k with
        | none => .ok (es ++ [(k, ks, .tables [t] b.currentSpan)], ())
        | some (ks0, .tables items _) =>
          let items' := items ++ [t]
          let span :=
            match (items'.head?.bind Node.span?), (items'.getLast?.bind Node.span?) with
            | some first, some last => some ⟨first.start, last.stop⟩
            | _, _ => none
          .ok (Entries.replace es k ks0 (.tables items' span), ())
        | some _ => .error dup
      else
        match Entries.find? es k with
        | none => .ok (es ++ [(k, ks, t)], ())
        | some (ks0, .table _ true _ _) => .ok (Entries.replace es k ks0 t, ())
        | some _ => .error dup
    do
      let (root, _) ← descend false place [] parents false b.root
      pure { b with root := root, current := [], currentSpan := none, currentPath := [] }

def openTable (b : Build) (path : List (String × Span)) (span : Span) : Except String Build := do
  let b ← b.close
  match path.getLast? with
  | none => pure b
  | some (k, _) =>
    let parents := path.dropLast
    let (root, reopened) ← descend false (fun _ es =>
        match Entries.find? es k with
        | some (_, .table inner true false _) => .ok (Entries.remove es k, inner)
        | some _ => .error (duplicateKey k (some (parents.map (·.1))))
        | none => .ok (es, [])) [] parents false b.root
    pure ⟨root, reopened, some span, path, false⟩

def openArrayTable (b : Build) (path : List (String × Span)) (span : Span) :
    Except String Build := do
  let b ← b.close
  match path.getLast? with
  | none => pure b
  | some (k, ks) =>
    let parents := path.dropLast
    let (root, _) ← descend false (fun _ es =>
        match Entries.find? es k with
        | some (_, .tables _ _) => .ok (es, ())
        | some _ => .error (duplicateKey k (some (parents.map (·.1))))
        | none => .ok (es ++ [(k, ks, .tables [] none)], ())) [] parents false b.root
    pure ⟨root, [], some span, path, true⟩

end Build

section

variable (cs : Array Char)

def peekAt (k : Nat) : ReadM (Option Char) := do return cs[(← get) + k]?

def peek : ReadM (Option Char) := peekAt cs 0

def advance (n : Nat) : ReadM Unit := modify (· + n)

def failAt {α : Type} (pos : Nat) (message : String) (hard : Bool) : ReadM α :=
  throw ⟨pos, message, hard⟩

def failHere {α : Type} (message : String) (hard : Bool) : ReadM α := do
  throw ⟨← get, message, hard⟩

def attempt {α : Type} (x : ReadM α) : ReadM (Option α) :=
  tryCatch (some <$> x) fun f => if f.hard then throw f else pure none

def commit {α : Type} (x : ReadM α) : ReadM α :=
  tryCatch x fun f => throw { f with hard := true }

def startsWith (s : List Char) : ReadM Bool := do
  let i ← get
  return (List.range s.length).all fun k => cs[i + k]? == s[k]?

def skipWhile (p : Char → Bool) : ReadM Unit := do
  for _ in [0:cs.size] do
    match ← peek cs with
    | some c => if p c then advance 1 else return
    | none => return

def takeWhile (p : Char → Bool) : ReadM String := do
  let start ← get
  skipWhile cs p
  let stop ← get
  return String.ofList ((cs.toList.drop start).take (stop - start))

def isBlank (c : Char) : Bool := c == ' ' || c == '\t'

def ws : ReadM Unit := skipWhile cs isBlank

def isNonEol (c : Char) : Bool := c == '\t' || (' ' ≤ c && c ≤ '~') || c.toNat ≥ 0x80

def comment : ReadM Unit := do
  advance 1
  skipWhile cs isNonEol

def newline : ReadM Bool := do
  match ← peek cs with
  | some '\n' => advance 1; return true
  | some '\r' =>
    if (← peekAt cs 1) == some '\n' then advance 2; return true else return false
  | _ => return false

def lineEnding : ReadM Bool := do
  if (← newline cs) then return true
  return (← peek cs).isNone

def lineTrailing (message : String) : ReadM Unit := do
  ws cs
  if (← peek cs) == some '#' then comment cs
  if !(← lineEnding cs) then failHere message true

def wsCommentNewline : ReadM Unit := do
  for _ in [0:cs.size + 1] do
    match ← peek cs with
    | some ' ' => advance 1
    | some '\t' => advance 1
    | some '#' =>
      let save ← get
      comment cs
      if !(← newline cs) then set save; return
    | _ => if !(← newline cs) then return

def isBasicUnescaped (c : Char) : Bool :=
  c == ' ' || c == '\t' || c == '!' || ('#' ≤ c && c ≤ '[') || (']' ≤ c && c ≤ '~') ||
    c.toNat ≥ 0x80

def isLiteralChar (c : Char) : Bool :=
  c == '\t' || (' ' ≤ c && c ≤ '&') || ('(' ≤ c && c ≤ '~') || c.toNat ≥ 0x80

def hexValue (c : Char) : Option Nat :=
  if '0' ≤ c && c ≤ '9' then some (c.toNat - '0'.toNat)
  else if 'a' ≤ c && c ≤ 'f' then some (c.toNat - 'a'.toNat + 10)
  else if 'A' ≤ c && c ≤ 'F' then some (c.toNat - 'A'.toNat + 10)
  else none

def hexEscape (n : Nat) (label : String) : ReadM Char := do
  let start ← get
  let digits := (List.range n).map fun k => cs[start + k]?.bind hexValue
  if digits.all Option.isSome then
    let v := digits.foldl (fun acc d => acc * 16 + d.getD 0) 0
    if v < 0xD800 || (0xDFFF < v && v ≤ 0x10FFFF) then
      advance n
      return Char.ofNat v
    -- the digits are there but name no character
    failAt start ("invalid " ++ label ++ "\nvalue is out of range") true
  failAt start ("invalid " ++ label) true

def escapeMessage : String :=
  "invalid escape sequence\nexpected `b`, `f`, `n`, `r`, `t`, `u`, `U`, `\\`, `\"`"

def escape (backslash : Nat) : ReadM Char := do
  match ← peek cs with
  | none => failAt backslash "" false
  | some c =>
    advance 1
    match c with
    | 'b' => return '\x08'
    | 'f' => return '\x0C'
    | 'n' => return '\n'
    | 'r' => return '\r'
    | 't' => return '\t'
    | '\\' => return '\\'
    | '"' => return '"'
    | 'u' => hexEscape cs 4 "unicode 4-digit hex code"
    | 'U' => hexEscape cs 8 "unicode 8-digit hex code"
    | _ => failHere escapeMessage true

def basicString : ReadM String := do
  advance 1
  let mut acc : Array Char := #[]
  for _ in [0:cs.size + 1] do
    let here ← get
    match ← peek cs with
    | some '"' => advance 1; return String.ofList acc.toList
    | some '\\' =>
      advance 1
      match ← attempt (escape cs here) with
      | some c => acc := acc.push c
      | none => failAt here "invalid basic string" true
    | some c =>
      if isBasicUnescaped c then advance 1; acc := acc.push c
      else failHere "invalid basic string" true
    | none => failHere "invalid basic string" true
  failHere "invalid basic string" true

def literalString : ReadM String := do
  advance 1
  let s ← takeWhile cs isLiteralChar
  if (← peek cs) == some '\'' then advance 1; return s
  failHere "invalid literal string" true

def runOf (c : Char) : ReadM Nat := do
  let i ← get
  return ((List.range 6).takeWhile fun k => cs[i + k]? == some c).length

def multilineBasicString : ReadM String := do
  advance 3
  let _ ← newline cs
  let mut acc : Array Char := #[]
  for _ in [0:cs.size + 1] do
    let here ← get
    let quotes ← runOf cs '"'
    if quotes ≥ 3 then
      let extra := min (quotes - 3) 2
      advance (3 + extra)
      return String.ofList (acc.toList ++ List.replicate extra '"')
    if (← newline cs) then acc := acc.push '\n'
    else
      match ← peek cs with
      | some '"' => advance 1; acc := acc.push '"'
      | some '\\' =>
        advance 1
        let save ← get
        ws cs
        if (← newline cs) then
          for _ in [0:cs.size] do
            match ← peek cs with
            | some ' ' => advance 1
            | some '\t' => advance 1
            | _ => if !(← newline cs) then break
        else
          set save
          match ← attempt (escape cs here) with
          | some c => acc := acc.push c
          | none => failAt here "invalid multiline basic string" true
      | some c =>
        if isBasicUnescaped c then advance 1; acc := acc.push c
        else failHere "invalid multiline basic string" true
      | none => failHere "invalid multiline basic string" true
  failHere "invalid multiline basic string" true

def multilineLiteralString : ReadM String := do
  advance 3
  let _ ← newline cs
  let mut acc : Array Char := #[]
  for _ in [0:cs.size + 1] do
    let quotes ← runOf cs '\''
    if quotes ≥ 3 then
      let extra := min (quotes - 3) 2
      advance (3 + extra)
      return String.ofList (acc.toList ++ List.replicate extra '\'')
    if (← newline cs) then acc := acc.push '\n'
    else
      match ← peek cs with
      | some '\'' => advance 1; acc := acc.push '\''
      | some c =>
        if isLiteralChar c then advance 1; acc := acc.push c
        else failHere "invalid multiline literal string" true
      | none => failHere "invalid multiline literal string" true
  failHere "invalid multiline literal string" true

def string : ReadM String := do
  if (← startsWith cs ['"', '"', '"']) then multilineBasicString cs
  else if (← peek cs) == some '"' then basicString cs
  else if (← startsWith cs ['\'', '\'', '\'']) then multilineLiteralString cs
  else literalString cs

def isKeyChar (c : Char) : Bool :=
  (c.toNat < 128 && c.isAlphanum) || c == '-' || c == '_'

def simpleKey : ReadM (String × Span) := do
  let start ← get
  match ← peek cs with
  | some '"' =>
    let s ← basicString cs
    return (s, ⟨start, ← get⟩)
  | some '\'' =>
    let s ← literalString cs
    return (s, ⟨start, ← get⟩)
  | _ =>
    let s ← takeWhile cs isKeyChar
    if s.isEmpty then failHere "invalid key" false
    return (s, ⟨start, ← get⟩)

def key : ReadM (List (String × Span)) := do
  ws cs
  let first ← simpleKey cs
  ws cs
  let mut parts := [first]
  for _ in [0:cs.size] do
    if (← peek cs) != some '.' then return parts
    let save ← get
    advance 1
    match ← attempt (do ws cs; let k ← simpleKey cs; ws cs; pure k) with
    | some k => parts := parts ++ [k]
    | none => set save; return parts
  return parts

def isDigit (c : Char) : Bool := '0' ≤ c && c ≤ '9'

def digitsAfterFirst (isRadix : Char → Bool) (message : String) : ReadM Unit := do
  for _ in [0:cs.size] do
    match ← peek cs with
    | some c =>
      if isRadix c then advance 1
      else if c == '_' then
        advance 1
        match ← peek cs with
        | some d => if isRadix d then advance 1 else failHere message true
        | none => failHere message true
      else return
    | none => return

def decInt : ReadM Unit := do
  match ← peek cs with
  | some '+' => advance 1
  | some '-' => advance 1
  | _ => pure ()
  match ← peek cs with
  | some '0' => advance 1
  | some c =>
    if isDigit c then
      advance 1
      digitsAfterFirst cs isDigit "invalid integer\nexpected digit"
    else failHere "invalid integer" false
  | none => failHere "invalid integer" false

def zeroPrefixable (first afterUnderscore : String) : ReadM Unit := do
  match ← peek cs with
  | some c => if isDigit c then advance 1 else failHere first true
  | none => failHere first true
  digitsAfterFirst cs isDigit afterUnderscore

def textBetween (a b : Nat) : String := String.ofList ((cs.toList.drop a).take (b - a))

def floatLabel : String := "invalid floating-point number"

def decimalFloat : ReadM Binary64 := do
  let start ← get
  decInt cs
  match ← peek cs with
  | some 'e' => exponent
  | some 'E' => exponent
  | some '.' =>
    advance 1
    -- a fraction's digits are expected both as the fraction and as the digits after `_`
    zeroPrefixable cs (floatLabel ++ "\nexpected digit") (floatLabel ++ "\nexpected digit, digit")
    if (← peek cs) == some 'e' || (← peek cs) == some 'E' then exponent
  | _ => failAt start floatLabel false
  let text := (textBetween cs start (← get)).toList.filter (· != '_')
  match Binary64.ofDecimalText? (String.ofList text) with
  -- a value too large for a float is refused; one too far below zero is negative infinity
  | some x => if x.isInfinite && !x.negative then failAt start floatLabel true else return x
  | none => failAt start floatLabel true
where
  exponent : ReadM Unit := do
    advance 1
    match ← peek cs with
    | some '+' => advance 1
    | some '-' => advance 1
    | _ => pure ()
    zeroPrefixable cs floatLabel (floatLabel ++ "\nexpected digit")

def specialFloat : ReadM Binary64 := do
  let neg ←
    match ← peek cs with
    | some '+' => do advance 1; pure false
    | some '-' => do advance 1; pure true
    | _ => pure false
  if (← startsWith cs ['i', 'n', 'f']) then advance 3; return Binary64.infinity neg
  if (← startsWith cs ['n', 'a', 'n']) then advance 3; return Binary64.nan
  failHere floatLabel false

def radixInt (radix : Nat) (label : String) : ReadM Int := do
  let prefixStart ← get
  advance 2
  let start ← get
  let isRadix (c : Char) : Bool := match hexValue c with
    | some v => v < radix
    | none => false
  match ← peek cs with
  | some c => if isRadix c then advance 1 else failHere ("invalid " ++ label) true
  | none => failHere ("invalid " ++ label) true
  digitsAfterFirst cs isRadix ("invalid " ++ label ++ "\nexpected digit")
  let digits := (textBetween cs start (← get)).toList.filter (· != '_')
  let v := digits.foldl (fun acc c => acc * radix + (hexValue c).getD 0) 0
  if v < Nat.pow 2 63 then return v
  failAt prefixStart "number too large to fit in target type" true

def decimalInt : ReadM Int := do
  let start ← get
  decInt cs
  let text := (textBetween cs start (← get)).toList.filter (· != '_')
  let (neg, digits) :=
    match text with
    | '-' :: r => (true, r)
    | '+' :: r => (false, r)
    | r => (false, r)
  let v := digits.foldl (fun acc c => acc * 10 + (c.toNat - '0'.toNat)) 0
  if neg then
    if v ≤ Nat.pow 2 63 then return -(v : Int)
    else failAt start "number too small to fit in target type" true
  else if v < Nat.pow 2 63 then return v
  else failAt start "number too large to fit in target type" true

def twoDigits : ReadM Nat := do
  match ← peek cs, ← peekAt cs 1 with
  | some a, some b =>
    if isDigit a && isDigit b then
      advance 2
      return 10 * (a.toNat - '0'.toNat) + (b.toNat - '0'.toNat)
    else failHere "" false
  | _, _ => failHere "" false

def rangeCause : String := "\nvalue is out of range"

/-- Reads a two-digit field from `least` to `most`. Missing digits fail where they should stand,
a value out of range at the field's start with the cause added; `hard` failures end the read. -/
def dateField (least most : Nat) (message : String) (hard : Bool) : ReadM Nat := do
  let start ← get
  let v ← match ← attempt (twoDigits cs) with
    | some v => pure v
    | none => failHere message hard
  if least ≤ v && v ≤ most then return v
  failAt start (message ++ rangeCause) hard

def expectChar (c : Char) (message : String) (hard : Bool) : ReadM Unit := do
  if (← peek cs) == some c then advance 1 else failHere message hard

def daysIn (year month : Nat) : Nat :=
  if month == 2 then
    if year % 4 == 0 && (year % 100 != 0 || year % 400 == 0) then 29 else 28
  else if month == 4 || month == 6 || month == 9 || month == 11 then 30
  else 31

def dateMessage : String := "invalid date-time"

def date : ReadM Unit := do
  let start ← get
  let d (k : Nat) : Bool := match cs[start + k]? with
    | some c => isDigit c
    | none => false
  if !(d 0 && d 1 && d 2 && d 3 && cs[start + 4]? == some '-') then failHere "" false
  let year := (textBetween cs start (start + 4)).foldl (fun n c => 10 * n + (c.toNat - '0'.toNat)) 0
  advance 5
  let month ← dateField cs 1 12 dateMessage true
  expectChar cs '-' dateMessage true
  let dayStart ← get
  let day ← dateField cs 1 31 dateMessage true
  if day > daysIn year month then failAt dayStart (dateMessage ++ rangeCause) true

/-- Reads a time of day `hh:mm:ss` with an optional fraction of a second. An hour and a colon
commit to a time, whose later failures carry `message`; before that the failure is soft. -/
def partialTime (message : String) : ReadM Unit := do
  let _ ← dateField cs 0 23 message false
  expectChar cs ':' message false
  let _ ← dateField cs 0 59 message true
  expectChar cs ':' message true
  let _ ← dateField cs 0 60 message true
  -- a point without a digit after it is not part of the time
  if (← peek cs) == some '.' && ((← peekAt cs 1).map isDigit).getD false then
    advance 1
    skipWhile cs isDigit

def offsetMessage : String := "invalid time offset"

def timeOffset : ReadM Unit := do
  match ← peek cs with
  | some 'Z' | some 'z' => advance 1
  | some '+' | some '-' =>
    advance 1
    let _ ← dateField cs 0 23 offsetMessage true
    expectChar cs ':' offsetMessage true
    let _ ← dateField cs 0 59 offsetMessage true
  | _ => pure ()

def datetime : ReadM String := do
  let start ← get
  match ← attempt (date cs) with
  | some () =>
    let _ ← attempt (do
      match ← peek cs with
      | some 'T' | some 't' | some ' ' => advance 1
      | _ => failHere "" false
      partialTime cs dateMessage
      timeOffset cs)
    return textBetween cs start (← get)
  | none =>
    partialTime cs "invalid time"
    return textBetween cs start (← get)

/-- Reads a number or a date, trying a date, then a float, then an integer. -/
def number : ReadM Node := do
  let start ← get
  if let some t ← attempt (datetime cs) then return .datetime t ⟨start, ← get⟩
  if let some x ← attempt (decimalFloat cs) then return .float x ⟨start, ← get⟩
  set start
  if let some x ← attempt (specialFloat cs) then return .float x ⟨start, ← get⟩
  set start
  let i ← match ← peek cs, ← peekAt cs 1 with
    | some '0', some 'x' => radixInt cs 16 "hexadecimal integer"
    | some '0', some 'o' => radixInt cs 8 "octal integer"
    | some '0', some 'b' => radixInt cs 2 "binary integer"
    | _, _ => decimalInt cs
  return .integer i ⟨start, ← get⟩

def stringMessage : String := "invalid string\nexpected `\"`, `'`"

def word (w : List Char) (v : Node) : ReadM Node := do
  if (← startsWith cs w) then advance w.length; return v
  failHere stringMessage false

def inlineEntries (pairs : List (List (String × Span) × (String × Span) × Node)) :
    Except String Entries :=
  pairs.foldlM (fun es (path, k, v) => do
    let (es', _) ← descendInline path es fun isDotted inner =>
      if isDotted == path.isEmpty then .error (duplicateKey k.1 none)
      else
        match Entries.find? inner k.1 with
        | some _ => .error (duplicateKey k.1 none)
        | none => .ok (inner ++ [(k.1, k.2, v)], ())
    pure es') []
where
  descendInline (path : List (String × Span)) (es : Entries)
      (f : Bool → Entries → Except String (Entries × Unit)) :
      Except String (Entries × Unit) :=
    go [] path false es f
  go (done : List String) : List (String × Span) → Bool → Entries →
      (Bool → Entries → Except String (Entries × Unit)) → Except String (Entries × Unit)
    | [], isDotted, es, f => f isDotted es
    | (k, ks) :: rest, _, es, f =>
      match Entries.find? es k with
      | none => do
        let (inner, a) ← go (done ++ [k]) rest true [] f
        pure (es ++ [(k, ks, .inline inner true none)], a)
      | some (ks0, .inline inner dot sp) => do
        let (inner', a) ← go (done ++ [k]) rest dot inner f
        pure (Entries.replace es k ks0 (.inline inner' dot sp), a)
      | some (_, v) => .error (extendWrongType (done ++ [k]) v.typeName)

def value : Nat → ReadM Node
  | 0 => failHere "recursion limit exceeded" true
  | depth + 1 => do
    let start ← get
    match ← peek cs with
    | some '"' =>
      let s ← string cs
      return .string s ⟨start, ← get⟩
    | some '\'' =>
      let s ← string cs
      return .string s ⟨start, ← get⟩
    | some '[' =>
      advance 1
      let item : ReadM Node := do
        wsCommentNewline cs
        let v ← value depth
        wsCommentNewline cs
        pure v
      let mut items : Array Node := #[]
      match ← attempt item with
      | none => pure ()
      | some v =>
        items := items.push v
        for _ in [0:cs.size] do
          if (← peek cs) != some ',' then break
          let save ← get
          advance 1
          match ← attempt item with
          | some v => items := items.push v
          | none => set save; break
      if (← peek cs) == some ',' then advance 1
      wsCommentNewline cs
      if (← peek cs) != some ']' then failHere "invalid array\nexpected `]`" true
      advance 1
      return .array items.toList ⟨start, ← get⟩
    | some '{' =>
      advance 1
      let afterBrace ← get
      let pair : ReadM (List (String × Span) × (String × Span) × Node) := do
        let path ← key cs
        if (← peek cs) != some '=' then failHere "expected `.`, `=`" true
        advance 1
        ws cs
        let v ← commit (value depth)
        ws cs
        match path.getLast? with
        | some k => pure (path.dropLast, k, v)
        | none => failHere "invalid key" true
      let mut pairs : Array (List (String × Span) × (String × Span) × Node) := #[]
      match ← attempt pair with
      | none => pure ()
      | some p =>
        pairs := pairs.push p
        for _ in [0:cs.size] do
          if (← peek cs) != some ',' then break
          let save ← get
          advance 1
          match ← attempt pair with
          | some p => pairs := pairs.push p
          | none => set save; break
      ws cs
      let entries ← match inlineEntries pairs.toList with
        | .ok es => pure es
        | .error m => failAt afterBrace m true
      if (← peek cs) != some '\x7d' then failHere "invalid inline table\nexpected `\x7d`" true
      advance 1
      return .inline entries false (some ⟨start, ← get⟩)
    | some 't' => word cs ['t', 'r', 'u', 'e'] (.boolean true ⟨start, start + 4⟩)
    | some 'f' => word cs ['f', 'a', 'l', 's', 'e'] (.boolean false ⟨start, start + 5⟩)
    | some 'i' =>
      if (← startsWith cs ['i', 'n', 'f']) then
        advance 3
        return .float (Binary64.infinity false) ⟨start, start + 3⟩
      failHere stringMessage false
    | some 'n' =>
      if (← startsWith cs ['n', 'a', 'n']) then
        advance 3
        return .float Binary64.nan ⟨start, start + 3⟩
      failHere stringMessage false
    | some '_' => failHere "invalid integer\nexpected leading digit" false
    | some '.' => failHere (floatLabel ++ "\nexpected leading digit") false
    | some c =>
      if c == '+' || c == '-' || isDigit c then number cs
      else failHere stringMessage false
    | none => failHere stringMessage false

def depthLimit : Nat := 80

def document : ReadM Build := do
  if (← peek cs) == some '\uFEFF' then advance 1
  ws cs
  let mut b := Build.start
  for _ in [0:cs.size + 1] do
    let start ← get
    match ← peek cs with
    | none => break
    | some '#' =>
      comment cs
      if !(← lineEnding cs) then failHere "" true
    | some '\n' => advance 1
    | some '\r' => if !(← newline cs) then break
    | some '[' =>
      let isArray ← startsWith cs ['[', '[']
      advance (if isArray then 2 else 1)
      let path ← commit (key cs)
      if isArray then
        if (← startsWith cs [']', ']']) then advance 2
        else failHere "invalid table header\nexpected `.`, `]`" true
      else
        if (← peek cs) == some ']' then advance 1
        else failHere "invalid table header\nexpected `.`, `]`" true
      let span : Span := ⟨start, ← get⟩
      lineTrailing cs "invalid table header\nexpected newline, `#`"
      let opened := if isArray then b.openArrayTable path span else b.openTable path span
      match opened with
      | .ok b' => b := b'
      | .error m => failAt start ("invalid table header\n" ++ m) true
    | some _ =>
      let path ← commit (key cs)
      if (← peek cs) != some '=' then failHere "expected `.`, `=`" true
      advance 1
      ws cs
      let v ← commit (value cs depthLimit)
      lineTrailing cs "expected newline, `#`"
      match path.getLast? with
      | none => failAt start "invalid key" true
      | some k =>
        match b.keyval path.dropLast k v with
        | .ok b' => b := b'
        | .error m => failAt start m true
    ws cs
  if (← peek cs).isSome then failHere "" true
  return b

end

def parse (text : String) : Except TomlError Entries :=
  let cs := text.toList.toArray
  match (document cs).run 0 with
  | .error f =>
    -- a reading error marks the character it stopped at, none at the end of the text
    .error ⟨f.message, some ⟨f.offset, min (f.offset + 1) cs.size⟩, []⟩
  | .ok (b, _) =>
    match b.close with
    | .ok b' => .ok b'.root
    | .error m => .error ⟨m, none, []⟩

end Toml

end SealedPillar
