import SealedPillar.Trace
import SealedPillar.Text.Pattern
import SealedPillar.Text.Alphanumeric
import SealedPillar.Text.Lines

/-!
Which events a log shows, and how a shown event is written.

A filter is a comma-separated list of directives; one invalid directive makes the whole filter
invalid. A directive is a level (a name in any case, or `0` for off to `5` for trace), or a
target (a code-area prefix), then optionally a bracketed span name with at most one field in
braces (`name` or `name=value`), then optionally `=level`; without a level it allows everything.

Directives without a span or field value are static: an event is judged by the most specific one
whose prefix its area starts with (longer prefixes first, a later directive replacing an equal
one), and shown when that directive's level allows the event's level. Directives with a span or
fields are dynamic: a span they name opens, for the events inside it, the highest level of those
whose field values all match the span's fields. A value that reads as a boolean or a number only
matches fields recorded as such, which span fields never are; any other value is a pattern the
field's text must match whole.

A line is the level, padded to five columns, then each shown span from the outermost as
`name{fields}:`, then the message and each field as `name=value`. With colors, the level is
colored, span names and braces are bold, separators dimmed and field names italic.
-/

namespace SealedPillar

inductive Verbosity where
  | off
  | upTo (l : Level)
  deriving DecidableEq, Inhabited

namespace Verbosity

def allows : Verbosity → Level → Bool
  | off, _ => false
  | upTo m, l => m.rank ≤ l.rank

def weight : Verbosity → Nat
  | off => 0
  | upTo l => 5 - l.rank

def max (a b : Verbosity) : Verbosity := if a.weight ≥ b.weight then a else b

/-- Reads a level: a name in any case, a number from 0 (off) to 5 (trace) with an optional `+`,
or nothing at all, which is off. -/
def ofText? (s : String) : Option Verbosity :=
  let digits := match s.toList with
    | '+' :: ds => ds
    | ds => ds
  let number :=
    if !digits.isEmpty && digits.all Char.isDigit then
      some (digits.foldl (fun n d => 10 * n + (d.toNat - 48)) 0)
    else none
  match number with
  | some 0 => some off
  | some 1 => some (upTo .error)
  | some 2 => some (upTo .warn)
  | some 3 => some (upTo .info)
  | some 4 => some (upTo .debug)
  | some 5 => some (upTo .trace)
  | _ =>
    match s.toLower with
    | "" | "off" => some off
    | "error" => some (upTo .error)
    | "warn" => some (upTo .warn)
    | "info" => some (upTo .info)
    | "debug" => some (upTo .debug)
    | "trace" => some (upTo .trace)
    | _ => none

end Verbosity

inductive ValueMatch where
  /-- A boolean or a number: only a field recorded as one matches, and span fields are text. -/
  | scalar (source : String)
  /-- A pattern the whole text of the field must match. -/
  | pattern (source : String) (p : Text.Pattern)
  deriving Inhabited

namespace ValueMatch

def source : ValueMatch → String
  | scalar s => s
  | pattern s _ => s

def readsAsFloat (s : String) : Bool :=
  let body := match s.toList with
    | '+' :: r | '-' :: r => r
    | r => r
  let word := (String.ofList body).toLower
  if word == "inf" || word == "infinity" || word == "nan" then true
  else
    let whole := body.takeWhile Char.isDigit
    let rest := body.drop whole.length
    let (fraction, rest) := match rest with
      | '.' :: more => (more.takeWhile Char.isDigit, more.drop (more.takeWhile Char.isDigit).length)
      | _ => ([], rest)
    let mantissa := !whole.isEmpty || !fraction.isEmpty
    match rest with
    | [] => mantissa
    | e :: more =>
      if e != 'e' && e != 'E' then false
      else
        let exp := match more with
          | '+' :: r | '-' :: r => r
          | r => r
        mantissa && !exp.isEmpty && exp.all Char.isDigit

def read? (s : String) : Option ValueMatch :=
  if s == "true" || s == "false" || readsAsFloat s then some (scalar s)
  else
    match Text.Pattern.read s with
    | .ok p => some (pattern s p)
    | .error () => none

def accepts (m : ValueMatch) (text : String) : Bool :=
  match m with
  | scalar _ => false
  | pattern _ p => p.matchesWhole text

end ValueMatch

structure Directive where
  target : Option String
  span : Option String
  /-- Field names the span or event must have, each with what its value must match, if any. -/
  fields : List (String × Option ValueMatch)
  verbosity : Verbosity
  deriving Inhabited

namespace Directive

def isDynamic (d : Directive) : Bool := d.span.isSome || !d.fields.isEmpty

def isStatic (d : Directive) : Bool := d.span.isNone && d.fields.all (·.2.isNone)

def targetAllows (d : Directive) (area : String) : Bool :=
  match d.target with
  | some t => area.startsWith t
  | none => true

def caresAboutSpan (d : Directive) (s : Span) : Bool :=
  d.targetAllows s.area &&
    (match d.span with
      | some n => n == s.name
      | none => true) &&
    d.fields.all fun (f, _) => (s.fields.lookup f).isSome

def caresAboutCallsite (d : Directive) (area : String) (eventFields : Option (List String)) :
    Bool :=
  d.targetAllows area &&
    match eventFields with
    | some names => d.fields.all fun (f, _) => names.contains f
    | none => true

def readField (text : String) : Option (String × Option ValueMatch) :=
  let pieces := text.splitOn "="
  let name := pieces.headD ""
  match pieces[1]? with
  | none => some (name, none)
  | some v => (ValueMatch.read? v).map fun m => (name, some m)

def bytesBetween (s : String) (a b : Nat) : Option String :=
  String.fromUTF8? (s.toUTF8.extract a b)

inductive Stage where
  /-- Nothing read yet. -/
  | start
  /-- A level or a target, begun at an offset. -/
  | levelOrTarget (start : Nat)
  /-- A span name inside brackets, begun at an offset. -/
  | span (start : Nat)
  /-- A field inside braces, begun at an offset. -/
  | field (start : Nat)
  /-- After the closing brace, where only the closing bracket may follow. -/
  | fields
  /-- After the closing bracket, where only `=` may follow. -/
  | afterSpan
  /-- A level after `=`, begun at an offset. -/
  | level (start : Nat)

def readChar (src : String) (d : Directive) (i : Nat) : Stage → Char → Option (Stage × Directive)
  | .start, '[' => some (.span (i + 1), d)
  | .start, c =>
    if c == '-' || c == ':' || c == '_' || Text.isAlphanumeric c then some (.levelOrTarget i, d)
    else none
  | .levelOrTarget s, '=' =>
    (bytesBetween src s i).map fun t => (.level (i + 1), { d with target := some t })
  | .levelOrTarget s, '[' =>
    (bytesBetween src s i).map fun t => (.span (i + 1), { d with target := some t })
  | .levelOrTarget s, _ => some (.levelOrTarget s, d)
  | .span s, ']' => (bytesBetween src s i).map fun n => (.afterSpan, { d with span := some n })
  | .span s, '\x7b' =>
    (bytesBetween src s i).map fun n =>
      (.field (i + 1), { d with span := if n.isEmpty then none else some n })
  | .span s, _ => some (.span s, d)
  | .field s, '\x7d' => do
    let text ← bytesBetween src s i
    if text.isEmpty then none
    let f ← readField text
    pure (.fields, { d with fields := d.fields ++ [f] })
  | .field s, _ => some (.field s, d)
  | .fields, ']' => some (.afterSpan, d)
  | .afterSpan, '=' => some (.level (i + 1), d)
  | .level s, _ => some (.level s, d)
  | _, _ => none

def finish (src : String) (d : Directive) : Stage → Option Directive
  | .levelOrTarget s => do
    let text ← bytesBetween src s src.utf8ByteSize
    match Verbosity.ofText? text with
    | some v => pure { d with verbosity := v }
    | none => pure { d with target := some text }
  | .level s => do
    let text ← bytesBetween src s src.utf8ByteSize
    if text.isEmpty then pure d
    else (Verbosity.ofText? text).map fun v => { d with verbosity := v }
  | .afterSpan => some d
  | _ => none

/-- Reads one directive. The characters read are those of the text without white space at
either end, but their offsets cut pieces from the text as given, so blanks at the start shift
every piece. -/
def parse (src : String) : Option Directive :=
  go (Text.trimList src.toList) 0 .start ⟨none, none, [], .upTo .trace⟩
where
  go : List Char → Nat → Stage → Directive → Option Directive
    | [], _, st, d => finish src d st
    | c :: rest, i, st, d =>
      (readChar src d i st c).bind fun (st', d') => go rest (i + c.utf8Size) st' d'

def targetWeight (d : Directive) : Nat :=
  match d.target with
  | some t => t.utf8ByteSize + 1
  | none => 0

def moreSpecific (a b : Directive) : Bool :=
  a.targetWeight > b.targetWeight ||
    (a.targetWeight == b.targetWeight && a.fields.length > b.fields.length)

def sameSubject (a b : Directive) : Bool :=
  a.target == b.target && a.fields.map (·.1) == b.fields.map (·.1)

def sameCondition (a b : Directive) : Bool :=
  a.target == b.target && a.span == b.span &&
    a.fields.map (fun (n, v) => (n, v.map ValueMatch.source)) ==
      b.fields.map (fun (n, v) => (n, v.map ValueMatch.source))

end Directive

structure LogFilter where
  statics : List Directive
  dynamics : List Directive
  staticMax : Verbosity
  dynamicMax : Verbosity
  deriving Inhabited

namespace LogFilter

def silent : LogFilter := ⟨[], [], .off, .off⟩

def insertStatic (d : Directive) : List Directive → List Directive
  | [] => [d]
  | e :: es =>
    if Directive.sameSubject d e then d :: es
    else if Directive.moreSpecific d e then d :: e :: es
    else e :: insertStatic d es

def insertDynamic (d : Directive) (ds : List Directive) : List Directive :=
  if ds.any (Directive.sameCondition d) then
    ds.map fun e => if Directive.sameCondition d e then d else e
  else ds ++ [d]

def maxVerbosity (ds : List Directive) : Verbosity :=
  ds.foldl (fun v d => v.max d.verbosity) .off

/-- Reads a filter; none when a directive is invalid. A directive naming fields but no values
counts both ways. -/
def parse (text : String) : Option LogFilter := do
  let ds ← ((text.splitOn ",").filter (!·.isEmpty)).mapM Directive.parse
  let dyn := ds.filter Directive.isDynamic
  let stat := ds.filter (!·.isDynamic) ++ dyn.filter Directive.isStatic
  pure ⟨stat.foldl (fun acc d => insertStatic d acc) [],
    dyn.foldl (fun acc d => insertDynamic d acc) [], maxVerbosity stat, maxVerbosity dyn⟩

/-- The most verbose level a callsite may have to be looked at at all: every level when a
dynamic directive matches field values, since any span may carry them. -/
def ceiling (f : LogFilter) : Verbosity :=
  if f.dynamics.any (·.fields.any (·.2.isSome)) then .upTo .trace
  else f.staticMax.max f.dynamicMax

def staticAllows (f : LogFilter) (area : String) (level : Level)
    (eventFields : Option (List String)) : Bool :=
  f.staticMax.allows level &&
    match f.statics.find? (·.caresAboutCallsite area eventFields) with
    | some d => d.verbosity.allows level
    | none => false

def spanScope (f : LogFilter) (s : Span) : Option Verbosity :=
  let caring := f.dynamics.filter (·.caresAboutSpan s)
  if caring.isEmpty then none
  else
    let matched := caring.filter fun d => d.fields.all fun (n, v) =>
      match v with
      | none => true
      | some m => (s.fields.lookup n).any fun got => m.accepts got.raw
    some (maxVerbosity matched)

def allowsEvent (f : LogFilter) (scopes : List Verbosity) (area : String) (level : Level)
    (names : List String) : Bool :=
  (f.dynamicMax.allows level && scopes.any (·.allows level)) ||
    f.staticAllows area level (some names)

/-- Whether a span is recorded and shown around the events inside it: below the ceiling, a span
that a dynamic directive judges always is, and others as events of its level would be. -/
def allowsSpan (f : LogFilter) (scopes : List Verbosity) (s : Span) : Bool :=
  f.ceiling.allows .info &&
    ((f.spanScope s).isSome || (f.dynamicMax.allows .info && scopes.any (·.allows .info)) ||
      f.staticAllows s.area .info none)

end LogFilter

namespace LogLine

def paint (ansi : Bool) (code text : String) : String :=
  if ansi then "\x1b[" ++ code ++ "m" ++ text ++ "\x1b[0m" else text

def levelText (ansi : Bool) : Level → String
  | .trace => paint ansi "35" "TRACE"
  | .debug => paint ansi "34" "DEBUG"
  | .info => paint ansi "32" " INFO"
  | .warn => paint ansi "33" " WARN"
  | .error => paint ansi "31" "ERROR"

def field (ansi : Bool) (f : String × String) : String :=
  paint ansi "3" f.1 ++ paint ansi "2" "=" ++ f.2

def spanText (ansi : Bool) (s : Span) : String :=
  paint ansi "1" s.name ++
    (if s.fields.isEmpty then ""
     else paint ansi "1" "\x7b" ++
       " ".intercalate (s.fields.map fun (n, v) => field ansi (n, v.printed)) ++
       paint ansi "1" "\x7d") ++
    paint ansi "2" ":"

def render (ansi : Bool) (spans : List Span) (level : Level) (message : String)
    (fields : List (String × String)) : String :=
  levelText ansi level ++ " " ++
    String.join (spans.map (spanText ansi)) ++ (if spans.isEmpty then "" else " ") ++
    message ++ String.join (fields.map fun f => " " ++ field ansi f) ++ "\n"

end LogLine

end SealedPillar
