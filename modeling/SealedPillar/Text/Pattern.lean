/-!
Patterns that a whole text must match, written in the usual regular-expression notation.

`Pattern.read` reads the notation: literal characters, `.` (any character but a line feed),
bracketed classes with ranges, negation and the ASCII classes such as `[:alpha:]`, escapes of the
notation's own characters and of control characters (`\n`, `\t`, `\x41`, `\u{e9}`), groups
(plain, `(?:…)` and named), alternation, the repetitions `*`, `+`, `?`, `{n}`, `{n,}` and
`{n,m}` (each may be made lazy with a trailing `?`, which does not change what matches), and the
anchors `^`, `$`, `\A` and `\z`. Without Unicode tables to draw on, it refuses case-insensitive
matching and the Unicode-aware escapes `\d`, `\s`, `\w`, `\p{…}` and word boundaries, and it
refuses every malformed pattern.

A text matches when the whole of it is in the pattern's language. Matching takes derivatives:
after each character the pattern becomes what the rest of the text must match
(`Pattern.step`), and the text matches when what is left accepts the empty text
(`Pattern.acceptsEmpty`).
-/

namespace SealedPillar

namespace Text

/-- A set of characters: the code points in some ranges, or all those outside them. -/
structure CharSet where
  ranges : List (Nat × Nat)
  negated : Bool
  deriving DecidableEq, Inhabited

namespace CharSet

def contains (k : CharSet) (c : Char) : Bool :=
  (k.ranges.any fun (lo, hi) => lo ≤ c.toNat && c.toNat ≤ hi) != k.negated

def single (c : Char) : CharSet := ⟨[(c.toNat, c.toNat)], false⟩

def notLineFeed : CharSet := ⟨[(10, 10)], true⟩

def ascii? : String → Option (List (Nat × Nat))
  | "alnum" => some [(48, 57), (65, 90), (97, 122)]
  | "alpha" => some [(65, 90), (97, 122)]
  | "ascii" => some [(0, 127)]
  | "blank" => some [(9, 9), (32, 32)]
  | "cntrl" => some [(0, 31), (127, 127)]
  | "digit" => some [(48, 57)]
  | "graph" => some [(33, 126)]
  | "lower" => some [(97, 122)]
  | "print" => some [(32, 126)]
  | "punct" => some [(33, 47), (58, 64), (91, 96), (123, 126)]
  | "space" => some [(9, 13), (32, 32)]
  | "upper" => some [(65, 90)]
  | "word" => some [(48, 57), (65, 90), (95, 95), (97, 122)]
  | "xdigit" => some [(48, 57), (65, 70), (97, 102)]
  | _ => none

end CharSet

inductive Pattern where
  /-- Matches nothing. -/
  | never
  /-- Matches the empty text. -/
  | empty
  /-- The empty text, at the start of the whole text only. -/
  | textStart
  /-- The empty text, at the end of the whole text only. -/
  | textEnd
  /-- One character of a set. -/
  | one (k : CharSet)
  | seq (a b : Pattern)
  | alt (a b : Pattern)
  /-- At least `least` and at most `most` (unbounded when none) repetitions. -/
  | rep (a : Pattern) (least : Nat) (most : Option Nat)
  deriving DecidableEq, Inhabited

namespace Pattern

def cat (a b : Pattern) : Pattern :=
  match a, b with
  | never, _ => never
  | _, never => never
  | empty, b => b
  | a, empty => a
  | a, b => seq a b

def union (a b : Pattern) : Pattern :=
  match a, b with
  | never, b => b
  | a, never => a
  | a, b => if a = b then a else alt a b

def acceptsEmpty (atStart atEnd : Bool) : Pattern → Bool
  | never => false
  | empty => true
  | textStart => atStart
  | textEnd => atEnd
  | one _ => false
  | seq a b => acceptsEmpty atStart atEnd a && acceptsEmpty atStart atEnd b
  | alt a b => acceptsEmpty atStart atEnd a || acceptsEmpty atStart atEnd b
  | rep a least _ => least == 0 || acceptsEmpty atStart atEnd a

/-- What the rest of a text must match once the pattern has read `c`, which stands at the start
of the text or not. -/
def step (atStart : Bool) (c : Char) : Pattern → Pattern
  | never | empty | textStart | textEnd => never
  | one k => if k.contains c then empty else never
  | seq a b =>
    union (cat (step atStart c a) b)
      (if acceptsEmpty atStart false a then step atStart c b else never)
  | alt a b => union (step atStart c a) (step atStart c b)
  | rep a least most =>
    if most == some 0 then never
    else cat (step atStart c a) (rep a (least - 1) (most.map (· - 1)))

def matchesWhole (p : Pattern) (s : String) : Bool := go p true s.toList
where
  go (p : Pattern) (atStart : Bool) : List Char → Bool
    | [] => p.acceptsEmpty atStart true
    | c :: cs => go (p.step atStart c) false cs

def metaChars : List Char := "\\.+*?()|[]\x7b\x7d^$#&-~".toList

def hexValue? (ds : List Char) : Option Nat :=
  ds.foldl (fun acc d => acc.bind fun n =>
    if '0' ≤ d && d ≤ '9' then some (16 * n + (d.toNat - 48))
    else if 'a' ≤ d && d ≤ 'f' then some (16 * n + (d.toNat - 87))
    else if 'A' ≤ d && d ≤ 'F' then some (16 * n + (d.toNat - 55))
    else none) (some 0)

def scalar? (n : Nat) : Option Char :=
  if n < 0xD800 || (0xDFFF < n && n ≤ 0x10FFFF) then some (Char.ofNat n) else none

def hexEscape (width : Nat) (cs : List Char) : Except Unit (Char × List Char) :=
  match cs with
  | '\x7b' :: rest =>
    let ds := rest.takeWhile (· != '\x7d')
    match rest.drop ds.length, ds.isEmpty with
    | '\x7d' :: after, false =>
      match (hexValue? ds).bind scalar? with
      | some c => .ok (c, after)
      | none => .error ()
    | _, _ => .error ()
  | _ =>
    let ds := cs.take width
    if ds.length < width then .error ()
    else
      match (hexValue? ds).bind scalar? with
      | some c => .ok (c, cs.drop width)
      | none => .error ()

def escapedChar (cs : List Char) : Except Unit (Char × List Char) :=
  match cs with
  | [] => .error ()
  | c :: rest =>
    if metaChars.contains c then .ok (c, rest)
    else if c == 'n' then .ok ('\n', rest)
    else if c == 't' then .ok ('\t', rest)
    else if c == 'r' then .ok ('\r', rest)
    else if c == 'f' then .ok ('\x0c', rest)
    else if c == 'v' then .ok ('\x0b', rest)
    else if c == 'a' then .ok ('\x07', rest)
    else if c == 'x' then hexEscape 2 rest
    else if c == 'u' then hexEscape 4 rest
    else if c == 'U' then hexEscape 8 rest
    else if c.toNat < 128 && !c.isAlphanum && !c.isWhitespace && c != '<' && c != '>' then
      .ok (c, rest)
    else .error ()

inductive ClassItem where
  | char (c : Char)
  | named (ranges : List (Nat × Nat))

def classItem (cs : List Char) : Except Unit (ClassItem × List Char) :=
  match cs with
  | '[' :: ':' :: rest =>
    let name := rest.takeWhile (· != ':')
    match rest.drop name.length with
    | ':' :: ']' :: after =>
      match CharSet.ascii? (String.ofList name) with
      | some rs => .ok (.named rs, after)
      | none => .error ()
    | _ => .ok (.char '[', ':' :: rest)
  | '\\' :: rest => do
    let (c, after) ← escapedChar rest
    pure (.char c, after)
  | c :: rest => .ok (.char c, rest)
  | [] => .error ()

def classBody : Nat → List Char → List (Nat × Nat) → Except Unit (List (Nat × Nat) × List Char)
  | 0, _, _ => .error ()
  | fuel + 1, cs, acc =>
    match cs with
    | [] => .error ()
    | ']' :: rest => .ok (acc, rest)
    | _ => do
      let (item, rest) ← classItem cs
      match item, rest with
      | .named rs, _ => classBody fuel rest (acc ++ rs)
      | .char lo, '-' :: more@(d :: _) =>
        if d == ']' then classBody fuel ('-' :: more) (acc ++ [(lo.toNat, lo.toNat)])
        else do
          let (hiItem, after) ← classItem more
          match hiItem with
          | .char hi =>
            if hi.toNat < lo.toNat then .error ()
            else classBody fuel after (acc ++ [(lo.toNat, hi.toNat)])
          | .named _ => .error ()
      | .char c, _ => classBody fuel rest (acc ++ [(c.toNat, c.toNat)])

def charClass (cs : List Char) : Except Unit (CharSet × List Char) :=
  let (negated, cs) := match cs with
    | '^' :: rest => (true, rest)
    | _ => (false, cs)
  let (first, cs) := match cs with
    | ']' :: rest => ([(93, 93)], rest)
    | _ => ([], cs)
  match classBody (cs.length + 1) cs first with
  | .ok (ranges, rest) => .ok (⟨ranges, negated⟩, rest)
  | .error () => .error ()

def groupOpening (cs : List Char) : Except Unit (Bool × List Char) :=
  match cs with
  | '?' :: ':' :: rest => .ok (true, rest)
  | '?' :: 'P' :: '<' :: rest | '?' :: '<' :: rest =>
    let name := rest.takeWhile (· != '>')
    match rest.drop name.length with
    | '>' :: after => if name.isEmpty then .error () else .ok (true, after)
    | _ => .error ()
  | '?' :: rest =>
    let flags := rest.takeWhile fun c => "imsUuxR-".toList.contains c
    let setOn := flags.takeWhile (· != '-')
    if setOn.contains 'i' then .error ()
    else
      match rest.drop flags.length with
      | ':' :: after => .ok (true, after)
      | ')' :: after => if flags.isEmpty then .error () else .ok (false, after)
      | _ => .error ()
  | _ => .ok (true, cs)

structure Frame where
  alternatives : List Pattern
  items : List Pattern
  deriving Inhabited

namespace Frame

def start : Frame := ⟨[], []⟩

def sequence (items : List Pattern) : Pattern := items.foldr cat empty

def close (f : Frame) : Pattern :=
  match f.alternatives ++ [sequence f.items] with
  | [] => empty
  | a :: rest => rest.foldl (fun acc b => alt acc b) a

def add (f : Frame) (p : Pattern) : Frame := { f with items := f.items ++ [p] }

def repeatLast (f : Frame) (least : Nat) (most : Option Nat) : Option Frame :=
  match f.items.getLast? with
  | some p => some { f with items := f.items.dropLast ++ [rep p least most] }
  | none => none

end Frame

def count? (ds : List Char) : Option Nat :=
  if ds.isEmpty || ds.length > 9 then none
  else some (ds.foldl (fun n d => 10 * n + (d.toNat - 48)) 0)

def counted (cs : List Char) : Except Unit (Nat × Option Nat × List Char) :=
  let low := cs.takeWhile Char.isDigit
  match count? low, cs.drop low.length with
  | some n, '\x7d' :: rest => .ok (n, some n, rest)
  | some n, ',' :: more =>
    let high := more.takeWhile Char.isDigit
    match more.drop high.length with
    | '\x7d' :: rest =>
      if high.isEmpty then .ok (n, none, rest)
      else
        match count? high with
        | some m => if m < n then .error () else .ok (n, some m, rest)
        | none => .error ()
    | _ => .error ()
  | _, _ => .error ()

def dropLazy : List Char → List Char
  | '?' :: rest => rest
  | cs => cs

def readFrom : Nat → List Char → List Frame → Except Unit Pattern
  | 0, _, _ => .error ()
  | fuel + 1, cs, frames =>
    match cs, frames with
    | [], [f] => .ok f.close
    | [], _ => .error ()
    | _, [] => .error ()
    | c :: rest, f :: outer =>
      let again (rest : List Char) (f : Frame) : Except Unit Pattern :=
        readFrom fuel rest (f :: outer)
      let repeated (least : Nat) (most : Option Nat) (rest : List Char) : Except Unit Pattern :=
        match f.repeatLast least most with
        | some g => again (dropLazy rest) g
        | none => .error ()
      if c == '(' then
        match groupOpening rest with
        | .ok (true, after) => readFrom fuel after (Frame.start :: f :: outer)
        | .ok (false, after) => again after f
        | .error () => .error ()
      else if c == ')' then
        match outer with
        | g :: outer' => readFrom fuel rest (g.add f.close :: outer')
        | [] => .error ()
      else if c == '|' then
        again rest ⟨f.alternatives ++ [Frame.sequence f.items], []⟩
      else if c == '*' then repeated 0 none rest
      else if c == '+' then repeated 1 none rest
      else if c == '?' then repeated 0 (some 1) rest
      else if c == '\x7b' then
        match counted rest with
        | .ok (least, most, after) => repeated least most after
        | .error () => .error ()
      else if c == '[' then
        match charClass rest with
        | .ok (k, after) => again after (f.add (one k))
        | .error () => .error ()
      else if c == '\\' then
        match rest with
        | 'A' :: after => again after (f.add textStart)
        | 'z' :: after => again after (f.add textEnd)
        | _ =>
          match escapedChar rest with
          | .ok (e, after) => again after (f.add (one (CharSet.single e)))
          | .error () => .error ()
      else if c == '.' then again rest (f.add (one CharSet.notLineFeed))
      else if c == '^' then again rest (f.add textStart)
      else if c == '$' then again rest (f.add textEnd)
      else again rest (f.add (one (CharSet.single c)))

/-- Reads a pattern written in the notation; an error when it is malformed or asks for what
needs Unicode tables. -/
def read (text : String) : Except Unit Pattern :=
  readFrom (text.length + 1) text.toList [Frame.start]

end Pattern

end Text

end SealedPillar
