import SealedPillar.Binary64.Read
import SealedPillar.Binary64.Shortest

/-!
Numbers in pillar documents.

A number is an unsigned 64-bit integer, a negative integer that fits in 64 bits, or a double.
`Number.ofText?` decides which text is a number:

* integers in decimal, or in hexadecimal, octal or binary after a lowercase `0x`, `0o` or `0b`,
  with an optional sign; a `-` before the prefix negates, and a single `+` is allowed in front;
* a run of digits with a leading zero (`007`, `-01`) is not a number;
* an integer that fits in 128 bits but not in 64 is not a number either, while one too long for
  128 bits is read as a double;
* decimals in the usual notation, and `.inf`, `-.inf`, `.nan` in three spellings each, are
  doubles; a decimal too large for a double is not a number.

`Number.text` writes integers in decimal and doubles in their shortest form (`Binary64`), with
`.inf`, `-.inf` and `.nan` for the special values.
-/

namespace SealedPillar

inductive Number where
  /-- An integer in `[0, 2^64)`. -/
  | unsigned (n : Nat)
  /-- An integer in `[-2^63, 0)`. -/
  | negative (n : Int)
  | float (x : Binary64)
  deriving DecidableEq, Inhabited

namespace Number

def digitValue? (radix : Nat) (c : Char) : Option Nat :=
  let v :=
    if c.isDigit then c.toNat - '0'.toNat
    else if 'a' ≤ c && c ≤ 'z' then c.toNat - 'a'.toNat + 10
    else if 'A' ≤ c && c ≤ 'Z' then c.toNat - 'A'.toNat + 10
    else radix
  if v < radix then some v else none

def runValue? (radix : Nat) (cs : List Char) : Option Nat :=
  if cs.isEmpty then none
  else cs.foldlM (fun acc c => (digitValue? radix c).map fun d => acc * radix + d) 0

/-- Reads an integer the way a radix-parameterised integer reader of a bounded type does: one
optional sign (`-` only when `signed`), then digits; `none` when out of `[lo, hi]`. -/
def readRadix? (radix : Nat) (signed : Bool) (lo hi : Int) (cs : List Char) : Option Int :=
  let (neg, body) :=
    match cs with
    | '+' :: r => (false, r)
    | '-' :: r => (true, r)
    | r => (false, r)
  if neg && !signed then none
  else
    match runValue? radix body with
    | none => none
    | some v =>
      let i : Int := if neg then -(v : Int) else v
      if lo ≤ i && i ≤ hi then some i else none

/-- Digits with a leading zero, after at most one sign: text, not a number. -/
def leadingZeroDigits (cs : List Char) : Bool :=
  let body :=
    match cs with
    | '+' :: r => r
    | '-' :: r => r
    | r => r
  match body with
  | '0' :: rest@(_ :: _) => rest.all Char.isDigit
  | _ => false

def radixPrefixes : List (List Char × Nat) :=
  [(['0', 'x'], 16), (['0', 'o'], 8), (['0', 'b'], 2)]

def readUnsignedInt? (hi : Int) (cs : List Char) : Option Int :=
  let unpositive :=
    match cs with
    | '+' :: r => r
    | r => r
  let startsWithSign (r : List Char) : Bool := r.head? == some '+' || r.head? == some '-'
  let viaPrefix : Option (Option Int) :=
    radixPrefixes.foldl (fun found (pfx, radix) =>
      match found with
      | some r => some r
      | none =>
        if pfx.isPrefixOf unpositive then
          let rest := unpositive.drop 2
          if startsWithSign rest then some none
          else (readRadix? radix false 0 hi rest).map some
        else none) none
  match viaPrefix with
  | some r => r
  | none =>
    if startsWithSign unpositive || leadingZeroDigits cs then none
    else readRadix? 10 false 0 hi unpositive

def readNegativeInt? (lo hi : Int) (cs : List Char) : Option Int :=
  let viaPrefix : Option Int :=
    radixPrefixes.foldl (fun found (pfx, radix) =>
      match found with
      | some r => some r
      | none =>
        if ('-' :: pfx).isPrefixOf cs then readRadix? radix true lo hi ('-' :: cs.drop 3)
        else none) none
  match viaPrefix with
  | some r => some r
  | none => if leadingZeroDigits cs then none else readRadix? 10 true lo hi cs

def ofInt (i : Int) : Number :=
  if i < 0 then negative i else unsigned i.toNat

def readFloat? (s : String) : Option Binary64 :=
  let cs := s.toList
  let unpositive? : Option (List Char) :=
    match cs with
    | '+' :: r => if r.head? == some '+' || r.head? == some '-' then none else some r
    | r => some r
  match unpositive? with
  | none => none
  | some unpositive =>
    let u := String.ofList unpositive
    if u == ".inf" || u == ".Inf" || u == ".INF" then some (Binary64.infinity false)
    else if s == "-.inf" || s == "-.Inf" || s == "-.INF" then some (Binary64.infinity true)
    else if s == ".nan" || s == ".NaN" || s == ".NAN" then some Binary64.nan
    else
      match Binary64.ofDecimalText? u with
      | some x => if x.isFinite then some x else none
      | none => none

def ofText? (s : String) : Option Number :=
  let cs := s.toList
  match readUnsignedInt? (Int.pow 2 64 - 1) cs with
  | some i => some (ofInt i)
  | none =>
    match readNegativeInt? (-(Int.pow 2 63)) (Int.pow 2 63 - 1) cs with
    | some i => some (ofInt i)
    | none =>
      if (readUnsignedInt? (Int.pow 2 128 - 1) cs).isSome then none
      else if (readNegativeInt? (-(Int.pow 2 127)) (Int.pow 2 127 - 1) cs).isSome then none
      else if leadingZeroDigits cs then none
      else (readFloat? s).map float

def text : Number → String
  | unsigned n => Binary64.natText n
  | negative i => "-" ++ Binary64.natText i.natAbs
  | float x =>
    if x.isNaN then ".nan"
    else if x.isInfinite then (if x.negative then "-.inf" else ".inf")
    else x.shortestText

def toInt64? : Number → Option Int
  | unsigned n => if n < Nat.pow 2 63 then some n else none
  | negative i => some i
  | float _ => none

def same : Number → Number → Bool
  | unsigned a, unsigned b => a == b
  | negative a, negative b => a == b
  | float a, float b => a.sameValue b
  | _, _ => false

end Number

end SealedPillar
