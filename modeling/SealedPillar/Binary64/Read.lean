import SealedPillar.Binary64.Basic

/-!
Reading decimal text into the nearest double.

`Binary64.nearest neg digits exp10` is the double nearest to `digits * 10 ^ exp10`, a tie going
to the even significand. The quotient is taken in exact natural-number arithmetic; magnitudes
far outside the double range are decided by their digit count before any power is built.
`Binary64.ofDecimalText?` reads the decimal grammar: an optional sign, digits with an optional
point (digits on at least one side), and an optional exponent `e`/`E` with its own sign. The
words `inf`, `infinity` and `nan`, in any case, are read too.
-/

namespace SealedPillar

namespace Binary64

def decimalLength (n : Nat) : Nat := (Nat.toDigits 10 n).length

def scaledDiv (num den : Nat) (e : Int) : Nat × Nat :=
  let n := num * Nat.pow 2 (-e).toNat
  let d := den * Nat.pow 2 e.toNat
  (n / d, n % d)

def nearestRatio (neg : Bool) (num den : Nat) : Binary64 :=
  let guess : Int := (Nat.log2 num : Int) - (Nat.log2 den : Int) - 52
  let q0 := (scaledDiv num den guess).1
  let e0 : Int :=
    if q0 ≥ Nat.pow 2 53 then guess + 1 else if q0 < Nat.pow 2 52 then guess - 1 else guess
  let e : Int := if e0 < -1074 then -1074 else e0
  let d := den * Nat.pow 2 e.toNat
  let (q, r) := scaledDiv num den e
  let up := 2 * r > d || (2 * r == d && q % 2 == 1)
  let q := if up then q + 1 else q
  let (q, e) := if q == Nat.pow 2 53 then (Nat.pow 2 52, e + 1) else (q, e)
  if e > 971 then infinity neg
  else if q < Nat.pow 2 52 then make neg 0 q
  else make neg (e + 1075).toNat (q - Nat.pow 2 52)

/-- The double nearest to `digits * 10 ^ exp10`, ties to even. -/
def nearest (neg : Bool) (digits : Nat) (exp10 : Int) : Binary64 :=
  if digits == 0 then zero neg
  else
    let size : Int := exp10 + decimalLength digits
    if size > 311 then infinity neg
    else if size < -326 then zero neg
    else nearestRatio neg (digits * Nat.pow 10 exp10.toNat) (Nat.pow 10 (-exp10).toNat)

def spanDigits (cs : List Char) : List Char × List Char :=
  (cs.takeWhile Char.isDigit, cs.dropWhile Char.isDigit)

def digitsValue (ds : List Char) : Nat :=
  ds.foldl (fun acc c => acc * 10 + (c.toNat - '0'.toNat)) 0

def readExponent? (cs : List Char) : Option Int :=
  let (neg, rest) :=
    match cs with
    | '+' :: r => (false, r)
    | '-' :: r => (true, r)
    | r => (false, r)
  let (ds, tail) := spanDigits rest
  if ds.isEmpty || !tail.isEmpty then none
  else
    let v : Int := digitsValue ds
    some (if neg then -v else v)

def readUnsigned? (cs : List Char) : Option (Nat × Int) :=
  let (whole, rest) := spanDigits cs
  let (frac, rest) :=
    match rest with
    | '.' :: r => spanDigits r
    | r => ([], r)
  if whole.isEmpty && frac.isEmpty then none
  else
    let exp? : Option Int :=
      match rest with
      | [] => some 0
      | c :: r => if c == 'e' || c == 'E' then readExponent? r else none
    exp?.map fun e => (digitsValue (whole ++ frac), e - frac.length)

def equalsWordIgnoringCase (cs : List Char) (word : String) : Bool :=
  cs.map Char.toLower == word.toList

def ofDecimalText? (s : String) : Option Binary64 :=
  let (neg, body) :=
    match s.toList with
    | '+' :: r => (false, r)
    | '-' :: r => (true, r)
    | r => (false, r)
  if equalsWordIgnoringCase body "inf" || equalsWordIgnoringCase body "infinity" then
    some (infinity neg)
  else if equalsWordIgnoringCase body "nan" then some nan
  else (readUnsigned? body).map fun (d, e) => nearest neg d e

end Binary64

end SealedPillar
