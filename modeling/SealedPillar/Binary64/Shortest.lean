import SealedPillar.Binary64.Basic

/-!
The shortest decimal that reads back as a given double, and its text.

For a finite nonzero value `m * 2 ^ e` the values that round to it form an interval around it,
with its ends included exactly when `m` is even. `Binary64.shortest` returns the decimal with the
fewest significant digits inside that interval and, among those, the one nearest the value, an
exact tie going to the even last digit. The digits are found by dropping decimal places of the
interval's ends, in exact arithmetic, for as long as the interval still holds a number with fewer
digits.

`Binary64.shortestText` writes such digits the usual way for a finite double: positional with a
trailing `.0` while the decimal point stays within sixteen digits, `0.000ddd` down to four leading
zeros, and scientific notation (`1e30`, `1.5e-7`) beyond.
-/

namespace SealedPillar

namespace Binary64

def scaledFloor (a : Nat) (e2 q : Int) : Nat × Bool :=
  let num := a * Nat.pow 2 e2.toNat * Nat.pow 10 (-q).toNat
  let den := Nat.pow 2 (-e2).toNat * Nat.pow 10 q.toNat
  (num / den, num % den == 0)

structure DigitWindow where
  low : Nat
  mid : Nat
  high : Nat
  lowExact : Bool
  midExact : Bool
  lastDropped : Nat
  dropped : Nat

def DigitWindow.drop (w : DigitWindow) (trackLow : Bool) : DigitWindow :=
  { low := w.low / 10, mid := w.mid / 10, high := w.high / 10
    lowExact := if trackLow then w.lowExact && w.low % 10 == 0 else w.lowExact
    midExact := w.midExact && w.lastDropped == 0
    lastDropped := w.mid % 10
    dropped := w.dropped + 1 }

def DigitWindow.narrow : Nat → DigitWindow → DigitWindow
  | 0, w => w
  | fuel + 1, w => if w.high / 10 > w.low / 10 then narrow fuel (w.drop true) else w

def DigitWindow.trimLow : Nat → DigitWindow → DigitWindow
  | 0, w => w
  | fuel + 1, w => if w.low % 10 == 0 then trimLow fuel (w.drop false) else w

/-- Shortest digits and decimal exponent of a finite positive value `m * 2 ^ e`, whose lower
neighbour lies a full gap (`fullGapBelow`) or half a gap below. -/
def shortestOf (m : Nat) (e : Int) (fullGapBelow : Bool) : Nat × Int :=
  let inclusive := m % 2 == 0
  let e2 := e - 2
  let mv := 4 * m
  let mp := 4 * m + 2
  let mm := 4 * m - (if fullGapBelow then 2 else 1)
  let l2 : Int := (Nat.log2 mm : Int) + e2
  let q : Int := l2 * 3 / 10 - 22
  let (vr, vrExact) := scaledFloor mv e2 q
  let (vp, vpExact) := scaledFloor mp e2 q
  let (vm, vmExact) := scaledFloor mm e2 q
  let vp := if !inclusive && vpExact then vp - 1 else vp
  let w0 : DigitWindow :=
    { low := vm, mid := vr, high := vp, lowExact := inclusive && vmExact
      midExact := vrExact, lastDropped := 0, dropped := 0 }
  let w1 := DigitWindow.narrow 400 w0
  let w2 := if w1.lowExact then DigitWindow.trimLow 400 w1 else w1
  let last := if w2.midExact && w2.lastDropped == 5 && w2.mid % 2 == 0 then 4 else w2.lastDropped
  let roundUp := (w2.mid == w2.low && (!inclusive || !w2.lowExact)) || last ≥ 5
  (w2.mid + (if roundUp then 1 else 0), q + w2.dropped)

def shortest (x : Binary64) : Nat × Int :=
  shortestOf x.significand x.exponent (x.fraction != 0 || x.exponentField ≤ 1)

def natText (n : Nat) : String := String.ofList (Nat.toDigits 10 n)

def exponentText (k : Int) : String :=
  if k < 0 then "-" ++ natText k.natAbs else natText k.toNat

def layoutDigits (digits : Nat) (k : Int) : String :=
  let ds := natText digits
  let len : Int := ds.length
  let kk := len + k
  if 0 ≤ k && kk ≤ 16 then
    ds ++ String.ofList (List.replicate k.toNat '0') ++ ".0"
  else if 0 < kk && kk ≤ 16 then
    String.ofList (ds.toList.take kk.toNat) ++ "." ++ String.ofList (ds.toList.drop kk.toNat)
  else if -5 < kk && kk ≤ 0 then
    "0." ++ String.ofList (List.replicate (-kk).toNat '0') ++ ds
  else if len == 1 then
    ds ++ "e" ++ exponentText (kk - 1)
  else
    String.ofList (ds.toList.take 1) ++ "." ++ String.ofList (ds.toList.drop 1) ++ "e" ++
      exponentText (kk - 1)

/-- Shortest text of a finite double: `0.0`, `-1.5`, `1000.0`, `0.001`, `1e30`, `1.5e-7`. -/
def shortestText (x : Binary64) : String :=
  let sign := if x.negative then "-" else ""
  if x.isZero then sign ++ "0.0"
  else
    let (digits, k) := x.shortest
    sign ++ layoutDigits digits k

end Binary64

end SealedPillar
