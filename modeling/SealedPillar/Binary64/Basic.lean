/-!
Double-precision values as their 64-bit patterns.

A value is a sign bit, an 11-bit exponent field and a 52-bit fraction. Reading and printing
both work on the decoded form `significand * 2 ^ exponent`, which is exact for every finite
value, so no step here goes through hardware floating point.
-/

namespace SealedPillar

/-- A double-precision value, kept as its bit pattern. -/
structure Binary64 where
  bits : UInt64
  deriving DecidableEq, Inhabited

namespace Binary64

def exponentField (x : Binary64) : Nat := ((x.bits >>> 52) &&& 0x7FF).toNat

def fraction (x : Binary64) : Nat := (x.bits &&& 0xFFFFFFFFFFFFF).toNat

def negative (x : Binary64) : Bool := (x.bits >>> 63) == 1

def make (neg : Bool) (field frac : Nat) : Binary64 :=
  ⟨UInt64.ofNat
    ((if neg then Nat.pow 2 63 else 0) + field % 2048 * Nat.pow 2 52 + frac % Nat.pow 2 52)⟩

def infinity (neg : Bool) : Binary64 := make neg 2047 0

def nan : Binary64 := make false 2047 (Nat.pow 2 51)

def zero (neg : Bool) : Binary64 := make neg 0 0

def isNaN (x : Binary64) : Bool := x.exponentField == 2047 && x.fraction != 0

def isInfinite (x : Binary64) : Bool := x.exponentField == 2047 && x.fraction == 0

def isFinite (x : Binary64) : Bool := x.exponentField != 2047

def isZero (x : Binary64) : Bool := x.exponentField == 0 && x.fraction == 0

def significand (x : Binary64) : Nat :=
  if x.exponentField == 0 then x.fraction else x.fraction + Nat.pow 2 52

def exponent (x : Binary64) : Int :=
  if x.exponentField == 0 then -1074 else (x.exponentField : Int) - 1075

def sameValue (x y : Binary64) : Bool :=
  if x.isNaN || y.isNaN then x.isNaN && y.isNaN
  else x.bits == y.bits || (x.isZero && y.isZero)

end Binary64

end SealedPillar
