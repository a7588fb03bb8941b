/-!
This module contains 64 bit floating point numbers in the binary64 format. A number is kept as its
bit pattern, so everything about it can be computed and reasoned about with natural numbers.
-/

namespace Aggregation

structure Double where
  bits : UInt64
  deriving DecidableEq, Inhabited

namespace Double

def isNegative (x : Double) : Bool :=
  Nat.pow 2 63 ≤ x.bits.toNat

def biasedExponent (x : Double) : Nat :=
  x.bits.toNat / Nat.pow 2 52 % Nat.pow 2 11

def fraction (x : Double) : Nat :=
  x.bits.toNat % Nat.pow 2 52

def isNaN (x : Double) : Bool :=
  x.biasedExponent == 2047 && x.fraction != 0

def isInfinite (x : Double) : Bool :=
  x.biasedExponent == 2047 && x.fraction == 0

def isZero (x : Double) : Bool :=
  x.biasedExponent == 0 && x.fraction == 0

/--
The magnitude of a finite number is `x.significand * 2 ^ x.exponent`. The least exponent is shared
by the normal numbers next to zero and the subnormal ones.
-/
def significand (x : Double) : Nat :=
  if x.biasedExponent = 0 then x.fraction else Nat.pow 2 52 + x.fraction

@[inherit_doc significand]
def exponent (x : Double) : Int :=
  (max x.biasedExponent 1 : Nat) - 1075

/--
Numeric equality: `NaN` differs from itself and the two zeros are equal.
-/
def sameNumber (x y : Double) : Bool :=
  !x.isNaN && !y.isNaN && (x.bits == y.bits || (x.isZero && y.isZero))

def nan : Double := ⟨0x7ff8000000000000⟩

def infinity : Double := ⟨0x7ff0000000000000⟩

def neg (x : Double) : Double := ⟨x.bits ^^^ 0x8000000000000000⟩

end Double

end Aggregation
