import Aggregation.Double.Basic
import Aggregation.Text.Numeral

/-!
This module contains the conversion of decimal text to the nearest `Double`. A half way case goes to
the even neighbour.
-/

namespace Aggregation

/--
The number `coefficient * 10 ^ exponent`.
-/
structure Decimal where
  coefficient : Nat
  exponent : Int
  deriving DecidableEq

namespace Decimal

/--
The value as a fraction of two natural numbers.
-/
def ratio (d : Decimal) : Nat × Nat :=
  (d.coefficient * Nat.pow 10 d.exponent.toNat, Nat.pow 10 (-d.exponent).toNat)

/--
Unsigned text: digits, optionally a point and digits, optionally an exponent.
-/
def ofChars? (cs : List Char) : Option Decimal := do
  let isMark := fun c : Char => c == 'e' || c == 'E'
  let number := cs.takeWhile (!isMark ·)
  let e ← match cs.dropWhile (!isMark ·) with
    | [] => some 0
    | _ :: rest => Text.Numeral.integer? rest
  let whole := number.takeWhile (· != '.')
  let part := (number.dropWhile (· != '.')).drop 1
  guard (whole.length + part.length != 0)
  return ⟨← Text.Numeral.digits? (whole ++ part), e - part.length⟩

end Decimal

namespace Double

/--
The quotient rounded to the nearest natural number, a half to the even one.
-/
def roundQuotient (num den : Nat) : Nat :=
  let q := num / den
  let r := num % den
  if 2 * r < den || (2 * r == den && q % 2 == 0) then q else q + 1

/--
The binary exponent of the positive quotient `num / den`, that is `b` with
`2 ^ b ≤ num / den < 2 ^ (b + 1)`.
-/
def binaryExponent (num den : Nat) : Int :=
  let b : Int := num.log2 - den.log2
  if num * Nat.pow 2 (-b).toNat < den * Nat.pow 2 b.toNat then b - 1 else b

/--
The nearest `Double`. Its significand is the quotient counted in units of `2 ^ q`, where `q` is the
exponent that leaves 53 bits, or the least exponent there is. Numbers from `10 ^ 400` on are far
above the greatest finite one, and those below `10 ^ -400` are far below half of the least.
-/
def ofDecimal (d : Decimal) : Double :=
  if d.coefficient = 0 || d.exponent + d.coefficient.log2 + 1 < -400 then
    ⟨0⟩
  else if 400 < d.exponent then
    infinity
  else
    let (num, den) := d.ratio
    let q := max (binaryExponent num den - 52) (-1074)
    let m := roundQuotient (num * Nat.pow 2 (-q).toNat) (den * Nat.pow 2 q.toNat)
    let bits := (q + 1074).toNat * Nat.pow 2 52 + m
    if bits < infinity.bits.toNat then ⟨.ofNat bits⟩ else infinity

/--
A number may have a sign, and the words for what is no finite number may be in any case.
-/
def ofText? (s : String) : Option Double :=
  match s.toList with
  | '-' :: cs => (unsigned? cs).map neg
  | '+' :: cs => unsigned? cs
  | cs => unsigned? cs
where
  unsigned? (cs : List Char) : Option Double :=
    let word := cs.map Char.toLower
    if word = "nan".toList then
      some nan
    else if word = "inf".toList || word = "infinity".toList then
      some infinity
    else
      (Decimal.ofChars? cs).map ofDecimal

end Double

end Aggregation
