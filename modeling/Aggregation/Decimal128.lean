import Aggregation.Text.Numeral

/-!
This module contains decimal floating point numbers in the decimal128 format, with up to 34 digits
and a power of ten.
-/

namespace Aggregation

inductive Decimal128 where
  | nan
  | infinite (negative : Bool)
  | finite (negative : Bool) (coefficient : Nat) (exponent : Int)
  deriving DecidableEq

namespace Decimal128

def precision : Nat := 34

def minExponent : Int := -6176

def maxExponent : Int := 6111

/--
From the highest bit on: the sign, 14 bits of the exponent, and the coefficient. A coefficient with
more digits than there can be counts as zero, which is always so behind an exponent that starts with
two ones and is written two bits later.
-/
def ofBits (n : Nat) : Decimal128 :=
  let negative := n.testBit 127
  let kind := n / Nat.pow 2 122 % 32
  if kind = 31 then
    .nan
  else if kind = 30 then
    .infinite negative
  else if 24 ≤ kind then
    .finite negative 0 (n / Nat.pow 2 111 % Nat.pow 2 14 + minExponent)
  else
    let coefficient := n % Nat.pow 2 113
    .finite negative (if coefficient < Nat.pow 10 precision then coefficient else 0)
      (n / Nat.pow 2 113 % Nat.pow 2 14 + minExponent)

/--
Sixteen bytes, the lowest one first.
-/
def ofBytes? (bytes : List UInt8) : Option Decimal128 :=
  if bytes.length = 16 then
    some (ofBits (bytes.foldr (fun b n => b.toNat + 256 * n) 0))
  else
    none

/--
The first digits of a number, if only zeros follow them.
-/
def shorten? (digits : List Char) (count : Nat) : Option (List Char) :=
  if (digits.drop count).all (· == '0') then some (digits.take count) else none

/--
The same number with no more digits than there can be, and with an exponent that there can be. Only
zeros are cut off or added at the end, and zero itself takes the nearest exponent.
-/
def fit? (digits : List Char) (exponent : Int) : Option (List Char × Int) := do
  let short ← shorten? digits precision
  let exponent := exponent + (digits.length - short.length : Nat)
  if short = ['0'] then
    return (short, max minExponent (min exponent maxExponent))
  else if exponent < minExponent then
    let missing := (minExponent - exponent).toNat
    guard (missing ≤ short.length)
    return (← shorten? short (short.length - missing), minExponent)
  else if maxExponent < exponent then
    let excess := (exponent - maxExponent).toNat
    guard (short.length + excess ≤ precision)
    return (short ++ List.replicate excess '0', maxExponent)
  else
    return (short, exponent)

/--
No digits at all are zero too.
-/
def withoutLeadingZeros (digits : List Char) : List Char :=
  match digits.dropWhile (· == '0') with
  | [] => ['0']
  | rest => rest

/--
Unsigned text: digits, optionally a point among them, optionally an exponent. The exponent has to
fit 128 bits, both as written and as that of the last digit.
-/
def finite? (negative : Bool) (cs : List Char) : Option Decimal128 := do
  let number := cs.takeWhile (· != 'e')
  let e ← match cs.dropWhile (· != 'e') with
    | [] => some 0
    | _ :: rest => Text.Numeral.integer? rest
  let whole := number.takeWhile (· != '.')
  let part := (number.dropWhile (· != '.')).drop 1
  guard (-Int.pow 2 127 ≤ e - part.length ∧ e < Int.pow 2 127)
  let (digits, exponent) ← fit? (withoutLeadingZeros (whole ++ part)) (e - part.length)
  return .finite negative (← Text.Numeral.natural? digits) exponent

/--
Text that stands for a number exactly, in any case and with an optional sign.
-/
def ofText? (s : String) : Option Decimal128 :=
  match s.toList.map Char.toLower with
  | '-' :: cs => unsigned? true cs
  | '+' :: cs => unsigned? false cs
  | cs => unsigned? false cs
where
  unsigned? (negative : Bool) (cs : List Char) : Option Decimal128 :=
    if cs = "nan".toList || cs = "snan".toList then
      some .nan
    else if cs = "inf".toList || cs = "infinity".toList then
      some (.infinite negative)
    else
      finite? negative cs

/--
All digits of the coefficient, positionally if the exponent is not positive and at most five zeros
follow the point.
-/
def magnitude (digits : List Char) (exponent : Int) : List Char :=
  let leading := exponent + digits.length - 1
  if 0 < exponent || leading < -6 then
    let mantissa := match digits with
      | c :: d :: ds => c :: '.' :: d :: ds
      | ds => ds
    let sign := if leading < 0 then ['-'] else ['+']
    mantissa ++ 'E' :: sign ++ Nat.toDigits 10 leading.natAbs
  else if exponent = 0 then
    digits
  else
    let places := exponent.natAbs
    let padded := List.replicate (places + 1 - digits.length) '0' ++ digits
    padded.take (padded.length - places) ++ '.' :: padded.drop (padded.length - places)

def text : Decimal128 → String
  | .nan => "NaN"
  | .infinite negative => sign negative ++ "Infinity"
  | .finite negative coefficient exponent =>
    sign negative ++ String.ofList (magnitude (Nat.toDigits 10 coefficient) exponent)
where
  sign (negative : Bool) : String :=
    if negative then "-" else ""

end Decimal128

end Aggregation
