import Aggregation.Double.Shortest

/-!
This module contains the two written forms of a `Double`.
-/

namespace Aggregation

namespace Double

/--
How a number is laid out: decimal exponents from `least` to `greatest` are written positionally and
with at least one decimal, all others with an exponent that `plus` goes before if it is positive.
-/
structure Layout where
  least : Int
  greatest : Int
  plus : String
  tie : Tie

/--
The form in which numbers are shown to people.
-/
def plainLayout : Layout := ⟨-4, 15, "", .up⟩

/--
The form of a number in JSON text.
-/
def jsonLayout : Layout := ⟨-5, 15, "+", .even⟩

def Layout.zeros (n : Nat) : String :=
  String.ofList (List.replicate n '0')

def Layout.magnitude (l : Layout) (d : Decimal) : String :=
  let digits := Nat.toDigits 10 d.coefficient
  let e : Int := d.exponent + digits.length - 1
  if l.least ≤ e && e ≤ l.greatest then
    if 0 ≤ d.exponent then
      String.ofList digits ++ zeros d.exponent.toNat ++ ".0"
    else if 0 ≤ e then
      String.ofList (digits.take (e.toNat + 1)) ++ "." ++ String.ofList (digits.drop (e.toNat + 1))
    else
      "0." ++ zeros (-e - 1).toNat ++ String.ofList digits
  else
    let mantissa := match digits with
      | [] => ""
      | [c] => c.toString
      | c :: cs => c.toString ++ "." ++ String.ofList cs
    let sign := if e < 0 then "-" else l.plus
    mantissa ++ "e" ++ sign ++ Nat.repr e.natAbs

def Layout.write (l : Layout) (x : Double) : String :=
  if x.isNaN then
    "NaN"
  else
    let sign := if x.isNegative then "-" else ""
    let text :=
      if x.isInfinite then "inf"
      else if x.isZero then "0.0"
      else l.magnitude (x.shortest l.tie)
    sign ++ text

end Double

end Aggregation
