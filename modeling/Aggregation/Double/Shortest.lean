import Aggregation.Double.Reading

/-!
This module contains the shortest decimals that read back as a given `Double`.
-/

namespace Aggregation

/--
Which of two equally near decimals is taken.
-/
inductive Tie where
  | even
  | up
  deriving DecidableEq

namespace Double

/--
The reals that round to `significand * 2 ^ exponent`, in quarters of a unit of the significand.
Below a power of two the gap to the next number is half as wide. The ends belong to the interval iff the
significand is even.
-/
structure Interval where
  low : Nat
  middle : Nat
  high : Nat
  closed : Bool

def interval (x : Double) : Interval where
  low := 4 * x.significand - if x.fraction = 0 && 1 < x.biasedExponent then 1 else 2
  middle := 4 * x.significand
  high := 4 * x.significand + 2
  closed := x.significand % 2 == 0

/--
The multiple of `10 ^ k` that is nearest to `x` among those that read back as `x`.
-/
def multiple? (tie : Tie) (x : Double) (k : Int) : Option Nat :=
  let i := x.interval
  let e := x.exponent - 2
  let num := Nat.pow 2 e.toNat * Nat.pow 10 (-k).toNat
  let den := Nat.pow 2 (-e).toNat * Nat.pow 10 k.toNat
  let readsBack := fun n : Nat =>
    if i.closed then
      i.low * num ≤ n * den && n * den ≤ i.high * num
    else
      i.low * num < n * den && n * den < i.high * num
  let below := i.middle * num / den
  let twice := 2 * (i.middle * num % den)
  let preferBelow := twice < den || (twice == den && tie == .even && below % 2 == 0)
  let candidates := if preferBelow then [below, below + 1] else [below + 1, below]
  candidates.find? fun n => n != 0 && readsBack n

/--
The decimal with the fewest digits that reads back as the magnitude of the finite, non zero `x`, and
the nearest one among those. The fewest digits go with the largest power of ten, and twenty powers
below the first one that exceeds `x` are more than the seventeen digits that always suffice.
-/
def shortest (tie : Tie) (x : Double) : Decimal :=
  let top := Int.fdiv ((x.significand.log2 + x.exponent + 2) * 30103) 100000
  let hit := (List.range 20).findSome? fun (i : Nat) =>
    (x.multiple? tie (top - i)).map fun n => ⟨n, top - i⟩
  hit.getD ⟨0, 0⟩

end Double

end Aggregation
