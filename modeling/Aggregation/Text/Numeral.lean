/-!
This module contains the reading of whole numbers in decimal notation.
-/

namespace Aggregation.Text.Numeral

/--
The number that a run of digits stands for. No digits at all stand for zero.
-/
def digits? (cs : List Char) : Option Nat :=
  if cs.all Char.isDigit then
    some (cs.foldl (fun n c => 10 * n + (c.toNat - '0'.toNat)) 0)
  else
    none

/--
At least one digit, after an optional `+`.
-/
def natural? : List Char → Option Nat
  | '+' :: c :: cs => digits? (c :: cs)
  | c :: cs => digits? (c :: cs)
  | [] => none

/--
At least one digit, after an optional sign.
-/
def integer? : List Char → Option Int
  | '-' :: c :: cs => (digits? (c :: cs)).map fun n => -(n : Int)
  | cs => (natural? cs).map fun n => (n : Int)

end Aggregation.Text.Numeral
