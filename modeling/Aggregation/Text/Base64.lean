/-!
This module contains the base 64 notation of bytes.
-/

namespace Aggregation.Text.Base64

def alphabet : List Char :=
  "ABCDEFGHIJKLMNOPQRSTUVWXYZabcdefghijklmnopqrstuvwxyz0123456789+/".toList

def digit (n : Nat) : Char :=
  alphabet.getD (n % 64) '='

/--
Three bytes are four digits, and a shorter last group is filled up with `=`.
-/
def encode (bytes : List UInt8) : String :=
  String.ofList (go bytes)
where
  go : List UInt8 → List Char
    | a :: b :: c :: bytes =>
      let n := a.toNat * 65536 + b.toNat * 256 + c.toNat
      [digit (n / 262144), digit (n / 4096), digit (n / 64), digit n] ++ go bytes
    | [a, b] =>
      let n := a.toNat * 1024 + b.toNat * 4
      [digit (n / 4096), digit (n / 64), digit n, '=']
    | [a] =>
      let n := a.toNat * 16
      [digit (n / 64), digit n, '=', '=']
    | [] => []

def digit? (c : Char) : Option Nat :=
  alphabet.idxOf? c

/--
Only what `encode` writes is read: the last group is filled up, and its bits that belong to no byte
are zero.
-/
def decode? (s : String) : Option (List UInt8) :=
  go s.toList
where
  go : List Char → Option (List UInt8)
    | [a, b, '=', '='] => do
      let n := (← digit? a) * 64 + (← digit? b)
      guard (n % 16 = 0)
      return [.ofNat (n / 16)]
    | [a, b, c, '='] => do
      let n := (← digit? a) * 4096 + (← digit? b) * 64 + (← digit? c)
      guard (n % 4 = 0)
      return [.ofNat (n / 1024), .ofNat (n / 4)]
    | a :: b :: c :: d :: cs => do
      let n := (← digit? a) * 262144 + (← digit? b) * 4096 + (← digit? c) * 64 + (← digit? d)
      return .ofNat (n / 65536) :: .ofNat (n / 256) :: .ofNat n :: (← go cs)
    | [] => some []
    | _ => none

end Aggregation.Text.Base64
