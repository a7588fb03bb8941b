import Aggregation.Bson.Document

/-!
This module contains the reading of values as text, as whole numbers and as fields.
-/

namespace Aggregation

namespace Bson

/--
Generic binary data is text if it is valid UTF-8.
-/
def text? : Bson → Option String
  | .string s => some s
  | .binary 0 bytes => String.fromUTF8? ⟨bytes.toArray⟩
  | _ => none

def integer? : Bson → Option Int
  | .int32 n => some n.toInt
  | .int64 n => some n.toInt
  | _ => none

def int32? (v : Bson) : Option Int32 := do
  let n ← v.integer?
  guard (-Int.pow 2 31 ≤ n ∧ n < Int.pow 2 31)
  return .ofInt n

def uint32? (v : Bson) : Option UInt32 := do
  let n ← v.integer?
  guard (0 ≤ n ∧ n < Int.pow 2 32)
  return .ofNat n.toNat

def uint8? (v : Bson) : Option UInt8 := do
  let n ← v.integer?
  guard (0 ≤ n ∧ n < Int.pow 2 8)
  return .ofNat n.toNat

/--
The fields with the given names, from a document that has these fields only or from an array that
starts with them.
-/
def fields? (names : List String) : Bson → Option (List Bson)
  | .document entries => do
    guard (entries.all fun e => names.contains e.1)
    names.mapM (Document.get? entries)
  | .array items => if names.length ≤ items.length then some (items.take names.length) else none
  | _ => none

end Bson

end Aggregation
