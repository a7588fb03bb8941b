import Aggregation.Bson.Decode
import Aggregation.Calendar.Reading
import Aggregation.Decimal128
import Aggregation.Double.Reading
import Aggregation.Text.Base64
import Aggregation.Text.Hex
import Aggregation.Text.Uuid

/-!
This module contains the unwrapping of values. A document with a key that names a type, such as
`$oid`, is a wrapper: what stands under that key spells out a value of the type.
-/

namespace Aggregation

namespace Bson

/--
The last millisecond of the year 9999. Later dates are read as this one.
-/
def latestDateTime : Int64 := 253402300799999

/--
A regular expression holds no NUL, and its options are sorted.
-/
def regex? (pattern options : String) : Option Bson :=
  if pattern.toList.contains '\x00' || options.toList.contains '\x00' then
    none
  else
    some (.regex pattern (String.ofList (options.toList.mergeSort fun a b => a ≤ b)))

/--
Code together with its scope, which has to be a document.
-/
def withScope? (text : String) : Bson → Option Bson
  | .document scope => some (.codeWithScope text scope)
  | _ => none

namespace Wrapper

def objectIdOfBytes? (bytes : List UInt8) : Option Bson :=
  if bytes.length = 12 then some (.objectId bytes) else none

def objectId? : Bson → Option Bson
  | .string s => Text.Hex.decode? s >>= objectIdOfBytes?
  | .binary 0 bytes => objectIdOfBytes? bytes
  | _ => none

def symbol? (v : Bson) : Option Bson :=
  v.text?.map .symbol

/--
A number in decimal notation in the range of signed numbers with `width` bits.
-/
def integer? (width : Nat) (v : Bson) : Option Int := do
  let n ← Text.Numeral.integer? (← v.text?).toList
  guard (-Int.pow 2 (width - 1) ≤ n ∧ n < Int.pow 2 (width - 1))
  return n

def int32? (v : Bson) : Option Bson :=
  (integer? 32 v).map fun n => .int32 (.ofInt n)

def int64? (v : Bson) : Option Bson :=
  (integer? 64 v).map fun n => .int64 (.ofInt n)

def double? (v : Bson) : Option Bson := do
  return .double (← Double.ofText? (← v.text?))

def decimal? (v : Bson) : Option Bson := do
  return .decimal128 (← Decimal128.ofText? (← v.text?)).text

/--
The bytes themselves, the bytes of text, or an array of bytes.
-/
def bytes? : Bson → Option (List UInt8)
  | .binary 0 bytes => some bytes
  | .string s => some s.toUTF8.toList
  | .array items => items.mapM uint8?
  | _ => none

def decimalOfBytes? (v : Bson) : Option Bson := do
  return .decimal128 (← Decimal128.ofBytes? (← bytes? v)).text

def binary? (v : Bson) : Option Bson := do
  let [base64, subtype] ← v.fields? ["base64", "subType"] | none
  let bytes ← Text.Base64.decode? (← base64.text?)
  let [subtype] ← Text.Hex.decode? (← subtype.text?) | none
  return .binary subtype bytes

def uuid? (v : Bson) : Option Bson := do
  return .binary 4 (← Text.Uuid.decode? (← v.text?))

def timestamp? (v : Bson) : Option Bson := do
  let [time, increment] ← v.fields? ["t", "i"] | none
  return .timestamp (← time.uint32?) (← increment.uint32?)

def regularExpression? (v : Bson) : Option Bson := do
  let [pattern, options] ← v.fields? ["pattern", "options"] | none
  regex? (← pattern.text?) (← options.text?)

/--
Milliseconds, or the text of a point in time, of which parts of a millisecond are dropped towards
the year 1970.
-/
def dateTime? : Bson → Option Bson
  | .int32 n => some (.dateTime (.ofInt n.toInt))
  | .int64 n => some (.dateTime n)
  | .document [("$numberLong", text)] => (integer? 64 text).map fun n => .dateTime (.ofInt n)
  | .array [text] => (integer? 64 text).map fun n => .dateTime (.ofInt n)
  | v => do
    let t ← Instant.ofText? (← v.text?)
    return .dateTime (.ofInt (t.nanoseconds.tdiv 1000000))

def undefined? : Bson → Option Bson
  | .bool true => some .undefined
  | _ => none

def one? (key v : Bson) : Option Bson :=
  if v.uint8? = some 1 then some key else none

/--
How the content of a wrapper with this key is read, if the key names a type. A pointer into another
collection has no value to stand for.
-/
def content? (key : String) : Option (Bson → Option Bson) :=
  match key with
  | "$oid" => some objectId?
  | "$symbol" => some symbol?
  | "$numberInt" => some int32?
  | "$numberLong" => some int64?
  | "$numberDouble" => some double?
  | "$numberDecimal" => some decimal?
  | "$numberDecimalBytes" => some decimalOfBytes?
  | "$binary" => some binary?
  | "$uuid" => some uuid?
  | "$timestamp" => some timestamp?
  | "$regularExpression" => some regularExpression?
  | "$dbPointer" => some fun _ => none
  | "$date" => some dateTime?
  | "$undefined" => some undefined?
  | "$minKey" => some (one? .minKey)
  | "$maxKey" => some (one? .maxKey)
  | _ => none

end Wrapper

mutual

/--
The value with all wrappers in it replaced by what they stand for.
-/
def unwrap? : Bson → Option Bson
  | .array items => (unwrapItems? items).map .array
  | .document entries => unwrapEntries? [] entries
  | .codeWithScope text scope => unwrapEntries? [] scope >>= withScope? text
  | .regex pattern options => regex? pattern options
  | .dateTime millis => some (.dateTime (min millis latestDateTime))
  | v => some v
termination_by structural v => v

def unwrapItems? : List Bson → Option (List Bson)
  | [] => some []
  | v :: vs => return (← v.unwrap?) :: (← unwrapItems? vs)
termination_by structural vs => vs

/--
The first key that names a type makes a wrapper of the document. The entries before it do not count,
nor do those after it, except for the scope that goes with code.
-/
def unwrapEntries? (done : Document) : List (String × Bson) → Option Bson
  | [] => some (.document done)
  | (key, v) :: entries =>
    if key = "$code" then
      match entries with
      | [] => v.text?.map .code
      | (key, scope) :: _ =>
        if key = "$scope" then do withScope? (← v.text?) (← scope.unwrap?) else none
    else if key = "$scope" then
      match entries with
      | [] => none
      | (key, text) :: _ =>
        if key = "$code" then do withScope? (← text.text?) (← v.unwrap?) else none
    else
      match Wrapper.content? key with
      | some content => content v
      | none => do unwrapEntries? (done.insert key (← v.unwrap?)) entries
termination_by structural entries => entries

end

end Bson

namespace Document

/--
The document with all wrappers in it replaced, if it is not a wrapper itself.
-/
def unwrap? (d : Document) : Option Document :=
  match Bson.unwrapEntries? [] d with
  | some (.document d) => some d
  | _ => none

end Document

end Aggregation
