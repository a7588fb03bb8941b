import Aggregation.Bson.Document
import Aggregation.Json
import Aggregation.Text.Base64

/-!
This module contains the JSON form of values. Types that JSON does not have are objects with a key
that starts with `$`.
-/

namespace Aggregation

namespace Bson

mutual

def toJson : Bson → Json
  | .null => .null
  | .bool b => .bool b
  | .int32 n => .integer n.toInt
  | .int64 n => .integer n.toInt
  | .double x => .double x
  | .string s => .string s
  | .array items => .array (itemsToJson items)
  | .document entries => .object (entriesToJson entries)
  | .dateTime millis =>
    .object [("$date", .object [("$numberLong", .string (toString millis.toInt))])]
  | .objectId bytes => .object [("$oid", .string (Text.Hex.encode bytes))]
  | .decimal128 text => .object [("$numberDecimal", .string text)]
  | .binary subtype bytes =>
    if subtype = 0 then
      .array (bytes.map fun b => .integer b.toNat)
    else
      .object [("$binary", .object [
        ("base64", .string (Text.Base64.encode bytes)),
        ("subType", .string (Text.Hex.encode [subtype]))])]
  | .regex pattern options =>
    .object [("$regularExpression", .object [
      ("pattern", .string pattern), ("options", .string options)])]
  | .timestamp time increment =>
    .object [("$timestamp", .object [
      ("t", .integer time.toNat), ("i", .integer increment.toNat)])]
  | .code text => .object [("$code", .string text)]
  | .codeWithScope text scope =>
    .object [("$code", .string text), ("$scope", .object (entriesToJson scope))]
  | .symbol s => .object [("$symbol", .string s)]
  | .undefined => .object [("$undefined", .bool true)]
  | .minKey => .object [("$minKey", .integer 1)]
  | .maxKey => .object [("$maxKey", .integer 1)]

def itemsToJson : List Bson → List Json
  | [] => []
  | v :: vs => v.toJson :: itemsToJson vs

def entriesToJson : List (String × Bson) → List (String × Json)
  | [] => []
  | (k, v) :: es => (k, v.toJson) :: entriesToJson es

end

end Bson

end Aggregation
