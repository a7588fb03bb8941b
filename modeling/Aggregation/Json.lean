import Aggregation.Double.Layout
import Aggregation.Text.Hex

/-!
This module contains JSON values and their compact text, in which the keys of every object are
sorted.
-/

namespace Aggregation

inductive Json where
  | null
  | bool (b : Bool)
  | integer (n : Int)
  | double (x : Double)
  | string (s : String)
  | array (items : List Json)
  | object (fields : List (String × Json))
  deriving Inhabited

namespace Json

def escaped (c : Char) : List Char :=
  match c with
  | '"' => ['\\', '"']
  | '\\' => ['\\', '\\']
  | '\x08' => ['\\', 'b']
  | '\t' => ['\\', 't']
  | '\n' => ['\\', 'n']
  | '\x0c' => ['\\', 'f']
  | '\r' => ['\\', 'r']
  | c => if c.toNat < 0x20 then ['\\', 'u', '0', '0'] ++ Text.Hex.ofByte c.toUInt8 else [c]

def writeString (s : String) : String :=
  String.ofList ('"' :: s.toList.flatMap escaped ++ ['"'])

/--
There is no JSON number for `NaN` and the infinities.
-/
def writeDouble (x : Double) : String :=
  if x.isNaN || x.isInfinite then "null" else Double.jsonLayout.write x

/--
Puts a field in its place among fields sorted by key.
-/
def insertField (field : String × String) : List (String × String) → List (String × String)
  | [] => [field]
  | f :: fs => if field.1 < f.1 then field :: f :: fs else f :: insertField field fs

def sortFields (fields : List (String × String)) : List (String × String) :=
  fields.foldr insertField []

mutual

def compact : Json → String
  | .null => "null"
  | .bool b => if b then "true" else "false"
  | .integer n => toString n
  | .double x => writeDouble x
  | .string s => writeString s
  | .array items => "[" ++ ",".intercalate (compactItems items) ++ "]"
  | .object fields =>
    let fields := (sortFields (compactFields fields)).map fun (k, v) => writeString k ++ ":" ++ v
    "\x7b" ++ ",".intercalate fields ++ "\x7d"

def compactItems : List Json → List String
  | [] => []
  | j :: js => j.compact :: compactItems js

def compactFields : List (String × Json) → List (String × String)
  | [] => []
  | (k, j) :: fs => (k, j.compact) :: compactFields fs

end

end Json

end Aggregation
