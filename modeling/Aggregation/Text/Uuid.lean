import Aggregation.Text.Hex

/-!
This module contains the notation of universally unique identifiers, which are sixteen bytes.
-/

namespace Aggregation.Text.Uuid

/--
The hyphenated notation without the braces around it or the `urn:uuid:`, in any case, before it.
-/
def bare (cs : List Char) : List Char :=
  if "urn:uuid:".toList.isPrefixOf (cs.map Char.toLower) then
    cs.drop 9
  else if cs.head? = some '\x7b' && cs.getLast? = some '\x7d' then
    (cs.drop 1).dropLast
  else
    cs

def hyphenated? (cs : List Char) : Option (List UInt8) := do
  let digits := cs.filter (· != '-')
  guard (cs.length = 36 && [8, 13, 18, 23].all fun i => cs[i]? == some '-')
  guard (digits.length = 32)
  Hex.decode? (String.ofList digits)

def decode? (s : String) : Option (List UInt8) :=
  if s.length = 32 then Hex.decode? s else hyphenated? (bare s.toList)

end Aggregation.Text.Uuid
