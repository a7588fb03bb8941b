/-!
This module contains regular expressions that match given text.
-/

namespace Aggregation.Text

def isMetacharacter (c : Char) : Bool :=
  c ∈ ['\\', '.', '+', '*', '?', '(', ')', '|', '[', ']', '\x7b', '\x7d', '^', '$', '#', '&', '-',
    '~']

/--
The pattern that matches exactly the given characters.
-/
def literally (cs : List Char) : List Char :=
  cs.flatMap fun c => if isMetacharacter c then ['\\', c] else [c]

def patternOfStart (s : String) : String :=
  String.ofList ('^' :: literally s.toList)

def patternOfEnd (s : String) : String :=
  String.ofList (literally s.toList ++ ['$'])

def patternOfPart (s : String) : String :=
  String.ofList (['.', '*'] ++ literally s.toList ++ ['.', '*'])

end Aggregation.Text
