import Aggregation.Text.GraphemeExtend
import Aggregation.Text.Unprintable

/-!
This module contains quoted text, in which every character can be told apart from its neighbours.
-/

namespace Aggregation.Text

def escaped (c : Char) : List Char :=
  match c with
  | '\x00' => ['\\', '0']
  | '\t' => ['\\', 't']
  | '\n' => ['\\', 'n']
  | '\r' => ['\\', 'r']
  | '"' => ['\\', '"']
  | '\\' => ['\\', '\\']
  | c =>
    if graphemeExtend.contains c || unprintable.contains c then
      ['\\', 'u', '\x7b'] ++ Nat.toDigits 16 c.toNat ++ ['\x7d']
    else
      [c]

/--
The text in double quotes, with quotes, backslashes and everything that does not show escaped.
-/
def quoted (s : String) : String :=
  String.ofList ('"' :: s.toList.flatMap escaped ++ ['"'])

end Aggregation.Text
