import Aggregation.Context

/-!
This module contains paths to fields, given by name or by property.
-/

namespace Aggregation

inductive FieldPath where
  | name (path : String)
  | property (p : Property)
  deriving DecidableEq

namespace FieldPath

def resolve (ctx : Context) : FieldPath → Except Error String
  | .name path => if path = "" then throw (.invalidFieldPath .empty) else return path
  | .property p => ctx.resolveProperty p

/--
The path with the sigil that marks a reference, unless it has one already.
-/
def marked (path : String) : String :=
  if path.toList.head? = some '$' then path else "$" ++ path

def reference (ctx : Context) (f : FieldPath) : Except Error String := do
  return marked (← f.resolve ctx)

end FieldPath

end Aggregation
