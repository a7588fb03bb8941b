import Aggregation.Error

/-!
This module contains typed references to the fields of records, and the dotted paths they stand for.
-/

namespace Aggregation

/--
The field that holds the identity of a document.
-/
def identityField : String := "_id"

/--
One field of a record: its declared name, and the names that replace it in documents.
-/
structure Link where
  declared : String
  value : Option String := none
  rename : Option String := none
  identity : Bool := false
  deriving DecidableEq

namespace Link

def override (l : Link) : Option String :=
  l.value.or l.rename

def wireName (l : Link) : String :=
  if l.identity then identityField else l.override.getD l.declared

def segment (l : Link) : Except Error String :=
  if l.wireName = "" then
    throw (.invalidFieldPath (.emptySegment l.declared))
  else
    return l.wireName

end Link

/--
A chain of fields, each one inside the one before.
-/
inductive Property where
  | root (link : Link)
  | child (parent : Property) (link : Link)
  deriving DecidableEq

namespace Property

def named (declared : String) : Property :=
  .root { declared }

def identity (declared : String) : Property :=
  .root { declared, identity := true }

def leaf : Property → Link
  | .root l => l
  | .child _ l => l

def parent? : Property → Option Property
  | .root _ => none
  | .child p _ => some p

def withLeaf (l : Link) : Property → Property
  | .root _ => .root l
  | .child p _ => .child p l

def withValue (p : Property) (value : String) : Property :=
  p.withLeaf { p.leaf with value := some value }

def withName (p : Property) (name : String) : Property :=
  p.withLeaf { p.leaf with rename := some name }

/--
Puts the whole chain of the second property inside the first one.
-/
def nested (p : Property) : Property → Property
  | .root l => .child p l
  | .child q l => .child (p.nested q) l

def depth : Property → Nat
  | .root _ => 1
  | .child p _ => p.depth + 1

/--
The links of the chain, root first.
-/
def links : Property → List Link
  | .root l => [l]
  | .child p l => p.links ++ [l]

/--
The segments joined by dots. If several are empty, the one nearest to the leaf is reported.
-/
def path : Property → Except Error String
  | .root l => l.segment
  | .child p l => do
    let segment ← l.segment
    return (← p.path) ++ "." ++ segment

end Property

end Aggregation
