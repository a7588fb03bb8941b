import Aggregation.Bson.Basic

/-!
This module contains the operations on documents. The keys of a document are distinct, and their
order is that of their first insertion.
-/

namespace Aggregation

namespace Document

def single (key : String) (value : Bson) : Document :=
  [(key, value)]

def keys (d : Document) : List String :=
  d.map Prod.fst

def get? (d : Document) (key : String) : Option Bson :=
  d.lookup key

/--
A new key goes to the end, a key that is there keeps its place and takes the new value.
-/
def insert (d : Document) (key : String) (value : Bson) : Document :=
  match d with
  | [] => [(key, value)]
  | (k, v) :: d => if k = key then (k, value) :: d else (k, v) :: insert d key value

def insertAll (d : Document) (entries : List (String × Bson)) : Document :=
  entries.foldl (fun d e => d.insert e.1 e.2) d

def ofEntries (entries : List (String × Bson)) : Document :=
  insertAll [] entries

end Document

namespace Bson

/--
The document with one entry, which is how operators are written.
-/
def single (key : String) (value : Bson) : Bson :=
  .document (Document.single key value)

def ofEntries (entries : List (String × Bson)) : Bson :=
  .document (Document.ofEntries entries)

end Bson

end Aggregation
