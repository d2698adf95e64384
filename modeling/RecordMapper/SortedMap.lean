/-! # Maps in key order

A list of key and value in ascending order of the keys, each key once.  Keys are ordered by their
code points, which is also the order of their UTF-8 bytes. -/
set_option autoImplicit false
namespace RecordMapper

abbrev SortedMap (α : Type) := List (String × α)

namespace SortedMap
variable {α : Type}

def alter (key : String) (f : Option α → α) : SortedMap α → SortedMap α
  | [] => [(key, f none)]
  | (k, v) :: rest =>
    if key < k then (key, f none) :: (k, v) :: rest
    else if key = k then (key, f (some v)) :: rest
    else (k, v) :: alter key f rest

def insert (key : String) (value : α) (m : SortedMap α) : SortedMap α :=
  alter key (fun _ => value) m

/-- The map of the given pairs, of which the last one for each key counts. -/
def ofList (pairs : List (String × α)) : SortedMap α :=
  pairs.foldl (fun m pair => insert pair.1 pair.2 m) []

end SortedMap

end RecordMapper
