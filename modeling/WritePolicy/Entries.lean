/-! # Ordered entries

    A list of keyed values that remembers the order in which keys first came.
    Inserting under a known key replaces the value where it stands; a new key
    goes to the end. JSON objects, property declarations and definition sets
    are all of this form, because the order of each is visible in reports.
-/

namespace WritePolicy

/-- Keyed values in order of first insertion. -/
abbrev Entries (α : Type) := List (String × α)

namespace Entries

variable {α : Type}

/-- The value under a key: the first entry that carries it. -/
def get? (key : String) : Entries α → Option α
  | [] => none
  | (k, v) :: rest => if k = key then some v else get? key rest

/-- The value under a key is replaced in place, or a new entry is appended. -/
def insert (key : String) (value : α) : Entries α → Entries α
  | [] => [(key, value)]
  | (k, v) :: rest =>
    if k = key then (key, value) :: rest else (k, v) :: insert key value rest

/-- All entries of the second list inserted into the first, in order. -/
def insertAll (entries : Entries α) (more : List (String × α)) : Entries α :=
  more.foldl (fun acc e => insert e.1 e.2 acc) entries

/-- Entries from a list of pairs, inserted one after the other. -/
def ofList (pairs : List (String × α)) : Entries α :=
  insertAll [] pairs

/-- The keys, in order. -/
def keys (entries : Entries α) : List String :=
  entries.map (·.1)

/-- An entry carries the key. -/
def contains (key : String) (entries : Entries α) : Bool :=
  (get? key entries).isSome

end Entries

end WritePolicy
