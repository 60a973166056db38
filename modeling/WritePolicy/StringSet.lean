/-! # Sets of strings

    Roles, channels and file names form sets that are listed in code point
    order. A set is kept as its strictly ascending list of members.
-/

namespace WritePolicy

/-- A set of strings, as its ascending list of members. -/
abbrev StringSet := List String

namespace StringSet

/-- The set with a further member. -/
def insert (member : String) : StringSet → StringSet
  | [] => [member]
  | m :: rest =>
    if member < m then member :: m :: rest
    else if member = m then m :: rest
    else m :: insert member rest

/-- The set with all members of a list. -/
def insertAll (set : StringSet) (members : List String) : StringSet :=
  members.foldl (fun s m => insert m s) set

/-- The set of the members of a list. -/
def ofList (members : List String) : StringSet :=
  insertAll [] members

end StringSet

end WritePolicy
