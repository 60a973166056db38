import WritePolicy.Slot

/-! # Access

    A definition grants writes along three axes: channels, roles and users. On
    each axis an operation is open to the members of its own list and of the
    list for all writes. A write is allowed if any axis meets the writer, or if
    all members may write and the writer is not anonymous. Otherwise the
    denial names the first axis that is configured.
-/

namespace WritePolicy

/-! ## Operations -/

/-- What a write does to the stored document. -/
inductive Operation where
  | add | replace | remove
  deriving DecidableEq, Repr

namespace Operation

/-- The name of an operation in reports. -/
def name : Operation → String
  | add => "add"
  | replace => "replace"
  | remove => "remove"

/-- A deleted new document removes; otherwise it is a matter of whether there
    is a live prior document. -/
def classify (newDoc : Document) (oldDoc : Option Document) : Operation :=
  if newDoc.isDeleted then remove
  else if oldDoc.isNone then add
  else replace

end Operation

/-! ## Grants -/

/-- The members of one axis, per kind of access. -/
structure GrantSet where
  view : List String := []
  add : List String := []
  replace : List String := []
  remove : List String := []
  write : List String := []
  deriving DecidableEq, Repr

/-- The first occurrences that are not in the list yet are appended to it. -/
def appendNew (members more : List String) : List String :=
  more.foldl (fun acc m => if acc.contains m then acc else acc ++ [m]) members

namespace GrantSet

/-- A grant of all writes. -/
def ofWriters (members : List String) : GrantSet :=
  { write := members }

/-- The list of an operation itself. -/
def specific (g : GrantSet) : Operation → List String
  | .add => g.add
  | .replace => g.replace
  | .remove => g.remove

/-- Who may carry out an operation, without repetitions. -/
def forOperation (g : GrantSet) (op : Operation) : List String :=
  appendNew (appendNew [] (g.specific op)) g.write

/-- All members of the axis, without repetitions. -/
def all (g : GrantSet) : List String :=
  [g.view, g.add, g.replace, g.remove, g.write].foldl appendNew []

end GrantSet

/-- The grants of a definition. An axis that is not configured grants
    nothing. -/
structure Authorization where
  channels : Option (Slot GrantSet) := none
  roles : Option (Slot GrantSet) := none
  users : Option (Slot GrantSet) := none
  allMembers : Slot Bool := .literal false

/-- The grants of a definition for one write. -/
structure AccessGrant where
  operation : Operation
  channels : Option (List String)
  roles : Option (List String)
  users : Option (List String)
  allMembers : Bool
  assignedChannels : List String
  deriving DecidableEq, Repr

/-- The grants for an operation. The axes are read in the order channels,
    roles, users, then the flag for all members. -/
def Authorization.grant (a : Authorization) (op : Operation) (s : Situation) :
    Except Misconfiguration AccessGrant := do
  let channels ← Slot.valueOf? a.channels s
  let roles ← Slot.valueOf? a.roles s
  let users ← Slot.valueOf? a.users s
  let allMembers ← a.allMembers.value s
  return {
    operation := op
    channels := channels.map (·.forOperation op)
    roles := roles.map (·.forOperation op)
    users := users.map (·.forOperation op)
    allMembers
    assignedChannels := (channels.map GrantSet.all).getD [] }

/-! ## Decisions -/

/-- Why access is denied. -/
inductive DenialReason where
  | missingChannelAccess | missingRole | wrongUser
  deriving DecidableEq, Repr

/-- The wording of a denial. -/
def DenialReason.message : DenialReason → String
  | missingChannelAccess => "missing channel access"
  | missingRole => "missing role"
  | wrongUser => "wrong user"

namespace AccessGrant

/-- An axis is configured and meets the writer. -/
def meets (axis : Option (List String)) (holds : String → Bool) : Bool :=
  match axis with
  | none => false
  | some members => members.any holds

/-- Some axis meets the writer. -/
def meetsSome (g : AccessGrant) (p : Principal) : Bool :=
  meets g.channels p.hasChannel || meets g.roles p.hasRole || meets g.users p.isUser

/-- The reason of a denial: the first configured axis. -/
def denialReason (g : AccessGrant) : DenialReason :=
  if g.channels.isSome then .missingChannelAccess
  else if g.roles.isSome then .missingRole
  else if g.users.isSome then .wrongUser
  else .missingChannelAccess

/-- Nothing if the writer has access, else why not. -/
def check (g : AccessGrant) (p : Principal) : Option DenialReason :=
  if g.allMembers && !p.isAnonymous then none
  else if g.meetsSome p then none
  else some g.denialReason

end AccessGrant

end WritePolicy
