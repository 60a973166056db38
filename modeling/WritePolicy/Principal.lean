import WritePolicy.Json.Record
import WritePolicy.StringSet

/-! # Who writes

    A principal presents a name, roles and channels. Being an administrator
    does not authorize a write; it matters only for deleting documents whose
    type is unknown. A write context is a principal with the database it
    writes to.
-/

namespace WritePolicy

/-- The writer of a document. -/
structure Principal where
  name : Option String := none
  roles : StringSet := []
  channels : StringSet := []
  admin : Bool := false
  deriving DecidableEq, Repr

namespace Principal

/-- The role that makes its holder an administrator. -/
def adminRole : String := "_admin"

/-- No name, no roles, no channels. -/
def anonymous : Principal := {}

/-- A named principal. -/
def user (name : String) : Principal :=
  { name := some name }

/-- A named administrator. -/
def administrator (name : String) : Principal :=
  { name := some name, admin := true }

/-- The principal with a further role. -/
def withRole (p : Principal) (role : String) : Principal :=
  { p with roles := StringSet.insert role p.roles }

/-- The principal with further roles. -/
def withRoles (p : Principal) (roles : List String) : Principal :=
  { p with roles := StringSet.insertAll p.roles roles }

/-- The principal with a further channel. -/
def withChannel (p : Principal) (channel : String) : Principal :=
  { p with channels := StringSet.insert channel p.channels }

/-- The principal with further channels. -/
def withChannels (p : Principal) (channels : List String) : Principal :=
  { p with channels := StringSet.insertAll p.channels channels }

/-- An administrator by flag or by role. -/
def isAdmin (p : Principal) : Bool :=
  p.admin || p.roles.contains adminRole

/-- Neither named nor an administrator. -/
def isAnonymous (p : Principal) : Bool :=
  p.name.isNone && !p.isAdmin

/-- The principal holds a role. -/
def hasRole (p : Principal) (role : String) : Bool :=
  p.roles.contains role

/-- The principal may access a channel. -/
def hasChannel (p : Principal) (channel : String) : Bool :=
  p.channels.contains channel

/-- The principal has exactly this name. -/
def isUser (p : Principal) (name : String) : Bool :=
  p.name == some name

/-- A principal from its record; every field may be left out. -/
def ofJson? (v : Json) : Option Principal := do
  let fields ← v.recordFields?
    [⟨"name", true⟩, ⟨"roles", true⟩, ⟨"channels", true⟩, ⟨"admin", true⟩] false
  let name ← Json.optionalField? fields "name" Json.asString?
  let roles ← Json.defaultField? fields "roles" [] Json.asStrings?
  let channels ← Json.defaultField? fields "channels" [] Json.asStrings?
  let admin ← Json.defaultField? fields "admin" false Json.asBool?
  return { name, roles := StringSet.ofList roles, channels := StringSet.ofList channels, admin }

/-- The record of a principal. -/
def toJson (p : Principal) : Json :=
  .object [
    ("name", (p.name.map Json.string).getD .null),
    ("roles", .array (p.roles.map Json.string)),
    ("channels", .array (p.channels.map Json.string)),
    ("admin", .bool p.admin)]

end Principal

/-- A principal and the database it writes to. -/
structure WriteContext where
  principal : Principal := {}
  database : Option String := none
  deriving DecidableEq, Repr

namespace WriteContext

/-- A write context from its record; every field may be left out. -/
def ofJson? (v : Json) : Option WriteContext := do
  let fields ← v.recordFields? [⟨"principal", true⟩, ⟨"database", true⟩] false
  let principal ← Json.defaultField? fields "principal" {} Principal.ofJson?
  let database ← Json.optionalField? fields "database" Json.asString?
  return { principal, database }

/-- The record of a write context. -/
def toJson (c : WriteContext) : Json :=
  .object [
    ("principal", c.principal.toJson),
    ("database", (c.database.map Json.string).getD .null)]

end WriteContext

end WritePolicy
