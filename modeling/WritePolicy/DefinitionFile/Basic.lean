import WritePolicy.Definition
import WritePolicy.DefinitionFile.Validator
import WritePolicy.Json.Reader

/-! # Definition files

    A definition file maps the names of document types to their definitions, in
    the order in which their filters are tried. What a file states becomes
    literals; computed constraints and actions have no written form.
-/

namespace WritePolicy

namespace DefinitionRecord

/-- The type filter of a record: by the `type` property unless told otherwise. -/
def readFilter (r : DefinitionRecord) (typeId : String) : Except DefinitionError TypeFilter :=
  match r.typeFilter with
  | none => .ok .simple
  | some (.named name) =>
    if name = "simple" then .ok .simple
    else .error (.malformed typeId (.unknownTypeFilter name))
  | some (.idPattern source) => do return .idPattern (← readPattern source)

/-- The rules for attachments. -/
def attachmentRules (r : DefinitionRecord) : Except DefinitionError AttachmentRules := do
  let c := r.attachmentConstraints.getD {}
  return {
    allow := .literal r.allowAttachments
    maximumCount := slot? c.maximumAttachmentCount
    maximumIndividualSize := slot? c.maximumIndividualSize
    maximumTotalSize := slot? c.maximumTotalSize
    supportedExtensions := slot? c.supportedExtensions
    supportedContentTypes := slot? c.supportedContentTypes
    filenamePattern := ← patternSlot? c.filenameRegexPattern
    requireReferences := .literal c.requireAttachmentReferences }

/-- The grants. -/
def authorization (r : DefinitionRecord) : Authorization :=
  { channels := slot? r.channels
    roles := slot? r.authorizedRoles
    users := slot? r.authorizedUsers
    allMembers := .literal r.grantAllMembersWriteAccess }

/-- The definition of a record. -/
def definition (r : DefinitionRecord) (typeId : String) : Except DefinitionError Definition := do
  let typeFilter ← r.readFilter typeId
  let attachments ← r.attachmentRules
  let properties ← ValidatorRecord.properties Validator.ofJson typeId r.propertyValidators
  let idPattern ← patternSlot? r.documentIdRegexPattern
  return {
    typeFilter, properties, attachments, idPattern
    authorization := r.authorization
    cannotReplace := .literal r.cannotReplace
    cannotDelete := .literal r.cannotDelete
    immutable := .literal r.immutable
    allowUnknownProperties := .literal r.allowUnknownProperties }

end DefinitionRecord

/-- The definition of a type that a value describes. -/
def Definition.ofJson (typeId : String) (v : Json) : Except DefinitionError Definition :=
  match DefinitionRecord.ofJson? v with
  | none => .error (.malformed typeId .undecodable)
  | some r => r.definition typeId

namespace Definitions

/-- The definitions of a list of types, in order. -/
def ofFields : List (String × Json) → Except DefinitionError Definitions
  | [] => .ok []
  | (typeId, v) :: rest => do
    let d ← Definition.ofJson typeId v
    return (typeId, d) :: (← ofFields rest)

/-- The definitions that a value describes. -/
def ofJson (v : Json) : Except DefinitionError Definitions :=
  match v with
  | .object fields => do return Entries.ofList (← ofFields fields)
  | _ => .error (.malformed "(root)" .notAMapping)

/-- The definitions that a JSON text describes. -/
def ofJsonText (text : String) : Except DefinitionError Definitions :=
  match Json.parse? text with
  | none => .error .notJson
  | some v => ofJson v

end Definitions

end WritePolicy
