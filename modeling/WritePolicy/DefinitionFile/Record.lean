import WritePolicy.Access
import WritePolicy.Json.Record

/-! # Records of definition files

    The records that definition files are made of, with the types of their
    fields but nothing else decided: patterns are still text and nested
    validators still JSON. All of them refuse fields that they do not declare.
-/

namespace WritePolicy

namespace Json

/-- A value that is not looked into. -/
def asIs? (v : Json) : Option Json :=
  some v

/-- A string, or a list of strings; one string stands for a list of one. -/
def asOneOrMany? : Json → Option (List String)
  | string s => some [s]
  | v => v.asStrings?

end Json

/-! ## Grants -/

/-- A grant by kinds of access. -/
def GrantSet.ofRecord? (v : Json) : Option GrantSet := do
  let fields ← v.recordFields?
    [⟨"view", false⟩, ⟨"add", false⟩, ⟨"replace", false⟩, ⟨"remove", false⟩, ⟨"write", false⟩] true
  let list (name : String) : Option (List String) := do
    return (← Json.optionalField? fields name Json.asOneOrMany?).getD []
  return {
    view := ← list "view", add := ← list "add", replace := ← list "replace",
    remove := ← list "remove", write := ← list "write" }

/-- A grant: a string or a list of strings grants all writes, otherwise it is a
    record by kinds of access. -/
def GrantSet.ofJson? (v : Json) : Option GrantSet :=
  match v.asOneOrMany? with
  | some members => some (.ofWriters members)
  | none => GrantSet.ofRecord? v

/-! ## Definitions -/

/-- A type filter: the name of one, or a pattern for identifiers. -/
inductive FilterRecord where
  | named (name : String)
  | idPattern (source : String)
  deriving DecidableEq, Repr

/-- A type filter from its record. -/
def FilterRecord.ofJson? : Json → Option FilterRecord
  | .string name => some (.named name)
  | v => do
    let fields ← v.recordFields? [⟨"idPattern", false⟩] true
    return .idPattern (← Json.requiredField? fields "idPattern" Json.asString?)

/-- The constraints on attachments in a definition. -/
structure AttachmentRecord where
  maximumAttachmentCount : Option Nat := none
  maximumIndividualSize : Option Nat := none
  maximumTotalSize : Option Nat := none
  supportedExtensions : Option (List String) := none
  supportedContentTypes : Option (List String) := none
  filenameRegexPattern : Option String := none
  requireAttachmentReferences : Bool := false
  deriving DecidableEq, Repr

namespace AttachmentRecord

/-- The fields of the record. -/
def declared : List RecordField :=
  [⟨"maximumAttachmentCount", false⟩, ⟨"maximumIndividualSize", false⟩,
    ⟨"maximumTotalSize", false⟩, ⟨"supportedExtensions", false⟩,
    ⟨"supportedContentTypes", false⟩, ⟨"filenameRegexPattern", false⟩,
    ⟨"requireAttachmentReferences", true⟩]

/-- The record that a value is. -/
def ofJson? (v : Json) : Option AttachmentRecord := do
  let fields ← v.recordFields? declared true
  return {
    maximumAttachmentCount :=
      ← Json.optionalField? fields "maximumAttachmentCount" Json.asCount?
    maximumIndividualSize :=
      ← Json.optionalField? fields "maximumIndividualSize" Json.asCount?
    maximumTotalSize := ← Json.optionalField? fields "maximumTotalSize" Json.asCount?
    supportedExtensions := ← Json.optionalField? fields "supportedExtensions" Json.asStrings?
    supportedContentTypes :=
      ← Json.optionalField? fields "supportedContentTypes" Json.asStrings?
    filenameRegexPattern := ← Json.optionalField? fields "filenameRegexPattern" Json.asString?
    requireAttachmentReferences :=
      ← Json.defaultField? fields "requireAttachmentReferences" false Json.asBool? }

end AttachmentRecord

/-- The definition of a document type. -/
structure DefinitionRecord where
  typeFilter : Option FilterRecord := none
  channels : Option GrantSet := none
  authorizedRoles : Option GrantSet := none
  authorizedUsers : Option GrantSet := none
  grantAllMembersWriteAccess : Bool := false
  cannotReplace : Bool := false
  cannotDelete : Bool := false
  immutable : Bool := false
  documentIdRegexPattern : Option String := none
  allowUnknownProperties : Bool := false
  allowAttachments : Bool := false
  attachmentConstraints : Option AttachmentRecord := none
  propertyValidators : Entries Json := []

namespace DefinitionRecord

/-- The fields of the record. -/
def declared : List RecordField :=
  [⟨"typeFilter", false⟩, ⟨"channels", false⟩, ⟨"authorizedRoles", false⟩,
    ⟨"authorizedUsers", false⟩, ⟨"grantAllMembersWriteAccess", true⟩,
    ⟨"cannotReplace", true⟩, ⟨"cannotDelete", true⟩, ⟨"immutable", true⟩,
    ⟨"documentIdRegexPattern", false⟩, ⟨"allowUnknownProperties", true⟩,
    ⟨"allowAttachments", true⟩, ⟨"attachmentConstraints", false⟩,
    ⟨"propertyValidators", true⟩]

/-- The record that a value is. -/
def ofJson? (v : Json) : Option DefinitionRecord := do
  let fields ← v.recordFields? declared true
  let flag (name : String) := Json.defaultField? fields name false Json.asBool?
  return {
    typeFilter := ← Json.optionalField? fields "typeFilter" FilterRecord.ofJson?
    channels := ← Json.optionalField? fields "channels" GrantSet.ofJson?
    authorizedRoles := ← Json.optionalField? fields "authorizedRoles" GrantSet.ofJson?
    authorizedUsers := ← Json.optionalField? fields "authorizedUsers" GrantSet.ofJson?
    grantAllMembersWriteAccess := ← flag "grantAllMembersWriteAccess"
    cannotReplace := ← flag "cannotReplace"
    cannotDelete := ← flag "cannotDelete"
    immutable := ← flag "immutable"
    documentIdRegexPattern :=
      ← Json.optionalField? fields "documentIdRegexPattern" Json.asString?
    allowUnknownProperties := ← flag "allowUnknownProperties"
    allowAttachments := ← flag "allowAttachments"
    attachmentConstraints :=
      ← Json.optionalField? fields "attachmentConstraints" AttachmentRecord.ofJson?
    propertyValidators :=
      ← Json.defaultField? fields "propertyValidators" [] Json.asObject? }

end DefinitionRecord

/-! ## Validators -/

/-- The rules for the keys of a hashtable. -/
structure KeyRecord where
  mustNotBeEmpty : Bool := false
  regexPattern : Option String := none
  deriving DecidableEq, Repr

/-- The record that a value is. -/
def KeyRecord.ofJson? (v : Json) : Option KeyRecord := do
  let fields ← v.recordFields? [⟨"mustNotBeEmpty", true⟩, ⟨"regexPattern", false⟩] true
  return {
    mustNotBeEmpty := ← Json.defaultField? fields "mustNotBeEmpty" false Json.asBool?
    regexPattern := ← Json.optionalField? fields "regexPattern" Json.asString? }

/-- The validator of a property, with the fields of all types. -/
structure ValidatorRecord where
  type : String
  required : Bool := false
  mustNotBeEmpty : Bool := false
  immutable : Bool := false
  immutableWhenSet : Bool := false
  mustEqual : Option Json := none
  minimumValue : Option Json := none
  minimumValueExclusive : Option Json := none
  maximumValue : Option Json := none
  maximumValueExclusive : Option Json := none
  regexPattern : Option String := none
  minimumLength : Option Nat := none
  maximumLength : Option Nat := none
  minimumSize : Option Nat := none
  maximumSize : Option Nat := none
  predefinedValues : Option (List Json) := none
  propertyValidators : Option (Entries Json) := none
  allowUnknownProperties : Option Bool := none
  arrayElementsValidator : Option Json := none
  hashtableKeysValidator : Option KeyRecord := none
  hashtableValuesValidator : Option Json := none
  supportedExtensions : Option (List String) := none
  supportedContentTypes : Option (List String) := none

namespace ValidatorRecord

/-- The fields of the record. -/
def declared : List RecordField :=
  [⟨"type", false⟩, ⟨"required", true⟩, ⟨"mustNotBeEmpty", true⟩, ⟨"immutable", true⟩,
    ⟨"immutableWhenSet", true⟩, ⟨"mustEqual", false⟩, ⟨"minimumValue", false⟩,
    ⟨"minimumValueExclusive", false⟩, ⟨"maximumValue", false⟩,
    ⟨"maximumValueExclusive", false⟩, ⟨"regexPattern", false⟩, ⟨"minimumLength", false⟩,
    ⟨"maximumLength", false⟩, ⟨"minimumSize", false⟩, ⟨"maximumSize", false⟩,
    ⟨"predefinedValues", false⟩, ⟨"propertyValidators", false⟩,
    ⟨"allowUnknownProperties", false⟩, ⟨"arrayElementsValidator", false⟩,
    ⟨"hashtableKeysValidator", false⟩, ⟨"hashtableValuesValidator", false⟩,
    ⟨"supportedExtensions", false⟩, ⟨"supportedContentTypes", false⟩]

/-- The record that a value is. -/
def ofJson? (v : Json) : Option ValidatorRecord := do
  let fields ← v.recordFields? declared true
  let flag (name : String) := Json.defaultField? fields name false Json.asBool?
  let value (name : String) := Json.optionalField? fields name Json.asIs?
  let count (name : String) := Json.optionalField? fields name Json.asCount?
  return {
    type := ← Json.requiredField? fields "type" Json.asString?
    required := ← flag "required"
    mustNotBeEmpty := ← flag "mustNotBeEmpty"
    immutable := ← flag "immutable"
    immutableWhenSet := ← flag "immutableWhenSet"
    mustEqual := ← value "mustEqual"
    minimumValue := ← value "minimumValue"
    minimumValueExclusive := ← value "minimumValueExclusive"
    maximumValue := ← value "maximumValue"
    maximumValueExclusive := ← value "maximumValueExclusive"
    regexPattern := ← Json.optionalField? fields "regexPattern" Json.asString?
    minimumLength := ← count "minimumLength"
    maximumLength := ← count "maximumLength"
    minimumSize := ← count "minimumSize"
    maximumSize := ← count "maximumSize"
    predefinedValues := ← Json.optionalField? fields "predefinedValues" Json.asArray?
    propertyValidators := ← Json.optionalField? fields "propertyValidators" Json.asObject?
    allowUnknownProperties :=
      ← Json.optionalField? fields "allowUnknownProperties" Json.asBool?
    arrayElementsValidator := ← value "arrayElementsValidator"
    hashtableKeysValidator :=
      ← Json.optionalField? fields "hashtableKeysValidator" KeyRecord.ofJson?
    hashtableValuesValidator := ← value "hashtableValuesValidator"
    supportedExtensions := ← Json.optionalField? fields "supportedExtensions" Json.asStrings?
    supportedContentTypes :=
      ← Json.optionalField? fields "supportedContentTypes" Json.asStrings? }

end ValidatorRecord

end WritePolicy
