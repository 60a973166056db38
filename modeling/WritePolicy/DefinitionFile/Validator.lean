import WritePolicy.DefinitionFile.Error
import WritePolicy.DefinitionFile.Record
import WritePolicy.Validator

/-! # Validators in definition files

    A validator is read from its record: first its type, then the fields, each
    of which must have a place on a validator of that type, then the validators
    below it. Patterns must be regular expressions, and bounds must be
    comparable with the values of the type, so that no range that was read from
    a file can fail during a write.
-/

namespace WritePolicy

/-! ## Slots of fields -/

/-- A field that is given fills a slot. -/
def slot? {α : Type} (field : Option α) : Option (Slot α) :=
  field.map .literal

/-- The pattern of a source. -/
def readPattern (source : String) : Except DefinitionError Pattern :=
  match Pattern.ofSource? source with
  | some p => .ok p
  | none => .error (.invalidPattern source)

/-- The slot of a pattern, if its source is given. -/
def patternSlot? (source : Option String) :
    Except DefinitionError (Option (Slot Pattern)) :=
  match source with
  | none => .ok none
  | some source => do return some (.literal (← readPattern source))

/-- The slot of a bound, if it is given. -/
def boundSlot? (type : OrdinalType) (bound : Option Json) :
    Except DefinitionError (Option (Slot Json)) :=
  match bound with
  | none => .ok none
  | some b => if type.isBound b then .ok (some (.literal b)) else .error (.invalidBound type b)

namespace ValidatorRecord

/-! ## Types and places -/

/-- The name that stands for a string that names the type of a document. -/
def typeIdName : String := "typeId"

/-- The validator is one of the property that names the type of a document. -/
def isTypeId (r : ValidatorRecord) : Bool :=
  r.type == typeIdName

/-- The type that a record names. -/
def dataType? (r : ValidatorRecord) : Option DataType :=
  if r.isTypeId then some .string else DataType.ofName? r.type

/-- A field that has no place on every type. -/
structure Placed where
  field : String
  given : Bool
  applies : Bool

/-- The fields that have no place on every type, in the order in which they are
    looked at. -/
def placed (r : ValidatorRecord) (type : DataType) : List Placed :=
  let ordinal := type.ordinal?.isSome
  let sized := type == .string || type == .array
  let reference := type == .attachmentReference
  let table := type == .hashtable
  [⟨"minimumValue", r.minimumValue.isSome, ordinal⟩,
    ⟨"minimumValueExclusive", r.minimumValueExclusive.isSome, ordinal⟩,
    ⟨"maximumValue", r.maximumValue.isSome, ordinal⟩,
    ⟨"maximumValueExclusive", r.maximumValueExclusive.isSome, ordinal⟩,
    ⟨"regexPattern", r.regexPattern.isSome, type == .string || reference⟩,
    ⟨"minimumLength", r.minimumLength.isSome, sized⟩,
    ⟨"maximumLength", r.maximumLength.isSome, sized⟩,
    ⟨"minimumSize", r.minimumSize.isSome, table⟩,
    ⟨"maximumSize", r.maximumSize.isSome, table || reference⟩,
    ⟨"predefinedValues", r.predefinedValues.isSome, type == .enumeration⟩,
    ⟨"propertyValidators", r.propertyValidators.isSome, type == .object⟩,
    ⟨"allowUnknownProperties", r.allowUnknownProperties.isSome, type == .object⟩,
    ⟨"arrayElementsValidator", r.arrayElementsValidator.isSome, type == .array⟩,
    ⟨"hashtableKeysValidator", r.hashtableKeysValidator.isSome, table⟩,
    ⟨"hashtableValuesValidator", r.hashtableValuesValidator.isSome, table⟩,
    ⟨"supportedExtensions", r.supportedExtensions.isSome, reference⟩,
    ⟨"supportedContentTypes", r.supportedContentTypes.isSome, reference⟩]

/-- The first field that is given but has no place on the type. -/
def misplaced? (r : ValidatorRecord) (type : DataType) : Option String :=
  ((r.placed type).find? fun p => p.given && !p.applies).map Placed.field

/-! ## Rules -/

/-- The rules that all types share. A type identifier must be given, not be
    empty and not change. -/
def commonRules (r : ValidatorRecord) : CommonRules :=
  { required := .literal (r.required || r.isTypeId)
    mustNotBeEmpty := .literal (r.mustNotBeEmpty || r.isTypeId)
    immutable := .literal (r.immutable || r.isTypeId)
    immutableWhenSet := .literal r.immutableWhenSet
    mustEqual := slot? r.mustEqual }

/-- The range of an ordinal type. -/
def range (r : ValidatorRecord) (type : OrdinalType) : Except DefinitionError RangeRules := do
  return {
    minimum := ← boundSlot? type r.minimumValue
    exclusiveMinimum := ← boundSlot? type r.minimumValueExclusive
    maximum := ← boundSlot? type r.maximumValue
    exclusiveMaximum := ← boundSlot? type r.maximumValueExclusive }

/-- The rules for the keys of a hashtable. -/
def keyRules (r : ValidatorRecord) : Except DefinitionError (Option KeyRules) :=
  match r.hashtableKeysValidator with
  | none => .ok none
  | some k => do
    return some {
      mustNotBeEmpty := .literal k.mustNotBeEmpty, pattern := ← patternSlot? k.regexPattern }

/-- What reads a validator at a location. -/
abbrev ReadValidator := String → Json → Except DefinitionError Validator

/-- The validators of declared properties. -/
def properties (child : ReadValidator) (location : String) :
    Entries Json → Except DefinitionError Properties
  | [] => .ok []
  | (name, v) :: rest => do
    let validator ← child (location ++ "." ++ name) v
    return (name, validator) :: (← properties child location rest)

/-- A validator below, if it is given. -/
def below (child : ReadValidator) (location : String) :
    Option Json → Except DefinitionError (Option Validator)
  | none => .ok none
  | some v => do return some (← child (location ++ "[]") v)

/-- The validator of a record that names a type, without regard to misplaced
    fields. -/
def ofType (r : ValidatorRecord) (child : ReadValidator) (location : String) :
    DataType → Except DefinitionError Validator
  | .string => do
    return .scalar r.commonRules (.string (← patternSlot? r.regexPattern)
      ⟨slot? r.minimumLength, slot? r.maximumLength⟩)
  | .ordinal t => do return .scalar r.commonRules (.ordinal t (← r.range t))
  | .boolean => .ok (.scalar r.commonRules .boolean)
  | .any => .ok (.scalar r.commonRules .any)
  | .enumeration =>
    match r.predefinedValues with
    | none => .error (.malformed location .missingValues)
    | some values => .ok (.scalar r.commonRules (.enumeration (.literal values)))
  | .object => do
    let declared ← match r.propertyValidators with
      | none => pure none
      | some fields => some <$> properties child location fields
    return .object r.commonRules declared (.literal (r.allowUnknownProperties.getD false))
  | .array => do
    return .array r.commonRules ⟨slot? r.minimumLength, slot? r.maximumLength⟩
      (← below child location r.arrayElementsValidator)
  | .hashtable => do
    let keys ← r.keyRules
    return .hashtable r.commonRules ⟨slot? r.minimumSize, slot? r.maximumSize⟩ keys
      (← below child location r.hashtableValuesValidator)
  | .attachmentReference => do
    return .scalar r.commonRules (.attachmentReference {
      pattern := ← patternSlot? r.regexPattern
      supportedExtensions := slot? r.supportedExtensions
      supportedContentTypes := slot? r.supportedContentTypes
      maximumSize := slot? r.maximumSize })

/-- A value that must be equalled has to be comparable, for ordinal types. -/
def checkEqual (r : ValidatorRecord) (type : DataType) : Except DefinitionError Unit :=
  match type.ordinal?, r.mustEqual with
  | some t, some v => if t.isBound v then .ok () else .error (.invalidBound t v)
  | _, _ => .ok ()

/-- The validator of a record, where another reader reads the validators
    below it. -/
def validator (r : ValidatorRecord) (child : ReadValidator) (location : String) :
    Except DefinitionError Validator :=
  match r.dataType? with
  | none => .error (.unknownType r.type location)
  | some type =>
    match r.misplaced? type with
    | some field => .error (.malformed location (.misplacedField field type))
    | none => do
      let v ← r.ofType child location type
      r.checkEqual type
      return v

end ValidatorRecord

/-! ## Reading -/

/-- A validator that nests no deeper than a bound. -/
def Validator.readWithin : Nat → ValidatorRecord.ReadValidator
  | 0, location, _ => .error (.malformed location .undecodable)
  | depth + 1, location, v =>
    match ValidatorRecord.ofJson? v with
    | none => .error (.malformed location .undecodable)
    | some r => r.validator (readWithin depth) location

/-- The validator that a value describes. A validator below another stands
    deeper in the value, so the depth of the value bounds the nesting. -/
def Validator.ofJson (location : String) (v : Json) : Except DefinitionError Validator :=
  Validator.readWithin v.depth location v

end WritePolicy
