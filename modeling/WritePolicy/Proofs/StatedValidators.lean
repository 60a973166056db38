import WritePolicy.Proofs.StatedFields

/-! # What validators state

    The reader of validators goes by three lists: which fields have a place on a type,
    how a node of a type is made, and which validators are below. Here a fourth list is
    set beside them, the slots of a node by the names of their fields
    (`Validator.slots`), and what is loaded is compared with it: every slot is filled from
    its field, and every field that states something has a slot
    (`ValidatorRecord.StatesNode`). The children of a node are those that its fields
    state, in order (`Json.States`).

    That is shown by induction on the depth of the reader (`Validator.readWithin_states`),
    with one case for each type and an arbitrary reader of the validators below.
-/

namespace WritePolicy

/-! ## Slots of a node -/

/-- The slots that all types share, by the names of their fields. -/
def CommonRules.slots (r : CommonRules) : List (String × FieldSlot) :=
  [("required", .flag r.required), ("mustNotBeEmpty", .flag r.mustNotBeEmpty),
    ("immutable", .flag r.immutable), ("immutableWhenSet", .flag r.immutableWhenSet),
    ("mustEqual", .value r.mustEqual)]

/-- The slots of a scalar type. -/
def Scalar.slots : Scalar → List (String × FieldSlot)
  | string pattern length =>
    [("regexPattern", .pattern pattern), ("minimumLength", .count length.minimum),
      ("maximumLength", .count length.maximum)]
  | ordinal _ range =>
    [("minimumValue", .value range.minimum),
      ("minimumValueExclusive", .value range.exclusiveMinimum),
      ("maximumValue", .value range.maximum),
      ("maximumValueExclusive", .value range.exclusiveMaximum)]
  | boolean | any => []
  | enumeration allowed => [("predefinedValues", .values allowed)]
  | attachmentReference rules =>
    [("regexPattern", .pattern rules.pattern), ("maximumSize", .count rules.maximumSize),
      ("supportedExtensions", .texts rules.supportedExtensions),
      ("supportedContentTypes", .texts rules.supportedContentTypes)]

namespace Validator

/-- The slots that are specific to the type of a node. -/
def typeSlots : Validator → List (String × FieldSlot)
  | scalar _ type => type.slots
  | object _ properties allowUnknown =>
    [("propertyValidators", .nested properties.isSome),
      ("allowUnknownProperties", .flag allowUnknown)]
  | array _ length elements =>
    [("minimumLength", .count length.minimum), ("maximumLength", .count length.maximum),
      ("arrayElementsValidator", .nested elements.isSome)]
  | hashtable _ size keys values =>
    [("minimumSize", .count size.minimum), ("maximumSize", .count size.maximum),
      ("hashtableKeysValidator", .keys keys),
      ("hashtableValuesValidator", .nested values.isSome)]

/-- The slots of a node, by the names of their fields. -/
def slots (v : Validator) : List (String × FieldSlot) :=
  v.rules.slots ++ v.typeSlots

end Validator

/-- The names of the slots that all types share. -/
def sharedNames : List String :=
  ["required", "mustNotBeEmpty", "immutable", "immutableWhenSet", "mustEqual"]

/-- The names of the slots that are specific to a type. -/
def DataType.fieldNames : DataType → List String
  | string => ["regexPattern", "minimumLength", "maximumLength"]
  | ordinal _ =>
    ["minimumValue", "minimumValueExclusive", "maximumValue", "maximumValueExclusive"]
  | boolean | any => []
  | enumeration => ["predefinedValues"]
  | object => ["propertyValidators", "allowUnknownProperties"]
  | array => ["minimumLength", "maximumLength", "arrayElementsValidator"]
  | hashtable =>
    ["minimumSize", "maximumSize", "hashtableKeysValidator", "hashtableValuesValidator"]
  | attachmentReference =>
    ["regexPattern", "maximumSize", "supportedExtensions", "supportedContentTypes"]

theorem CommonRules.map_slots (r : CommonRules) : r.slots.map (·.1) = sharedNames :=
  rfl

theorem Validator.map_typeSlots (v : Validator) :
    v.typeSlots.map (·.1) = v.dataType.fieldNames := by
  cases v with
  | scalar rules type => cases type <;> rfl
  | object | array | hashtable => rfl

theorem Validator.map_slots (v : Validator) :
    v.slots.map (·.1) = sharedNames ++ v.dataType.fieldNames := by
  unfold slots
  rw [List.map_append, CommonRules.map_slots, map_typeSlots]

/-! ## Validators below a node -/

/-- Where a validator stands below another. -/
inductive Branch where
  | property (name : String)
  | elements
  | values

/-- Declared properties, as validators below. -/
def asBranches {α : Type} (entries : Entries α) : List (Branch × α) :=
  entries.map fun e => (.property e.1, e.2)

/-- The validators below a node, in order. -/
def Validator.children : Validator → List (Branch × Validator)
  | scalar _ _ => []
  | object _ properties _ => asBranches (properties.getD [])
  | array _ _ elements => elements.toList.map (Branch.elements, ·)
  | hashtable _ _ _ values => values.toList.map (Branch.values, ·)

/-- The properties that the fields of a record declare. -/
def declaredBranches (fields : Entries Json) : List (Branch × Json) :=
  match Json.given? fields "propertyValidators" with
  | some (.object entries) => asBranches entries
  | _ => []

namespace ValidatorRecord

/-- The validators that the fields of a validator state below it, in order. -/
def children (fields : Entries Json) : List (Branch × Json) :=
  declaredBranches fields ++
    (Json.given? fields "arrayElementsValidator").toList.map (Branch.elements, ·) ++
    (Json.given? fields "hashtableValuesValidator").toList.map (Branch.values, ·)

/-! ## What the fields of a validator state -/

/-- The name of a type that fields give. -/
def typeName? (fields : Entries Json) : Option String :=
  (Json.given? fields "type").bind Json.asString?

/-- What the name `typeId` stands for: a string that must be given, not be empty and not
    change. -/
def typeIdFields : Entries Json :=
  [("type", .string "string"), ("required", .bool true), ("mustNotBeEmpty", .bool true),
    ("immutable", .bool true)]

/-- What the fields of a validator state under a name. -/
def stated? (fields : Entries Json) (name : String) : Option Json :=
  if typeName? fields = some typeIdName then
    (Entries.get? name typeIdFields).or (Json.given? fields name)
  else Json.given? fields name

/-- Fields state a node: it is of the type that is named, its slots are filled, and what
    bounds or equals ordinal values is comparable with them. -/
structure StatesNode (fields : Entries Json) (v : Validator) : Prop where
  type : stated? fields "type" = some (.string v.dataType.name)
  slots : FilledSlots v.slots (stated? fields) ["type"]
  bounds : ∀ t, v.dataType = .ordinal t → ∀ name ∈ "mustEqual" :: v.dataType.fieldNames,
    ∀ x, stated? fields name = some x → t.isBound x = true
  noCustomValidation : v.rules.customValidation = none

end ValidatorRecord

namespace Json

mutual

/-- A value states a validator, and what it states below are the validators below. -/
inductive States : Json → Validator → Prop where
  | node {x : Json} {v : Validator} {fields : Entries Json} :
      x.Writes ValidatorRecord.declared fields → ValidatorRecord.StatesNode fields v →
      StatesAll (ValidatorRecord.children fields) v.children → States x v

/-- Values state validators one by one, on the same branches. -/
inductive StatesAll : List (Branch × Json) → List (Branch × Validator) → Prop where
  | nil : StatesAll [] []
  | cons {branch : Branch} {x : Json} {v : Validator} {xs : List (Branch × Json)}
      {vs : List (Branch × Validator)} :
      States x v → StatesAll xs vs → StatesAll ((branch, x) :: xs) ((branch, v) :: vs)

end

end Json

/-! ## Decoded validators -/

namespace ValidatorRecord

/-- A record is decoded from fields, each by the decoder of its kind. -/
structure DecodedFrom (r : ValidatorRecord) (fields : Entries Json) : Prop where
  type : Json.requiredField? fields "type" Json.asString? = some r.type
  required : Json.defaultField? fields "required" false Json.asBool? = some r.required
  mustNotBeEmpty :
    Json.defaultField? fields "mustNotBeEmpty" false Json.asBool? = some r.mustNotBeEmpty
  immutable : Json.defaultField? fields "immutable" false Json.asBool? = some r.immutable
  immutableWhenSet :
    Json.defaultField? fields "immutableWhenSet" false Json.asBool? = some r.immutableWhenSet
  mustEqual : Json.optionalField? fields "mustEqual" Json.asIs? = some r.mustEqual
  minimumValue : Json.optionalField? fields "minimumValue" Json.asIs? = some r.minimumValue
  minimumValueExclusive :
    Json.optionalField? fields "minimumValueExclusive" Json.asIs? = some r.minimumValueExclusive
  maximumValue : Json.optionalField? fields "maximumValue" Json.asIs? = some r.maximumValue
  maximumValueExclusive :
    Json.optionalField? fields "maximumValueExclusive" Json.asIs? = some r.maximumValueExclusive
  regexPattern : Json.optionalField? fields "regexPattern" Json.asString? = some r.regexPattern
  minimumLength : Json.optionalField? fields "minimumLength" Json.asCount? = some r.minimumLength
  maximumLength : Json.optionalField? fields "maximumLength" Json.asCount? = some r.maximumLength
  minimumSize : Json.optionalField? fields "minimumSize" Json.asCount? = some r.minimumSize
  maximumSize : Json.optionalField? fields "maximumSize" Json.asCount? = some r.maximumSize
  predefinedValues :
    Json.optionalField? fields "predefinedValues" Json.asArray? = some r.predefinedValues
  propertyValidators :
    Json.optionalField? fields "propertyValidators" Json.asObject? = some r.propertyValidators
  allowUnknownProperties :
    Json.optionalField? fields "allowUnknownProperties" Json.asBool? =
      some r.allowUnknownProperties
  arrayElementsValidator :
    Json.optionalField? fields "arrayElementsValidator" Json.asIs? =
      some r.arrayElementsValidator
  hashtableKeysValidator :
    Json.optionalField? fields "hashtableKeysValidator" KeyRecord.ofJson? =
      some r.hashtableKeysValidator
  hashtableValuesValidator :
    Json.optionalField? fields "hashtableValuesValidator" Json.asIs? =
      some r.hashtableValuesValidator
  supportedExtensions :
    Json.optionalField? fields "supportedExtensions" Json.asStrings? =
      some r.supportedExtensions
  supportedContentTypes :
    Json.optionalField? fields "supportedContentTypes" Json.asStrings? =
      some r.supportedContentTypes

theorem decodedFrom_of_ofJson? {v : Json} {r : ValidatorRecord} (h : ofJson? v = some r) :
    ∃ fields, v.Writes declared fields ∧ r.DecodedFrom fields := by
  -- the fields are decoded one after the other
  obtain ⟨fields, hfields, h⟩ := Option.bind_eq_some_iff.mp h
  obtain ⟨_, htype, h⟩ := Option.bind_eq_some_iff.mp h
  obtain ⟨_, hrequired, h⟩ := Option.bind_eq_some_iff.mp h
  obtain ⟨_, hnotEmpty, h⟩ := Option.bind_eq_some_iff.mp h
  obtain ⟨_, himmutable, h⟩ := Option.bind_eq_some_iff.mp h
  obtain ⟨_, hwhenSet, h⟩ := Option.bind_eq_some_iff.mp h
  obtain ⟨_, hequal, h⟩ := Option.bind_eq_some_iff.mp h
  obtain ⟨_, hmin, h⟩ := Option.bind_eq_some_iff.mp h
  obtain ⟨_, hminX, h⟩ := Option.bind_eq_some_iff.mp h
  obtain ⟨_, hmax, h⟩ := Option.bind_eq_some_iff.mp h
  obtain ⟨_, hmaxX, h⟩ := Option.bind_eq_some_iff.mp h
  obtain ⟨_, hpattern, h⟩ := Option.bind_eq_some_iff.mp h
  obtain ⟨_, hminLength, h⟩ := Option.bind_eq_some_iff.mp h
  obtain ⟨_, hmaxLength, h⟩ := Option.bind_eq_some_iff.mp h
  obtain ⟨_, hminSize, h⟩ := Option.bind_eq_some_iff.mp h
  obtain ⟨_, hmaxSize, h⟩ := Option.bind_eq_some_iff.mp h
  obtain ⟨_, hvalues, h⟩ := Option.bind_eq_some_iff.mp h
  obtain ⟨_, hproperties, h⟩ := Option.bind_eq_some_iff.mp h
  obtain ⟨_, hallow, h⟩ := Option.bind_eq_some_iff.mp h
  obtain ⟨_, helements, h⟩ := Option.bind_eq_some_iff.mp h
  obtain ⟨_, hkeys, h⟩ := Option.bind_eq_some_iff.mp h
  obtain ⟨_, hentries, h⟩ := Option.bind_eq_some_iff.mp h
  obtain ⟨_, hextensions, h⟩ := Option.bind_eq_some_iff.mp h
  obtain ⟨_, htypes, h⟩ := Option.bind_eq_some_iff.mp h
  cases h
  exact ⟨fields, Json.writes_of_recordFields? hfields, htype, hrequired, hnotEmpty, himmutable,
    hwhenSet, hequal, hmin, hminX, hmax, hmaxX, hpattern, hminLength, hmaxLength, hminSize,
    hmaxSize, hvalues, hproperties, hallow, helements, hkeys, hentries, hextensions, htypes⟩

variable {r : ValidatorRecord} {fields : Entries Json} {type : DataType} {name : String}

/-! ### Names of types -/

theorem DecodedFrom.given?_type (hr : r.DecodedFrom fields) :
    Json.given? fields "type" = some (.string r.type) := by
  obtain ⟨x, hx, hs⟩ := Option.bind_eq_some_iff.mp hr.type
  unfold Json.given?
  rw [hx, Json.eq_string_of_asString? hs]
  rfl

theorem DecodedFrom.typeName? (hr : r.DecodedFrom fields) : typeName? fields = some r.type := by
  unfold ValidatorRecord.typeName?
  rw [hr.given?_type]
  rfl

/-- What `typeId` does not stand for is stated by the fields themselves. -/
theorem stated?_eq_given? (h : Entries.get? name typeIdFields = none) :
    stated? fields name = Json.given? fields name := by
  unfold stated?
  rw [h]
  exact ite_self _

theorem stated?_of_isTypeId (hr : r.DecodedFrom fields) (h : r.isTypeId = true) :
    stated? fields name = (Entries.get? name typeIdFields).or (Json.given? fields name) := by
  unfold stated?
  rw [hr.typeName?, eq_of_beq h, if_pos rfl]

theorem stated?_of_not_isTypeId (hr : r.DecodedFrom fields) (h : r.isTypeId = false) :
    stated? fields name = Json.given? fields name := by
  unfold stated?
  rw [hr.typeName?, if_neg]
  intro hname
  rw [isTypeId, Option.some.inj hname, beq_self_eq_true] at h
  cases h

/-- The type of a record is the one that its fields name. -/
theorem stated?_type (hr : r.DecodedFrom fields) (htype : r.dataType? = some type) :
    stated? fields "type" = some (.string type.name) := by
  unfold dataType? at htype
  cases hid : r.isTypeId with
  | true =>
    rw [hid, if_pos rfl] at htype
    cases htype
    rw [stated?_of_isTypeId hr hid]
    rfl
  | false =>
    rw [hid] at htype
    have hfound : DataType.all.find? (fun t => t.name == r.type) = some type := htype
    have hbeq := List.find?_some hfound
    have hname : type.name = r.type := eq_of_beq hbeq
    rw [stated?_of_not_isTypeId hr hid, hr.given?_type, hname]

/-! ### Shared slots -/

/-- A flag that `typeId` stands for is on if that is the type. -/
theorem filled_flag_or (hr : r.DecodedFrom fields) {b : Bool}
    (hname : Entries.get? name typeIdFields = some (.bool true))
    (h : Json.defaultField? fields name false Json.asBool? = some b) :
    (FieldSlot.flag (.literal (b || r.isTypeId))).FilledFrom (stated? fields name) := by
  cases hid : r.isTypeId with
  | true =>
    rw [stated?_of_isTypeId hr hid, hname, Bool.or_true]
    exact .flag true
  | false =>
    rw [stated?_of_not_isTypeId hr hid, Bool.or_false]
    exact filled_flag h

theorem filled_commonRules (hr : r.DecodedFrom fields) :
    ∀ e ∈ r.commonRules.slots, e.2.FilledFrom (stated? fields e.1) := by
  have hwhenSet : stated? fields "immutableWhenSet" = Json.given? fields "immutableWhenSet" :=
    stated?_eq_given? rfl
  have hequal : stated? fields "mustEqual" = Json.given? fields "mustEqual" :=
    stated?_eq_given? rfl
  unfold CommonRules.slots commonRules
  simp only [List.forall_mem_cons, hwhenSet, hequal]
  exact ⟨filled_flag_or hr rfl hr.required, filled_flag_or hr rfl hr.mustNotBeEmpty,
    filled_flag_or hr rfl hr.immutable, filled_flag hr.immutableWhenSet, filled_value hr.mustEqual,
    nofun⟩

/-! ### Fields that have a place -/

/-- The names of the fields that have no place on every type. -/
def placedNames : List String :=
  ["minimumValue", "minimumValueExclusive", "maximumValue", "maximumValueExclusive",
    "regexPattern", "minimumLength", "maximumLength", "minimumSize", "maximumSize",
    "predefinedValues", "propertyValidators", "allowUnknownProperties",
    "arrayElementsValidator", "hashtableKeysValidator", "hashtableValuesValidator",
    "supportedExtensions", "supportedContentTypes"]

theorem map_placed (r : ValidatorRecord) (type : DataType) :
    (r.placed type).map Placed.field = placedNames :=
  rfl

/-- A declared field is the type, has a place on every type, or is one of the others. -/
theorem declared_cases {d : RecordField} (h : d ∈ declared) :
    d.name = "type" ∨ d.name ∈ sharedNames ∨ d.name ∈ placedNames := by
  revert h
  revert d
  decide

/-- Where a field applies, there is a slot for it. -/
theorem field_mem_fieldNames (r : ValidatorRecord) (type : DataType) :
    ∀ p ∈ r.placed type, p.applies = true → p.field ∈ type.fieldNames := by
  have htable : (r.placed type).all (fun p => !p.applies || type.fieldNames.contains p.field) =
      true := by
    cases type with
    | ordinal t => cases t <;> rfl
    | _ => rfl
  intro p hp happlies
  have hfield := List.all_eq_true.mp htable p hp
  rw [happlies, Bool.not_true, Bool.false_or] at hfield
  exact List.contains_iff_mem.mp hfield

/-- A field counts as given if it states something. -/
theorem given_eq (hr : r.DecodedFrom fields) (type : DataType) :
    ∀ p ∈ r.placed type, p.given = (Json.given? fields p.field).isSome := by
  unfold placed
  simp only [List.forall_mem_cons]
  exact ⟨Json.isSome_of_optionalField? hr.minimumValue,
    Json.isSome_of_optionalField? hr.minimumValueExclusive,
    Json.isSome_of_optionalField? hr.maximumValue,
    Json.isSome_of_optionalField? hr.maximumValueExclusive,
    Json.isSome_of_optionalField? hr.regexPattern,
    Json.isSome_of_optionalField? hr.minimumLength,
    Json.isSome_of_optionalField? hr.maximumLength,
    Json.isSome_of_optionalField? hr.minimumSize,
    Json.isSome_of_optionalField? hr.maximumSize,
    Json.isSome_of_optionalField? hr.predefinedValues,
    Json.isSome_of_optionalField? hr.propertyValidators,
    Json.isSome_of_optionalField? hr.allowUnknownProperties,
    Json.isSome_of_optionalField? hr.arrayElementsValidator,
    Json.isSome_of_optionalField? hr.hashtableKeysValidator,
    Json.isSome_of_optionalField? hr.hashtableValuesValidator,
    Json.isSome_of_optionalField? hr.supportedExtensions,
    Json.isSome_of_optionalField? hr.supportedContentTypes, nofun⟩

/-- If nothing is misplaced, a field that states something has a slot on the type. -/
theorem mem_fieldNames_of_given? (hr : r.DecodedFrom fields) (hplaced : r.misplaced? type = none)
    (hname : name ∈ placedNames) {x : Json} (hx : Json.given? fields name = some x) :
    name ∈ type.fieldNames := by
  rw [← map_placed r type] at hname
  obtain ⟨p, hp, rfl⟩ := List.mem_map.mp hname
  have hgiven : p.given = true := by
    rw [given_eq hr type p hp, hx]
    rfl
  have hfits := List.find?_eq_none.mp (Option.map_eq_none_iff.mp hplaced) p hp
  simp only [hgiven, Bool.true_and, Bool.not_eq_true, Bool.not_eq_false'] at hfits
  exact field_mem_fieldNames r type p hp hfits

theorem given?_eq_none (hr : r.DecodedFrom fields) (hplaced : r.misplaced? type = none)
    (name : String) (hname : name ∈ placedNames) (hnot : name ∉ type.fieldNames) :
    Json.given? fields name = none := by
  cases hx : Json.given? fields name with
  | none => rfl
  | some x => exact absurd (mem_fieldNames_of_given? hr hplaced hname hx) hnot

/-! ## Nodes of each type -/

/-- A node of a type is made of the fields: it has the type and the shared rules, the slots
    of the type are filled, bounds are comparable, and the validators below are stated. -/
structure MadeOf (r : ValidatorRecord) (fields : Entries Json) (type : DataType)
    (v : Validator) : Prop where
  dataType : v.dataType = type
  rules : v.rules = r.commonRules
  slots : ∀ e ∈ v.typeSlots, e.2.FilledFrom (Json.given? fields e.1)
  bounds : ∀ t, type = .ordinal t → ∀ name ∈ type.fieldNames,
    ∀ x, Json.given? fields name = some x → t.isBound x = true
  children : Json.StatesAll (children fields) v.children

variable {child : ReadValidator} {location : String}

/-- Declared properties are stated in their order if the validators are. -/
theorem properties_states
    (hchild : ∀ {location x v}, child location x = .ok v → x.States v)
    {entries : Entries Json} {declared : Properties}
    (h : properties child location entries = .ok declared) :
    Json.StatesAll (asBranches entries) (asBranches declared) := by
  induction entries generalizing declared with
  | nil =>
    cases h
    exact .nil
  | cons e rest ih =>
    obtain ⟨v, hv, h⟩ := bind_eq_ok.mp h
    obtain ⟨others, hothers, h⟩ := bind_eq_ok.mp h
    cases h
    exact .cons (hchild hv) (ih hothers)

/-- A validator below is stated if it is given. -/
theorem below_states
    (hchild : ∀ {location x v}, child location x = .ok v → x.States v)
    (h : Json.optionalField? fields name Json.asIs? = some stated)
    {v : Option Validator} (hread : below child location stated = .ok v) (branch : Branch) :
    (FieldSlot.nested v.isSome).FilledFrom (Json.given? fields name) ∧
      Json.StatesAll ((Json.given? fields name).toList.map (branch, ·))
        (v.toList.map (branch, ·)) := by
  obtain ⟨hnone, rfl⟩ | ⟨x, a, hx, ha, rfl⟩ := Json.optionalField?_cases h
  · cases hread
    rw [hnone]
    exact ⟨.notNested, .nil⟩
  · cases ha
    obtain ⟨w, hw, hread⟩ := bind_eq_ok.mp hread
    cases hread
    rw [hx]
    exact ⟨.nested x, .cons (hchild hw) .nil⟩

/-- A type without properties below declares none. -/
theorem declaredBranches_eq_nil (hr : r.DecodedFrom fields) (hplaced : r.misplaced? type = none)
    (hnot : "propertyValidators" ∉ type.fieldNames) : declaredBranches fields = [] := by
  unfold declaredBranches
  rw [given?_eq_none hr hplaced _ (by decide) hnot]

/-- Only objects, arrays and hashtables state validators below. -/
theorem children_eq_nil (hr : r.DecodedFrom fields) (hplaced : r.misplaced? type = none)
    (hproperties : "propertyValidators" ∉ type.fieldNames)
    (helements : "arrayElementsValidator" ∉ type.fieldNames)
    (hvalues : "hashtableValuesValidator" ∉ type.fieldNames) : children fields = [] := by
  unfold children
  rw [declaredBranches_eq_nil hr hplaced hproperties,
    given?_eq_none hr hplaced _ (by decide) helements, given?_eq_none hr hplaced _ (by decide) hvalues]
  rfl

/-- Scalar types have no slots for validators below. -/
theorem not_mem_fieldNames_scalar (t : Scalar) :
    ∀ name ∈ ["propertyValidators", "arrayElementsValidator", "hashtableValuesValidator"],
      name ∉ t.dataType.fieldNames := by
  cases t <;> simp only [Scalar.dataType, DataType.fieldNames] <;> decide

/-- A node of a scalar type is made of the fields if its own slots are filled. -/
theorem madeOf_scalar {t : Scalar} (hr : r.DecodedFrom fields)
    (hplaced : r.misplaced? t.dataType = none)
    (hslots : ∀ e ∈ t.slots, e.2.FilledFrom (Json.given? fields e.1))
    (hbounds : ∀ o, t.dataType = .ordinal o → ∀ name ∈ t.dataType.fieldNames,
      ∀ x, Json.given? fields name = some x → o.isBound x = true) :
    r.MadeOf fields t.dataType (.scalar r.commonRules t) where
  dataType := rfl
  rules := rfl
  slots := hslots
  bounds := hbounds
  children := by
    have hnot := not_mem_fieldNames_scalar t
    rw [children_eq_nil hr hplaced (hnot _ (by decide)) (hnot _ (by decide)) (hnot _ (by decide))]
    exact .nil

/-- The range of an ordinal type is filled from its fields, which can bound its values. -/
theorem madeOf_ordinal {t : OrdinalType} {range : RangeRules} (hr : r.DecodedFrom fields)
    (hplaced : r.misplaced? (.ordinal t) = none) (hrange : r.range t = .ok range) :
    r.MadeOf fields (.ordinal t) (.scalar r.commonRules (.ordinal t range)) := by
  obtain ⟨minimum, hmin, hrange⟩ := bind_eq_ok.mp hrange
  obtain ⟨exclusiveMinimum, hminX, hrange⟩ := bind_eq_ok.mp hrange
  obtain ⟨maximum, hmax, hrange⟩ := bind_eq_ok.mp hrange
  obtain ⟨exclusiveMaximum, hmaxX, hrange⟩ := bind_eq_ok.mp hrange
  cases hrange
  have hminimum := filled_bound hr.minimumValue hmin
  have hexclusiveMinimum := filled_bound hr.minimumValueExclusive hminX
  have hmaximum := filled_bound hr.maximumValue hmax
  have hexclusiveMaximum := filled_bound hr.maximumValueExclusive hmaxX
  refine madeOf_scalar (t := .ordinal t _) hr hplaced ?_ ?_
  · unfold Scalar.slots
    simp only [List.forall_mem_cons]
    exact ⟨hminimum.1, hexclusiveMinimum.1, hmaximum.1, hexclusiveMaximum.1, nofun⟩
  · intro o ho
    cases ho
    unfold Scalar.dataType DataType.fieldNames
    simp only [List.forall_mem_cons]
    exact ⟨hminimum.2, hexclusiveMinimum.2, hmaximum.2, hexclusiveMaximum.2, nofun⟩

/-- An object is made of the fields if its properties are those that are declared. -/
theorem madeOf_object {declared : Option Properties} (hr : r.DecodedFrom fields)
    (hplaced : r.misplaced? .object = none)
    (hnested : (FieldSlot.nested declared.isSome).FilledFrom
      (Json.given? fields "propertyValidators"))
    (hdeclared : Json.StatesAll (declaredBranches fields) (asBranches (declared.getD []))) :
    r.MadeOf fields .object
      (.object r.commonRules declared (.literal (r.allowUnknownProperties.getD false))) where
  dataType := rfl
  rules := rfl
  slots := by
    unfold Validator.typeSlots
    simp only [List.forall_mem_cons]
    exact ⟨hnested, filled_switch hr.allowUnknownProperties, nofun⟩
  bounds := nofun
  children := by
    unfold children
    rw [given?_eq_none hr hplaced "arrayElementsValidator" (by decide) (by decide),
      given?_eq_none hr hplaced "hashtableValuesValidator" (by decide) (by decide)]
    exact ((List.append_nil _).trans (List.append_nil _)).symm ▸ hdeclared

/-- The properties of an object are read if they are given. -/
theorem madeOf_of_object
    (hchild : ∀ {location x v}, child location x = .ok v → x.States v)
    (hr : r.DecodedFrom fields) (hplaced : r.misplaced? .object = none) {v : Validator}
    (h : r.ofType child location .object = .ok v) : r.MadeOf fields .object v := by
  unfold ofType at h
  obtain ⟨hmissing, hstated⟩ | ⟨x, entries, hx, hentries, hstated⟩ :=
    Json.optionalField?_cases hr.propertyValidators
  · rw [hstated] at h
    cases h
    refine madeOf_object hr hplaced (hmissing ▸ .notNested) ?_
    unfold declaredBranches
    rw [hmissing]
    exact .nil
  · rw [hstated] at h
    obtain ⟨_, hread, h⟩ := bind_eq_ok.mp h
    obtain ⟨properties, hproperties, rfl⟩ := map_eq_ok.mp hread
    cases h
    refine madeOf_object hr hplaced (hx ▸ .nested x) ?_
    unfold declaredBranches
    rw [hx, Json.eq_object_of_asObject? hentries]
    exact properties_states hchild hproperties

theorem madeOf_array
    (hchild : ∀ {location x v}, child location x = .ok v → x.States v)
    (hr : r.DecodedFrom fields) (hplaced : r.misplaced? .array = none)
    {elements : Option Validator}
    (helements : below child location r.arrayElementsValidator = .ok elements) :
    r.MadeOf fields .array
      (.array r.commonRules ⟨slot? r.minimumLength, slot? r.maximumLength⟩ elements) := by
  obtain ⟨hnested, hbelow⟩ := below_states hchild hr.arrayElementsValidator helements .elements
  refine ⟨rfl, rfl, ?_, nofun, ?_⟩
  · unfold Validator.typeSlots
    simp only [List.forall_mem_cons]
    exact ⟨filled_count hr.minimumLength, filled_count hr.maximumLength, hnested, nofun⟩
  · unfold children
    rw [declaredBranches_eq_nil hr hplaced (by decide), List.nil_append,
      given?_eq_none hr hplaced "hashtableValuesValidator" (by decide) (by decide)]
    exact (List.append_nil _).symm ▸ hbelow

theorem madeOf_hashtable
    (hchild : ∀ {location x v}, child location x = .ok v → x.States v)
    (hr : r.DecodedFrom fields) (hplaced : r.misplaced? .hashtable = none)
    {keys : Option KeyRules} {values : Option Validator} (hkeys : r.keyRules = .ok keys)
    (hvalues : below child location r.hashtableValuesValidator = .ok values) :
    r.MadeOf fields .hashtable
      (.hashtable r.commonRules ⟨slot? r.minimumSize, slot? r.maximumSize⟩ keys values) := by
  obtain ⟨hnested, hbelow⟩ := below_states hchild hr.hashtableValuesValidator hvalues .values
  refine ⟨rfl, rfl, ?_, nofun, ?_⟩
  · unfold Validator.typeSlots
    simp only [List.forall_mem_cons]
    exact ⟨filled_count hr.minimumSize, filled_count hr.maximumSize,
      filled_keys hr.hashtableKeysValidator hkeys, hnested, nofun⟩
  · unfold children
    rw [declaredBranches_eq_nil hr hplaced (by decide), List.nil_append,
      given?_eq_none hr hplaced "arrayElementsValidator" (by decide) (by decide)]
    exact hbelow

/-- What is read as a node of a type is made of the fields. -/
theorem madeOf_of_ofType
    (hchild : ∀ {location x v}, child location x = .ok v → x.States v)
    (hr : r.DecodedFrom fields) (hplaced : r.misplaced? type = none) {v : Validator}
    (h : r.ofType child location type = .ok v) : r.MadeOf fields type v := by
  cases type with
  | string =>
    obtain ⟨pattern, hpattern, h⟩ := bind_eq_ok.mp h
    cases h
    refine madeOf_scalar (t := .string pattern _) hr hplaced ?_ nofun
    unfold Scalar.slots
    simp only [List.forall_mem_cons]
    exact ⟨filled_pattern hr.regexPattern hpattern, filled_count hr.minimumLength,
      filled_count hr.maximumLength, nofun⟩
  | ordinal t =>
    obtain ⟨range, hrange, h⟩ := bind_eq_ok.mp h
    cases h
    exact madeOf_ordinal hr hplaced hrange
  | boolean =>
    cases h
    exact madeOf_scalar (t := .boolean) hr hplaced nofun nofun
  | any =>
    cases h
    exact madeOf_scalar (t := .any) hr hplaced nofun nofun
  | enumeration =>
    unfold ofType at h
    obtain ⟨-, hstated⟩ | ⟨x, values, hx, hvalues, hstated⟩ :=
      Json.optionalField?_cases hr.predefinedValues
    · rw [hstated] at h
      cases h
    · rw [hstated] at h
      cases h
      refine madeOf_scalar (t := .enumeration _) hr hplaced ?_ nofun
      unfold Scalar.slots
      simp only [List.forall_mem_cons, hx, Json.eq_array_of_asArray? hvalues]
      exact ⟨.values values, nofun⟩
  | attachmentReference =>
    obtain ⟨pattern, hpattern, h⟩ := bind_eq_ok.mp h
    cases h
    refine madeOf_scalar (t := .attachmentReference _) hr hplaced ?_ nofun
    unfold Scalar.slots
    simp only [List.forall_mem_cons]
    exact ⟨filled_pattern hr.regexPattern hpattern, filled_count hr.maximumSize,
      filled_texts hr.supportedExtensions, filled_texts hr.supportedContentTypes, nofun⟩
  | object => exact madeOf_of_object hchild hr hplaced h
  | array =>
    obtain ⟨elements, helements, h⟩ := bind_eq_ok.mp h
    cases h
    exact madeOf_array hchild hr hplaced helements
  | hashtable =>
    obtain ⟨keys, hkeys, h⟩ := bind_eq_ok.mp h
    obtain ⟨values, hvalues, h⟩ := bind_eq_ok.mp h
    cases h
    exact madeOf_hashtable hchild hr hplaced hkeys hvalues

/-! ### All slots of a node -/

/-- What is stated is stated by the fields or by what `typeId` stands for. -/
theorem stated?_cases {x : Json} (h : stated? fields name = some x) :
    (name, x) ∈ typeIdFields ∨ Json.given? fields name = some x := by
  unfold stated? at h
  by_cases hid : typeName? fields = some typeIdName
  · rw [if_pos hid] at h
    cases hget : Entries.get? name typeIdFields with
    | none =>
      rw [hget] at h
      exact .inr h
    | some y =>
      rw [hget] at h
      cases h
      exact .inl (Entries.mem_of_get? hget)
  · rw [if_neg hid] at h
    exact .inr h

/-- What the fields give is stated, or something in its place. -/
theorem exists_stated? {x : Json} (h : Json.given? fields name = some x) :
    ∃ y, stated? fields name = some y := by
  unfold stated?
  by_cases hid : typeName? fields = some typeIdName
  · rw [if_pos hid, h]
    cases Entries.get? name typeIdFields with
    | none => exact ⟨x, rfl⟩
    | some y => exact ⟨y, rfl⟩
  · rw [if_neg hid]
    exact ⟨x, h⟩

/-- `typeId` states nothing that is specific to a type. -/
theorem stated?_fieldName (hname : name ∈ type.fieldNames) :
    stated? fields name = Json.given? fields name := by
  refine stated?_eq_given? ?_
  have hnames : ∀ name ∈ type.fieldNames, (Entries.get? name typeIdFields).isNone = true := by
    cases type <;> simp only [DataType.fieldNames] <;> decide
  exact Option.isNone_iff_eq_none.mp (hnames name hname)

/-- What must be equalled is comparable with the values of an ordinal type. -/
theorem isBound_of_checkEqual (hr : r.DecodedFrom fields) {t : OrdinalType}
    (h : r.checkEqual (.ordinal t) = .ok ()) {x : Json}
    (hx : Json.given? fields "mustEqual" = some x) : t.isBound x = true := by
  obtain ⟨hnone, -⟩ | ⟨y, a, hy, ha, hstated⟩ := Json.optionalField?_cases hr.mustEqual
  · rw [hnone] at hx
    cases hx
  · rw [hx] at hy
    cases hy
    cases ha
    unfold checkEqual at h
    rw [hstated] at h
    cases hb : t.isBound x with
    | true => rfl
    | false =>
      have herror : (if t.isBound x then .ok () else .error (.invalidBound t x) :
          Except DefinitionError Unit) = .ok () := h
      rw [hb] at herror
      cases herror

/-- A node that is made of fields, without misplaced ones, is stated by them. -/
theorem MadeOf.statesNode {v : Validator} {x : Json} (h : r.MadeOf fields type v)
    (hx : x.Writes declared fields) (hr : r.DecodedFrom fields)
    (htype : r.dataType? = some type) (hplaced : r.misplaced? type = none)
    (hequal : r.checkEqual type = .ok ()) : StatesNode fields v where
  type := by
    rw [h.dataType]
    exact stated?_type hr htype
  slots.filled := by
    intro e he
    rcases List.mem_append.mp he with he | he
    · rw [h.rules] at he
      exact filled_commonRules hr e he
    · have hname : e.1 ∈ v.dataType.fieldNames := by
        rw [← v.map_typeSlots]
        exact List.mem_map_of_mem he
      rw [stated?_fieldName hname]
      exact h.slots e he
  slots.placed := by
    intro name y hy
    rw [v.map_slots, h.dataType, List.mem_append, List.mem_singleton]
    rcases stated?_cases hy with hid | hgiven
    · have hshared : ∀ e ∈ typeIdFields, e.1 = "type" ∨ e.1 ∈ sharedNames := by decide
      exact (hshared _ hid).imp id .inl
    · obtain ⟨d, hd, rfl⟩ := hx.declared_of_given? hgiven
      rcases declared_cases hd with htype | hshared | hname
      · exact .inl htype
      · exact .inr (.inl hshared)
      · exact .inr (.inr (mem_fieldNames_of_given? hr hplaced hname hgiven))
  bounds := by
    intro t ht name hname y hy
    rw [h.dataType] at ht hname
    rcases List.mem_cons.mp hname with rfl | hname
    · subst ht
      exact isBound_of_checkEqual hr hequal ((stated?_eq_given? rfl).symm.trans hy)
    · exact h.bounds t ht name hname y ((stated?_fieldName hname).symm.trans hy)
  noCustomValidation := by
    rw [h.rules]
    rfl

end ValidatorRecord

/-- What is read as a validator states it, at any depth. -/
theorem Validator.readWithin_states {depth : Nat} {location : String} {x : Json} {v : Validator}
    (h : Validator.readWithin depth location x = .ok v) : x.States v := by
  -- a reader of one level more reads the validators below with one of a level less
  induction depth generalizing location x v with
  | zero => cases h
  | succ depth ih =>
    unfold Validator.readWithin at h
    cases hr : ValidatorRecord.ofJson? x with
    | none =>
      rw [hr] at h
      cases h
    | some r =>
      rw [hr] at h
      obtain ⟨fields, hfields, hdecoded⟩ := ValidatorRecord.decodedFrom_of_ofJson? hr
      obtain ⟨type, htype, hplaced, hread, hequal⟩ := ValidatorRecord.ofType_of_validator h
      have hmade := ValidatorRecord.madeOf_of_ofType ih hdecoded hplaced hread
      exact .node hfields (hmade.statesNode hfields hdecoded htype hplaced hequal) hmade.children

end WritePolicy
