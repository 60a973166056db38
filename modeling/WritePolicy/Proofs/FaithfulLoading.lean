import Mathlib.Data.List.Forall2
import WritePolicy.Proofs.DeclarationOrder
import WritePolicy.Proofs.Reading
import WritePolicy.Proofs.StatedValidators

/-! # The loader drops nothing

    A definition that is loaded has its slots filled from the fields of its record, and
    the validators that it declares are stated at every depth
    (`Json.StatesDefinition`).

    What a flaw anywhere in a tree comes to follows from that: a tree that is loaded
    states all its validators, and a flawed value states none (`Json.Flawed.not_states`).
    In a text every name is given once, so no definition takes the place of another.
-/

namespace WritePolicy

/-! ## Definitions -/

/-- The slots of the rules for attachments, by the names of their fields. -/
def AttachmentRules.slots (r : AttachmentRules) : List (String × FieldSlot) :=
  [("maximumAttachmentCount", .count r.maximumCount),
    ("maximumIndividualSize", .count r.maximumIndividualSize),
    ("maximumTotalSize", .count r.maximumTotalSize),
    ("supportedExtensions", .texts r.supportedExtensions),
    ("supportedContentTypes", .texts r.supportedContentTypes),
    ("filenameRegexPattern", .pattern r.filenamePattern),
    ("requireAttachmentReferences", .flag r.requireReferences)]

/-- The slots of a definition, by the names of their fields. -/
def Definition.slots (d : Definition) : List (String × FieldSlot) :=
  [("typeFilter", .filter d.typeFilter), ("channels", .grant d.authorization.channels),
    ("authorizedRoles", .grant d.authorization.roles),
    ("authorizedUsers", .grant d.authorization.users),
    ("grantAllMembersWriteAccess", .flag d.authorization.allMembers),
    ("cannotReplace", .flag d.cannotReplace), ("cannotDelete", .flag d.cannotDelete),
    ("immutable", .flag d.immutable), ("documentIdRegexPattern", .pattern d.idPattern),
    ("allowUnknownProperties", .flag d.allowUnknownProperties),
    ("allowAttachments", .flag d.attachments.allow)]

/-- The names of the slots of a definition. -/
def definitionNames : List String :=
  ["typeFilter", "channels", "authorizedRoles", "authorizedUsers", "grantAllMembersWriteAccess",
    "cannotReplace", "cannotDelete", "immutable", "documentIdRegexPattern",
    "allowUnknownProperties", "allowAttachments"]

theorem AttachmentRules.map_slots (r : AttachmentRules) :
    r.slots.map (·.1) = AttachmentRecord.declared.map (·.name) :=
  rfl

theorem Definition.map_slots (d : Definition) : d.slots.map (·.1) = definitionNames :=
  rfl

/-- The fields of a record that may be missing; then it has none. -/
inductive Json.WritesIfGiven (declared : List RecordField) : Option Json → Entries Json → Prop where
  | given {x : Json} {fields : Entries Json} :
      x.Writes declared fields → WritesIfGiven declared (some x) fields
  | missing : WritesIfGiven declared none []

theorem Json.WritesIfGiven.declared_of_given? {declared : List RecordField} {x : Option Json}
    {fields : Entries Json} (h : WritesIfGiven declared x fields) {name : String} {y : Json}
    (hy : given? fields name = some y) : ∃ d ∈ declared, d.name = name := by
  cases h with
  | given hx => exact hx.declared_of_given? hy
  | missing => cases hy

/-- A value states a definition: the slots are filled from its fields, the rules for
    attachments from the fields of theirs, and the declared properties are those that are
    stated, in order. Nothing states an action. -/
inductive Json.StatesDefinition : Json → Definition → Prop where
  | record {x : Json} {d : Definition} {fields entries : Entries Json} :
      x.Writes DefinitionRecord.declared fields →
      FilledSlots d.slots (given? fields) ["attachmentConstraints", "propertyValidators"] →
      WritesIfGiven AttachmentRecord.declared (given? fields "attachmentConstraints") entries →
      FilledSlots d.attachments.slots (given? entries) [] →
      StatesAll (declaredBranches fields) (asBranches d.properties) →
      d.actions = {} → StatesDefinition x d

namespace DefinitionRecord

variable {r : DefinitionRecord} {typeId : String} {fields : Entries Json}

/-- The fields of the rules for attachments fill their slots. -/
theorem attachmentRules_filled {rules : AttachmentRules}
    (h : Json.optionalField? fields "attachmentConstraints" AttachmentRecord.ofJson? =
      some r.attachmentConstraints)
    (hrules : r.attachmentRules = .ok rules) :
    rules.allow = .literal r.allowAttachments ∧
      ∃ entries, Json.WritesIfGiven AttachmentRecord.declared
        (Json.given? fields "attachmentConstraints") entries ∧
        FilledSlots rules.slots (Json.given? entries) [] := by
  obtain ⟨pattern, hpattern, hrules⟩ := bind_eq_ok.mp hrules
  cases hrules
  suffices hfilled : ∃ entries, Json.WritesIfGiven AttachmentRecord.declared
      (Json.given? fields "attachmentConstraints") entries ∧
      ∀ e ∈ AttachmentRules.slots _, e.2.FilledFrom (Json.given? entries e.1) by
    obtain ⟨entries, hentries, hfilled⟩ := hfilled
    refine ⟨rfl, entries, hentries, .of_declared hentries.declared_of_given? ?_ hfilled⟩
    intro d hd
    rw [AttachmentRules.map_slots]
    exact .inr (List.mem_map_of_mem hd)
  unfold AttachmentRules.slots
  simp only [List.forall_mem_cons]
  obtain ⟨hmissing, hstated⟩ | ⟨x, c, hx, hc, hstated⟩ := Json.optionalField?_cases h
  · rw [hmissing]
    rw [hstated] at hpattern ⊢
    cases hpattern
    exact ⟨[], .missing, .noCount, .noCount, .noCount, .noTexts, .noTexts, .noPattern, .flagOff,
      nofun⟩
  · rw [hx]
    rw [hstated] at hpattern ⊢
    obtain ⟨entries, hentries, hc⟩ := Option.bind_eq_some_iff.mp hc
    obtain ⟨_, hcount, hc⟩ := Option.bind_eq_some_iff.mp hc
    obtain ⟨_, hindividual, hc⟩ := Option.bind_eq_some_iff.mp hc
    obtain ⟨_, htotal, hc⟩ := Option.bind_eq_some_iff.mp hc
    obtain ⟨_, hextensions, hc⟩ := Option.bind_eq_some_iff.mp hc
    obtain ⟨_, htypes, hc⟩ := Option.bind_eq_some_iff.mp hc
    obtain ⟨_, hsource, hc⟩ := Option.bind_eq_some_iff.mp hc
    obtain ⟨_, hrequire, hc⟩ := Option.bind_eq_some_iff.mp hc
    cases hc
    exact ⟨entries, .given (Json.writes_of_recordFields? hentries), filled_count hcount,
      filled_count hindividual, filled_count htotal, filled_texts hextensions,
      filled_texts htypes, filled_pattern hsource hpattern, filled_flag hrequire, nofun⟩

/-- The fields of a definition, each decoded by the decoder of its kind. -/
structure DecodedFrom (r : DefinitionRecord) (fields : Entries Json) : Prop where
  typeFilter : Json.optionalField? fields "typeFilter" FilterRecord.ofJson? = some r.typeFilter
  channels : Json.optionalField? fields "channels" GrantSet.ofJson? = some r.channels
  authorizedRoles :
    Json.optionalField? fields "authorizedRoles" GrantSet.ofJson? = some r.authorizedRoles
  authorizedUsers :
    Json.optionalField? fields "authorizedUsers" GrantSet.ofJson? = some r.authorizedUsers
  grantAllMembersWriteAccess :
    Json.defaultField? fields "grantAllMembersWriteAccess" false Json.asBool? =
      some r.grantAllMembersWriteAccess
  cannotReplace : Json.defaultField? fields "cannotReplace" false Json.asBool? =
    some r.cannotReplace
  cannotDelete : Json.defaultField? fields "cannotDelete" false Json.asBool? =
    some r.cannotDelete
  immutable : Json.defaultField? fields "immutable" false Json.asBool? = some r.immutable
  documentIdRegexPattern :
    Json.optionalField? fields "documentIdRegexPattern" Json.asString? =
      some r.documentIdRegexPattern
  allowUnknownProperties :
    Json.defaultField? fields "allowUnknownProperties" false Json.asBool? =
      some r.allowUnknownProperties
  allowAttachments :
    Json.defaultField? fields "allowAttachments" false Json.asBool? = some r.allowAttachments
  attachmentConstraints :
    Json.optionalField? fields "attachmentConstraints" AttachmentRecord.ofJson? =
      some r.attachmentConstraints
  propertyValidators :
    Json.defaultField? fields "propertyValidators" [] Json.asObject? = some r.propertyValidators

theorem decodedFrom_of_ofJson? {v : Json} {r : DefinitionRecord}
    (h : ofJson? v = some r) : ∃ fields, v.Writes declared fields ∧ r.DecodedFrom fields := by
  obtain ⟨fields, hfields, h⟩ := Option.bind_eq_some_iff.mp h
  obtain ⟨_, hfilterStated, h⟩ := Option.bind_eq_some_iff.mp h
  obtain ⟨_, hchannels, h⟩ := Option.bind_eq_some_iff.mp h
  obtain ⟨_, hroles, h⟩ := Option.bind_eq_some_iff.mp h
  obtain ⟨_, husers, h⟩ := Option.bind_eq_some_iff.mp h
  obtain ⟨_, hall, h⟩ := Option.bind_eq_some_iff.mp h
  obtain ⟨_, hreplace, h⟩ := Option.bind_eq_some_iff.mp h
  obtain ⟨_, hdelete, h⟩ := Option.bind_eq_some_iff.mp h
  obtain ⟨_, himmutable, h⟩ := Option.bind_eq_some_iff.mp h
  obtain ⟨_, hid, h⟩ := Option.bind_eq_some_iff.mp h
  obtain ⟨_, hunknown, h⟩ := Option.bind_eq_some_iff.mp h
  obtain ⟨_, hallow, h⟩ := Option.bind_eq_some_iff.mp h
  obtain ⟨_, hconstraints, h⟩ := Option.bind_eq_some_iff.mp h
  obtain ⟨_, hproperties, h⟩ := Option.bind_eq_some_iff.mp h
  cases h
  exact ⟨fields, Json.writes_of_recordFields? hfields, hfilterStated, hchannels, hroles, husers,
    hall, hreplace, hdelete, himmutable, hid, hunknown, hallow, hconstraints, hproperties⟩

end DefinitionRecord

/-- What is read as a definition states it. -/
theorem Definition.states_of_ofJson {typeId : String} {x : Json} {d : Definition}
    (h : Definition.ofJson typeId x = .ok d) : x.StatesDefinition d := by
  unfold Definition.ofJson at h
  cases hstated : DefinitionRecord.ofJson? x with
  | none =>
    rw [hstated] at h
    cases h
  | some r =>
    rw [hstated] at h
    obtain ⟨fields, hfields, hr⟩ := DefinitionRecord.decodedFrom_of_ofJson? hstated
    obtain ⟨filter, hfilter, h⟩ := bind_eq_ok.mp h
    obtain ⟨rules, hrules, h⟩ := bind_eq_ok.mp h
    obtain ⟨properties, hread, h⟩ := bind_eq_ok.mp h
    obtain ⟨idPattern, hidPattern, h⟩ := bind_eq_ok.mp h
    cases h
    obtain ⟨hallowed, entries, hentries, hattachments⟩ :=
      DefinitionRecord.attachmentRules_filled hr.attachmentConstraints hrules
    have hdeclared := ValidatorRecord.properties_states Validator.readWithin_states hread
    refine .record hfields (.of_declared hfields.declared_of_given? ?_ ?_) hentries hattachments
      ?_ rfl
    · rw [Definition.map_slots]
      decide
    · unfold Definition.slots
      simp only [List.forall_mem_cons, hallowed]
      exact ⟨filled_filter hr.typeFilter hfilter, filled_grant hr.channels,
        filled_grant hr.authorizedRoles, filled_grant hr.authorizedUsers,
        filled_flag hr.grantAllMembersWriteAccess, filled_flag hr.cannotReplace,
        filled_flag hr.cannotDelete, filled_flag hr.immutable,
        filled_pattern hr.documentIdRegexPattern hidPattern,
        filled_flag hr.allowUnknownProperties, filled_flag hr.allowAttachments, nofun⟩
    · unfold declaredBranches Json.given?
      obtain ⟨hnone, hempty⟩ | ⟨y, hy, hobject⟩ := Json.defaultField?_cases hr.propertyValidators
      · rw [hempty] at hdeclared
        rw [hnone]
        exact hdeclared
      · rw [hy, Json.eq_object_of_asObject? hobject]
        exact hdeclared

/-! ## Flaws -/

theorem DataType.ofName?_name (t : DataType) : ofName? t.name = some t := by
  cases t with
  | ordinal t => cases t <;> rfl
  | _ => rfl

/-- Types are told apart by their names. -/
theorem DataType.name_injective {t t' : DataType} (h : t.name = t'.name) : t = t' := by
  rw [← Option.some.injEq, ← ofName?_name, ← ofName?_name, h]

namespace Json

/-- A validator is stated at any depth below another, or is that one. -/
inductive Nests : Json → Json → Prop where
  | here (x : Json) : Nests x x
  | deeper {x y z : Json} {branch : Branch} :
      (branch, y) ∈ ValidatorRecord.children (x.fieldsAs ValidatorRecord.declared) →
      Nests y z → Nests x z

section

open ValidatorRecord

/-- A value that cannot state a validator. -/
inductive Flawed : Json → Prop where
  /-- a field that no validator has -/
  | unknownField {fields : Entries Json} {name : String} :
      name ∈ Entries.keys fields → (∀ d ∈ declared, d.name ≠ name) → Flawed (.object fields)
  | unknownType {x : Json} {name : String} :
      typeName? (x.fieldsAs declared) = some name → name ≠ typeIdName →
      (∀ t : DataType, t.name ≠ name) → Flawed x
  /-- a field that has no slot on the type -/
  | misplacedField {x y : Json} {type : DataType} {name : String} :
      stated? (x.fieldsAs declared) "type" = some (.string type.name) →
      given? (x.fieldsAs declared) name = some y →
      name ∉ "type" :: (sharedNames ++ type.fieldNames) → Flawed x
  /-- a bound, or a value to be equalled, that is not comparable with the type -/
  | incomparable {x y : Json} {t : OrdinalType} {name : String} :
      stated? (x.fieldsAs declared) "type" = some (.string (DataType.ordinal t).name) →
      name ∈ "mustEqual" :: (DataType.ordinal t).fieldNames →
      given? (x.fieldsAs declared) name = some y → t.isBound y = false → Flawed x
  | invalidPattern {x : Json} {source : String} :
      given? (x.fieldsAs declared) "regexPattern" = some (.string source) →
      Pattern.ofSource? source = none → Flawed x
  | unknownKeyField {x : Json} {fields : Entries Json} {name : String} :
      given? (x.fieldsAs declared) "hashtableKeysValidator" = some (.object fields) →
      name ∈ Entries.keys fields → (∀ d ∈ KeyRecord.declared, d.name ≠ name) → Flawed x
  | invalidKeyPattern {x keys : Json} {source : String} :
      given? (x.fieldsAs declared) "hashtableKeysValidator" = some keys →
      given? (keys.fieldsAs KeyRecord.declared) "regexPattern" = some (.string source) →
      Pattern.ofSource? source = none → Flawed x
  /-- an enumeration without values -/
  | missingValues {x : Json} :
      stated? (x.fieldsAs declared) "type" = some (.string DataType.enumeration.name) →
      given? (x.fieldsAs declared) "predefinedValues" = none → Flawed x

end

end Json

namespace ValidatorRecord

variable {fields : Entries Json} {v : Validator} {name : String} {x : Json}

/-- A node is of the type that is stated. -/
theorem StatesNode.dataType_eq (h : StatesNode fields v) {type : DataType}
    (htype : stated? fields "type" = some (.string type.name)) : v.dataType = type := by
  rw [h.type] at htype
  exact DataType.name_injective (Json.string.inj (Option.some.inj htype))

/-- A field that is stated as it is given fills a slot, unless it is the type. -/
theorem StatesNode.exists_slot (h : StatesNode fields v)
    (hname : Entries.get? name typeIdFields = none) (hx : Json.given? fields name = some x) :
    ∃ slot, (name, slot) ∈ v.slots ∧ slot.FilledFrom (some x) := by
  rw [← stated?_eq_given? hname] at hx
  rcases h.slots.placed name x hx with htype | hplaced
  · rw [List.mem_singleton.mp htype] at hname
    cases hname
  · obtain ⟨e, he, rfl⟩ := List.mem_map.mp hplaced
    exact ⟨e.2, he, hx ▸ h.slots.filled e he⟩

/-- What has to be comparable with ordinal values is stated as it is given. -/
theorem stated?_incomparable {t : OrdinalType}
    (hname : name ∈ "mustEqual" :: (DataType.ordinal t).fieldNames) :
    stated? fields name = Json.given? fields name := by
  rcases List.mem_cons.mp hname with rfl | hname
  · exact stated?_eq_given? rfl
  · exact stated?_fieldName hname

/-- A node of an enumeration has a slot for its values. -/
theorem exists_values_of_enumeration (h : v.dataType = .enumeration) :
    ∃ allowed, ("predefinedValues", .values allowed) ∈ v.slots := by
  cases v with
  | scalar rules type =>
    cases type with
    | enumeration allowed =>
      exact ⟨allowed, List.mem_append_right _ List.mem_cons_self⟩
    | _ => cases h
  | _ => cases h

/-- A slot that types do not share is specific to the type. -/
theorem mem_typeSlots_of_mem_slots {slot : FieldSlot} (h : (name, slot) ∈ v.slots)
    (hname : name ∉ sharedNames) : (name, slot) ∈ v.typeSlots := by
  rcases List.mem_append.mp h with h | h
  · have hshared : name ∈ v.rules.slots.map (·.1) := List.mem_map_of_mem h
    exact absurd hshared hname
  · exact h

/-- A pattern fills a slot for patterns. -/
theorem StatesNode.exists_pattern (h : StatesNode fields v)
    (hx : Json.given? fields "regexPattern" = some x) :
    ∃ pattern, (FieldSlot.pattern pattern).FilledFrom (some x) := by
  obtain ⟨slot, hslot, hfilled⟩ := h.exists_slot rfl hx
  have hmem := mem_typeSlots_of_mem_slots hslot (by decide)
  have hpattern : ∃ pattern, slot = .pattern pattern := by
    cases v with
    | scalar rules type =>
      cases type <;> simp [Validator.typeSlots, Scalar.slots] at hmem <;> exact ⟨_, hmem⟩
    | _ => simp [Validator.typeSlots] at hmem
  obtain ⟨pattern, rfl⟩ := hpattern
  exact ⟨pattern, hfilled⟩

/-- Rules for keys fill a slot for such rules. -/
theorem StatesNode.exists_keys (h : StatesNode fields v)
    (hx : Json.given? fields "hashtableKeysValidator" = some x) :
    ∃ keys, (FieldSlot.keys keys).FilledFrom (some x) := by
  obtain ⟨slot, hslot, hfilled⟩ := h.exists_slot rfl hx
  have hmem := mem_typeSlots_of_mem_slots hslot (by decide)
  have hkeys : ∃ keys, slot = .keys keys := by
    cases v with
    | scalar rules type => cases type <;> simp [Validator.typeSlots, Scalar.slots] at hmem
    | hashtable rules size keys values =>
      simp [Validator.typeSlots] at hmem
      exact ⟨keys, hmem⟩
    | _ => simp [Validator.typeSlots] at hmem
  obtain ⟨keys, rfl⟩ := hkeys
  exact ⟨keys, hfilled⟩

end ValidatorRecord

namespace Json

open ValidatorRecord

/-- A pattern that fills a slot is valid. -/
theorem not_filledFrom_pattern {pattern : Option (Slot Pattern)} {source : String}
    (hsource : Pattern.ofSource? source = none) :
    ¬ (FieldSlot.pattern pattern).FilledFrom (some (.string source)) := by
  rintro (_ | _)
  next hp =>
  rw [hsource] at hp
  cases hp

/-- A flawed value states no validator. -/
theorem Flawed.not_states {x : Json} (h : x.Flawed) (v : Validator) : ¬ x.States v := by
  rintro ⟨hwrites, hnode, -⟩
  have hfields := hwrites.eq_fieldsAs
  cases h with
  | unknownField hmem hunknown =>
    obtain ⟨d, hd, hname⟩ := hwrites.declared_of_mem hmem
    exact hunknown d hd hname
  | unknownType hname hid hunknown =>
    rw [← hfields] at hname
    obtain ⟨y, hy, hstring⟩ := Option.bind_eq_some_iff.mp hname
    have htype := hnode.type
    unfold stated? at htype
    rw [hname, if_neg fun h => hid (Option.some.inj h), hy, eq_string_of_asString? hstring] at htype
    exact hunknown v.dataType (Json.string.inj (Option.some.inj htype)).symm
  | misplacedField htype hgiven hnot =>
    rw [← hfields] at htype hgiven
    rw [← hnode.dataType_eq htype, ← v.map_slots] at hnot
    obtain ⟨y, hy⟩ := exists_stated? hgiven
    exact hnot (List.mem_append.mpr (hnode.slots.placed _ y hy))
  | @incomparable _ _ t _ htype hname hgiven hbound =>
    rw [← hfields] at htype hgiven
    have ht := hnode.dataType_eq htype
    have hstated : stated? _ _ = some _ := (stated?_incomparable hname).trans hgiven
    rw [hnode.bounds t ht _ (ht ▸ hname) _ hstated] at hbound
    cases hbound
  | invalidPattern hgiven hsource =>
    rw [← hfields] at hgiven
    obtain ⟨pattern, hfilled⟩ := hnode.exists_pattern hgiven
    exact not_filledFrom_pattern hsource hfilled
  | unknownKeyField hgiven hmem hunknown =>
    rw [← hfields] at hgiven
    obtain ⟨_, hfilled⟩ := hnode.exists_keys hgiven
    cases hfilled with
    | keys hkeys _ _ =>
      obtain ⟨d, hd, hname⟩ := hkeys.declared_of_mem hmem
      exact hunknown d hd hname
  | invalidKeyPattern hgiven hpattern hsource =>
    rw [← hfields] at hgiven
    obtain ⟨_, hfilled⟩ := hnode.exists_keys hgiven
    cases hfilled with
    | keys hkeys _ hfilledPattern =>
      rw [← hkeys.eq_fieldsAs] at hpattern
      rw [hpattern] at hfilledPattern
      exact not_filledFrom_pattern hsource hfilledPattern
  | missingValues htype hnone =>
    rw [← hfields] at htype hnone
    have ht := hnode.dataType_eq htype
    obtain ⟨allowed, hslot⟩ := exists_values_of_enumeration ht
    have hfilled := hnode.slots.filled _ hslot
    rw [stated?_eq_given? rfl, hnone] at hfilled
    cases hfilled

/-- Each of the values states a validator. -/
theorem StatesAll.of_mem {xs : List (Branch × Json)} {vs : List (Branch × Validator)}
    (h : StatesAll xs vs) {branch : Branch} {x : Json} (hx : (branch, x) ∈ xs) :
    ∃ v, x.States v := by
  induction xs generalizing vs with
  | nil => cases hx
  | cons first rest ih =>
    cases h with
    | cons hfirst hrest =>
      rcases List.mem_cons.mp hx with hx | hx
      · cases hx
        exact ⟨_, hfirst⟩
      · exact ih hrest hx

/-- What states a validator has validators stated at every depth. -/
theorem Nests.exists_states {x y : Json} (h : x.Nests y) {v : Validator} (hx : x.States v) :
    ∃ w, y.States w := by
  induction h generalizing v with
  | here => exact ⟨v, hx⟩
  | deeper hmem _ ih =>
    obtain ⟨hwrites, -, hchildren⟩ := hx
    rw [← hwrites.eq_fieldsAs] at hmem
    obtain ⟨w, hw⟩ := hchildren.of_mem hmem
    exact ih hw

/-- What states a definition has no flaw in the validators that it declares. -/
theorem StatesDefinition.not_flawed {x y z : Json} {d : Definition} {branch : Branch}
    (h : x.StatesDefinition d)
    (hy : (branch, y) ∈ declaredBranches (x.fieldsAs DefinitionRecord.declared))
    (hz : y.Nests z) : ¬ z.Flawed := by
  intro hflawed
  cases h with
  | record hwrites _ _ _ hproperties _ =>
    rw [← hwrites.eq_fieldsAs] at hy
    obtain ⟨v, hv⟩ := hproperties.of_mem hy
    obtain ⟨w, hw⟩ := hz.exists_states hv
    exact hflawed.not_states w hw

end Json

/-! ## Texts -/

/-- The value that a text is read as. -/
def Format.read? : Format → String → Option Json
  | .json, text => Json.parse? text
  | .yaml, text => Yaml.parse? text

/-- The compact text of a value is read off its characters. -/
theorem Format.read?_compact (v : Json) :
    Format.json.read? v.compact = (Json.tokens? v.compactChars).bind Json.ofTokens? := by
  rw [← Json.toList_compact]
  rfl

namespace Definitions

variable {format : Format} {text : String} {entries : List (String × Json)}

/-- A text describes what its value describes. -/
theorem parse_of_read? {x : Json} (h : format.read? text = some x) :
    parse format text = ofJson x := by
  cases format with
  | json =>
    have hread : Json.parse? text = some x := h
    unfold parse ofJsonText
    simp only [hread]
  | yaml =>
    have hread : Yaml.parse? text = some x := h
    unfold parse
    simp only [hread]

/-- A text that describes definitions has a value. -/
theorem read?_of_parse {definitions : Definitions} (h : parse format text = .ok definitions) :
    ∃ x, format.read? text = some x := by
  cases hread : format.read? text with
  | some x => exact ⟨x, rfl⟩
  | none =>
    cases format with
    | json =>
      have hread : Json.parse? text = none := hread
      unfold parse ofJsonText at h
      simp only [hread, reduceCtorEq] at h
    | yaml =>
      have hread : Yaml.parse? text = none := hread
      unfold parse at h
      simp only [hread, reduceCtorEq] at h

/-- What a text is read as carries each key once. -/
theorem uniqueKeys_of_read? {x : Json} (h : format.read? text = some x) : x.UniqueKeys := by
  cases format with
  | json => exact Json.uniqueKeys_of_parse? h
  | yaml => exact Yaml.uniqueKeys_of_parse? h

/-- Entries state definitions one by one, under their names. -/
def StatedBy (entries : Entries Json) (definitions : Definitions) : Prop :=
  List.Forall₂ (fun e d => e.1 = d.1 ∧ e.2.StatesDefinition d.2) entries definitions

theorem statedBy_of_ofFields {read : Definitions} (h : ofFields entries = .ok read) :
    StatedBy entries read := by
  induction entries generalizing read with
  | nil =>
    cases h
    exact .nil
  | cons e rest ih =>
    obtain ⟨d, hd, h⟩ := bind_eq_ok.mp h
    obtain ⟨others, hothers, h⟩ := bind_eq_ok.mp h
    cases h
    exact .cons ⟨rfl, Definition.states_of_ofJson hd⟩ (ih hothers)

theorem StatedBy.keys_eq {definitions : Definitions} (h : StatedBy entries definitions) :
    Entries.keys definitions = Entries.keys entries := by
  induction h with
  | nil => rfl
  | cons hfirst _ ih => exact congrArg₂ List.cons hfirst.1.symm ih

/-- Each of the entries states a definition. -/
theorem StatedBy.of_mem {definitions : Definitions} (h : StatedBy entries definitions)
    {typeId : String} {x : Json} (hx : (typeId, x) ∈ entries) :
    ∃ d, (typeId, d) ∈ definitions ∧ x.StatesDefinition d := by
  induction h with
  | nil => cases hx
  | @cons e d entries definitions hfirst _ ih =>
    rcases List.mem_cons.mp hx with rfl | hx
    · obtain ⟨hname, hstates⟩ := hfirst
      cases hname
      exact ⟨d.2, List.mem_cons_self, hstates⟩
    · obtain ⟨d, hd, hstates⟩ := ih hx
      exact ⟨d, List.mem_cons_of_mem _ hd, hstates⟩

/-- What is described by an object with distinct names is stated by its entries. -/
theorem statedBy_of_ofJson {x : Json} {definitions : Definitions} (hkeys : x.UniqueKeys)
    (h : ofJson x = .ok definitions) :
    ∃ entries, x = .object entries ∧ StatedBy entries definitions := by
  obtain ⟨entries, read, rfl, hread, rfl⟩ := ofFields_of_ofJson h
  have hstated := statedBy_of_ofFields hread
  have hnodup : (Entries.keys read).Nodup := by
    rw [hstated.keys_eq]
    exact (Json.uniqueKeys_object_iff.mp hkeys).1
  rw [Entries.ofList_of_nodup hnodup]
  exact ⟨entries, rfl, hstated⟩

/-- How a text is loaded: what is loaded is stated in full, and nothing is loaded if there
    is a flaw. -/
structure LoadedInFull (format : Format) (text : String) : Prop where
  /-- The text is a mapping that gives every name once, at every depth, and its entries are
      the definitions: under their names, in their order, and each as it is stated. -/
  stated (definitions : Definitions) :
    parse format text = .ok definitions →
      ∃ entries, format.read? text = some (.object entries) ∧
        (Json.object entries).UniqueKeys ∧ StatedBy entries definitions
  /-- A flaw in a validator, at any depth below a declared property of any definition, makes
      the whole load fail. -/
  refused (entries : Entries Json) (typeId : String) (branch : Branch) (x y z : Json) :
    format.read? text = some (.object entries) → (typeId, x) ∈ entries →
      (branch, y) ∈ declaredBranches (x.fieldsAs DefinitionRecord.declared) →
      y.Nests z → z.Flawed → ∃ e, parse format text = .error e

/-- **The loader drops nothing**, whatever the text. -/
theorem loader_drops_nothing (format : Format) (text : String) : LoadedInFull format text where
  stated definitions h := by
    obtain ⟨x, hx⟩ := read?_of_parse h
    rw [parse_of_read? hx] at h
    have hkeys := uniqueKeys_of_read? hx
    obtain ⟨entries, rfl, hstated⟩ := statedBy_of_ofJson hkeys h
    exact ⟨entries, hx, hkeys, hstated⟩
  refused entries typeId branch x y z hread hmem hy hz hflawed := by
    cases h : parse format text with
    | error e => exact ⟨e, rfl⟩
    | ok definitions =>
      rw [parse_of_read? hread] at h
      obtain ⟨_, hobject, hstated⟩ := statedBy_of_ofJson (uniqueKeys_of_read? hread) h
      cases hobject
      obtain ⟨d, -, hd⟩ := hstated.of_mem hmem
      exact absurd hflawed (hd.not_flawed hy hz)

/-- A line of an invoice is a number, with a bound on it. -/
def lineEntry (bound : String × Json) : Json :=
  .object [("type", .string "integer"), bound]

/-- An invoice has lines. -/
def linesEntry (bound : String × Json) : Json :=
  .object [("type", .string "array"), ("arrayElementsValidator", lineEntry bound)]

def invoiceEntry (bound : String × Json) : Json :=
  .object [("channels", .array [.string "desk"]),
    ("propertyValidators", .object [("lines", linesEntry bound)])]

def invoices (bound : String × Json) : Json :=
  .object [("invoice", invoiceEntry bound)]

set_option maxRecDepth 20000 in
/-- Invoices whose lines are bounded by value are loaded as they are stated; numbers have no
    length, and invoices whose lines are bounded by length are refused. -/
theorem loader_drops_nothing_invoice :
    (∃ d, parse .json (invoices ("minimumValue", .ofNat 1)).compact = .ok [("invoice", d)] ∧
      (invoiceEntry ("minimumValue", .ofNat 1)).StatesDefinition d) ∧
    ∃ e, parse .json (invoices ("minimumLength", .ofNat 1)).compact = .error e := by
  constructor
  · have hread : Format.json.read? (invoices ("minimumValue", .ofNat 1)).compact =
        some (invoices ("minimumValue", .ofNat 1)) := (Format.read?_compact _).trans rfl
    have hloaded : (ofJson (invoices ("minimumValue", .ofNat 1))).toOption.isSome = true := by
      decide +kernel
    obtain ⟨definitions, hdefinitions⟩ := Option.isSome_iff_exists.mp hloaded
    have hparse : parse .json _ = .ok definitions :=
      (parse_of_read? hread).trans (ok_of_toOption hdefinitions)
    obtain ⟨entries, hentries, -, hstated⟩ :=
      (loader_drops_nothing .json _).stated definitions hparse
    cases Option.some.inj (hread.symm.trans hentries)
    rcases hstated with _ | ⟨⟨hname, hstates⟩, _ | _⟩
    next d =>
    obtain ⟨_, d⟩ := d
    cases hname
    exact ⟨d, hparse, hstates⟩
  · have hread : Format.json.read? (invoices ("minimumLength", .ofNat 1)).compact =
        some (invoices ("minimumLength", .ofNat 1)) := (Format.read?_compact _).trans rfl
    refine (loader_drops_nothing .json _).refused _ "invoice" (.property "lines")
      (invoiceEntry ("minimumLength", .ofNat 1)) (linesEntry ("minimumLength", .ofNat 1))
      (lineEntry ("minimumLength", .ofNat 1)) hread List.mem_cons_self List.mem_cons_self
      (.deeper List.mem_cons_self (.here _)) ?_
    exact @Json.Flawed.misplacedField _ _ (.ordinal .integer) "minimumLength" rfl rfl (by decide)

end Definitions

end WritePolicy
