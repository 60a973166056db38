import WritePolicy.DefinitionFile.Format
import WritePolicy.Proofs.Static

/-! # What a definition file can state

    A loaded definition is static: fields become literals, a bound is looked at
    before it is kept, and no field states a computation, a custom validation or
    an action. The reader of validators recurses on a depth, so the induction is
    on the depth and each type of validator is one case; the two places where it
    calls itself, declared properties and the validator of elements, are lemmas
    about an arbitrary reader of validators below.

    The names of loaded definitions are distinct, because a repeated name
    replaces the definition where it stands.

    What is loaded from the compact text of a value is told by the characters of
    the text, which are put together along the value (`Definitions.parse_compact`).
-/

namespace WritePolicy

/-! ## Results of sequences -/

/-- A sequence gives a result when its parts do. -/
theorem bind_eq_ok {ε α β : Type} {x : Except ε α} {f : α → Except ε β} {b : β} :
    (x >>= f) = .ok b ↔ ∃ a, x = .ok a ∧ f a = .ok b := by
  cases x with
  | error e =>
    constructor
    · intro h
      cases h
    · intro h
      obtain ⟨a, ha, _⟩ := h
      cases ha
  | ok a =>
    constructor
    · intro h
      exact ⟨a, rfl, h⟩
    · intro h
      obtain ⟨_, ha, h⟩ := h
      cases ha
      exact h

/-- A function of a result gives a result when there is one. -/
theorem map_eq_ok {ε α β : Type} {x : Except ε α} {f : α → β} {b : β} :
    (f <$> x) = .ok b ↔ ∃ a, x = .ok a ∧ f a = b := by
  cases x with
  | error e =>
    constructor
    · intro h
      cases h
    · intro h
      obtain ⟨_, ha, _⟩ := h
      cases ha
  | ok a =>
    constructor
    · intro h
      cases h
      exact ⟨a, rfl, rfl⟩
    · intro h
      obtain ⟨_, ha, h⟩ := h
      cases ha
      cases h
      rfl

/-- What remains of a computation that failed is nothing. -/
theorem ok_of_toOption {ε α : Type} {x : Except ε α} {a : α} (h : x.toOption = some a) :
    x = .ok a := by
  cases x with
  | error e => cases h
  | ok b =>
    cases h
    rfl

/-! ## Slots of fields -/

/-- A field fills its slot with a literal. -/
theorem literalIfSet_slot? {α : Type} (field : Option α) : Slot.LiteralIfSet (slot? field) := by
  cases field with
  | none => exact Slot.literalIfSet_none
  | some a => exact Slot.literalIfSet_literal a

/-- A pattern that was read fills its slot with a literal. -/
theorem patternSlot?_static {source : Option String} {slot : Option (Slot Pattern)}
    (h : patternSlot? source = .ok slot) : Slot.LiteralIfSet slot := by
  cases source with
  | none =>
    cases h
    exact Slot.literalIfSet_none
  | some text =>
    obtain ⟨p, _, hp⟩ := bind_eq_ok.mp h
    cases hp
    exact Slot.literalIfSet_literal p

/-- A bound that was read is a literal that can bound values of the type. -/
theorem boundSlot?_static {type : OrdinalType} {bound : Option Json}
    {slot : Option (Slot Json)} (h : boundSlot? type bound = .ok slot) :
    ∀ x ∈ slot, ∃ b, x = .literal b ∧ type.isBound b = true := by
  intro x hx
  cases bound with
  | none =>
    cases h
    cases hx
  | some b =>
    unfold boundSlot? at h
    dsimp only at h
    by_cases hb : type.isBound b = true
    · rw [if_pos hb] at h
      cases h
      cases hx
      exact ⟨b, rfl, hb⟩
    · rw [if_neg hb] at h
      cases h

namespace ValidatorRecord

variable {child : ReadValidator} {location : String}

/-! ## Validators -/

/-- No record states a custom validation. -/
theorem commonRules_static (r : ValidatorRecord) : r.commonRules.Static where
  required := Slot.isLiteral_literal _
  mustNotBeEmpty := Slot.isLiteral_literal _
  immutable := Slot.isLiteral_literal _
  immutableWhenSet := Slot.isLiteral_literal _
  mustEqual := literalIfSet_slot? _
  customValidation := rfl

/-- The limits of a size are fields. -/
theorem sizeRules_static (minimum maximum : Option Nat) :
    SizeRules.Static ⟨slot? minimum, slot? maximum⟩ :=
  ⟨literalIfSet_slot? _, literalIfSet_slot? _⟩

/-- Every bound of a range was looked at. -/
theorem range_static {r : ValidatorRecord} {type : OrdinalType} {range : RangeRules}
    (h : r.range type = .ok range) : range.Static type := by
  obtain ⟨minimum, hmin, h⟩ := bind_eq_ok.mp h
  obtain ⟨exclusiveMinimum, hxmin, h⟩ := bind_eq_ok.mp h
  obtain ⟨maximum, hmax, h⟩ := bind_eq_ok.mp h
  obtain ⟨exclusiveMaximum, hxmax, h⟩ := bind_eq_ok.mp h
  cases h
  intro limit
  cases limit with
  | minimum => exact boundSlot?_static hmin
  | exclusiveMinimum => exact boundSlot?_static hxmin
  | maximum => exact boundSlot?_static hmax
  | exclusiveMaximum => exact boundSlot?_static hxmax

/-- The rules for keys are read like those of other slots. -/
theorem keyRules_static {r : ValidatorRecord} {keys : Option KeyRules}
    (h : r.keyRules = .ok keys) : ∀ k ∈ keys, k.Static := by
  intro k hk
  unfold keyRules at h
  cases hr : r.hashtableKeysValidator with
  | none =>
    rw [hr] at h
    cases h
    cases hk
  | some stated =>
    rw [hr] at h
    obtain ⟨pattern, hpattern, h⟩ := bind_eq_ok.mp h
    cases h
    cases hk
    exact ⟨Slot.isLiteral_literal _, patternSlot?_static hpattern⟩

/-- Declared properties are static if the validators below are. -/
theorem properties_static
    (hchild : ∀ {location v validator}, child location v = .ok validator → validator.Static)
    {fields : Entries Json} {declared : Properties}
    (h : properties child location fields = .ok declared) : declared.Static := by
  induction fields generalizing declared with
  | nil =>
    cases h
    intro e he
    cases he
  | cons field rest ih =>
    obtain ⟨validator, hvalidator, h⟩ := bind_eq_ok.mp h
    obtain ⟨others, hothers, h⟩ := bind_eq_ok.mp h
    cases h
    intro e he
    rcases List.mem_cons.mp he with rfl | he
    · exact hchild hvalidator
    · exact ih hothers e he

/-- The validator of elements or of values is static if the validators below
    are. -/
theorem below_static
    (hchild : ∀ {location v validator}, child location v = .ok validator → validator.Static)
    {stated : Option Json} {validator : Option Validator}
    (h : below child location stated = .ok validator) :
    ∀ element, validator = some element → element.Static := by
  intro element helement
  cases stated with
  | none =>
    cases h
    cases helement
  | some v =>
    obtain ⟨read, hread, h⟩ := bind_eq_ok.mp h
    cases h
    cases helement
    exact hchild hread

/-- A validator of each type is static if the validators below are. -/
theorem ofType_static
    (hchild : ∀ {location v validator}, child location v = .ok validator → validator.Static)
    {r : ValidatorRecord} {type : DataType} {validator : Validator}
    (h : r.ofType child location type = .ok validator) : validator.Static := by
  -- one case for each type; what stands below is left to `hchild`
  have hrules := r.commonRules_static
  cases type with
  | string =>
    obtain ⟨pattern, hpattern, h⟩ := bind_eq_ok.mp h
    cases h
    exact .scalar hrules ⟨patternSlot?_static hpattern, sizeRules_static _ _⟩
  | ordinal type =>
    obtain ⟨range, hrange, h⟩ := bind_eq_ok.mp h
    cases h
    exact .scalar hrules (range_static hrange)
  | boolean =>
    cases h
    exact .scalar hrules trivial
  | any =>
    cases h
    exact .scalar hrules trivial
  | enumeration =>
    unfold ofType at h
    cases hvalues : r.predefinedValues with
    | none =>
      rw [hvalues] at h
      cases h
    | some values =>
      rw [hvalues] at h
      cases h
      exact .scalar hrules (Slot.isLiteral_literal values)
  | object =>
    unfold ofType at h
    cases hstated : r.propertyValidators with
    | none =>
      rw [hstated] at h
      cases h
      exact .object hrules (Slot.isLiteral_literal _) nofun
    | some fields =>
      rw [hstated] at h
      -- the declared properties are read before the validator is put together
      obtain ⟨_, hread, h⟩ := bind_eq_ok.mp h
      obtain ⟨declared, hdeclared, rfl⟩ := map_eq_ok.mp hread
      cases h
      refine .object hrules (Slot.isLiteral_literal _) fun properties hproperties => ?_
      cases hproperties
      exact properties_static hchild hdeclared
  | array =>
    obtain ⟨elements, helements, h⟩ := bind_eq_ok.mp h
    cases h
    exact .array hrules (sizeRules_static _ _) (below_static hchild helements)
  | hashtable =>
    obtain ⟨keys, hkeys, h⟩ := bind_eq_ok.mp h
    obtain ⟨values, hvalues, h⟩ := bind_eq_ok.mp h
    cases h
    exact .hashtable hrules (sizeRules_static _ _) (keyRules_static hkeys)
      (below_static hchild hvalues)
  | attachmentReference =>
    obtain ⟨pattern, hpattern, h⟩ := bind_eq_ok.mp h
    cases h
    exact .scalar hrules ⟨patternSlot?_static hpattern, literalIfSet_slot? _,
      literalIfSet_slot? _, literalIfSet_slot? _⟩

/-- The checks on a record do not change the validator that it states. -/
theorem ofType_of_validator {r : ValidatorRecord} {validator : Validator}
    (h : r.validator child location = .ok validator) :
    ∃ type, r.dataType? = some type ∧ r.misplaced? type = none ∧
      r.ofType child location type = .ok validator ∧ r.checkEqual type = .ok () := by
  unfold ValidatorRecord.validator at h
  cases htype : r.dataType? with
  | none =>
    rw [htype] at h
    cases h
  | some type =>
    rw [htype] at h
    dsimp only at h
    cases hfield : r.misplaced? type with
    | some field =>
      rw [hfield] at h
      cases h
    | none =>
      rw [hfield] at h
      obtain ⟨read, hread, h⟩ := bind_eq_ok.mp h
      obtain ⟨_, hequal, h⟩ := bind_eq_ok.mp h
      cases h
      exact ⟨type, rfl, hfield, hread, hequal⟩

end ValidatorRecord

/-- A validator that is read to any depth is static. -/
theorem Validator.readWithin_static {depth : Nat} {location : String} {v : Json}
    {validator : Validator} (h : Validator.readWithin depth location v = .ok validator) :
    validator.Static := by
  -- a reader of one level more reads the children with the reader of one level less
  induction depth generalizing location v validator with
  | zero => cases h
  | succ depth ih =>
    unfold Validator.readWithin at h
    cases hr : ValidatorRecord.ofJson? v with
    | none =>
      rw [hr] at h
      cases h
    | some r =>
      rw [hr] at h
      obtain ⟨type, _, _, htype, _⟩ := ValidatorRecord.ofType_of_validator h
      exact ValidatorRecord.ofType_static ih htype

/-! ## Definitions -/

namespace DefinitionRecord

variable {r : DefinitionRecord} {typeId : String}

/-- A file names a filter or a pattern, never a predicate. -/
theorem readFilter_ne_custom {filter : TypeFilter} (h : r.readFilter typeId = .ok filter)
    (accepts : Document → Option Document → String → Bool) : filter ≠ .custom accepts := by
  unfold readFilter at h
  cases hstated : r.typeFilter with
  | none =>
    rw [hstated] at h
    cases h
    nofun
  | some stated =>
    rw [hstated] at h
    cases stated with
    | named name =>
      dsimp only at h
      by_cases hname : name = "simple"
      · rw [if_pos hname] at h
        cases h
        nofun
      · rw [if_neg hname] at h
        cases h
    | idPattern source =>
      obtain ⟨p, _, h⟩ := bind_eq_ok.mp h
      cases h
      nofun

/-- The rules for attachments are fields. -/
theorem attachmentRules_static {rules : AttachmentRules} (h : r.attachmentRules = .ok rules) :
    rules.Static := by
  obtain ⟨pattern, hpattern, h⟩ := bind_eq_ok.mp h
  cases h
  exact {
    allow := Slot.isLiteral_literal _
    maximumCount := literalIfSet_slot? _
    maximumIndividualSize := literalIfSet_slot? _
    maximumTotalSize := literalIfSet_slot? _
    supportedExtensions := literalIfSet_slot? _
    supportedContentTypes := literalIfSet_slot? _
    filenamePattern := patternSlot?_static hpattern
    requireReferences := Slot.isLiteral_literal _ }

/-- A definition that a record states is static. -/
theorem definition_static {d : Definition} (h : r.definition typeId = .ok d) : d.Static := by
  obtain ⟨filter, hfilter, h⟩ := bind_eq_ok.mp h
  obtain ⟨attachments, hattachments, h⟩ := bind_eq_ok.mp h
  obtain ⟨properties, hproperties, h⟩ := bind_eq_ok.mp h
  obtain ⟨idPattern, hidPattern, h⟩ := bind_eq_ok.mp h
  cases h
  exact {
    typeFilter := readFilter_ne_custom hfilter
    properties := ValidatorRecord.properties_static Validator.readWithin_static hproperties
    authorization := ⟨literalIfSet_slot? _, literalIfSet_slot? _, literalIfSet_slot? _,
      Slot.isLiteral_literal _⟩
    attachments := attachmentRules_static hattachments
    cannotReplace := Slot.isLiteral_literal _
    cannotDelete := Slot.isLiteral_literal _
    immutable := Slot.isLiteral_literal _
    idPattern := patternSlot?_static hidPattern
    allowUnknownProperties := Slot.isLiteral_literal _
    actions := rfl }

end DefinitionRecord

/-- A definition that a value describes is static. -/
theorem Definition.ofJson_static {typeId : String} {v : Json} {d : Definition}
    (h : Definition.ofJson typeId v = .ok d) : d.Static := by
  unfold Definition.ofJson at h
  cases hr : DefinitionRecord.ofJson? v with
  | none =>
    rw [hr] at h
    cases h
  | some r =>
    rw [hr] at h
    exact DefinitionRecord.definition_static h

/-! ## Definition sets -/

namespace Entries

variable {α : Type}

/-- What stands in a list after an insertion was inserted or stood there before. -/
theorem mem_insert {key : String} {value : α} {e : String × α} {entries : Entries α}
    (h : e ∈ insert key value entries) : e = (key, value) ∨ e ∈ entries := by
  induction entries with
  | nil => exact .inl (List.mem_singleton.mp h)
  | cons first rest ih =>
    unfold insert at h
    by_cases hkey : first.1 = key
    · rw [if_pos hkey] at h
      rcases List.mem_cons.mp h with he | he
      · exact .inl he
      · exact .inr (List.mem_cons_of_mem _ he)
    · rw [if_neg hkey] at h
      rcases List.mem_cons.mp h with he | he
      · exact .inr (he ▸ List.mem_cons_self)
      · rcases ih he with he | he
        · exact .inl he
        · exact .inr (List.mem_cons_of_mem _ he)

/-- An insertion keeps the keys distinct. -/
theorem nodup_keys_insert {key : String} {value : α} {entries : Entries α}
    (h : (keys entries).Nodup) : (keys (insert key value entries)).Nodup := by
  induction entries with
  | nil => exact List.pairwise_singleton _ key
  | cons first rest ih =>
    obtain ⟨hfirst, hrest⟩ := List.nodup_cons.mp h
    unfold insert
    by_cases hkey : first.1 = key
    · rw [if_pos hkey]
      exact List.nodup_cons.mpr ⟨hkey ▸ hfirst, hrest⟩
    · rw [if_neg hkey]
      refine List.nodup_cons.mpr ⟨fun hmem => ?_, ih hrest⟩
      -- the inserted key is not that of the first entry
      obtain ⟨e, he, hek⟩ := List.mem_map.mp hmem
      rcases mem_insert he with rfl | he
      · exact hkey hek.symm
      · exact hfirst (List.mem_map.mpr ⟨e, he, hek⟩)

/-- Entries that are inserted one after the other come from the list. -/
theorem mem_insertAll {e : String × α} {more : List (String × α)} {entries : Entries α}
    (h : e ∈ insertAll entries more) : e ∈ entries ∨ e ∈ more := by
  induction more generalizing entries with
  | nil => exact .inl h
  | cons first rest ih =>
    rcases ih h with he | he
    · rcases mem_insert he with he | he
      · exact .inr (he ▸ List.mem_cons_self)
      · exact .inl he
    · exact .inr (List.mem_cons_of_mem _ he)

/-- Insertions one after the other keep the keys distinct. -/
theorem nodup_keys_insertAll {more : List (String × α)} {entries : Entries α}
    (h : (keys entries).Nodup) : (keys (insertAll entries more)).Nodup := by
  induction more generalizing entries with
  | nil => exact h
  | cons first rest ih => exact ih (nodup_keys_insert h)

end Entries

namespace Definitions

/-- Definitions that are read one after the other are static. -/
theorem ofFields_static {fields : List (String × Json)} {definitions : Definitions}
    (h : ofFields fields = .ok definitions) : definitions.Static := by
  induction fields generalizing definitions with
  | nil =>
    cases h
    intro e he
    cases he
  | cons field rest ih =>
    obtain ⟨d, hd, h⟩ := bind_eq_ok.mp h
    obtain ⟨others, hothers, h⟩ := bind_eq_ok.mp h
    cases h
    intro e he
    rcases List.mem_cons.mp he with rfl | he
    · exact Definition.ofJson_static hd
    · exact ih hothers e he

/-- A definition file in either format is a value that describes definitions. -/
theorem ofJson_of_parse {format : Format} {text : String} {definitions : Definitions}
    (h : parse format text = .ok definitions) : ∃ v, ofJson v = .ok definitions := by
  cases format with
  | json =>
    unfold parse ofJsonText at h
    cases hv : Json.parse? text with
    | none => simp only [hv, reduceCtorEq] at h
    | some v =>
      simp only [hv] at h
      exact ⟨v, h⟩
  | yaml =>
    unfold parse at h
    cases hv : Yaml.parse? text with
    | none => simp only [hv, reduceCtorEq] at h
    | some v =>
      simp only [hv] at h
      exact ⟨v, h⟩

/-- A definition set is the fields of an object, read and put under their names. -/
theorem ofFields_of_ofJson {v : Json} {definitions : Definitions}
    (h : ofJson v = .ok definitions) :
    ∃ fields read, v = .object fields ∧ ofFields fields = .ok read ∧
      definitions = Entries.ofList read := by
  cases v with
  | object fields =>
    obtain ⟨read, hread, h⟩ := bind_eq_ok.mp h
    cases h
    exact ⟨fields, read, rfl, hread, rfl⟩
  | _ => cases h

/-- Nothing that is loaded is computed. -/
theorem parse_static {format : Format} {text : String} {definitions : Definitions}
    (h : parse format text = .ok definitions) : definitions.Static := by
  obtain ⟨v, hv⟩ := ofJson_of_parse h
  obtain ⟨fields, read, _, hread, rfl⟩ := ofFields_of_ofJson hv
  intro e he
  rcases Entries.mem_insertAll he with he | he
  · cases he
  · exact ofFields_static hread e he

/-- No two loaded definitions have the same name. -/
theorem nodup_keys_of_parse {format : Format} {text : String} {definitions : Definitions}
    (h : parse format text = .ok definitions) : (Entries.keys definitions).Nodup := by
  obtain ⟨v, hv⟩ := ofJson_of_parse h
  obtain ⟨_, _, _, _, rfl⟩ := ofFields_of_ofJson hv
  exact Entries.nodup_keys_insertAll List.nodup_nil

/-- Sets that come from files: loaded from a text, or made from such a set by
    inserting a definition of another. -/
inductive Loaded : Definitions → Prop where
  | file {format : Format} {text : String} {definitions : Definitions} :
      parse format text = .ok definitions → Loaded definitions
  | insert {definitions others : Definitions} {docType : String} {d : Definition} :
      Loaded definitions → Loaded others → (docType, d) ∈ others →
      Loaded (Entries.insert docType d definitions)

namespace Loaded

variable {definitions others : Definitions}

/-- Nothing in a set that comes from files is computed. -/
theorem static (h : Loaded definitions) : definitions.Static := by
  induction h with
  | file hparse => exact parse_static hparse
  | insert _ _ hmem ih ihOthers =>
    intro e he
    rcases Entries.mem_insert he with rfl | he
    · exact ihOthers _ hmem
    · exact ih e he

/-- No two definitions of a set that comes from files have the same name. -/
theorem nodup_keys (h : Loaded definitions) : (Entries.keys definitions).Nodup := by
  induction h with
  | file hparse => exact nodup_keys_of_parse hparse
  | insert _ _ _ ih _ => exact Entries.nodup_keys_insert ih

/-- One such set inserted into another is one again. -/
theorem merge (h : Loaded definitions) (hothers : Loaded others) :
    Loaded (Entries.insertAll definitions others) := by
  -- the definitions that are still to be inserted are some of the other set
  have hsome (more : Definitions) (hmore : ∀ e ∈ more, e ∈ others) {definitions : Definitions}
      (h : Loaded definitions) : Loaded (Entries.insertAll definitions more) := by
    induction more generalizing definitions with
    | nil => exact h
    | cons e rest ih =>
      exact ih (fun e he => hmore e (List.mem_cons_of_mem _ he))
        (h.insert hothers (hmore e List.mem_cons_self))
  exact hsome others (fun _ he => he) h

end Loaded

end Definitions

/-! ## Definitions from the text of a value -/

namespace Json

mutual

/-- The characters of the compact text. -/
def compactChars : Json → List Char
  | string s => '"' :: (s.toList.flatMap escape ++ ['"'])
  | array items => '[' :: (List.intercalate [','] (compactItemChars items) ++ [']'])
  | object fields => '\x7b' :: (List.intercalate [','] (compactFieldChars fields) ++ ['\x7d'])
  | v => v.compact.toList

/-- The characters of each item. -/
def compactItemChars : List Json → List (List Char)
  | [] => []
  | v :: rest => compactChars v :: compactItemChars rest

/-- The characters of each field. -/
def compactFieldChars : List (String × Json) → List (List Char)
  | [] => []
  | (k, v) :: rest =>
    ('"' :: (k.toList.flatMap escape ++ ['"', ':']) ++ compactChars v) :: compactFieldChars rest

end

theorem toList_quote (s : String) :
    (quote s).toList = '"' :: (s.toList.flatMap escape ++ ['"']) := by
  unfold quote
  rw [String.toList_ofList]
  rfl

mutual

/-- The compact text of a value, character by character. -/
theorem toList_compact (v : Json) : v.compact.toList = v.compactChars := by
  cases v with
  | string s => exact toList_quote s
  | array items =>
    unfold compact compactChars
    simp only [String.toList_append, String.toList_intercalate, toList_compactItems items]
    rfl
  | object fields =>
    unfold compact compactChars
    simp only [String.toList_append, String.toList_intercalate, toList_compactFields fields]
    rfl
  | null => rfl
  | bool b => rfl
  | number n => rfl

theorem toList_compactItems (items : List Json) :
    (compactItems items).map String.toList = compactItemChars items := by
  cases items with
  | nil => rfl
  | cons v rest =>
    unfold compactItems compactItemChars
    rw [List.map_cons, toList_compact v, toList_compactItems rest]

theorem toList_compactFields (fields : List (String × Json)) :
    (compactFields fields).map String.toList = compactFieldChars fields := by
  cases fields with
  | nil => rfl
  | cons e rest =>
    unfold compactFields compactFieldChars
    rw [List.map_cons, toList_compactFields rest]
    simp only [String.toList_append, toList_quote, toList_compact e.2]
    simp

end

end Json

namespace Definitions

/-- What the compact text of a value describes is read off its characters. -/
theorem parse_compact (v : Json) : parse .json v.compact =
    match (Json.tokens? v.compactChars).bind Json.ofTokens? with
    | none => .error .notJson
    | some read => ofJson read := by
  unfold parse ofJsonText Json.parse?
  rw [Json.toList_compact]
  rfl

end Definitions

end WritePolicy
