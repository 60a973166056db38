import WritePolicy.Proofs.Loading
import WritePolicy.Proofs.Walk

/-! # What the fields of records state

    The records of a definition file are fields by name. A field that is missing or `null`
    states nothing; what the others state stands in the slot of their name, as a literal
    (`FieldSlot.FilledFrom`). A slot whose field states nothing has its default.

    Each kind of field has its own decoder, and for each there is one lemma: if the
    decoder gives a result, the slot that is made of the result is filled from the field.
    Nothing is said here about which fields a record has.
-/

namespace WritePolicy

/-! ## Fields of a record -/

namespace Json

/-- A value has the form of a record with these fields: an object of declared fields, or
    an array of the first fields, in which only fields with a default are left out. -/
inductive Writes (declared : List RecordField) : Json → Entries Json → Prop where
  | object {fields : Entries Json} :
      (∀ e ∈ fields, ∃ d ∈ declared, d.name = e.1) → Writes declared (.object fields) fields
  | array {items : List Json} :
      items.length ≤ declared.length → (∀ d ∈ declared.drop items.length, d.hasDefault = true) →
      Writes declared (.array items) ((declared.map (·.name)).zip items)

/-- A field that is given and not `null`. -/
def given? (fields : Entries Json) (name : String) : Option Json :=
  Walk.present (Entries.get? name fields)

variable {declared : List RecordField} {v x : Json} {fields : Entries Json} {name : String}

/-- What is read as a record has the form of one. -/
theorem writes_of_recordFields? (h : v.recordFields? declared true = some fields) :
    Writes declared v fields := by
  unfold recordFields? at h
  cases v with
  | object entries =>
    dsimp only at h
    by_cases hknown : (true && entries.any fun f => !declared.any fun d => d.name == f.1) = true
    · rw [if_pos hknown] at h
      cases h
    · rw [if_neg hknown] at h
      cases h
      simp only [Bool.true_and, List.any_eq_true, Bool.not_eq_true', List.any_eq_false, beq_iff_eq,
        not_exists, not_and, Classical.not_forall, Decidable.not_not, exists_prop] at hknown
      exact .object hknown
  | array items =>
    dsimp only at h
    by_cases hlength : declared.length < items.length
    · rw [if_pos hlength] at h
      cases h
    · rw [if_neg hlength] at h
      by_cases hdefault : ((declared.drop items.length).any fun d => !d.hasDefault) = true
      · rw [if_pos hdefault] at h
        cases h
      · rw [if_neg hdefault] at h
        cases h
        simp only [List.any_eq_true, not_exists, not_and, Bool.not_eq_true', Bool.not_eq_false]
          at hdefault
        exact .array (Nat.le_of_not_lt hlength) hdefault
  | null | bool _ | number _ | string _ => cases h

/-- The fields that a value gives: those of an object, or the items of an array under the
    declared names. -/
def fieldsAs (declared : List RecordField) : Json → Entries Json
  | object fields => fields
  | array items => (declared.map (·.name)).zip items
  | _ => []

/-- The fields of a record are those that its value gives. -/
theorem Writes.eq_fieldsAs (h : Writes declared v fields) : fields = v.fieldsAs declared := by
  cases h <;> rfl

/-- An object that is a record has no other fields than the declared ones. -/
theorem Writes.declared_of_mem {entries : Entries Json} (h : Writes declared (.object entries) fields)
    (hname : name ∈ Entries.keys entries) : ∃ d ∈ declared, d.name = name := by
  cases h with
  | object hknown =>
    obtain ⟨e, he, rfl⟩ := List.mem_map.mp hname
    exact hknown e he

/-- A field that a record gives is declared. -/
theorem Writes.declared_of_given? (h : Writes declared v fields)
    (hx : given? fields name = some x) : ∃ d ∈ declared, d.name = name := by
  have hmem := Entries.mem_of_get? (Walk.present_eq_some.mp hx).1
  cases h with
  | object hknown => exact hknown _ hmem
  | array _ _ => exact List.mem_map.mp (List.of_mem_zip hmem).1

/-! ## Decoding -/

variable {α : Type} {decode : Json → Option α}

/-- A field that may be left out is decoded if it states something. -/
theorem optionalField?_cases {o : Option α} (h : optionalField? fields name decode = some o) :
    (given? fields name = none ∧ o = none) ∨
      ∃ x a, given? fields name = some x ∧ decode x = some a ∧ o = some a := by
  unfold optionalField? at h
  unfold given?
  match hget : Entries.get? name fields with
  | none =>
    rw [hget] at h
    cases h
    exact .inl ⟨rfl, rfl⟩
  | some .null =>
    rw [hget] at h
    cases h
    exact .inl ⟨rfl, rfl⟩
  | some (.bool _) | some (.number _) | some (.string _) | some (.array _) | some (.object _) =>
    rw [hget] at h
    obtain ⟨a, ha, rfl⟩ := Option.map_eq_some_iff.mp h
    exact .inr ⟨_, a, rfl, ha, rfl⟩

/-- What a field states tells whether it is decoded. -/
theorem isSome_of_optionalField? {o : Option α} (h : optionalField? fields name decode = some o) :
    o.isSome = (given? fields name).isSome := by
  obtain ⟨hnone, rfl⟩ | ⟨x, a, hx, -, rfl⟩ := optionalField?_cases h
  · rw [hnone]
    rfl
  · rw [hx]
    rfl

/-- A field with a default is decoded if it is given. -/
theorem defaultField?_cases {a default : α}
    (h : defaultField? fields name default decode = some a) :
    (Entries.get? name fields = none ∧ a = default) ∨
      ∃ x, Entries.get? name fields = some x ∧ decode x = some a := by
  unfold defaultField? at h
  cases hget : Entries.get? name fields with
  | none =>
    rw [hget] at h
    cases h
    exact .inl ⟨rfl, rfl⟩
  | some x =>
    rw [hget] at h
    exact .inr ⟨x, rfl, h⟩

theorem eq_bool_of_asBool? {b : Bool} (h : x.asBool? = some b) : x = .bool b := by
  cases x <;> cases h
  rfl

theorem eq_string_of_asString? {s : String} (h : x.asString? = some s) : x = .string s := by
  cases x <;> cases h
  rfl

theorem eq_array_of_asArray? {items : List Json} (h : x.asArray? = some items) :
    x = .array items := by
  cases x <;> cases h
  rfl

theorem eq_object_of_asObject? {entries : Entries Json} (h : x.asObject? = some entries) :
    x = .object entries := by
  cases x <;> cases h
  rfl

/-- A count is a whole number. -/
theorem eq_ofNat_of_asCount? {n : Nat} (h : x.asCount? = some n) : x = .ofNat n := by
  obtain ⟨k, hk, hn⟩ := Option.bind_eq_some_iff.mp h
  cases x with
  | number m =>
    cases hk
    cases k with
    | int i =>
      unfold Number.toCount? at hn
      by_cases hrange : 0 ≤ i ∧ i < twoTo 64
      · dsimp only at hn
        rw [if_pos hrange] at hn
        cases hn
        unfold ofNat
        rw [Int.toNat_of_nonneg hrange.1]
      · dsimp only at hn
        rw [if_neg hrange] at hn
        cases hn
    | float _ => cases hn
  | null | bool _ | string _ | array _ | object _ => cases hk

/-- Items that are all strings are a list of strings. -/
theorem eq_map_of_mapM {items : List Json} {texts : List String}
    (h : items.mapM asString? = some texts) : items = texts.map .string := by
  induction items generalizing texts with
  | nil =>
    cases h
    rfl
  | cons item rest ih =>
    rw [List.mapM_cons] at h
    obtain ⟨s, hs, h⟩ := Option.bind_eq_some_iff.mp h
    obtain ⟨others, hothers, h⟩ := Option.bind_eq_some_iff.mp h
    cases h
    rw [eq_string_of_asString? hs, ih hothers]
    rfl

theorem eq_array_of_asStrings? {texts : List String} (h : x.asStrings? = some texts) :
    x = .array (texts.map .string) := by
  obtain ⟨items, hitems, h⟩ := Option.bind_eq_some_iff.mp h
  rw [eq_array_of_asArray? hitems, eq_map_of_mapM h]

/-- A list of strings is one string or many. -/
theorem asOneOrMany?_cases {texts : List String} (h : x.asOneOrMany? = some texts) :
    (∃ s, x = .string s ∧ texts = [s]) ∨ x = .array (texts.map .string) := by
  cases x with
  | string s =>
    cases h
    exact .inl ⟨s, rfl, rfl⟩
  | array items => exact .inr (eq_array_of_asStrings? h)
  | null | bool _ | number _ | object _ => cases h

end Json

/-! ## Slots and their fields -/

/-- What stands on a node under the name of a field. -/
inductive FieldSlot where
  | flag (slot : Slot Bool)
  | value (slot : Option (Slot Json))
  | count (slot : Option (Slot Nat))
  | pattern (slot : Option (Slot Pattern))
  | texts (slot : Option (Slot (List String)))
  | values (slot : Slot (List Json))
  | grant (slot : Option (Slot GrantSet))
  | filter (filter : TypeFilter)
  | keys (rules : Option KeyRules)
  /-- whether there are validators below -/
  | nested (isSet : Bool)

/-- The fields of the rules for keys. -/
def KeyRecord.declared : List RecordField :=
  [⟨"mustNotBeEmpty", true⟩, ⟨"regexPattern", false⟩]

/-- The fields of a grant by kinds of access. -/
def GrantSet.declared : List RecordField :=
  [⟨"view", false⟩, ⟨"add", false⟩, ⟨"replace", false⟩, ⟨"remove", false⟩, ⟨"write", false⟩]

/-- The members that a field lists, where one string stands for a list of one. -/
inductive Json.Lists : Option Json → List String → Prop where
  | missing : Lists none []
  | one (s : String) : Lists (some (.string s)) [s]
  | many (members : List String) : Lists (some (.array (members.map .string))) members

/-- The slot is filled from a field: with a literal of the value that the field states, or
    with its default if the field states nothing. Values of an enumeration have none. -/
inductive FieldSlot.FilledFrom : FieldSlot → Option Json → Prop where
  | flag (b : Bool) : FilledFrom (.flag (.literal b)) (some (.bool b))
  | flagOff : FilledFrom (.flag (.literal false)) none
  | value (x : Json) : FilledFrom (.value (some (.literal x))) (some x)
  | noValue : FilledFrom (.value none) none
  | count (n : Nat) : FilledFrom (.count (some (.literal n))) (some (.ofNat n))
  | noCount : FilledFrom (.count none) none
  | pattern {p : Pattern} :
      Pattern.ofSource? p.source = some p →
      FilledFrom (.pattern (some (.literal p))) (some (.string p.source))
  | noPattern : FilledFrom (.pattern none) none
  | texts (members : List String) :
      FilledFrom (.texts (some (.literal members))) (some (.array (members.map .string)))
  | noTexts : FilledFrom (.texts none) none
  | values (members : List Json) :
      FilledFrom (.values (.literal members)) (some (.array members))
  | writers {x : Json} {members : List String} :
      Json.Lists (some x) members →
      FilledFrom (.grant (some (.literal { write := members }))) (some x)
  | grant {x : Json} {fields : Entries Json} {g : GrantSet} :
      (∀ members, ¬ Json.Lists (some x) members) → x.Writes GrantSet.declared fields →
      Json.Lists (Json.given? fields "view") g.view →
      Json.Lists (Json.given? fields "add") g.add →
      Json.Lists (Json.given? fields "replace") g.replace →
      Json.Lists (Json.given? fields "remove") g.remove →
      Json.Lists (Json.given? fields "write") g.write →
      FilledFrom (.grant (some (.literal g))) (some x)
  | noGrant : FilledFrom (.grant none) none
  | simple : FilledFrom (.filter .simple) (some (.string "simple"))
  | idPattern {x : Json} {fields : Entries Json} {p : Pattern} :
      x.Writes [⟨"idPattern", false⟩] fields →
      Json.given? fields "idPattern" = some (.string p.source) →
      Pattern.ofSource? p.source = some p → FilledFrom (.filter (.idPattern p)) (some x)
  | noFilter : FilledFrom (.filter .simple) none
  | keys {x : Json} {fields : Entries Json} {rules : KeyRules} :
      x.Writes KeyRecord.declared fields →
      FilledFrom (.flag rules.mustNotBeEmpty) (Json.given? fields "mustNotBeEmpty") →
      FilledFrom (.pattern rules.pattern) (Json.given? fields "regexPattern") →
      FilledFrom (.keys (some rules)) (some x)
  | noKeys : FilledFrom (.keys none) none
  | nested (x : Json) : FilledFrom (.nested true) (some x)
  | notNested : FilledFrom (.nested false) none

/-- Slots hold what is stated, and nothing else is stated: every slot is filled from the
    field of its name, and every field that states something has a slot, or is one of some
    others. -/
structure FilledSlots (slots : List (String × FieldSlot)) (stated : String → Option Json)
    (others : List String) : Prop where
  filled : ∀ e ∈ slots, e.2.FilledFrom (stated e.1)
  placed : ∀ name x, stated name = some x → name ∈ others ∨ name ∈ slots.map (·.1)

/-- The fields of a record have slots if the declared ones do. -/
theorem FilledSlots.of_declared {slots : List (String × FieldSlot)} {declared : List RecordField}
    {fields : Entries Json} {others : List String}
    (hfields : ∀ {name x}, Json.given? fields name = some x → ∃ d ∈ declared, d.name = name)
    (hdeclared : ∀ d ∈ declared, d.name ∈ others ∨ d.name ∈ slots.map (·.1))
    (hfilled : ∀ e ∈ slots, e.2.FilledFrom (Json.given? fields e.1)) :
    FilledSlots slots (Json.given? fields) others where
  filled := hfilled
  placed := by
    intro name x hx
    obtain ⟨d, hd, rfl⟩ := hfields hx
    exact hdeclared d hd

/-! ## Decoders fill slots -/

section

variable {fields : Entries Json} {name : String}

open Json

/-- What a field with a default decodes to is not `null`. -/
theorem filled_flag {b : Bool} (h : defaultField? fields name false asBool? = some b) :
    (FieldSlot.flag (.literal b)).FilledFrom (given? fields name) := by
  unfold given?
  obtain ⟨hnone, rfl⟩ | ⟨x, hx, hb⟩ := defaultField?_cases h
  · rw [hnone]
    exact .flagOff
  · rw [hx, eq_bool_of_asBool? hb]
    exact .flag b

theorem filled_switch {o : Option Bool} (h : optionalField? fields name asBool? = some o) :
    (FieldSlot.flag (.literal (o.getD false))).FilledFrom (given? fields name) := by
  obtain ⟨hnone, rfl⟩ | ⟨x, b, hx, hb, rfl⟩ := optionalField?_cases h
  · rw [hnone]
    exact .flagOff
  · rw [hx, eq_bool_of_asBool? hb]
    exact .flag b

theorem filled_value {o : Option Json} (h : optionalField? fields name asIs? = some o) :
    (FieldSlot.value (slot? o)).FilledFrom (given? fields name) := by
  obtain ⟨hnone, rfl⟩ | ⟨x, a, hx, ha, rfl⟩ := optionalField?_cases h
  · rw [hnone]
    exact .noValue
  · cases ha
    rw [hx]
    exact .value x

theorem filled_count {o : Option Nat} (h : optionalField? fields name asCount? = some o) :
    (FieldSlot.count (slot? o)).FilledFrom (given? fields name) := by
  obtain ⟨hnone, rfl⟩ | ⟨x, n, hx, hn, rfl⟩ := optionalField?_cases h
  · rw [hnone]
    exact .noCount
  · rw [hx, eq_ofNat_of_asCount? hn]
    exact .count n

theorem filled_texts {o : Option (List String)}
    (h : optionalField? fields name asStrings? = some o) :
    (FieldSlot.texts (slot? o)).FilledFrom (given? fields name) := by
  obtain ⟨hnone, rfl⟩ | ⟨x, members, hx, hmembers, rfl⟩ := optionalField?_cases h
  · rw [hnone]
    exact .noTexts
  · rw [hx, eq_array_of_asStrings? hmembers]
    exact .texts members

/-- A pattern that was read is that of its source. -/
theorem ofSource?_of_readPattern {source : String} {p : Pattern} (h : readPattern source = .ok p) :
    p.source = source ∧ Pattern.ofSource? p.source = some p := by
  unfold readPattern at h
  cases hp : Pattern.ofSource? source with
  | none =>
    rw [hp] at h
    cases h
  | some q =>
    rw [hp] at h
    cases h
    obtain ⟨r, -, rfl⟩ := Option.map_eq_some_iff.mp hp
    exact ⟨rfl, hp⟩

theorem filled_pattern {o : Option String} {slot : Option (Slot Pattern)}
    (h : optionalField? fields name asString? = some o) (hslot : patternSlot? o = .ok slot) :
    (FieldSlot.pattern slot).FilledFrom (given? fields name) := by
  obtain ⟨hnone, rfl⟩ | ⟨x, source, hx, hsource, rfl⟩ := optionalField?_cases h
  · cases hslot
    rw [hnone]
    exact .noPattern
  · obtain ⟨p, hread, hslot⟩ := bind_eq_ok.mp hslot
    cases hslot
    obtain ⟨rfl, hp⟩ := ofSource?_of_readPattern hread
    rw [hx, eq_string_of_asString? hsource]
    exact .pattern hp

/-- A bound that was read is kept as it is, and can bound values of the type. -/
theorem filled_bound {type : OrdinalType} {o : Option Json} {slot : Option (Slot Json)}
    (h : optionalField? fields name asIs? = some o) (hslot : boundSlot? type o = .ok slot) :
    (FieldSlot.value slot).FilledFrom (given? fields name) ∧
      ∀ x, given? fields name = some x → type.isBound x = true := by
  have hfilled := filled_value h
  obtain ⟨hnone, rfl⟩ | ⟨x, a, hx, ha, rfl⟩ := optionalField?_cases h
  · cases hslot
    refine ⟨hfilled, fun x hx => ?_⟩
    rw [hnone] at hx
    cases hx
  · cases ha
    unfold boundSlot? at hslot
    dsimp only at hslot
    by_cases hb : type.isBound x = true
    · rw [if_pos hb] at hslot
      cases hslot
      refine ⟨hfilled, fun y hy => ?_⟩
      rw [hx] at hy
      cases hy
      exact hb
    · rw [if_neg hb] at hslot
      cases hslot

/-- The members of a grant for one kind of access. -/
theorem lists_of_list {members : List String}
    (h : (do return (← optionalField? fields name asOneOrMany?).getD [] : Option (List String)) =
      some members) : Lists (given? fields name) members := by
  obtain ⟨o, ho, h⟩ := Option.bind_eq_some_iff.mp h
  cases h
  obtain ⟨hnone, rfl⟩ | ⟨x, members, hx, hmembers, rfl⟩ := optionalField?_cases ho
  · rw [hnone]
    exact .missing
  · rw [hx]
    obtain ⟨s, rfl, rfl⟩ | rfl := asOneOrMany?_cases hmembers
    · exact .one s
    · exact .many members

/-- A list of strings is read as it is. -/
theorem mapM_asString? (texts : List String) :
    (texts.map Json.string).mapM asString? = some texts := by
  induction texts with
  | nil => rfl
  | cons text rest ih =>
    rw [List.map_cons, List.mapM_cons, ih]
    rfl

theorem lists_iff_asOneOrMany? {x : Json} {members : List String} :
    Lists (some x) members ↔ x.asOneOrMany? = some members := by
  constructor
  · rintro (_ | _ | _)
    · rfl
    · exact mapM_asString? members
  · intro h
    obtain ⟨s, rfl, rfl⟩ | rfl := asOneOrMany?_cases h
    · exact .one s
    · exact .many members

theorem filled_grant {o : Option GrantSet} (h : optionalField? fields name GrantSet.ofJson? = some o) :
    (FieldSlot.grant (slot? o)).FilledFrom (given? fields name) := by
  obtain ⟨hnone, rfl⟩ | ⟨x, g, hx, hg, rfl⟩ := optionalField?_cases h
  · rw [hnone]
    exact .noGrant
  · rw [hx]
    unfold GrantSet.ofJson? at hg
    cases hmembers : x.asOneOrMany? with
    | some members =>
      rw [hmembers] at hg
      cases hg
      exact .writers (lists_iff_asOneOrMany?.mpr hmembers)
    | none =>
      rw [hmembers] at hg
      have hnot (members : List String) : ¬ Lists (some x) members := by
        rw [lists_iff_asOneOrMany?, hmembers]
        exact nofun
      obtain ⟨entries, hentries, hg⟩ := Option.bind_eq_some_iff.mp hg
      obtain ⟨_, hview, hg⟩ := Option.bind_eq_some_iff.mp hg
      obtain ⟨_, hadd, hg⟩ := Option.bind_eq_some_iff.mp hg
      obtain ⟨_, hreplace, hg⟩ := Option.bind_eq_some_iff.mp hg
      obtain ⟨_, hremove, hg⟩ := Option.bind_eq_some_iff.mp hg
      obtain ⟨_, hwrite, hg⟩ := Option.bind_eq_some_iff.mp hg
      cases hg
      exact .grant hnot (writes_of_recordFields? hentries) (lists_of_list hview)
        (lists_of_list hadd) (lists_of_list hreplace) (lists_of_list hremove)
        (lists_of_list hwrite)

theorem filled_keys {r : ValidatorRecord} {keys : Option KeyRules}
    (h : optionalField? fields name KeyRecord.ofJson? = some r.hashtableKeysValidator)
    (hkeys : r.keyRules = .ok keys) : (FieldSlot.keys keys).FilledFrom (given? fields name) := by
  unfold ValidatorRecord.keyRules at hkeys
  obtain ⟨hnone, hstated⟩ | ⟨x, k, hx, hk, hstated⟩ := optionalField?_cases h
  · rw [hstated] at hkeys
    cases hkeys
    rw [hnone]
    exact .noKeys
  · rw [hstated] at hkeys
    obtain ⟨pattern, hpattern, hkeys⟩ := bind_eq_ok.mp hkeys
    cases hkeys
    obtain ⟨entries, hentries, hk⟩ := Option.bind_eq_some_iff.mp hk
    obtain ⟨_, hforbidden, hk⟩ := Option.bind_eq_some_iff.mp hk
    obtain ⟨_, hsource, hk⟩ := Option.bind_eq_some_iff.mp hk
    cases hk
    rw [hx]
    exact .keys (writes_of_recordFields? hentries) (filled_flag hforbidden)
      (filled_pattern hsource hpattern)

theorem filled_filter {r : DefinitionRecord} {typeId : String} {filter : TypeFilter}
    (h : optionalField? fields name FilterRecord.ofJson? = some r.typeFilter)
    (hfilter : r.readFilter typeId = .ok filter) :
    (FieldSlot.filter filter).FilledFrom (given? fields name) := by
  unfold DefinitionRecord.readFilter at hfilter
  obtain ⟨hnone, hstated⟩ | ⟨x, stated, hx, hdecode, hstated⟩ := optionalField?_cases h
  · rw [hstated] at hfilter
    cases hfilter
    rw [hnone]
    exact .noFilter
  · rw [hstated] at hfilter
    rw [hx]
    unfold FilterRecord.ofJson? at hdecode
    cases x with
    | string s =>
      cases hdecode
      dsimp only at hfilter
      by_cases hs : s = "simple"
      · rw [if_pos hs] at hfilter
        cases hfilter
        rw [hs]
        exact .simple
      · rw [if_neg hs] at hfilter
        cases hfilter
    | null | bool _ | number _ | array _ | object _ =>
      obtain ⟨entries, hentries, hdecode⟩ := Option.bind_eq_some_iff.mp hdecode
      obtain ⟨source, hsource, hdecode⟩ := Option.bind_eq_some_iff.mp hdecode
      cases hdecode
      obtain ⟨p, hread, hfilter⟩ := bind_eq_ok.mp hfilter
      cases hfilter
      obtain ⟨rfl, hp⟩ := ofSource?_of_readPattern hread
      obtain ⟨y, hy, hys⟩ := Option.bind_eq_some_iff.mp hsource
      refine .idPattern (writes_of_recordFields? hentries) ?_ hp
      unfold given?
      rw [hy, eq_string_of_asString? hys]
      rfl

end

end WritePolicy
