import WritePolicy.Proofs.Conformance

/-! # What a walk decides

    A walk over static validators ends, and it is clean exactly if the document
    conforms to them. The checks of one position come first, with the checks of
    the type and below it left open; then the rules of each type; then the
    positions below, by induction on the validator tree.

    The path of a walk only names where a violation is reported, so it is free in
    every statement here.
-/

namespace WritePolicy

open Trace

namespace Walk

theorem present_eq_some {v : Option Json} {x : Json} :
    present v = some x ↔ v = some x ∧ x ≠ .null := by
  cases v with
  | none => simp [present]
  | some a => cases a <;> simp [present, Json.isNull, Option.filter] <;> grind

variable {s here : Situation} {path : Path} {type : DataType} {rules : CommonRules}

/-! ## Checks of one position -/

theorem customValidation_static (hr : rules.Static) :
    customValidation rules path here = pure () := by
  unfold customValidation
  rw [hr.customValidation]
  rfl

theorem unchanged_iff : unchanged type here = true ↔ Unchanged type here.value here.oldValue := by
  unfold unchanged Unchanged
  cases present here.value <;> cases present here.oldValue <;> simp

/-- Whether a value is frozen is read from literals. -/
theorem isFrozen_static (hr : rules.Static) (path : Path) (here : Situation) :
    ∃ b, isFrozen rules path here = pure b ∧ (b = true ↔ Frozen rules here.oldValue) := by
  unfold isFrozen Frozen
  rcases hr.immutable.on_or_off with him | him
  · exact ⟨true, by rw [him]; rfl, by simp [him]⟩
  -- the second flag counts only where the prior value is set
  · rcases hr.immutableWhenSet.on_or_off with hset | hset <;>
      cases hold : present here.oldValue with
      | none => exact ⟨false, by rw [him]; rfl, by simp [him]⟩
      | some x => exact ⟨_, by rw [him, hset]; rfl, by simp [him, hset]⟩

/-- Immutability asks that a frozen value is unchanged. -/
theorem immutability_decides (hr : rules.Static) :
    (immutability type rules path here).Decides
      (here.hasOld = true → Frozen rules here.oldValue →
        Unchanged type here.value here.oldValue) := by
  obtain ⟨frozen, hread, hfrozen⟩ := isFrozen_static hr path here
  unfold immutability
  rw [hread]
  cases here.hasOld with
  | false => exact decides_pure.congr (by simp)
  | true =>
    refine (decides_violationIf (frozen && !unchanged type here) _).congr ?_
    rw [← hfrozen, ← unchanged_iff]
    cases frozen <;> simp

theorem requirement_decides (hr : rules.Static) :
    (requirement rules path here).Decides (rules.required ≠ .literal true) := by
  unfold requirement
  obtain ⟨required, hreq⟩ := hr.required
  simp only [hreq, read_literal, Logged.pure_bind]
  exact (decides_violationIf _ _).congr (by simp)

theorem emptiness_decides (hr : rules.Static) (x : Json) :
    (emptiness rules path here x).Decides
      (rules.mustNotBeEmpty = .literal true → x.isEmpty = false) := by
  unfold emptiness
  obtain ⟨forbidden, hne⟩ := hr.mustNotBeEmpty
  simp only [hne, read_literal, Logged.pure_bind]
  exact (decides_violationIf _ _).congr (by simp)

theorem isNull_eq_false {x : Json} : x.isNull = false ↔ x ≠ .null := by
  cases x <;> simp [Json.isNull]

theorem equality_decides (hr : rules.Static) (x : Json) :
    (equality type rules path here x).Decides
      (∀ expected, rules.mustEqual = some (.literal expected) → expected ≠ .null →
        type.sameValue x expected = true) := by
  refine decides_readThen hr.mustEqual fun expected _ => ?_
  refine (decides_violationIf _ _).congr ?_
  rw [← isNull_eq_false]
  cases expected.isNull <;> simp

/-- The checks of a value that is there decide that it keeps the rules, given what
    the checks of the type and below it decide of a value of the type. -/
theorem value_decides (hr : rules.Static) {content : Json → Trace Unit} {P : Json → Prop}
    {x : Json} (hcontent : type.admits x = true → (content x).Decides (P x)) :
    (if type.admits x then do
        emptiness rules path here x
        equality type rules path here x
        content x
      else Trace.violation path (.wrongType type)).Decides (KeepsValue type rules P x) := by
  by_cases ht : type.admits x = true
  · rw [if_pos ht]
    refine ((emptiness_decides hr x).bind
      ((equality_decides hr x).bind (hcontent ht))).congr ?_
    exact ⟨fun ⟨hne, heq, hp⟩ => ⟨ht, hne, heq, hp⟩, fun h => ⟨h.notEmpty, h.equal, h.content⟩⟩
  · rw [if_neg ht]
    exact (decides_violation _).congr ⟨False.elim, fun h => ht h.typed⟩

/-- The checks of a position decide that its rules are kept. -/
theorem position_decides (hr : rules.Static) {content : Json → Trace Unit} {P : Json → Prop}
    (hcontent : ∀ x, type.admits x = true → (content x).Decides (P x)) :
    (position type rules path here content).Decides
      (Keeps here.hasOld type rules P here.value here.oldValue) := by
  unfold position
  rw [customValidation_static hr, Logged.pure_bind]
  cases hv : present here.value with
  -- nothing is there: besides immutability, only the requirement is asked
  | none =>
    refine ((immutability_decides hr).bind (requirement_decides hr)).congr ?_
    constructor
    · intro h
      obtain ⟨hunchanged, hgiven⟩ := h
      exact ⟨hunchanged, fun h => absurd h hgiven, by simp [hv]⟩
    · intro h
      exact ⟨h.unchanged, fun hreq => h.given hreq hv⟩
  -- something is there: the checks of the value take the place of the requirement
  | some x =>
    refine ((immutability_decides hr).bind (value_decides hr (hcontent x))).congr ?_
    constructor
    · intro h
      obtain ⟨hunchanged, hvalue⟩ := h
      refine ⟨hunchanged, by simp [hv], ?_⟩
      intro y hy
      rw [hv] at hy
      cases hy
      exact hvalue
    · intro h
      exact ⟨h.unchanged, h.value x hv⟩

/-! ## Rules of types -/

theorem size_decides {r : SizeRules} (hr : r.Static) (counted : Counted) (actual : Nat) :
    (size r counted path here actual).Decides (r.Keeps actual) := by
  unfold size
  refine ((decides_readThen_violationIf hr.minimum fun _ => ?_).bind
    (decides_readThen_violationIf hr.maximum fun _ => ?_)).congr
      ⟨fun ⟨hmin, hmax⟩ => ⟨hmin, hmax⟩, fun h => ⟨h.minimum, h.maximum⟩⟩
  · exact decide_eq_false_iff_not.trans Nat.not_lt
  · exact decide_eq_false_iff_not.trans Nat.not_lt

theorem pattern_decides {rule : Option (Slot Pattern)} (hrule : Slot.LiteralIfSet rule)
    (text : String) : (pattern rule path here text).Decides (Pattern.Keeps rule text) :=
  decides_readThen_violationIf hrule fun _ => (Bool.not_eq_false' _).to_iff

/-- A limit excludes the orders that it does not admit. -/
theorem excludes_eq_false_iff {limit : Limit} {o : Ordering} :
    limit.excludes o = false ↔ limit.Admits o := by
  cases limit <;> cases o <;> simp [Limit.excludes, Limit.Admits]

/-- A text that a reader accepts has a magnitude. -/
theorem ofText?_of_isTextOf {α : Type} {parse : String → Except TemporalError α} {x : Json}
    (h : x.isTextOf parse = true) (measure : α → Magnitude) :
    ∃ m, Magnitude.ofText? parse measure x = some m := by
  cases x with
  | string text =>
    cases hp : parse text with
    | ok a => exact ⟨measure a, by simp [Magnitude.ofText?, hp, Except.toOption]⟩
    | error e => simp [Json.isTextOf, hp, Except.toBool] at h
  | _ => cases h

/-- A value of an ordinal type has a magnitude. -/
theorem magnitude_of_admits {t : OrdinalType} {x : Json}
    (h : (DataType.ordinal t).admits x = true) : ∃ m, Magnitude.of? t x = some m := by
  cases t with
  | date => exact ofText?_of_isTextOf h _
  | dateTime =>
    obtain ⟨m, hm⟩ := ofText?_of_isTextOf h fun d => .instant d.instantMillis
    exact ⟨m, by simp only [Magnitude.of?, hm]⟩
  | timeZone => exact ofText?_of_isTextOf h _
  | integer | float =>
    cases x with
    | number n => exact ⟨.number n, rfl⟩
    | _ => cases h

/-- The magnitude of a text is one that the measure gives. -/
theorem exists_of_ofText? {α : Type} {parse : String → Except TemporalError α}
    {measure : α → Magnitude} {x : Json} {m : Magnitude}
    (h : Magnitude.ofText? parse measure x = some m) : ∃ a, m = measure a := by
  cases x with
  | string text =>
    obtain ⟨a, -, ha⟩ := Option.map_eq_some_iff.mp h
    exact ⟨a, ha.symm⟩
  | _ => cases h

/-- The magnitudes of a type are all numbers, all instants or all offsets. -/
theorem magnitude_kind {t : OrdinalType} {x : Json} {m : Magnitude}
    (h : Magnitude.of? t x = some m) :
    match t with
    | .integer | .float => ∃ n, m = .number n
    | .date | .dateTime => ∃ i, m = .instant i
    | .timeZone => ∃ o, m = .offset o := by
  cases t with
  | date => exact (exists_of_ofText? h).imp' _ fun _ h => h
  | dateTime =>
    simp only [Magnitude.of?] at h
    -- a bound on date/times may be a date, which stands for an instant too
    split at h
    · next hm =>
      obtain ⟨d, rfl⟩ := exists_of_ofText? hm
      exact ⟨_, (Option.some.inj h).symm⟩
    · obtain ⟨d, rfl⟩ := exists_of_ofText? h
      exact ⟨_, rfl⟩
  | timeZone => exact (exists_of_ofText? h).imp' _ fun _ h => h
  | integer | float =>
    obtain ⟨n, -, rfl⟩ := Option.map_eq_some_iff.mp h
    exact ⟨n, rfl⟩

/-- Two magnitudes of one type can be compared. -/
theorem compare?_of_magnitudes {t : OrdinalType} {x y : Json} {m n : Magnitude}
    (hm : Magnitude.of? t x = some m) (hn : Magnitude.of? t y = some n) :
    ∃ o, m.compare? n = some o := by
  have hmk := magnitude_kind hm
  have hnk := magnitude_kind hn
  cases t <;> obtain ⟨a, rfl⟩ := hmk <;> obtain ⟨b, rfl⟩ := hnk <;> exact ⟨_, rfl⟩

/-- A bound decides that a value stands to it in an order that the limit admits. -/
theorem bound_decides {t : OrdinalType} {x b : Json} {m : Magnitude} (limit : Limit)
    (hm : Magnitude.of? t x = some m) (hb : t.isBound b = true) :
    (bound t path limit m b).Decides (b ≠ .null →
      ∃ m bound order, Magnitude.of? t x = some m ∧ Magnitude.of? t b = some bound ∧
        m.compare? bound = some order ∧ limit.Admits order) := by
  unfold bound
  cases hnull : b.isNull with
  | true =>
    -- a bound that is `null` limits nothing
    have hb : b = .null := by
      cases b with
      | null => rfl
      | _ => cases hnull
    exact decides_pure.congr (by simp [hb])
  | false =>
    -- any other static bound has a magnitude, so the comparison cannot fail
    obtain ⟨n, hn⟩ : ∃ n, Magnitude.of? t b = some n :=
      Option.isSome_iff_exists.mp (by simpa [OrdinalType.isBound, hnull] using hb)
    obtain ⟨o, ho⟩ := compare?_of_magnitudes hm hn
    simp only [hn, ho]
    refine (decides_violationIf _ _).congr ?_
    rw [excludes_eq_false_iff]
    simp [isNull_eq_false.mp hnull, hm, ho]

theorem mem_all (limit : Limit) : limit ∈ Limit.all := by
  cases limit <;> decide

theorem range_decides {t : OrdinalType} {r : RangeRules} {x : Json} (hr : r.Static t)
    (hx : (DataType.ordinal t).admits x = true) :
    (range t r path x here).Decides (r.Keeps t x) := by
  obtain ⟨m, hm⟩ := magnitude_of_admits hx
  unfold range
  rw [hm]
  -- the four bounds are one statement about limits
  refine (decides_each fun limit _ =>
    decides_readThen (hr.literalIfSet limit) fun b hb => ?_).congr
    ⟨fun h limit => h limit (mem_all limit), fun h limit _ => h limit⟩
  obtain ⟨b', hb', hbound⟩ := hr limit _ hb
  cases hb'
  exact bound_decides limit hm hbound

/-! ### Attachments -/

theorem hasSupportedExtension_iff {supported : List String} {filename : String} :
    hasSupportedExtension supported filename = true ↔ ExtensionIn supported filename := by
  unfold hasSupportedExtension ExtensionIn
  cases extension? filename <;> simp

theorem hasSupportedContentType_iff {supported : List String} {d : AttachmentDescriptor} :
    hasSupportedContentType supported d = true ↔ ContentTypeIn supported d := by
  unfold hasSupportedContentType ContentTypeIn
  cases d.contentType <;> simp

/-- A length that is not told exceeds nothing. -/
theorem any_lt_eq_false_iff {length : Option Nat} {most : Nat} :
    (length.any fun l => decide (most < l)) = false ↔ ∀ l, length = some l → l ≤ most := by
  cases length <;> simp

theorem attachmentReference_decides {r : ReferenceRules} (hr : r.Static) (filename : String) :
    (attachmentReference r path here filename).Decides (r.Keeps here.newDoc filename) := by
  unfold attachmentReference
  cases hd : here.newDoc.attachment? filename with
  | none =>
    -- without a descriptor, content type and size are not asked
    refine ((decides_reference filename).bind ((pattern_decides hr.pattern filename).bind
      ((decides_readThen_violationIf hr.supportedExtensions fun _ =>
        (Bool.not_eq_false' _).to_iff.trans hasSupportedExtension_iff).bind decides_pure))).congr ?_
    constructor
    · intro h
      obtain ⟨-, hpattern, hextension, -⟩ := h
      exact ⟨hpattern, hextension, by simp [hd], by simp [hd]⟩
    · intro h
      exact ⟨trivial, h.pattern, h.extension, trivial⟩
  | some d =>
    refine ((decides_reference filename).bind ((pattern_decides hr.pattern filename).bind
      ((decides_readThen_violationIf hr.supportedExtensions fun _ =>
        (Bool.not_eq_false' _).to_iff.trans hasSupportedExtension_iff).bind
      ((decides_readThen_violationIf hr.supportedContentTypes fun _ =>
        (Bool.not_eq_false' _).to_iff.trans hasSupportedContentType_iff).bind
      (decides_readThen_violationIf hr.maximumSize fun _ => any_lt_eq_false_iff))))).congr ?_
    constructor
    · intro h
      obtain ⟨-, hpattern, hextension, hcontent, hsize⟩ := h
      refine ⟨hpattern, hextension, ?_, ?_⟩ <;>
        · intro d' hd'
          rw [hd] at hd'
          cases hd'
          assumption
    · intro h
      exact ⟨trivial, h.pattern, h.extension, h.contentType d hd, h.size d hd⟩

/-! ### Scalars and keys -/

theorem eq_string_of_kind {x : Json} (h : (x.kind == .string) = true) :
    ∃ text, x = .string text := by
  cases x with
  | string text => exact ⟨text, rfl⟩
  | _ => cases h

theorem scalar_decides {t : Scalar} (ht : t.Static) {x : Json} (hx : t.dataType.admits x = true) :
    (scalar t path here x).Decides (t.Keeps here.newDoc x) := by
  cases t with
  | string rule length =>
    obtain ⟨text, rfl⟩ := eq_string_of_kind hx
    refine ((pattern_decides ht.1 text).bind (size_decides ht.2 .length text.length)).congr ?_
    simp [Scalar.Keeps]
  | ordinal t range => exact range_decides ht hx
  | boolean | any => exact decides_pure
  | enumeration allowed =>
    obtain ⟨values, rfl⟩ := ht
    simp only [scalar, read_literal, Logged.pure_bind]
    refine (decides_violationIf _ _).congr ?_
    simp [Scalar.Keeps]
  | attachmentReference r =>
    obtain ⟨filename, rfl⟩ := eq_string_of_kind hx
    refine (attachmentReference_decides ht filename).congr ?_
    simp [Scalar.Keeps]

theorem key_decides {keys : Option KeyRules} (hkeys : ∀ r ∈ keys, r.Static) (k : String) :
    (key keys path here k).Decides (∀ r ∈ keys, r.Keeps k) := by
  unfold key
  cases keys with
  | none => exact decides_pure.congr (by simp)
  | some r =>
    have hr := hkeys r rfl
    obtain ⟨forbidden, hforbidden⟩ := hr.mustNotBeEmpty
    simp only [hforbidden, read_literal, Logged.pure_bind, Option.mem_some_iff, forall_eq']
    -- the flag is read for an empty key only, the pattern for every key
    by_cases hk : k.isEmpty = true
    · simp only [hk, if_true]
      refine ((decides_violationIf forbidden _).bind (decides_readThen_violationIf hr.pattern
        fun _ => (Bool.not_eq_false' _).to_iff)).congr ?_
      constructor
      · intro h
        obtain ⟨rfl, hpattern⟩ := h
        exact ⟨by simp [hforbidden], hpattern⟩
      · intro h
        refine ⟨?_, h.pattern⟩
        cases forbidden with
        | false => rfl
        | true => exact absurd (String.isEmpty_iff.mp hk) (h.notEmpty hforbidden)
    · simp only [hk]
      refine (decides_readThen_violationIf hr.pattern
        fun _ => (Bool.not_eq_false' _).to_iff).congr ?_
      exact ⟨fun hpattern => ⟨fun _ => fun h => hk (String.isEmpty_iff.mpr h), hpattern⟩,
        fun h => h.pattern⟩

/-! ## Positions below -/

/-- The checks of unknown properties. -/
theorem unsupported_decides (declared : Properties) (allowed : Bool) (fields : Entries Json) :
    (unsupported (Entries.keys declared) allowed path fields).Decides
      (allowed = false → KnownOnly declared fields) := by
  unfold unsupported
  cases allowed with
  | true => exact decides_pure.congr (by simp)
  | false =>
    refine (decides_each fun name _ => decides_violation _).congr ?_
    simp only [KnownOnly, List.mem_filter, Bool.and_eq_true, Bool.not_eq_true',
      Document.isReserved, List.contains_eq_mem, decide_eq_false_iff_not]
    grind

theorem mem_indexed {items : List Json} {e : Nat × Json} :
    e ∈ indexed items ↔ items[e.1]? = some e.2 := by
  obtain ⟨i, x⟩ := e
  unfold indexed
  simp only [List.mem_iff_getElem?, List.getElem?_zip_eq_some]
  constructor
  · intro h
    obtain ⟨j, hrange, hitem⟩ := h
    obtain ⟨hlt, -⟩ := List.getElem?_eq_some_iff.mp hitem
    rw [List.getElem?_range hlt] at hrange
    cases hrange
    exact hitem
  · intro hitem
    obtain ⟨hlt, -⟩ := List.getElem?_eq_some_iff.mp hitem
    exact ⟨i, List.getElem?_range hlt, hitem⟩

/-- The rules of a validator and of those below it hold, at every position that
    is reached from it. -/
def HoldsBelow (s : Situation) (v : Validator) (value old : Option Json) : Prop :=
  ∀ rest w y, Below v value rest w y → Holds s w y (old.bind (·.at? rest))

/-- A value that has something below it is not `null`. -/
theorem Child.ne_null {v c : Validator} {x : Json} {step : Step} {z : Option Json}
    (h : Child v x step c z) : x ≠ .null := by
  cases h <;> exact Json.noConfusion

/-- What holds below a validator are its own rules and what holds below the
    validators one step down. -/
theorem holdsBelow_iff {v : Validator} {value old : Option Json} :
    HoldsBelow s v value old ↔
      Keeps s.hasOld v.dataType v.rules (fun x => v.KeepsContent s.newDoc x ∧
        ∀ step c z, Child v x step c z → HoldsBelow s c z (old.bind (Step.into? · step)))
        value old := by
  unfold HoldsBelow
  rw [forall_below_iff]
  simp only [Json.at?_nil, Json.at?_cons]
  constructor
  · intro h
    obtain ⟨hhere, hbelow⟩ := h
    refine ⟨hhere.unchanged, hhere.given, fun x hx => ?_⟩
    have hx' := hhere.value x hx
    exact ⟨hx'.typed, hx'.notEmpty, hx'.equal, hx'.content, hbelow x (present_eq_some.mp hx).1⟩
  · intro h
    -- what has children is present, so the checks of its content were made
    refine ⟨⟨h.unchanged, h.given, fun x hx => ?_⟩, fun x hx step c z hchild => ?_⟩
    · have hx' := h.value x hx
      exact ⟨hx'.typed, hx'.notEmpty, hx'.equal, hx'.content.1⟩
    · have hpresent : present value = some x := present_eq_some.mpr ⟨hx, hchild.ne_null⟩
      exact (h.value x hpresent).content.2 step c z hchild

/-- Declared properties are walked one after the other. -/
theorem properties_decides {declared : List (String × Validator)}
    {fields : Entries Json} {old : Option Json} {P : Validator → Option Json → Option Json → Prop}
    (h : ∀ e ∈ declared, ∀ path value old, (item s path value old e.2).Decides (P e.2 value old)) :
    (properties s path fields old declared).Decides
      (∀ e ∈ declared, P e.2 (Entries.get? e.1 fields) (old.bind (·.field? e.1))) := by
  induction declared with
  | nil =>
    unfold properties
    exact decides_pure.congr (by simp)
  | cons e rest ih =>
    unfold properties
    have hhead := h e List.mem_cons_self (path ++ [.property e.1]) (Entries.get? e.1 fields)
      (old.bind (·.field? e.1))
    have hrest := ih fun e' he' => h e' (List.mem_cons_of_mem _ he')
    exact (hhead.bind hrest).congr (by simp)

/-- An object has the rules of its declared properties below it. -/
theorem forall_child_object_iff {declared : List (String × Validator)} {allowUnknown : Slot Bool}
    {fields : Entries Json} {Q : Step → Validator → Option Json → Prop} :
    (∀ step c z, Child (.object rules (some declared) allowUnknown) (.object fields) step c z →
        Q step c z) ↔
      ∀ e ∈ declared, Q (.property e.1) e.2 (Entries.get? e.1 fields) := by
  constructor
  · intro h e he
    exact h _ _ _ (.property he)
  · rintro h step c z (hmem | _ | _)
    exact h _ hmem

theorem forall_child_array_iff {length : SizeRules} {element : Validator}
    {items : List Json} {Q : Step → Validator → Option Json → Prop} :
    (∀ step c z, Child (.array rules length (some element)) (.array items) step c z →
        Q step c z) ↔
      ∀ e ∈ indexed items, Q (.element e.1) element (some e.2) := by
  constructor
  · intro h e he
    exact h _ _ _ (.element (mem_indexed.mp he))
  · rintro h step c z (_ | hitem | _)
    exact h (_, _) (mem_indexed.mpr hitem)

theorem forall_child_hashtable_iff {limits : SizeRules} {keys : Option KeyRules}
    {entry : Validator} {fields : Entries Json} {Q : Step → Validator → Option Json → Prop} :
    (∀ step c z, Child (.hashtable rules limits keys (some entry)) (.object fields) step c z →
        Q step c z) ↔
      ∀ e ∈ fields, Q (.entry e.1) entry (some e.2) := by
  constructor
  · intro h e he
    exact h _ _ _ (.entry he)
  · rintro h step c z (_ | _ | hmem)
    exact h _ hmem

/-- A hashtable keeps the limits of its size, and its keys the rules for keys. -/
theorem keepsContent_hashtable_iff {limits : SizeRules} {keys : Option KeyRules}
    {values : Option Validator} {doc : Document} {fields : Entries Json} :
    (Validator.hashtable rules limits keys values).KeepsContent doc (.object fields) ↔
      limits.Keeps fields.length ∧ ∀ e ∈ fields, ∀ r ∈ keys, r.Keeps e.1 := by
  simp only [Validator.KeepsContent, Json.object.injEq, forall_eq', Entries.keys, List.mem_map,
    forall_exists_index, and_imp, forall_apply_eq_imp_iff₂]
  exact and_congr Iff.rfl ⟨fun h e he r hr => h r hr e he, fun h r hr e he => h e he r hr⟩

theorem eq_object_of_kind {x : Json} (h : (x.kind == .object) = true) :
    ∃ fields, x = .object fields := by
  cases x with
  | object fields => exact ⟨fields, rfl⟩
  | _ => cases h

theorem eq_array_of_kind {x : Json} (h : (x.kind == .array) = true) :
    ∃ items, x = .array items := by
  cases x with
  | array items => exact ⟨items, rfl⟩
  | _ => cases h

/-- The checks at a validator decide that its rules and those below it hold, given
    that the checks of a value of its type decide it of them. -/
theorem node_decides (v : Validator) {value old : Option Json} {content : Json → Trace Unit}
    (hr : v.rules.Static)
    (hcontent : ∀ x, v.dataType.admits x = true → (content x).Decides (v.KeepsContent s.newDoc x ∧
      ∀ step c z, Child v x step c z → HoldsBelow s c z (old.bind (Step.into? · step)))) :
    (position v.dataType v.rules path (s.withItem value old) content).Decides
      (HoldsBelow s v value old) := by
  rw [holdsBelow_iff]
  exact position_decides hr hcontent

/-- A walk from a static validator decides that the rules hold everywhere below. -/
theorem item_decides {v : Validator} (hv : v.Static) (path : Path) (value old : Option Json) :
    (item s path value old v).Decides (HoldsBelow s v value old) := by
  -- the induction is on the tree; each case adds the checks of its own type to
  -- those that the children decide
  induction hv generalizing path value old with
  | @scalar rules type hr ht =>
    unfold item
    refine node_decides (.scalar rules type) hr fun x hx => (scalar_decides ht hx).congr ?_
    exact ⟨fun h => ⟨h, fun _ _ _ hchild => nomatch hchild⟩, fun h => h.1⟩
  | @object rules properties allowUnknown hr hallow _ ih =>
    cases properties with
    | none =>
      unfold item
      refine node_decides (.object rules none allowUnknown) hr fun x _ => decides_pure.congr ?_
      exact ⟨fun _ => ⟨trivial, fun _ _ _ hchild => nomatch hchild⟩, fun _ => trivial⟩
    | some declared =>
      unfold item
      refine node_decides (.object rules (some declared) allowUnknown) hr fun x hx => ?_
      obtain ⟨fields, rfl⟩ := eq_object_of_kind hx
      obtain ⟨allowed, rfl⟩ := hallow
      -- unknown keys are looked at after the children, but decided with the object
      simp only [read_literal, Logged.pure_bind]
      refine ((properties_decides (ih declared rfl)).bind
        (unsupported_decides declared allowed fields)).congr ?_
      rw [forall_child_object_iff]
      refine and_comm.trans (and_congr ?_ Iff.rfl)
      simp [Validator.KeepsContent]
  | @array rules length elements hr hlength _ ih =>
    cases elements with
    | none =>
      unfold item
      refine node_decides (.array rules length none) hr fun x hx => ?_
      obtain ⟨items, rfl⟩ := eq_array_of_kind hx
      refine (size_decides hlength .length items.length).congr ?_
      exact ⟨fun h => ⟨fun _ hitems => by cases hitems; exact h, fun _ _ _ hchild => nomatch hchild⟩,
        fun h => h.1 items rfl⟩
    | some element =>
      unfold item
      refine node_decides (.array rules length (some element)) hr fun x hx => ?_
      obtain ⟨items, rfl⟩ := eq_array_of_kind hx
      refine ((size_decides hlength .length items.length).bind
        (decides_each fun e _ => ih element rfl _ (some e.2) _)).congr ?_
      rw [forall_child_array_iff]
      refine and_congr ?_ Iff.rfl
      simp [Validator.KeepsContent]
  | @hashtable rules limits keys values hr hlimits hkeys _ ih =>
    cases values with
    | none =>
      unfold item
      refine node_decides (.hashtable rules limits keys none) hr fun x hx => ?_
      obtain ⟨fields, rfl⟩ := eq_object_of_kind hx
      refine ((size_decides hlimits .entries fields.length).bind
        (decides_each fun e _ => key_decides hkeys e.1)).congr ?_
      rw [keepsContent_hashtable_iff]
      exact ⟨fun h => ⟨h, fun _ _ _ hchild => nomatch hchild⟩, fun h => h.1⟩
    | some entry =>
      unfold item
      refine node_decides (.hashtable rules limits keys (some entry)) hr fun x hx => ?_
      obtain ⟨fields, rfl⟩ := eq_object_of_kind hx
      refine ((size_decides hlimits .entries fields.length).bind
        (decides_each fun e _ => (key_decides hkeys e.1).bind
          (ih entry rfl _ (some e.2) _))).congr ?_
      rw [forall_child_hashtable_iff, keepsContent_hashtable_iff]
      constructor
      · intro h
        obtain ⟨hsize, hentries⟩ := h
        exact ⟨⟨hsize, fun e he => (hentries e he).1⟩, fun e he => (hentries e he).2⟩
      · intro h
        obtain ⟨⟨hsize, hkey⟩, hbelow⟩ := h
        exact ⟨hsize, fun e he => ⟨hkey e he, hbelow e he⟩⟩

/-! ## Documents -/

/-- A walk over a document decides that the document conforms. -/
theorem document_decides {declared : Properties} (hdeclared : declared.Static)
    (allowUnknown : Bool) (s : Situation) :
    (document declared allowUnknown s).Decides (Conforms declared allowUnknown s) := by
  unfold document
  refine ((properties_decides fun e he => item_decides (hdeclared e he)).bind
    (unsupported_decides declared allowUnknown s.newDoc.fields)).congr ?_
  -- what is below the declared properties is what is reached from the top
  have hpositions : (∀ e ∈ declared, HoldsBelow s e.2 (Entries.get? e.1 s.newDoc.fields)
      ((s.oldDoc.map Document.toJson).bind (·.field? e.1))) ↔
      ∀ path w value, Reached declared s.newDoc path w value →
        Holds s w value (s.counterpart path) := by
    rw [forall_reached_iff]
    simp only [Situation.counterpart, Json.at?_cons]
    exact Iff.rfl
  rw [hpositions]
  exact ⟨fun ⟨hpos, hknown⟩ => ⟨hknown, hpos⟩, fun h => ⟨h.positions, h.known⟩⟩

/-- A walk over static validators ends, and it reports nothing exactly if the
    document conforms. -/
theorem walk_ends_and_clean_iff_conforms {declared : Properties} (hdeclared : declared.Static)
    (allowUnknown : Bool) (s : Situation) :
    (document declared allowUnknown s).outcome = .ok () ∧
      ((document declared allowUnknown s).violations = [] ↔
        Conforms declared allowUnknown s) :=
  ⟨(document_decides hdeclared allowUnknown s).ends,
    (document_decides hdeclared allowUnknown s).clean_iff⟩

/-- Orders: a list of items, each with an article that is required and may not
    change, and with a count from 1. -/
def orderProperties : Properties :=
  [("items", .array {} {} (some (.object {}
    (some [
      ("article", .scalar { required := .literal true, immutable := .literal true }
        (.string none {})),
      ("count", .scalar {} (.ordinal .integer { minimum := some (.literal (.ofNat 1)) }))])
    (.literal false))))]

/-- An order with one item. -/
def orderOf (article : String) (count : Nat) : Document :=
  ⟨[("items", .array [.object [("article", .string article), ("count", .ofNat count)]])], []⟩

/-- The article of the first item may not be replaced, however deep it is. -/
theorem walk_ends_and_clean_iff_conforms_order :
    orderProperties.Static ∧
      ¬ Conforms orderProperties false
        { newDoc := orderOf "b" 2, oldDoc := some (orderOf "a" 2), principal := {}, database := none } ∧
      Conforms orderProperties false
        { newDoc := orderOf "a" 3, oldDoc := some (orderOf "a" 2), principal := {}, database := none } := by
  have hrules (required immutable : Bool) :
      CommonRules.Static { required := .literal required, immutable := .literal immutable } :=
    ⟨⟨_, rfl⟩, ⟨_, rfl⟩, ⟨_, rfl⟩, ⟨_, rfl⟩, Slot.literalIfSet_none, rfl⟩
  have hsize : SizeRules.Static {} := ⟨Slot.literalIfSet_none, Slot.literalIfSet_none⟩
  have harticle := Validator.Static.scalar (hrules true true)
    (show Scalar.Static (.string none {}) from ⟨Slot.literalIfSet_none, hsize⟩)
  have hcount := Validator.Static.scalar (hrules false false)
    (show Scalar.Static (.ordinal .integer { minimum := some (.literal (.ofNat 1)) }) from by
      intro limit slot hslot
      cases limit <;> cases hslot
      exact ⟨_, rfl, rfl⟩)
  have hstatic : orderProperties.Static := by
    intro e he
    cases List.mem_singleton.mp he
    refine .array (hrules false false) hsize fun element helement => ?_
    cases helement
    refine .object (hrules false false) ⟨_, rfl⟩ fun declared hdeclared e he => ?_
    cases hdeclared
    rcases List.mem_cons.mp he with rfl | he
    · exact harticle
    · cases List.mem_singleton.mp he
      exact hcount
  refine ⟨hstatic, ?_, ?_⟩
  · rw [← (walk_ends_and_clean_iff_conforms hstatic false _).2]
    decide +kernel
  · rw [← (walk_ends_and_clean_iff_conforms hstatic false _).2]
    rfl

end Walk

end WritePolicy
