import WritePolicy.Proofs.NumberOrder
import WritePolicy.Proofs.Relaxation

/-! # Walks with relaxed validators

    A walk with a relaxed validator tree reports no more than one with the strict tree.
    Whether a walk goes on below a value is a matter of the value and its type only, and
    relaxations touch neither. So the two walks visit the same positions and make the
    same checks there, and it is enough to compare check with check: there is one lemma
    for each check, and the induction on how the tree is relaxed (`item_milder`) only puts
    them together.

    The one check that compares anything is that of a bound. A bound that is moved
    outward lies between the value and the bound that it replaces, as far as it excludes
    the value, so that the order of magnitudes has to be transitive; they are compared by
    rational numbers (`Magnitude.compare?_toRat`).
-/

namespace WritePolicy

/-! ## The order of magnitudes -/

namespace Magnitude

/-- The rational number by which a magnitude is compared. -/
def toRat : Magnitude → Rat
  | number n => n.toRat
  | instant millis => millis
  | offset minutes => minutes

/-- Magnitudes are compared by rational numbers. -/
theorem compare?_toRat {m n : Magnitude} {order : Ordering} (h : m.compare? n = some order) :
    (order = .lt ↔ m.toRat < n.toRat) ∧ (order = .gt ↔ n.toRat < m.toRat) := by
  cases m <;> cases n <;> cases h
  · exact ⟨Number.compare_eq_lt_iff, Number.compare_eq_gt_iff⟩
  · exact ⟨Int.compare_eq_lt.trans Int.cast_lt.symm, Int.compare_eq_gt.trans Int.cast_lt.symm⟩
  · exact ⟨Int.compare_eq_lt.trans Int.cast_lt.symm, Int.compare_eq_gt.trans Int.cast_lt.symm⟩

/-- What a bound outward of another excludes is excluded by the other. -/
theorem excludes_of_outward {limit : Limit} {actual bound bound' : Magnitude}
    {order order' move : Ordering} (h : actual.compare? bound = some order)
    (h' : actual.compare? bound' = some order') (hmove : bound'.compare? bound = some move)
    (houtward : limit.Outward move) (hexcludes : limit.excludes order' = true) :
    limit.excludes order = true := by
  obtain ⟨hlt, hgt⟩ := compare?_toRat h
  obtain ⟨hlt', hgt'⟩ := compare?_toRat h'
  obtain ⟨hmlt, hmgt⟩ := compare?_toRat hmove
  cases limit with
  | minimum =>
    have hle : bound'.toRat ≤ bound.toRat := not_lt.mp (mt hmgt.mpr houtward)
    have hbelow : actual.toRat < bound'.toRat := hlt'.mp (eq_of_beq hexcludes)
    exact beq_iff_eq.mpr (hlt.mpr (hbelow.trans_le hle))
  | exclusiveMinimum =>
    have hle : bound'.toRat ≤ bound.toRat := not_lt.mp (mt hmgt.mpr houtward)
    have hbelow : actual.toRat ≤ bound'.toRat := not_lt.mp (mt hgt'.mpr (bne_iff_ne.mp hexcludes))
    exact bne_iff_ne.mpr fun h => not_lt.mpr (hbelow.trans hle) (hgt.mp h)
  | maximum =>
    have hle : bound.toRat ≤ bound'.toRat := not_lt.mp (mt hmlt.mpr houtward)
    have habove : bound'.toRat < actual.toRat := hgt'.mp (eq_of_beq hexcludes)
    exact beq_iff_eq.mpr (hgt.mpr (hle.trans_lt habove))
  | exclusiveMaximum =>
    have hle : bound.toRat ≤ bound'.toRat := not_lt.mp (mt hmlt.mpr houtward)
    have habove : bound'.toRat ≤ actual.toRat := not_lt.mp (mt hlt'.mpr (bne_iff_ne.mp hexcludes))
    exact bne_iff_ne.mpr fun h => not_lt.mpr (hle.trans habove) (hlt.mp h)

end Magnitude

open Trace

namespace Walk

variable {s here : Situation} {path : Path} {type : DataType} {rules rules' : CommonRules}

/-! ## Checks of one position -/

/-- A value that is frozen under relaxed rules is frozen under the strict ones. -/
theorem StaysFrozen.relaxed {value old : Option Json} (h : rules.RelaxedTo rules')
    (hfrozen : StaysFrozen here.hasOld type rules value old) :
    StaysFrozen here.hasOld type rules' value old := by
  intro hold hfrozen'
  refine hfrozen hold ?_
  rcases hfrozen' with him | ⟨hset, hprior⟩
  · exact .inl (h.immutable.on him)
  · exact .inr ⟨h.immutableWhenSet.on hset, hprior⟩

theorem immutability_milder (h : rules.RelaxedTo rules') (hr : rules.Static) :
    Milder (immutability type rules' path here) (immutability type rules path here) := by
  obtain ⟨changed, hstrict, hchanged⟩ := immutability_eq_violationIf hr type path here
  obtain ⟨changed', hrelaxed, hchanged'⟩ := immutability_eq_violationIf (h.static hr) type path here
  rw [hstrict, hrelaxed]
  refine milder_violationIf rfl fun hon => ?_
  by_contra hoff
  rw [Bool.not_eq_true, hchanged] at hoff
  rw [hchanged'.mpr (hoff.relaxed h)] at hon
  cases hon

theorem requirement_milder (h : rules.RelaxedTo rules') (hr : rules.Static) :
    Milder (requirement rules' path here) (requirement rules path here) := by
  obtain ⟨b, hb⟩ := hr.required
  obtain ⟨b', hb'⟩ := (h.static hr).required
  have hflag := h.required
  rw [hb, hb'] at hflag
  unfold requirement
  rw [hb, hb']
  exact milder_violationIf rfl hflag.literals

theorem emptiness_milder (h : rules.RelaxedTo rules') (hr : rules.Static) (x : Json) :
    Milder (emptiness rules' path here x) (emptiness rules path here x) := by
  obtain ⟨b, hb⟩ := hr.mustNotBeEmpty
  obtain ⟨b', hb'⟩ := (h.static hr).mustNotBeEmpty
  have hflag := h.mustNotBeEmpty
  rw [hb, hb'] at hflag
  unfold emptiness
  rw [hb, hb']
  refine milder_violationIf rfl fun hon => ?_
  rw [Bool.and_eq_true] at hon ⊢
  exact ⟨hflag.literals hon.1, hon.2⟩

theorem equality_milder (h : rules.RelaxedTo rules') (hr : rules.Static) (x : Json) :
    Milder (equality type rules' path here x) (equality type rules path here x) :=
  milder_readThen_violationIf h.mustEqual hr.mustEqual (fun _ _ => rfl) fun _ _ => False.elim

/-- The checks of a position are milder if those of its type and below it are. -/
theorem position_milder (h : rules.RelaxedTo rules') (hr : rules.Static)
    {content content' : Json → Trace Unit}
    (hcontent : ∀ x, here.value = some x → type.admits x = true → Milder (content' x) (content x)) :
    Milder (position type rules' path here content') (position type rules path here content) := by
  unfold position
  rw [customValidation_static hr, customValidation_static (h.static hr), Logged.pure_bind,
    Logged.pure_bind]
  refine (immutability_milder h hr).bind ?_
  cases hpresent : present here.value with
  | none => exact requirement_milder h hr
  | some x =>
    show Milder (if type.admits x then _ else _) (if type.admits x then _ else _)
    by_cases ht : type.admits x = true
    · rw [if_pos ht, if_pos ht]
      exact (emptiness_milder h hr x).bind ((equality_milder h hr x).bind
        (hcontent x (present_eq_some.mp hpresent).1 ht))
    -- a value of another type is one violation under both rules
    · rw [if_neg ht, if_neg ht]
      exact .of_ends rfl

/-! ## Rules of types -/

theorem size_milder {r r' : SizeRules} (h : r.RelaxedTo r') (hr : r.Static) (counted : Counted)
    (actual : Nat) : Milder (size r' counted path here actual) (size r counted path here actual) := by
  refine (milder_readThen_violationIf h.minimum hr.minimum (fun _ _ => rfl) ?_).bind
    (milder_readThen_violationIf h.maximum hr.maximum (fun _ _ => rfl) ?_)
  · intro least least' hle hsmall
    exact decide_eq_true ((of_decide_eq_true hsmall).trans_le hle)
  · intro most most' hle hlarge
    exact decide_eq_true (hle.trans_lt (of_decide_eq_true hlarge))

theorem pattern_milder {rule rule' : Option (Slot Pattern)} (h : Slot.KeptOrDropped rule rule')
    (hrule : Slot.LiteralIfSet rule) (text : String) :
    Milder (pattern rule' path here text) (pattern rule path here text) :=
  milder_readThen_violationIf h hrule (fun _ _ => rfl) fun _ _ => False.elim

/-- A bound is one violation, which is there if the bound is not null and excludes the
    value. -/
theorem bound_eq_violationIf {t : OrdinalType} {x b : Json} {m : Magnitude} (path : Path)
    (limit : Limit) (hm : Magnitude.of? t x = some m) (hb : t.isBound b = true) :
    ∃ out, bound t path limit m b = violationIf out path (.outOfRange limit b) ∧
      ∀ n order, Magnitude.of? t b = some n → m.compare? n = some order →
        (out = true ↔ b.isNull = false ∧ limit.excludes order = true) := by
  unfold bound
  cases hnull : b.isNull with
  | true => exact ⟨false, rfl, by simp⟩
  | false =>
    obtain ⟨n, hn⟩ : ∃ n, Magnitude.of? t b = some n :=
      Option.isSome_iff_exists.mp (by simpa [OrdinalType.isBound, hnull] using hb)
    obtain ⟨o, ho⟩ := compare?_of_magnitudes hm hn
    refine ⟨limit.excludes o, by simp only [hn, ho]; rfl, fun n' order hn' horder => ?_⟩
    rw [hn] at hn'
    cases hn'
    rw [ho] at horder
    cases horder
    simp

/-- A bound that is replaced by one outward of it is milder. -/
theorem bound_milder {t : OrdinalType} {x b b' : Json} {m : Magnitude} {limit : Limit}
    (hm : Magnitude.of? t x = some m) (h : limit.Moves t b b') :
    Milder (bound t path limit m b') (bound t path limit m b) := by
  obtain ⟨n, n', move, hn, hn', hmove, houtward⟩ := h
  have hisBound {c : Json} {k : Magnitude} (hk : Magnitude.of? t c = some k) :
      t.isBound c = true := by
    unfold OrdinalType.isBound
    rw [hk, Option.isSome_some, Bool.or_true]
  obtain ⟨order, horder⟩ := compare?_of_magnitudes hm hn
  obtain ⟨order', horder'⟩ := compare?_of_magnitudes hm hn'
  obtain ⟨out, hout, hexcludes⟩ := bound_eq_violationIf path limit hm (hisBound hn)
  obtain ⟨out', hout', hexcludes'⟩ := bound_eq_violationIf path limit hm (hisBound hn')
  rw [hout, hout']
  refine milder_violationIf rfl fun hon => (hexcludes n order hn horder).mpr ⟨?_, ?_⟩
  · -- what has a magnitude is not null
    cases b with
    | null => cases t <;> cases hn
    | _ => rfl
  · exact Magnitude.excludes_of_outward horder horder' hmove houtward
      ((hexcludes' n' order' hn' horder').mp hon).2

/-- The check of a static bound may be left out. -/
theorem bound_quiet {t : OrdinalType} {r : RangeRules} {limit : Limit} {x b : Json} {m : Magnitude}
    (hr : r.Static t) (hm : Magnitude.of? t x = some m) (hb : r.slot? limit = some (.literal b)) :
    Quiet (bound t path limit m b) := by
  obtain ⟨b', hb', hbound⟩ := hr limit _ hb
  cases hb'
  obtain ⟨out, hout, -⟩ := bound_eq_violationIf path limit hm hbound
  rw [hout]
  exact quiet_violationIf out _

theorem range_milder {t : OrdinalType} {r r' : RangeRules} (h : r.RelaxedTo t r')
    (hr : r.Static t) (x : Json) :
    Milder (range t r' path x here) (range t r path x here) := by
  unfold range
  cases hm : Magnitude.of? t x with
  | none => exact milder_pure
  | some m =>
    refine milder_each fun limit _ => ?_
    exact milder_readThen (h limit) (hr.literalIfSet limit) (fun _ => bound_quiet hr hm)
      fun b b' _ => bound_milder hm

theorem attachmentReference_milder {r r' : ReferenceRules} (h : r.RelaxedTo r') (hr : r.Static)
    (filename : String) :
    Milder (attachmentReference r' path here filename) (attachmentReference r path here filename) := by
  unfold attachmentReference
  -- the name is told in any case
  refine (Milder.of_ends rfl).bind ((pattern_milder h.pattern hr.pattern filename).bind
    ((milder_readThen_violationIf h.supportedExtensions hr.supportedExtensions (fun _ _ => rfl)
      fun _ _ => False.elim).bind ?_))
  cases here.newDoc.attachment? filename with
  | none => exact milder_pure
  | some d =>
    refine (milder_readThen_violationIf h.supportedContentTypes hr.supportedContentTypes
      (fun _ _ => rfl) fun _ _ => False.elim).bind
      (milder_readThen_violationIf h.maximumSize hr.maximumSize (fun _ _ => rfl) ?_)
    intro most most' hle hlarge
    cases hl : d.length with
    | none =>
      rw [hl] at hlarge
      cases hlarge
    | some l =>
      rw [hl] at hlarge
      exact decide_eq_true (hle.trans_lt (of_decide_eq_true hlarge))

theorem scalar_milder {t t' : Scalar} (h : t.RelaxedTo t') (ht : t.Static) {x : Json}
    (hx : t.dataType.admits x = true) :
    Milder (scalar t' path here x) (scalar t path here x) := by
  cases h with
  | string hpattern hlength =>
    exact (pattern_milder hpattern ht.1 _).bind (size_milder hlength ht.2 .length _)
  | ordinal hrange => exact range_milder hrange ht x
  | boolean => exact milder_pure
  | enumeration hvalues =>
    refine milder_violationIf rfl fun hnone => ?_
    -- what is none of more values is none of fewer
    rw [Bool.not_eq_true', List.any_eq_false] at hnone ⊢
    exact fun a ha => hnone a (hvalues ha)
  | attachmentReference hrules => exact attachmentReference_milder hrules ht _
  | any => exact milder_pure

/-- The checks of a key may be left out. -/
theorem key_quiet {keys : Option KeyRules} (hkeys : ∀ k ∈ keys, k.Static) (name : String) :
    Quiet (key keys path here name) := by
  cases keys with
  | none => exact quiet_pure
  | some r =>
    obtain ⟨b, hb⟩ := (hkeys r rfl).mustNotBeEmpty
    have hpattern : Quiet (readThen path .keyPattern here r.pattern fun p =>
        violationIf (!p.isMatch name) (path ++ [.entry name]) (.keyPatternMismatch name p.source)) :=
      quiet_readThen (hkeys r rfl).pattern fun _ _ => quiet_violationIf _ _
    unfold key
    simp only [hb, read_literal, Logged.pure_bind]
    by_cases hempty : name.isEmpty = true
    · rw [if_pos hempty]
      exact (quiet_violationIf _ _).bind hpattern
    · rw [if_neg hempty]
      exact hpattern

theorem key_milder {keys keys' : Option KeyRules} (h : ∀ k' ∈ keys', ∃ k ∈ keys, k.RelaxedTo k')
    (hkeys : ∀ k ∈ keys, k.Static) (name : String) :
    Milder (key keys' path here name) (key keys path here name) := by
  cases keys' with
  | none =>
    exact (key_quiet hkeys name).milder
  | some r' =>
    obtain ⟨r, rfl, hr'⟩ := h r' rfl
    have hr := hkeys r rfl
    obtain ⟨b, hb⟩ := hr.mustNotBeEmpty
    obtain ⟨b', hb'⟩ := hr'.mustNotBeEmpty.isLiteral hr.mustNotBeEmpty
    have hflag := hr'.mustNotBeEmpty
    rw [hb, hb'] at hflag
    unfold key
    simp only [hb, hb', read_literal, Logged.pure_bind]
    have hpattern : Milder
        (readThen path .keyPattern here r'.pattern fun p => violationIf (!p.isMatch name)
          (path ++ [.entry name]) (.keyPatternMismatch name p.source))
        (readThen path .keyPattern here r.pattern fun p => violationIf (!p.isMatch name)
          (path ++ [.entry name]) (.keyPatternMismatch name p.source)) :=
      milder_readThen_violationIf hr'.pattern hr.pattern (fun _ _ => rfl) fun _ _ => False.elim
    by_cases hempty : name.isEmpty = true
    · rw [if_pos hempty, if_pos hempty]
      exact (milder_violationIf rfl hflag.literals).bind hpattern
    · rw [if_neg hempty, if_neg hempty]
      exact hpattern

/-! ## Positions below -/

/-- The checks of unknown properties may be left out. -/
theorem unsupported_quiet (declared : List String) (allowed : Bool) (fields : Entries Json) :
    Quiet (unsupported declared allowed path fields) := by
  unfold unsupported
  cases allowed with
  | true => exact quiet_pure
  | false => exact quiet_each fun _ _ => ⟨rfl, rfl⟩

theorem unsupported_milder (declared : List String) {allowed allowed' : Bool}
    (h : allowed = true → allowed' = true) (fields : Entries Json) :
    Milder (unsupported declared allowed' path fields) (unsupported declared allowed path fields) := by
  have hquiet : Quiet (unsupported declared allowed path fields) := unsupported_quiet _ _ _
  cases allowed' with
  | true => exact hquiet.milder
  | false =>
    cases allowed with
    | true => cases h rfl
    | false => exact .of_ends hquiet.ends

/-- Declared properties report one after the other. -/
theorem properties_milder {declared declared' : List (String × Validator)} {fields : Entries Json}
    {old : Option Json} (hnames : Entries.keys declared' = Entries.keys declared)
    (h : ∀ p ∈ declared.zip declared', ∀ path value old,
      Milder (item s path value old p.2.2) (item s path value old p.1.2)) :
    Milder (properties s path fields old declared') (properties s path fields old declared) := by
  induction declared generalizing declared' with
  | nil =>
    cases List.map_eq_nil_iff.mp hnames
    unfold properties
    exact milder_pure
  | cons e rest ih =>
    cases declared' with
    | nil => cases hnames
    | cons e' rest' =>
      obtain ⟨hname, hrest⟩ := List.cons_eq_cons.mp hnames
      obtain ⟨hhead, htail⟩ := List.forall_mem_cons.mp h
      have hname : e'.1 = e.1 := hname
      unfold properties
      rw [hname]
      exact (hhead _ _ _).bind (ih hrest htail)

/-- A walk from a relaxed validator is milder. -/
theorem item_milder {v v' : Validator} (h : v.RelaxedTo v') (hv : v.Static) (path : Path)
    (value old : Option Json) :
    Milder (item s path value old v') (item s path value old v) := by
  -- the induction is on how the tree is relaxed, node by node
  induction h generalizing path value old with
  | @scalar rules rules' type type' hrules htype =>
    cases hv with
    | scalar hr ht =>
      unfold item
      rw [htype.dataType]
      exact position_milder hrules hr fun x _ hx => scalar_milder htype ht hx
  | @object rules rules' properties properties' allowUnknown allowUnknown' hrules hallow hnames _ ih =>
    cases hv with
    | object hr hallowed hdeclared =>
      cases properties with
      | none =>
        cases Option.map_eq_none_iff.mp hnames
        unfold item
        exact position_milder hrules hr fun _ _ _ => milder_pure
      | some declared =>
        obtain ⟨declared', rfl, hkeys⟩ := Option.map_eq_some_iff.mp hnames
        unfold item
        refine position_milder hrules hr fun x _ _ => ?_
        obtain ⟨b, rfl⟩ := hallowed
        obtain ⟨b', rfl⟩ := hallow.isLiteral (Slot.isLiteral_literal b)
        simp only [read_literal, Logged.pure_bind]
        rw [hkeys]
        refine (properties_milder hkeys fun p hp path value old => ?_).bind
          (unsupported_milder _ hallow.literals _)
        exact ih _ _ rfl rfl p hp (hdeclared _ rfl _ (List.of_mem_zip hp).1) path value old
  | @array rules rules' length length' elements elements' hrules hlength hsome _ ih =>
    cases hv with
    | array hr hsize helement =>
      cases elements with
      | none =>
        cases Option.isNone_iff_eq_none.mp (Option.isSome_eq_false_iff.mp hsome)
        unfold item
        exact position_milder hrules hr fun _ _ _ => size_milder hlength hsize _ _
      | some element =>
        obtain ⟨element', rfl⟩ := Option.isSome_iff_exists.mp hsome
        unfold item
        refine position_milder hrules hr fun _ _ _ => (size_milder hlength hsize _ _).bind ?_
        exact milder_each fun e _ => ih _ _ rfl rfl (helement _ rfl) _ _ _
  | @hashtable rules rules' limits limits' keys keys' values values' hrules hlimits hkeys hsome _ ih =>
    cases hv with
    | hashtable hr hsize hkeysStatic hentry =>
      cases values with
      | none =>
        cases Option.isNone_iff_eq_none.mp (Option.isSome_eq_false_iff.mp hsome)
        unfold item
        exact position_milder hrules hr fun _ _ _ => (size_milder hlimits hsize _ _).bind
          (milder_each fun e _ => key_milder hkeys hkeysStatic e.1)
      | some entry =>
        obtain ⟨entry', rfl⟩ := Option.isSome_iff_exists.mp hsome
        unfold item
        exact position_milder hrules hr fun _ _ _ => (size_milder hlimits hsize _ _).bind
          (milder_each fun e _ => (key_milder hkeys hkeysStatic e.1).bind
            (ih _ _ rfl rfl (hentry _ rfl) _ _ _))

/-- A walk over a document with relaxed properties is milder. -/
theorem document_milder {declared declared' : Properties} (h : declared.RelaxedTo declared')
    (hdeclared : declared.Static) {allowUnknown allowUnknown' : Bool}
    (hallow : allowUnknown = true → allowUnknown' = true) (s : Situation) :
    Milder (document declared' allowUnknown' s) (document declared allowUnknown s) := by
  unfold document
  rw [h.names]
  refine (properties_milder h.names fun p hp path value old => ?_).bind
    (unsupported_milder _ hallow _)
  exact item_milder (h.validators p hp) (hdeclared _ (List.of_mem_zip hp).1) path value old

/-- Relaxing validators never makes a walk report more: of the positions and kinds of
    violations some are left out, in the same order, the same attachments are named, and
    what was clean stays clean. -/
theorem relaxed_reports_sublist {declared declared' : Properties}
    (h : declared.RelaxedTo declared') (hdeclared : declared.Static)
    {allowUnknown allowUnknown' : Bool} (hallow : allowUnknown = true → allowUnknown' = true)
    (s : Situation) :
    (document declared allowUnknown s).outcome = .ok () ∧
      (document declared' allowUnknown' s).outcome = .ok () ∧
      (document declared' allowUnknown' s).findings.Sublist
        (document declared allowUnknown s).findings ∧
      (document declared' allowUnknown' s).references =
        (document declared allowUnknown s).references ∧
      ((document declared allowUnknown s).violations = [] →
        (document declared' allowUnknown' s).violations = []) := by
  have hmilder := document_milder h hdeclared hallow s
  refine ⟨hmilder.ends, hmilder.ends', hmilder.findings,
    congrArg StringSet.ofList hmilder.filenames, fun hclean => ?_⟩
  rw [← findings_eq_nil_iff] at hclean ⊢
  have hsublist := hmilder.findings
  rw [hclean] at hsublist
  exact List.eq_nil_of_sublist_nil hsublist

/-- Counts from a minimum on, no more of them than a maximum. -/
def counts (minimum maximum : Nat) : Properties :=
  [("counts", .array {} { maximum := some (.literal maximum) }
    (some (.scalar {} (.ordinal .integer { minimum := some (.literal (.ofNat minimum)) }))))]

/-- A write of some counts. -/
def countsOf (values : List Nat) : Situation where
  newDoc := ⟨[("counts", .array (values.map Json.ofNat))], []⟩
  oldDoc := none
  principal := {}
  database := none

/-- With more room and a lower minimum, one of three findings is left. -/
theorem relaxed_reports_sublist_counts :
    Properties.RelaxedTo (counts 5 2) (counts 3 4) ∧ (counts 5 2).Static ∧
      (document (counts 5 2) false (countsOf [2, 4, 9])).findings =
        [([.property "counts"], .tooLarge .length),
          ([.property "counts", .element 0], .outOfRange .minimum),
          ([.property "counts", .element 1], .outOfRange .minimum)] ∧
      (document (counts 3 4) false (countsOf [2, 4, 9])).findings =
        [([.property "counts", .element 0], .outOfRange .minimum)] ∧
      (document (counts 3 4) false (countsOf [2, 4, 9])).findings.Sublist
        (document (counts 5 2) false (countsOf [2, 4, 9])).findings := by
  have hrules : CommonRules.Static {} :=
    ⟨⟨_, rfl⟩, ⟨_, rfl⟩, ⟨_, rfl⟩, ⟨_, rfl⟩, Slot.literalIfSet_none, rfl⟩
  have hkept : CommonRules.RelaxedTo {} {} :=
    ⟨.inl rfl, .inl rfl, .inl rfl, .inl rfl, .kept _, rfl⟩
  have hstatic : (counts 5 2).Static := by
    intro e he
    cases List.mem_singleton.mp he
    refine .array hrules ⟨Slot.literalIfSet_none, Slot.literalIfSet_literal _⟩ fun element h => ?_
    cases h
    refine .scalar hrules fun limit slot hslot => ?_
    cases limit <;> cases hslot
    exact ⟨_, rfl, rfl⟩
  have hrelaxed : Properties.RelaxedTo (counts 5 2) (counts 3 4) := by
    refine ⟨rfl, fun p hp => ?_⟩
    cases List.mem_singleton.mp hp
    refine .array hkept ⟨.kept _, .moved (by decide)⟩ rfl fun element element' h h' => ?_
    cases h
    cases h'
    refine .scalar hkept (.ordinal fun limit => ?_)
    cases limit with
    | minimum => exact .moved ⟨_, _, _, rfl, rfl, rfl, nofun⟩
    | exclusiveMinimum => exact .kept _
    | maximum => exact .kept _
    | exclusiveMaximum => exact .kept _
  refine ⟨hrelaxed, hstatic, by decide +kernel, by decide +kernel, ?_⟩
  exact (relaxed_reports_sublist hrelaxed hstatic id _).2.2.1

end Walk

end WritePolicy
