import WritePolicy.Proofs.ComputedSlots
import WritePolicy.Proofs.RelaxedWalk
import WritePolicy.Proofs.Representation

/-! # References to attachments

    A walk gathers the names that the properties of a document give to attachments. What
    it gathers are the strings at the positions that it reaches and where the validator is
    one for references (`references_iff`): in objects, arrays and hashtables, nested in
    whatever way, and whether or not anything is wrong at such a position.

    The names are a side product of the checks, and only one check names anything. So
    `Trace.Names t P`, which says that a trace ends and names just what `P` holds of, is
    put together from quiet checks and from that one: by disjunction where checks follow
    one another, by existence where a check is made for each member of a list. The
    induction on the validator tree then compares the disjunction over the children that
    are walked with the one over the children that are there.
-/

namespace WritePolicy

/-! ## What a trace names -/

namespace Trace

variable {α : Type} {t u : Trace Unit} {P Q : String → Prop} {path : Path}

/-- The trace ends and names the attachments of which the predicate holds. -/
structure Names (t : Trace Unit) (P : String → Prop) : Prop where
  ends : t.outcome = .ok ()
  mem_filenames_iff (filename : String) : filename ∈ t.filenames ↔ P filename

theorem Names.congr (h : Names t P) (hPQ : ∀ filename, P filename ↔ Q filename) : Names t Q :=
  ⟨h.ends, fun filename => (h.mem_filenames_iff filename).trans (hPQ filename)⟩

/-- A quiet trace names nothing. -/
theorem Quiet.names (h : Quiet t) : Names t fun _ => False := by
  refine ⟨h.ends, fun filename => ?_⟩
  rw [h.filenames]
  exact List.mem_nil_iff filename

theorem names_reference (filename : String) : Names (reference path filename) (· = filename) :=
  ⟨rfl, fun _ => List.mem_singleton⟩

/-- What follows one another names what either part does. -/
theorem Names.bind (ht : Names t P) (hu : Names u Q) :
    Names (t >>= fun _ => u) fun filename => P filename ∨ Q filename := by
  constructor
  · rw [Logged.bind_of_ok ht.ends]
    exact hu.ends
  · intro filename
    rw [filenames_bind ht.ends, List.mem_append, ht.mem_filenames_iff, hu.mem_filenames_iff]

/-- A quiet part adds no names. -/
theorem Quiet.bind_names (ht : Quiet t) (hu : Names u Q) : Names (t >>= fun _ => u) Q :=
  (ht.names.bind hu).congr fun _ => or_iff_right id

theorem Names.bind_quiet (ht : Names t P) (hu : Quiet u) : Names (t >>= fun _ => u) P :=
  (ht.bind hu.names).congr fun _ => or_iff_left id

/-- What is run for each member of a list names what it does for some member. -/
theorem names_each {f : α → Trace Unit} {P : α → String → Prop} {members : List α}
    (h : ∀ a ∈ members, Names (f a) (P a)) :
    Names (Logged.each f members) fun filename => ∃ a ∈ members, P a filename := by
  induction members with
  | nil => exact quiet_pure.names.congr fun _ => by simp
  | cons a rest ih =>
    have hhead : Names (f a) (P a) := h a List.mem_cons_self
    have hrest := ih fun b hb => h b (List.mem_cons_of_mem _ hb)
    exact (hhead.bind hrest).congr fun _ => by simp

/-- The references of a trace are what it names. -/
theorem Names.mem_references_iff (h : Names t P) (filename : String) :
    filename ∈ t.references ↔ P filename :=
  StringSet.mem_ofList.trans (h.mem_filenames_iff filename)

end Trace

open Trace

namespace Walk

variable {s here : Situation} {path : Path} {type : DataType} {rules : CommonRules}

/-! ## Checks that name nothing -/

theorem immutability_quiet (hr : rules.Static) : Quiet (immutability type rules path here) := by
  obtain ⟨changed, himmutability, -⟩ := immutability_eq_violationIf hr type path here
  rw [himmutability]
  exact quiet_violationIf changed _

theorem requirement_quiet (hr : rules.Static) : Quiet (requirement rules path here) := by
  obtain ⟨required, hrequired⟩ := hr.required
  unfold requirement
  rw [hrequired]
  exact quiet_violationIf required _

theorem emptiness_quiet (hr : rules.Static) (x : Json) : Quiet (emptiness rules path here x) := by
  obtain ⟨forbidden, hforbidden⟩ := hr.mustNotBeEmpty
  unfold emptiness
  rw [hforbidden]
  exact quiet_violationIf (forbidden && x.isEmpty) _

theorem equality_quiet (hr : rules.Static) (x : Json) :
    Quiet (equality type rules path here x) :=
  quiet_readThen hr.mustEqual fun _ _ => quiet_violationIf _ _

theorem size_quiet {r : SizeRules} (hr : r.Static) (counted : Counted) (actual : Nat) :
    Quiet (size r counted path here actual) :=
  (quiet_readThen hr.minimum fun _ _ => quiet_violationIf _ _).bind
    (quiet_readThen hr.maximum fun _ _ => quiet_violationIf _ _)

theorem pattern_quiet {rule : Option (Slot Pattern)} (hrule : Slot.LiteralIfSet rule)
    (text : String) : Quiet (pattern rule path here text) :=
  quiet_readThen hrule fun _ _ => quiet_violationIf _ _

theorem range_quiet {t : OrdinalType} {r : RangeRules} (hr : r.Static t) (x : Json) :
    Quiet (range t r path x here) := by
  unfold range
  cases hm : Magnitude.of? t x with
  | none => exact quiet_pure
  | some m =>
    exact quiet_each fun limit _ =>
      quiet_readThen (hr.literalIfSet limit) fun _ => bound_quiet hr hm

/-- The rules for a reference are checked after the name has been told. -/
theorem attachmentReference_names {r : ReferenceRules} (hr : r.Static) (filename : String) :
    Names (attachmentReference r path here filename) (· = filename) := by
  unfold attachmentReference
  refine (names_reference filename).bind_quiet ((pattern_quiet hr.pattern filename).bind
    ((quiet_readThen hr.supportedExtensions fun _ _ => quiet_violationIf _ _).bind ?_))
  cases here.newDoc.attachment? filename with
  | none => exact quiet_pure
  | some d =>
    exact (quiet_readThen hr.supportedContentTypes fun _ _ => quiet_violationIf _ _).bind
      (quiet_readThen hr.maximumSize fun _ _ => quiet_violationIf _ _)

/-! ## Names below a validator -/

/-- From a validator with its value, steps lead to a reference that holds the name. -/
def NamedBelow (v : Validator) (value : Option Json) (filename : String) : Prop :=
  ∃ rest rules r, Below v value rest (.scalar rules (.attachmentReference r))
    (some (.string filename))

/-- A name is found at the validator itself or below a validator one step down. -/
theorem namedBelow_iff {v : Validator} {value : Option Json} {filename : String} :
    NamedBelow v value filename ↔
      (∃ rules r, v = .scalar rules (.attachmentReference r) ∧ value = some (.string filename)) ∨
      ∃ x step c z, value = some x ∧ Child v x step c z ∧ NamedBelow c z filename := by
  constructor
  · rintro ⟨rest, rules, r, hbelow⟩
    cases hbelow with
    | here => exact .inl ⟨rules, r, rfl, rfl⟩
    | step hchild hrest => exact .inr ⟨_, _, _, _, rfl, hchild, _, rules, r, hrest⟩
  · rintro (⟨rules, r, rfl, rfl⟩ | ⟨x, step, c, z, rfl, hchild, rest, rules, r, hrest⟩)
    · exact ⟨[], rules, r, .here⟩
    · exact ⟨step :: rest, rules, r, .step hchild hrest⟩

/-- Where there is no value, there are no names. -/
theorem not_namedBelow_of_absent {v : Validator} {value : Option Json} {filename : String}
    (h : present value = none) : ¬ NamedBelow v value filename := by
  rw [namedBelow_iff]
  rintro (⟨rules, r, rfl, rfl⟩ | ⟨x, step, c, z, rfl, hchild, -⟩)
  · cases h
  · rw [present_eq_some.mpr ⟨rfl, hchild.ne_null⟩] at h
    cases h

/-- A validator that leads one step down admits the value. -/
theorem Child.admits {v c : Validator} {x : Json} {step : Step} {z : Option Json}
    (h : Child v x step c z) : v.dataType.admits x = true := by
  cases h <;> rfl

/-- Below a value of another type, there are no names. -/
theorem not_namedBelow_of_not_admits {v : Validator} {x : Json} {filename : String}
    (h : v.dataType.admits x ≠ true) : ¬ NamedBelow v (some x) filename := by
  rw [namedBelow_iff]
  rintro (⟨rules, r, rfl, hx⟩ | ⟨x', step, c, z, hx, hchild, -⟩)
  · cases hx
    exact h rfl
  · cases hx
    exact h hchild.admits

/-- The checks at a validator name what those of a value of its type do. -/
theorem node_names (v : Validator) {value old : Option Json} {content : Json → Trace Unit}
    (hr : v.rules.Static)
    (hcontent : ∀ x, v.dataType.admits x = true → Names (content x) (NamedBelow v (some x))) :
    Names (position v.dataType v.rules path (s.withItem value old) content)
      (NamedBelow v value) := by
  unfold position
  rw [customValidation_static hr, Logged.pure_bind]
  refine (immutability_quiet hr).bind_names ?_
  -- a value that is missing or of another type ends the checks, and holds no names
  cases hpresent : present (s.withItem value old).value with
  | none =>
    refine (requirement_quiet hr).names.congr fun filename => ?_
    exact iff_of_false id (not_namedBelow_of_absent hpresent)
  | some x =>
    have hvalue : value = some x := (present_eq_some.mp hpresent).1
    subst hvalue
    show Names (if v.dataType.admits x then _ else _) _
    by_cases htype : v.dataType.admits x = true
    · rw [if_pos htype]
      exact (emptiness_quiet hr x).bind_names ((equality_quiet hr x).bind_names (hcontent x htype))
    · rw [if_neg htype]
      have hquiet : Quiet (Trace.violation path (.wrongType v.dataType)) := ⟨rfl, rfl⟩
      exact hquiet.names.congr fun _ => iff_of_false id (not_namedBelow_of_not_admits htype)

/-- A scalar has nothing below it, so that it holds a name only if it is a reference. -/
theorem namedBelow_scalar_iff {type : Scalar} {x : Json} {filename : String} :
    NamedBelow (.scalar rules type) (some x) filename ↔
      ∃ r, type = .attachmentReference r ∧ x = .string filename := by
  rw [namedBelow_iff]
  constructor
  · rintro (⟨rules', r, hv, hx⟩ | ⟨x', step, c, z, -, hchild, -⟩)
    · cases hv
      cases hx
      exact ⟨r, rfl, rfl⟩
    · cases hchild
  · rintro ⟨r, rfl, rfl⟩
    exact .inl ⟨rules, r, rfl, rfl⟩

theorem scalar_names {t : Scalar} (ht : t.Static) {x : Json} (hx : t.dataType.admits x = true) :
    Names (scalar t path here x) (NamedBelow (.scalar rules t) (some x)) := by
  -- all types but one have quiet rules and hold no names
  have hquiet (hother : ∀ r, t ≠ .attachmentReference r) (h : Quiet (scalar t path here x)) :
      Names (scalar t path here x) (NamedBelow (.scalar rules t) (some x)) := by
    refine h.names.congr fun filename => iff_of_false id fun hnamed => ?_
    obtain ⟨r, hr, -⟩ := namedBelow_scalar_iff.mp hnamed
    exact hother r hr
  cases t with
  | string rule length =>
    exact hquiet nofun ((pattern_quiet ht.1 _).bind (size_quiet ht.2 .length _))
  | ordinal t rules => exact hquiet nofun (range_quiet ht x)
  | boolean => exact hquiet nofun quiet_pure
  | enumeration allowed =>
    obtain ⟨values, rfl⟩ := ht
    exact hquiet nofun (quiet_violationIf (!values.any (·.sameContent x)) _)
  | any => exact hquiet nofun quiet_pure
  | attachmentReference r =>
    cases x with
    | string text =>
      refine (attachmentReference_names ht text).congr fun filename => ?_
      rw [namedBelow_scalar_iff]
      constructor
      · rintro rfl
        exact ⟨r, rfl, rfl⟩
      · rintro ⟨r', -, hx⟩
        cases hx
        rfl
    | _ => cases hx

/-! ## Names below containers -/

section Containers

variable {length : SizeRules} {keys : Option KeyRules} {filename : String}

/-- A container that describes nothing below it holds no names. -/
theorem not_namedBelow_of_no_child {v : Validator} {x : Json}
    (hscalar : ∀ rules r, v ≠ .scalar rules (.attachmentReference r))
    (hchild : ∀ step c z, ¬ Child v x step c z) : ¬ NamedBelow v (some x) filename := by
  rw [namedBelow_iff]
  rintro (⟨rules, r, hv, -⟩ | ⟨x', step, c, z, hx, h, -⟩)
  · exact hscalar rules r hv
  · cases hx
    exact hchild step c z h

/-- An object holds the names that its declared properties hold. -/
theorem namedBelow_object_iff {declared : List (String × Validator)} {allowUnknown : Slot Bool}
    {fields : Entries Json} :
    NamedBelow (.object rules (some declared) allowUnknown) (some (.object fields)) filename ↔
      ∃ e ∈ declared, NamedBelow e.2 (Entries.get? e.1 fields) filename := by
  rw [namedBelow_iff]
  constructor
  · rintro (⟨_, _, hv, -⟩ | ⟨x, step, c, z, hx, hchild, hnamed⟩)
    · cases hv
    · cases hx
      cases hchild with
      | property hmem => exact ⟨_, hmem, hnamed⟩
  · rintro ⟨e, he, hnamed⟩
    exact .inr ⟨_, _, _, _, rfl, .property he, hnamed⟩

/-- An array holds the names that its elements hold. -/
theorem namedBelow_array_iff {element : Validator} {items : List Json} :
    NamedBelow (.array rules length (some element)) (some (.array items)) filename ↔
      ∃ e ∈ indexed items, NamedBelow element (some e.2) filename := by
  rw [namedBelow_iff]
  constructor
  · rintro (⟨_, _, hv, -⟩ | ⟨x, step, c, z, hx, hchild, hnamed⟩)
    · cases hv
    · cases hx
      cases hchild with
      | element hitem => exact ⟨(_, _), mem_indexed.mpr hitem, hnamed⟩
  · rintro ⟨e, he, hnamed⟩
    exact .inr ⟨_, _, _, _, rfl, .element (mem_indexed.mp he), hnamed⟩

/-- A hashtable holds the names that its values hold. -/
theorem namedBelow_hashtable_iff {entry : Validator} {fields : Entries Json} :
    NamedBelow (.hashtable rules length keys (some entry)) (some (.object fields)) filename ↔
      ∃ e ∈ fields, NamedBelow entry (some e.2) filename := by
  rw [namedBelow_iff]
  constructor
  · rintro (⟨_, _, hv, -⟩ | ⟨x, step, c, z, hx, hchild, hnamed⟩)
    · cases hv
    · cases hx
      cases hchild with
      | entry hmem => exact ⟨(_, _), hmem, hnamed⟩
  · rintro ⟨e, he, hnamed⟩
    exact .inr ⟨_, _, _, _, rfl, .entry he, hnamed⟩

end Containers

/-- Declared properties name what each of them does. -/
theorem properties_names {declared : List (String × Validator)} {fields : Entries Json}
    {old : Option Json} (h : ∀ e ∈ declared, ∀ path value old,
      Names (item s path value old e.2) (NamedBelow e.2 value)) :
    Names (properties s path fields old declared) fun filename =>
      ∃ e ∈ declared, NamedBelow e.2 (Entries.get? e.1 fields) filename := by
  rw [properties_eq_each]
  exact names_each fun e he => h e he _ _ _

/-- A walk from a static validator names what is named at its position or below. -/
theorem item_names {v : Validator} (hv : v.Static) (path : Path) (value old : Option Json) :
    Names (item s path value old v) (NamedBelow v value) := by
  -- the induction is on the tree; each case has its own checks, which are quiet, and
  -- the names of the children that are walked
  induction hv generalizing path value old with
  | @scalar rules type hr ht =>
    unfold item
    exact node_names (.scalar rules type) hr fun x hx => scalar_names ht hx
  | @object rules properties allowUnknown hr hallow _ ih =>
    cases properties with
    | none =>
      unfold item
      refine node_names (.object rules none allowUnknown) hr fun x _ => ?_
      refine quiet_pure.names.congr fun _ => iff_of_false id ?_
      apply not_namedBelow_of_no_child
      · intro rules' r h
        cases h
      · intro step c z h
        cases h
    | some declared =>
      unfold item
      refine node_names (.object rules (some declared) allowUnknown) hr fun x hx => ?_
      obtain ⟨fields, rfl⟩ := eq_object_of_kind hx
      obtain ⟨allowed, rfl⟩ := hallow
      -- what is not declared is reported after the children, but never named
      simp only [read_literal, Logged.pure_bind]
      exact ((properties_names (ih declared rfl)).bind_quiet (unsupported_quiet _ _ _)).congr
        fun _ => namedBelow_object_iff.symm
  | @array rules length elements hr hlength _ ih =>
    cases elements with
    | none =>
      unfold item
      refine node_names (.array rules length none) hr fun x _ => ?_
      refine (size_quiet hlength .length _).names.congr fun _ => iff_of_false id ?_
      apply not_namedBelow_of_no_child
      · intro rules' r h
        cases h
      · intro step c z h
        cases h
    | some element =>
      unfold item
      refine node_names (.array rules length (some element)) hr fun x hx => ?_
      obtain ⟨items, rfl⟩ := eq_array_of_kind hx
      refine ((size_quiet hlength .length _).bind_names
        (names_each fun e _ => ih element rfl _ (some e.2) _)).congr fun _ => ?_
      exact namedBelow_array_iff.symm
  | @hashtable rules limits keys values hr hlimits hkeys _ ih =>
    cases values with
    | none =>
      unfold item
      refine node_names (.hashtable rules limits keys none) hr fun x _ => ?_
      refine ((size_quiet hlimits .entries _).bind
        (quiet_each fun e _ => key_quiet hkeys e.1)).names.congr fun _ => iff_of_false id ?_
      apply not_namedBelow_of_no_child
      · intro rules' r h
        cases h
      · intro step c z h
        cases h
    | some entry =>
      unfold item
      refine node_names (.hashtable rules limits keys (some entry)) hr fun x hx => ?_
      obtain ⟨fields, rfl⟩ := eq_object_of_kind hx
      refine ((size_quiet hlimits .entries _).bind_names (names_each fun e _ =>
        (key_quiet hkeys e.1).bind_names (ih entry rfl _ (some e.2) _))).congr fun _ => ?_
      exact namedBelow_hashtable_iff.symm

/-! ## Names in documents -/

/-- A position of the document that the walk reaches, and where the validator is one for
    references, holds the name. -/
def Refers (declared : Properties) (doc : Document) (filename : String) : Prop :=
  ∃ path rules r, Reached declared doc path (.scalar rules (.attachmentReference r))
    (some (.string filename))

/-- The references that a walk gathers are the names that the document holds at
    positions for references. -/
theorem references_iff {declared : Properties} (hdeclared : declared.Static)
    (allowUnknown : Bool) (s : Situation) (filename : String) :
    filename ∈ (document declared allowUnknown s).references ↔
      Refers declared s.newDoc filename := by
  have hnames : Names (document declared allowUnknown s) fun filename =>
      ∃ e ∈ declared, NamedBelow e.2 (Entries.get? e.1 s.newDoc.fields) filename :=
    (properties_names fun e he => item_names (hdeclared e he)).bind_quiet (unsupported_quiet _ _ _)
  rw [hnames.mem_references_iff]
  constructor
  · rintro ⟨⟨name, v⟩, he, rest, rules, r, hbelow⟩
    exact ⟨.property name :: rest, rules, r, name, v, rest, he, rfl, hbelow⟩
  · rintro ⟨path, rules, r, name, v, rest, he, rfl, hbelow⟩
    exact ⟨(name, v), he, rest, rules, r, hbelow⟩

end Walk

end WritePolicy
