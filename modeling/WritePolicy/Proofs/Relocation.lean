import WritePolicy.Proofs.Representation

/-! # Walks at another place

    A walk is given the path at which it starts, and uses it only to say where
    something happened. Of the rest of the write, a static validator looks at four
    things: its own value, the prior counterpart of the value, whether there is a
    prior document at all, and the descriptors of the attachments.

    Both facts are one equation. `t.below path` is the trace `t` with `path` put in
    front of every position, and a walk at `path ++ place` is the walk at `place`,
    moved below `path` (`item_below`), whichever situations the two walks are in, as
    long as the four things are the same. Of the counterparts it is enough that they
    tell the same about frozen values, at every position that is reached.

    There is one equation for each check, and `below` distributes over the ways in
    which checks are put together. What follows for the report of a definition is that
    it is the same for two writes of one document, if their prior documents tell the
    same about frozen values (`Definition.contentViolations_eq_of_frozen`).
-/

namespace WritePolicy

/-! ## Moving what is reported -/

/-- A violation at a position below a path. -/
def Violation.below (path : Path) : Violation → Violation
  | .property place v => .property (path ++ place) v
  | .document v => .document v

/-- An event at a position below a path. -/
def Event.below (path : Path) : Event → Event
  | .violation place v => .violation (path ++ place) v
  | .reference place filename => .reference (path ++ place) filename
  | .computation place constraint s => .computation (path ++ place) constraint s

@[simp] theorem Violation.below_nil (v : Violation) : v.below [] = v := by
  cases v <;> rfl

theorem Violation.below_append (path place : Path) (v : Violation) :
    v.below (path ++ place) = (v.below place).below path := by
  cases v with
  | property rest v => exact congrArg (Violation.property · v) (List.append_assoc path place rest)
  | document v => rfl

theorem Event.below_nil (e : Event) : e.below [] = e := by
  cases e <;> rfl

namespace Trace

variable {α β : Type}

/-- The trace with a path in front of every position. -/
def below (path : Path) (t : Trace α) : Trace α :=
  ⟨t.log.map (Event.below path), t.outcome⟩

@[simp] theorem below_nil (t : Trace α) : t.below [] = t := by
  show (⟨t.log.map (Event.below []), t.outcome⟩ : Trace α) = t
  rw [show Event.below [] = id from funext Event.below_nil, List.map_id]

@[simp] theorem below_reference (path place : Path) (filename : String) :
    (reference place filename).below path = reference (path ++ place) filename :=
  rfl

@[simp] theorem below_violation (path place : Path) (v : PropertyViolation) :
    (violation place v).below path = violation (path ++ place) v :=
  rfl

@[simp] theorem below_violationIf (path place : Path) (condition : Bool) (v : PropertyViolation) :
    (violationIf condition place v).below path = violationIf condition (path ++ place) v := by
  cases condition <;> rfl

/-- The parts of a sequence are moved one by one. -/
theorem below_bind (path : Path) (t : Trace α) (f : α → Trace β) :
    (t >>= f).below path = t.below path >>= fun a => (f a).below path := by
  cases h : t.outcome with
  | ok a =>
    have h' : (t.below path).outcome = .ok a := h
    rw [Logged.bind_of_ok h, Logged.bind_of_ok h']
    exact congrArg (Logged.mk · _) List.map_append
  | error e =>
    have h' : (t.below path).outcome = .error e := h
    rw [Logged.bind_of_error h, Logged.bind_of_error h']
    rfl

/-- A sequence is moved if its parts are. -/
theorem bind_eq_below {path : Path} {t t' : Trace α} {f f' : α → Trace β}
    (h : t = t'.below path) (hf : ∀ a, f a = (f' a).below path) :
    (t >>= f) = (t' >>= f').below path := by
  rw [below_bind, h, funext hf]

/-- What is run for each member of a list is moved if it is for every member. -/
theorem each_eq_below {path : Path} {f f' : α → Trace Unit} {members : List α}
    (h : ∀ a ∈ members, f a = (f' a).below path) :
    Logged.each f members = below path (Logged.each f' members) := by
  induction members with
  | nil => rfl
  | cons a rest ih =>
    obtain ⟨hhead, hrest⟩ := List.forall_mem_cons.mp h
    exact bind_eq_below hhead fun _ => ih hrest

/-- A check of a literal is moved if what follows is. -/
theorem readThen_eq_below {path place : Path} {constraint : Constraint} {s s' : Situation}
    {slot : Option (Slot α)} {check check' : α → Trace Unit} (hslot : Slot.LiteralIfSet slot)
    (h : ∀ a, check a = (check' a).below path) :
    readThen (path ++ place) constraint s slot check =
      (readThen place constraint s' slot check').below path := by
  obtain rfl | ⟨a, rfl⟩ := hslot.cases
  · rfl
  · exact h a

/-- A violation under a condition on a literal is moved. -/
theorem readThen_violationIf_below {path place target : Path} {constraint : Constraint}
    {s s' : Situation} {slot : Option (Slot α)} {condition : α → Bool}
    {violation : α → PropertyViolation} (hslot : Slot.LiteralIfSet slot) :
    readThen (path ++ place) constraint s slot
        (fun a => violationIf (condition a) (path ++ target) (violation a)) =
      below path (readThen place constraint s' slot
        fun a => violationIf (condition a) target (violation a)) :=
  readThen_eq_below hslot fun _ => (below_violationIf ..).symm

theorem violations_below (path : Path) (t : Trace α) :
    (t.below path).violations = t.violations.map (Violation.below path) := by
  unfold violations below
  rw [List.filterMap_map, List.map_filterMap]
  congr 1
  funext e
  cases e <;> rfl

end Trace

open Trace

namespace Walk

variable {s s' here here' : Situation} {path place : Path} {type : DataType} {rules : CommonRules}

/-! ## Checks of one position -/

/-- What immutability asks of a value: if it is frozen, it has not changed. -/
def StaysFrozen (hasOld : Bool) (type : DataType) (rules : CommonRules) (value old : Option Json) :
    Prop :=
  hasOld = true → Frozen rules old → Unchanged type value old

/-- Immutability is one violation, which is there if a frozen value has changed. -/
theorem immutability_eq_violationIf (hr : rules.Static) (type : DataType) (path : Path)
    (here : Situation) :
    ∃ changed, immutability type rules path here = Trace.violationIf changed path .modified ∧
      (changed = false ↔ StaysFrozen here.hasOld type rules here.value here.oldValue) := by
  obtain ⟨frozen, hread, hfrozen⟩ := isFrozen_static hr path here
  unfold immutability StaysFrozen
  rw [hread]
  cases here.hasOld with
  | false => exact ⟨false, rfl, by simp⟩
  | true =>
    refine ⟨frozen && !unchanged type here, rfl, ?_⟩
    rw [← hfrozen, ← unchanged_iff]
    cases frozen <;> simp

theorem immutability_below (hr : rules.Static)
    (hfrozen : StaysFrozen here.hasOld type rules here.value here.oldValue ↔
      StaysFrozen here'.hasOld type rules here'.value here'.oldValue) :
    immutability type rules (path ++ place) here =
      (immutability type rules place here').below path := by
  obtain ⟨changed, himmutability, hchanged⟩ :=
    immutability_eq_violationIf hr type (path ++ place) here
  obtain ⟨changed', himmutability', hchanged'⟩ :=
    immutability_eq_violationIf hr type place here'
  have hsame : changed = changed' := by
    have hiff : changed = false ↔ changed' = false :=
      hchanged.trans (hfrozen.trans hchanged'.symm)
    cases changed <;> cases changed' <;> simp_all
  rw [himmutability, himmutability', hsame, below_violationIf]

theorem requirement_below (hr : rules.Static) :
    requirement rules (path ++ place) here = (requirement rules place here').below path := by
  obtain ⟨required, hrequired⟩ := hr.required
  unfold requirement
  rw [hrequired]
  exact (below_violationIf path place required .required).symm

theorem emptiness_below (hr : rules.Static) (x : Json) :
    emptiness rules (path ++ place) here x = (emptiness rules place here' x).below path := by
  obtain ⟨forbidden, hforbidden⟩ := hr.mustNotBeEmpty
  unfold emptiness
  rw [hforbidden]
  exact (below_violationIf path place (forbidden && x.isEmpty) .mustNotBeEmpty).symm

theorem equality_below (hr : rules.Static) (x : Json) :
    equality type rules (path ++ place) here x =
      (equality type rules place here' x).below path :=
  readThen_violationIf_below hr.mustEqual

/-- The checks of a position are moved if those of its type and below it are. -/
theorem position_below (hr : rules.Static) (hvalue : here.value = here'.value)
    (hfrozen : StaysFrozen here.hasOld type rules here.value here.oldValue ↔
      StaysFrozen here'.hasOld type rules here'.value here'.oldValue)
    {content content' : Json → Trace Unit}
    (hcontent : ∀ x, here.value = some x → type.admits x = true →
      content x = (content' x).below path) :
    position type rules (path ++ place) here content =
      (position type rules place here' content').below path := by
  unfold position
  rw [customValidation_static hr, customValidation_static hr, Logged.pure_bind, Logged.pure_bind,
    ← hvalue]
  refine bind_eq_below (immutability_below hr hfrozen) fun _ => ?_
  cases hpresent : present here.value with
  | none => exact requirement_below hr
  | some x =>
    show (if type.admits x then _ else _) = Trace.below path (if type.admits x then _ else _)
    by_cases ht : type.admits x = true
    · have hx := hcontent x (present_eq_some.mp hpresent).1 ht
      rw [if_pos ht, if_pos ht]
      exact bind_eq_below (emptiness_below hr x) fun _ =>
        bind_eq_below (equality_below hr x) fun _ => hx
    · rw [if_neg ht, if_neg ht, below_violation]

/-! ## Rules of types -/

theorem size_below {r : SizeRules} (hr : r.Static) (counted : Counted) (actual : Nat) :
    size r counted (path ++ place) here actual = (size r counted place here' actual).below path :=
  bind_eq_below (readThen_violationIf_below hr.minimum) fun _ =>
    readThen_violationIf_below hr.maximum

theorem pattern_below {rule : Option (Slot Pattern)} (hrule : Slot.LiteralIfSet rule)
    (text : String) :
    pattern rule (path ++ place) here text = (pattern rule place here' text).below path :=
  readThen_violationIf_below hrule

theorem bound_below (t : OrdinalType) (limit : Limit) (actual : Magnitude) (b : Json) :
    bound t (path ++ place) limit actual b = (bound t place limit actual b).below path := by
  unfold bound
  cases b.isNull with
  | true => rfl
  | false =>
    cases Magnitude.of? t b with
    | none => rfl
    | some m =>
      simp only []
      cases actual.compare? m with
      | none => rfl
      | some order => exact (below_violationIf ..).symm

theorem range_below {t : OrdinalType} {r : RangeRules} (hr : r.Static t) (x : Json) :
    range t r (path ++ place) x here = (range t r place x here').below path := by
  unfold range
  cases Magnitude.of? t x with
  | none => rfl
  | some m =>
    exact each_eq_below fun limit _ =>
      readThen_eq_below (hr.literalIfSet limit) fun b => bound_below t limit m b

/-- The rules for an attachment look at its descriptor. -/
theorem attachmentReference_below {r : ReferenceRules} (hr : r.Static)
    (hfiles : here.newDoc.attachments = here'.newDoc.attachments) (filename : String) :
    attachmentReference r (path ++ place) here filename =
      (attachmentReference r place here' filename).below path := by
  unfold attachmentReference Document.attachment?
  rw [hfiles]
  refine bind_eq_below (below_reference ..).symm fun _ => bind_eq_below (pattern_below hr.pattern _)
    fun _ => bind_eq_below (readThen_violationIf_below hr.supportedExtensions) fun _ => ?_
  cases Entries.get? filename here'.newDoc.attachments with
  | none => rfl
  | some d =>
    exact bind_eq_below (readThen_violationIf_below hr.supportedContentTypes) fun _ =>
      readThen_violationIf_below hr.maximumSize

theorem scalar_below {t : Scalar} (ht : t.Static)
    (hfiles : here.newDoc.attachments = here'.newDoc.attachments) (x : Json) :
    scalar t (path ++ place) here x = (scalar t place here' x).below path := by
  cases t with
  | string rule length =>
    exact bind_eq_below (pattern_below ht.1 _) fun _ => size_below ht.2 _ _
  | ordinal t r => exact range_below ht x
  | boolean => rfl
  | any => rfl
  | enumeration allowed =>
    obtain ⟨values, rfl⟩ := ht
    exact (below_violationIf path place (!values.any (·.sameContent x)) (.notPredefined values)).symm
  | attachmentReference r => exact attachmentReference_below ht hfiles _

theorem key_below {keys : Option KeyRules} (hkeys : ∀ r ∈ keys, r.Static) (k : String) :
    key keys (path ++ place) here k = (key keys place here' k).below path := by
  cases keys with
  | none => rfl
  | some r =>
    have hr := hkeys r rfl
    obtain ⟨forbidden, hforbidden⟩ := hr.mustNotBeEmpty
    unfold key
    simp only [hforbidden, read_literal, Logged.pure_bind, List.append_assoc]
    by_cases hk : k.isEmpty = true
    · rw [if_pos hk, if_pos hk]
      exact bind_eq_below (below_violationIf ..).symm fun _ => readThen_violationIf_below hr.pattern
    · rw [if_neg hk, if_neg hk]
      exact readThen_violationIf_below hr.pattern

/-! ## Positions below -/

theorem unsupported_below (declared : List String) (allowed : Bool) (fields : Entries Json) :
    unsupported declared allowed (path ++ place) fields =
      (unsupported declared allowed place fields).below path := by
  unfold unsupported
  cases allowed with
  | true => rfl
  | false =>
    refine each_eq_below fun name _ => ?_
    rw [below_violation, List.append_assoc]

/-- The declared properties are moved one by one. -/
theorem properties_below {declared : List (String × Validator)} {fields : Entries Json}
    {old old' : Option Json}
    (h : ∀ e ∈ declared,
      item s (path ++ (place ++ [.property e.1])) (Entries.get? e.1 fields)
          (old.bind (·.field? e.1)) e.2 =
        (item s' (place ++ [.property e.1]) (Entries.get? e.1 fields)
          (old'.bind (·.field? e.1)) e.2).below path) :
    properties s (path ++ place) fields old declared =
      (properties s' place fields old' declared).below path := by
  induction declared with
  | nil => rfl
  | cons e rest ih =>
    obtain ⟨hhead, hrest⟩ := List.forall_mem_cons.mp h
    unfold properties
    rw [List.append_assoc]
    exact bind_eq_below hhead fun _ => ih hrest

/-- A validator is moved if the checks of its type and below it are. -/
theorem node_below (v : Validator) (hr : v.rules.Static) {value old old' : Option Json}
    (hfrozen : StaysFrozen s.hasOld v.dataType v.rules value old ↔
      StaysFrozen s'.hasOld v.dataType v.rules value old')
    {content content' : Json → Trace Unit}
    (hcontent : ∀ x, value = some x → v.dataType.admits x = true →
      content x = (content' x).below path) :
    position v.dataType v.rules (path ++ place) (s.withItem value old) content =
      (position v.dataType v.rules place (s'.withItem value old') content').below path :=
  @position_below (s.withItem value old) (s'.withItem value old') path place v.dataType v.rules hr
    rfl hfrozen content content' hcontent

/-- A walk at a place below a path is the walk at the place, moved below the path. -/
theorem item_below {v : Validator} (hv : v.Static)
    (hfiles : s.newDoc.attachments = s'.newDoc.attachments) (path place : Path)
    {value old old' : Option Json}
    (hfrozen : ∀ rest w y, Below v value rest w y →
      (StaysFrozen s.hasOld w.dataType w.rules y (old.bind (·.at? rest)) ↔
        StaysFrozen s'.hasOld w.dataType w.rules y (old'.bind (·.at? rest)))) :
    item s (path ++ place) value old v = (item s' place value old' v).below path := by
  -- the induction is on the tree; what is known of the counterparts goes down with it
  induction hv generalizing place value old old' with
  | @scalar rules type hr ht =>
    obtain ⟨hhere, -⟩ := forall_below_iff.mp hfrozen
    simp only [Json.at?_nil] at hhere
    unfold item
    exact node_below (.scalar rules type) hr hhere fun x _ _ =>
      @scalar_below (s.withItem value old) (s'.withItem value old') path place type ht hfiles x
  | @object rules properties allowUnknown hr hallow _ ih =>
    obtain ⟨hhere, hbelow⟩ := forall_below_iff.mp hfrozen
    simp only [Json.at?_nil, Json.at?_cons] at hhere hbelow
    cases properties with
    | none =>
      unfold item
      exact node_below (.object rules none allowUnknown) hr hhere fun _ _ _ => rfl
    | some declared =>
      unfold item
      refine node_below (.object rules (some declared) allowUnknown) hr hhere fun x hx ht => ?_
      obtain ⟨fields, rfl⟩ := eq_object_of_kind ht
      obtain ⟨allowed, rfl⟩ := hallow
      simp only [read_literal, Logged.pure_bind]
      exact bind_eq_below
        (properties_below fun e he => ih declared rfl e he _ (hbelow _ hx _ _ _ (.property he)))
        fun _ => unsupported_below _ _ _
  | @array rules length elements hr hlength _ ih =>
    obtain ⟨hhere, hbelow⟩ := forall_below_iff.mp hfrozen
    simp only [Json.at?_nil, Json.at?_cons] at hhere hbelow
    cases elements with
    | none =>
      unfold item
      exact node_below (.array rules length none) hr hhere fun _ _ _ => size_below hlength _ _
    | some element =>
      unfold item
      refine node_below (.array rules length (some element)) hr hhere fun x hx ht => ?_
      obtain ⟨items, rfl⟩ := eq_array_of_kind ht
      refine bind_eq_below (size_below hlength _ _) fun _ => each_eq_below fun e he => ?_
      rw [List.append_assoc]
      exact ih element rfl _ (hbelow _ hx _ _ _ (.element (mem_indexed.mp he)))
  | @hashtable rules limits keys values hr hlimits hkeys _ ih =>
    obtain ⟨hhere, hbelow⟩ := forall_below_iff.mp hfrozen
    simp only [Json.at?_nil, Json.at?_cons] at hhere hbelow
    cases values with
    | none =>
      unfold item
      exact node_below (.hashtable rules limits keys none) hr hhere fun _ _ _ =>
        bind_eq_below (size_below hlimits _ _) fun _ => each_eq_below fun e _ => key_below hkeys e.1
    | some entry =>
      unfold item
      refine node_below (.hashtable rules limits keys (some entry)) hr hhere fun x hx ht => ?_
      obtain ⟨fields, rfl⟩ := eq_object_of_kind ht
      refine bind_eq_below (size_below hlimits _ _) fun _ => each_eq_below fun e he =>
        bind_eq_below (key_below hkeys e.1) fun _ => ?_
      rw [List.append_assoc]
      exact ih entry rfl _ (hbelow _ hx _ _ _ (.entry he))

/-! ## Two writes of one document -/

/-- Two prior documents, or the lack of one, tell the same about frozen values. -/
def SameFrozen (declared : Properties) (s s' : Situation) : Prop :=
  ∀ path w y, Reached declared s.newDoc path w y →
    (StaysFrozen s.hasOld w.dataType w.rules y (s.counterpart path) ↔
      StaysFrozen s'.hasOld w.dataType w.rules y (s'.counterpart path))

/-- Two walks over one document are the same if the prior documents tell the same
    about frozen values. -/
theorem document_eq_of_frozen {declared : Properties} (h : declared.Static)
    (hdoc : s.newDoc = s'.newDoc) (hfrozen : SameFrozen declared s s') (allowUnknown : Bool) :
    document declared allowUnknown s = document declared allowUnknown s' := by
  have hproperties := forall_reached_iff.mp hfrozen
  have hfiles : s.newDoc.attachments = s'.newDoc.attachments := congrArg Document.attachments hdoc
  -- moved below the empty path, a walk stays where it is
  have hwalk : properties s ([] ++ []) s.newDoc.fields (s.oldDoc.map Document.toJson) declared =
      (properties s' [] s.newDoc.fields (s'.oldDoc.map Document.toJson) declared).below [] := by
    refine properties_below fun e he => item_below (h e he) hfiles _ _ fun rest w y hbelow => ?_
    have hsame := hproperties e he rest w y hbelow
    unfold Situation.counterpart at hsame
    rw [Json.at?_cons, Json.at?_cons] at hsame
    exact hsame
  rw [below_nil, List.nil_append] at hwalk
  unfold document
  rw [hwalk, hdoc]

end Walk

/-- Two writes of one document are reported alike by a static definition if the
    prior documents tell the same about frozen values. -/
theorem Definition.contentViolations_eq_of_frozen {d : Definition} {s s' : Situation}
    (hd : d.Static) (hdoc : s.newDoc = s'.newDoc) (hfrozen : Walk.SameFrozen d.properties s s') :
    d.contentViolations s = d.contentViolations s' := by
  have hwalk (allowUnknown : Bool) :
      Walk.document d.properties allowUnknown s = Walk.document d.properties allowUnknown s' :=
    Walk.document_eq_of_frozen hd.properties hdoc hfrozen allowUnknown
  unfold contentViolations walk AttachmentRules.violations
  simp only [hwalk, hdoc, hd.allowUnknownProperties.value_eq s s',
    AttachmentRules.resolve_eq hd.attachments s s']

end WritePolicy
