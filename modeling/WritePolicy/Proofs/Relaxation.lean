import WritePolicy.Proofs.Composition

/-! # Relaxed validators

    A validator tree is relaxed by switching off flags, by dropping constraints, by
    moving limits outward and by admitting further values, at any number of nodes;
    types and children stay (`Validator.RelaxedTo`, node by node).

    What two walks report is compared up to the data of the constraints: a finding is a
    position with the kind of the violation there. `Trace.Milder t' t` says that both
    traces end, that the findings of `t'` are some of those of `t`, in the same order,
    and that both name the same attachments. Like the traces themselves it is put
    together by sequence and by repetition, and a check of a slot becomes milder when
    the slot is relaxed.
-/

namespace WritePolicy

/-! ## Findings -/

/-- Violations without the data of the constraints that are violated. -/
inductive PropertyViolation.Kind where
  | wrongType | required | mustNotBeEmpty | unsupported | modified | patternMismatch
  | mustEqual | notPredefined | outOfRange (limit : Limit) | tooSmall (counted : Counted)
  | tooLarge (counted : Counted) | emptyKey | keyPatternMismatch | unsupportedExtension
  | unsupportedContentType | attachmentTooLarge | custom
  deriving DecidableEq, Repr

/-- The kind of a violation. -/
def PropertyViolation.kind : PropertyViolation → Kind
  | wrongType _ => .wrongType
  | required => .required
  | mustNotBeEmpty => .mustNotBeEmpty
  | unsupported => .unsupported
  | modified => .modified
  | patternMismatch _ => .patternMismatch
  | mustEqual _ => .mustEqual
  | notPredefined _ => .notPredefined
  | outOfRange limit _ => .outOfRange limit
  | tooSmall counted _ => .tooSmall counted
  | tooLarge counted _ => .tooLarge counted
  | emptyKey => .emptyKey
  | keyPatternMismatch _ _ => .keyPatternMismatch
  | unsupportedExtension _ => .unsupportedExtension
  | unsupportedContentType _ => .unsupportedContentType
  | attachmentTooLarge _ => .attachmentTooLarge
  | custom _ => .custom

/-- The position and the kind of a violation of a property. -/
def Violation.finding? : Violation → Option (Path × PropertyViolation.Kind)
  | property path v => some (path, v.kind)
  | document _ => none

namespace Trace

variable {α : Type}

/-- The positions and kinds of the violations that are reported, in order. -/
def findings (t : Trace α) : List (Path × PropertyViolation.Kind) :=
  t.violations.filterMap Violation.finding?

/-- The names of attachments, in the order in which properties name them. -/
def filenames (t : Trace α) : List String :=
  t.log.filterMap fun
    | .reference _ filename => some filename
    | _ => none

/-- Every violation that is reported is a finding. -/
theorem findings_eq_nil_iff {t : Trace α} : t.findings = [] ↔ t.violations = [] := by
  unfold findings
  rw [List.filterMap_eq_nil_iff]
  constructor
  · intro h
    rw [List.eq_nil_iff_forall_not_mem]
    intro v hv
    obtain ⟨place, x, rfl⟩ := exists_of_mem_violations hv
    cases h _ hv
  · intro h v hv
    rw [h] at hv
    cases hv

/-! ## Milder traces -/

/-- Both traces end; the first reports some of what the second reports, in the same
    order, and names the same attachments. -/
structure Milder (t' t : Trace Unit) : Prop where
  ends' : t'.outcome = .ok ()
  ends : t.outcome = .ok ()
  findings : t'.findings.Sublist t.findings
  filenames : t'.filenames = t.filenames

variable {t t' u u' : Trace Unit} {path : Path}

/-- A trace that ends is as mild as itself. -/
theorem Milder.of_ends (h : t.outcome = .ok ()) : Milder t t :=
  ⟨h, h, .refl _, rfl⟩

theorem milder_pure : Milder (pure ()) (pure ()) :=
  .of_ends rfl

/-- A violation is left out if the condition for it is not met any more. -/
theorem milder_violationIf {condition condition' : Bool} {v v' : PropertyViolation}
    (hkind : v'.kind = v.kind) (h : condition' = true → condition = true) :
    Milder (violationIf condition' path v') (violationIf condition path v) := by
  cases condition' with
  | false => cases condition <;> exact ⟨rfl, rfl, List.nil_sublist _, rfl⟩
  | true =>
    rw [h rfl]
    refine ⟨rfl, rfl, ?_, rfl⟩
    show [(path, v'.kind)].Sublist [(path, v.kind)]
    rw [hkind]

/-- Findings and names of a sequence are those of its parts. -/
theorem findings_bind (h : t.outcome = .ok ()) :
    Trace.findings (t >>= fun _ => u) = t.findings ++ u.findings := by
  unfold Trace.findings
  rw [violations_bind h, List.filterMap_append]

theorem filenames_bind (h : t.outcome = .ok ()) :
    Trace.filenames (t >>= fun _ => u) = t.filenames ++ u.filenames := by
  unfold Trace.filenames
  rw [Logged.bind_of_ok h]
  exact List.filterMap_append

theorem Milder.bind (h : Milder t' t) (hu : Milder u' u) :
    Milder (t' >>= fun _ => u') (t >>= fun _ => u) := by
  refine ⟨?_, ?_, ?_, ?_⟩
  · rw [Logged.bind_of_ok h.ends']
    exact hu.ends'
  · rw [Logged.bind_of_ok h.ends]
    exact hu.ends
  · rw [findings_bind h.ends', findings_bind h.ends]
    exact h.findings.append hu.findings
  · rw [filenames_bind h.ends', filenames_bind h.ends, h.filenames, hu.filenames]

/-- What is run for each member of a list is milder if it is for every member. -/
theorem milder_each {α : Type} {f f' : α → Trace Unit} {members : List α}
    (h : ∀ a ∈ members, Milder (f' a) (f a)) :
    Milder (Logged.each f' members) (Logged.each f members) := by
  induction members with
  | nil => exact milder_pure
  | cons a rest ih =>
    obtain ⟨hhead, hrest⟩ := List.forall_mem_cons.mp h
    exact hhead.bind (ih hrest)

/-! ### Checks that may be left out -/

/-- The trace ends and names no attachment. -/
structure Quiet (t : Trace Unit) : Prop where
  ends : t.outcome = .ok ()
  filenames : t.filenames = []

/-- A quiet trace may be left out. -/
theorem Quiet.milder (h : Quiet t) : Milder (pure ()) t :=
  ⟨rfl, h.ends, List.nil_sublist _, h.filenames.symm⟩

theorem quiet_pure : Quiet (pure ()) :=
  ⟨rfl, rfl⟩

theorem quiet_violationIf (condition : Bool) (v : PropertyViolation) :
    Quiet (violationIf condition path v) := by
  cases condition <;> exact ⟨rfl, rfl⟩

theorem Quiet.bind (h : Quiet t) (hu : Quiet u) : Quiet (t >>= fun _ => u) := by
  refine ⟨?_, ?_⟩
  · rw [Logged.bind_of_ok h.ends]
    exact hu.ends
  · rw [filenames_bind h.ends, h.filenames, hu.filenames]
    rfl

theorem quiet_each {α : Type} {f : α → Trace Unit} {members : List α}
    (h : ∀ a ∈ members, Quiet (f a)) : Quiet (Logged.each f members) := by
  induction members with
  | nil => exact quiet_pure
  | cons a rest ih =>
    obtain ⟨hhead, hrest⟩ := List.forall_mem_cons.mp h
    exact hhead.bind (ih hrest)

/-- A check of a literal that may be unset is quiet if it is for the literal. -/
theorem quiet_readThen {α : Type} {constraint : Constraint} {s : Situation}
    {slot : Option (Slot α)} {check : α → Trace Unit} (hslot : Slot.LiteralIfSet slot)
    (h : ∀ a, slot = some (.literal a) → Quiet (check a)) :
    Quiet (readThen path constraint s slot check) := by
  obtain rfl | ⟨a, rfl⟩ := hslot.cases
  · exact quiet_pure
  · exact h a rfl

end Trace

/-! ## Relaxed slots -/

namespace Slot

variable {α : Type}

/-- A slot that may be unset is kept, dropped, or its literal is moved to another one. -/
inductive Relaxed (moves : α → α → Prop) : Option (Slot α) → Option (Slot α) → Prop where
  | kept (slot : Option (Slot α)) : Relaxed moves slot slot
  | dropped (slot : Option (Slot α)) : Relaxed moves slot none
  | moved {a a' : α} : moves a a' → Relaxed moves (some (.literal a)) (some (.literal a'))

/-- A slot that may be unset is kept or dropped. -/
def KeptOrDropped : Option (Slot α) → Option (Slot α) → Prop :=
  Relaxed fun _ _ => False

/-- A flag is kept or switched off. -/
def KeptOrOff (slot slot' : Slot Bool) : Prop :=
  slot' = slot ∨ slot' = .literal false

/-- A flag is kept or switched on. -/
def KeptOrOn (slot slot' : Slot Bool) : Prop :=
  slot' = slot ∨ slot' = .literal true

/-- A literal stays one. -/
theorem Relaxed.literalIfSet {moves : α → α → Prop} {slot slot' : Option (Slot α)}
    (h : Relaxed moves slot slot') (hslot : LiteralIfSet slot) : LiteralIfSet slot' := by
  cases h with
  | kept => exact hslot
  | dropped => exact literalIfSet_none
  | moved _ => exact literalIfSet_literal _

variable {slot slot' : Slot Bool}

theorem KeptOrOff.isLiteral (h : KeptOrOff slot slot') (hslot : slot.IsLiteral) :
    slot'.IsLiteral := by
  rcases h with rfl | rfl
  · exact hslot
  · exact isLiteral_literal false

/-- A flag that is on has been on. -/
theorem KeptOrOff.on (h : KeptOrOff slot slot') (hon : slot' = .literal true) :
    slot = .literal true := by
  rcases h with rfl | rfl
  · exact hon
  · cases hon

/-- The value of a flag that is on has been on. -/
theorem KeptOrOff.literals {b b' : Bool} (h : KeptOrOff (.literal b) (.literal b'))
    (hon : b' = true) : b = true := by
  cases h.on (congrArg literal hon)
  rfl

theorem KeptOrOn.isLiteral (h : KeptOrOn slot slot') (hslot : slot.IsLiteral) :
    slot'.IsLiteral := by
  rcases h with rfl | rfl
  · exact hslot
  · exact isLiteral_literal true

/-- The value of a flag that was on is on. -/
theorem KeptOrOn.literals {b b' : Bool} (h : KeptOrOn (.literal b) (.literal b'))
    (hon : b = true) : b' = true := by
  rcases h with h | h
  · cases h
    exact hon
  · cases h
    rfl

end Slot

namespace Trace

variable {α : Type} {moves : α → α → Prop} {slot slot' : Option (Slot α)} {path place : Path}
  {constraint : Constraint} {s : Situation}

/-- A check of a literal is milder if it is so for the literals it may be moved to, and
    may be left out. -/
theorem milder_readThen {check : α → Trace Unit} (h : Slot.Relaxed moves slot slot')
    (hslot : Slot.LiteralIfSet slot)
    (hquiet : ∀ a, slot = some (.literal a) → Quiet (check a))
    (hmoved : ∀ a a', slot = some (.literal a) → moves a a' → Milder (check a') (check a)) :
    Milder (readThen path constraint s slot' check) (readThen path constraint s slot check) := by
  cases h with
  | kept => exact .of_ends (quiet_readThen hslot hquiet).ends
  | dropped => exact (quiet_readThen hslot hquiet).milder
  | moved ha => exact hmoved _ _ rfl ha

/-- A violation under a condition on a literal is left out if it is so for the literals
    it may be moved to. -/
theorem milder_readThen_violationIf {condition : α → Bool} {violation : α → PropertyViolation}
    (h : Slot.Relaxed moves slot slot') (hslot : Slot.LiteralIfSet slot)
    (hkind : ∀ a a', (violation a').kind = (violation a).kind)
    (hmoved : ∀ a a', moves a a' → condition a' = true → condition a = true) :
    Milder
      (readThen path constraint s slot' fun a => violationIf (condition a) place (violation a))
      (readThen path constraint s slot fun a => violationIf (condition a) place (violation a)) :=
  milder_readThen h hslot (fun _ _ => quiet_violationIf _ _)
    fun a a' _ ha => milder_violationIf (hkind a a') (hmoved a a' ha)

end Trace

/-! ## Relaxed rules -/

/-- The flags are kept or switched off, and the equality is kept or dropped. -/
structure CommonRules.RelaxedTo (r r' : CommonRules) : Prop where
  required : Slot.KeptOrOff r.required r'.required
  mustNotBeEmpty : Slot.KeptOrOff r.mustNotBeEmpty r'.mustNotBeEmpty
  immutable : Slot.KeptOrOff r.immutable r'.immutable
  immutableWhenSet : Slot.KeptOrOff r.immutableWhenSet r'.immutableWhenSet
  mustEqual : Slot.KeptOrDropped r.mustEqual r'.mustEqual
  customValidation : r'.customValidation = r.customValidation

/-- The limits are kept, dropped, or moved outward. -/
structure SizeRules.RelaxedTo (r r' : SizeRules) : Prop where
  minimum : Slot.Relaxed (fun least least' => least' ≤ least) r.minimum r'.minimum
  maximum : Slot.Relaxed (fun most most' => most ≤ most') r.maximum r'.maximum

/-- The rules for keys are kept, or switched off one by one. -/
structure KeyRules.RelaxedTo (r r' : KeyRules) : Prop where
  mustNotBeEmpty : Slot.KeptOrOff r.mustNotBeEmpty r'.mustNotBeEmpty
  pattern : Slot.KeptOrDropped r.pattern r'.pattern

/-- The constraints on attachments are kept or dropped, and the size may be raised. -/
structure ReferenceRules.RelaxedTo (r r' : ReferenceRules) : Prop where
  pattern : Slot.KeptOrDropped r.pattern r'.pattern
  supportedExtensions : Slot.KeptOrDropped r.supportedExtensions r'.supportedExtensions
  supportedContentTypes : Slot.KeptOrDropped r.supportedContentTypes r'.supportedContentTypes
  maximumSize : Slot.Relaxed (fun most most' => most ≤ most') r.maximumSize r'.maximumSize

/-- The order of a bound to the one that it replaces: a minimum is not raised, and a
    maximum is not lowered. -/
def Limit.Outward : Limit → Ordering → Prop
  | .minimum, o | .exclusiveMinimum, o => o ≠ .gt
  | .maximum, o | .exclusiveMaximum, o => o ≠ .lt

/-- A bound is replaced by one that lies outward of it. -/
def Limit.Moves (limit : Limit) (type : OrdinalType) (b b' : Json) : Prop :=
  ∃ m m' order, Magnitude.of? type b = some m ∧ Magnitude.of? type b' = some m' ∧
    m'.compare? m = some order ∧ limit.Outward order

/-- The bounds are kept, dropped, or moved outward. -/
def RangeRules.RelaxedTo (type : OrdinalType) (r r' : RangeRules) : Prop :=
  ∀ limit : Limit, Slot.Relaxed (limit.Moves type) (r.slot? limit) (r'.slot? limit)

/-- The rules of a scalar type are relaxed; the type stays. -/
inductive Scalar.RelaxedTo : Scalar → Scalar → Prop where
  | string {pattern pattern' : Option (Slot Pattern)} {length length' : SizeRules} :
      Slot.KeptOrDropped pattern pattern' → length.RelaxedTo length' →
      RelaxedTo (.string pattern length) (.string pattern' length')
  | ordinal {type : OrdinalType} {range range' : RangeRules} :
      range.RelaxedTo type range' → RelaxedTo (.ordinal type range) (.ordinal type range')
  | boolean : RelaxedTo .boolean .boolean
  | enumeration {values values' : List Json} :
      values ⊆ values' → RelaxedTo (.enumeration (.literal values)) (.enumeration (.literal values'))
  | attachmentReference {rules rules' : ReferenceRules} :
      rules.RelaxedTo rules' → RelaxedTo (.attachmentReference rules) (.attachmentReference rules')
  | any : RelaxedTo .any .any

/-- The rules of a tree are relaxed at any of its nodes. Types, names of properties and
    what has validators below it stay. -/
inductive Validator.RelaxedTo : Validator → Validator → Prop where
  | scalar {rules rules' : CommonRules} {type type' : Scalar} :
      rules.RelaxedTo rules' → type.RelaxedTo type' →
      RelaxedTo (.scalar rules type) (.scalar rules' type')
  | object {rules rules' : CommonRules} {properties properties' : Option Properties}
      {allowUnknown allowUnknown' : Slot Bool} :
      rules.RelaxedTo rules' → Slot.KeptOrOn allowUnknown allowUnknown' →
      properties'.map Entries.keys = properties.map Entries.keys →
      (∀ declared declared', properties = some declared → properties' = some declared' →
        ∀ p ∈ declared.zip declared', RelaxedTo p.1.2 p.2.2) →
      RelaxedTo (.object rules properties allowUnknown) (.object rules' properties' allowUnknown')
  | array {rules rules' : CommonRules} {length length' : SizeRules}
      {elements elements' : Option Validator} :
      rules.RelaxedTo rules' → length.RelaxedTo length' → elements'.isSome = elements.isSome →
      (∀ element element', elements = some element → elements' = some element' →
        RelaxedTo element element') →
      RelaxedTo (.array rules length elements) (.array rules' length' elements')
  | hashtable {rules rules' : CommonRules} {size size' : SizeRules} {keys keys' : Option KeyRules}
      {values values' : Option Validator} :
      rules.RelaxedTo rules' → size.RelaxedTo size' →
      (∀ k' ∈ keys', ∃ k ∈ keys, k.RelaxedTo k') → values'.isSome = values.isSome →
      (∀ entry entry', values = some entry → values' = some entry' → RelaxedTo entry entry') →
      RelaxedTo (.hashtable rules size keys values) (.hashtable rules' size' keys' values')

/-- The validators of declared properties are relaxed; names and order stay. -/
structure Properties.RelaxedTo (declared declared' : Properties) : Prop where
  names : Entries.keys declared' = Entries.keys declared
  validators : ∀ p ∈ declared.zip declared', p.1.2.RelaxedTo p.2.2

/-- Relaxed rules are literals where the strict ones are. -/
theorem CommonRules.RelaxedTo.static {r r' : CommonRules} (h : r.RelaxedTo r') (hr : r.Static) :
    r'.Static where
  required := h.required.isLiteral hr.required
  mustNotBeEmpty := h.mustNotBeEmpty.isLiteral hr.mustNotBeEmpty
  immutable := h.immutable.isLiteral hr.immutable
  immutableWhenSet := h.immutableWhenSet.isLiteral hr.immutableWhenSet
  mustEqual := h.mustEqual.literalIfSet hr.mustEqual
  customValidation := h.customValidation.trans hr.customValidation

theorem Scalar.RelaxedTo.dataType {type type' : Scalar} (h : type.RelaxedTo type') :
    type'.dataType = type.dataType := by
  cases h <;> rfl

end WritePolicy
