import WritePolicy.Definition

/-! # Definitions without computations

    A slot holds a literal or a computation. Definitions that are read from a
    file hold literals only, their bounds are comparable with the values that
    they bound, and they have neither custom validations nor actions. Such
    definitions are called static: what they ask of a write is fixed with them,
    so that whether a write is accepted is a fact about the write alone.

    The predicates follow the shape of what they are about, one field per slot.
-/

namespace WritePolicy

/-! ## Slots -/

/-- The slot holds a literal. -/
def Slot.IsLiteral {α : Type} (slot : Slot α) : Prop :=
  ∃ a, slot = .literal a

/-- A slot that may be unset holds a literal if it is set. -/
def Slot.LiteralIfSet {α : Type} (slot : Option (Slot α)) : Prop :=
  ∀ x ∈ slot, x.IsLiteral

namespace Slot

variable {α : Type}

theorem isLiteral_literal (a : α) : (literal a).IsLiteral :=
  ⟨a, rfl⟩

/-- The value of a literal is found only in that literal. -/
theorem literal?_eq_some {slot : Slot α} {a : α} :
    slot.literal? = some a ↔ slot = literal a := by
  cases slot with
  | literal b => simp [literal?]
  | computed f => simp [literal?]

theorem literalIfSet_none : LiteralIfSet (none : Option (Slot α)) := by
  intro x hx
  cases hx

theorem literalIfSet_literal (a : α) : LiteralIfSet (some (literal a)) := by
  intro x hx
  cases hx
  exact isLiteral_literal a

/-- A slot that may be unset is unset or set to a literal. -/
theorem LiteralIfSet.cases {slot : Option (Slot α)} (h : LiteralIfSet slot) :
    slot = none ∨ ∃ a, slot = some (literal a) := by
  cases slot with
  | none => exact .inl rfl
  | some x =>
    obtain ⟨a, rfl⟩ := h x rfl
    exact .inr ⟨a, rfl⟩

/-- A literal flag is on or off. -/
theorem IsLiteral.on_or_off {slot : Slot Bool} (h : slot.IsLiteral) :
    slot = literal true ∨ slot = literal false := by
  obtain ⟨b, rfl⟩ := h
  cases b with
  | true => exact .inl rfl
  | false => exact .inr rfl

end Slot

/-! ## Rules -/

/-- The shared rules of a validator are literals, and there is no custom
    validation. -/
structure CommonRules.Static (r : CommonRules) : Prop where
  required : r.required.IsLiteral
  mustNotBeEmpty : r.mustNotBeEmpty.IsLiteral
  immutable : r.immutable.IsLiteral
  immutableWhenSet : r.immutableWhenSet.IsLiteral
  mustEqual : Slot.LiteralIfSet r.mustEqual
  customValidation : r.customValidation = none

/-- The limits of a size are literals. -/
structure SizeRules.Static (r : SizeRules) : Prop where
  minimum : Slot.LiteralIfSet r.minimum
  maximum : Slot.LiteralIfSet r.maximum

/-- The rules for keys are literals. -/
structure KeyRules.Static (r : KeyRules) : Prop where
  mustNotBeEmpty : r.mustNotBeEmpty.IsLiteral
  pattern : Slot.LiteralIfSet r.pattern

/-- The rules for an attachment that a property names are literals. -/
structure ReferenceRules.Static (r : ReferenceRules) : Prop where
  pattern : Slot.LiteralIfSet r.pattern
  supportedExtensions : Slot.LiteralIfSet r.supportedExtensions
  supportedContentTypes : Slot.LiteralIfSet r.supportedContentTypes
  maximumSize : Slot.LiteralIfSet r.maximumSize

/-- The bounds of a range are literals that can bound values of the type. -/
def RangeRules.Static (type : OrdinalType) (r : RangeRules) : Prop :=
  ∀ limit, ∀ slot ∈ r.slot? limit, ∃ b, slot = .literal b ∧ type.isBound b = true

/-- A bound that is set is a literal. -/
theorem RangeRules.Static.literalIfSet {type : OrdinalType} {r : RangeRules} (h : r.Static type)
    (limit : Limit) : Slot.LiteralIfSet (r.slot? limit) := by
  intro slot hslot
  obtain ⟨b, rfl, -⟩ := h limit slot hslot
  exact Slot.isLiteral_literal b

/-- The rules of a scalar type are literals. -/
def Scalar.Static : Scalar → Prop
  | .string pattern length => Slot.LiteralIfSet pattern ∧ length.Static
  | .ordinal type range => range.Static type
  | .boolean | .any => True
  | .enumeration allowed => allowed.IsLiteral
  | .attachmentReference rules => rules.Static

/-- Nothing in the tree of a validator is computed, at any depth. -/
inductive Validator.Static : Validator → Prop where
  | scalar {rules : CommonRules} {type : Scalar} :
      rules.Static → type.Static → Static (.scalar rules type)
  | object {rules : CommonRules} {properties : Option (List (String × Validator))}
      {allowUnknown : Slot Bool} :
      rules.Static → allowUnknown.IsLiteral →
      (∀ declared, properties = some declared → ∀ e ∈ declared, Static e.2) →
      Static (.object rules properties allowUnknown)
  | array {rules : CommonRules} {length : SizeRules} {elements : Option Validator} :
      rules.Static → length.Static →
      (∀ element, elements = some element → Static element) →
      Static (.array rules length elements)
  | hashtable {rules : CommonRules} {size : SizeRules} {keys : Option KeyRules}
      {values : Option Validator} :
      rules.Static → size.Static → (∀ k ∈ keys, k.Static) →
      (∀ entry, values = some entry → Static entry) →
      Static (.hashtable rules size keys values)

/-- Every declared property has a static validator. -/
def Properties.Static (declared : Properties) : Prop :=
  ∀ e ∈ declared, e.2.Static

/-! ## Definitions -/

/-- The grants of a definition are literals. -/
structure Authorization.Static (a : Authorization) : Prop where
  channels : Slot.LiteralIfSet a.channels
  roles : Slot.LiteralIfSet a.roles
  users : Slot.LiteralIfSet a.users
  allMembers : a.allMembers.IsLiteral

/-- The rules for the attachments of documents are literals. -/
structure AttachmentRules.Static (r : AttachmentRules) : Prop where
  allow : r.allow.IsLiteral
  maximumCount : Slot.LiteralIfSet r.maximumCount
  maximumIndividualSize : Slot.LiteralIfSet r.maximumIndividualSize
  maximumTotalSize : Slot.LiteralIfSet r.maximumTotalSize
  supportedExtensions : Slot.LiteralIfSet r.supportedExtensions
  supportedContentTypes : Slot.LiteralIfSet r.supportedContentTypes
  filenamePattern : Slot.LiteralIfSet r.filenamePattern
  requireReferences : r.requireReferences.IsLiteral

/-- Nothing in a definition is computed: no slot, no filter, no action. -/
structure Definition.Static (d : Definition) : Prop where
  typeFilter : ∀ accepts, d.typeFilter ≠ .custom accepts
  properties : d.properties.Static
  authorization : d.authorization.Static
  attachments : d.attachments.Static
  cannotReplace : d.cannotReplace.IsLiteral
  cannotDelete : d.cannotDelete.IsLiteral
  immutable : d.immutable.IsLiteral
  idPattern : Slot.LiteralIfSet d.idPattern
  allowUnknownProperties : d.allowUnknownProperties.IsLiteral
  actions : d.actions = {}

/-- Every definition of a set is static. -/
def Definitions.Static (definitions : Definitions) : Prop :=
  ∀ e ∈ definitions, e.2.Static

end WritePolicy
