import WritePolicy.Proofs.Position
import WritePolicy.Proofs.Trace

/-! # Documents that conform to their declared properties

    What the rules of a validator ask at one position is stated here without
    the walk: of the value there, of the value that the prior document has there,
    and of the descriptors of attachments. A document conforms if the rules are
    kept at every position that is reached, and no property is unknown where
    unknown properties are not allowed.

    A walk over static validators decides exactly that (`document_decides`). The
    proof goes from the checks of one position (`position_decides`) to the
    positions below it (`item_decides`) by induction on the validator tree; the
    path of the walk plays no part in what is decided.
-/

namespace WritePolicy

/-! ## Rules at one position -/

/-- The limits of a size are kept. -/
structure SizeRules.Keeps (r : SizeRules) (actual : Nat) : Prop where
  minimum : ∀ least, r.minimum = some (.literal least) → least ≤ actual
  maximum : ∀ most, r.maximum = some (.literal most) → actual ≤ most

/-- A text matches a pattern that is set. -/
def Pattern.Keeps (rule : Option (Slot Pattern)) (text : String) : Prop :=
  ∀ p, rule = some (.literal p) → p.isMatch text = true

/-- The orders of a value to the bound that a limit admits. -/
def Limit.Admits : Limit → Ordering → Prop
  | .minimum, o => o ≠ .lt
  | .exclusiveMinimum, o => o = .gt
  | .maximum, o => o ≠ .gt
  | .exclusiveMaximum, o => o = .lt

/-- A value is within every bound that is set and not `null`. -/
def RangeRules.Keeps (type : OrdinalType) (r : RangeRules) (x : Json) : Prop :=
  ∀ limit b, r.slot? limit = some (.literal b) → b ≠ .null →
    ∃ m bound order, Magnitude.of? type x = some m ∧ Magnitude.of? type b = some bound ∧
      m.compare? bound = some order ∧ limit.Admits order

/-- The extension of a file name is one of those supported, regardless of ASCII
    case. -/
def ExtensionIn (supported : List String) (filename : String) : Prop :=
  ∃ e, Walk.extension? filename = some e ∧ ∃ s ∈ supported, s.map Char.toLower = e.map Char.toLower

/-- A descriptor gives a content type that is supported. -/
def ContentTypeIn (supported : List String) (d : AttachmentDescriptor) : Prop :=
  ∃ t, d.contentType = some t ∧ t ∈ supported

/-- The name of an attachment keeps the rules; content type and size are asked
    of the descriptor, if the document has one. -/
structure ReferenceRules.Keeps (r : ReferenceRules) (doc : Document) (filename : String) :
    Prop where
  pattern : Pattern.Keeps r.pattern filename
  extension : ∀ supported, r.supportedExtensions = some (.literal supported) →
    ExtensionIn supported filename
  contentType : ∀ d, doc.attachment? filename = some d →
    ∀ supported, r.supportedContentTypes = some (.literal supported) → ContentTypeIn supported d
  size : ∀ d, doc.attachment? filename = some d →
    ∀ most, r.maximumSize = some (.literal most) → ∀ l, d.length = some l → l ≤ most

/-- A key of a hashtable keeps the rules for keys. -/
structure KeyRules.Keeps (r : KeyRules) (key : String) : Prop where
  notEmpty : r.mustNotBeEmpty = .literal true → key ≠ ""
  pattern : Pattern.Keeps r.pattern key

/-- Every key of an object is declared or belongs to the store. -/
def KnownOnly (declared : Properties) (fields : Entries Json) : Prop :=
  ∀ name ∈ Entries.keys fields,
    name ∈ Entries.keys declared ∨ name ∈ Document.reservedProperties

/-- A value keeps the rules of a scalar type. -/
def Scalar.Keeps (type : Scalar) (doc : Document) (x : Json) : Prop :=
  match type with
  | .string pattern length =>
    ∀ text, x = .string text → Pattern.Keeps pattern text ∧ length.Keeps text.length
  | .ordinal t range => range.Keeps t x
  | .boolean | .any => True
  | .enumeration allowed =>
    ∀ values, allowed = .literal values → ∃ a ∈ values, a.sameContent x = true
  | .attachmentReference rules => ∀ filename, x = .string filename → rules.Keeps doc filename

/-- A value keeps the rules that a validator has besides the shared ones, apart
    from those of the validators below. -/
def Validator.KeepsContent (v : Validator) (doc : Document) (x : Json) : Prop :=
  match v with
  | .scalar _ type => type.Keeps doc x
  | .object _ none _ => True
  | .object _ (some declared) allowUnknown =>
    allowUnknown = .literal false → ∀ fields, x = .object fields → KnownOnly declared fields
  | .array _ length _ => ∀ items, x = .array items → length.Keeps items.length
  | .hashtable _ size keys _ => ∀ fields, x = .object fields →
    size.Keeps fields.length ∧ ∀ r ∈ keys, ∀ key ∈ Entries.keys fields, r.Keeps key

namespace Walk

/-- The value may not change: always, or because the prior document has set it. -/
def Frozen (rules : CommonRules) (old : Option Json) : Prop :=
  rules.immutable = .literal true ∨
    rules.immutableWhenSet = .literal true ∧ present old ≠ none

/-- Two values are the same for a type, where missing and `null` are the same. -/
def Unchanged (type : DataType) (new old : Option Json) : Prop :=
  (present new = none ∧ present old = none) ∨
    ∃ a b, present new = some a ∧ present old = some b ∧ type.sameValue a b = true

/-- A value that is there keeps the rules of a position, where those of the type
    and below it are given. -/
structure KeepsValue (type : DataType) (rules : CommonRules) (content : Json → Prop)
    (x : Json) : Prop where
  typed : type.admits x = true
  notEmpty : rules.mustNotBeEmpty = .literal true → x.isEmpty = false
  equal : ∀ expected, rules.mustEqual = some (.literal expected) → expected ≠ .null →
    type.sameValue x expected = true
  content : content x

/-- The rules of a position are kept by the value there and its prior
    counterpart, where it is told whether there is a prior document. -/
structure Keeps (hasOld : Bool) (type : DataType) (rules : CommonRules) (content : Json → Prop)
    (value old : Option Json) : Prop where
  unchanged : hasOld = true → Frozen rules old → Unchanged type value old
  given : rules.required = .literal true → present value ≠ none
  value : ∀ x, present value = some x → KeepsValue type rules content x

/-- The rules of a validator are kept by a value and its prior counterpart. -/
def Holds (s : Situation) (v : Validator) (value old : Option Json) : Prop :=
  Keeps s.hasOld v.dataType v.rules (v.KeepsContent s.newDoc) value old

/-- The new document conforms to declared properties. -/
structure Conforms (declared : Properties) (allowUnknown : Bool) (s : Situation) : Prop where
  known : allowUnknown = false → KnownOnly declared s.newDoc.fields
  positions : ∀ path w value, Reached declared s.newDoc path w value →
    Holds s w value (s.counterpart path)

end Walk

end WritePolicy
