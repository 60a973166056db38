import WritePolicy.Pattern.Basic
import WritePolicy.Walk.Range

/-! # Validators

    A validator describes the values of one property. Validators form a tree:
    an object declares validators for its properties, an array one for its
    elements, a hashtable one for its values. The rules that all types share
    stand at every node; a node has the further rules of its own type only, so
    a range cannot be attached to a boolean.
-/

namespace WritePolicy

/-! ## Rules -/

/-- Limits of a length or of a number of entries. -/
structure SizeRules where
  minimum : Option (Slot Nat) := none
  maximum : Option (Slot Nat) := none

/-- Rules for the keys of a hashtable. -/
structure KeyRules where
  mustNotBeEmpty : Slot Bool := .literal false
  pattern : Option (Slot Pattern) := none

/-- Rules for the attachment that a property names. -/
structure ReferenceRules where
  pattern : Option (Slot Pattern) := none
  supportedExtensions : Option (Slot (List String)) := none
  supportedContentTypes : Option (Slot (List String)) := none
  maximumSize : Option (Slot Nat) := none

/-- The rules that all types share. A custom validation yields messages. -/
structure CommonRules where
  required : Slot Bool := .literal false
  mustNotBeEmpty : Slot Bool := .literal false
  immutable : Slot Bool := .literal false
  immutableWhenSet : Slot Bool := .literal false
  mustEqual : Option (Slot Json) := none
  customValidation : Option (Slot (List String)) := none

/-! ## The tree -/

/-- Types without further validators, with their rules. -/
inductive Scalar where
  | string (pattern : Option (Slot Pattern)) (length : SizeRules)
  | ordinal (type : OrdinalType) (range : RangeRules)
  | boolean
  | enumeration (allowed : Slot (List Json))
  | attachmentReference (rules : ReferenceRules)
  | any

/-- A node of a validator tree. An object that declares no properties accepts
    any object; the same holds for arrays and hashtables. -/
inductive Validator where
  | scalar (rules : CommonRules) (type : Scalar)
  | object (rules : CommonRules) (properties : Option (List (String × Validator)))
      (allowUnknown : Slot Bool)
  | array (rules : CommonRules) (length : SizeRules) (elements : Option Validator)
  | hashtable (rules : CommonRules) (size : SizeRules) (keys : Option KeyRules)
      (values : Option Validator)

/-- Declared properties, in order of declaration. -/
abbrev Properties := Entries Validator

/-- The type of a scalar. -/
def Scalar.dataType : Scalar → DataType
  | string _ _ => .string
  | ordinal t _ => .ordinal t
  | boolean => .boolean
  | enumeration _ => .enumeration
  | attachmentReference _ => .attachmentReference
  | any => .any

namespace Validator

/-- The type that a validator requires. -/
def dataType : Validator → DataType
  | scalar _ t => t.dataType
  | object _ _ _ => .object
  | array _ _ _ => .array
  | hashtable _ _ _ _ => .hashtable

/-- The shared rules of a node. -/
def rules : Validator → CommonRules
  | scalar r _ | object r _ _ | array r _ _ | hashtable r _ _ _ => r

/-- The node with its shared rules changed. -/
def mapRules (f : CommonRules → CommonRules) : Validator → Validator
  | scalar r t => scalar (f r) t
  | object r ps a => object (f r) ps a
  | array r l e => array (f r) l e
  | hashtable r s k v => hashtable (f r) s k v

/-! ## Making validators -/

/-- Strings. -/
def ofString : Validator :=
  scalar {} (.string none {})

/-- Strings that match a pattern. -/
def ofMatching (p : Pattern) : Validator :=
  scalar {} (.string (some (.literal p)) {})

/-- Values of an ordinal type within a range. -/
def ofRange (t : OrdinalType) (range : RangeRules) : Validator :=
  scalar {} (.ordinal t range)

/-- Booleans. -/
def ofBoolean : Validator :=
  scalar {} .boolean

/-- Some values only. -/
def ofValues (allowed : List Json) : Validator :=
  scalar {} (.enumeration (.literal allowed))

/-- Objects with declared properties. -/
def ofProperties (properties : Properties) : Validator :=
  object {} (some properties) (.literal false)

/-- Arrays of elements of one kind. -/
def ofElements (elements : Validator) : Validator :=
  array {} {} (some elements)

/-- Hashtables with values of one kind. -/
def ofEntries (size : SizeRules) (values : Option Validator) : Validator :=
  hashtable {} size none values

/-- Names of attachments. -/
def ofReference (rules : ReferenceRules) : Validator :=
  scalar {} (.attachmentReference rules)

/-- Values of any kind. -/
def ofAny : Validator :=
  scalar {} .any

/-- The value must be given. -/
def require (v : Validator) (on : Bool) : Validator :=
  v.mapRules ({ · with required := .literal on })

/-- The value must not be an empty string, array or object. -/
def forbidEmpty (v : Validator) : Validator :=
  v.mapRules ({ · with mustNotBeEmpty := .literal true })

/-- The value must not change. -/
def freeze (v : Validator) (on : Bool) : Validator :=
  v.mapRules ({ · with immutable := .literal on })

/-- The value must not change once it is set. -/
def freezeWhenSet (v : Validator) (on : Bool) : Validator :=
  v.mapRules ({ · with immutableWhenSet := .literal on })

/-- The value must equal another. -/
def equalTo (v : Validator) (expected : Json) : Validator :=
  v.mapRules ({ · with mustEqual := some (.literal expected) })

/-- The property that names a document's type: a string that must be given, not
    be empty and not change. -/
def typeId : Validator :=
  ofString.require true |>.forbidEmpty |>.freeze true

end Validator

end WritePolicy
