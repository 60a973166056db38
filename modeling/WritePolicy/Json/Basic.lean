import WritePolicy.Entries
import WritePolicy.Number.Basic

/-! # JSON values

    Documents, constraint values and definition files are all JSON. Objects
    are ordered entries: readers keep each key once, at its first position and
    with its last value, and reports follow that order.
-/

namespace WritePolicy

/-- A JSON value. -/
inductive Json where
  | null
  | bool (value : Bool)
  | number (value : Number)
  | string (value : String)
  | array (items : List Json)
  | object (fields : List (String × Json))
  deriving Repr, Inhabited

namespace Json

/-! ## Kinds -/

/-- The six kinds of JSON value. -/
inductive Kind where
  | null | boolean | number | string | array | object
  deriving DecidableEq, Repr

/-- The kind of a value. -/
def kind : Json → Kind
  | null => .null
  | bool _ => .boolean
  | number _ => .number
  | string _ => .string
  | array _ => .array
  | object _ => .object

/-- How a kind is called in messages. -/
def Kind.name : Kind → String
  | .null => "null"
  | .boolean => "boolean"
  | .number => "number"
  | .string => "string"
  | .array => "array"
  | .object => "object"

/-! ## Views -/

/-- The value is `null`. -/
def isNull : Json → Bool
  | null => true
  | _ => false

/-- The text of a string value. -/
def asString? : Json → Option String
  | string s => some s
  | _ => none

/-- The truth value of a boolean. -/
def asBool? : Json → Option Bool
  | bool b => some b
  | _ => none

/-- The number of a numeric value. -/
def asNumber? : Json → Option Number
  | number n => some n
  | _ => none

/-- The items of an array. -/
def asArray? : Json → Option (List Json)
  | array items => some items
  | _ => none

/-- The fields of an object. -/
def asObject? : Json → Option (Entries Json)
  | object fields => some fields
  | _ => none

/-- The field of an object; nothing for other values. -/
def field? (key : String) : Json → Option Json
  | object fields => Entries.get? key fields
  | _ => none

/-- The item of an array; nothing for other values. -/
def item? (index : Nat) : Json → Option Json
  | array items => items[index]?
  | _ => none

/-- A whole number as JSON. -/
def ofNat (n : Nat) : Json :=
  number (.int n)

/-! ## Depth -/

mutual

/-- How deep the containers of a value nest, where a scalar has depth 1. -/
def depth : Json → Nat
  | array items => depthItems items + 1
  | object fields => depthFields fields + 1
  | _ => 1

/-- The largest depth of the items. -/
def depthItems : List Json → Nat
  | [] => 0
  | v :: rest => max v.depth (depthItems rest)

/-- The largest depth of the field values. -/
def depthFields : List (String × Json) → Nat
  | [] => 0
  | (_, v) :: rest => max v.depth (depthFields rest)

end

/-! ## Unique keys -/

mutual

/-- Every object of the tree carries each key once. Readers only build such
    values. -/
def UniqueKeys : Json → Prop
  | array items => UniqueKeysItems items
  | object fields => (fields.map (·.1)).Nodup ∧ UniqueKeysFields fields
  | _ => True

/-- Every item has unique keys throughout. -/
def UniqueKeysItems : List Json → Prop
  | [] => True
  | v :: rest => v.UniqueKeys ∧ UniqueKeysItems rest

/-- Every field value has unique keys throughout. -/
def UniqueKeysFields : List (String × Json) → Prop
  | [] => True
  | (_, v) :: rest => v.UniqueKeys ∧ UniqueKeysFields rest

end

/-! ## Equality of content -/

mutual

/-- Two values have the same content: numbers by exact value, objects
    regardless of the order of their fields. -/
def sameContent : Json → Json → Bool
  | null, null => true
  | bool a, bool b => a == b
  | number a, number b => a.compare b == .eq
  | string a, string b => a == b
  | array xs, array ys => sameItems xs ys
  | object xs, object ys => xs.length == ys.length && fieldsWithin xs ys
  | _, _ => false

/-- Items have the same content one by one. -/
def sameItems : List Json → List Json → Bool
  | [], [] => true
  | x :: xs, y :: ys => sameContent x y && sameItems xs ys
  | _, _ => false

/-- Each field is found in the other object with the same content. -/
def fieldsWithin : List (String × Json) → List (String × Json) → Bool
  | [], _ => true
  | (k, x) :: xs, ys =>
    (match Entries.get? k ys with
      | some y => sameContent x y
      | none => false) && fieldsWithin xs ys

end

end Json

end WritePolicy
