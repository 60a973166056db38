import WritePolicy.Json.Printer
import WritePolicy.Time.DateTime

/-! # Data types of properties

    Thirteen types that a validator can require. Five of them are ordinal:
    their values have a magnitude, so that ranges and equality go by meaning
    and not by text. Two date/times that name one instant are equal, and a date
    alone bounds a date/time at midnight UTC.
-/

namespace WritePolicy

/-- Types whose values are ordered. -/
inductive OrdinalType where
  | date | dateTime | timeZone | integer | float
  deriving DecidableEq, Repr

/-- Types that a validator can require. -/
inductive DataType where
  | string
  | ordinal (type : OrdinalType)
  | boolean
  | enumeration
  | object
  | array
  | hashtable
  | attachmentReference
  | any
  deriving DecidableEq, Repr

namespace DataType

/-- The name of a type in definition files. -/
def name : DataType → String
  | string => "string"
  | ordinal .date => "date"
  | ordinal .dateTime => "datetime"
  | ordinal .timeZone => "timezone"
  | ordinal .integer => "integer"
  | ordinal .float => "float"
  | boolean => "boolean"
  | enumeration => "enum"
  | object => "object"
  | array => "array"
  | hashtable => "hashtable"
  | attachmentReference => "attachmentReference"
  | any => "any"

/-- All types, in the order in which they are listed. -/
def all : List DataType :=
  [string, ordinal .date, ordinal .dateTime, ordinal .timeZone, ordinal .integer,
    ordinal .float, boolean, enumeration, object, array, hashtable, attachmentReference, any]

/-- The type of a name. -/
def ofName? (s : String) : Option DataType :=
  all.find? fun t => t.name == s

/-- What is demanded of a value that is not of the type. -/
def demand : DataType → String
  | string => "must be a string"
  | ordinal .date => "must be an ISO 8601 date string"
  | ordinal .dateTime => "must be an ISO 8601 date/time string"
  | ordinal .timeZone => "must be an ISO 8601 time zone string"
  | ordinal .integer => "must be an integer"
  | ordinal .float => "must be a floating point or integer number"
  | boolean => "must be a boolean"
  | enumeration => "must be a string or integer"
  | object => "must be an object"
  | array => "must be an array"
  | hashtable => "must be an object/hashtable"
  | attachmentReference => "must be an attachment reference string"
  | any => "may be any value"

/-- The ordinal type, for a type that is ordinal. -/
def ordinal? : DataType → Option OrdinalType
  | ordinal t => some t
  | _ => none

end DataType

/-! ## Membership -/

/-- The value is an integral number. -/
def Json.isIntegralNumber : Json → Bool
  | .number n => n.isIntegral
  | _ => false

/-- The value is an empty string, array or object. -/
def Json.isEmpty : Json → Bool
  | .string s => s.isEmpty
  | .array items => items.isEmpty
  | .object fields => fields.isEmpty
  | _ => false

/-- A reader accepts the value's text. -/
def Json.isTextOf {α ε : Type} (parse : String → Except ε α) : Json → Bool
  | .string s => (parse s).toBool
  | _ => false

/-- The value is of the type. -/
def DataType.admits (t : DataType) (v : Json) : Bool :=
  match t with
  | string | attachmentReference => v.kind == .string
  | ordinal .date => v.isTextOf Date.parse
  | ordinal .dateTime => v.isTextOf DateTime.parse
  | ordinal .timeZone => v.isTextOf TimeZone.parse
  | ordinal .integer => v.isIntegralNumber
  | ordinal .float => v.kind == .number
  | boolean => v.kind == .boolean
  | enumeration => v.kind == .string || v.isIntegralNumber
  | object | hashtable => v.kind == .object
  | array => v.kind == .array
  | any => true

/-! ## Magnitudes -/

/-- What the values of an ordinal type are compared by. -/
inductive Magnitude where
  | number (n : Number)
  | instant (millis : Int)
  | offset (minutes : Int)
  deriving DecidableEq

namespace Magnitude

/-- The magnitude of a text, by a reader and a measure. -/
def ofText? {α : Type} (parse : String → Except TemporalError α) (measure : α → Magnitude) :
    Json → Option Magnitude
  | .string s => (parse s).toOption.map measure
  | _ => none

/-- The magnitude of a value as one of an ordinal type. A date stands for a
    date/time at midnight UTC. -/
def of? (t : OrdinalType) (v : Json) : Option Magnitude :=
  match t with
  | .integer | .float => v.asNumber?.map number
  | .date => ofText? Date.parse (fun d => instant d.instantMillis) v
  | .dateTime =>
    match ofText? DateTime.parse (fun d => instant d.instantMillis) v with
    | some m => some m
    | none => ofText? Date.parse (fun d => instant d.instantMillis) v
  | .timeZone => ofText? TimeZone.parse (fun z => offset z.offsetMinutes) v

/-- Order of two magnitudes of one type. -/
def compare? : Magnitude → Magnitude → Option Ordering
  | number a, number b => some (a.compare b)
  | instant a, instant b => some (Ord.compare a b)
  | offset a, offset b => some (Ord.compare a b)
  | _, _ => none

end Magnitude

/-- The value can bound values of the type; `null` bounds nothing and is
    always allowed. -/
def OrdinalType.isBound (t : OrdinalType) (v : Json) : Bool :=
  v.isNull || (Magnitude.of? t v).isSome

/-- Equality as a type understands it: temporal values by magnitude when both
    have one, all others by content. -/
def DataType.sameValue (t : DataType) (a b : Json) : Bool :=
  match t with
  | ordinal .date | ordinal .dateTime | ordinal .timeZone =>
    match t.ordinal?.bind (Magnitude.of? · a), t.ordinal?.bind (Magnitude.of? · b) with
    | some x, some y => decide (x = y)
    | _, _ => a.sameContent b
  | _ => a.sameContent b

end WritePolicy
