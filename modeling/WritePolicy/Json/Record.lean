import WritePolicy.Json.Basic

/-! # Records in JSON

    A record is written as an object of named fields, or as an array of the
    field values in their declared order. A field may say what stands for it
    when it is not given; in an array only such fields may be left out, and
    only at the end. Strict records refuse fields that they do not declare.
-/

namespace WritePolicy

/-- A declared field of a record. -/
structure RecordField where
  name : String
  /-- the field has a default, so that an array may end before it -/
  hasDefault : Bool

namespace Json

/-- The given fields of a record by name, or nothing if the value does not
    have the form of the record. -/
def recordFields? (declared : List RecordField) (strict : Bool) : Json → Option (Entries Json)
  | object fields =>
    if strict && fields.any (fun f => !(declared.any fun d => d.name == f.1)) then none
    else some fields
  | array items =>
    if declared.length < items.length then none
    else if (declared.drop items.length).any (fun d => !d.hasDefault) then none
    else some ((declared.map (·.name)).zip items)
  | _ => none

/-- A field that must be given. -/
def requiredField? {α : Type} (fields : Entries Json) (name : String)
    (decode : Json → Option α) : Option α :=
  (Entries.get? name fields).bind decode

/-- A field that may be left out or `null`. -/
def optionalField? {α : Type} (fields : Entries Json) (name : String)
    (decode : Json → Option α) : Option (Option α) :=
  match Entries.get? name fields with
  | none => some none
  | some null => some none
  | some v => (decode v).map some

/-- A field that may be left out but, if given, is decoded; `null` has no
    special meaning. -/
def defaultField? {α : Type} (fields : Entries Json) (name : String) (default : α)
    (decode : Json → Option α) : Option α :=
  match Entries.get? name fields with
  | none => some default
  | some v => decode v

/-- A list of strings. -/
def asStrings? (v : Json) : Option (List String) := do
  (← v.asArray?).mapM asString?

/-- A count: an integer from 0 up to below 2^64. -/
def asCount? (v : Json) : Option Nat := do
  (← v.asNumber?).toCount?

end Json

end WritePolicy
