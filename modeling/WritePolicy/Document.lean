import WritePolicy.Json.Reader
import WritePolicy.Json.Record

/-! # Documents

    A document is a JSON object. Five of its properties belong to the store:
    identifier, revision, deletion flag, revision history and attachment
    descriptors. The descriptors are read once, when the document is made, and
    are listed by file name in code point order.
-/

namespace WritePolicy

/-- What a document says about one attachment. -/
structure AttachmentDescriptor where
  contentType : Option String := none
  length : Option Nat := none
  deriving DecidableEq, Repr

/-- A descriptor from its record; both fields may be left out and others are
    ignored. -/
def AttachmentDescriptor.ofJson? (v : Json) : Option AttachmentDescriptor := do
  let fields ← v.recordFields? [⟨"content_type", true⟩, ⟨"length", true⟩] false
  let contentType ← Json.optionalField? fields "content_type" Json.asString?
  let length ← Json.optionalField? fields "length" Json.asCount?
  return { contentType, length }

/-- Why a value or a text is not a document. -/
inductive DocumentError where
  | notJson
  | notAnObject (found : Json.Kind)
  | attachmentsNotAnObject (found : Json.Kind)
  | malformedDescriptor
  deriving DecidableEq, Repr

/-- A JSON object with its attachment descriptors. -/
structure Document where
  fields : Entries Json
  attachments : Entries AttachmentDescriptor

namespace Document

/-- Properties that belong to the store. -/
def reservedProperties : List String :=
  ["_id", "_rev", "_deleted", "_revisions", "_attachments"]

/-- The property belongs to the store. -/
def isReserved (name : String) : Bool :=
  reservedProperties.contains name

/-- Entries in code point order of their keys. -/
def sortedByName {α : Type} (entries : Entries α) : Entries α :=
  entries.mergeSort fun a b => !decide (b.1 < a.1)

/-- The attachment descriptors of an object's fields: none if the property is
    absent or `null`. -/
def readAttachments (fields : Entries Json) :
    Except DocumentError (Entries AttachmentDescriptor) :=
  match Entries.get? "_attachments" fields with
  | none | some .null => .ok []
  | some (.object files) =>
    match files.mapM fun f => (AttachmentDescriptor.ofJson? f.2).map (f.1, ·) with
    | some descriptors => .ok (sortedByName descriptors)
    | none => .error .malformedDescriptor
  | some v => .error (.attachmentsNotAnObject v.kind)

/-- The document that a value is. -/
def ofJson (v : Json) : Except DocumentError Document :=
  match v with
  | .object fields => do return ⟨fields, ← readAttachments fields⟩
  | v => .error (.notAnObject v.kind)

/-- The document that a text denotes. -/
def parse (text : String) : Except DocumentError Document :=
  match Json.parse? text with
  | some v => ofJson v
  | none => .error .notJson

/-- The document that stands for a deletion. -/
def deletionMarker : Document :=
  ⟨[("_deleted", .bool true)], []⟩

/-- The document as a value. -/
def toJson (d : Document) : Json :=
  .object d.fields

/-- A property of the document. -/
def get? (d : Document) (name : String) : Option Json :=
  Entries.get? name d.fields

/-- The identifier, if it is a string. -/
def id? (d : Document) : Option String :=
  (d.get? "_id").bind Json.asString?

/-- The deletion flag is exactly `true`. -/
def isDeleted (d : Document) : Bool :=
  match d.get? "_deleted" with
  | some (.bool true) => true
  | _ => false

/-- The descriptor of an attachment. -/
def attachment? (d : Document) (filename : String) : Option AttachmentDescriptor :=
  Entries.get? filename d.attachments

/-- There is no document, or it is deleted. -/
def isMissingOrDeleted (d : Option Document) : Bool :=
  (d.map isDeleted).getD true

end Document

/-- The wording of an error, where there is one. What was wrong inside a
    descriptor is not told. -/
def DocumentError.message? : DocumentError → Option String
  | .notJson => none
  | .notAnObject found => some ("document must be a JSON object, found " ++ found.name)
  | .attachmentsNotAnObject found =>
    some ("malformed \"_attachments\" metadata: expected an object, found " ++ found.name)
  | .malformedDescriptor => some "malformed \"_attachments\" metadata: <reason>"

end WritePolicy
