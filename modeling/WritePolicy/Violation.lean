import WritePolicy.DataType

/-! # Violations

    What a document does wrong. A violation concerns either a property, and
    then it stands at the position of the property, or the document as a whole.
    Violations are reported in the order in which they are found and are never
    merged.
-/

namespace WritePolicy

/-! ## Positions -/

/-- One step into a value: to a declared property of an object, to an element
    of an array, or to an entry of a hashtable. -/
inductive Step where
  | property (name : String)
  | element (index : Nat)
  | entry (key : String)
  deriving DecidableEq, Repr

/-- The steps from the document to a position. -/
abbrev Path := List Step

/-- The text of a step that follows others. -/
def Step.text : Step → String
  | .property name => "." ++ name
  | .element index => "[" ++ toString index ++ "]"
  | .entry key => "[" ++ key ++ "]"

/-- The text of a path: `parent.child`, `parent[0]`, `parent[key]`. -/
def Path.text : Path → String
  | [] => ""
  | .property name :: rest => rest.foldl (fun s step => s ++ step.text) name
  | step :: rest => rest.foldl (fun s step => s ++ step.text) step.text

/-- The value one step into a value. -/
def Step.into? (v : Json) : Step → Option Json
  | .property name => v.field? name
  | .element index => v.item? index
  | .entry key => v.field? key

/-- The value at a position below a value. -/
def Json.at? (v : Json) : Path → Option Json
  | [] => some v
  | step :: rest => (step.into? v).bind (·.at? rest)

/-! ## Violations of properties -/

/-- The four ways to limit a range. -/
inductive Limit where
  | minimum | exclusiveMinimum | maximum | exclusiveMaximum
  deriving DecidableEq, Repr

/-- The limit excludes a value that stands in this order to the bound. -/
def Limit.excludes : Limit → Ordering → Bool
  | .minimum, o => o == .lt
  | .exclusiveMinimum, o => o != .gt
  | .maximum, o => o == .gt
  | .exclusiveMaximum, o => o != .lt

/-- What a limit demands, before the bound is named. -/
def Limit.demand : Limit → String
  | .minimum => "must not be less than "
  | .exclusiveMinimum => "must be greater than "
  | .maximum => "must not be greater than "
  | .exclusiveMaximum => "must be less than "

/-- What a size counts. -/
inductive Counted where
  | length | entries
  deriving DecidableEq, Repr

/-- What is wrong at the position of a property. -/
inductive PropertyViolation where
  | wrongType (expected : DataType)
  | required
  | mustNotBeEmpty
  | unsupported
  | modified
  | patternMismatch (pattern : String)
  | mustEqual (expected : Json)
  | notPredefined (allowed : List Json)
  | outOfRange (limit : Limit) (bound : Json)
  | tooSmall (counted : Counted) (minimum : Nat)
  | tooLarge (counted : Counted) (maximum : Nat)
  | emptyKey
  | keyPatternMismatch (key : String) (pattern : String)
  | unsupportedExtension (supported : List String)
  | unsupportedContentType (supported : List String)
  | attachmentTooLarge (maximum : Nat)
  | custom (message : String)

/-- Members of a list, as messages name them. -/
def joined (members : List String) : String :=
  String.intercalate "," members

/-- The wording of a violation. -/
def PropertyViolation.text : PropertyViolation → String
  | .wrongType t => t.demand
  | .required => "is required"
  | .mustNotBeEmpty => "must not be empty"
  | .unsupported => "is not supported"
  | .modified => "may not be modified"
  | .patternMismatch p => "must conform to expected format /" ++ p ++ "/"
  | .mustEqual v => "must equal " ++ v.compact
  | .notPredefined vs =>
    "must be one of the predefined values: " ++ joined (vs.map Json.plainText)
  | .outOfRange limit bound => limit.demand ++ bound.plainText
  | .tooSmall .length n => "must not be shorter than " ++ toString n
  | .tooLarge .length n => "must not be longer than " ++ toString n
  | .tooSmall .entries n => "must not have fewer than " ++ toString n ++ " entries"
  | .tooLarge .entries n => "must not have more than " ++ toString n ++ " entries"
  | .emptyKey => "must not contain an empty key"
  | .keyPatternMismatch key p =>
    "key \"" ++ key ++ "\" must conform to expected format /" ++ p ++ "/"
  | .unsupportedExtension supported =>
    "must have a supported file extension (" ++ joined supported ++ ")"
  | .unsupportedContentType supported =>
    "must have a supported content type (" ++ joined supported ++ ")"
  | .attachmentTooLarge n => "must not be larger than " ++ toString n ++ " bytes"
  | .custom message => message

/-! ## Violations of documents -/

/-- What is wrong with one attachment. -/
inductive AttachmentViolation where
  | exceedsSize (maximum : Nat)
  | extension (supported : List String)
  | contentType (supported : List String)
  | filename (pattern : String)
  | unreferenced
  deriving DecidableEq, Repr

/-- The wording of a violation, after the attachment has been named. -/
def AttachmentViolation.text : AttachmentViolation → String
  | .exceedsSize n => "must not exceed " ++ toString n ++ " bytes"
  | .extension supported =>
    "must have a supported file extension (" ++ joined supported ++ ")"
  | .contentType supported =>
    "must have a supported content type (" ++ joined supported ++ ")"
  | .filename p => "must conform to expected pattern /" ++ p ++ "/"
  | .unreferenced => "must have a corresponding attachment reference property"

/-- What is wrong with a document as a whole. -/
inductive DocumentViolation where
  | cannotReplace
  | cannotDelete
  | cannotReplaceOrDelete
  | idMismatch (pattern : String)
  | attachmentsNotAllowed
  | tooManyAttachments (maximum : Nat)
  | attachment (filename : String) (violation : AttachmentViolation)
  | attachmentsExceedTotalSize (maximum : Nat)
  deriving DecidableEq, Repr

/-- The wording of a violation. -/
def DocumentViolation.text : DocumentViolation → String
  | .cannotReplace => "documents of this type cannot be replaced"
  | .cannotDelete => "documents of this type cannot be deleted"
  | .cannotReplaceOrDelete => "documents of this type cannot be replaced or deleted"
  | .idMismatch p => "document id must conform to expected format /" ++ p ++ "/"
  | .attachmentsNotAllowed => "document type does not support attachments"
  | .tooManyAttachments n => "the total number of attachments must not exceed " ++ toString n
  | .attachment filename v => "attachment \"" ++ filename ++ "\" " ++ v.text
  | .attachmentsExceedTotalSize n =>
    "the total size of all attachments must not exceed " ++ toString n ++ " bytes"

/-! ## Reported violations -/

/-- A violation with the position that it concerns, if it concerns one. -/
inductive Violation where
  | property (path : Path) (violation : PropertyViolation)
  | document (violation : DocumentViolation)

/-- The position of a violation, as text. -/
def Violation.pathText? : Violation → Option String
  | .property path _ => some path.text
  | .document _ => none

/-- The message of a violation. A custom validation words its message alone. -/
def Violation.message : Violation → String
  | .property _ (.custom message) => message
  | .property path v => "property \"" ++ path.text ++ "\" " ++ v.text
  | .document v => v.text

/-- A violation that is there if a limit is set and not kept. -/
def breach {α ν : Type} (limit : Option α) (kept : α → Bool) (violation : α → ν) : List ν :=
  match limit with
  | none => []
  | some a => if kept a then [] else [violation a]

/-- The messages of several violations as one. -/
def Violation.summary (vs : List Violation) : String :=
  String.intercalate "; " (vs.map message)

end WritePolicy
