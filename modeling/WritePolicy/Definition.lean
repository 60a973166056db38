import WritePolicy.Access
import WritePolicy.Attachments
import WritePolicy.Walk.Basic

/-! # Definitions of document types

    A definition says which documents are of a type, who may write them and
    what they have to look like. Definitions are kept in order under the names
    of their types: the first whose filter accepts a document pair governs it.
-/

namespace WritePolicy

/-! ## Which definition governs a write -/

/-- The type that a document names in its `type` property. -/
def Document.typeName? (d : Document) : Option String :=
  (d.get? "type").bind Json.asString?

/-- The type that a document pair names: that of the prior document for a
    deletion, that on which both agree for a replacement, else that of the new
    document. -/
def governingType? (newDoc : Document) (oldDoc : Option Document) : Option String :=
  match oldDoc with
  | none => newDoc.typeName?
  | some old =>
    if newDoc.isDeleted || newDoc.typeName? == old.typeName? then old.typeName? else none

/-- The identifier that a document pair names. -/
def governingId? (newDoc : Document) (oldDoc : Option Document) : Option String :=
  newDoc.id?.or (oldDoc.bind Document.id?)

/-- How the documents of a type are recognized. -/
inductive TypeFilter where
  /-- by their `type` property -/
  | simple
  /-- by their identifier -/
  | idPattern (pattern : Pattern)
  /-- by a predicate on the document pair and the name of the type -/
  | custom (accepts : Document → Option Document → String → Bool)

/-- The filter of a type accepts a document pair. -/
def TypeFilter.accepts (filter : TypeFilter) (typeId : String) (newDoc : Document)
    (oldDoc : Option Document) : Bool :=
  match filter with
  | simple => governingType? newDoc oldDoc == some typeId
  | idPattern p => (governingId? newDoc oldDoc).any p.isMatch
  | custom f => f newDoc oldDoc typeId

/-! ## Actions -/

/-- How far a write has come when an action is called. -/
inductive Stage where
  | identified | authorized | validated
  deriving DecidableEq, Repr

/-- The name of a stage. -/
def Stage.name : Stage → String
  | identified => "identified"
  | authorized => "authorized"
  | validated => "validated"

/-- What an action is told. The grants are known from authorization on. -/
structure ActionCall where
  stage : Stage
  docType : String
  grant : Option AccessGrant
  situation : Situation

/-- An action refuses a write with a message, or lets it pass. -/
abbrev Action := ActionCall → Except String Unit

/-- The actions of a definition. -/
structure Actions where
  onIdentified : Option Action := none
  onAuthorized : Option Action := none
  onValidated : Option Action := none

/-- The action for a stage. -/
def Actions.at? (a : Actions) : Stage → Option Action
  | .identified => a.onIdentified
  | .authorized => a.onAuthorized
  | .validated => a.onValidated

/-! ## Definitions -/

/-- The definition of a document type. A definition that is immutable forbids
    both replacement and deletion. -/
structure Definition where
  typeFilter : TypeFilter := .simple
  properties : Properties := []
  authorization : Authorization := {}
  attachments : AttachmentRules := {}
  cannotReplace : Slot Bool := .literal false
  cannotDelete : Slot Bool := .literal false
  immutable : Slot Bool := .literal false
  /-- asked of the identifiers of new documents -/
  idPattern : Option (Slot Pattern) := none
  allowUnknownProperties : Slot Bool := .literal false
  actions : Actions := {}

/-- Definitions by the names of their types, in order. -/
abbrev Definitions := Entries Definition

/-- The definition that governs a document pair, with the name of its type. -/
def Definitions.identify (definitions : Definitions) (newDoc : Document)
    (oldDoc : Option Document) : Option (String × Definition) :=
  definitions.find? fun d => d.2.typeFilter.accepts d.1 newDoc oldDoc

/-! ## Violations of a definition -/

namespace Definition

/-- A new document must have an identifier of the asked form. -/
def idViolations (d : Definition) (op : Operation) (s : Situation) :
    Except Misconfiguration (List DocumentViolation) := do
  match op with
  | .add =>
    let pattern ← Slot.valueOf? d.idPattern s
    return breach pattern (fun p => s.newDoc.id?.any p.isMatch)
      (fun p => .idMismatch p.source)
  | _ => return []

/-- A document that exists may be protected against replacement or deletion. -/
def revisionViolations (d : Definition) (op : Operation) (s : Situation) :
    Except Misconfiguration (List DocumentViolation) := do
  if !s.hasOld then return []
  if ← d.immutable.value s then return [.cannotReplaceOrDelete]
  match op with
  | .remove => return if ← d.cannotDelete.value s then [.cannotDelete] else []
  | .replace => return if ← d.cannotReplace.value s then [.cannotReplace] else []
  | .add => return []

/-- The walk over the new document. -/
def walk (d : Definition) (s : Situation) : Except Misconfiguration (Trace Unit) := do
  return Walk.document d.properties (← d.allowUnknownProperties.value s) s

/-- The properties and the attachments of a document that is not deleted. -/
def contentViolations (d : Definition) (s : Situation) :
    Except Misconfiguration (List Violation) := do
  let trace ← d.walk s
  trace.outcome
  let attachments ← d.attachments.violations trace.references s
  return trace.violations ++ attachments.map .document

/-- Everything that a write does wrong: the identifier, the protection of the
    prior document, then, unless the document is removed, its properties and its
    attachments. -/
def violations (d : Definition) (op : Operation) (s : Situation) :
    Except Misconfiguration (List Violation) := do
  let id ← d.idViolations op s
  let revision ← d.revisionViolations op s
  let content ← if op = .remove then pure [] else d.contentViolations s
  return id.map .document ++ revision.map .document ++ content

end Definition

end WritePolicy
