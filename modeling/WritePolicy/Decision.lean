import WritePolicy.Definition

/-! # Decisions on writes

    A write is decided in four stages: its type is identified, the writer is
    authorized, the document is validated, and the write is accepted. A
    definition may have actions between the stages. A deleted prior document
    counts as none, and a request without a new document as one that deletes.
    The calls of actions are logged in order, whatever the decision is.

    A write that no definition governs is rejected, except that a store may allow
    its administrators to delete such a document.
-/

namespace WritePolicy

/-! ## Requests -/

/-- An attempt to write. -/
structure Request where
  newDoc : Option Document := none
  oldDoc : Option Document := none
  context : WriteContext := {}

namespace Request

/-- A request to delete a document. -/
def deletion (oldDoc : Document) (context : WriteContext) : Request :=
  { newDoc := some .deletionMarker, oldDoc := some oldDoc, context }

/-- The new document, or the marker of a deletion. -/
def proposed (r : Request) : Document :=
  r.newDoc.getD .deletionMarker

/-- The prior document, if it is not deleted. -/
def prior (r : Request) : Option Document :=
  r.oldDoc.filter (!·.isDeleted)

/-- What computations see of the request. -/
def situation (r : Request) : Situation :=
  { newDoc := r.proposed, oldDoc := r.prior,
    principal := r.context.principal, database := r.context.database }

/-- What the request does to the stored document. -/
def operation (r : Request) : Operation :=
  .classify r.proposed r.prior

end Request

/-- Switches of a store. -/
structure Options where
  allowAdminUnknownTypeDeletion : Bool := false
  deriving DecidableEq, Repr

/-- The kinds of store that definitions are deployed into. -/
inductive Host where
  | syncGateway | couchDb
  deriving DecidableEq, Repr

namespace Host

/-- The name of a host. -/
def name : Host → String
  | syncGateway => "sync-gateway"
  | couchDb => "couch-db"

/-- The host of a name. -/
def ofName? (s : String) : Option Host :=
  [syncGateway, couchDb].find? fun h => h.name == s

/-- What is usual in a store: one with administrators of its own lets them
    delete what no definition governs. -/
def options : Host → Options
  | syncGateway => { allowAdminUnknownTypeDeletion := false }
  | couchDb => { allowAdminUnknownTypeDeletion := true }

end Host

/-! ## Outcomes -/

/-- An accepted write. Without a type, an administrator deleted a document that
    no definition governs. -/
structure Acceptance where
  docType : Option String
  operation : Operation
  requiredChannels : List String
  channels : List String
  deriving DecidableEq, Repr

/-- Why a write is rejected. -/
inductive Rejection where
  | unknownType
  | unauthorized (reason : DenialReason)
  | forbidden (reason : DenialReason)
  | invalid (docType : String) (violations : List Violation)
  | refused (docType : String) (message : String)
  | misconfigured (cause : Misconfiguration)

/-- What a store tells the writer that it rejects: to present an identity, or
    that the write is not for them. -/
inductive Signal where
  | unauthorized | forbidden
  deriving DecidableEq, Repr

/-- The name of a signal. -/
def Signal.name : Signal → String
  | unauthorized => "unauthorized"
  | forbidden => "forbidden"

namespace Rejection

/-- The signal of a rejection. -/
def signal : Rejection → Signal
  | unauthorized _ => .unauthorized
  | _ => .forbidden

/-- The wording of a rejection. -/
def message : Rejection → String
  | unknownType => "Unknown document type"
  | unauthorized reason | forbidden reason => reason.message
  | invalid docType vs => "Invalid " ++ docType ++ " document: " ++ Violation.summary vs
  | refused _ message => message
  | misconfigured cause => "document definition error: " ++ cause.message

end Rejection

/-! ## Deciding -/

/-- A decision in the making: the calls of actions so far, and how it ends. -/
abbrev Decision := Logged ActionCall Rejection

namespace Decision

/-- The action of a stage, if there is one. -/
def act (actions : Actions) (call : ActionCall) : Decision Unit :=
  match actions.at? call.stage with
  | none => pure ()
  | some action => ⟨[call], (action call).mapError (.refused call.docType)⟩

/-- The outcome of a computation on the definition. -/
def ofDefinition {α : Type} (outcome : Except Misconfiguration α) : Decision α :=
  Logged.ofExcept (outcome.mapError .misconfigured)

/-- The grants must admit the writer. Who has no identity is asked for one. -/
def authorize (grant : AccessGrant) (p : Principal) : Decision Unit :=
  match grant.check p with
  | none => pure ()
  | some reason =>
    Logged.fail (if p.isAnonymous then .unauthorized reason else .forbidden reason)

/-- A write that no definition governs. -/
def ungoverned (options : Options) (r : Request) : Decision Acceptance :=
  if r.proposed.isDeleted && r.context.principal.isAdmin && options.allowAdminUnknownTypeDeletion
  then pure { docType := none, operation := .remove, requiredChannels := [], channels := [] }
  else Logged.fail .unknownType

/-- A write that a definition governs. -/
def governed (docType : String) (d : Definition) (r : Request) : Decision Acceptance := do
  let s := r.situation
  act d.actions ⟨.identified, docType, none, s⟩
  let grant ← ofDefinition (d.authorization.grant r.operation s)
  authorize grant s.principal
  act d.actions ⟨.authorized, docType, some grant, s⟩
  let violations ← ofDefinition (d.violations r.operation s)
  if !violations.isEmpty then Logged.fail (.invalid docType violations)
  act d.actions ⟨.validated, docType, some grant, s⟩
  return {
    docType := some docType
    operation := grant.operation
    requiredChannels := grant.channels.getD []
    channels := grant.assignedChannels }

end Decision

/-- The decision on a request. -/
def Definitions.decide (definitions : Definitions) (options : Options) (r : Request) :
    Decision Acceptance :=
  match definitions.identify r.proposed r.prior with
  | none => Decision.ungoverned options r
  | some (docType, d) => Decision.governed docType d r

end WritePolicy
