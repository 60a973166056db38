import WritePolicy.Logged
import WritePolicy.Slot
import WritePolicy.Violation

/-! # Traces

    A walk over a document leaves a trace: violations, references to
    attachments and runs of computations, in the order in which they happened,
    and at the end the failure that stopped it, if there was one. What is
    reported is read off the trace.
-/

namespace WritePolicy

/-- The constraints whose slots a walk reads. -/
inductive Constraint where
  | customValidation
  | immutable
  | immutableWhenSet
  | required
  | mustNotBeEmpty
  | mustEqual
  | pattern
  | minimumSize
  | maximumSize
  | range (limit : Limit)
  | predefinedValues
  | allowUnknownProperties
  | keyMustNotBeEmpty
  | keyPattern
  | supportedExtensions
  | supportedContentTypes
  | maximumAttachmentSize
  deriving DecidableEq, Repr

/-- Something that happened during a walk. -/
inductive Event where
  /-- a violation was found -/
  | violation (path : Path) (violation : PropertyViolation)
  /-- a property names an attachment -/
  | reference (path : Path) (filename : String)
  /-- the computation of a constraint at a position was run in a situation -/
  | computation (path : Path) (constraint : Constraint) (situation : Situation)

/-- A walk: what happened, and how it ended. -/
abbrev Trace := Logged Event Misconfiguration

namespace Trace

variable {α : Type}

/-! ## Steps of a walk -/

/-- A violation at a position. -/
def violation (path : Path) (v : PropertyViolation) : Trace Unit :=
  Logged.tell (.violation path v)

/-- A violation at a position, under a condition. -/
def violationIf (condition : Bool) (path : Path) (v : PropertyViolation) : Trace Unit :=
  if condition then violation path v else pure ()

/-- A property names an attachment. -/
def reference (path : Path) (filename : String) : Trace Unit :=
  Logged.tell (.reference path filename)

/-- The value of a slot; only computations leave an event. -/
def read (path : Path) (constraint : Constraint) (s : Situation) (slot : Slot α) : Trace α :=
  match slot with
  | .literal a => pure a
  | .computed f =>
    ⟨[.computation path constraint s], (f s).mapError .computationFailed⟩

/-- The value of a slot that may be unset goes into a check. -/
def readThen (path : Path) (constraint : Constraint) (s : Situation) (slot : Option (Slot α))
    (check : α → Trace Unit) : Trace Unit :=
  match slot with
  | none => pure ()
  | some slot => do check (← read path constraint s slot)

/-! ## Reports -/

/-- The violations, in order. -/
def violations (t : Trace α) : List Violation :=
  t.log.filterMap fun
    | .violation path v => some (.property path v)
    | _ => none

/-- The names of referenced attachments. -/
def references (t : Trace α) : StringSet :=
  StringSet.ofList <| t.log.filterMap fun
    | .reference _ filename => some filename
    | _ => none

/-- The computations that were run. -/
def computations (t : Trace α) : List (Path × Constraint × Situation) :=
  t.log.filterMap fun
    | .computation path constraint s => some (path, constraint, s)
    | _ => none

end Trace

end WritePolicy
