import WritePolicy.DataType
import WritePolicy.Document
import WritePolicy.Principal

/-! # Slots

    Every constraint of a definition stands in a slot: either a literal that
    was fixed with the definition, or a computation over the write at hand. A
    computation is run each time the slot is read. That it fails tells of a
    broken definition and never of bad data.
-/

namespace WritePolicy

/-- What a computation may look at: the document pair, the writer, and for the
    slots of a property the value at its position and the value that the prior
    document had there. -/
structure Situation where
  newDoc : Document
  oldDoc : Option Document
  principal : Principal
  database : Option String
  value : Option Json := none
  oldValue : Option Json := none

namespace Situation

/-- The same write, seen at a position. -/
def withItem (s : Situation) (value oldValue : Option Json) : Situation :=
  { s with value, oldValue }

/-- There is a prior document. -/
def hasOld (s : Situation) : Bool :=
  s.oldDoc.isSome

end Situation

/-- A computation that did not produce a value. -/
structure ComputationError where
  message : String
  deriving DecidableEq, Repr

/-- A literal, or a computation over the write. -/
inductive Slot (α : Type) where
  | literal (value : α)
  | computed (compute : Situation → Except ComputationError α)

namespace Slot

/-- The value of the slot in a situation. -/
def resolve {α : Type} (slot : Slot α) (s : Situation) : Except ComputationError α :=
  match slot with
  | literal a => .ok a
  | computed f => f s

/-- The value of a literal. -/
def literal? {α : Type} : Slot α → Option α
  | literal a => some a
  | computed _ => none

end Slot

/-- What is wrong with a definition that was found out during a write. -/
inductive Misconfiguration where
  | computationFailed (error : ComputationError)
  | invalidBound (type : OrdinalType) (bound : Json)

/-- That a value cannot bound values of a type. -/
def invalidBoundText (type : OrdinalType) (bound : Json) : String :=
  bound.compact ++ " is not a valid " ++ (DataType.ordinal type).name ++ " bound"

/-- The wording of a misconfiguration. -/
def Misconfiguration.message : Misconfiguration → String
  | .computationFailed e => "constraint computation failed: " ++ e.message
  | .invalidBound type bound => invalidBoundText type bound

/-- The value of a slot, where a failure means a broken definition. -/
def Slot.value {α : Type} (slot : Slot α) (s : Situation) : Except Misconfiguration α :=
  (slot.resolve s).mapError .computationFailed

/-- The value of a slot that may be unset. -/
def Slot.valueOf? {α : Type} (slot : Option (Slot α)) (s : Situation) :
    Except Misconfiguration (Option α) :=
  match slot with
  | none => .ok none
  | some slot => do return some (← slot.value s)

end WritePolicy
