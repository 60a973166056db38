import WritePolicy.Time.Checked

/-! # Errors of temporal texts

    A text that does not have the shape of its form is malformed; a text that
    has it but names a day that does not exist is out of range.
-/

namespace WritePolicy

/-- The three temporal forms. -/
inductive TemporalForm where
  | date | dateTime | timeZone
  deriving DecidableEq, Repr

/-- How a form is called in messages. -/
def TemporalForm.name : TemporalForm → String
  | .date => "date"
  | .dateTime => "date/time"
  | .timeZone => "time zone"

/-- Why a text is not a value of its form. -/
inductive TemporalError where
  | malformed (text : String) (expected : TemporalForm)
  | noSuchDay (text : String)
  deriving DecidableEq, Repr

/-- The wording of an error. -/
def TemporalError.message : TemporalError → String
  | .malformed text expected =>
    "\"" ++ text ++ "\" is not a valid ISO 8601 " ++ expected.name
  | .noSuchDay text => "\"" ++ text ++ "\" is out of range: no such calendar day"

/-- Why a reader refuses its bytes. -/
inductive Refusal where
  | malformed
  | noSuchDay
  deriving DecidableEq, Repr

/-- A reader of bytes: it may fault, refuse the text, or produce a value. -/
abbrev Reading (α : Type) := ExceptT Refusal (Except Fault) α

namespace Reading

/-- A computation that may fault, as part of a reader. -/
def checked {α : Type} (c : Checked α) : Reading α :=
  ExceptT.lift c

/-- A missing part makes the text malformed. -/
def required {α : Type} : Option α → Reading α
  | some a => pure a
  | none => throw .malformed

/-- The outcome of a reader as an answer about a text. A fault counts as
    malformed; the readers of this library never fault. -/
def settle {α : Type} (text : String) (form : TemporalForm) (r : Reading α) :
    Except TemporalError α :=
  match r.run with
  | .ok (.ok a) => .ok a
  | .ok (.error .noSuchDay) => .error (.noSuchDay text)
  | .ok (.error .malformed) => .error (.malformed text form)
  | .error _ => .error (.malformed text form)

end Reading

end WritePolicy
