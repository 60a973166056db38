import WritePolicy.Decision

/-! # Reports

    What is told about a decision, as JSON, and about definitions, as text.
-/

namespace WritePolicy

/-! ## Decisions -/

/-- A list of strings as JSON. -/
def Json.ofStrings (members : List String) : Json :=
  .array (members.map .string)

/-- The fields that describe an accepted write. -/
def Acceptance.fields (a : Acceptance) : List (String × Json) :=
  [("docType", (a.docType.map Json.string).getD .null),
    ("operation", .string a.operation.name),
    ("requiredChannels", .ofStrings a.requiredChannels),
    ("channels", .ofStrings a.channels)]

/-- The violations that a rejection is for. -/
def Rejection.violations : Rejection → List Violation
  | invalid _ vs => vs
  | _ => []

/-- The fields that describe a rejected write; violations are listed if there
    are any. -/
def Rejection.fields (r : Rejection) : List (String × Json) :=
  [("signal", .string r.signal.name), ("message", .string r.message)]
    ++ if r.violations.isEmpty then []
      else [("errors", .ofStrings (r.violations.map Violation.message))]

/-- The report on a decision. -/
def report : Except Rejection Acceptance → Json
  | .ok a => .object (("accepted", .bool true) :: a.fields)
  | .error r => .object (("accepted", .bool false) :: r.fields)

/-! ## Definitions -/

/-- What a type filter goes by. -/
def TypeFilter.summary : TypeFilter → String
  | simple => "type property"
  | idPattern p => "id " ++ p.text
  | custom _ => "custom"

/-- A count with its noun. -/
def propertyCount (n : Nat) : String :=
  toString n ++ if n = 1 then " property" else " properties"

/-- One line for each type: its name, the number of its properties and its
    filter. -/
def Definitions.summary (definitions : Definitions) : List String :=
  definitions.map fun (typeId, d) =>
    typeId ++ ": " ++ propertyCount d.properties.length ++ " (matched by "
      ++ d.typeFilter.summary ++ ")"

end WritePolicy
