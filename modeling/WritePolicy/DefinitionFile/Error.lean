import WritePolicy.Slot

/-! # Errors in definition files

    Why a text does not define document types. Except for the syntax of the
    text, an error tells where it is: at a type, or at a property below one
    (`type.property`, with `[]` for the elements of an array and the values of a
    hashtable).
-/

namespace WritePolicy

/-- What is wrong with the form of a definition. -/
inductive Defect where
  /-- a field is missing, unknown or not of its type -/
  | undecodable
  | misplacedField (field : String) (type : DataType)
  | unknownTypeFilter (name : String)
  | missingValues
  | notAMapping
  deriving DecidableEq, Repr

/-- The wording of a defect. What made a record undecodable is not told. -/
def Defect.text : Defect → String
  | undecodable => "<reason>"
  | misplacedField field type => "`" ++ field ++ "` does not apply to type " ++ type.name
  | unknownTypeFilter name => "unknown type filter \"" ++ name ++ "\""
  | missingValues => "enum validator requires `predefinedValues`"
  | notAMapping => "expected a mapping of document type ids to definitions"

/-- Why definitions cannot be read. -/
inductive DefinitionError where
  | notJson
  | notYaml
  | invalidPattern (source : String)
  | invalidBound (type : OrdinalType) (bound : Json)
  | unknownType (name location : String)
  | malformed (location : String) (defect : Defect)

/-- The wording of an error, where there is one. Why a pattern is not a regular
    expression is not told. -/
def DefinitionError.message? : DefinitionError → Option String
  | notJson | notYaml => none
  | invalidPattern source => some ("invalid regular expression /" ++ source ++ "/: <reason>")
  | invalidBound type bound => some (invalidBoundText type bound)
  | unknownType name location =>
    some ("unknown validator type \"" ++ name ++ "\" at " ++ location)
  | malformed location defect =>
    some ("malformed document definition at " ++ location ++ ": " ++ defect.text)

end WritePolicy
