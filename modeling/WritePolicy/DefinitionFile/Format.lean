import WritePolicy.DefinitionFile.Basic
import WritePolicy.Yaml.Reader

/-! # Formats of definition files

    A definition file is written in JSON or in YAML. The name of the file tells
    which: only the extension `json`, in any case, stands for JSON.
-/

namespace WritePolicy

/-- The formats of definition files. -/
inductive Format where
  | yaml | json
  deriving DecidableEq, Repr

/-- The extension of the file at a path: what follows the last dot of its name,
    unless the name begins with that dot. -/
def pathExtension? (path : String) : Option String :=
  let name := path.toList.reverse.takeWhile (· != '/')
  match name.dropWhile (· != '.') with
  | _ :: _ :: _ => some (String.ofList (name.takeWhile (· != '.')).reverse)
  | _ => none

/-- The format of the file at a path. -/
def Format.ofPath (path : String) : Format :=
  if (pathExtension? path).any fun e => e.map Char.toLower == "json" then .json else .yaml

/-- The definitions that a text describes. -/
def Definitions.parse (format : Format) (text : String) : Except DefinitionError Definitions :=
  match format with
  | .json => Definitions.ofJsonText text
  | .yaml =>
    match Yaml.parse? text with
    | none => .error .notYaml
    | some v => Definitions.ofJson v

end WritePolicy
