import WritePolicy.Pattern.Reader
import WritePolicy.Pattern.Search

/-! # Patterns

    A pattern is a regular expression that a whole value must match. To that
    end the source is put into a group between the start and the end of the
    text, as text, and the result is searched for.
-/

namespace WritePolicy

/-- A source with the expression that is searched for. -/
structure Pattern where
  source : String
  regex : Regex

namespace Pattern

/-- The source between the anchors. -/
def anchored (source : String) : List Char :=
  "^(?:".toList ++ source.toList ++ ")$".toList

/-- The pattern of a source; none if the anchored source is not well formed. -/
def ofSource? (source : String) : Option Pattern :=
  (regex? (anchored source)).map fun r => ⟨source, r⟩

/-- The expression is found in the text. -/
def isMatch (p : Pattern) (text : String) : Bool :=
  p.regex.isMatch text

/-- The source between slashes. -/
def text (p : Pattern) : String :=
  "/" ++ p.source ++ "/"

end Pattern

end WritePolicy
