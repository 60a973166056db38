import WritePolicy.Yaml.Block

/-! # Tokens of YAML

    The parts of a text, and how those are read that are no scalars: the names of
    anchors and tags, and the directives before a document. Tags are read as they
    are written; escapes with percent signs are refused.
-/

namespace WritePolicy.Yaml

/-! ## Tokens -/

/-- The name of a tag: a handle that stands for how tags begin, and the rest. The
    handle of a whole tag is empty. -/
structure TagName where
  handle : String
  suffix : String
  deriving DecidableEq, Repr

/-- What a line before a document says. -/
inductive Directive where
  | version (major minor : Nat)
  | handle (handle start : String)
  deriving DecidableEq, Repr

/-- The parts of a text. Some have no characters of their own: a block begins and ends
    where the columns say so, and a key is marked by the colon after it. -/
inductive Token where
  | directive (d : Directive)
  | documentStart | documentEnd
  | blockSequence | blockMapping | blockEnd
  | flowSequence | flowSequenceEnd | flowMapping | flowMappingEnd
  | dash | comma | key | value
  | alias (name : String) | anchor (name : String) | tag (name : TagName)
  | scalar (s : Scalar)
  deriving DecidableEq, Repr

/-! ## Names -/

/-- A character of names and handles. -/
def isWordChar (c : Char) : Bool :=
  c.isAlphanum || c == '_' || c == '-'

/-- A character of tags, inside angle brackets or not. -/
def isTagChar (bracketed : Bool) (c : Char) : Bool :=
  isWordChar c || ";/?:@&=+$.!~*'()".toList.contains c
    || (bracketed && [',', '[', ']'].contains c)

/-- A name may end here. -/
def endsName : List Char → Bool
  | [] => true
  | c :: rest => atGap (c :: rest) || "?:,]\x7d%@\x60".toList.contains c

/-- The name of an anchor after its mark. -/
def anchorName? (c : Cursor) : Option (String × Cursor) :=
  let (name, c) := c.span isWordChar
  if name.isEmpty || !endsName c.rest then none else some (String.ofList name, c)

/-- A tag between angle brackets, after the first of them. -/
def bracketedTag? (c : Cursor) : Option (TagName × Cursor) :=
  let (name, c) := c.span (isTagChar true)
  if name.isEmpty || c.rest.head? != some '>' then none
  else some (⟨"", String.ofList name⟩, c.advance 1)

/-- The name of a tag after its mark. Between two marks stands the name of a handle; a
    mark alone is a whole tag. -/
def tagName? (c : Cursor) : Option (TagName × Cursor) :=
  if c.rest.head? == some '<' then bracketedTag? (c.advance 1)
  else
    let (word, afterWord) := c.span isWordChar
    if afterWord.rest.head? == some '!' then
      let (suffix, c) := (afterWord.advance 1).span (isTagChar false)
      if suffix.isEmpty then none
      else some (⟨"!" ++ String.ofList word ++ "!", String.ofList suffix⟩, c)
    else
      let (suffix, c) := c.span (isTagChar false)
      some (if suffix.isEmpty then ⟨"", "!"⟩ else ⟨"!", String.ofList suffix⟩, c)

/-! ## Directives -/

/-- A number of a version, of at most nine digits. -/
def versionNumber? (c : Cursor) : Option (Nat × Cursor) :=
  let (ds, c) := c.span Char.isDigit
  if ds.isEmpty || 9 < ds.length then none else some (digitsValue ds, c)

/-- What follows the name of a directive. -/
def directiveBody? (name : String) (c : Cursor) : Option (Directive × Cursor) :=
  let (_, c) := c.span isBlank
  match name with
  | "YAML" => do
    let (major, c) ← versionNumber? c
    if c.rest.head? != some '.' then none
    else do
      let (minor, c) ← versionNumber? (c.advance 1)
      return (.version major minor, c)
  | "TAG" =>
    if c.rest.head? != some '!' then none
    else
      let (word, c) := (c.advance 1).span isWordChar
      let (mark, c) := c.span (· == '!')
      let (blanks, c) := c.span isBlank
      let (start, c) := c.span (isTagChar true)
      if (mark.isEmpty && !word.isEmpty) || 1 < mark.length || blanks.isEmpty || start.isEmpty
          || !atGap c.rest then none
      else some (.handle (String.ofList ('!' :: word ++ mark)) (String.ofList start), c)
  | _ => none

/-- A directive after its mark, and the line after it. -/
def directive? (c : Cursor) : Option (Directive × Cursor) := do
  let (name, c) := c.span isWordChar
  if atGap c.rest then
    let (d, c) ← directiveBody? (String.ofList name) c
    return (d, ← c.nextLine?)
  else none

end WritePolicy.Yaml
