import WritePolicy.Yaml.Token

/-! # Scanning YAML

    The scanner makes tokens of a text and finds out where blocks begin and end. A
    block collection begins with a dash or a key that stands in a greater column than
    those around it, and ends before the first token in a smaller one.

    That something is a key is known only by the colon after it. So the scanner
    remembers where a key may have begun, on every level of brackets, and puts the
    token for it there once the colon comes. Such a key is a node on one line, not
    longer than `keyLimit`. Outside brackets a key may begin after a line break or an
    indicator, but not after another node; and where a key of the innermost block
    would have to begin, nothing else may.
-/

namespace WritePolicy.Yaml

/-! ## The scanner -/

/-- The longest text from the start of a key to its colon. -/
def keyLimit : Nat := 1024

/-- A place where a key may have begun. -/
structure PossibleKey where
  /-- how many tokens are before it -/
  index : Nat
  line : Nat
  column : Nat
  /-- nothing else may have begun there -/
  required : Bool

/-- The colon of the key cannot come any more. -/
def PossibleKey.isStale (k : PossibleKey) (c : Cursor) : Bool :=
  k.line < c.line || k.column + keyLimit < c.column

/-- The scanner: the position, the tokens it has completed, last first, and the columns of
    the blocks that are open, innermost first. On every level of brackets, and outside
    of them, a key may have begun; `key` is that of the innermost level. -/
structure Scanner where
  cursor : Cursor
  tokens : List Token := []
  columns : List Nat := []
  keyAllowed : Bool := true
  key : Option PossibleKey := none
  outerKeys : List (Option PossibleKey) := []

namespace Scanner

/-- The scanner is inside brackets. -/
def inFlow (s : Scanner) : Bool :=
  !s.outerKeys.isEmpty

/-- The column that lines of the innermost block must reach. -/
def least (s : Scanner) : Nat :=
  match s.columns with
  | [] => 0
  | column :: _ => column + 1

/-- The scanner with a further token, which ends at a position. -/
def emit (s : Scanner) (t : Token) (next : Cursor) : Scanner :=
  { s with tokens := t :: s.tokens, cursor := next }

/-! ### Keys -/

/-- No key began on this level. -/
def dropKey? (s : Scanner) : Option Scanner :=
  if s.key.any (·.required) then none else some { s with key := none }

/-- A key may begin here. -/
def noteKey? (s : Scanner) : Option Scanner :=
  if s.keyAllowed then do
    let s ← s.dropKey?
    return { s with key := some {
      index := s.tokens.length
      line := s.cursor.line
      column := s.cursor.column
      required := !s.inFlow && s.columns.head? == some s.cursor.column } }
  else some s

/-- Keys whose colon cannot come any more are forgotten. -/
def dropStaleKeys? (s : Scanner) : Option Scanner :=
  if (s.key :: s.outerKeys).any (·.any fun k => k.required && k.isStale s.cursor) then none
  else
    let fresh (key : Option PossibleKey) := key.filter (!·.isStale s.cursor)
    some { s with key := fresh s.key, outerKeys := s.outerKeys.map fresh }

/-! ### Blocks -/

/-- A token is put behind so many others. -/
def insert (s : Scanner) (t : Token) (index : Nat) : Scanner :=
  { s with tokens := s.tokens.insertIdx (s.tokens.length - index) t }

/-- A block collection begins in a column, behind so many tokens, unless the innermost
    one stands there. -/
def openBlock (s : Scanner) (t : Token) (column index : Nat) : Scanner :=
  if !s.inFlow && s.columns.head?.all (· < column) then
    { s.insert t index with columns := column :: s.columns }
  else s

/-- The block collections of certain columns end. Brackets have to be closed before. -/
def closeBlocks (s : Scanner) (p : Nat → Bool) : Scanner :=
  if s.inFlow then s
  else
    let ended := s.columns.takeWhile p
    { s with
      tokens := List.replicate ended.length .blockEnd ++ s.tokens
      columns := s.columns.drop ended.length }

/-! ### Indicators -/

/-- The marks of documents take three characters. -/
def marker? (s : Scanner) (t : Token) : Option Scanner := do
  let s ← (s.closeBlocks fun _ => true).dropKey?
  return { s with keyAllowed := false }.emit t (s.cursor.advance 3)

/-- A percent sign at the start of a line. -/
def directive? (s : Scanner) : Option Scanner := do
  let s ← (s.closeBlocks fun _ => true).dropKey?
  let (d, next) ← Yaml.directive? (s.cursor.advance 1)
  return { s with keyAllowed := false }.emit (.directive d) next

/-- An opening bracket. -/
def openFlow? (s : Scanner) (t : Token) : Option Scanner := do
  let s ← s.noteKey?
  return { s with key := none, outerKeys := s.key :: s.outerKeys, keyAllowed := true }.emit t
    (s.cursor.advance 1)

/-- A closing bracket. -/
def closeFlow? (s : Scanner) (t : Token) : Option Scanner := do
  let s ← s.dropKey?
  let key := s.outerKeys.head?.join
  return { s with key, outerKeys := s.outerKeys.drop 1, keyAllowed := false }.emit t
    (s.cursor.advance 1)

/-- A comma. -/
def comma? (s : Scanner) : Option Scanner := do
  let s ← s.dropKey?
  return { s with keyAllowed := true }.emit .comma (s.cursor.advance 1)

/-- A dash or a question mark outside brackets may begin a block collection. -/
def openBlock? (s : Scanner) (t : Token) : Option Scanner :=
  if s.inFlow then some s
  else if s.keyAllowed then some (s.openBlock t s.cursor.column s.tokens.length)
  else none

/-- A dash. -/
def dash? (s : Scanner) : Option Scanner := do
  let s ← s.openBlock? .blockSequence
  let s ← s.dropKey?
  return { s with keyAllowed := true }.emit .dash (s.cursor.advance 1)

/-- A question mark, which a key follows. -/
def question? (s : Scanner) : Option Scanner := do
  let s ← s.openBlock? .blockMapping
  let s ← s.dropKey?
  return { s with keyAllowed := !s.inFlow }.emit .key (s.cursor.advance 1)

/-- A colon. It belongs to the key that may have begun last on this level, or to one
    after a question mark. -/
def colon? (s : Scanner) : Option Scanner :=
  match s.key with
  | some k =>
    let s := (s.insert .key k.index).openBlock .blockMapping k.column k.index
    some ({ s with key := none, keyAllowed := false }.emit .value (s.cursor.advance 1))
  | none => do
    let s ← s.openBlock? .blockMapping
    return { s with keyAllowed := !s.inFlow }.emit .value (s.cursor.advance 1)

/-! ### Nodes -/

/-- An anchor or an alias. -/
def name? (s : Scanner) (make : String → Token) : Option Scanner := do
  let s ← s.noteKey?
  let (name, next) ← anchorName? (s.cursor.advance 1)
  return { s with keyAllowed := false }.emit (make name) next

/-- A tag. A comma may follow it only inside brackets. -/
def tag? (s : Scanner) : Option Scanner := do
  let s ← s.noteKey?
  let (name, next) ← tagName? (s.cursor.advance 1)
  if atGap next.rest || (s.inFlow && next.rest.head? == some ',') then
    return { s with keyAllowed := false }.emit (.tag name) next
  else none

/-- A block scalar, outside brackets. -/
def blockScalar? (s : Scanner) (folded : Bool) : Option Scanner := do
  let s ← s.dropKey?
  if s.inFlow then none
  else do
    let r ← Yaml.blockScalar? folded s.least (s.cursor.advance 1)
    return { s with keyAllowed := true }.emit (.scalar r.scalar) r.next

/-- A plain or quoted scalar. -/
def flowScalar? (s : Scanner) : Option Scanner := do
  let s ← s.noteKey?
  let r ← Yaml.flowScalar? s.inFlow s.least s.cursor
  return { s with keyAllowed := r.fresh }.emit (.scalar r.scalar) r.next

/-! ### Runs -/

/-- The token at the cursor. -/
def step? (s : Scanner) : Option Scanner :=
  let indicator (rest : List Char) := s.inFlow || atGap rest
  if s.cursor.atMarker '-' then s.marker? .documentStart
  else if s.cursor.atMarker '.' then s.marker? .documentEnd
  else match s.cursor.rest with
    | [] => none
    | c :: rest =>
      if c == '%' && s.cursor.column == 0 then s.directive?
      else if c == '-' && atGap rest then s.dash?
      else if c == '?' && indicator rest then s.question?
      else if c == ':' && indicator rest then s.colon?
      else match c with
        | '[' => s.openFlow? .flowSequence
        | ']' => s.closeFlow? .flowSequenceEnd
        | '\x7b' => s.openFlow? .flowMapping
        | '\x7d' => s.closeFlow? .flowMappingEnd
        | ',' => s.comma?
        | '*' => s.name? .alias
        | '&' => s.name? .anchor
        | '!' => s.tag?
        | '|' => s.blockScalar? false
        | '>' => s.blockScalar? true
        | _ => s.flowScalar?

/-- The scanner at the next token, with the blocks closed that end before it. -/
def skip? (s : Scanner) : Option Scanner := do
  let (cursor, fresh) := s.cursor.skip s.inFlow s.keyAllowed
  let s ← { s with cursor, keyAllowed := fresh }.dropStaleKeys?
  return s.closeBlocks (cursor.column < ·)

/-- The tokens at the end of the text. -/
def finish? (s : Scanner) : Option (List Token) := do
  let s ← (s.closeBlocks fun _ => true).dropKey?
  return s.tokens.reverse

/-- All tokens. Every step takes a character, so the length of the text bounds the number
    of steps. -/
def run : Nat → Scanner → Option (List Token)
  | 0, _ => none
  | fuel + 1, s => do
    let s ← s.skip?
    if s.cursor.rest.isEmpty then s.finish? else run fuel (← s.step?)

end Scanner

/-- The tokens of a text. -/
def tokens? (text : String) : Option (List Token) := do
  let cursor ← Cursor.ofText? text
  Scanner.run (cursor.rest.length + 1) { cursor }

end WritePolicy.Yaml
