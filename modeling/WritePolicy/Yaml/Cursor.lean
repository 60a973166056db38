/-! # Positions in YAML text

    Structure in YAML is a matter of lines and columns, so a reader carries
    both. Carriage returns and next-line characters are first made line feeds,
    and characters that may not occur are refused. The separators of lines and
    paragraphs are line breaks, too, but stay what they are.
-/

namespace WritePolicy.Yaml

/-- A position in the text: what follows, and where that is. -/
structure Cursor where
  rest : List Char
  line : Nat := 0
  column : Nat := 0
  deriving Repr

/-! ## Characters -/

/-- A space or a tab. -/
def isBlank (c : Char) : Bool :=
  c == ' ' || c == '\t'

/-- A line break. -/
def isBreak (c : Char) : Bool :=
  c == '\n' || c == '\u2028' || c == '\u2029'

/-- The text ends here, or a blank or a line break follows. -/
def atGap : List Char → Bool
  | [] => true
  | c :: _ => isBlank c || isBreak c

/-- The character may occur in the text. -/
def isPermitted (c : Char) : Bool :=
  let n := c.toNat
  n == 0x09 || n == 0x0A || n == 0x0D || (0x20 ≤ n && n ≤ 0x7E) || n == 0x85
    || (0xA0 ≤ n && n != 0xFFFE && n != 0xFFFF)

/-- Carriage returns, alone or before a line feed, and next lines are made line
    feeds. -/
def unifyBreaks : List Char → List Char
  | '\r' :: '\n' :: rest => '\n' :: unifyBreaks rest
  | '\r' :: rest => '\n' :: unifyBreaks rest
  | '\u0085' :: rest => '\n' :: unifyBreaks rest
  | c :: rest => c :: unifyBreaks rest
  | [] => []

namespace Cursor

/-- The start of a text, after a byte order mark. -/
def ofText? (text : String) : Option Cursor :=
  let cs := match text.toList with
    | '\uFEFF' :: cs => cs
    | cs => cs
  if cs.all isPermitted then some { rest := unifyBreaks cs } else none

/-! ## Moving -/

/-- The cursor behind the next characters, none of which is a line break. -/
def advance (c : Cursor) (count : Nat) : Cursor :=
  { c with rest := c.rest.drop count, column := c.column + count }

/-- A line of three such characters begins or ends a document. -/
def atMarker (c : Cursor) (mark : Char) : Bool :=
  c.column == 0 && match c.rest with
    | x :: y :: z :: rest => x == mark && y == mark && z == mark && atGap rest
    | _ => false

/-- The document ends here. -/
def atEnd (c : Cursor) : Bool :=
  c.rest.isEmpty || c.atMarker '-' || c.atMarker '.'

/-- The loop of `skip`. -/
def skipFrom (flow : Bool) (fresh comment : Bool) (line column : Nat) :
    List Char → Cursor × Bool
  | [] => (⟨[], line, column⟩, fresh)
  | x :: rest =>
    if isBreak x then skipFrom flow (fresh || !flow) false (line + 1) 0 rest
    else if comment then skipFrom flow fresh true line (column + 1) rest
    else if x == '#' then skipFrom flow fresh true line (column + 1) rest
    else if x == ' ' || (x == '\t' && (flow || !fresh)) then
      skipFrom flow fresh false line (column + 1) rest
    else (⟨x :: rest, line, column⟩, fresh)

/-- The next position that is neither blank nor in a comment, and whether a key
    may begin there: that is so at the start of a line, where tabs are not
    blank, and wherever it was so before. Inside brackets lines make no
    difference. -/
def skip (c : Cursor) (flow fresh : Bool) : Cursor × Bool :=
  skipFrom flow fresh false c.line c.column c.rest

/-- The start of the next line, or the end of the text: up to there only blanks and a
    comment may follow. -/
def nextLine? (c : Cursor) : Option Cursor :=
  let rest := c.rest.dropWhile isBlank
  let rest := if rest.head? == some '#' then rest.dropWhile (!isBreak ·) else rest
  match rest with
  | [] => some { c with rest := [] }
  | b :: rest => if isBreak b then some ⟨rest, c.line + 1, 0⟩ else none

/-- The next characters of a kind, and the cursor behind them. -/
def span (c : Cursor) (p : Char → Bool) : List Char × Cursor :=
  let cs := c.rest.takeWhile p
  (cs, c.advance cs.length)

end Cursor

end WritePolicy.Yaml
