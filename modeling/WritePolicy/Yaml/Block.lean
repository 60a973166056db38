import WritePolicy.Yaml.Text

/-! # Reading block scalars

    A block scalar is what stands below its header, as far as the lines are
    indented. The header says whether the lines are kept or folded, what becomes
    of the line breaks at the end, and perhaps how far the lines are indented; else
    the lines before the first that is not empty tell that.

    Folding makes a space of the line break between two lines that begin with
    other characters than blanks; if empty lines are between them, only the breaks
    of these are kept.
-/

namespace WritePolicy.Yaml

/-! ## Headers -/

/-- What becomes of the line breaks at the end: they are dropped, the first is kept,
    or all are. -/
inductive Chomping where
  | strip | clip | keep

/-- What the header of a block scalar says. -/
structure BlockHeader where
  folded : Bool
  chomping : Chomping
  indentation : Option Nat

/-- The mark of a chomping, and what follows. -/
def chomping? : List Char → Option Chomping × List Char
  | '-' :: rest => (some .strip, rest)
  | '+' :: rest => (some .keep, rest)
  | cs => (none, cs)

/-- The digit of an indentation, and what follows. -/
def indentation? : List Char → Option Nat × List Char
  | c :: rest => if c.isDigit then (some (c.toNat - '0'.toNat), rest) else (none, c :: rest)
  | [] => (none, [])

/-- The header after its first character. The two marks may come in either order; no
    indentation is zero. -/
def blockHeader? (folded : Bool) (cs : List Char) : Option (BlockHeader × List Char) :=
  let (before, cs) := chomping? cs
  let (indentation, cs) := indentation? cs
  let (after, cs) := if before.isNone then chomping? cs else (none, cs)
  if indentation == some 0 then none
  else some (⟨folded, (before.orElse fun _ => after).getD .clip, indentation⟩, cs)

/-! ## Lines -/

/-- What was found above the first line that is not empty: line breaks, last first,
    the greatest column that was reached, and the position of the line. -/
structure Lead where
  breaks : List Char
  deepest : Nat
  next : Cursor

/-- The lines that are empty but for spaces, after those that were read. -/
def leadFrom (deepest : Nat) (breaks : List Char) (line column : Nat) : List Char → Option Lead
  | [] => some ⟨breaks, max deepest column, ⟨[], line, column⟩⟩
  | c :: rest =>
    if c == ' ' then leadFrom deepest breaks line (column + 1) rest
    else if c == '\t' then none
    else if isBreak c then leadFrom (max deepest column) (c :: breaks) (line + 1) 0 rest
    else some ⟨breaks, max deepest column, ⟨c :: rest, line, column⟩⟩

/-- What lies behind the lines that were read: the break of the last, those of empty
    lines after it, last first, and whether that line begins with a blank. -/
structure Trail where
  first : List Char := []
  more : List Char := []
  indented : Bool := false

namespace Trail

/-- What stands for the trail before a line that begins with a character, last
    first. -/
def text (t : Trail) (folded : Bool) (c : Char) : List Char :=
  if folded && t.first == ['\n'] && !t.indented && !isBlank c then
    if t.more.isEmpty then [' '] else t.more
  else t.more ++ t.first

/-- What is left of the trail at the end, last first. -/
def chomp (t : Trail) : Chomping → List Char
  | .strip => []
  | .clip => t.first
  | .keep => t.more ++ t.first

end Trail

/-- The lines of a block scalar from a column on, after what was read; the position is
    within a line or in front of it. -/
def linesFrom (h : BlockHeader) (least : Nat) (read : List Char) (trail : Trail) (within : Bool)
    (line column : Nat) : List Char → Option ReadScalar
  | [] => some ⟨⟨String.ofList (trail.chomp h.chomping ++ read).reverse, false⟩,
      ⟨[], line, column⟩, true⟩
  | c :: rest =>
    if within then
      if isBreak c then
        linesFrom h least read { trail with first := [c] } false (line + 1) 0 rest
      else linesFrom h least (c :: read) trail true line (column + 1) rest
    else if isBreak c then
      linesFrom h least read { trail with more := c :: trail.more } false (line + 1) 0 rest
    else if least ≤ column then
      linesFrom h least (c :: trail.text h.folded c ++ read) { indented := isBlank c } true
        line (column + 1) rest
    else if c == ' ' then linesFrom h least read trail false line (column + 1) rest
    else if c == '\t' then none
    else some ⟨⟨String.ofList (trail.chomp h.chomping ++ read).reverse, false⟩,
      ⟨c :: rest, line, column⟩, true⟩

/-! ## Block scalars -/

/-- The block scalar at a position, after the first character of its header. Its lines
    must reach a column, which is that of the block around it and one more. -/
def blockScalar? (folded : Bool) (least : Nat) (c : Cursor) : Option ReadScalar := do
  let (header, rest) ← blockHeader? folded c.rest
  let start ← Cursor.nextLine? { c with rest }
  match header.indentation with
  | some n => linesFrom header (least - 1 + n) [] {} false start.line start.column start.rest
  | none =>
    let lead ← leadFrom 0 [] start.line start.column start.rest
    let next := lead.next
    linesFrom header (max lead.deepest (max least 1)) [] { more := lead.breaks } false
      next.line next.column next.rest

end WritePolicy.Yaml
