import WritePolicy.Yaml.Cursor
import WritePolicy.Yaml.Scalar

/-! # Reading flow scalars

    Plain and quoted scalars may run over several lines. Blanks at the ends of the
    lines are dropped, one line break becomes a space, and of several all but the
    first are kept. In double quotes a backslash before a line break joins the
    lines without a space.
-/

namespace WritePolicy.Yaml

/-! ## Gaps -/

/-- What lies between two parts of a scalar. Characters are kept last first. -/
inductive Gap where
  | nothing
  | blanks (read : List Char)
  /-- a line break, and those after it -/
  | breaks (first : Char) (more : List Char)
  /-- an escaped line break, and those after it -/
  | joined (more : List Char)

namespace Gap

/-- The gap with a further blank; beside a line break it does not count. -/
def blank (c : Char) : Gap → Gap
  | nothing => blanks [c]
  | blanks read => blanks (c :: read)
  | g => g

/-- The gap with a further line break. -/
def lineBreak (c : Char) : Gap → Gap
  | nothing | blanks _ => breaks c []
  | breaks first more => breaks first (c :: more)
  | joined more => joined (c :: more)

/-- What the gap stands for, last first. -/
def text : Gap → List Char
  | nothing => []
  | blanks read => read
  | breaks '\n' [] => [' ']
  | breaks '\n' more => more
  | breaks first more => more ++ [first]
  | joined more => more

/-- The gap is empty. -/
def isNothing : Gap → Bool
  | nothing => true
  | _ => false

/-- The gap goes over the end of a line. -/
def crossesLine : Gap → Bool
  | breaks _ _ | joined _ => true
  | _ => false

end Gap

/-- A scalar that was read, what follows, and whether a key may begin there. -/
structure ReadScalar where
  scalar : Scalar
  next : Cursor
  fresh : Bool

/-! ## Plain scalars -/

/-- Characters that mean something by themselves at the start of a node. -/
def indicators : List Char :=
  ['-', '?', ':', ',', '[', ']', '\x7b', '\x7d', '#', '&', '*', '!', '|', '>', '\'', '"', '%',
    '@', '\x60']

/-- Characters that end a plain scalar inside brackets. -/
def flowIndicators : List Char :=
  [',', '[', ']', '\x7b', '\x7d']

/-- A plain scalar may begin here. -/
def beginsPlain (flow : Bool) : List Char → Bool
  | [] => false
  | c :: rest =>
    if c == '-' then !atGap rest
    else if c == '?' || c == ':' then !flow && !atGap rest
    else !indicators.contains c && !isBlank c && !isBreak c

/-- The character ends a plain scalar. -/
def endsPlain (flow : Bool) (c : Char) (rest : List Char) : Bool :=
  (c == ':' && atGap rest) || (flow && flowIndicators.contains c)

/-- A colon that a bracket or a comma follows is a mistake inside brackets. -/
def isStrayColon (flow : Bool) (c : Char) (rest : List Char) : Bool :=
  flow && c == ':' && match rest with
    | x :: _ => flowIndicators.contains x || x == '?'
    | [] => false

/-- A scalar that ends at a position, from what was read and the gap behind it. -/
def endScalar (plain : Bool) (read : List Char) (gap : Gap) (next : Cursor) : ReadScalar :=
  ⟨⟨String.ofList read.reverse, plain⟩, next, gap.crossesLine⟩

/-- The part of a plain scalar after what was read. Outside brackets its lines
    must reach a column; before that column no line may have a tab. -/
def plainFrom (flow : Bool) (least : Nat) (read : List Char) (gap : Gap) (line column : Nat) :
    List Char → Option ReadScalar
  | [] => some (endScalar true read gap ⟨[], line, column⟩)
  | c :: rest =>
    let here : Cursor := ⟨c :: rest, line, column⟩
    if isBreak c then plainFrom flow least read (gap.lineBreak c) (line + 1) 0 rest
    else if isBlank c then
      if c == '\t' && gap.crossesLine && column < least then none
      else plainFrom flow least read (gap.blank c) line (column + 1) rest
    else if !gap.isNothing && (c == '#' || here.atEnd
        || (gap.crossesLine && !flow && column < least)) then
      some (endScalar true read gap here)
    else if isStrayColon flow c rest then none
    else if endsPlain flow c rest then some (endScalar true read gap here)
    else plainFrom flow least (c :: gap.text ++ read) .nothing line (column + 1) rest

/-! ## Quoted scalars -/

/-- Where the reader of a quoted scalar stands. -/
inductive QuoteMode where
  | text
  /-- after a single quote, which ends the scalar unless another follows -/
  | quote
  /-- after a backslash -/
  | escape
  /-- in the hexadecimal digits of a character: how many are owed, and their
      value so far -/
  | hex (owed value : Nat)

/-- The character that an escape of one letter denotes. -/
def escaped? (c : Char) : Option Char :=
  match c with
  | '0' => some '\x00'
  | 'a' => some '\x07'
  | 'b' => some '\x08'
  | 't' | '\t' => some '\t'
  | 'n' => some '\n'
  | 'v' => some '\x0b'
  | 'f' => some '\x0c'
  | 'r' => some '\r'
  | 'e' => some '\x1b'
  | ' ' => some ' '
  | '"' => some '"'
  | '/' => some '/'
  | '\\' => some '\\'
  | 'N' => some '\u0085'
  | '_' => some '\u00a0'
  | 'L' => some '\u2028'
  | 'P' => some '\u2029'
  | _ => none

/-- How many hexadecimal digits a letter announces. -/
def hexDigits? (c : Char) : Option Nat :=
  match c with
  | 'x' => some 2
  | 'u' => some 4
  | 'U' => some 8
  | _ => none

/-- The character of a code point. -/
def ofCodePoint? (n : Nat) : Option Char :=
  if n.isValidChar then some (Char.ofNat n) else none

/-- The part of a quoted scalar after what was read. -/
def quotedFrom (double : Bool) (read : List Char) (gap : Gap) (mode : QuoteMode)
    (line column : Nat) : List Char → Option ReadScalar
  | [] =>
    match mode with
    | .quote => some (endScalar false read .nothing ⟨[], line, column⟩)
    | _ => none
  | c :: rest =>
    let here : Cursor := ⟨c :: rest, line, column⟩
    match mode with
    | .quote =>
      if c == '\'' then quotedFrom double ('\'' :: read) .nothing .text line (column + 1) rest
      else some (endScalar false read .nothing here)
    | .escape =>
      if isBreak c then quotedFrom double read (.joined []) .text (line + 1) 0 rest
      else match hexDigits? c with
        | some n => quotedFrom double read .nothing (.hex n 0) line (column + 1) rest
        | none =>
          match escaped? c with
          | some x => quotedFrom double (x :: read) .nothing .text line (column + 1) rest
          | none => none
    | .hex owed value =>
      match Json.hexValue? c with
      | none => none
      | some d =>
        if 1 < owed then
          quotedFrom double read .nothing (.hex (owed - 1) (16 * value + d)) line (column + 1) rest
        else match ofCodePoint? (16 * value + d) with
          | some x => quotedFrom double (x :: read) .nothing .text line (column + 1) rest
          | none => none
    | .text =>
      if here.atEnd then none
      else if isBreak c then quotedFrom double read (gap.lineBreak c) .text (line + 1) 0 rest
      else if isBlank c then quotedFrom double read (gap.blank c) .text line (column + 1) rest
      else
        let read := gap.text ++ read
        if !double && c == '\'' then quotedFrom double read .nothing .quote line (column + 1) rest
        else if double && c == '"' then
          some (endScalar false read .nothing ⟨rest, line, column + 1⟩)
        else if double && c == '\\' then
          quotedFrom double read .nothing .escape line (column + 1) rest
        else quotedFrom double (c :: read) .nothing .text line (column + 1) rest

/-! ## Flow scalars -/

/-- The plain or quoted scalar at a position. -/
def flowScalar? (flow : Bool) (least : Nat) (c : Cursor) : Option ReadScalar :=
  match c.rest with
  | '\'' :: rest => quotedFrom false [] .nothing .text c.line (c.column + 1) rest
  | '"' :: rest => quotedFrom true [] .nothing .text c.line (c.column + 1) rest
  | cs => if beginsPlain flow cs then plainFrom flow least [] .nothing c.line c.column cs else none

end WritePolicy.Yaml
