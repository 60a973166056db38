import WritePolicy.Number.Power
import WritePolicy.Pattern.Regex

/-! # Tokens of pattern sources

    A source is read from the left, one token at a time: a primitive such as a
    literal or an escape, a whole bracketed class, the opening of a group with
    its flags or name, a repetition. Where the flag `x` is set, blanks and
    comments between tokens and inside some of them do not count.

    Every reader takes the characters that are left and returns what it has
    read together with the characters after it; a source that is not well
    formed gives nothing.
-/

namespace WritePolicy.Pattern

/-! ## Flags -/

/-- What can be switched within a source. -/
inductive Flag where
  | ignoreCase | multiLine | dotAll | crlf | swapGreed | unicode | ignoreBlanks
  deriving DecidableEq, Repr

/-- The state of the flags at a place of a source. Greed makes no difference
    to what is matched and is not kept. -/
structure Flags where
  ignoreCase : Bool := false
  multiLine : Bool := false
  dotAll : Bool := false
  crlf : Bool := false
  unicode : Bool := true
  ignoreBlanks : Bool := false

namespace Flags

/-- One flag switched on or off. -/
def set (f : Flags) (flag : Flag) (on : Bool) : Flags :=
  match flag with
  | .ignoreCase => { f with ignoreCase := on }
  | .multiLine => { f with multiLine := on }
  | .dotAll => { f with dotAll := on }
  | .crlf => { f with crlf := on }
  | .swapGreed => f
  | .unicode => { f with unicode := on }
  | .ignoreBlanks => { f with ignoreBlanks := on }

/-- Several flags switched, one after the other. -/
def setAll (f : Flags) (changes : List (Flag × Bool)) : Flags :=
  changes.foldl (fun f c => f.set c.1 c.2) f

/-- The set closed under case, if case is ignored. -/
def close (f : Flags) (s : CharSet) : CharSet :=
  if f.ignoreCase then if f.unicode then .folded s else .asciiFolded s else s

/-- Without Unicode a class is one of bytes and must not leave ASCII. -/
def admits (f : Flags) (s : CharSet) : Bool :=
  f.unicode || (List.range 128).all fun i => !s.contains (128 + i)

/-- The set, if it may be a class. -/
def admit? (f : Flags) (s : CharSet) : Option CharSet :=
  if f.admits s then some s else none

/-- The class of a letter such as `\d`, with and without Unicode. -/
def letterClass? (f : Flags) (set asciiSet : CharSet) (negated : Bool) : Option CharSet :=
  f.admit? (.complIf negated (if f.unicode then set else asciiSet))

end Flags

/-- The flag of a letter. -/
def flag? : Char → Option Flag
  | 'i' => some .ignoreCase
  | 'm' => some .multiLine
  | 's' => some .dotAll
  | 'R' => some .crlf
  | 'U' => some .swapGreed
  | 'u' => some .unicode
  | 'x' => some .ignoreBlanks
  | _ => none

/-- The changes that flag letters ask for: those after a hyphen are switched
    off. No flag may be named twice, and no hyphen may end the list. -/
def flagChanges? (on : Bool) (seen : List (Flag × Bool)) :
    List Char → Option (List (Flag × Bool))
  | [] => some seen.reverse
  | ['-'] => none
  | '-' :: rest => if on then flagChanges? false seen rest else none
  | c :: rest => do
    let flag ← flag? c
    if seen.any fun s => s.1 == flag then none
    else flagChanges? on ((flag, on) :: seen) rest

/-! ## Blanks -/

/-- White space of all scripts. -/
def isSpace (c : Char) : Bool :=
  CharSet.space.containsChar c

/-- What is left after characters to skip, blanks and comments. A comment
    begins with `#` and ends with the line. -/
def skipWhere (skip : Char → Bool) (inComment : Bool) : List Char → List Char
  | [] => []
  | c :: rest =>
    if inComment then skipWhere skip (c != '\n') rest
    else if c == '#' then skipWhere skip true rest
    else if isSpace c || skip c then skipWhere skip false rest
    else c :: rest

/-- What is left after blanks and comments, where they do not count. -/
def gap (f : Flags) (cs : List Char) : List Char :=
  if f.ignoreBlanks then skipWhere (fun _ => false) false cs else cs

/-- The characters up to a closing brace and what is left after it, without
    blanks and comments where they do not count. -/
def braceBody? (f : Flags) (inComment : Bool) (read : List Char) :
    List Char → Option (List Char × List Char)
  | [] => none
  | c :: rest =>
    if inComment then braceBody? f (c != '\n') read rest
    else if c == '\x7d' then some (read.reverse, rest)
    else if f.ignoreBlanks && c == '#' then braceBody? f true read rest
    else if f.ignoreBlanks && isSpace c then braceBody? f false read rest
    else braceBody? f false (c :: read) rest

/-! ## Primitives -/

/-- What stands for a single place or character. -/
inductive Primitive where
  /-- a character; `isByte` if it was given as two hexadecimal digits -/
  | literal (c : Char) (isByte : Bool)
  /-- a class of one letter, with and without Unicode -/
  | letterClass (set asciiSet : CharSet) (negated : Bool)
  | property (set : CharSet) (negated : Bool)
  | assertion (make : CharSet → Assertion)
  | dot
  | caret
  | dollar

/-- The value of a hexadecimal digit. -/
def hexDigit? (c : Char) : Option Nat :=
  if c.isDigit then some (c.toNat - 0x30)
  else if 'a' ≤ c ∧ c ≤ 'f' then some (c.toNat - 0x61 + 10)
  else if 'A' ≤ c ∧ c ≤ 'F' then some (c.toNat - 0x41 + 10)
  else none

/-- The character of a code point given in hexadecimal digits. -/
def hexChar? (ds : List Char) : Option Char := do
  let n ← ds.foldlM (fun n d => (hexDigit? d).map (16 * n + ·)) 0
  if ds.isEmpty then none
  else if n < 0xD800 ∨ (0xDFFF < n ∧ n < 0x110000) then some (Char.ofNat n)
  else none

/-- A fixed number of hexadecimal digits. -/
def hexDigits? (f : Flags) (read : List Char) : Nat → List Char → Option (List Char × List Char)
  | 0, cs => some (read.reverse, gap f cs)
  | n + 1, cs =>
    match gap f cs with
    | c :: rest => if (hexDigit? c).isSome then hexDigits? f (c :: read) n rest else none
    | [] => none

/-- A code point after `\x`, `\u` or `\U`: in braces, or by two, four or eight
    digits. -/
def hexEscape? (f : Flags) (width : Nat) (cs : List Char) : Option (Primitive × List Char) :=
  match gap f cs with
  | '\x7b' :: rest => do
    let (ds, rest) ← braceBody? f false [] rest
    return (.literal (← hexChar? ds) false, gap f rest)
  | cs => do
    let (ds, rest) ← hexDigits? f [] width cs
    return (.literal (← hexChar? ds) (width == 2), rest)

/-- What stands before and after the first occurrence of a mark. -/
def splitAt? (mark : List Char) : List Char → Option (List Char × List Char)
  | [] => none
  | c :: rest =>
    if mark.isPrefixOf (c :: rest) then some ([], (c :: rest).drop mark.length)
    else (splitAt? mark rest).map fun p => (c :: p.1, p.2)

/-- The set of a property query and whether the query negates it: a name, or a
    property and its value joined by `=`, `:` or `!=`. -/
def propertyQuery? (query : List Char) : Option (CharSet × Bool) :=
  match splitAt? ['!', '='] query with
  | some (p, v) => (CharSet.valued? p v).map (·, true)
  | none =>
    match splitAt? [':'] query, splitAt? ['='] query with
    | some (p, v), _ => (CharSet.valued? p v).map (·, false)
    | none, some (p, v) => (CharSet.valued? p v).map (·, false)
    | none, none => (CharSet.named? query).map (·, false)

/-- A property class after `\p` or `\P`: one letter, or a query in braces. -/
def propertyEscape? (f : Flags) (negated : Bool) (cs : List Char) :
    Option (Primitive × List Char) :=
  match gap f cs with
  | '\x7b' :: rest => do
    let (query, rest) ← braceBody? f false [] rest
    let (set, inverted) ← propertyQuery? query
    return (.property set (negated != inverted), rest)
  | '\\' :: _ => none
  | c :: rest => do return (.property (← CharSet.named? [c]) negated, gap f rest)
  | [] => none

/-- A boundary of words that is named in braces. -/
def namedBoundary? (name : List Char) : Option (CharSet → Assertion) :=
  match String.ofList name with
  | "start" => some .wordStart
  | "end" => some .wordEnd
  | "start-half" => some .wordStartHalf
  | "end-half" => some .wordEndHalf
  | _ => none

/-- A boundary after `\b`. A brace whose content begins like a name is part of
    it; any other brace is left as a repetition. -/
def boundaryEscape? (f : Flags) (cs : List Char) : Option (Primitive × List Char) :=
  match cs with
  | '\x7b' :: rest =>
    match gap f rest with
    | [] => none
    | c :: _ =>
      if c.isAlpha || c == '-' then do
        let (name, rest) ← braceBody? f false [] rest
        return (.assertion (← namedBoundary? name), rest)
      else some (.assertion .wordBoundary, cs)
  | _ => some (.assertion .wordBoundary, cs)

/-- What a backslash and the characters after it stand for. ASCII characters
    other than letters, digits and angle brackets stand for themselves. -/
def escape? (f : Flags) : List Char → Option (Primitive × List Char)
  | [] => none
  | c :: rest =>
    match c with
    | 'x' => hexEscape? f 2 rest
    | 'u' => hexEscape? f 4 rest
    | 'U' => hexEscape? f 8 rest
    | 'p' => propertyEscape? f false rest
    | 'P' => propertyEscape? f true rest
    | 'd' => some (.letterClass .digit .asciiDigit false, rest)
    | 'D' => some (.letterClass .digit .asciiDigit true, rest)
    | 's' => some (.letterClass .space .asciiSpace false, rest)
    | 'S' => some (.letterClass .space .asciiSpace true, rest)
    | 'w' => some (.letterClass .word .asciiWord false, rest)
    | 'W' => some (.letterClass .word .asciiWord true, rest)
    | 'a' => some (.literal '\x07' false, rest)
    | 'f' => some (.literal '\x0c' false, rest)
    | 't' => some (.literal '\t' false, rest)
    | 'n' => some (.literal '\n' false, rest)
    | 'r' => some (.literal '\r' false, rest)
    | 'v' => some (.literal '\x0b' false, rest)
    | 'A' => some (.assertion fun _ => .textStart, rest)
    | 'z' => some (.assertion fun _ => .textEnd, rest)
    | 'b' => boundaryEscape? f rest
    | 'B' => some (.assertion .notWordBoundary, rest)
    | '<' => some (.assertion .wordStart, rest)
    | '>' => some (.assertion .wordEnd, rest)
    | c =>
      if c.toNat < 128 && !c.isAlphanum then some (.literal c false, rest) else none

/-! ## Repetitions -/

/-- A count: decimal digits between blanks, below 2^32. -/
def count? (cs : List Char) : Option Nat :=
  let ds := ((cs.dropWhile isSpace).reverse.dropWhile isSpace).reverse
  if ds.isEmpty || !ds.all Char.isDigit then none
  else
    let n := ds.foldl (fun n c => 10 * n + (c.toNat - 0x30)) 0
    if n < twoTo 32 then some n else none

/-- The counts of a repetition: `n`, `n,` or `n,m` with `n` at most `m`. -/
def counts? (body : List Char) : Option (Nat × Option Nat) :=
  match splitAt? [','] body with
  | none => (count? body).map fun n => (n, some n)
  | some (least, []) => (count? least).map fun n => (n, none)
  | some (least, most) => do
    let n ← count? least
    let m ← count? most
    if n ≤ m then some (n, some m) else none

/-- A question mark after a repetition only changes its greed. -/
def skipGreed : List Char → List Char
  | '?' :: rest => rest
  | cs => cs

/-! ## Openings of groups -/

/-- A character of a group name. -/
def isNameChar (c : Char) (isFirst : Bool) : Bool :=
  let letter := (CharSet.ranges Unicode.alphabetic).containsChar c
  let number := (CharSet.unions ([Unicode.decimalNumber, Unicode.letterNumber,
    Unicode.otherNumber].map .ranges)).containsChar c
  c == '_' || letter || (!isFirst && (number || c == '.' || c == '[' || c == ']'))

/-- The name of a group, up to the angle bracket that closes it. -/
def groupName? (cs : List Char) : Option (String × List Char) :=
  match cs.takeWhile (· != '>'), cs.dropWhile (· != '>') with
  | c :: name, _ :: rest =>
    if isNameChar c true && name.all (isNameChar · false) then
      some (String.ofList (c :: name), rest)
    else none
  | _, _ => none

/-! ## Nesting -/

/-- The greatest depth to which groups, repetitions, sequences, alternatives and
    classes may be nested in one another. -/
def nestLimit : Nat := 250

/-- The depth of parts that are written side by side: several parts are a level
    of their own. -/
def levels : List Nat → Nat
  | [] => 0
  | [d] => d
  | ds => ds.foldl max 0 + 1

/-! ## Tokens -/

/-- The parts that a source is read in. A class comes with the depth to which it is
    nested. -/
inductive Token where
  | primitive (p : Primitive)
  | classSet (set : CharSet) (depth : Nat)
  | openGroup (changes : List (Flag × Bool)) (name : Option String)
  | setFlags (changes : List (Flag × Bool))
  | closeGroup
  | bar
  | repetition (least : Nat) (most : Option Nat)

/-- What follows an opening parenthesis: a name, flags, or the content. -/
def opening? (f : Flags) (cs : List Char) : Option (Token × List Char) :=
  match gap f cs with
  | '?' :: '=' :: _ => none
  | '?' :: '!' :: _ => none
  | '?' :: '<' :: '=' :: _ => none
  | '?' :: '<' :: '!' :: _ => none
  | '?' :: 'P' :: '<' :: rest => named rest
  | '?' :: '<' :: rest => named rest
  | '?' :: rest =>
    let letters := rest.takeWhile fun c => c != ':' && c != ')'
    match rest.dropWhile fun c => c != ':' && c != ')' with
    | ')' :: rest => do
      if letters.isEmpty then none
      else return (.setFlags (← flagChanges? true [] letters), rest)
    | _ :: rest => do return (.openGroup (← flagChanges? true [] letters) none, rest)
    | [] => none
  | cs => some (.openGroup [] none, cs)
where
  named (cs : List Char) : Option (Token × List Char) :=
    (groupName? cs).map fun p => (.openGroup [] (some p.1), p.2)

end WritePolicy.Pattern
