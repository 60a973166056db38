import WritePolicy.Json.Basic
import WritePolicy.Number.Decimal

/-! # Reading JSON text

    Text becomes tokens and tokens become a value. Both passes are machines
    that take one symbol at a time, so that reading is a fold over the input:

    * the scanner stands between tokens or inside a string, a numeral or a
      word, and carries the tokens it has completed;
    * the builder carries the containers that are still open, innermost first,
      and knows what may come next.

    The syntax is strict: no comments, no commas at the end, no raw control
    characters or lone surrogates in strings, no numbers beyond binary64, and
    at most 127 containers inside one another.
-/

namespace WritePolicy.Json

/-! ## Tokens -/

/-- The symbols of JSON text: punctuation and scalar values. -/
inductive Token where
  | openArray | closeArray | openObject | closeObject | comma | colon
  | scalar (value : Json)

/-- Where the scanner stands in a string after a backslash. -/
inductive Escape where
  /-- the character after the backslash comes next -/
  | start
  /-- hexadecimal digits of a code unit: how many are owed, and their value so
      far; after the first half of a surrogate pair, that half -/
  | unit (owed : Nat) (value : Nat) (high : Option Nat)
  /-- the first half of a surrogate pair is read; a backslash must come -/
  | backslash (high : Nat)
  /-- after that backslash, a `u` must come -/
  | mark (high : Nat)

/-- Where the scanner stands. Characters are kept last first. -/
inductive Mode where
  | between
  | string (read : List Char) (escape : Option Escape)
  | numeral (read : List Char)
  | word (read : List Char)

/-- The scanner: where it stands and the tokens it has completed, last first. -/
structure Scanner where
  mode : Mode := .between
  tokens : List Token := []

/-! ## Numerals and words -/

/-- A run of decimal digits that is not empty. -/
def isDigits (ds : List Char) : Bool :=
  !ds.isEmpty && ds.all Char.isDigit

/-- The exponent part of a numeral, after the mark. -/
def exponent? (cs : List Char) : Option Int :=
  let (negative, ds) := match cs with
    | '-' :: ds => (true, ds)
    | '+' :: ds => (false, ds)
    | ds => (false, ds)
  if isDigits ds then
    some (if negative then -(digitsValue ds : Int) else digitsValue ds)
  else none

/-- A character that marks the exponent. -/
def isExponentMark (c : Char) : Bool :=
  c == 'e' || c == 'E'

/-- The number that a numeral denotes: an optional minus, digits without a
    needless leading zero, then optional fraction and exponent. -/
def numeral? (cs : List Char) : Option Number :=
  let (negative, cs) := match cs with
    | '-' :: rest => (true, rest)
    | rest => (false, rest)
  let mantissa := cs.takeWhile (!isExponentMark ·)
  let tail := cs.dropWhile (!isExponentMark ·)
  let whole := mantissa.takeWhile (· != '.')
  let point := mantissa.dropWhile (· != '.')
  let wholeOk := isDigits whole && (whole.length == 1 || whole.head? != some '0')
  let fraction : Option (Option (List Char)) := match point with
    | [] => some none
    | _ :: ds => if isDigits ds then some (some ds) else none
  let power : Option (Option Int) := match tail with
    | [] => some none
    | _ :: rest => (exponent? rest).map some
  match wholeOk, fraction, power with
  | true, some fraction, some power => Number.ofNumeral? negative whole fraction power
  | _, _, _ => none

/-- The value that a word denotes. -/
def word? (cs : List Char) : Option Json :=
  match String.ofList cs with
  | "null" => some null
  | "true" => some (bool true)
  | "false" => some (bool false)
  | _ => none

/-! ## The scanner -/

/-- A character that may stand between tokens. -/
def isBlank (c : Char) : Bool :=
  c == ' ' || c == '\t' || c == '\n' || c == '\r'

/-- A character of numerals. -/
def isNumeralChar (c : Char) : Bool :=
  c.isDigit || c == '-' || c == '+' || c == '.' || isExponentMark c

/-- The value of a hexadecimal digit in either case. -/
def hexValue? (c : Char) : Option Nat :=
  if c.isDigit then some (c.toNat - '0'.toNat)
  else if 'a' ≤ c ∧ c ≤ 'f' then some (c.toNat - 'a'.toNat + 10)
  else if 'A' ≤ c ∧ c ≤ 'F' then some (c.toNat - 'A'.toNat + 10)
  else none

/-- A character between tokens. -/
def Scanner.begin (tokens : List Token) (c : Char) : Option Scanner :=
  if isBlank c then some ⟨.between, tokens⟩
  else match c with
    | '[' => some ⟨.between, .openArray :: tokens⟩
    | ']' => some ⟨.between, .closeArray :: tokens⟩
    | '\x7b' => some ⟨.between, .openObject :: tokens⟩
    | '\x7d' => some ⟨.between, .closeObject :: tokens⟩
    | ',' => some ⟨.between, .comma :: tokens⟩
    | ':' => some ⟨.between, .colon :: tokens⟩
    | '"' => some ⟨.string [] none, tokens⟩
    | c =>
      if c.isDigit || c == '-' then some ⟨.numeral [c], tokens⟩
      else if c.isAlpha then some ⟨.word [c], tokens⟩
      else none

/-- The code unit is complete: a character by itself, or one half of a
    surrogate pair. -/
def Scanner.closeUnit (read : List Char) (unit : Nat) (high : Option Nat) : Option Mode :=
  match high with
  | none =>
    if 0xD800 ≤ unit ∧ unit < 0xDC00 then some (.string read (some (.backslash unit)))
    else if 0xDC00 ≤ unit ∧ unit < 0xE000 then none
    else some (.string (Char.ofNat unit :: read) none)
  | some h =>
    if 0xDC00 ≤ unit ∧ unit < 0xE000 then
      some (.string (Char.ofNat (0x10000 + (h - 0xD800) * 0x400 + (unit - 0xDC00)) :: read) none)
    else none

/-- A character within an escape. -/
def Scanner.escaped (read : List Char) (c : Char) : Escape → Option Mode
  | .start =>
    match c with
    | '"' => some (.string ('"' :: read) none)
    | '\\' => some (.string ('\\' :: read) none)
    | '/' => some (.string ('/' :: read) none)
    | 'b' => some (.string ('\x08' :: read) none)
    | 'f' => some (.string ('\x0c' :: read) none)
    | 'n' => some (.string ('\n' :: read) none)
    | 'r' => some (.string ('\r' :: read) none)
    | 't' => some (.string ('\t' :: read) none)
    | 'u' => some (.string read (some (.unit 4 0 none)))
    | _ => none
  | .unit owed value high => do
    let unit := 16 * value + (← hexValue? c)
    if owed ≤ 1 then closeUnit read unit high
    else return .string read (some (.unit (owed - 1) unit high))
  | .backslash high =>
    if c == '\\' then some (.string read (some (.mark high))) else none
  | .mark high =>
    if c == 'u' then some (.string read (some (.unit 4 0 (some high)))) else none

/-- One character. A character that ends a numeral or a word is taken again
    between tokens. -/
def Scanner.step (s : Scanner) (c : Char) : Option Scanner :=
  match s.mode with
  | .between => begin s.tokens c
  | .string read none =>
    if c == '"' then some ⟨.between, .scalar (.string (String.ofList read.reverse)) :: s.tokens⟩
    else if c == '\\' then some ⟨.string read (some .start), s.tokens⟩
    else if c.toNat < 32 then none
    else some ⟨.string (c :: read) none, s.tokens⟩
  | .string read (some e) => (escaped read c e).map (⟨·, s.tokens⟩)
  | .numeral read =>
    if isNumeralChar c then some ⟨.numeral (c :: read), s.tokens⟩
    else do begin (.scalar (.number (← numeral? read.reverse)) :: s.tokens) c
  | .word read =>
    if c.isAlpha then some ⟨.word (c :: read), s.tokens⟩
    else do begin (.scalar (← word? read.reverse) :: s.tokens) c

/-- The tokens once the text has ended, last first. -/
def Scanner.finish (s : Scanner) : Option (List Token) :=
  match s.mode with
  | .between => some s.tokens
  | .string _ _ => none
  | .numeral read => do return .scalar (.number (← numeral? read.reverse)) :: s.tokens
  | .word read => do return .scalar (← word? read.reverse) :: s.tokens

/-- The tokens of a text. -/
def tokens? (cs : List Char) : Option (List Token) := do
  let scanner ← cs.foldlM Scanner.step {}
  return (← scanner.finish).reverse

/-! ## The builder -/

/-- A container that is still open. Items are kept last first; an object may
    have read a key whose value is owed. -/
inductive Frame where
  | array (items : List Json)
  | object (fields : Entries Json) (key : Option String)

/-- What may come next. -/
inductive Expected where
  | value
  | valueOrEnd
  | key
  | keyOrEnd
  | colon
  | commaOrEnd
  | nothing (result : Json)

/-- The builder: the open containers, innermost first, and what may come. -/
structure Builder where
  frames : List Frame := []
  expected : Expected := .value

/-- The greatest number of containers inside one another. -/
def depthLimit : Nat := 127

/-- A value is complete and goes into the innermost open container. -/
def Builder.complete (frames : List Frame) (v : Json) : Option Builder :=
  match frames with
  | [] => some ⟨[], .nothing v⟩
  | .array items :: outer => some ⟨.array (v :: items) :: outer, .commaOrEnd⟩
  | .object fields (some key) :: outer =>
    some ⟨.object (Entries.insert key v fields) none :: outer, .commaOrEnd⟩
  | .object _ none :: _ => none

/-- A container opens. -/
def Builder.push (frames : List Frame) (frame : Frame) (expected : Expected) : Option Builder :=
  if frames.length < depthLimit then some ⟨frame :: frames, expected⟩ else none

/-- A value begins. -/
def Builder.value (frames : List Frame) : Token → Option Builder
  | .scalar v => complete frames v
  | .openArray => push frames (.array []) .valueOrEnd
  | .openObject => push frames (.object [] none) .keyOrEnd
  | _ => none

/-- The innermost container ends. -/
def Builder.close (frames : List Frame) : Token → Option Builder
  | .closeArray =>
    match frames with
    | .array items :: outer => complete outer (.array items.reverse)
    | _ => none
  | .closeObject =>
    match frames with
    | .object fields none :: outer => complete outer (.object fields)
    | _ => none
  | _ => none

/-- A key of the innermost object. -/
def Builder.key (frames : List Frame) : Token → Option Builder
  | .scalar (.string k) =>
    match frames with
    | .object fields none :: outer => some ⟨.object fields (some k) :: outer, .colon⟩
    | _ => none
  | _ => none

/-- One token. -/
def Builder.step (b : Builder) (t : Token) : Option Builder :=
  match b.expected, t with
  | .value, t => value b.frames t
  | .valueOrEnd, .closeArray => close b.frames .closeArray
  | .valueOrEnd, t => value b.frames t
  | .key, t => key b.frames t
  | .keyOrEnd, .closeObject => close b.frames .closeObject
  | .keyOrEnd, t => key b.frames t
  | .colon, .colon => some ⟨b.frames, .value⟩
  | .commaOrEnd, .comma =>
    match b.frames with
    | .array _ :: _ => some ⟨b.frames, .value⟩
    | .object _ _ :: _ => some ⟨b.frames, .key⟩
    | [] => none
  | .commaOrEnd, t => close b.frames t
  | _, _ => none

/-- The value of a token list. -/
def ofTokens? (ts : List Token) : Option Json := do
  match (← ts.foldlM Builder.step {}).expected with
  | .nothing v => some v
  | _ => none

/-- The value that a text denotes; none if it is not JSON. -/
def parse? (text : String) : Option Json := do
  ofTokens? (← tokens? text.toList)

end WritePolicy.Json
