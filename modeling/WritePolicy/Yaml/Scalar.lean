import WritePolicy.Json.Reader

/-! # YAML scalars

    A quoted scalar is a string. What a plain scalar denotes is told by its
    form: nothing, a truth value, an integer in one of four bases, a decimal
    number, and otherwise a string. Digits behind a needless zero are a string.
    Integers that JSON has no place for are refused, up to 128 bits; decimal
    integers beyond that are read as floats.

    A tag says what a scalar has to be. There are tags for nothing, truth values,
    integers and floats; any other makes it a string. Tags that begin with an
    exclamation mark stand for values of a program, which JSON does not have.
-/

namespace WritePolicy.Yaml

/-- A scalar as it was written. -/
structure Scalar where
  text : String := ""
  plain : Bool := true
  deriving DecidableEq, Repr

/-! ## Words -/

/-- The scalar denotes nothing. -/
def isNullWord (s : String) : Bool :=
  ["", "~", "null", "Null", "NULL"].contains s

/-- The truth value that a word denotes. -/
def boolWord? (s : String) : Option Bool :=
  if ["true", "True", "TRUE"].contains s then some true
  else if ["false", "False", "FALSE"].contains s then some false
  else none

/-- Infinities and the value that is no number, for which JSON has `null`. -/
def isNonFiniteWord (s : String) : Bool :=
  [".inf", ".Inf", ".INF", "+.inf", "+.Inf", "+.INF", "-.inf", "-.Inf", "-.INF",
    ".nan", ".NaN", ".NAN"].contains s

/-! ## Integers -/

/-- The value of digits in a base; none if there are none, or others. -/
def digitsIn? (base : Nat) : List Char → Option Nat
  | [] => none
  | cs => cs.foldlM (fun n c => do
      let d ← Json.hexValue? c
      if d < base then some (base * n + d) else none) 0

/-- The value of digits after the mark of a base. -/
def based? : List Char → Option Nat
  | '0' :: 'x' :: ds => digitsIn? 16 ds
  | '0' :: 'o' :: ds => digitsIn? 8 ds
  | '0' :: 'b' :: ds => digitsIn? 2 ds
  | _ => none

/-- Decimal digits behind a needless zero. -/
def hasNeedlessZero (ds : List Char) : Bool :=
  Json.isDigits ds && 1 < ds.length && ds.head? == some '0'

/-- Whether an integer has a place: as a JSON integer, nowhere, or among the
    decimal numbers. -/
inductive Place where
  | integer | nowhere | decimal
  deriving DecidableEq, Repr

/-- The place of an integer of a sign and an absolute value. -/
def placeOf (negative : Bool) (n : Nat) : Place :=
  let (small, large) := if negative then (twoTo 63, twoTo 127) else (twoTo 64 - 1, twoTo 128 - 1)
  if n ≤ small then .integer else if n ≤ large then .nowhere else .decimal

/-- The integer that the text of a sign and digits denotes. -/
def unsigned? (cs : List Char) : Option Nat :=
  match based? cs with
  | some n => some n
  | none => if hasNeedlessZero cs then none else digitsIn? 10 cs

/-! ## Decimal numbers -/

/-- A sign at the front, and what follows it. -/
def splitSign : List Char → Bool × List Char
  | '-' :: cs => (true, cs)
  | '+' :: cs => (false, cs)
  | cs => (false, cs)

/-- The binary64 value of digits with an optional point, at least one digit,
    and an optional exponent. -/
def decimal? (negative : Bool) (cs : List Char) : Option Binary64 := do
  let mantissa := cs.takeWhile (!Json.isExponentMark ·)
  let whole := mantissa.takeWhile (· != '.')
  let fraction := (mantissa.dropWhile (· != '.')).drop 1
  let exponent ← match cs.dropWhile (!Json.isExponentMark ·) with
    | [] => some 0
    | _ :: power => Json.exponent? power
  if Json.isDigits (whole ++ fraction) then
    Binary64.ofDecimal? negative (digitsValue (whole ++ fraction)) (exponent - fraction.length)
  else none

/-! ## Values -/

/-- The JSON integer of a sign and an absolute value. -/
def integer (negative : Bool) (n : Nat) : Json :=
  .number (.int (if negative then -n else n))

/-- The value of a plain scalar that is not a word. -/
def numberOrText? (s : String) : Option Json :=
  let (negative, cs) := splitSign s.toList
  let otherwise : Json :=
    if hasNeedlessZero cs then .string s
    else match decimal? negative cs with
      | some x => .number (.float x)
      | none => .string s
  match unsigned? cs with
  | none => some otherwise
  | some n =>
    match placeOf negative n with
    | .integer => some (integer negative n)
    | .nowhere => none
    | .decimal => some otherwise

/-- The value of a plain scalar; none if it is an integer that has no place. -/
def plainValue? (s : String) : Option Json :=
  if isNullWord s || isNonFiniteWord s then some .null
  else match boolWord? s with
    | some b => some (.bool b)
    | none => numberOrText? s

/-! ## Tags -/

/-- A tag that begins with an exclamation mark. -/
def isLocalTag (tag : String) : Bool :=
  tag.toList.head? == some '!'

/-- The integer that a scalar has to be. -/
def integer? (s : String) : Option Json :=
  let (negative, cs) := splitSign s.toList
  (unsigned? cs).bind fun n =>
    if placeOf negative n = .integer then some (integer negative n) else none

/-- The float that a scalar has to be. -/
def float? (s : String) : Option Json :=
  let (negative, cs) := splitSign s.toList
  if isNonFiniteWord s then some .null
  else (decimal? negative cs).map fun x => .number (.float x)

/-- The value of a scalar with or without a tag. -/
def Scalar.value? (s : Scalar) : Option String → Option Json
  | none => if s.plain then plainValue? s.text else some (.string s.text)
  | some "tag:yaml.org,2002:null" =>
    if s.text ≠ "" && isNullWord s.text then some .null else none
  | some "tag:yaml.org,2002:bool" => (boolWord? s.text).map .bool
  | some "tag:yaml.org,2002:int" => integer? s.text
  | some "tag:yaml.org,2002:float" => float? s.text
  | some tag => if isLocalTag tag then none else some (.string s.text)

end WritePolicy.Yaml
