import WritePolicy.Number.Decimal

/-! # Shortest decimal text

    A binary64 value is written with the fewest decimal digits that read back
    to it, and of those with the nearest. The digits are found by search on the
    decimal grids: all reals that round to the value form an interval around
    it, and the first grid of 1, 2, … 17 digits with a point in the interval
    wins. Only the two grid neighbours of the value need to be tried.

    How digits become text is a separate decision, held in one `Layout`.
-/

namespace WritePolicy

/-- A positive decimal number `digits · 10^exponent`. -/
structure Decimal where
  digits : Nat
  exponent : Int
  deriving DecidableEq, Repr

namespace Binary64

/-! ## The interval of reals that round to a value -/

/-- Order of `d · 10^k` and `a · 2^s`. -/
def compareDecimal (d : Nat) (k : Int) (a : Nat) (s : Int) : Ordering :=
  Ord.compare (d * tenTo k.toNat * twoTo (-s).toNat) (a * twoTo s.toNat * tenTo (-k).toNat)

/-- The lower end of the interval in quarters of the last place: half a unit
    below, but a quarter where the binary grid below is twice as fine. -/
def lowerQuarters (x : Binary64) : Nat :=
  if x.mantissa = twoTo 52 ∧ -1074 < x.exponent then 4 * x.mantissa - 1 else 4 * x.mantissa - 2

/-- The decimal `d · 10^k` reads back as the magnitude of `x`; the ends of the
    interval belong to it exactly when the mantissa is even. -/
def readsBack (x : Binary64) (d : Nat) (k : Int) : Bool :=
  let low := compareDecimal d k x.lowerQuarters (x.exponent - 2)
  let high := compareDecimal d k (4 * x.mantissa + 2) (x.exponent - 2)
  if x.mantissa % 2 = 0 then low != .lt && high != .gt else low == .gt && high == .lt

/-! ## Search on decimal grids -/

/-- The number `p` with `10^(p-1) ≤ |x| < 10^p`, for `x` not zero. -/
def decimalPoint (x : Binary64) : Int :=
  let num := x.mantissa * twoTo x.exponent.toNat
  let den := twoTo (-x.exponent).toNat
  if den ≤ num then (Nat.toDigits 10 (num / den)).length
  else 1 - (Nat.toDigits 10 (den / num)).length

/-- The grid point at or below the magnitude of `x` on the grid of `10^k`. -/
def gridFloor (x : Binary64) (k : Int) : Nat :=
  (x.mantissa * twoTo x.exponent.toNat * tenTo (-k).toNat) /
    (twoTo (-x.exponent).toNat * tenTo k.toNat)

/-- A neighbour of `x` on the grid of `10^k` that reads back: of two, the
    nearer, and on a tie the even one. -/
def onGrid? (x : Binary64) (k : Int) : Option Decimal :=
  let low := x.gridFloor k
  match x.readsBack low k, x.readsBack (low + 1) k with
  | false, false => none
  | true, false => some ⟨low, k⟩
  | false, true => some ⟨low + 1, k⟩
  | true, true =>
    match compareDecimal (2 * low + 1) k (2 * x.mantissa) x.exponent with
    | .gt => some ⟨low, k⟩
    | .lt => some ⟨low + 1, k⟩
    | .eq => some ⟨low + low % 2, k⟩

/-- Digits without zeros at the end. -/
def stripZeros : Nat → Decimal → Decimal
  | 0, d => d
  | fuel + 1, d =>
    if d.digits % 10 = 0 then stripZeros fuel ⟨d.digits / 10, d.exponent + 1⟩ else d

/-- The shortest decimal that reads back as the magnitude of `x`, for `x` not
    zero. Seventeen digits always suffice. -/
def shortest (x : Binary64) : Decimal :=
  let p := x.decimalPoint
  let found := (List.range 17).findSome? fun n : Nat => x.onGrid? (p - 1 - n)
  stripZeros 17 (found.getD ⟨x.gridFloor (p - 17), p - 17⟩)

end Binary64

/-! ## Layout -/

/-- How the digits of a decimal become text. -/
structure Layout where
  /-- least power of ten of the leading digit that is written positionally -/
  lowestPositional : Int
  /-- greatest power of ten of the leading digit that is written positionally -/
  highestPositional : Int
  /-- what follows an integral positional number -/
  integralMark : String
  /-- what stands before the exponent -/
  exponentMark : String
  /-- sign of an exponent that is not negative -/
  positiveExponent : String

/-- Numbers from `0.00001` up to below `10^16` are positional and always show
    a fraction; all others are scientific with a signed exponent. -/
def Layout.json : Layout := ⟨-5, 15, ".0", "e", "+"⟩

namespace Layout

/-- Zeros, as text. -/
def zeros (n : Nat) : String :=
  String.ofList (List.replicate n '0')

/-- Positional or scientific text of a positive decimal. -/
def render (layout : Layout) (d : Decimal) : String :=
  let ds := Nat.toDigits 10 d.digits
  let point : Int := ds.length + d.exponent
  let leading := point - 1
  if layout.lowestPositional ≤ leading ∧ leading ≤ layout.highestPositional then
    if 0 ≤ d.exponent then
      String.ofList ds ++ zeros d.exponent.toNat ++ layout.integralMark
    else if 0 < point then
      String.ofList (ds.take point.toNat) ++ "." ++ String.ofList (ds.drop point.toNat)
    else
      "0." ++ zeros (-point).toNat ++ String.ofList ds
  else
    let fraction := ds.drop 1
    let tail := if fraction.isEmpty then "" else "." ++ String.ofList fraction
    let sign := if leading < 0 then "-" else layout.positiveExponent
    String.ofList (ds.take 1) ++ tail ++ layout.exponentMark ++ sign ++ toString leading.natAbs

end Layout

/-- Text of a binary64 value under a layout. -/
def Binary64.render (layout : Layout) (x : Binary64) : String :=
  let magnitude :=
    if x.mantissa = 0 then "0" ++ layout.integralMark else layout.render x.shortest
  if x.negative then "-" ++ magnitude else magnitude

/-- Text of a JSON number: integers in decimal, all others by their shortest
    digits. -/
def Number.text : Number → String
  | int i => toString i
  | float x => x.render Layout.json

end WritePolicy
