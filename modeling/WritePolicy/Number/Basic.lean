import WritePolicy.Number.Binary64

/-! # JSON numbers

    A number is an integer that was written without fraction and exponent, or
    a binary64 value. Both denote an exact rational number, and an integer is
    never converted to binary64 in order to be compared: `1` and `1.0` are equal,
    and `2^53 + 1` is greater than the float `2^53`, which a conversion would hide.
-/

namespace WritePolicy

/-- A JSON number. Integers range over `-2^63 … 2^64 - 1` when they are read
    from text; all others are binary64 values. -/
inductive Number where
  | int (value : Int)
  | float (value : Binary64)
  deriving DecidableEq, Repr

namespace Number

/-- The exact rational number that is denoted. -/
def toRat : Number → Rat
  | int i => i
  | float x => x.toRat

/-! ## Order -/

/-- The first magnitude beyond all 128-bit integers. -/
def wordLimit : Binary64 :=
  ⟨false, twoTo 52, 75, by decide, by decide, by decide⟩

/-- Order of an integer and a binary64 value. A value beyond all 128-bit integers
    is beyond one that fits; otherwise the whole part of the value decides, and
    where that is the integer, its fraction. -/
def compareToFloat (i : Int) (x : Binary64) : Ordering :=
  if i < twoTo 127 && x.compare wordLimit != .lt then .lt
  else if -(twoTo 127 : Int) ≤ i && x.compare wordLimit.neg == .lt then .gt
  else (Ord.compare i x.trunc.toInt).then ((Binary64.zero false).compare x.fract)

/-- Order of two numbers. Integers are compared exactly with integers and with
    binary64 values; only two binary64 values are compared as such. -/
def compare : Number → Number → Ordering
  | int i, int j => Ord.compare i j
  | int i, float y => compareToFloat i y
  | float x, int j => (compareToFloat j x).swap
  | float x, float y => x.compare y

/-! ## Integers -/

/-- The number has no fractional part. -/
def isIntegral : Number → Bool
  | int _ => true
  | float x => x.isIntegral

/-- The number as an unsigned 64-bit count; only an integer qualifies, not a
    float of the same value. -/
def toCount? : Number → Option Nat
  | int i => if 0 ≤ i ∧ i < twoTo 64 then some i.toNat else none
  | float _ => none

end Number

end WritePolicy
