import WritePolicy.Number.Basic

/-! # Reading decimal numbers

    Two readings of a decimal numeral as binary64. `Binary64.ofDecimal?` rounds
    the exact decimal value once. `Binary64.ofTruncated?` is the quick reading:
    a significand that fits 64 bits is rounded first and then scaled by one
    rounded power of ten (two for very small numbers), which can end one unit
    in the last place beside the exact reading.
-/

namespace WritePolicy

/-! ## Digits -/

/-- The natural number that a run of decimal digits denotes. -/
def digitsValue (ds : List Char) : Nat :=
  ds.foldl (fun n c => 10 * n + (c.toNat - '0'.toNat)) 0

namespace Binary64

/-! ## The exact reading -/

/-- The value nearest to `digits · 10^exponent`; none when it overflows.
    Exponents far outside the range of binary64 are decided by the number of
    digits alone. -/
def ofDecimal? (negative : Bool) (digits : Nat) (exponent : Int) : Option Binary64 :=
  let size : Int := (Nat.toDigits 10 digits).length + exponent
  if digits = 0 ∨ size < -400 then some (zero negative)
  else if 400 < size then none
  else round? negative (digits * tenTo exponent.toNat) (tenTo (-exponent).toNat) 0

/-! ## The quick reading -/

/-- The rounded power of ten, for exponents up to 308. -/
def powerOfTen? (k : Nat) : Option Binary64 :=
  ofNat? (tenTo k)

/-- The rounded significand scaled by `10^exponent`: one multiplication or
    division by a rounded power of ten, or two divisions below `10^-308`; none
    when it overflows. -/
def ofTruncated? (negative : Bool) (significand : Nat) (exponent : Int) : Option Binary64 := do
  let base ← ofNat? significand
  let scaledValue ←
    if significand = 0 then some base
    else if 308 < exponent then none
    else if 0 ≤ exponent then base.mul? (← powerOfTen? exponent.toNat)
    else if -308 ≤ exponent then base.div? (← powerOfTen? (-exponent).toNat)
    else if -616 ≤ exponent then
      (← base.div? (← powerOfTen? 308)).div? (← powerOfTen? (-exponent - 308).toNat)
    else some (zero false)
  return if negative then scaledValue.neg else scaledValue

end Binary64

namespace Number

/-- Digits are taken into the significand while it stays below `2^64`. Returns
    the significand and the digits that were left. -/
def takeSignificand (significand : Nat) : List Char → Nat × List Char
  | [] => (significand, [])
  | c :: rest =>
    let next := 10 * significand + (c.toNat - '0'.toNat)
    if next < twoTo 64 then takeSignificand next rest else (significand, c :: rest)

/-- The number of a JSON numeral, given as its sign, integer digits, fraction
    digits and exponent. Without fraction and exponent it is an integer if it
    lies in `-2^63 … 2^64 - 1` and is not `-0`; otherwise it is read quickly as
    a binary64 value, and none when that overflows. -/
def ofNumeral? (negative : Bool) (whole : List Char) (fraction : Option (List Char))
    (exponent : Option Int) : Option Number :=
  let (significand, left) := takeSignificand 0 whole
  match fraction, exponent with
  | none, none =>
    if left.isEmpty ∧ ¬negative then some (int significand)
    else if left.isEmpty ∧ 0 < significand ∧ significand ≤ twoTo 63 then some (int (-significand))
    else (Binary64.ofTruncated? negative significand left.length).map float
  | _, _ =>
    let digits := fraction.getD []
    let (significand, dropped) := takeSignificand significand digits
    let taken := digits.length - dropped.length
    let scale := exponent.getD 0 + left.length - taken
    (Binary64.ofTruncated? negative significand scale).map float

end Number

end WritePolicy
