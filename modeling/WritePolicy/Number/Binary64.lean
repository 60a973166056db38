import WritePolicy.Number.Power

/-! # Finite binary64 numbers

    A fractional JSON number is a finite IEEE 754 binary64 value. It is held
    here as the exact dyadic number it denotes, sign · mantissa · 2^exponent,
    so that comparison and printing are integer arithmetic and can be reasoned
    about as such. Rounding to nearest, ties to even, happens in one place,
    `Binary64.round?`; reading, multiplication and division all end in it.
-/

namespace WritePolicy

/-- A finite binary64 value: a sign and a mantissa of at most 53 bits, scaled
    by a power of two. The sign is kept for zero too. -/
structure Binary64 where
  negative : Bool
  mantissa : Nat
  exponent : Int
  mantissa_lt : mantissa < twoTo 53
  exponent_ge : -1074 ≤ exponent
  exponent_le : exponent ≤ 971
  deriving DecidableEq, Repr

namespace Binary64

/-! ## Exact value -/

/-- Positive or negative zero. -/
def zero (negative : Bool) : Binary64 :=
  ⟨negative, 0, -1074, by decide, by decide, by decide⟩

/-- The mantissa with its sign. -/
def signed (x : Binary64) : Int :=
  if x.negative then -(x.mantissa : Int) else x.mantissa

/-- The exact rational number that is denoted. -/
def toRat (x : Binary64) : Rat :=
  (x.signed : Rat) * (2 : Rat) ^ x.exponent

/-- The same magnitude with the opposite sign. -/
def neg (x : Binary64) : Binary64 :=
  { x with negative := !x.negative }

/-! ## Whole part and fraction -/

/-- The value without its fraction, which is to say rounded towards zero. -/
def trunc (x : Binary64) : Binary64 where
  negative := x.negative
  mantissa := x.mantissa / twoTo (-x.exponent).toNat
  exponent := max x.exponent 0
  mantissa_lt := Nat.lt_of_le_of_lt (Nat.div_le_self _ _) x.mantissa_lt
  exponent_ge := Int.le_trans x.exponent_ge (Int.le_max_left _ _)
  exponent_le := Int.max_le.mpr ⟨x.exponent_le, by decide⟩

/-- The value less its whole part. The difference is a binary64 value again, so
    nothing is rounded. -/
def fract (x : Binary64) : Binary64 where
  negative := x.negative
  mantissa := x.mantissa % twoTo (-x.exponent).toNat
  exponent := x.exponent
  mantissa_lt := Nat.lt_of_le_of_lt (Nat.mod_le _ _) x.mantissa_lt
  exponent_ge := x.exponent_ge
  exponent_le := x.exponent_le

/-- The integer that a value without fraction is. -/
def toInt (x : Binary64) : Int :=
  x.signed * twoTo x.exponent.toNat

/-- No fractional part. -/
def isIntegral (x : Binary64) : Bool :=
  x.fract.mantissa == 0

/-! ## Order -/

/-- Order of two values: both significands are brought to the smaller of the two
    exponents and compared as integers. The two zeros are equal. -/
def compare (x y : Binary64) : Ordering :=
  let base := min x.exponent y.exponent
  Ord.compare (x.signed * twoTo (x.exponent - base).toNat)
    (y.signed * twoTo (y.exponent - base).toNat)

/-! ## Rounding to nearest -/

/-- The integer nearest to `num / den`, the even one of two equally near. -/
def nearest (num den : Nat) : Nat :=
  let quotient := num / den
  let rest := 2 * (num % den)
  if rest < den then quotient
  else if den < rest then quotient + 1
  else quotient + quotient % 2

/-- The exponent at which `num / den · 2^scale` has a 53-bit mantissa, or the
    least exponent there is. -/
def roundingExponent (num den : Nat) (scale : Int) : Int :=
  let guess := (num.log2 : Int) - den.log2 + scale - 52
  let gap := guess + 52 - scale
  let below := num * twoTo (-gap).toNat < den * twoTo gap.toNat
  max (-1074) (if below then guess - 1 else guess)

/-- The binary64 value nearest to `num / den · 2^scale`, ties to the even
    mantissa; none when it lies beyond the largest finite value. -/
def round? (negative : Bool) (num den : Nat) (scale : Int) : Option Binary64 :=
  if num = 0 then some (zero negative)
  else
    let k := roundingExponent num den scale
    let shift := scale - k
    let m := nearest (num * twoTo shift.toNat) (den * twoTo (-shift).toNat)
    let (m, k) := if m = twoTo 53 then (twoTo 52, k + 1) else (m, k)
    if h : m < twoTo 53 ∧ -1074 ≤ k ∧ k ≤ 971 then
      some ⟨negative, m, k, h.1, h.2.1, h.2.2⟩
    else none

/-- The value nearest to a natural number. -/
def ofNat? (n : Nat) : Option Binary64 :=
  round? false n 1 0

/-- The product, rounded. -/
def mul? (x y : Binary64) : Option Binary64 :=
  round? (x.negative != y.negative) (x.mantissa * y.mantissa) 1 (x.exponent + y.exponent)

/-- The quotient, rounded; none also for division by zero. -/
def div? (x y : Binary64) : Option Binary64 :=
  if y.mantissa = 0 then none
  else round? (x.negative != y.negative) x.mantissa y.mantissa (x.exponent - y.exponent)

end Binary64

end WritePolicy
