import WritePolicy.Number.Basic
import Mathlib.Algebra.Order.Field.Power
import Mathlib.Algebra.Order.Field.Rat
import Mathlib.Algebra.Order.Group.Unbundled.Int
import Mathlib.Order.Compare
import Mathlib.Tactic.Linarith
import Mathlib.Tactic.NormNum
import Mathlib.Tactic.Ring

/-! # The order of numbers

    Numbers are compared by the exact rational numbers that they denote
    (`Number.compare_eq_cmp`). Each pair of forms takes its own way there:

    * two integers are compared as such;
    * two binary64 values are compared by their significands, brought to the smaller
      of the two exponents, which changes neither of the two values;
    * an integer and a binary64 value are told apart by the whole part of the value,
      which is rounded towards zero, and else by the fraction that is left.

    The third way is right on both sides of zero because the fraction is smaller than
    one (`abs_fract_lt_one`), so that it cannot make up for a difference of integers.
    So comparison loses no precision, and numbers that are written differently (`1`,
    `1.0`, `-0.0`) are told apart exactly if they denote different numbers. Whether a
    number is integral is a question about the rational, too (`isIntegral_iff`).
-/

namespace WritePolicy

namespace Binary64

/-! ## Scaling -/

/-- A power of the base is positive. -/
theorem two_zpow_pos (e : Int) : (0 : Rat) < 2 ^ e :=
  zpow_pos (by norm_num) e

/-- A power of two by repeated doubling is the power with an integer exponent. -/
theorem cast_twoTo (k : Nat) : ((twoTo k : Nat) : Rat) = (2 : Rat) ^ (k : Int) := by
  rw [zpow_natCast]
  simp [twoTo]

/-- A significand that is brought to a smaller exponent denotes the same number. -/
theorem scaled_to_base (m : Int) {e base : Int} (h : base ≤ e) :
    ((m * twoTo (e - base).toNat : Int) : Rat) * 2 ^ base = (m : Rat) * 2 ^ e := by
  obtain ⟨k, rfl⟩ : ∃ k : Nat, e = k + base := ⟨(e - base).toNat, by omega⟩
  have hgap : ((k : Int) + base - base).toNat = k := by omega
  rw [hgap, Int.cast_mul, Int.cast_natCast, cast_twoTo, mul_assoc,
    ← zpow_add₀ (by norm_num : (2 : Rat) ≠ 0)]

/-- Two integers stand in one order as they do when scaled by a power of two. -/
theorem cmp_scaled (m n base : Int) :
    cmp ((m : Rat) * 2 ^ base) ((n : Rat) * 2 ^ base) = Ord.compare m n := by
  have hmono : StrictMono fun i : Int => (i : Rat) * 2 ^ base := by
    intro i j hij
    exact mul_lt_mul_of_pos_right (Int.cast_lt.mpr hij) (two_zpow_pos base)
  exact (hmono.cmp_map_eq m n).trans (cmp_eq_compare m n)

/-! ## Two binary64 values -/

/-- Binary64 values are compared by the rationals that they denote. -/
theorem compare_eq_cmp (x y : Binary64) : x.compare y = cmp x.toRat y.toRat := by
  have hx := scaled_to_base x.signed (min_le_left x.exponent y.exponent)
  have hy := scaled_to_base y.signed (min_le_right x.exponent y.exponent)
  show _ = cmp ((x.signed : Rat) * 2 ^ x.exponent) ((y.signed : Rat) * 2 ^ y.exponent)
  rw [← hx, ← hy, cmp_scaled]
  rfl

/-- Both zeros denote 0. -/
theorem toRat_zero (negative : Bool) : (zero negative).toRat = 0 := by
  cases negative <;> simp [zero, toRat, signed]

/-- The opposite value denotes the opposite number. -/
theorem toRat_neg (x : Binary64) : x.neg.toRat = -x.toRat := by
  unfold neg toRat signed
  cases x.negative <;> simp

/-! ## Whole part and fraction -/

/-- Without a negative exponent, a value is an integer. -/
theorem cast_toInt {x : Binary64} (h : 0 ≤ x.exponent) : (x.toInt : Rat) = x.toRat := by
  have hscaled := scaled_to_base x.signed h
  rw [sub_zero, zpow_zero, mul_one] at hscaled
  exact hscaled

variable (x : Binary64)

/-- The whole part is an integer. -/
theorem toRat_trunc : x.trunc.toRat = x.trunc.toInt :=
  (cast_toInt (le_max_right x.exponent 0)).symm

/-- The mantissa is taken apart by division with remainder. -/
theorem signed_eq : x.signed = x.trunc.signed * twoTo (-x.exponent).toNat + x.fract.signed := by
  have hdiv := Nat.div_add_mod' x.mantissa (twoTo (-x.exponent).toNat)
  unfold signed trunc fract
  cases x.negative with
  | true =>
    simp only [if_true]
    rw [neg_mul, ← neg_add]
    exact_mod_cast congrArg (fun n : Nat => -(n : Int)) hdiv.symm
  | false =>
    simp only [Bool.false_eq_true, if_false]
    exact_mod_cast hdiv.symm

/-- A value is its whole part and its fraction together. -/
theorem toRat_eq_add : x.toRat = x.trunc.toInt + x.fract.toRat := by
  have hgap : (max x.exponent 0 - x.exponent).toNat = (-x.exponent).toNat := by omega
  have hwhole := scaled_to_base x.trunc.signed (le_max_left x.exponent 0)
  rw [hgap] at hwhole
  calc x.toRat
      = ((x.trunc.signed * twoTo (-x.exponent).toNat + x.fract.signed : Int) : Rat)
          * 2 ^ x.exponent := by rw [← signed_eq]; rfl
    _ = ((x.trunc.signed * twoTo (-x.exponent).toNat : Int) : Rat) * 2 ^ x.exponent
          + x.fract.toRat := by rw [Int.cast_add, add_mul]; rfl
    _ = x.trunc.toRat + x.fract.toRat := by rw [hwhole]; rfl
    _ = x.trunc.toInt + x.fract.toRat := by rw [toRat_trunc]

/-- A fraction is smaller than one: the mantissa that is left is smaller than what
    the scale divides it by. -/
theorem abs_fract_lt_one : |x.fract.toRat| < 1 := by
  have hpos := two_zpow_pos x.exponent
  have hsigned : |(x.fract.signed : Rat)| = (x.fract.mantissa : Rat) := by
    unfold signed
    cases x.fract.negative <;> simp
  have habs : |x.fract.toRat| = (x.fract.mantissa : Rat) * 2 ^ x.exponent := by
    show |(x.fract.signed : Rat) * 2 ^ x.exponent| = _
    rw [abs_mul, hsigned, abs_of_pos hpos]
  have hrest : x.fract.mantissa < twoTo (-x.exponent).toNat :=
    Nat.mod_lt _ (Nat.pow_pos (by decide))
  rw [habs]
  by_cases hexp : 0 ≤ x.exponent
  · -- the scale divides by nothing, so nothing is left
    have hone : (-x.exponent).toNat = 0 := by omega
    have hnone : x.fract.mantissa = 0 := by
      rw [hone] at hrest
      exact Nat.lt_one_iff.mp hrest
    simp [hnone]
  · have hinverse : ((-x.exponent).toNat : Int) = -x.exponent := by omega
    have hcast : (x.fract.mantissa : Rat) < 2 ^ (-x.exponent) := by
      rw [← hinverse, ← cast_twoTo]
      exact_mod_cast hrest
    calc (x.fract.mantissa : Rat) * 2 ^ x.exponent
        < 2 ^ (-x.exponent) * 2 ^ x.exponent := mul_lt_mul_of_pos_right hcast hpos
      _ = 1 := by rw [← zpow_add₀ (by norm_num : (2 : Rat) ≠ 0), neg_add_cancel, zpow_zero]

/-- A value without a fraction is an integer, and no other is. -/
theorem isIntegral_iff : x.isIntegral = true ↔ ∃ i : Int, x.toRat = i := by
  have hsplit := x.toRat_eq_add
  have hzero : x.fract.toRat = 0 ↔ x.fract.mantissa = 0 := by
    have hpos := two_zpow_pos x.exponent
    show (x.fract.signed : Rat) * 2 ^ x.exponent = 0 ↔ _
    rw [mul_eq_zero_iff_right hpos.ne', Int.cast_eq_zero]
    unfold signed
    cases x.fract.negative <;> simp
  unfold isIntegral
  rw [beq_iff_eq, ← hzero]
  constructor
  · intro h
    rw [h, add_zero] at hsplit
    exact ⟨_, hsplit⟩
  · intro h
    obtain ⟨i, hi⟩ := h
    -- a fraction that is an integer is none
    have hfract : x.fract.toRat = ((i - x.trunc.toInt : Int) : Rat) := by
      push_cast
      linarith
    have hsmall := x.abs_fract_lt_one
    rw [hfract, ← Int.cast_abs] at hsmall
    have hnone : i - x.trunc.toInt = 0 := Int.abs_lt_one_iff.mp (by exact_mod_cast hsmall)
    rw [hfract, hnone, Int.cast_zero]

end Binary64

namespace Number

/-! ## An integer and a binary64 value -/

theorem toRat_wordLimit : wordLimit.toRat = 2 ^ 127 := by
  norm_num [wordLimit, Binary64.toRat, Binary64.signed, twoTo]

/-- The whole part decides, and where it is the integer, the fraction. -/
theorem whole_then_fract (i : Int) (x : Binary64) :
    (Ord.compare i x.trunc.toInt).then ((Binary64.zero false).compare x.fract) =
      cmp (i : Rat) x.toRat := by
  obtain ⟨hlow, hhigh⟩ := abs_lt.mp x.abs_fract_lt_one
  rw [x.toRat_eq_add]
  rcases lt_trichotomy i x.trunc.toInt with h | h | h
  · -- below the whole part by one or more, of which the fraction takes less
    have hle : (i : Rat) + 1 ≤ x.trunc.toInt := by exact_mod_cast h
    have hlt : (i : Rat) < x.trunc.toInt + x.fract.toRat := by linarith
    rw [Int.compare_eq_lt.mpr h, hlt.cmp_eq_lt]
    rfl
  · rw [h, Int.compare_eq_eq.mpr rfl]
    show (Binary64.zero false).compare x.fract = _
    rw [Binary64.compare_eq_cmp, Binary64.toRat_zero]
    have hshift := cmp_add_left (x.trunc.toInt : Rat) 0 x.fract.toRat
    rw [add_zero] at hshift
    exact hshift.symm
  · have hle : (x.trunc.toInt : Rat) + 1 ≤ i := by exact_mod_cast h
    have hgt : x.trunc.toInt + x.fract.toRat < (i : Rat) := by linarith
    rw [Int.compare_eq_gt.mpr h, hgt.cmp_eq_gt]
    rfl

/-- An integer and a binary64 value are compared by the rationals that they denote. -/
theorem compareToFloat_eq_cmp (i : Int) (x : Binary64) :
    compareToFloat i x = cmp (i : Rat) x.toRat := by
  have hunfold : compareToFloat i x = if i < twoTo 127 && x.compare wordLimit != .lt then .lt
      else if -(twoTo 127 : Int) ≤ i && x.compare wordLimit.neg == .lt then .gt
      else (Ord.compare i x.trunc.toInt).then ((Binary64.zero false).compare x.fract) := rfl
  rw [hunfold]
  by_cases habove : (i < twoTo 127 && x.compare wordLimit != .lt) = true
  · rw [if_pos habove]
    -- the value is beyond all integers that fit, and this one fits
    rw [Bool.and_eq_true, decide_eq_true_eq, bne_iff_ne, Ne, Binary64.compare_eq_cmp,
      cmp_eq_lt_iff, not_lt, toRat_wordLimit] at habove
    obtain ⟨hfits, hbeyond⟩ := habove
    have hi : (i : Rat) < 2 ^ 127 := by exact_mod_cast hfits
    exact (hi.trans_le hbeyond).cmp_eq_lt.symm
  · rw [if_neg habove]
    by_cases hbelow : (-(twoTo 127 : Int) ≤ i && x.compare wordLimit.neg == .lt) = true
    · rw [if_pos hbelow]
      rw [Bool.and_eq_true, decide_eq_true_eq, beq_iff_eq, Binary64.compare_eq_cmp,
        cmp_eq_lt_iff, Binary64.toRat_neg, toRat_wordLimit] at hbelow
      obtain ⟨hfits, hbeyond⟩ := hbelow
      have hi : -2 ^ 127 ≤ (i : Rat) := by exact_mod_cast hfits
      exact (hbeyond.trans_le hi).cmp_eq_gt.symm
    · rw [if_neg hbelow]
      exact whole_then_fract i x

/-! ## Comparison -/

variable {a b : Number}

/-- Numbers are compared by the rationals that they denote. -/
theorem compare_eq_cmp (a b : Number) : a.compare b = cmp a.toRat b.toRat := by
  cases a with
  | int i =>
    cases b with
    | int j =>
      have hcast := Int.cast_strictMono (R := Rat).cmp_map_eq i j
      exact (hcast.trans (cmp_eq_compare i j)).symm
    | float y => exact compareToFloat_eq_cmp i y
  | float x =>
    cases b with
    | int j =>
      show (compareToFloat j x).swap = _
      rw [compareToFloat_eq_cmp]
      exact cmp_swap _ _
    | float y => exact Binary64.compare_eq_cmp x y

theorem compare_eq_lt_iff : a.compare b = .lt ↔ a.toRat < b.toRat := by
  rw [compare_eq_cmp, cmp_eq_lt_iff]

theorem compare_eq_iff : a.compare b = .eq ↔ a.toRat = b.toRat := by
  rw [compare_eq_cmp, cmp_eq_eq_iff]

theorem compare_eq_gt_iff : a.compare b = .gt ↔ b.toRat < a.toRat := by
  rw [compare_eq_cmp, cmp_eq_gt_iff]

/-- Equal numbers stand in one order to all others. -/
theorem compare_congr {a' b' : Number} (ha : a.toRat = a'.toRat) (hb : b.toRat = b'.toRat) :
    a.compare b = a'.compare b' := by
  rw [compare_eq_cmp, compare_eq_cmp, ha, hb]

/-! ## Integral numbers -/

/-- A number has no fractional part if the rational that it denotes is an
    integer. -/
theorem isIntegral_iff : a.isIntegral = true ↔ ∃ i : Int, a.toRat = i := by
  cases a with
  | int i => exact iff_of_true rfl ⟨i, rfl⟩
  | float x => exact x.isIntegral_iff

/-- Equal numbers have a fractional part or not alike. -/
theorem isIntegral_congr (h : a.toRat = b.toRat) : a.isIntegral = b.isIntegral := by
  rw [Bool.eq_iff_iff, isIntegral_iff, isIntegral_iff, h]

/-! ## Exactness -/

/-- What is exact about the order of numbers, whichever of the two forms they have. -/
structure ExactOrder : Prop where
  /-- Any two numbers stand in the order of the rationals that they denote. -/
  order (a b : Number) : a.compare b = cmp a.toRat b.toRat
  /-- They are equal if they denote one rational, and only then. -/
  eq_iff (a b : Number) : a.compare b = .eq ↔ a.toRat = b.toRat
  /-- Both zeros of binary64 are equal to the integer 0 and to one another. -/
  zeros (negative : Bool) : (float (.zero negative)).compare (int 0) = .eq ∧
    (float (.zero negative)).compare (float (.zero false)) = .eq
  /-- Swapping two numbers swaps their order. -/
  swap (a b : Number) : b.compare a = (a.compare b).swap
  /-- Of two numbers, one is not greater than the other. -/
  total (a b : Number) : a.compare b ≠ .gt ∨ b.compare a ≠ .gt
  /-- The order carries over a number between two others. -/
  trans (a b c : Number) : a.compare b ≠ .gt → b.compare c ≠ .gt → a.compare c ≠ .gt
  /-- A number is integral if the rational that it denotes is an integer. -/
  integral (a : Number) : a.isIntegral = true ↔ ∃ i : Int, a.toRat = i

theorem compare_ne_gt_iff : a.compare b ≠ .gt ↔ a.toRat ≤ b.toRat := by
  rw [Ne, compare_eq_gt_iff, not_lt]

/-- **Numbers are compared exactly**: what decides is the rationals that they denote, so
    that no form and no mixture of forms gets in the way of the order. -/
theorem numbers_compared_exactly : ExactOrder where
  order := compare_eq_cmp
  eq_iff a b := compare_eq_iff
  zeros negative := by
    have hzero : (float (.zero negative)).toRat = 0 := Binary64.toRat_zero negative
    rw [compare_eq_iff, compare_eq_iff, hzero]
    exact ⟨Int.cast_zero.symm, (Binary64.toRat_zero false).symm⟩
  swap a b := by
    rw [compare_eq_cmp, compare_eq_cmp]
    exact (cmp_swap _ _).symm
  total a b := by
    rw [compare_ne_gt_iff, compare_ne_gt_iff]
    exact le_total _ _
  trans a b c hab hbc := by
    rw [compare_ne_gt_iff] at hab hbc ⊢
    exact hab.trans hbc
  integral a := isIntegral_iff

/-- The binary64 value that is nearest to an integer. -/
def floatOf (n : Nat) : Number :=
  float ((Binary64.ofNat? n).getD (.zero false))

/-- The binary64 value `2^53`, the first after which not every integer is one. -/
def lastExact : Number :=
  floatOf 9007199254740992

/-- The binary64 value `2^53 + 2`, which is the next. -/
def nextExact : Number :=
  floatOf 9007199254740994

/-- An integer that is no binary64 value stands between the two that enclose it. -/
theorem numbers_compared_exactly_between :
    lastExact.compare (int 9007199254740993) ≠ .gt ∧
      (int 9007199254740993).compare nextExact ≠ .gt ∧
      lastExact.compare nextExact ≠ .gt ∧
      lastExact.compare (int 9007199254740993) ≠ .eq := by
  have hlow : lastExact.compare (int 9007199254740993) ≠ .gt := by decide +kernel
  have hhigh : (int 9007199254740993).compare nextExact ≠ .gt := by decide +kernel
  exact ⟨hlow, hhigh, numbers_compared_exactly.trans _ _ _ hlow hhigh, by decide +kernel⟩

/-- The fraction of a negative value counts downward, and values beyond all 128-bit
    integers exceed the largest integer of a text. -/
example : (int (-7)).compare (float ⟨true, 15, -1, by decide, by decide, by decide⟩) = .gt ∧
    (int 18446744073709551615).compare (float ⟨false, 1, 200, by decide, by decide, by decide⟩) =
      .lt := by
  decide +kernel

end Number

end WritePolicy
