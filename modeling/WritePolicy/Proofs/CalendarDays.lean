import Mathlib.Order.Monotone.Basic
import Mathlib.Algebra.Order.Group.Unbundled.Int
import Mathlib.Tactic.IntervalCases
import WritePolicy.Time.DateTime

/-! # Days of the calendar

    Days are numbered by counting: the days of the years before, of the months before and
    of the month itself. The calendar says which day follows a day (`Date.Next`): the next
    one of the month, the first one of the next month, or New Year's Day. The numbers go
    with it. They rise by one from each day to the next and from no day to another one,
    whether or not a month, a year or a leap day lies between (`Date.next_iff`), and they
    are in the order of year, month and day (`Date.dayNumber_lt_iff`).
-/

namespace WritePolicy

namespace Calendar

variable {year : Int} {month day : Nat}

/-- Number of days of a year. -/
def daysInYear (year : Int) : Nat :=
  if isLeapYear year then 366 else 365

theorem isLeapYear_eq_true_iff (year : Int) :
    isLeapYear year = true ↔ year % 4 = 0 ∧ (year % 100 ≠ 0 ∨ year % 400 = 0) := by
  simp [isLeapYear]

/-- A leap day is counted in the years after its own, also before year zero. -/
theorem daysBeforeYear_succ (year : Int) :
    daysBeforeYear (year + 1) = daysBeforeYear year + daysInYear year := by
  unfold daysBeforeYear daysInYear
  by_cases hleap : isLeapYear year = true
  · rw [if_pos hleap]
    rw [isLeapYear_eq_true_iff] at hleap
    omega
  · rw [if_neg hleap]
    rw [isLeapYear_eq_true_iff] at hleap
    omega

theorem daysBeforeYear_le {later : Int} (h : year ≤ later) :
    daysBeforeYear year ≤ daysBeforeYear later := by
  refine monotone_int_of_le_succ (fun year => ?_) h
  rw [daysBeforeYear_succ]
  omega

theorem daysBeforeMonth_one (year : Int) : daysBeforeMonth year 1 = 0 := rfl

theorem daysBeforeMonth_succ (year : Int) (hmonth : 1 ≤ month) :
    daysBeforeMonth year (month + 1) = daysBeforeMonth year month + daysInMonth year month := by
  have hprevious : month - 1 + 1 = month := by omega
  unfold daysBeforeMonth
  rw [Nat.add_sub_cancel, ← hprevious, List.range_succ, List.foldl_append, hprevious]
  simp [hprevious]

theorem daysBeforeMonth_le {later : Nat} (hmonth : 1 ≤ month) (hle : month ≤ later) :
    daysBeforeMonth year month ≤ daysBeforeMonth year later := by
  induction later, hle using Nat.le_induction with
  | base => exact Nat.le_refl _
  | succ later hle ih =>
    rw [daysBeforeMonth_succ year (by omega)]
    omega

/-- The months of a year have its days. -/
theorem daysBeforeMonth_end (year : Int) : daysBeforeMonth year 13 = daysInYear year := by
  by_cases hleap : isLeapYear year = true <;>
    simp [daysBeforeMonth, List.range_succ, daysInMonth, daysInYear, hleap]

theorem IsDay.month_bounds (h : IsDay year month day) : 1 ≤ month ∧ month ≤ 12 := by
  obtain ⟨-, -, hday, hlast⟩ := h
  by_contra hbounds
  have hnone : daysInMonth year month = 0 := by
    unfold daysInMonth
    split <;> first | rfl | omega
  omega

theorem daysInMonth_pos (year : Int) (hfirst : 1 ≤ month) (hlast : month ≤ 12) :
    1 ≤ daysInMonth year month := by
  have hfebruary : 1 ≤ if isLeapYear year then 29 else 28 := by
    split <;> decide
  interval_cases month <;> first | exact hfebruary | exact Nat.le_add_left 1 _

theorem daysInMonth_le (year : Int) (month : Nat) : daysInMonth year month ≤ 31 := by
  unfold daysInMonth
  split <;> first | decide | (split <;> decide)

end Calendar

namespace Date

open Calendar

variable {d e : Date}

theorem eq_of_fields (hyear : d.year = e.year) (hmonth : d.month = e.month)
    (hday : d.day = e.day) : d = e := by
  cases d
  cases e
  cases hyear
  cases hmonth
  cases hday
  rfl

/-- Number of days of its year before a day. -/
def dayOfYear (d : Date) : Nat :=
  daysBeforeMonth d.year d.month + (d.day - 1)

theorem dayNumber_eq (d : Date) :
    d.dayNumber = daysBeforeYear d.year - daysBeforeYear 1970 + d.dayOfYear := by
  have hday := d.isDay.2.2.1
  unfold dayNumber dayOfYear
  omega

/-- A day comes before the first one of the next month. -/
theorem dayOfYear_lt_month (d : Date) : d.dayOfYear < daysBeforeMonth d.year (d.month + 1) := by
  obtain ⟨-, -, hday, hlast⟩ := d.isDay
  rw [daysBeforeMonth_succ _ d.isDay.month_bounds.1]
  unfold dayOfYear
  omega

theorem dayOfYear_lt (d : Date) : d.dayOfYear < daysInYear d.year := by
  have hmonth := d.isDay.month_bounds
  calc d.dayOfYear < daysBeforeMonth d.year (d.month + 1) := d.dayOfYear_lt_month
    _ ≤ daysBeforeMonth d.year 13 := daysBeforeMonth_le (by omega) (by omega)
    _ = daysInYear d.year := daysBeforeMonth_end d.year

/-! ## The order of days -/

/-- Earlier by year, then by month, then by day. -/
def Before (d e : Date) : Prop :=
  d.year < e.year ∨ d.year = e.year ∧ (d.month < e.month ∨ d.month = e.month ∧ d.day < e.day)

theorem before_or_eq_or_before (d e : Date) : d.Before e ∨ d = e ∨ e.Before d := by
  by_cases hsame : d.year = e.year ∧ d.month = e.month ∧ d.day = e.day
  · exact .inr (.inl (eq_of_fields hsame.1 hsame.2.1 hsame.2.2))
  · unfold Before
    omega

theorem Before.dayNumber_lt (h : d.Before e) : d.dayNumber < e.dayNumber := by
  rw [dayNumber_eq, dayNumber_eq]
  rcases h with hyear | ⟨hyear, hmonth | ⟨hmonth, hday⟩⟩
  · -- the rest of the year of the first day lies between
    have hrest := d.dayOfYear_lt
    have hnext := daysBeforeYear_succ d.year
    have hle := daysBeforeYear_le (show d.year + 1 ≤ e.year from hyear)
    omega
  · have hrest := d.dayOfYear_lt_month
    have hle : daysBeforeMonth d.year (d.month + 1) ≤ daysBeforeMonth d.year e.month :=
      daysBeforeMonth_le (by omega) hmonth
    have hlast : daysBeforeMonth d.year e.month ≤ e.dayOfYear := by
      rw [hyear]
      exact Nat.le_add_right _ _
    rw [hyear]
    omega
  · have hfirst := d.isDay.2.2.1
    unfold dayOfYear
    rw [hyear, hmonth]
    omega

/-- Days are numbered in their order. -/
theorem dayNumber_lt_iff : d.dayNumber < e.dayNumber ↔ d.Before e := by
  constructor
  · intro h
    rcases before_or_eq_or_before d e with hbefore | rfl | hafter
    · exact hbefore
    · omega
    · have := hafter.dayNumber_lt
      omega
  · exact Before.dayNumber_lt

theorem dayNumber_eq_iff : d.dayNumber = e.dayNumber ↔ d = e := by
  constructor
  · intro h
    rcases before_or_eq_or_before d e with hbefore | rfl | hafter
    · have := hbefore.dayNumber_lt
      omega
    · rfl
    · have := hafter.dayNumber_lt
      omega
  · rintro rfl
    rfl

theorem instantMillis_lt_iff : d.instantMillis < e.instantMillis ↔ d.Before e := by
  rw [← dayNumber_lt_iff]
  unfold instantMillis millisPerDay
  omega

/-- The instants of the supported days lie far within 64-bit words. -/
theorem instantMillis_bounds (d : Date) :
    -10000000000000000 < d.instantMillis ∧ d.instantMillis < 10000000000000000 := by
  have hnumber := d.dayNumber_eq
  have hrest := d.dayOfYear_lt
  have hlength : daysInYear d.year ≤ 366 := by
    unfold daysInYear
    split <;> omega
  obtain ⟨hfirst, hlast, -, -⟩ := d.isDay
  unfold firstYear at hfirst
  unfold lastYear at hlast
  unfold daysBeforeYear at hnumber
  unfold instantMillis millisPerDay
  omega

/-! ## The day after -/

/-- The day after a day. -/
inductive Next (d e : Date) : Prop
  /-- the next day of the month -/
  | day (hyear : e.year = d.year) (hmonth : e.month = d.month) (hday : e.day = d.day + 1)
  /-- after the last day of a month, the first one of the next month -/
  | month (hlast : d.day = daysInMonth d.year d.month) (hyear : e.year = d.year)
      (hmonth : e.month = d.month + 1) (hday : e.day = 1)
  /-- after the last day of December, New Year's Day -/
  | year (hdecember : d.month = 12) (hlast : d.day = daysInMonth d.year 12)
      (hyear : e.year = d.year + 1) (hmonth : e.month = 1) (hday : e.day = 1)

/-- From a day to the next, the number rises by one. -/
theorem Next.dayNumber_eq (h : Next d e) : e.dayNumber = d.dayNumber + 1 := by
  have hfirst := d.isDay.2.2.1
  have hmonths := d.isDay.month_bounds
  rw [Date.dayNumber_eq, Date.dayNumber_eq]
  unfold dayOfYear
  cases h with
  | day hyear hmonth hday =>
    rw [hyear, hmonth, hday]
    omega
  | month hlast hyear hmonth hday =>
    rw [hyear, hmonth, hday, daysBeforeMonth_succ _ hmonths.1, hlast]
    omega
  | year hdecember hlast hyear hmonth hday =>
    -- December ends where the months of the year do
    have hlength := daysBeforeMonth_end d.year
    rw [daysBeforeMonth_succ _ (by decide : 1 ≤ 12)] at hlength
    rw [hyear, hmonth, hday, hdecember, daysBeforeYear_succ, daysBeforeMonth_one]
    omega

/-- The first supported day. -/
def first : Date :=
  ⟨firstYear, 1, 1, by decide⟩

/-- The last supported day. -/
def last : Date :=
  ⟨lastYear, 12, 31, by decide⟩

theorem first_le_dayNumber (d : Date) : first.dayNumber ≤ d.dayNumber := by
  obtain ⟨hyear, -, hday, -⟩ := d.isDay
  have hmonth := d.isDay.month_bounds
  by_contra hlt
  have hbefore := dayNumber_lt_iff.mp (Int.not_le.mp hlt)
  simp only [Before, first] at hbefore
  omega

theorem dayNumber_le_last (d : Date) : d.dayNumber ≤ last.dayNumber := by
  obtain ⟨-, hyear, -, hday⟩ := d.isDay
  have hmonth := d.isDay.month_bounds
  have hlength := daysInMonth_le d.year d.month
  by_contra hlt
  have hbefore := dayNumber_lt_iff.mp (Int.not_le.mp hlt)
  simp only [Before, last] at hbefore
  omega

/-- Every day but the last one supported has a day after it. -/
theorem exists_next (d : Date) : (∃ e, Next d e) ∨ d = last := by
  obtain ⟨hfirstYear, hlastYear, hfirst, hlast⟩ := d.isDay
  have hmonths := d.isDay.month_bounds
  -- the day, the month and the year may each be the last one
  by_cases hwithin : d.day < daysInMonth d.year d.month
  · exact .inl ⟨⟨d.year, d.month, d.day + 1, hfirstYear, hlastYear, by omega, hwithin⟩,
      .day rfl rfl rfl⟩
  by_cases hmonth : d.month < 12
  · exact .inl ⟨⟨d.year, d.month + 1, 1, hfirstYear, hlastYear, Nat.le_refl 1,
      daysInMonth_pos _ (by omega) (by omega)⟩, .month (by omega) rfl rfl rfl⟩
  have hdecember : d.month = 12 := by omega
  have hthirtyFirst : daysInMonth d.year 12 = 31 := rfl
  rw [hdecember] at hlast hwithin
  by_cases hyear : d.year < lastYear
  · have hnextYear : firstYear ≤ d.year + 1 := by omega
    exact .inl ⟨⟨d.year + 1, 1, 1, hnextYear, hyear, Nat.le_refl 1,
      daysInMonth_pos _ (by decide) (by decide)⟩, .year hdecember (by omega) rfl rfl rfl⟩
  · have hyear : d.year = lastYear := by omega
    have hday : d.day = 31 := by omega
    exact .inr (eq_of_fields hyear hdecember hday)

theorem next_iff : Next d e ↔ e.dayNumber = d.dayNumber + 1 := by
  constructor
  · exact Next.dayNumber_eq
  · intro h
    rcases exists_next d with ⟨f, hf⟩ | rfl
    · have hsame : f = e := dayNumber_eq_iff.mp (hf.dayNumber_eq.trans h.symm)
      rwa [← hsame]
    · have := e.dayNumber_le_last
      omega

/-- No number is left out between those of the first and the last day. -/
theorem exists_dayNumber_eq {n : Int} (hfirst : first.dayNumber ≤ n)
    (hlast : n ≤ last.dayNumber) : ∃ d : Date, d.dayNumber = n := by
  induction n, hfirst using Int.leInduction with
  | base => exact ⟨first, rfl⟩
  | succ n hle ih =>
    obtain ⟨d, rfl⟩ := ih (by omega)
    rcases exists_next d with ⟨e, hnext⟩ | rfl
    · exact ⟨e, hnext.dayNumber_eq⟩
    · omega

end Date

end WritePolicy
