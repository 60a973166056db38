import WritePolicy.Time.Error

/-! # Calendar dates

    Days of the proleptic Gregorian calendar, with a year zero, from
    -262143-01-01 to +262142-12-31. A date stands for midnight UTC on its day,
    so dates are ordered by day number.
-/

namespace WritePolicy

/-! ## The calendar -/

namespace Calendar

/-- Leap years: every fourth year, but of the centuries only every fourth. -/
def isLeapYear (year : Int) : Bool :=
  year % 4 == 0 && (year % 100 != 0 || year % 400 == 0)

/-- Number of days of a month; zero for a month that does not exist. -/
def daysInMonth (year : Int) (month : Nat) : Nat :=
  match month with
  | 1 | 3 | 5 | 7 | 8 | 10 | 12 => 31
  | 4 | 6 | 9 | 11 => 30
  | 2 => if isLeapYear year then 29 else 28
  | _ => 0

/-- The first supported year. -/
def firstYear : Int := -262143

/-- The last supported year. -/
def lastYear : Int := 262142

/-- Year, month and day name a supported calendar day. -/
def IsDay (year : Int) (month day : Nat) : Prop :=
  firstYear ≤ year ∧ year ≤ lastYear ∧ 1 ≤ day ∧ day ≤ daysInMonth year month

instance (year : Int) (month day : Nat) : Decidable (IsDay year month day) :=
  inferInstanceAs (Decidable (_ ∧ _ ∧ _ ∧ _))

/-- Days from 1 January of year zero to 1 January of a year. -/
def daysBeforeYear (year : Int) : Int :=
  365 * year + (year + 3) / 4 - (year + 99) / 100 + (year + 399) / 400

/-- Days of a year before the first of a month. -/
def daysBeforeMonth (year : Int) (month : Nat) : Nat :=
  (List.range (month - 1)).foldl (fun days m => days + daysInMonth year (m + 1)) 0

/-- Milliseconds of a day. -/
def millisPerDay : Int := 86400000

/-- Milliseconds of a minute. -/
def millisPerMinute : Int := 60000

end Calendar

/-- An existing calendar day. -/
structure Date where
  year : Int
  month : Nat
  day : Nat
  isDay : Calendar.IsDay year month day
  deriving DecidableEq

namespace Date

/-- The day, if it exists. -/
def ofFields? (year : Int) (month day : Nat) : Option Date :=
  if h : Calendar.IsDay year month day then some ⟨year, month, day, h⟩ else none

/-- Days since 1 January 1970. -/
def dayNumber (d : Date) : Int :=
  Calendar.daysBeforeYear d.year - Calendar.daysBeforeYear 1970 +
    Calendar.daysBeforeMonth d.year d.month + (d.day - 1)

/-- Milliseconds from the start of 1970 to midnight UTC on the day. -/
def instantMillis (d : Date) : Int :=
  d.dayNumber * Calendar.millisPerDay

/-- Order in time. -/
def compare (a b : Date) : Ordering :=
  Ord.compare a.dayNumber b.dayNumber

/-! ## Text -/

/-- At least `width` digits, with zeros in front. -/
def padded (width n : Nat) : String :=
  let ds := Nat.toDigits 10 n
  String.ofList (List.replicate (width - ds.length) '0' ++ ds)

/-- `YYYY-MM-DD`; a year outside 0 … 9999 carries its sign. -/
def text (d : Date) : String :=
  let sign := if d.year < 0 then "-" else if 9999 < d.year then "+" else ""
  sign ++ padded 4 d.year.natAbs ++ "-" ++ padded 2 d.month ++ "-" ++ padded 2 d.day

/-! ## Reading -/

/-- The sign in front of a year, and the bytes after it. -/
def readSign (bs : Bytes) : Reading (Int × Bytes) :=
  match bs.head? with
  | some 0x2B => return (1, ← Reading.checked (bs.sliceFrom 1))
  | some 0x2D => return (-1, ← Reading.checked (bs.sliceFrom 1))
  | _ => return (1, bs)

/-- A date: an optional sign, then year, month and day between hyphens. The
    year has four digits, or six if there is a sign; month and day have two. -/
def read (bs : Bytes) : Reading Date := do
  let (sign, unsigned) ← readSign bs
  let hasSign := unsigned.length != bs.length
  match Bytes.pieces 0x2D unsigned with
  | [yearText, monthText, dayText] =>
    let width := yearText.length
    if width = 4 ∨ (hasSign ∧ width = 6) then
      let year ← Reading.required (Bytes.digits? yearText width)
      let month ← Reading.required (Bytes.digits? monthText 2)
      let day ← Reading.required (Bytes.digits? dayText 2)
      let year ← Reading.checked (Bytes.signed32 (sign * year))
      match ofFields? year month day with
      | some d => return d
      | none => throw .noSuchDay
    else throw .malformed
  | _ => throw .malformed

/-- The date that a text denotes. -/
def parse (s : String) : Except TemporalError Date :=
  (read (Bytes.ofString s)).settle s .date

end Date

end WritePolicy
