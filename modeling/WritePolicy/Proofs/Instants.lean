import Mathlib.Order.Compare
import WritePolicy.Proofs.TemporalGrammar

/-! # Instants and the calendar

    A date stands for the instant at its midnight in UTC, a date/time for the instant at
    which clocks at its offset show it. Here the numbers of milliseconds that are compared
    are set against the calendar itself, in which a day is followed by the next one
    (`Date.Next`) and the minutes of a clock carry into days at midnight
    (`WallClock.MinutesLater`).

    To move the clock on by some minutes and the offset by as many leaves the instant as
    it is (`DateTime.ofFields_minutesLater`), also where months and years end between. At one
    offset, instants are in the order of the readings (`DateTime.ofFields_lt_iff`).
-/

namespace WritePolicy

/-! ## Days forth and back -/

/-- The second day is so many days after the first, by going on from day to day or, for a
    negative number, by going back. -/
inductive Date.DaysAfter : Int → Date → Date → Prop
  | same (d : Date) : DaysAfter 0 d d
  | forth {n : Int} {d e f : Date} (h : DaysAfter n d e) (hnext : Next e f) :
      DaysAfter (n + 1) d f
  | back {n : Int} {d e f : Date} (h : DaysAfter n d e) (hnext : Next f e) :
      DaysAfter (n - 1) d f

theorem Date.DaysAfter.dayNumber_eq {n : Int} {d e : Date} (h : DaysAfter n d e) :
    e.dayNumber = d.dayNumber + n := by
  induction h with
  | same d => omega
  | forth h hnext ih =>
    have := hnext.dayNumber_eq
    omega
  | back h hnext ih =>
    have := hnext.dayNumber_eq
    omega

/-- Going on or back, every supported day is reached. -/
theorem Date.daysAfter_iff {n : Int} {d e : Date} :
    DaysAfter n d e ↔ e.dayNumber = d.dayNumber + n := by
  constructor
  · exact DaysAfter.dayNumber_eq
  · intro h
    have hfirst := d.first_le_dayNumber
    have hlast := d.dayNumber_le_last
    -- the day before the last step has a number between two supported ones
    induction n using Int.induction_on generalizing e with
    | zero =>
      have hsame : d = e := dayNumber_eq_iff.mp (by omega)
      exact hsame ▸ .same d
    | succ n ih =>
      have := e.dayNumber_le_last
      obtain ⟨f, hf⟩ := exists_dayNumber_eq (n := d.dayNumber + n) (by omega) (by omega)
      exact .forth (ih hf) (next_iff.mpr (by omega))
    | pred n ih =>
      have := e.first_le_dayNumber
      obtain ⟨f, hf⟩ := exists_dayNumber_eq (n := d.dayNumber + -n) (by omega) (by omega)
      exact .back (ih hf) (next_iff.mpr (by omega))

theorem Date.next_iff_instantMillis {d e : Date} :
    Next d e ↔ e.instantMillis - d.instantMillis = 86400000 := by
  rw [next_iff]
  unfold instantMillis Calendar.millisPerDay
  omega

/-! ## Clocks -/

namespace Clock

variable {c d : Clock}

/-- Minutes since midnight. -/
def minuteOfDay (c : Clock) : Nat :=
  c.hour * 60 + c.minute

/-- Earlier by hour, minute, second and millisecond. -/
def Before (c d : Clock) : Prop :=
  c.hour < d.hour ∨ c.hour = d.hour ∧ (c.minute < d.minute ∨ c.minute = d.minute ∧
    (c.second < d.second ∨ c.second = d.second ∧ c.milli < d.milli))

theorem millis_eq (c : Clock) : c.millis = c.minuteOfDay * 60000 + c.second * 1000 + c.milli := by
  unfold millis minuteOfDay
  omega

theorem minuteOfDay_lt (c : Clock) : c.minuteOfDay < 1440 := by
  have := c.hour_lt
  have := c.minute_lt
  unfold minuteOfDay
  omega

theorem eq_of_minuteOfDay (hminutes : c.minuteOfDay = d.minuteOfDay)
    (hsecond : c.second = d.second) (hmilli : c.milli = d.milli) : c = d := by
  have hc := c.minute_lt
  have hd := d.minute_lt
  unfold minuteOfDay at hminutes
  have hhour : c.hour = d.hour := by omega
  have hminute : c.minute = d.minute := by omega
  cases c
  cases d
  rw [Clock.mk.injEq]
  exact ⟨hhour, hminute, hsecond, hmilli⟩

/-- The time of day of a number of minutes, with the seconds of another one. -/
def withMinuteOfDay (c : Clock) (minutes : Nat) (h : minutes < 1440) : Clock :=
  ⟨minutes / 60, minutes % 60, c.second, c.milli, by omega, by omega, c.second_lt, c.milli_lt⟩

theorem minuteOfDay_withMinuteOfDay (c : Clock) {minutes : Nat} (h : minutes < 1440) :
    (c.withMinuteOfDay minutes h).minuteOfDay = minutes := by
  simp only [minuteOfDay, withMinuteOfDay]
  omega

theorem millis_lt_iff : c.millis < d.millis ↔ c.Before d := by
  have := c.minute_lt
  have := c.second_lt
  have := c.milli_lt
  have := d.minute_lt
  have := d.second_lt
  have := d.milli_lt
  unfold millis Before
  omega

end Clock

/-- What calendar and clock show at some place. -/
structure WallClock where
  date : Date
  clock : Clock

namespace WallClock

/-- Earlier by date, then by clock. -/
def Before (w v : WallClock) : Prop :=
  w.date.Before v.date ∨ w.date = v.date ∧ w.clock.Before v.clock

/-- The second reading is so many minutes after the first: minutes that do not fit the day
    are carried over midnight, and the seconds stay. -/
def MinutesLater (minutes : Int) (w v : WallClock) : Prop :=
  ∃ days : Int, Date.DaysAfter days w.date v.date ∧
    w.clock.minuteOfDay + minutes = v.clock.minuteOfDay + 1440 * days ∧
    v.clock.second = w.clock.second ∧ v.clock.milli = w.clock.milli

/-- The number of the day that is reached after some minutes. -/
def dayNumberAfter (w : WallClock) (minutes : Int) : Int :=
  w.date.dayNumber + (w.clock.minuteOfDay + minutes) / 1440

variable {w v u : WallClock} {minutes : Int}

theorem MinutesLater.dayNumber_eq (h : w.MinutesLater minutes v) :
    v.date.dayNumber = w.dayNumberAfter minutes := by
  obtain ⟨days, hdays, hminutes, -, -⟩ := h
  have hlt := v.clock.minuteOfDay_lt
  rw [hdays.dayNumber_eq, dayNumberAfter]
  omega

theorem MinutesLater.unique (hv : w.MinutesLater minutes v) (hu : w.MinutesLater minutes u) :
    v = u := by
  have hdate : v.date = u.date :=
    Date.dayNumber_eq_iff.mp (hv.dayNumber_eq.trans hu.dayNumber_eq.symm)
  -- on the same day, both are as many minutes after midnight
  obtain ⟨m, -, hmv, hsv, hiv⟩ := hv
  obtain ⟨n, -, hnu, hsu, hiu⟩ := hu
  have hltv := v.clock.minuteOfDay_lt
  have hltu := u.clock.minuteOfDay_lt
  have hclock : v.clock = u.clock :=
    Clock.eq_of_minuteOfDay (by omega) (hsv.trans hsu.symm) (hiv.trans hiu.symm)
  cases v
  cases u
  rw [WallClock.mk.injEq]
  exact ⟨hdate, hclock⟩

/-- There is one reading some minutes later, if its day is supported. -/
theorem existsUnique_minutesLater_iff :
    (∃! v, w.MinutesLater minutes v) ↔
      Date.first.dayNumber ≤ w.dayNumberAfter minutes ∧
        w.dayNumberAfter minutes ≤ Date.last.dayNumber := by
  constructor
  · rintro ⟨v, hv, -⟩
    rw [← hv.dayNumber_eq]
    exact ⟨v.date.first_le_dayNumber, v.date.dayNumber_le_last⟩
  · rintro ⟨hfirst, hlast⟩
    -- whole days go to the date, and what is left of them to the clock
    obtain ⟨date, hdate⟩ := Date.exists_dayNumber_eq hfirst hlast
    have hlt : ((w.clock.minuteOfDay + minutes) % 1440).toNat < 1440 := by omega
    have hlater : w.MinutesLater minutes ⟨date, w.clock.withMinuteOfDay _ hlt⟩ := by
      refine ⟨(w.clock.minuteOfDay + minutes) / 1440, Date.daysAfter_iff.mpr hdate, ?_, rfl, rfl⟩
      rw [Clock.minuteOfDay_withMinuteOfDay]
      omega
    exact ⟨_, hlater, fun u hu => hu.unique hlater⟩

end WallClock

/-! ## Instants of readings -/

namespace DateTime

variable {w v : WallClock} {offset : Int}

/-- As many minutes on the clock as in the offset leave the instant. -/
theorem ofFields_minutesLater (offset : Int) {minutes : Int} (h : w.MinutesLater minutes v) :
    (ofFields v.date v.clock (offset + minutes)).instantMillis =
      (ofFields w.date w.clock offset).instantMillis := by
  obtain ⟨days, hdays, hminutes, hsecond, hmilli⟩ := h
  have hnumber := hdays.dayNumber_eq
  unfold ofFields
  simp only [Clock.millis_eq, Date.instantMillis, Calendar.millisPerDay, Calendar.millisPerMinute,
    hnumber, hsecond, hmilli]
  omega

/-- At one offset, an earlier reading is an earlier instant. -/
theorem ofFields_lt_iff (w v : WallClock) (offset : Int) :
    (ofFields w.date w.clock offset).instantMillis <
        (ofFields v.date v.clock offset).instantMillis ↔ w.Before v := by
  have hw := w.clock.millis_lt
  have hv := v.clock.millis_lt
  -- a time of day never reaches the length of a day, so days are compared first
  have hdays : (ofFields w.date w.clock offset).instantMillis <
      (ofFields v.date v.clock offset).instantMillis ↔
        w.date.dayNumber < v.date.dayNumber ∨
          w.date.dayNumber = v.date.dayNumber ∧ w.clock.millis < v.clock.millis := by
    unfold ofFields Date.instantMillis Calendar.millisPerDay
    dsimp only
    omega
  rw [hdays, Date.dayNumber_lt_iff, Clock.millis_lt_iff, Date.dayNumber_eq_iff]
  rfl

/-- The text writes a reading and an offset. -/
def Shows (s : String) (w : WallClock) (offset : Int) : Prop :=
  ∃ (f : DateTimeText) (h : f.Exists), f.text = s ∧ f.date.date h.date = w.date ∧
    f.clock.clock h.clock = w.clock ∧ f.designator.offset = offset

theorem parse_of_shows {s : String} (h : Shows s w offset) :
    parse s = .ok (ofFields w.date w.clock offset) := by
  obtain ⟨f, hexists, rfl, hdate, hclock, hoffset⟩ := h
  rw [parse_text hexists, DateTimeText.dateTime, hdate, hclock, hoffset]

theorem exists_shows {s : String} {t : DateTime} (h : parse s = .ok t) :
    ∃ w, Shows s w t.offsetMinutes ∧ ofFields w.date w.clock t.offsetMinutes = t := by
  obtain ⟨f, hexists, rfl, rfl⟩ := parse_eq_ok_iff.mp h
  exact ⟨⟨f.date.date hexists.date, f.clock.clock hexists.clock⟩,
    ⟨f, hexists, rfl, rfl, rfl, rfl⟩, rfl⟩

end DateTime

/-! ## Readings in writing -/

/-- A year of at most six digits. -/
theorem YearText.exists_value (year : Int) (hlow : -1000000 < year) (hhigh : year < 1000000) :
    ∃ y : YearText, y.value = year := by
  have hsix : year.natAbs < 10 ^ 6 := by omega
  by_cases hnegative : year < 0
  · refine ⟨.long .minus (.ofNat year.natAbs (by decide) hsix), ?_⟩
    rw [YearText.value, Numeral.value_ofNat, Sign.factor]
    omega
  · refine ⟨.long .plus (.ofNat year.natAbs (by decide) hsix), ?_⟩
    rw [YearText.value, Numeral.value_ofNat, Sign.factor]
    omega

theorem DateText.exists_date (d : Date) : ∃ (f : DateText) (h : f.Exists), f.date h = d := by
  obtain ⟨hlow, hhigh, -, -⟩ := d.isDay
  unfold Calendar.firstYear at hlow
  unfold Calendar.lastYear at hhigh
  obtain ⟨y, hy⟩ := YearText.exists_value d.year (by omega) (by omega)
  exact ⟨_, exists_date_ofDate hy⟩

theorem Fraction.exists_millis {n : Nat} (h : n < 1000) : ∃ f : Fraction, f.millis = n := by
  let digits : Numeral 3 := .ofNat n (by decide) h
  refine ⟨.ofNumeral digits (by decide) (by decide), ?_⟩
  rw [millis_ofNumeral, Nat.sub_self, Nat.pow_zero, Nat.mul_one]
  exact Numeral.value_ofNat _ _ _

theorem ClockText.exists_clock (c : Clock) : ∃ (f : ClockText) (h : f.Exists), f.clock h = c := by
  obtain ⟨hour, minute, second, milli, hhour, hminute, hsecond, hmilli⟩ := c
  obtain ⟨fraction, rfl⟩ := Fraction.exists_millis hmilli
  let f : ClockText := .millis (.ofNat hour (by decide) (by omega))
    (.ofNat minute (by decide) (by omega)) (.ofNat second (by decide) (by omega)) fraction
  have hfields : f.hour = hour ∧ f.minute = minute ∧ f.second = second :=
    ⟨Numeral.value_ofNat _ _ _, Numeral.value_ofNat _ _ _, Numeral.value_ofNat _ _ _⟩
  have hexists : f.Exists := by
    unfold Exists
    rw [hfields.1, hfields.2.1, hfields.2.2]
    exact ⟨hhour, hminute, hsecond⟩
  refine ⟨f, hexists, ?_⟩
  unfold clock
  rw [Clock.mk.injEq]
  exact ⟨hfields.1, hfields.2.1, hfields.2.2, rfl⟩

/-- Every reading can be written at every offset that has a designator. -/
theorem DateTime.exists_text (w : WallClock) (z : Designator) : ∃ s, Shows s w z.offset := by
  obtain ⟨date, hdate, hday⟩ := DateText.exists_date w.date
  obtain ⟨clock, hclock, htime⟩ := ClockText.exists_clock w.clock
  exact ⟨_, ⟨date, clock, z⟩, ⟨hdate, hclock⟩, rfl, hday, htime, rfl⟩

/-! ## The laws of instants -/

/-- How the instants that are compared follow the calendar. -/
structure InstantLaws : Prop where
  /-- Dates are in the order of year, month and day. -/
  dates (d e : Date) : d.Before e ↔ d.instantMillis < e.instantMillis
  /-- Counting starts with 1970. -/
  start : ∃ d, Date.parse "1970-01-01" = .ok d ∧ d.instantMillis = 0
  /-- From a day to the next it is 86,400,000 milliseconds. -/
  nextDay (d e : Date) : d.Next e ↔ e.instantMillis - d.instantMillis = 86400000
  /-- Only the last supported day has no next one. -/
  lastDay (d : Date) : (∃ e, d.Next e) ∨ d = Date.last
  /-- A date/time that is parsed shows a reading at its offset. -/
  shown {s : String} {t : DateTime} : DateTime.parse s = .ok t →
    ∃ w, DateTime.Shows s w t.offsetMinutes
  /-- Minutes are carried to one reading, as long as its day is supported. -/
  carried (w : WallClock) (minutes : Int) : (∃! v, w.MinutesLater minutes v) ↔
    Date.first.dayNumber ≤ w.dayNumberAfter minutes ∧
      w.dayNumberAfter minutes ≤ Date.last.dayNumber
  /-- The reading some minutes later, at the offset that is so many minutes larger, can be
      written, and is the same instant. -/
  moved {s : String} {t : DateTime} {w v : WallClock} {minutes : Int} {z : Designator} :
    DateTime.parse s = .ok t → DateTime.Shows s w t.offsetMinutes →
    w.MinutesLater minutes v → z.offset = t.offsetMinutes + minutes →
    (∃ r, DateTime.Shows r v z.offset) ∧
      ∀ r, DateTime.Shows r v z.offset → ∃ u, DateTime.parse r = .ok u ∧
        u.instantMillis = t.instantMillis ∧ t.compare u = .eq
  /-- At one offset, the later reading is greater. -/
  ordered {s r : String} {t u : DateTime} {w v : WallClock} :
    DateTime.parse s = .ok t → DateTime.parse r = .ok u → t.offsetMinutes = u.offsetMinutes →
    DateTime.Shows s w t.offsetMinutes → DateTime.Shows r v u.offsetMinutes →
    (w.Before v ↔ u.compare t = .gt)

/-- **Instants follow the calendar**, of dates and of date/times at all offsets. -/
theorem instant_laws : InstantLaws where
  dates d e := Date.instantMillis_lt_iff.symm
  start := by
    let f : DateText := ⟨.plain (.ofDigits ['1', '9', '7', '0'] rfl),
      .ofDigits ['0', '1'] rfl, .ofDigits ['0', '1'] rfl⟩
    have hexists : f.Exists := by decide
    exact ⟨⟨1970, 1, 1, by decide⟩, Date.parse_text hexists, by decide +kernel⟩
  nextDay d e := Date.next_iff_instantMillis
  lastDay := Date.exists_next
  shown h := by
    obtain ⟨w, hshows, -⟩ := DateTime.exists_shows h
    exact ⟨w, hshows⟩
  carried w minutes := WallClock.existsUnique_minutesLater_iff
  moved {s t w v minutes z} hparse hshows hlater hoffset := by
    refine ⟨DateTime.exists_text v z, fun r hr => ?_⟩
    rw [DateTime.parse_of_shows hshows, Except.ok.injEq] at hparse
    have hinstant := DateTime.ofFields_minutesLater t.offsetMinutes hlater
    rw [← hoffset, hparse] at hinstant
    refine ⟨_, DateTime.parse_of_shows hr, hinstant, ?_⟩
    unfold DateTime.compare
    rw [hinstant]
    exact compare_eq_iff_eq.mpr rfl
  ordered {s r t u w v} ht hu hoffset hw hv := by
    rw [DateTime.parse_of_shows hw, Except.ok.injEq] at ht
    rw [DateTime.parse_of_shows hv, Except.ok.injEq] at hu
    have hlt := DateTime.ofFields_lt_iff w v t.offsetMinutes
    rw [ht, hoffset, hu] at hlt
    rw [← hlt]
    exact compare_gt_iff_gt.symm

/-- Half past midnight on New Year's Day in UTC. -/
def newYear : DateTimeText where
  date := ⟨.plain (.ofDigits ['2', '0', '1', '9'] rfl), .ofDigits ['0', '1'] rfl,
    .ofDigits ['0', '1'] rfl⟩
  clock := .minutes .zeros (.ofDigits ['3', '0'] rfl)
  designator := .upperZ

/-- The same instant, an hour west of UTC. -/
def newYearsEve : DateTimeText where
  date := ⟨.plain (.ofDigits ['2', '0', '1', '8'] rfl), .ofDigits ['1', '2'] rfl,
    .ofDigits ['3', '1'] rfl⟩
  clock := .minutes (.ofDigits ['2', '3'] rfl) (.ofDigits ['3', '0'] rfl)
  designator := .hours .minus ⟨.ofDigits ['0', '1'] rfl, by decide⟩

/-- An hour back over the end of a year. -/
theorem instant_laws_newYear :
    ∃ t u, DateTime.parse "2019-01-01T00:30Z" = .ok t ∧
      DateTime.parse "2018-12-31T23:30-01" = .ok u ∧ u.instantMillis = t.instantMillis ∧
      t.compare u = .eq := by
  have hday : newYear.Exists := by decide
  have heve : newYearsEve.Exists := by decide
  let w : WallClock := ⟨⟨2019, 1, 1, by decide⟩,
    ⟨0, 30, 0, 0, by decide, by decide, by decide, by decide⟩⟩
  let v : WallClock := ⟨⟨2018, 12, 31, by decide⟩,
    ⟨23, 30, 0, 0, by decide, by decide, by decide, by decide⟩⟩
  have hw : DateTime.Shows "2019-01-01T00:30Z" w 0 := ⟨newYear, hday, rfl, rfl, rfl, rfl⟩
  have hv : DateTime.Shows "2018-12-31T23:30-01" v (-60) :=
    ⟨newYearsEve, heve, rfl, rfl, rfl, rfl⟩
  have hnext : Date.Next v.date w.date :=
    .year rfl (by decide) (by decide) rfl rfl
  have hlater : w.MinutesLater (-60) v := ⟨0 - 1, .back (.same _) hnext, by decide, rfl, rfl⟩
  obtain ⟨-, hsame⟩ := instant_laws.moved (z := newYearsEve.designator)
    (DateTime.parse_of_shows hw) hw hlater rfl
  obtain ⟨u, hu, hinstant, hequal⟩ := hsame _ hv
  exact ⟨_, u, DateTime.parse_of_shows hw, hu, hinstant, hequal⟩

end WritePolicy
