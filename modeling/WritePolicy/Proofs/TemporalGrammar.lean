import WritePolicy.Proofs.CalendarDays
import WritePolicy.Proofs.TemporalReading

/-! # The grammars of temporal texts

    What the parsers of dates, date/times and time zones accept, and as what, in terms of
    the written forms (`parsed_iff_written`).

    In a date/time the day is examined before anything that follows `T` is looked at. So a
    day that does not exist is reported whatever follows, while a time of day that does
    not exist is malformed like a text of another form (`DateTime.refused_iff`). The
    instant is computed in words of 64 bits, which all supported days fit.
-/

namespace WritePolicy

open Bytes (ofChars IsAscii)

/-! ## Days in writing -/

namespace DateText

/-- A day, with its year as it is given. -/
def ofDate (year : YearText) (d : Date) : DateText where
  year := year
  month := .ofNat d.month (by decide) (by
    have := d.isDay.month_bounds
    omega)
  day := .ofNat d.day (by decide) (by
    have := d.isDay.2.2.2
    have := Calendar.daysInMonth_le d.year d.month
    omega)

/-- With its own year, the day is the one that is written. -/
theorem exists_date_ofDate {year : YearText} {d : Date} (h : year.value = d.year) :
    ∃ hexists : (ofDate year d).Exists, (ofDate year d).date hexists = d := by
  have hmonth : (ofDate year d).month.value = d.month := by
    simp only [ofDate, Numeral.value_ofNat]
  have hday : (ofDate year d).day.value = d.day := by
    simp only [ofDate, Numeral.value_ofNat]
  have hexists : (ofDate year d).Exists := by
    unfold Exists
    rw [hmonth, hday]
    exact h ▸ d.isDay
  exact ⟨hexists, Date.eq_of_fields h hmonth hday⟩

end DateText

/-! ## Date/times -/

namespace Designator

theorem offset_bounds (f : Designator) : -1440 < f.offset ∧ f.offset < 1440 := by
  cases f with
  | upperZ => decide
  | lowerZ => decide
  | hours sign hour => exact sign.offset_bounds hour.2 (by decide)
  | compact sign hour minute => exact sign.offset_bounds hour.2 minute.2
  | extended sign hour minute => exact sign.offset_bounds hour.2 minute.2

end Designator

theorem Clock.millis_lt (c : Clock) : c.millis < 86400000 := by
  have := c.hour_lt
  have := c.minute_lt
  have := c.second_lt
  have := c.milli_lt
  unfold Clock.millis
  omega

namespace DateTime

/-- The bytes that begin a designator are those of the characters that do. -/
theorem beginsDesignator_iff {b : UInt8} :
    beginsDesignator b = true ↔ ∃ c, Designator.Begins c ∧ b = c.toUInt8 := by
  constructor
  · intro h
    simp only [beginsDesignator, Bool.or_eq_true, beq_iff_eq] at h
    rcases h with ((rfl | rfl) | rfl) | rfl
    · exact ⟨'Z', by decide, rfl⟩
    · exact ⟨'z', by decide, rfl⟩
    · exact ⟨'+', by decide, rfl⟩
    · exact ⟨'-', by decide, rfl⟩
  · rintro ⟨c, rfl | rfl | rfl | rfl, rfl⟩ <;> rfl

theorem isAscii_of_begins {c : Char} (h : Designator.Begins c) : IsAscii c := by
  rcases h with rfl | rfl | rfl | rfl <;> decide

theorem not_beginsDesignator {a : List Char} (h : ∀ c ∈ a, ¬ Designator.Begins c) :
    ∀ b ∈ ofChars a, beginsDesignator b = false := by
  intro b hb
  rw [Bool.eq_false_iff]
  intro hbegins
  obtain ⟨c, hc, rfl⟩ := beginsDesignator_iff.mp hbegins
  exact h c ((Bytes.ascii_mem_ofChars_iff (isAscii_of_begins hc)).mp hb) hc

/-- The instant of a wall clock reading at an offset fits a word at every step. -/
def ofWall (date : Date) (clock : Clock) (offset : Int) : Reading DateTime := do
  let wall ← Reading.checked (Bytes.signed64 (date.instantMillis + clock.millis))
  let shift ← Reading.checked (Bytes.signed64 (offset * Calendar.millisPerMinute))
  let instant ← Reading.checked (Bytes.signed64 (wall - shift))
  return ⟨instant, offset⟩

theorem ofWall_eq (date : Date) (clock : Clock) {offset : Int}
    (h : -1440 < offset ∧ offset < 1440) :
    ofWall date clock offset = pure (ofFields date clock offset) := by
  have hword : ((twoTo 63 : Nat) : Int) = 9223372036854775808 := rfl
  have hday := date.instantMillis_bounds
  have htime := clock.millis_lt
  have hshift : offset * Calendar.millisPerMinute = offset * 60000 := rfl
  unfold ofWall Bytes.signed64
  rw [hshift, if_pos (by omega), Reading.checked_ok, pure_bind, if_pos (by omega),
    Reading.checked_ok, pure_bind, if_pos (by omega), Reading.checked_ok, pure_bind]
  rfl

/-- Reading goes on after the date. -/
def readRest (date : Date) (rest : Bytes) : Reading DateTime := do
  let start ← Reading.required (Bytes.find? beginsDesignator rest)
  let clockText ← Reading.checked (rest.slice 0 start)
  let designator ← Reading.checked (rest.sliceFrom start)
  let clock ← Clock.read clockText
  let offset ← Offset.readDesignator designator
  ofWall date clock offset

theorem read_eq (bs : Bytes) :
    read bs = Reading.required (Bytes.splitOnce? 0x54 bs) >>= fun p =>
      Date.read p.1 >>= fun date => readRest date p.2 := rfl

/-- Before the designator stands the time of day. -/
theorem readRest_of_begins (date : Date) {a : List Char} (ha : ∀ c ∈ a, ¬ Designator.Begins c)
    {c : Char} (hc : Designator.Begins c) (b : List Char) :
    readRest date (ofChars (a ++ c :: b)) =
      Clock.read (ofChars a) >>= fun clock =>
        Offset.readDesignator (ofChars (c :: b)) >>= fun offset => ofWall date clock offset := by
  have hfind : Bytes.find? beginsDesignator (ofChars (a ++ c :: b)) = some (ofChars a).length := by
    rw [Bytes.ofChars_append, Bytes.ofChars_cons_of_ascii (isAscii_of_begins hc)]
    exact Bytes.find?_append (not_beginsDesignator ha) (beginsDesignator_iff.mpr ⟨c, hc, rfl⟩) _
  have hclock : Bytes.slice (ofChars (a ++ c :: b)) 0 (ofChars a).length = .ok (ofChars a) :=
    Bytes.slice_ofChars [] a (c :: b)
  unfold readRest
  rw [hfind, Reading.required_some, pure_bind, hclock, Reading.checked_ok, pure_bind,
    Bytes.sliceFrom_ofChars, Reading.checked_ok, pure_bind]

theorem readRest_text (date : Date) (f : ClockText) (z : Designator) :
    readRest date (ofChars (f.chars ++ z.chars)) =
      Reading.required (Clock.ofFields? f.hour f.minute f.second f.milli) >>= fun clock =>
        pure (ofFields date clock z.offset) := by
  obtain ⟨c, b, hz, hc⟩ := z.exists_chars_eq
  have hoffset := Offset.readDesignator_text z
  rw [hz] at hoffset
  rw [hz, readRest_of_begins date Designator.not_begins_of_mem_clock hc, Clock.read_text, hoffset]
  simp only [pure_bind, ofWall_eq _ _ z.offset_bounds]

theorem readRest_cases (date : Date) (cs : List Char) :
    readRest date (ofChars cs) = throw .malformed ∨
      ∃ (f : ClockText) (z : Designator), cs = f.chars ++ z.chars := by
  -- the text is parted where a designator could begin first
  cases hbegins : cs.find? (fun c => decide (Designator.Begins c)) with
  | none =>
    have hnone : Bytes.find? beginsDesignator (ofChars cs) = none :=
      Bytes.find?_eq_none (not_beginsDesignator (by simpa using hbegins))
    unfold readRest
    rw [hnone]
    exact .inl rfl
  | some c =>
    obtain ⟨hc, a, b, rfl, ha⟩ := List.find?_eq_some_iff_append.mp hbegins
    rw [readRest_of_begins date (by simpa using ha) (by simpa using hc)]
    rcases Clock.read_cases a with hnone | ⟨f, rfl⟩
    · exact .inl (by rw [hnone]; rfl)
    rcases Offset.readDesignator_cases (c :: b) with hnone | ⟨z, hz⟩
    · rw [hnone, Clock.read_text]
      cases Clock.ofFields? f.hour f.minute f.second f.milli <;> exact .inl rfl
    · exact .inr ⟨f, z, by rw [hz]⟩

/-- The date before `T` is examined first. -/
theorem read_of_date (f : DateText) (rest : List Char) :
    read (ofChars (f.chars ++ 'T' :: rest)) =
      Date.verdict f.year.value f.month.value f.day.value >>= fun date =>
        readRest date (ofChars rest) := by
  have hsplit : Bytes.splitOnce? 0x54 (ofChars (f.chars ++ 'T' :: rest)) =
      some (ofChars f.chars, ofChars rest) :=
    Bytes.splitOnce?_ofChars (m := 'T') (by decide) DateText.not_mem_T rest
  rw [read_eq, hsplit, Reading.required_some, pure_bind, Date.read_text]

/-- Without a date before `T`, a text is malformed. -/
theorem read_cases (cs : List Char) :
    read (ofChars cs) = throw .malformed ∨
      ∃ (f : DateText) (rest : List Char), cs = f.chars ++ 'T' :: rest := by
  by_cases hmark : 'T' ∈ cs
  · obtain ⟨a, b, rfl, ha⟩ := List.eq_append_cons_of_mem hmark
    have hsplit : Bytes.splitOnce? 0x54 (ofChars (a ++ 'T' :: b)) =
        some (ofChars a, ofChars b) := Bytes.splitOnce?_ofChars (m := 'T') (by decide) ha b
    rw [read_eq, hsplit, Reading.required_some, pure_bind]
    rcases Date.read_cases a with hnone | ⟨f, rfl⟩
    · exact .inl (by rw [hnone]; rfl)
    · exact .inr ⟨f, b, rfl⟩
  · have hsplit : Bytes.splitOnce? 0x54 (ofChars cs) = none :=
      Bytes.splitOnce?_ofChars_eq_none (m := 'T') (by decide) hmark
    rw [read_eq, hsplit]
    exact .inl rfl

end DateTime

/-! ## Time zones -/

namespace TimeZone

theorem read_of_sign (s : Sign) (body : List Char) :
    read (ofChars (s.char :: body)) =
      Reading.required (Bytes.splitOnce? 0x3A (ofChars body)) >>= fun p =>
        Offset.read s.factor p.1 p.2 >>= fun offset => pure ⟨offset⟩ := by
  have hZ : ofChars (s.char :: body) ≠ [0x5A] :=
    s.ofChars_ne (m := 'Z') (by decide) (by cases s <;> decide) body
  unfold read
  rw [if_neg hZ, Offset.head?_bind_sign?, Bytes.sliceFrom_cons s.isAscii_char]
  rfl

theorem read_text (f : TimeZoneText) : read (ofChars f.chars) = pure f.timeZone := by
  cases f with
  | utc => rfl
  | offset sign hour minute =>
    have hsplit : Bytes.splitOnce? 0x3A (ofChars (hour.1.chars ++ ':' :: minute.1.chars)) =
        some (ofChars hour.1.chars, ofChars minute.1.chars) :=
      Bytes.splitOnce?_ofChars (m := ':') (by decide) (hour.1.not_mem rfl) _
    simp only [TimeZoneText.chars]
    rw [read_of_sign, hsplit, Reading.required_some, pure_bind, Offset.read_text, pure_bind]
    rfl

/-- Every other text is malformed. -/
theorem read_cases (cs : List Char) :
    read (ofChars cs) = throw .malformed ∨ ∃ f : TimeZoneText, cs = f.chars := by
  by_cases hupper : cs = ['Z']
  · exact .inr ⟨.utc, hupper⟩
  have hZ : ofChars cs ≠ [0x5A] :=
    mt (Bytes.ofChars_eq_singleton_iff (m := 'Z') (by decide)).mp hupper
  cases hsign : (ofChars cs).head?.bind Offset.sign? with
  | none =>
    unfold read
    rw [if_neg hZ, hsign]
    exact .inl rfl
  | some i =>
    obtain ⟨s, body, rfl⟩ := Offset.exists_of_sign? hsign
    rw [read_of_sign]
    by_cases hcolon : ':' ∈ body
    · obtain ⟨a, b, rfl, ha⟩ := List.eq_append_cons_of_mem hcolon
      have hsplit : Bytes.splitOnce? 0x3A (ofChars (a ++ ':' :: b)) =
          some (ofChars a, ofChars b) := Bytes.splitOnce?_ofChars (m := ':') (by decide) ha b
      rw [hsplit, Reading.required_some, pure_bind]
      rcases Offset.read_cases s.factor a b with hnone | ⟨h, m, rfl, rfl⟩
      · exact .inl (by rw [hnone]; rfl)
      · exact .inr ⟨.offset s h m, rfl⟩
    · have hsplit : Bytes.splitOnce? 0x3A (ofChars body) = none :=
        Bytes.splitOnce?_ofChars_eq_none (m := ':') (by decide) hcolon
      rw [hsplit]
      exact .inl rfl

end TimeZone

/-! ## What is parsed -/

namespace Date

theorem parse_text {f : DateText} (h : f.Exists) : parse f.text = .ok (f.date h) := by
  unfold parse DateText.text
  rw [Bytes.ofString_ofList, read_text, verdict_of_exists h, Reading.settle_pure]

theorem parse_text_of_not_exists {f : DateText} (h : ¬ f.Exists) :
    parse f.text = .error (.noSuchDay f.text) := by
  unfold parse DateText.text
  rw [Bytes.ofString_ofList, read_text, verdict_of_not_exists h, Reading.settle_noSuchDay]

theorem parse_cases (s : String) :
    parse s = .error (.malformed s .date) ∨ ∃ f : DateText, s = f.text := by
  rcases read_cases s.toList with hnone | ⟨f, hf⟩
  · refine .inl ?_
    show (read (ofChars s.toList)).settle s .date = _
    rw [hnone, Reading.settle_malformed]
  · exact .inr ⟨f, by rw [DateText.text, ← hf, String.ofList_toList]⟩

/-- A date is parsed if its fields name a day, as that day. -/
theorem parse_eq_ok_iff {s : String} {d : Date} :
    parse s = .ok d ↔ ∃ (f : DateText) (h : f.Exists), f.text = s ∧ f.date h = d := by
  constructor
  · intro hparse
    rcases parse_cases s with hnone | ⟨f, rfl⟩
    · rw [hnone] at hparse
      cases hparse
    by_cases h : f.Exists
    · rw [parse_text h, Except.ok.injEq] at hparse
      exact ⟨f, h, rfl, hparse⟩
    · rw [parse_text_of_not_exists h] at hparse
      cases hparse
  · rintro ⟨f, h, rfl, rfl⟩
    exact parse_text h

end Date

namespace DateTime

/-- The text begins with a date and `T`, and the date names no day. -/
def NamesNoDay (s : String) : Prop :=
  ∃ (f : DateText) (rest : String), f.text ++ "T" ++ rest = s ∧ ¬ f.Exists

theorem toList_date_append (f : DateText) (rest : String) :
    (f.text ++ "T" ++ rest).toList = f.chars ++ 'T' :: rest.toList := by
  simp [DateText.text]

theorem parse_of_namesNoDay {s : String} (h : NamesNoDay s) : parse s = .error (.noSuchDay s) := by
  obtain ⟨f, rest, rfl, hf⟩ := h
  show (read (ofChars (f.text ++ "T" ++ rest).toList)).settle _ _ = _
  rw [toList_date_append, read_of_date, Date.verdict_of_not_exists hf, Reading.throw_bind,
    Reading.settle_noSuchDay]

theorem parse_text_eq (f : DateTimeText) (h : f.date.Exists) :
    parse f.text =
      (Reading.required (Clock.ofFields? f.clock.hour f.clock.minute f.clock.second f.clock.milli)
        >>= fun clock => pure (ofFields (f.date.date h) clock f.designator.offset)).settle
          f.text .dateTime := by
  unfold parse
  rw [DateTimeText.text, Bytes.ofString_ofList, DateTimeText.chars, read_of_date,
    Date.verdict_of_exists h, pure_bind, readRest_text]

theorem parse_text {f : DateTimeText} (h : f.Exists) : parse f.text = .ok (f.dateTime h) := by
  rw [parse_text_eq f h.1, Clock.ofFields?_of_exists h.2, Reading.required_some, pure_bind,
    Reading.settle_pure]
  rfl

/-- A time of day that does not exist is malformed. -/
theorem parse_text_of_no_clock {f : DateTimeText} (hday : f.date.Exists)
    (h : ¬ f.clock.Exists) : parse f.text = .error (.malformed f.text .dateTime) := by
  rw [parse_text_eq f hday, Clock.ofFields?_of_not_exists h, Reading.required_none,
    Reading.throw_bind, Reading.settle_malformed]

theorem parse_cases (s : String) :
    parse s = .error (.malformed s .dateTime) ∨ NamesNoDay s ∨
      ∃ f : DateTimeText, f.Exists ∧ f.text = s := by
  have hparse : parse s = (read (ofChars s.toList)).settle s .dateTime := rfl
  rcases read_cases s.toList with hnone | ⟨d, rest, hs⟩
  · exact .inl (by rw [hparse, hnone, Reading.settle_malformed])
  -- a day that does not exist decides before the rest is read
  by_cases hday : d.Exists
  · rcases readRest_cases (d.date hday) rest with hnone | ⟨c, z, rfl⟩
    · refine .inl ?_
      rw [hparse, hs, read_of_date, Date.verdict_of_exists hday, pure_bind, hnone,
        Reading.settle_malformed]
    · have htext : (⟨d, c, z⟩ : DateTimeText).text = s := by
        rw [DateTimeText.text, DateTimeText.chars, ← hs, String.ofList_toList]
      by_cases hclock : c.Exists
      · exact .inr (.inr ⟨⟨d, c, z⟩, ⟨hday, hclock⟩, htext⟩)
      · rw [← htext]
        exact .inl (parse_text_of_no_clock hday hclock)
  · refine .inr (.inl ⟨d, String.ofList rest, ?_, hday⟩)
    apply String.toList_injective
    rw [toList_date_append, String.toList_ofList, hs]

/-- A date/time is parsed if its fields name a day and a time of day, as their instant
    and offset. -/
theorem parse_eq_ok_iff {s : String} {t : DateTime} :
    parse s = .ok t ↔ ∃ (f : DateTimeText) (h : f.Exists), f.text = s ∧ f.dateTime h = t := by
  constructor
  · intro hparse
    rcases parse_cases s with hnone | hday | ⟨f, h, rfl⟩
    · rw [hnone] at hparse
      cases hparse
    · rw [parse_of_namesNoDay hday] at hparse
      cases hparse
    · rw [parse_text h, Except.ok.injEq] at hparse
      exact ⟨f, h, rfl, hparse⟩
  · rintro ⟨f, h, rfl, rfl⟩
    exact parse_text h

end DateTime

namespace TimeZone

theorem parse_text (f : TimeZoneText) : parse f.text = .ok f.timeZone := by
  unfold parse TimeZoneText.text
  rw [Bytes.ofString_ofList, read_text, Reading.settle_pure]

/-- Every time zone that is written is parsed. -/
theorem parse_eq_ok_iff {s : String} {z : TimeZone} :
    parse s = .ok z ↔ ∃ f : TimeZoneText, f.text = s ∧ f.timeZone = z := by
  constructor
  · intro hparse
    rcases read_cases s.toList with hnone | ⟨f, hf⟩
    · have hmalformed : parse s = .error (.malformed s .timeZone) := by
        show (read (ofChars s.toList)).settle s .timeZone = _
        rw [hnone, Reading.settle_malformed]
      rw [hmalformed] at hparse
      cases hparse
    · have htext : f.text = s := by rw [TimeZoneText.text, ← hf, String.ofList_toList]
      rw [← htext, parse_text, Except.ok.injEq] at hparse
      exact ⟨f, htext, hparse⟩
  · rintro ⟨f, rfl, rfl⟩
    exact parse_text f

end TimeZone

/-- **Grammars of temporal texts**: a text is parsed as a date, a date/time or a time zone
    exactly if it is written in that form with fields that name an existing day and time
    of day, and then as what these fields denote. The fields are determined by the text. -/
theorem parsed_iff_written :
    (∀ (s : String) (d : Date), Date.parse s = .ok d ↔
      ∃ (f : DateText) (h : f.Exists), f.text = s ∧ f.date h = d) ∧
    (∀ (s : String) (t : DateTime), DateTime.parse s = .ok t ↔
      ∃ (f : DateTimeText) (h : f.Exists), f.text = s ∧ f.dateTime h = t) ∧
    (∀ (s : String) (z : TimeZone), TimeZone.parse s = .ok z ↔
      ∃ f : TimeZoneText, f.text = s ∧ f.timeZone = z) ∧
    (∀ f g : DateText, f.text = g.text → f = g) ∧
    (∀ f g : DateTimeText, f.text = g.text → f = g) ∧
    ∀ f g : TimeZoneText, f.text = g.text → f = g :=
  ⟨fun _ _ => Date.parse_eq_ok_iff, fun _ _ => DateTime.parse_eq_ok_iff,
    fun _ _ => TimeZone.parse_eq_ok_iff, fun _ _ => DateText.text_injective,
    fun _ _ => DateTimeText.text_injective, fun _ _ => TimeZoneText.text_injective⟩

/-- An evening seven hours west of UTC, with tenths of a second. -/
def westernEvening : DateTimeText where
  date := ⟨.plain (.ofDigits ['2', '0', '1', '6'] rfl), .ofDigits ['0', '7'] rfl,
    .ofDigits ['1', '9'] rfl⟩
  clock := .millis (.ofDigits ['1', '9'] rfl) (.ofDigits ['2', '4'] rfl)
    (.ofDigits ['3', '8'] rfl) (.ofNumeral (.ofDigits ['9'] rfl) (by decide) (by decide))
  designator := .compact .minus ⟨.ofDigits ['0', '7'] rfl, by decide⟩ Offset.noMinutes

theorem westernEvening_exists : westernEvening.Exists := by decide

theorem parsed_iff_written_evening :
    DateTime.parse "2016-07-19T19:24:38.9-0700" = .ok ⟨1468981478900, -420⟩ := by
  have hinstant : westernEvening.dateTime westernEvening_exists = ⟨1468981478900, -420⟩ := by
    decide +kernel
  exact (parsed_iff_written.2.1 _ _).mpr ⟨westernEvening, westernEvening_exists, rfl, hinstant⟩

/-! ## Refusals -/

namespace DateTime

/-- **Refused date/times**: a text is refused for a day that does not exist if it begins
    with a date and `T` and the date names no day, whatever follows. Every other text that
    does not write an existing day and time of day is malformed. The error carries the
    whole text. -/
theorem refused_iff (s : String) (e : TemporalError) :
    parse s = .error e ↔
      e = .noSuchDay s ∧ NamesNoDay s ∨
      e = .malformed s .dateTime ∧ ¬ NamesNoDay s ∧
        ¬ ∃ f : DateTimeText, f.Exists ∧ f.text = s := by
  by_cases hday : NamesNoDay s
  · rw [parse_of_namesNoDay hday, Except.error.injEq]
    simp only [hday, not_true, false_and, and_false, or_false, and_true]
    exact eq_comm
  by_cases hwritten : ∃ f : DateTimeText, f.Exists ∧ f.text = s
  · obtain ⟨t, ht⟩ : ∃ t, parse s = .ok t := by
      obtain ⟨f, h, rfl⟩ := hwritten
      exact ⟨_, parse_text h⟩
    rw [ht]
    simp only [hday, hwritten, not_true, and_false, or_false, reduceCtorEq]
  · rw [(parse_cases s).resolve_right (not_or.mpr ⟨hday, hwritten⟩), Except.error.injEq]
    simp only [hday, hwritten, not_false_iff, and_false, false_or, and_true]
    exact eq_comm

/-- Neither is every date/time that is written with a time of day that does not exist
    refused as one, nor is what is refused so always written in full. -/
theorem refused_against_form :
    ¬ (∀ f : DateTimeText, ¬ f.Exists → parse f.text = .error (.noSuchDay f.text)) ∧
      ¬ ∀ s : String, parse s = .error (.noSuchDay s) →
        ∃ f : DateTimeText, f.text = s ∧ ¬ f.Exists := by
  let leapDay : DateText := ⟨.plain (.ofDigits ['2', '0', '1', '6'] rfl),
    .ofDigits ['0', '2'] rfl, .ofDigits ['2', '9'] rfl⟩
  let noDay : DateText := ⟨.plain (.ofDigits ['2', '0', '1', '5'] rfl),
    .ofDigits ['0', '2'] rfl, .ofDigits ['2', '9'] rfl⟩
  let noTime : ClockText := .minutes (.ofDigits ['2', '5'] rfl) (.ofDigits ['1', '3'] rfl)
  constructor
  · intro hrefused
    have hday : leapDay.Exists := by decide
    have htime : ¬ noTime.Exists := by decide
    have h := hrefused ⟨leapDay, noTime, .upperZ⟩ fun hexists => htime hexists.2
    rw [parse_text_of_no_clock hday htime] at h
    cases h
  · intro hwritten
    obtain ⟨f, htext, -⟩ := hwritten "2015-02-29T"
      (parse_of_namesNoDay ⟨noDay, "", rfl, by decide⟩)
    -- a time of day and a designator would follow
    have hchars : f.chars = "2015-02-29T".toList := by
      rw [← htext, DateTimeText.text, String.toList_ofList]
    have hlength := congrArg List.length hchars
    have hclock := f.clock.five_le_length_chars
    simp only [DateTimeText.chars, DateText.chars, List.length_append, List.length_cons,
      Numeral.length_eq] at hlength
    have heleven : "2015-02-29T".toList.length = 11 := rfl
    omega

end DateTime

end WritePolicy
