import Mathlib.Algebra.Group.Nat.Defs
import Mathlib.Data.List.Basic
import WritePolicy.Time.DateTime

/-! # Temporal texts

    The written forms of dates, date/times and time zones, given by their fields. A field
    is a numeral of a fixed number of ASCII digits (`Numeral`), a sign, or one of the
    letters for UTC; what stands between fields is fixed by the form. Fields may be
    written that name no day or no time of day: the form of a text and the existence of
    what it names are separate (`DateText.Exists`, `ClockText.Exists`).

    No text can be taken apart into fields in two ways (`DateText.text_injective`,
    `DateTimeText.text_injective`, `TimeZoneText.text_injective`). A hyphen can stand
    before a year, between its fields and before an offset, so this is shown from the
    lengths of the fields, which are fixed everywhere but in the year and in a fraction.
-/

namespace WritePolicy

/-! ## Numerals -/

/-- A numeral of a fixed number of ASCII digits. -/
@[ext]
structure Numeral (width : Nat) where
  chars : List Char
  isDigit : ∀ c ∈ chars, c.isDigit = true
  length_eq : chars.length = width

namespace Numeral

variable {w : Nat}

/-- The number that is written, in base ten. -/
def value (n : Numeral w) : Nat :=
  Nat.ofDigitChars 10 n.chars 0

theorem not_mem (n : Numeral w) {c : Char} (hc : c.isDigit = false) : c ∉ n.chars := by
  intro hmem
  rw [n.isDigit c hmem] at hc
  cases hc

/-- Reading on from a number multiplies its bound by ten for each digit. -/
theorem ofDigitChars_lt {cs : List Char} (h : ∀ c ∈ cs, c.isDigit = true) (init : Nat) :
    Nat.ofDigitChars 10 cs init < 10 ^ cs.length * (init + 1) := by
  induction cs generalizing init with
  | nil => simp
  | cons c cs ih =>
    have hdigit : c.toNat - '0'.toNat ≤ 9 := by
      have := Char.isDigit_iff_toNat.mp (h c (by simp))
      have hnine : '9'.toNat = '0'.toNat + 9 := rfl
      omega
    calc Nat.ofDigitChars 10 (c :: cs) init
        = Nat.ofDigitChars 10 cs (10 * init + (c.toNat - '0'.toNat)) := Nat.ofDigitChars_cons
      _ < 10 ^ cs.length * (10 * init + (c.toNat - '0'.toNat) + 1) :=
          ih (fun x hx => h x (by simp [hx])) _
      _ ≤ 10 ^ cs.length * (10 * (init + 1)) := Nat.mul_le_mul_left _ (by omega)
      _ = 10 ^ (c :: cs).length * (init + 1) := by
          rw [List.length_cons, Nat.pow_succ, Nat.mul_assoc]

theorem value_lt (n : Numeral w) : n.value < 10 ^ w := by
  have h := ofDigitChars_lt n.isDigit 0
  rwa [n.length_eq, Nat.zero_add, Nat.mul_one] at h

/-- The numeral of given digits. -/
def ofDigits (chars : List Char) (h : chars.all Char.isDigit = true) : Numeral chars.length :=
  ⟨chars, List.all_eq_true.mp h, rfl⟩

/-- Two zeros. -/
def zeros : Numeral 2 :=
  ofDigits ['0', '0'] rfl

/-- The digits of a number, with zeros in front. -/
def ofNat (n : Nat) (hw : 0 < w) (hn : n < 10 ^ w) : Numeral w where
  chars := (Nat.toDigits 10 n).leftpad w '0'
  isDigit := by
    intro c hc
    rcases List.mem_append.mp hc with hc | hc
    · rw [(List.mem_replicate.mp hc).2]
      rfl
    · exact Nat.isDigit_of_mem_toDigits (by decide) (by decide) hc
  length_eq := by
    rw [List.length_leftpad]
    exact Nat.max_eq_left ((Nat.length_toDigits_le_iff (by decide) hw).mpr hn)

@[simp] theorem value_ofNat (n : Nat) (hw : 0 < w) (hn : n < 10 ^ w) :
    (ofNat n hw hn).value = n := by
  unfold value ofNat List.leftpad
  rw [Nat.ofDigitChars_append, Nat.ofDigitChars_replicate_zero, Nat.mul_zero,
    Nat.ofDigitChars_ten_toDigits]

end Numeral

/-- A numeral below 24. -/
abbrev HourText : Type := { n : Numeral 2 // n.value < 24 }

/-- A numeral below 60. -/
abbrev MinuteText : Type := { n : Numeral 2 // n.value < 60 }

/-- A sign in front of digits. -/
inductive Sign where
  | plus | minus
  deriving DecidableEq

namespace Sign

def char : Sign → Char
  | plus => '+'
  | minus => '-'

def factor : Sign → Int
  | plus => 1
  | minus => -1

theorem char_injective {s t : Sign} (h : s.char = t.char) : s = t := by
  cases s <;> cases t <;> first | rfl | cases h

theorem isDigit_char (s : Sign) : s.char.isDigit = false := by
  cases s <;> rfl

end Sign

/-! ## Dates -/

/-- A year: four digits, with or without a sign, or six digits with a sign. -/
inductive YearText where
  | plain (digits : Numeral 4)
  | signed (sign : Sign) (digits : Numeral 4)
  | long (sign : Sign) (digits : Numeral 6)

namespace YearText

def chars : YearText → List Char
  | plain digits => digits.chars
  | signed sign digits => sign.char :: digits.chars
  | long sign digits => sign.char :: digits.chars

/-- The year that is written. -/
def value : YearText → Int
  | plain digits => digits.value
  | signed sign digits => sign.factor * digits.value
  | long sign digits => sign.factor * digits.value

theorem chars_injective {y z : YearText} (h : y.chars = z.chars) : y = z := by
  have hlength := congrArg List.length h
  cases y <;> cases z <;> simp only [chars, List.length_cons, Numeral.length_eq] at h hlength <;>
    try omega
  case plain.plain m n => rw [Numeral.ext h]
  case signed.signed s m t n =>
    rw [List.cons.injEq] at h
    rw [Sign.char_injective h.1, Numeral.ext h.2]
  case long.long s m t n =>
    rw [List.cons.injEq] at h
    rw [Sign.char_injective h.1, Numeral.ext h.2]

theorem not_mem {y : YearText} {c : Char} (hdigit : c.isDigit = false)
    (hsign : ∀ s : Sign, c ≠ s.char) : c ∉ y.chars := by
  cases y with
  | plain n => exact n.not_mem hdigit
  | signed s n => simp [chars, hsign s, n.not_mem hdigit]
  | long s n => simp [chars, hsign s, n.not_mem hdigit]

end YearText

/-- A date: year, month and day, with hyphens between them. -/
@[ext]
structure DateText where
  year : YearText
  month : Numeral 2
  day : Numeral 2

namespace DateText

def chars (f : DateText) : List Char :=
  f.year.chars ++ '-' :: (f.month.chars ++ '-' :: f.day.chars)

def text (f : DateText) : String :=
  String.ofList f.chars

/-- The fields name a supported day of the calendar. -/
def Exists (f : DateText) : Prop :=
  Calendar.IsDay f.year.value f.month.value f.day.value

instance (f : DateText) : Decidable f.Exists :=
  inferInstanceAs (Decidable (Calendar.IsDay _ _ _))

/-- The day that is written. -/
def date (f : DateText) (h : f.Exists) : Date :=
  ⟨f.year.value, f.month.value, f.day.value, h⟩

theorem chars_injective {f g : DateText} (h : f.chars = g.chars) : f = g := by
  -- what follows the year has six characters
  obtain ⟨hyear, hrest⟩ := List.append_inj' h (by simp [Numeral.length_eq])
  rw [List.cons.injEq] at hrest
  obtain ⟨hmonth, hday⟩ := List.append_inj hrest.2 (by simp [Numeral.length_eq])
  rw [List.cons.injEq] at hday
  exact DateText.ext (YearText.chars_injective hyear) (Numeral.ext hmonth) (Numeral.ext hday.2)

theorem text_injective {f g : DateText} (h : f.text = g.text) : f = g :=
  chars_injective (String.ofList_injective h)

/-- A date has digits and signs only. -/
theorem not_mem_T {f : DateText} : 'T' ∉ f.chars := by
  have hdigit : 'T'.isDigit = false := rfl
  have hsign : ∀ s : Sign, 'T' ≠ s.char := by
    intro s
    cases s <;> decide
  simp [chars, YearText.not_mem hdigit hsign, Numeral.not_mem _ hdigit]

end DateText

/-! ## Times of day -/

/-- A fraction of a second: one to three digits. -/
@[ext]
structure Fraction where
  chars : List Char
  isDigit : ∀ c ∈ chars, c.isDigit = true
  length_pos : 1 ≤ chars.length
  length_le : chars.length ≤ 3

namespace Fraction

variable {w : Nat}

/-- The digits as a numeral. -/
def numeral (f : Fraction) : Numeral f.chars.length :=
  ⟨f.chars, f.isDigit, rfl⟩

/-- The digits of a short numeral, behind a dot. -/
def ofNumeral (n : Numeral w) (hpos : 1 ≤ w) (hle : w ≤ 3) : Fraction :=
  ⟨n.chars, n.isDigit, by rwa [n.length_eq], by rwa [n.length_eq]⟩

/-- Milliseconds: the number that is written once zeros make it three digits. -/
def millis (f : Fraction) : Nat :=
  Nat.ofDigitChars 10 (f.chars.rightpad 3 '0') 0

/-- Each zero on the right multiplies by ten. -/
theorem millis_eq (f : Fraction) : f.millis = f.numeral.value * 10 ^ (3 - f.chars.length) := by
  rw [millis, List.rightpad, Nat.ofDigitChars_append, Nat.ofDigitChars_replicate_zero,
    Nat.mul_comm]
  rfl

theorem millis_ofNumeral (n : Numeral w) (hpos : 1 ≤ w) (hle : w ≤ 3) :
    (ofNumeral n hpos hle).millis = n.value * 10 ^ (3 - w) := by
  obtain ⟨chars, hdigits, rfl⟩ := n
  exact millis_eq _

theorem millis_lt (f : Fraction) : f.millis < 1000 := by
  have hdigits : ∀ c ∈ f.chars.rightpad 3 '0', c.isDigit = true := by
    intro c hc
    rcases List.mem_append.mp hc with hc | hc
    · exact f.isDigit c hc
    · rw [(List.mem_replicate.mp hc).2]
      rfl
  have h := Numeral.ofDigitChars_lt hdigits 0
  rwa [List.length_rightpad, Nat.max_eq_left f.length_le] at h

end Fraction

/-- A time of day: hours and minutes, then seconds if they are written, then their
    fraction if it is. -/
inductive ClockText where
  | minutes (hour minute : Numeral 2)
  | seconds (hour minute second : Numeral 2)
  | millis (hour minute second : Numeral 2) (fraction : Fraction)

namespace ClockText

def chars : ClockText → List Char
  | minutes hour minute => hour.chars ++ ':' :: minute.chars
  | seconds hour minute second => hour.chars ++ ':' :: (minute.chars ++ ':' :: second.chars)
  | millis hour minute second fraction =>
    hour.chars ++ ':' :: (minute.chars ++ ':' :: (second.chars ++ '.' :: fraction.chars))

def hour : ClockText → Nat
  | minutes hour _ | seconds hour _ _ | millis hour _ _ _ => hour.value

def minute : ClockText → Nat
  | minutes _ minute | seconds _ minute _ | millis _ minute _ _ => minute.value

/-- Seconds that are not written are none. -/
def second : ClockText → Nat
  | minutes _ _ => 0
  | seconds _ _ second | millis _ _ second _ => second.value

def milli : ClockText → Nat
  | minutes _ _ | seconds _ _ _ => 0
  | millis _ _ _ fraction => fraction.millis

theorem milli_lt (f : ClockText) : f.milli < 1000 := by
  cases f with
  | minutes => exact Nat.zero_lt_succ _
  | seconds => exact Nat.zero_lt_succ _
  | millis _ _ _ fraction => exact fraction.millis_lt

/-- The fields name a time of day. -/
def Exists (f : ClockText) : Prop :=
  f.hour < 24 ∧ f.minute < 60 ∧ f.second < 60

instance (f : ClockText) : Decidable f.Exists :=
  inferInstanceAs (Decidable (_ ∧ _ ∧ _))

/-- The time of day that is written. -/
def clock (f : ClockText) (h : f.Exists) : Clock :=
  ⟨f.hour, f.minute, f.second, f.milli, h.1, h.2.1, h.2.2, f.milli_lt⟩

theorem chars_injective {f g : ClockText} (h : f.chars = g.chars) : f = g := by
  have hlength := congrArg List.length h
  cases f <;> cases g <;>
    simp only [chars, List.length_append, List.length_cons, Numeral.length_eq] at h hlength <;>
    try omega
  case minutes.minutes =>
    obtain ⟨hhour, hrest⟩ := List.append_inj h (by simp [Numeral.length_eq])
    rw [List.cons.injEq] at hrest
    rw [Numeral.ext hhour, Numeral.ext hrest.2]
  case seconds.seconds =>
    obtain ⟨hhour, hrest⟩ := List.append_inj h (by simp [Numeral.length_eq])
    rw [List.cons.injEq] at hrest
    obtain ⟨hminute, hsecond⟩ := List.append_inj hrest.2 (by simp [Numeral.length_eq])
    rw [List.cons.injEq] at hsecond
    rw [Numeral.ext hhour, Numeral.ext hminute, Numeral.ext hsecond.2]
  case millis.millis =>
    obtain ⟨hhour, hrest⟩ := List.append_inj h (by simp [Numeral.length_eq])
    rw [List.cons.injEq] at hrest
    obtain ⟨hminute, hrest⟩ := List.append_inj hrest.2 (by simp [Numeral.length_eq])
    rw [List.cons.injEq] at hrest
    obtain ⟨hsecond, hfraction⟩ := List.append_inj hrest.2 (by simp [Numeral.length_eq])
    rw [List.cons.injEq] at hfraction
    rw [Numeral.ext hhour, Numeral.ext hminute, Numeral.ext hsecond, Fraction.ext hfraction.2]

theorem five_le_length_chars (f : ClockText) : 5 ≤ f.chars.length := by
  cases f <;> simp only [chars, List.length_append, List.length_cons, Numeral.length_eq] <;> omega

/-- A time of day has digits, colons and a dot. -/
theorem mem_chars {f : ClockText} {c : Char} (h : c ∈ f.chars) :
    c.isDigit = true ∨ c = ':' ∨ c = '.' := by
  cases f <;> simp only [chars, List.mem_append, List.mem_cons] at h
  case minutes hour minute =>
    rcases h with h | rfl | h
    · exact .inl (hour.isDigit c h)
    · exact .inr (.inl rfl)
    · exact .inl (minute.isDigit c h)
  case seconds hour minute second =>
    rcases h with h | rfl | h | rfl | h
    · exact .inl (hour.isDigit c h)
    · exact .inr (.inl rfl)
    · exact .inl (minute.isDigit c h)
    · exact .inr (.inl rfl)
    · exact .inl (second.isDigit c h)
  case millis hour minute second fraction =>
    rcases h with h | rfl | h | rfl | h | rfl | h
    · exact .inl (hour.isDigit c h)
    · exact .inr (.inl rfl)
    · exact .inl (minute.isDigit c h)
    · exact .inr (.inl rfl)
    · exact .inl (second.isDigit c h)
    · exact .inr (.inr rfl)
    · exact .inl (fraction.isDigit c h)

end ClockText

/-! ## Offsets from UTC -/

/-- Minutes east of UTC of a sign, hours and minutes. -/
def Sign.offset (sign : Sign) (hours minutes : Nat) : Int :=
  sign.factor * (hours * 60 + minutes : Nat)

/-- The designator of a date/time: a letter for UTC, or a sign before hours, hours and
    minutes, or hours and minutes with a colon between them. -/
inductive Designator where
  | upperZ
  | lowerZ
  | hours (sign : Sign) (hour : HourText)
  | compact (sign : Sign) (hour : HourText) (minute : MinuteText)
  | extended (sign : Sign) (hour : HourText) (minute : MinuteText)

namespace Designator

def chars : Designator → List Char
  | upperZ => ['Z']
  | lowerZ => ['z']
  | hours sign hour => sign.char :: hour.1.chars
  | compact sign hour minute => sign.char :: (hour.1.chars ++ minute.1.chars)
  | extended sign hour minute => sign.char :: (hour.1.chars ++ ':' :: minute.1.chars)

/-- Minutes east of UTC. -/
def offset : Designator → Int
  | upperZ | lowerZ => 0
  | hours sign hour => sign.offset hour.1.value 0
  | compact sign hour minute | extended sign hour minute =>
    sign.offset hour.1.value minute.1.value

theorem chars_injective {f g : Designator} (h : f.chars = g.chars) : f = g := by
  have hlength := congrArg List.length h
  cases f <;> cases g <;>
    simp only [chars, List.length_append, List.length_cons, List.length_nil, Numeral.length_eq,
      List.cons.injEq] at h hlength <;>
    try omega
  case upperZ.upperZ => rfl
  case upperZ.lowerZ => cases h.1
  case lowerZ.upperZ => cases h.1
  case lowerZ.lowerZ => rfl
  case hours.hours => rw [Sign.char_injective h.1, Subtype.ext (Numeral.ext h.2)]
  case compact.compact =>
    obtain ⟨hhour, hminute⟩ := List.append_inj h.2 (by simp [Numeral.length_eq])
    rw [Sign.char_injective h.1, Subtype.ext (Numeral.ext hhour), Subtype.ext (Numeral.ext hminute)]
  case extended.extended =>
    obtain ⟨hhour, hrest⟩ := List.append_inj h.2 (by simp [Numeral.length_eq])
    rw [List.cons.injEq] at hrest
    rw [Sign.char_injective h.1, Subtype.ext (Numeral.ext hhour),
      Subtype.ext (Numeral.ext hrest.2)]

/-- The characters that begin a designator: the letters for UTC and the signs. -/
def Begins (c : Char) : Prop :=
  c = 'Z' ∨ c = 'z' ∨ c = '+' ∨ c = '-'

instance (c : Char) : Decidable (Begins c) :=
  inferInstanceAs (Decidable (_ ∨ _ ∨ _ ∨ _))

theorem begins_sign (s : Sign) : Begins s.char := by
  cases s <;> decide

theorem exists_chars_eq (f : Designator) : ∃ c cs, f.chars = c :: cs ∧ Begins c := by
  cases f with
  | upperZ => exact ⟨_, _, rfl, .inl rfl⟩
  | lowerZ => exact ⟨_, _, rfl, .inr (.inl rfl)⟩
  | hours sign => exact ⟨_, _, rfl, begins_sign sign⟩
  | compact sign => exact ⟨_, _, rfl, begins_sign sign⟩
  | extended sign => exact ⟨_, _, rfl, begins_sign sign⟩

/-- No character of a time of day begins a designator. -/
theorem not_begins_of_mem_clock {f : ClockText} : ∀ c ∈ f.chars, ¬ Begins c := by
  intro c hc hmark
  rcases hmark with rfl | rfl | rfl | rfl <;>
    rcases ClockText.mem_chars hc with h | h | h <;> cases h

end Designator

/-! ## Date/times and time zones -/

/-- A date/time: a date, `T`, a time of day and a designator. -/
@[ext]
structure DateTimeText where
  date : DateText
  clock : ClockText
  designator : Designator

namespace DateTimeText

def chars (f : DateTimeText) : List Char :=
  f.date.chars ++ 'T' :: (f.clock.chars ++ f.designator.chars)

def text (f : DateTimeText) : String :=
  String.ofList f.chars

/-- The day and the time of day exist. -/
def Exists (f : DateTimeText) : Prop :=
  f.date.Exists ∧ f.clock.Exists

instance (f : DateTimeText) : Decidable f.Exists :=
  inferInstanceAs (Decidable (_ ∧ _))

theorem Exists.date {f : DateTimeText} (h : f.Exists) : f.date.Exists := h.1

theorem Exists.clock {f : DateTimeText} (h : f.Exists) : f.clock.Exists := h.2

/-- The date/time that is written. -/
def dateTime (f : DateTimeText) (h : f.Exists) : DateTime :=
  DateTime.ofFields (f.date.date h.date) (f.clock.clock h.clock) f.designator.offset

/-- Two lists that part in two where a property first holds have the same parts. -/
theorem eq_of_append_eq {α : Type} {p : α → Prop} {a b c d : List α} {x y : α}
    (h : a ++ x :: c = b ++ y :: d) (ha : ∀ z ∈ a, ¬ p z) (hb : ∀ z ∈ b, ¬ p z) (hx : p x)
    (hy : p y) : a = b ∧ x :: c = y :: d := by
  -- on the shorter of the two first parts
  induction a generalizing b with
  | nil =>
    cases b with
    | nil => exact ⟨rfl, h⟩
    | cons z b =>
      rw [List.nil_append, List.cons_append, List.cons.injEq] at h
      rw [h.1] at hx
      exact absurd hx (hb z (by simp))
  | cons z a ih =>
    cases b with
    | nil =>
      rw [List.nil_append, List.cons_append, List.cons.injEq] at h
      rw [← h.1] at hy
      exact absurd hy (ha z (by simp))
    | cons u b =>
      rw [List.cons_append, List.cons_append, List.cons.injEq] at h
      obtain ⟨hsame, hrest⟩ := ih h.2 (fun v hv => ha v (by simp [hv]))
        fun v hv => hb v (by simp [hv])
      exact ⟨by rw [h.1, hsame], hrest⟩

theorem chars_injective {f g : DateTimeText} (h : f.chars = g.chars) : f = g := by
  have hnone : ∀ d : DateText, ∀ c ∈ d.chars, ¬ c = 'T' := by
    rintro d _ hc rfl
    exact DateText.not_mem_T hc
  obtain ⟨hdate, hrest⟩ := eq_of_append_eq h (hnone _) (hnone _) rfl rfl
  obtain ⟨x, xs, hf, hx⟩ := f.designator.exists_chars_eq
  obtain ⟨y, ys, hg, hy⟩ := g.designator.exists_chars_eq
  rw [List.cons.injEq, hf, hg] at hrest
  obtain ⟨hclock, hdesignator⟩ := eq_of_append_eq hrest.2 Designator.not_begins_of_mem_clock
    Designator.not_begins_of_mem_clock hx hy
  rw [← hf, ← hg] at hdesignator
  exact DateTimeText.ext (DateText.chars_injective hdate) (ClockText.chars_injective hclock)
    (Designator.chars_injective hdesignator)

theorem text_injective {f g : DateTimeText} (h : f.text = g.text) : f = g :=
  chars_injective (String.ofList_injective h)

end DateTimeText

/-- A time zone: `Z`, or a sign before hours and minutes with a colon between them. -/
inductive TimeZoneText where
  | utc
  | offset (sign : Sign) (hour : HourText) (minute : MinuteText)

namespace TimeZoneText

def chars : TimeZoneText → List Char
  | utc => ['Z']
  | offset sign hour minute => sign.char :: (hour.1.chars ++ ':' :: minute.1.chars)

def text (f : TimeZoneText) : String :=
  String.ofList f.chars

/-- The time zone that is written. -/
def timeZone : TimeZoneText → TimeZone
  | utc => ⟨0⟩
  | offset sign hour minute => ⟨sign.offset hour.1.value minute.1.value⟩

/-- A time zone is written like the designator of a date/time. -/
def designator : TimeZoneText → Designator
  | utc => .upperZ
  | offset sign hour minute => .extended sign hour minute

theorem chars_designator (f : TimeZoneText) : f.designator.chars = f.chars := by
  cases f <;> rfl

theorem text_injective {f g : TimeZoneText} (h : f.text = g.text) : f = g := by
  have hchars : f.designator.chars = g.designator.chars := by
    rw [chars_designator, chars_designator]
    exact String.ofList_injective h
  have hsame := Designator.chars_injective hchars
  cases f <;> cases g <;> cases hsame <;> rfl

end TimeZoneText

end WritePolicy
