import WritePolicy.Time.Date

/-! # Date/times and time zones

    A date/time is a wall clock reading together with its offset from UTC. It
    denotes an instant, counted in milliseconds, and instants are what is
    compared: one instant can be written with many offsets. A time zone is such
    an offset alone.
-/

namespace WritePolicy

/-! ## Time of day -/

/-- An existing time of day. -/
structure Clock where
  hour : Nat
  minute : Nat
  second : Nat
  milli : Nat
  hour_lt : hour < 24
  minute_lt : minute < 60
  second_lt : second < 60
  milli_lt : milli < 1000
  deriving DecidableEq

namespace Clock

/-- The time of day, if it exists. -/
def ofFields? (hour minute second milli : Nat) : Option Clock :=
  if h : hour < 24 ∧ minute < 60 ∧ second < 60 ∧ milli < 1000 then
    some ⟨hour, minute, second, milli, h.1, h.2.1, h.2.2.1, h.2.2.2⟩
  else none

/-- Milliseconds since midnight. -/
def millis (c : Clock) : Nat :=
  ((c.hour * 60 + c.minute) * 60 + c.second) * 1000 + c.milli

/-- Milliseconds of a fraction of a second of one to three digits; a shorter
    fraction is padded on the right. -/
def readFraction (bs : Bytes) : Reading Nat := do
  if 1 ≤ bs.length ∧ bs.length ≤ 3 then
    let digits ← Reading.required (Bytes.digits? bs bs.length)
    let places ← Reading.checked (Bytes.minus 3 bs.length)
    let scale ← Reading.checked (Bytes.word32 (tenTo places))
    Reading.checked (Bytes.word32 (digits * scale))
  else throw .malformed

/-- A time of day: `HH:MM`, or `HH:MM:SS` with an optional fraction. -/
def read (bs : Bytes) : Reading Clock := do
  let (clock, fraction) := match Bytes.splitOnce? 0x2E bs with
    | some (clock, fraction) => (clock, some fraction)
    | none => (bs, none)
  match Bytes.pieces 0x3A clock, fraction with
  | [hourText, minuteText], none =>
    let hour ← Reading.required (Bytes.digits? hourText 2)
    let minute ← Reading.required (Bytes.digits? minuteText 2)
    Reading.required (ofFields? hour minute 0 0)
  | [hourText, minuteText, secondText], fraction =>
    let hour ← Reading.required (Bytes.digits? hourText 2)
    let minute ← Reading.required (Bytes.digits? minuteText 2)
    let second ← Reading.required (Bytes.digits? secondText 2)
    let milli ← match fraction with
      | some f => readFraction f
      | none => pure 0
    Reading.required (ofFields? hour minute second milli)
  | _, _ => throw .malformed

end Clock

/-! ## Offsets from UTC -/

namespace Offset

/-- Minutes east of UTC of hours and minutes after a sign, each written by two
    digits. -/
def read (sign : Int) (hourText minuteText : Bytes) : Reading Int := do
  let hours ← Reading.required ((Bytes.digits? hourText 2).filter (· < 24))
  let minutes ← Reading.required ((Bytes.digits? minuteText 2).filter (· < 60))
  let hourMinutes ← Reading.checked (Bytes.word32 (hours * 60))
  let total ← Reading.checked (Bytes.word32 (hourMinutes + minutes))
  let total ← Reading.checked (Bytes.signed32 total)
  Reading.checked (Bytes.signed32 (sign * total))

/-- The value of a sign byte. -/
def sign? : UInt8 → Option Int
  | 0x2B => some 1
  | 0x2D => some (-1)
  | _ => none

/-- Hours and minutes of a designator's body: `HH`, `HHMM` or `HH:MM`. -/
def splitBody (body : Bytes) : Reading (Bytes × Bytes) := do
  if body.length = 2 then return (body, [0x30, 0x30])
  else if body.length = 4 then
    return (← Reading.required (body.slice? 0 2), ← Reading.required (body.slice? 2 4))
  else if body.length = 5 then
    if (← Reading.checked (body.byteAt 2)) = 0x3A then
      return (← Reading.required (body.slice? 0 2), ← Reading.required (body.slice? 3 5))
    else throw .malformed
  else throw .malformed

/-- A designator of a date/time: `Z`, `z`, or a sign and a body of digits and
    colons. -/
def readDesignator (bs : Bytes) : Reading Int := do
  if bs = [0x5A] ∨ bs = [0x7A] then return 0
  else
    let sign ← Reading.required (bs.head?.bind sign?)
    let body ← Reading.checked (bs.sliceFrom 1)
    if body.all (fun b => Bytes.isDigit b || b == 0x3A) then
      let (hourText, minuteText) ← splitBody body
      read sign hourText minuteText
    else throw .malformed

end Offset

/-! ## Date/times -/

/-- An instant in milliseconds since the start of 1970 UTC, and the offset in
    minutes that it was written with. -/
structure DateTime where
  instantMillis : Int
  offsetMinutes : Int
  deriving DecidableEq, Repr

namespace DateTime

/-- The date/time that shows a wall clock reading at an offset. -/
def ofFields (date : Date) (clock : Clock) (offset : Int) : DateTime :=
  ⟨date.instantMillis + clock.millis - offset * Calendar.millisPerMinute, offset⟩

/-- Order in time; the offset does not count. -/
def compare (a b : DateTime) : Ordering :=
  Ord.compare a.instantMillis b.instantMillis

/-- A byte that begins a designator. -/
def beginsDesignator (b : UInt8) : Bool :=
  b == 0x5A || b == 0x7A || b == 0x2B || b == 0x2D

/-- A date/time: a date, `T`, a time of day and a designator. The day is
    examined before the rest. -/
def read (bs : Bytes) : Reading DateTime := do
  let (dateText, rest) ← Reading.required (Bytes.splitOnce? 0x54 bs)
  let date ← Date.read dateText
  let start ← Reading.required (Bytes.find? beginsDesignator rest)
  let clockText ← Reading.checked (rest.slice 0 start)
  let designator ← Reading.checked (rest.sliceFrom start)
  let clock ← Clock.read clockText
  let offset ← Offset.readDesignator designator
  let wall ← Reading.checked (Bytes.signed64 (date.instantMillis + clock.millis))
  let shift ← Reading.checked (Bytes.signed64 (offset * Calendar.millisPerMinute))
  let instant ← Reading.checked (Bytes.signed64 (wall - shift))
  return ⟨instant, offset⟩

/-- The date/time that a text denotes. -/
def parse (s : String) : Except TemporalError DateTime :=
  (read (Bytes.ofString s)).settle s .dateTime

end DateTime

/-! ## Time zones -/

/-- An offset from UTC, in minutes. -/
structure TimeZone where
  offsetMinutes : Int
  deriving DecidableEq, Repr

namespace TimeZone

/-- Order by offset. -/
def compare (a b : TimeZone) : Ordering :=
  Ord.compare a.offsetMinutes b.offsetMinutes

/-- `Z` for no offset, else a sign, hours and minutes. -/
def text (z : TimeZone) : String :=
  if z.offsetMinutes = 0 then "Z"
  else
    let sign := if z.offsetMinutes < 0 then "-" else "+"
    let minutes := z.offsetMinutes.natAbs
    sign ++ Date.padded 2 (minutes / 60) ++ ":" ++ Date.padded 2 (minutes % 60)

/-- A time zone: `Z`, or a sign and `HH:MM`. -/
def read (bs : Bytes) : Reading TimeZone := do
  if bs = [0x5A] then return ⟨0⟩
  else
    let sign ← Reading.required (bs.head?.bind Offset.sign?)
    let body ← Reading.checked (bs.sliceFrom 1)
    let (hourText, minuteText) ← Reading.required (Bytes.splitOnce? 0x3A body)
    return ⟨← Offset.read sign hourText minuteText⟩

/-- The time zone that a text denotes. -/
def parse (s : String) : Except TemporalError TimeZone :=
  (read (Bytes.ofString s)).settle s .timeZone

end TimeZone

end WritePolicy
