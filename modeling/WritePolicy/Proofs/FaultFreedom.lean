import WritePolicy.Proofs.StrictReading

/-! # Readers that never fault

    The readers of dates, date/times and time zones slice and index the bytes of a text from
    outside and compute in words. No text makes them fault, whatever characters stand in it
    and wherever they stand (`temporal_readings_never_fault`).

    Each reader is written over its operations (`readBy`). With the lenient ones this is the
    reader itself, by definition (`readBy_lenient`). With the strict ones it has the same
    verdict on every text (`readBy_sameVerdict`).

    That the bytes are a text is needed where a sign is taken off and where a date/time is
    cut in its parts. All else is read from any bytes: digits are looked at one by one, and
    the body of a designator is sliced only once it is known to be digits and colons.
-/

namespace WritePolicy

open Reading (Operations SameVerdict)

/-! ## Dates -/

namespace Date

/-- A date, read with some operations. -/
def readBy (ops : Operations) (bs : Bytes) : Reading Date := do
  let (sign, unsigned) ← readSign bs
  let hasSign := unsigned.length != bs.length
  match Bytes.pieces 0x2D unsigned with
  | [yearText, monthText, dayText] =>
    let width := yearText.length
    if width = 4 ∨ (hasSign ∧ width = 6) then
      let year ← Reading.required (← ops.digits yearText width)
      let month ← Reading.required (← ops.digits monthText 2)
      let day ← Reading.required (← ops.digits dayText 2)
      let year ← Reading.checked (Bytes.signed32 (sign * year))
      match ofFields? year month day with
      | some d => return d
      | none => throw .noSuchDay
    else throw .malformed
  | _ => throw .malformed

theorem readBy_lenient (bs : Bytes) : readBy .lenient bs = read bs := rfl

theorem readSign_sameVerdict {bs : Bytes} (h : bs.IsText) :
    SameVerdict (readSign bs) (readSign bs) fun p => ∃ s : Sign, p.1 = s.factor := by
  unfold readSign
  split
  · next hplus =>
    obtain ⟨rest, hrest, -⟩ := h.sliceFrom_one (s := .plus) hplus
    exact .after_checked hrest (.pure ⟨.plus, rfl⟩)
  · next hminus =>
    obtain ⟨rest, hrest, -⟩ := h.sliceFrom_one (s := .minus) hminus
    exact .after_checked hrest (.pure ⟨.minus, rfl⟩)
  · exact .pure ⟨.plus, rfl⟩

/-- A year of up to six digits fits a signed word, with either sign. -/
theorem signed32_year (s : Sign) {year : Nat} (hyear : year < 10 ^ 6) :
    Bytes.signed32 (s.factor * year) = .ok (s.factor * year) := by
  have hword : ((twoTo 31 : Nat) : Int) = 2147483648 := rfl
  unfold Bytes.signed32
  rw [if_pos]
  cases s <;> simp only [Sign.factor] <;> omega

theorem readBy_sameVerdict {bs : Bytes} (h : bs.IsText) :
    SameVerdict (readBy .strict bs) (readBy .lenient bs) fun _ => True := by
  unfold readBy
  refine (readSign_sameVerdict h).bind fun p hsign => ?_
  obtain ⟨sign, unsigned⟩ := p
  obtain ⟨s, rfl⟩ : ∃ s : Sign, sign = s.factor := hsign
  dsimp only
  match Bytes.pieces 0x2D unsigned with
  | [] | [_] | [_, _] | _ :: _ :: _ :: _ :: _ => exact .throw .malformed
  | [yearText, monthText, dayText] =>
    dsimp only
    split
    · next hwidth =>
      refine .after_digits yearText (by omega) fun year hyear => ?_
      refine .after_digits monthText (by decide) fun month _ => ?_
      refine .after_digits dayText (by decide) fun day _ => ?_
      -- the width that was checked is all that bounds the year
      have hsix : year < 10 ^ 6 :=
        Nat.lt_of_lt_of_le hyear (Nat.pow_le_pow_right (by decide) (by omega))
      refine .after_checked (signed32_year s hsix) ?_
      cases ofFields? (s.factor * year) month day with
      | some d => exact .pure trivial
      | none => exact .throw .noSuchDay
    · exact .throw .malformed

end Date

/-! ## Times of day -/

namespace Clock

/-- A fraction of a second, read with some operations. -/
def readFractionBy (ops : Operations) (bs : Bytes) : Reading Nat := do
  if 1 ≤ bs.length ∧ bs.length ≤ 3 then
    let digits ← Reading.required (← ops.digits bs bs.length)
    let places ← Reading.checked (Bytes.minus 3 bs.length)
    let scale ← Reading.checked (Bytes.word32 (tenTo places))
    Reading.checked (Bytes.word32 (digits * scale))
  else throw .malformed

/-- A time of day, read with some operations. -/
def readBy (ops : Operations) (bs : Bytes) : Reading Clock := do
  let (clock, fraction) := match Bytes.splitOnce? 0x2E bs with
    | some (clock, fraction) => (clock, some fraction)
    | none => (bs, none)
  match Bytes.pieces 0x3A clock, fraction with
  | [hourText, minuteText], none =>
    let hour ← Reading.required (← ops.digits hourText 2)
    let minute ← Reading.required (← ops.digits minuteText 2)
    Reading.required (ofFields? hour minute 0 0)
  | [hourText, minuteText, secondText], fraction =>
    let hour ← Reading.required (← ops.digits hourText 2)
    let minute ← Reading.required (← ops.digits minuteText 2)
    let second ← Reading.required (← ops.digits secondText 2)
    let milli ← match fraction with
      | some f => readFractionBy ops f
      | none => pure 0
    Reading.required (ofFields? hour minute second milli)
  | _, _ => throw .malformed

theorem readBy_lenient (bs : Bytes) : readBy .lenient bs = read bs := rfl

/-- Zeros make three digits of a fraction, and no more. -/
theorem readFractionBy_sameVerdict (bs : Bytes) :
    SameVerdict (readFractionBy .strict bs) (readFractionBy .lenient bs) fun _ => True := by
  unfold readFractionBy
  split
  · next hlength =>
    refine .after_digits bs (by omega) fun digits hdigits => ?_
    -- as many places as digits are missing
    have hscale : tenTo (3 - bs.length) ≤ 10 ^ 3 := Nat.pow_le_pow_right (by decide) (by omega)
    have hscaled : digits * tenTo (3 - bs.length) < 10 ^ 3 := by
      calc digits * tenTo (3 - bs.length) < 10 ^ bs.length * 10 ^ (3 - bs.length) :=
            Nat.mul_lt_mul_of_pos_right hdigits (Nat.pow_pos (by decide))
        _ = 10 ^ 3 := by rw [← Nat.pow_add, Nat.add_sub_cancel' hlength.2]
    have hword : twoTo 32 = 4294967296 := rfl
    refine .after_checked (a := 3 - bs.length) (if_pos hlength.2) ?_
    refine .after_checked (a := tenTo (3 - bs.length)) (if_pos (by omega)) ?_
    exact .checked (if_pos (by omega)) trivial
  · exact .throw .malformed

theorem readBy_sameVerdict (bs : Bytes) :
    SameVerdict (readBy .strict bs) (readBy .lenient bs) fun _ => True := by
  have htwo : 2 ≤ 9 := by decide
  have hexists : ∀ hour minute second milli,
      SameVerdict (Reading.required (ofFields? hour minute second milli))
        (Reading.required (ofFields? hour minute second milli)) fun _ => True :=
    fun _ _ _ _ => .required fun _ _ => trivial
  unfold readBy
  -- where the dot stands makes no difference
  generalize (match Bytes.splitOnce? 0x2E bs with
    | some (clock, fraction) => (clock, some fraction)
    | none => (bs, none)) = parts
  obtain ⟨clock, fraction⟩ := parts
  dsimp only
  match Bytes.pieces 0x3A clock, fraction with
  | [], _ | [_], _ | [_, _], some _ | _ :: _ :: _ :: _ :: _, _ => exact .throw .malformed
  | [hourText, minuteText], none =>
    refine .after_digits hourText htwo fun hour _ => ?_
    refine .after_digits minuteText htwo fun minute _ => ?_
    exact hexists hour minute 0 0
  | [hourText, minuteText, secondText], fraction =>
    refine .after_digits hourText htwo fun hour _ => ?_
    refine .after_digits minuteText htwo fun minute _ => ?_
    refine .after_digits secondText htwo fun second _ => ?_
    cases fraction with
    | none => exact hexists hour minute second 0
    | some f =>
      exact (readFractionBy_sameVerdict f).bind fun milli _ => hexists hour minute second milli

end Clock

/-! ## Offsets from UTC -/

namespace Offset

/-- Minutes east of UTC, read with some operations. -/
def readBy (ops : Operations) (sign : Int) (hourText minuteText : Bytes) : Reading Int := do
  let hours ← Reading.required ((← ops.digits hourText 2).filter (· < 24))
  let minutes ← Reading.required ((← ops.digits minuteText 2).filter (· < 60))
  let hourMinutes ← Reading.checked (Bytes.word32 (hours * 60))
  let total ← Reading.checked (Bytes.word32 (hourMinutes + minutes))
  let total ← Reading.checked (Bytes.signed32 total)
  Reading.checked (Bytes.signed32 (sign * total))

/-- Hours and minutes of a designator's body, read with some operations. -/
def splitBodyBy (ops : Operations) (body : Bytes) : Reading (Bytes × Bytes) := do
  if body.length = 2 then return (body, [0x30, 0x30])
  else if body.length = 4 then
    return (← Reading.required (← ops.part body 0 2), ← Reading.required (← ops.part body 2 4))
  else if body.length = 5 then
    if (← Reading.checked (body.byteAt 2)) = 0x3A then
      return (← Reading.required (← ops.part body 0 2), ← Reading.required (← ops.part body 3 5))
    else throw .malformed
  else throw .malformed

/-- A designator, read with some operations. -/
def readDesignatorBy (ops : Operations) (bs : Bytes) : Reading Int := do
  if bs = [0x5A] ∨ bs = [0x7A] then return 0
  else
    let sign ← Reading.required (bs.head?.bind sign?)
    let body ← Reading.checked (bs.sliceFrom 1)
    if body.all inBody then
      let (hourText, minuteText) ← splitBodyBy ops body
      readBy ops sign hourText minuteText
    else throw .malformed

theorem readBy_lenient (sign : Int) (hourText minuteText : Bytes) :
    readBy .lenient sign hourText minuteText = read sign hourText minuteText := rfl

theorem readDesignatorBy_lenient (bs : Bytes) :
    readDesignatorBy .lenient bs = readDesignator bs := rfl

/-- An offset is less than a day, so it fits the words on the way to it. -/
theorem readBy_sameVerdict (s : Sign) (hourText minuteText : Bytes) :
    SameVerdict (readBy .strict s.factor hourText minuteText)
      (readBy .lenient s.factor hourText minuteText) fun o => -1440 < o ∧ o < 1440 := by
  unfold readBy
  refine .after_digits_below hourText 24 fun hours hhours => ?_
  refine .after_digits_below minuteText 60 fun minutes hminutes => ?_
  have hword : twoTo 32 = 4294967296 := rfl
  have hsigned : ((twoTo 31 : Nat) : Int) = 2147483648 := rfl
  have hbounds := s.offset_bounds hhours hminutes
  unfold Sign.offset at hbounds
  refine .after_checked (a := hours * 60) (if_pos (by omega)) ?_
  refine .after_checked (a := hours * 60 + minutes) (if_pos (by omega)) ?_
  refine .after_checked (a := ((hours * 60 + minutes : Nat) : Int)) (if_pos (by omega)) ?_
  exact .checked (if_pos (by omega)) hbounds

/-- Digits and colons continue no character. -/
theorem isContinuation_of_inBody {x : UInt8} (h : inBody x = true) :
    Bytes.isContinuation x = false := by
  have hlt : x.toNat < 128 := by
    rcases Bool.or_eq_true_iff.mp h with hdigit | hcolon
    · have := Bytes.isDigit_bounds hdigit
      omega
    · rw [eq_of_beq hcolon]
      decide
  have hcode : (0x80 : UInt8).toNat = 128 := rfl
  simp only [Bytes.isContinuation, Bool.and_eq_false_iff, decide_eq_false_iff_not,
    UInt8.le_iff_toNat_le]
  omega

theorem splitBodyBy_sameVerdict {body : Bytes} (h : body.all inBody = true) :
    SameVerdict (splitBodyBy .strict body) (splitBodyBy .lenient body) fun _ => True := by
  have hplain : ∀ x ∈ body, Bytes.isContinuation x = false :=
    fun x hx => isContinuation_of_inBody (List.all_eq_true.mp h x hx)
  unfold splitBodyBy
  by_cases htwo : body.length = 2
  · rw [if_pos htwo, if_pos htwo]
    exact .pure trivial
  rw [if_neg htwo, if_neg htwo]
  by_cases hfour : body.length = 4
  · rw [if_pos hfour, if_pos hfour]
    refine .after_part hplain (by decide) (by omega) fun hours => ?_
    refine .after_part hplain (by decide) (by omega) fun minutes => ?_
    exact .pure trivial
  rw [if_neg hfour, if_neg hfour]
  by_cases hfive : body.length = 5
  · rw [if_pos hfive, if_pos hfive]
    -- the byte between hours and minutes may be any
    refine .after_checked (Bytes.byteAt_of_lt (by omega)) ?_
    split
    · refine .after_part hplain (by decide) (by omega) fun hours => ?_
      refine .after_part hplain (by decide) (by omega) fun minutes => ?_
      exact .pure trivial
    · exact .throw .malformed
  · rw [if_neg hfive, if_neg hfive]
    exact .throw .malformed

theorem readDesignatorBy_sameVerdict {bs : Bytes} (h : bs.IsText) :
    SameVerdict (readDesignatorBy .strict bs) (readDesignatorBy .lenient bs)
      fun o => -1440 < o ∧ o < 1440 := by
  unfold readDesignatorBy
  by_cases hutc : bs = [0x5A] ∨ bs = [0x7A]
  · rw [if_pos hutc, if_pos hutc]
    exact .pure (by decide)
  rw [if_neg hutc, if_neg hutc]
  refine .after_sign h fun s body _ => ?_
  split
  · next hbody =>
    exact (splitBodyBy_sameVerdict hbody).bind fun p _ => readBy_sameVerdict s p.1 p.2
  · exact .throw .malformed

/-- In `aé0` the slices would cut the second character, but it is no body. -/
example : (splitBodyBy .strict [0x61, 0xC3, 0xA9, 0x30]).run = .error .sliceInsideCharacter ∧
    (readDesignatorBy .strict [0x2B, 0x61, 0xC3, 0xA9, 0x30]).run = .ok (.error .malformed) :=
  ⟨rfl, rfl⟩

end Offset

/-! ## Date/times -/

namespace DateTime

/-- A date/time, read with some operations. -/
def readBy (ops : Operations) (bs : Bytes) : Reading DateTime := do
  let (dateText, rest) ← Reading.required (Bytes.splitOnce? 0x54 bs)
  let date ← Date.readBy ops dateText
  let start ← Reading.required (Bytes.find? beginsDesignator rest)
  let clockText ← Reading.checked (rest.slice 0 start)
  let designator ← Reading.checked (rest.sliceFrom start)
  let clock ← Clock.readBy ops clockText
  let offset ← Offset.readDesignatorBy ops designator
  ofWall date clock offset

theorem readBy_lenient (bs : Bytes) : readBy .lenient bs = read bs := rfl

theorem readBy_sameVerdict {bs : Bytes} (h : bs.IsText) :
    SameVerdict (readBy .strict bs) (readBy .lenient bs) fun _ => True := by
  unfold readBy
  cases hsplit : Bytes.splitOnce? 0x54 bs with
  | none => exact .throw .malformed
  | some parts =>
    obtain ⟨dateText, rest⟩ := parts
    obtain ⟨hdate, hrest⟩ := h.of_splitOnce? (m := 'T') (by decide) hsplit
    refine (Date.readBy_sameVerdict hdate).bind fun date _ => ?_
    cases hfind : Bytes.find? beginsDesignator rest with
    | none => exact .throw .malformed
    | some start =>
      obtain ⟨clockText, designator, hclock, hcut, htext⟩ := hrest.cut_designator hfind
      refine .after_checked hclock ?_
      refine .after_checked hcut ?_
      refine (Clock.readBy_sameVerdict clockText).bind fun clock _ => ?_
      refine (Offset.readDesignatorBy_sameVerdict htext).bind fun offset hoffset => ?_
      -- the instant fits its word on every day and at every offset below a day
      rw [ofWall_eq date clock hoffset]
      exact .pure trivial

end DateTime

/-! ## Time zones -/

namespace TimeZone

/-- A time zone, read with some operations. -/
def readBy (ops : Operations) (bs : Bytes) : Reading TimeZone := do
  if bs = [0x5A] then return ⟨0⟩
  else
    let sign ← Reading.required (bs.head?.bind Offset.sign?)
    let body ← Reading.checked (bs.sliceFrom 1)
    let (hourText, minuteText) ← Reading.required (Bytes.splitOnce? 0x3A body)
    return ⟨← Offset.readBy ops sign hourText minuteText⟩

theorem readBy_lenient (bs : Bytes) : readBy .lenient bs = read bs := rfl

theorem readBy_sameVerdict {bs : Bytes} (h : bs.IsText) :
    SameVerdict (readBy .strict bs) (readBy .lenient bs) fun _ => True := by
  unfold readBy
  by_cases hutc : bs = [0x5A]
  · rw [if_pos hutc, if_pos hutc]
    exact .pure trivial
  rw [if_neg hutc, if_neg hutc]
  refine .after_sign h fun s body _ => ?_
  cases Bytes.splitOnce? 0x3A body with
  | none => exact .throw .malformed
  | some parts =>
    exact (Offset.readBy_sameVerdict s parts.1 parts.2).bind fun _ _ => .pure trivial

end TimeZone

/-! ## Verdicts on texts -/

/-- What is answered about a text that is refused. -/
def Refusal.error (text : String) (form : TemporalForm) : Refusal → TemporalError
  | malformed => .malformed text form
  | noSuchDay => .noSuchDay text

/-- Without a fault, the verdict is what is answered. -/
theorem Reading.settle_of_run {α : Type} {r : Reading α} {verdict : Except Refusal α}
    (h : r.run = .ok verdict) (text : String) (form : TemporalForm) :
    r.settle text form = verdict.mapError (Refusal.error text form) := by
  unfold Reading.settle
  rw [h]
  rcases verdict with (_ | _) | a <;> rfl

/-- A parser reads every text to a verdict, though all that its reader does may fault. -/
structure NeverFaults {α : Type} (form : TemporalForm) (readBy : Operations → Bytes → Reading α)
    (read : Bytes → Reading α) (parse : String → Except TemporalError α) : Prop where
  /-- The operations are those of the reader. -/
  lenient (bs : Bytes) : readBy .lenient bs = read bs
  /-- With strict operations it comes to the same verdict, and this is the answer. -/
  verdict (s : String) : ∃ verdict : Except Refusal α,
    (readBy .strict (Bytes.ofString s)).run = .ok verdict ∧
      (read (Bytes.ofString s)).run = .ok verdict ∧
      parse s = verdict.mapError (Refusal.error s form)

theorem NeverFaults.of_sameVerdict {α : Type} {form : TemporalForm}
    {readBy : Operations → Bytes → Reading α} {read : Bytes → Reading α}
    (hlenient : ∀ bs, readBy .lenient bs = read bs)
    (hsame : ∀ {bs : Bytes}, bs.IsText →
      SameVerdict (readBy .strict bs) (readBy .lenient bs) fun _ => True) :
    NeverFaults form readBy read fun s => (read (Bytes.ofString s)).settle s form where
  lenient := hlenient
  verdict s := by
    obtain ⟨verdict, hstrict, hread, -⟩ := hsame (Bytes.isText_ofString s)
    rw [hlenient] at hread
    exact ⟨verdict, hstrict, hread, Reading.settle_of_run hread s form⟩

/-- **No text makes a temporal reader fault**: on the bytes of any text, the readers of
    dates, of date/times and of time zones never slice out of range or inside a character,
    never index past the end, and never leave a word in a number that they read or compute. -/
theorem temporal_readings_never_fault :
    NeverFaults .date Date.readBy Date.read Date.parse ∧
      NeverFaults .dateTime DateTime.readBy DateTime.read DateTime.parse ∧
      NeverFaults .timeZone TimeZone.readBy TimeZone.read TimeZone.parse :=
  ⟨.of_sameVerdict Date.readBy_lenient Date.readBy_sameVerdict,
    .of_sameVerdict DateTime.readBy_lenient DateTime.readBy_sameVerdict,
    .of_sameVerdict TimeZone.readBy_lenient TimeZone.readBy_sameVerdict⟩

/-- Bytes that are no text do make a reader fault. -/
example : (Date.read [0x2B, 0x80]).run = .error .sliceInsideCharacter := rfl

end WritePolicy
