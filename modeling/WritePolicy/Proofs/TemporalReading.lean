import WritePolicy.Proofs.TemporalTexts
import WritePolicy.Proofs.TextBytes

/-! # Reading temporal texts

    The readers of dates, of times of day and of designators, on the bytes of any text.
    Each has two lemmas. What is written in its form is read as what the fields denote
    (`…_text`); every other text is malformed (`…_cases`). Together they leave no room for
    a fault: no reader cuts a character or meets a number that does not fit its word.

    The readers look for hyphens, colons, dots and signs wherever these first occur, with
    no regard to the form. So the second lemmas follow the reader: what it has split off
    must be a numeral in each place, and then the text is put together again.
-/

namespace WritePolicy

open Bytes (ofChars IsAscii)

/-! ## Readings -/

namespace Reading

variable {α β : Type}

@[simp] theorem throw_bind (e : Refusal) (f : α → Reading β) :
    ((throw e : Reading α) >>= f) = throw e := rfl

@[simp] theorem required_some (a : α) : required (some a) = pure a := rfl

@[simp] theorem required_none : (required none : Reading α) = throw .malformed := rfl

@[simp] theorem checked_ok (a : α) : checked (.ok a) = pure a := rfl

@[simp] theorem settle_pure (s : String) (form : TemporalForm) (a : α) :
    (pure a : Reading α).settle s form = .ok a := rfl

@[simp] theorem settle_malformed (s : String) (form : TemporalForm) :
    (throw .malformed : Reading α).settle s form = .error (.malformed s form) := rfl

@[simp] theorem settle_noSuchDay (s : String) (form : TemporalForm) :
    (throw .noSuchDay : Reading α).settle s form = .error (.noSuchDay s) := rfl

end Reading

/-! ## Numerals -/

namespace Bytes

theorem isAscii_of_isDigit {c : Char} (h : c.isDigit = true) : IsAscii c := by
  have hbounds := Char.isDigit_iff_toNat.mp h
  have hnine : '9'.toNat = 57 := rfl
  show c.toNat < 128
  omega

/-- A digit is one among characters as it is among bytes. -/
theorem isDigit_toUInt8 {c : Char} (hc : IsAscii c) : isDigit c.toUInt8 = c.isDigit := by
  have hcode := toNat_toUInt8 hc
  have hends : (0x30 : UInt8).toNat = '0'.toNat ∧ (0x39 : UInt8).toNat = '9'.toNat := ⟨rfl, rfl⟩
  rw [Bool.eq_iff_iff, Char.isDigit_iff_toNat]
  simp only [isDigit, Bool.and_eq_true, decide_eq_true_eq, UInt8.le_iff_toNat_le, hcode, hends]

/-- The bytes of a text are digits if its characters are. -/
theorem all_isDigit_ofChars_iff {cs : List Char} :
    (ofChars cs).all isDigit = true ↔ ∀ c ∈ cs, c.isDigit = true := by
  constructor
  · intro h
    rw [List.all_eq_true] at h
    have hascii : ∀ c ∈ cs, IsAscii c := by
      refine ascii_of_bytes fun x hx => ?_
      have hdigit := h x hx
      have hnine : (0x39 : UInt8).toNat = 57 := rfl
      simp only [isDigit, Bool.and_eq_true, decide_eq_true_eq, UInt8.le_iff_toNat_le] at hdigit
      omega
    intro c hc
    rw [← isDigit_toUInt8 (hascii c hc)]
    refine h _ ?_
    rw [ofChars_of_ascii hascii]
    exact List.mem_map_of_mem hc
  · intro h
    rw [ofChars_of_ascii fun c hc => isAscii_of_isDigit (h c hc), List.all_map, List.all_eq_true]
    intro c hc
    exact (isDigit_toUInt8 (isAscii_of_isDigit (h c hc))).trans (h c hc)

theorem length_ofChars_of_isDigit {cs : List Char} (h : ∀ c ∈ cs, c.isDigit = true) :
    (ofChars cs).length = cs.length := by
  rw [ofChars_of_ascii fun c hc => isAscii_of_isDigit (h c hc), List.length_map]

theorem length_ofChars_numeral {w : Nat} (n : Numeral w) : (ofChars n.chars).length = w := by
  rw [length_ofChars_of_isDigit n.isDigit, n.length_eq]

/-- The bytes of digits add up to the number that the digits write. -/
theorem foldl_ofChars {cs : List Char} (h : ∀ c ∈ cs, c.isDigit = true) (init : Nat) :
    (ofChars cs).foldl (fun n b => 10 * n + (b.toNat - 0x30)) init =
      Nat.ofDigitChars 10 cs init := by
  induction cs generalizing init with
  | nil => rfl
  | cons c cs ih =>
    have hc := isAscii_of_isDigit (h c (by simp))
    rw [ofChars_cons_of_ascii hc, List.foldl_cons, toNat_toUInt8 hc,
      ih fun x hx => h x (by simp [hx]), Nat.ofDigitChars_cons]
    rfl

/-- A numeral of up to nine digits is read as the number that it writes. -/
theorem digits?_ofChars {w : Nat} (n : Numeral w) (hw : w ≤ 9) :
    digits? (ofChars n.chars) w = some n.value := by
  have hfits : n.value < twoTo 32 := by
    calc n.value < 10 ^ w := n.value_lt
      _ ≤ 10 ^ 9 := Nat.pow_le_pow_right (by decide) hw
      _ < twoTo 32 := by decide
  unfold digits?
  rw [if_pos ⟨length_ofChars_numeral n, all_isDigit_ofChars_iff.mpr n.isDigit⟩]
  simp only [foldl_ofChars n.isDigit]
  exact if_pos hfits

/-- Only numerals are read. -/
theorem digits?_cases (cs : List Char) {w : Nat} (hw : w ≤ 9) :
    digits? (ofChars cs) w = none ∨
      ∃ n : Numeral w, cs = n.chars ∧ digits? (ofChars cs) w = some n.value := by
  by_cases h : (ofChars cs).length = w ∧ (ofChars cs).all isDigit
  · have hdigits := all_isDigit_ofChars_iff.mp h.2
    let n : Numeral w := ⟨cs, hdigits, (length_ofChars_of_isDigit hdigits).symm.trans h.1⟩
    exact .inr ⟨n, rfl, digits?_ofChars n hw⟩
  · unfold digits?
    rw [if_neg h]
    exact .inl rfl

/-- Reading goes on after a numeral only. -/
theorem required_digits?_cases {α : Type} {cs : List Char} {w : Nat} {next : Nat → Reading α}
    {p : Prop} (hw : w ≤ 9)
    (h : ∀ n : Numeral w, cs = n.chars → next n.value = throw .malformed ∨ p) :
    (Reading.required (digits? (ofChars cs) w) >>= next) = throw .malformed ∨ p := by
  rcases digits?_cases cs hw with hnone | ⟨n, hn, hvalue⟩
  · rw [hnone]
    exact .inl rfl
  · rw [hvalue]
    exact h n hn

end Bytes

namespace Numeral

variable {w : Nat} {mark : Char}

theorem splitOn_self (n : Numeral w) (hmark : mark.isDigit = false) :
    n.chars.splitOn mark = [n.chars] :=
  List.splitOn_eq_singleton (n.not_mem hmark)

theorem splitOn_append (n : Numeral w) (hmark : mark.isDigit = false) (rest : List Char) :
    (n.chars ++ mark :: rest).splitOn mark = n.chars :: rest.splitOn mark :=
  List.splitOn_append_cons_self_of_not_mem (n.not_mem hmark) rest

end Numeral

/-! ## Signs -/

namespace Sign

theorem isAscii_char (s : Sign) : IsAscii s.char := by
  cases s <;> decide

theorem ofChars_ne (s : Sign) {m : Char} (hm : IsAscii m) (hne : m ≠ s.char) (rest : List Char) :
    ofChars (s.char :: rest) ≠ [m.toUInt8] := by
  rw [Ne, Bytes.ofChars_eq_singleton_iff hm, List.cons.injEq]
  rintro ⟨rfl, -⟩
  exact hne rfl

theorem head?_ofChars (s : Sign) (rest : List Char) :
    (ofChars (s.char :: rest)).head? = some s.char.toUInt8 :=
  (Bytes.head?_ofChars_eq_iff s.isAscii_char).mpr rfl

theorem exists_of_head? {s : Sign} {cs : List Char}
    (h : (ofChars cs).head? = some s.char.toUInt8) : ∃ rest, cs = s.char :: rest :=
  List.head?_eq_some_iff.mp ((Bytes.head?_ofChars_eq_iff s.isAscii_char).mp h)

end Sign

/-! ## Dates -/

namespace Date

/-- What is read of a year, a month and a day. -/
def verdict (year : Int) (month day : Nat) : Reading Date :=
  match ofFields? year month day with
  | some d => pure d
  | none => throw .noSuchDay

/-- Reading goes on after the sign of the year. -/
def readFields (sign : Int) (hasSign : Bool) (bs : Bytes) : Reading Date :=
  match Bytes.pieces 0x2D bs with
  | [yearText, monthText, dayText] =>
    let width := yearText.length
    if width = 4 ∨ (hasSign ∧ width = 6) then do
      let year ← Reading.required (Bytes.digits? yearText width)
      let month ← Reading.required (Bytes.digits? monthText 2)
      let day ← Reading.required (Bytes.digits? dayText 2)
      let year ← Reading.checked (Bytes.signed32 (sign * year))
      verdict year month day
    else throw .malformed
  | _ => throw .malformed

theorem read_eq (bs : Bytes) :
    read bs = readSign bs >>= fun p => readFields p.1 (p.2.length != bs.length) p.2 := rfl

theorem readSign_of_sign (s : Sign) (cs : List Char) :
    readSign (ofChars (s.char :: cs)) = pure (s.factor, ofChars cs) := by
  have hhead := s.head?_ofChars cs
  have hrest := Bytes.sliceFrom_cons s.isAscii_char cs
  unfold readSign
  cases s with
  | plus =>
    have hcode : Sign.plus.char.toUInt8 = 0x2B := rfl
    rw [hhead, hcode, hrest]
    rfl
  | minus =>
    have hcode : Sign.minus.char.toUInt8 = 0x2D := rfl
    rw [hhead, hcode, hrest]
    rfl

theorem readSign_of_no_sign {cs : List Char}
    (h : ∀ (s : Sign) (rest : List Char), cs ≠ s.char :: rest) :
    readSign (ofChars cs) = pure (1, ofChars cs) := by
  have hnone : ∀ s : Sign, (ofChars cs).head? ≠ some s.char.toUInt8 := by
    intro s hhead
    obtain ⟨rest, hcs⟩ := Sign.exists_of_head? hhead
    exact h s rest hcs
  unfold readSign
  split
  · next hplus => exact absurd hplus (hnone .plus)
  · next hminus => exact absurd hminus (hnone .minus)
  · rfl

/-- The three parts of a date after its sign. -/
theorem readFields_of_numerals {w : Nat} (hasSign : Bool)
    (hw : w = 4 ∨ hasSign = true ∧ w = 6) (s : Sign) (y : Numeral w) (m d : Numeral 2) :
    readFields s.factor hasSign (ofChars (y.chars ++ '-' :: (m.chars ++ '-' :: d.chars))) =
      verdict (s.factor * y.value) m.value d.value := by
  have hhyphen : '-'.isDigit = false := rfl
  have hpieces : Bytes.pieces 0x2D (ofChars (y.chars ++ '-' :: (m.chars ++ '-' :: d.chars))) =
      [ofChars y.chars, ofChars m.chars, ofChars d.chars] := by
    have h := Bytes.pieces_ofChars (m := '-') (by decide)
      (y.chars ++ '-' :: (m.chars ++ '-' :: d.chars))
    rwa [y.splitOn_append hhyphen, m.splitOn_append hhyphen, d.splitOn_self hhyphen] at h
  have hyear : Bytes.signed32 (s.factor * y.value) = .ok (s.factor * y.value) := by
    have hlt : y.value < 1000000 := by
      calc y.value < 10 ^ w := y.value_lt
        _ ≤ 10 ^ 6 := Nat.pow_le_pow_right (by decide) (by omega)
    have hword : ((twoTo 31 : Nat) : Int) = 2147483648 := rfl
    unfold Bytes.signed32
    rw [if_pos]
    cases s <;> simp only [Sign.factor] <;> omega
  unfold readFields
  rw [hpieces]
  simp only [Bytes.length_ofChars_numeral, if_pos hw, Bytes.digits?_ofChars y (by omega),
    Bytes.digits?_ofChars m (by decide), Bytes.digits?_ofChars d (by decide), Reading.required_some,
    pure_bind, hyear, Reading.checked_ok]

/-- Nothing else is read after a sign. -/
theorem readFields_cases (sign : Int) (hasSign : Bool) (cs : List Char) :
    readFields sign hasSign (ofChars cs) = throw .malformed ∨
      ∃ (w : Nat) (y : Numeral w) (m d : Numeral 2), (w = 4 ∨ hasSign = true ∧ w = 6) ∧
        cs = y.chars ++ '-' :: (m.chars ++ '-' :: d.chars) := by
  have hpieces : Bytes.pieces 0x2D (ofChars cs) = (cs.splitOn '-').map ofChars :=
    Bytes.pieces_ofChars (m := '-') (by decide) cs
  have hjoined : ['-'].intercalate (cs.splitOn '-') = cs := List.intercalate_splitOn '-'
  unfold readFields
  rw [hpieces]
  match hparts : cs.splitOn '-' with
  | [] => exact .inl rfl
  | [_] => exact .inl rfl
  | [_, _] => exact .inl rfl
  | _ :: _ :: _ :: _ :: _ => exact .inl rfl
  | [year, month, day] =>
    simp only [List.map_cons, List.map_nil]
    split
    · next hw =>
      refine Bytes.required_digits?_cases (by omega) fun y hy => ?_
      refine Bytes.required_digits?_cases (by decide) fun m hm => ?_
      refine Bytes.required_digits?_cases (by decide) fun d hd => ?_
      refine .inr ⟨_, y, m, d, hw, ?_⟩
      rw [← hjoined, hparts, ← hy, ← hm, ← hd]
      simp
    · exact .inl rfl

/-- A text with a sign is one byte longer than what follows the sign. -/
theorem length_bne_of_sign (s : Sign) (cs : List Char) :
    ((ofChars cs).length != (ofChars (s.char :: cs)).length) = true := by
  rw [Bytes.ofChars_cons_of_ascii s.isAscii_char, List.length_cons, bne_iff_ne]
  omega

theorem verdict_of_exists {f : DateText} (h : f.Exists) :
    verdict f.year.value f.month.value f.day.value = pure (f.date h) := by
  have hday : Calendar.IsDay f.year.value f.month.value f.day.value := h
  simp only [verdict, ofFields?, hday, dif_pos]
  rfl

theorem verdict_of_not_exists {f : DateText} (h : ¬ f.Exists) :
    verdict f.year.value f.month.value f.day.value = throw .noSuchDay := by
  have hnone : ¬ Calendar.IsDay f.year.value f.month.value f.day.value := h
  simp only [verdict, ofFields?, hnone, dif_neg, not_false_iff]

/-- What the fields of a date name is looked up in the calendar. -/
theorem read_text (f : DateText) :
    read (ofChars f.chars) = verdict f.year.value f.month.value f.day.value := by
  obtain ⟨year, month, day⟩ := f
  rw [read_eq]
  cases year with
  | plain digits =>
    -- the first character is a digit
    have hnosign : ∀ (s : Sign) (rest : List Char),
        digits.chars ++ '-' :: (month.chars ++ '-' :: day.chars) ≠ s.char :: rest := by
      intro s rest h
      have hfirst : s.char ∈ digits.chars := by
        have hlength := digits.length_eq
        cases hdigits : digits.chars with
        | nil => simp [hdigits] at hlength
        | cons c cs =>
          rw [hdigits, List.cons_append, List.cons.injEq] at h
          simp [h.1]
      exact digits.not_mem s.isDigit_char hfirst
    have h := readFields_of_numerals false (.inl rfl) .plus digits month day
    simp only [Sign.factor, Int.one_mul] at h
    simp only [DateText.chars, YearText.chars, YearText.value, readSign_of_no_sign hnosign,
      pure_bind, bne_self_eq_false, h]
  | signed sign digits =>
    simp only [DateText.chars, YearText.chars, YearText.value, List.cons_append,
      readSign_of_sign, pure_bind, length_bne_of_sign,
      readFields_of_numerals true (.inl rfl) sign digits month day]
  | long sign digits =>
    simp only [DateText.chars, YearText.chars, YearText.value, List.cons_append,
      readSign_of_sign, pure_bind, length_bne_of_sign,
      readFields_of_numerals true (.inr ⟨rfl, rfl⟩) sign digits month day]

/-- Every other text is malformed. -/
theorem read_cases (cs : List Char) :
    read (ofChars cs) = throw .malformed ∨ ∃ f : DateText, cs = f.chars := by
  rw [read_eq]
  by_cases hsign : ∃ (s : Sign) (rest : List Char), cs = s.char :: rest
  · obtain ⟨s, rest, rfl⟩ := hsign
    rw [readSign_of_sign, pure_bind]
    rcases readFields_cases s.factor _ rest with h | ⟨w, y, m, d, hw, rfl⟩
    · exact .inl h
    · rcases hw with rfl | ⟨-, rfl⟩
      · exact .inr ⟨⟨.signed s y, m, d⟩, rfl⟩
      · exact .inr ⟨⟨.long s y, m, d⟩, rfl⟩
  · have hnosign : ∀ (s : Sign) (rest : List Char), cs ≠ s.char :: rest :=
      fun s rest h => hsign ⟨s, rest, h⟩
    rw [readSign_of_no_sign hnosign, pure_bind]
    rcases readFields_cases 1 _ cs with h | ⟨w, y, m, d, hw, rfl⟩
    · exact .inl h
    · rw [bne_self_eq_false] at hw
      rcases hw with rfl | ⟨hfalse, -⟩
      · exact .inr ⟨⟨.plain y, m, d⟩, rfl⟩
      · cases hfalse

end Date

/-! ## Times of day -/

namespace Clock

/-- A fraction of one to three digits is read in milliseconds. -/
theorem readFraction_text (f : Fraction) : readFraction (ofChars f.chars) = pure f.millis := by
  have hpos := f.length_pos
  have hle := f.length_le
  have hlength := Bytes.length_ofChars_of_isDigit f.isDigit
  have hdigits : Bytes.digits? (ofChars f.chars) f.chars.length = some f.numeral.value :=
    Bytes.digits?_ofChars f.numeral (by omega)
  have hword : twoTo 32 = 4294967296 := rfl
  have hscale : tenTo (3 - f.chars.length) = 10 ^ (3 - f.chars.length) := rfl
  have hscale_le : 10 ^ (3 - f.chars.length) ≤ 10 ^ 3 := Nat.pow_le_pow_right (by decide) (by omega)
  have hmillis := f.millis_lt
  rw [f.millis_eq] at hmillis
  unfold readFraction
  simp only [hlength, hdigits, Reading.required_some, pure_bind, if_pos (And.intro hpos hle),
    Bytes.minus, if_pos hle, Reading.checked_ok, Bytes.word32, hscale]
  rw [if_pos (by omega), Reading.checked_ok, pure_bind, if_pos (by omega), Reading.checked_ok,
    f.millis_eq]

theorem readFraction_cases (cs : List Char) :
    readFraction (ofChars cs) = throw .malformed ∨ ∃ f : Fraction, cs = f.chars := by
  by_cases hlength : 1 ≤ (ofChars cs).length ∧ (ofChars cs).length ≤ 3
  · unfold readFraction
    rw [if_pos hlength]
    refine Bytes.required_digits?_cases (by omega) fun n hn => ?_
    exact .inr ⟨.ofNumeral n hlength.1 hlength.2, hn⟩
  · unfold readFraction
    exact .inl (if_neg hlength)

/-- Reading goes on with the parts between colons and the fraction. -/
def readParts (parts : List Bytes) (fraction : Option Bytes) : Reading Clock :=
  match parts, fraction with
  | [hourText, minuteText], none => do
    let hour ← Reading.required (Bytes.digits? hourText 2)
    let minute ← Reading.required (Bytes.digits? minuteText 2)
    Reading.required (ofFields? hour minute 0 0)
  | [hourText, minuteText, secondText], fraction => do
    let hour ← Reading.required (Bytes.digits? hourText 2)
    let minute ← Reading.required (Bytes.digits? minuteText 2)
    let second ← Reading.required (Bytes.digits? secondText 2)
    let milli ← match fraction with
      | some f => readFraction f
      | none => pure 0
    Reading.required (ofFields? hour minute second milli)
  | _, _ => throw .malformed

theorem read_of_dot {a : List Char} (h : '.' ∉ a) (b : List Char) :
    read (ofChars (a ++ '.' :: b)) =
      readParts ((a.splitOn ':').map ofChars) (some (ofChars b)) := by
  have hdot : Bytes.splitOnce? 0x2E (ofChars (a ++ '.' :: b)) = some (ofChars a, ofChars b) :=
    Bytes.splitOnce?_ofChars (by decide) h b
  have hcolon : Bytes.pieces 0x3A (ofChars a) = (a.splitOn ':').map ofChars :=
    Bytes.pieces_ofChars (m := ':') (by decide) a
  unfold read
  rw [hdot, ← hcolon]
  rfl

theorem read_of_no_dot {cs : List Char} (h : '.' ∉ cs) :
    read (ofChars cs) = readParts ((cs.splitOn ':').map ofChars) none := by
  have hdot : Bytes.splitOnce? 0x2E (ofChars cs) = none :=
    Bytes.splitOnce?_ofChars_eq_none (m := '.') (by decide) h
  have hcolon : Bytes.pieces 0x3A (ofChars cs) = (cs.splitOn ':').map ofChars :=
    Bytes.pieces_ofChars (m := ':') (by decide) cs
  unfold read
  rw [hdot, ← hcolon]
  rfl

/-- What the fields of a time of day name is read if it exists. -/
theorem read_text (f : ClockText) :
    read (ofChars f.chars) = Reading.required (ofFields? f.hour f.minute f.second f.milli) := by
  have hdot : '.'.isDigit = false := rfl
  have hcolon : ':'.isDigit = false := rfl
  have hnumeral : ∀ n : Numeral 2, Bytes.digits? (ofChars n.chars) 2 = some n.value :=
    fun n => Bytes.digits?_ofChars n (by decide)
  cases f with
  | minutes hour minute =>
    have hnone : '.' ∉ hour.chars ++ ':' :: minute.chars := by
      simp [hour.not_mem hdot, minute.not_mem hdot]
    simp only [ClockText.chars]
    rw [read_of_no_dot hnone, hour.splitOn_append hcolon, minute.splitOn_self hcolon]
    simp only [List.map_cons, List.map_nil, readParts, hnumeral, Reading.required_some, pure_bind]
    rfl
  | seconds hour minute second =>
    have hnone : '.' ∉ hour.chars ++ ':' :: (minute.chars ++ ':' :: second.chars) := by
      simp [hour.not_mem hdot, minute.not_mem hdot, second.not_mem hdot]
    simp only [ClockText.chars]
    rw [read_of_no_dot hnone, hour.splitOn_append hcolon, minute.splitOn_append hcolon,
      second.splitOn_self hcolon]
    simp only [List.map_cons, List.map_nil, readParts, hnumeral, Reading.required_some, pure_bind]
    rfl
  | millis hour minute second fraction =>
    have hnone : '.' ∉ hour.chars ++ ':' :: (minute.chars ++ ':' :: second.chars) := by
      simp [hour.not_mem hdot, minute.not_mem hdot, second.not_mem hdot]
    have hchars : (ClockText.millis hour minute second fraction).chars =
        (hour.chars ++ ':' :: (minute.chars ++ ':' :: second.chars)) ++ '.' :: fraction.chars := by
      simp [ClockText.chars]
    -- the dot is the first one, as the clock before it has none
    rw [hchars, read_of_dot hnone, hour.splitOn_append hcolon, minute.splitOn_append hcolon,
      second.splitOn_self hcolon]
    simp only [List.map_cons, List.map_nil, readParts, hnumeral, Reading.required_some, pure_bind,
      readFraction_text]
    rfl

/-- Only numerals of two digits are read between colons, and a fraction only after
    seconds. -/
theorem readParts_cases (parts : List (List Char)) (fraction : Option (List Char)) :
    readParts (parts.map ofChars) (fraction.map ofChars) = throw .malformed ∨
      (∃ h m : Numeral 2, parts = [h.chars, m.chars] ∧ fraction = none) ∨
      ∃ h m s : Numeral 2, parts = [h.chars, m.chars, s.chars] ∧
        (fraction = none ∨ ∃ f : Fraction, fraction = some f.chars) := by
  have htwo : 2 ≤ 9 := by decide
  match parts, fraction with
  | [], _ | [_], _ | [_, _], some _ | _ :: _ :: _ :: _ :: _, _ => exact .inl rfl
  | [hour, minute], none =>
    refine Bytes.required_digits?_cases htwo fun h hh => ?_
    refine Bytes.required_digits?_cases htwo fun m hm => ?_
    exact .inr (.inl ⟨h, m, by rw [hh, hm], rfl⟩)
  | [hour, minute, second], fraction =>
    refine Bytes.required_digits?_cases htwo fun h hh => ?_
    refine Bytes.required_digits?_cases htwo fun m hm => ?_
    refine Bytes.required_digits?_cases htwo fun s hs => ?_
    cases fraction with
    | none => exact .inr (.inr ⟨h, m, s, by rw [hh, hm, hs], .inl rfl⟩)
    | some fraction =>
      rcases readFraction_cases fraction with hnone | ⟨f, rfl⟩
      · exact .inl (by simp [hnone])
      · exact .inr (.inr ⟨h, m, s, by rw [hh, hm, hs], .inr ⟨f, rfl⟩⟩)

/-- Every other text is malformed. -/
theorem read_cases (cs : List Char) :
    read (ofChars cs) = throw .malformed ∨ ∃ f : ClockText, cs = f.chars := by
  have hjoined : ∀ clock : List Char, [':'].intercalate (clock.splitOn ':') = clock :=
    fun _ => List.intercalate_splitOn ':'
  by_cases hdot : '.' ∈ cs
  · obtain ⟨a, b, rfl, ha⟩ := List.eq_append_cons_of_mem hdot
    rw [read_of_dot ha]
    rcases readParts_cases (a.splitOn ':') (some b) with
      hnone | ⟨h, m, -, hfraction⟩ | ⟨h, m, s, hparts, hfraction⟩
    · exact .inl hnone
    · cases hfraction
    · obtain ⟨f, hf⟩ := hfraction.resolve_left nofun
      cases hf
      refine .inr ⟨.millis h m s f, ?_⟩
      rw [← hjoined a, hparts]
      simp [ClockText.chars]
  · rw [read_of_no_dot hdot]
    rcases readParts_cases (cs.splitOn ':') none with
      hnone | ⟨h, m, hparts, -⟩ | ⟨h, m, s, hparts, -⟩
    · exact .inl hnone
    · refine .inr ⟨.minutes h m, ?_⟩
      rw [← hjoined cs, hparts]
      simp [ClockText.chars]
    · refine .inr ⟨.seconds h m s, ?_⟩
      rw [← hjoined cs, hparts]
      simp [ClockText.chars]

theorem ofFields?_of_exists {f : ClockText} (h : f.Exists) :
    ofFields? f.hour f.minute f.second f.milli = some (f.clock h) :=
  dif_pos ⟨h.1, h.2.1, h.2.2, f.milli_lt⟩

theorem ofFields?_of_not_exists {f : ClockText} (h : ¬ f.Exists) :
    ofFields? f.hour f.minute f.second f.milli = none :=
  dif_neg fun hfields => h ⟨hfields.1, hfields.2.1, hfields.2.2.1⟩

end Clock

/-! ## Offsets from UTC -/

theorem Sign.offset_bounds (s : Sign) {hours minutes : Nat} (hh : hours < 24) (hm : minutes < 60) :
    -1440 < s.offset hours minutes ∧ s.offset hours minutes < 1440 := by
  cases s <;> simp only [Sign.offset, Sign.factor] <;> omega

namespace Offset

theorem head?_bind_sign? (s : Sign) (rest : List Char) :
    (ofChars (s.char :: rest)).head?.bind sign? = some s.factor := by
  rw [s.head?_ofChars]
  cases s <;> rfl

/-- A byte that is taken for a sign is one. -/
theorem exists_of_sign? {cs : List Char} {i : Int} (h : (ofChars cs).head?.bind sign? = some i) :
    ∃ (s : Sign) (rest : List Char), cs = s.char :: rest := by
  obtain ⟨b, hhead, hsign⟩ := Option.bind_eq_some_iff.mp h
  obtain ⟨s, rfl⟩ : ∃ s : Sign, b = s.char.toUInt8 := by
    unfold sign? at hsign
    split at hsign
    · exact ⟨.plus, rfl⟩
    · exact ⟨.minus, rfl⟩
    · cases hsign
  exact ⟨s, Sign.exists_of_head? hhead⟩

/-- Hours and minutes after a sign. -/
theorem read_text (s : Sign) (h : HourText) (m : MinuteText) :
    read s.factor (ofChars h.1.chars) (ofChars m.1.chars) =
      pure (s.offset h.1.value m.1.value) := by
  obtain ⟨hour, hh⟩ := h
  obtain ⟨minute, hm⟩ := m
  have hword : twoTo 32 = 4294967296 := rfl
  have hsigned : ((twoTo 31 : Nat) : Int) = 2147483648 := rfl
  have hbounds := s.offset_bounds hh hm
  have htotal : Bytes.signed32 (hour.value * 60 + minute.value : Nat) =
      .ok ((hour.value * 60 + minute.value : Nat) : Int) := by
    unfold Bytes.signed32
    exact if_pos (by omega)
  have hoffset : Bytes.signed32 (s.factor * (hour.value * 60 + minute.value : Nat)) =
      .ok (s.offset hour.value minute.value) := by
    unfold Sign.offset at hbounds
    unfold Bytes.signed32
    exact if_pos (by omega)
  unfold read
  simp only [Bytes.digits?_ofChars hour (by decide), Bytes.digits?_ofChars minute (by decide),
    Option.filter, hh, hm, decide_true, if_true, Reading.required_some, pure_bind, Bytes.word32]
  rw [if_pos (by omega), Reading.checked_ok, pure_bind, if_pos (by omega), Reading.checked_ok,
    pure_bind, htotal, Reading.checked_ok, pure_bind, hoffset, Reading.checked_ok]

theorem filter_digits?_cases (cs : List Char) (bound : Nat) :
    (Bytes.digits? (ofChars cs) 2).filter (· < bound) = none ∨
      ∃ n : { n : Numeral 2 // n.value < bound }, cs = n.1.chars ∧
        (Bytes.digits? (ofChars cs) 2).filter (· < bound) = some n.1.value := by
  rcases Bytes.digits?_cases cs (by decide : 2 ≤ 9) with hnone | ⟨n, hn, hsome⟩
  · exact .inl (by rw [hnone, Option.filter_none])
  · by_cases hlt : n.value < bound
    · exact .inr ⟨⟨n, hlt⟩, hn, by simp [hsome, hlt]⟩
    · exact .inl (by simpa [hsome] using hlt)

theorem read_cases (sign : Int) (hours minutes : List Char) :
    read sign (ofChars hours) (ofChars minutes) = throw .malformed ∨
      ∃ (h : HourText) (m : MinuteText), hours = h.1.chars ∧ minutes = m.1.chars := by
  unfold read
  rcases filter_digits?_cases hours 24 with hnone | ⟨h, hh, hhour⟩
  · exact .inl (by rw [hnone]; rfl)
  rcases filter_digits?_cases minutes 60 with hnone | ⟨m, hm, -⟩
  · exact .inl (by rw [hhour, hnone]; rfl)
  exact .inr ⟨h, m, hh, hm⟩

/-! ## Designators -/

/-- No minutes, as they are added to hours alone. -/
def noMinutes : MinuteText :=
  ⟨.zeros, by decide⟩

theorem splitBody_hours {a : List Char} (ha : (ofChars a).length = 2) :
    splitBody (ofChars a) = pure (ofChars a, ofChars noMinutes.1.chars) := by
  unfold splitBody
  exact if_pos ha

theorem splitBody_compact {a b : List Char} (ha : (ofChars a).length = 2)
    (hb : (ofChars b).length = 2) :
    splitBody (ofChars (a ++ b)) = pure (ofChars a, ofChars b) := by
  have hlength : (ofChars (a ++ b)).length = 4 := by
    rw [Bytes.ofChars_append, List.length_append, ha, hb]
  have hfirst : Bytes.slice (ofChars (a ++ b)) 0 2 = .ok (ofChars a) := by
    have h := Bytes.slice_ofChars [] a b
    rwa [List.nil_append, ha] at h
  have hsecond : Bytes.slice (ofChars (a ++ b)) 2 4 = .ok (ofChars b) := by
    have h := Bytes.sliceFrom_ofChars a b
    rwa [ha, Bytes.sliceFrom, hlength] at h
  unfold splitBody
  simp [hlength, Bytes.slice?, hfirst, hsecond]

theorem splitBody_extended {a b : List Char} (ha : (ofChars a).length = 2)
    (hb : (ofChars b).length = 2) :
    splitBody (ofChars (a ++ ':' :: b)) = pure (ofChars a, ofChars b) := by
  have hcolon : ofChars (':' :: b) = 0x3A :: ofChars b :=
    Bytes.ofChars_cons_of_ascii (c := ':') (by decide) b
  have hlength : (ofChars (a ++ ':' :: b)).length = 5 := by
    rw [Bytes.ofChars_append, hcolon, List.length_append, List.length_cons, ha, hb]
  have hmark : Bytes.byteAt (ofChars (a ++ ':' :: b)) 2 = .ok 0x3A := by
    unfold Bytes.byteAt
    rw [Bytes.ofChars_append, hcolon, List.getElem?_append_right (by omega), ha]
    rfl
  have hfirst : Bytes.slice (ofChars (a ++ ':' :: b)) 0 2 = .ok (ofChars a) := by
    have h := Bytes.slice_ofChars [] a (':' :: b)
    rwa [List.nil_append, ha] at h
  have hsecond : Bytes.slice (ofChars (a ++ ':' :: b)) 3 5 = .ok (ofChars b) := by
    have hthree : (ofChars (a ++ [':'])).length = 3 := by
      rw [Bytes.ofChars_append, List.length_append, ha]
      rfl
    have h := Bytes.sliceFrom_ofChars (a ++ [':']) b
    rwa [hthree, List.append_assoc, List.singleton_append, Bytes.sliceFrom, hlength] at h
  unfold splitBody
  simp [hlength, hmark, Bytes.slice?, hfirst, hsecond]

/-- A body of ASCII characters is split in one of the three ways. -/
theorem splitBody_cases {body : List Char} (h : ∀ c ∈ body, IsAscii c) :
    splitBody (ofChars body) = throw .malformed ∨
      body.length = 2 ∨
      (∃ a b, body = a ++ b ∧ a.length = 2 ∧ b.length = 2) ∨
      ∃ a b, body = a ++ ':' :: b ∧ a.length = 2 ∧ b.length = 2 := by
  have hlength : (ofChars body).length = body.length := by
    rw [Bytes.ofChars_of_ascii h, List.length_map]
  -- by the number of characters
  match body with
  | [_, _] => exact .inr (.inl rfl)
  | [a, b, c, d] => exact .inr (.inr (.inl ⟨[a, b], [c, d], rfl, rfl, rfl⟩))
  | [a, b, c, d, e] =>
    by_cases hcolon : c = ':'
    · exact .inr (.inr (.inr ⟨[a, b], [d, e], by rw [hcolon]; rfl, rfl, rfl⟩))
    · have hbyte : Bytes.byteAt (ofChars [a, b, c, d, e]) 2 = .ok c.toUInt8 := by
        rw [Bytes.ofChars_of_ascii h]
        rfl
      have hne : c.toUInt8 ≠ 0x3A :=
        mt (Bytes.toUInt8_inj (m := ':') (h c (by simp)) (by decide)).mp hcolon
      unfold splitBody
      exact .inl (by simp [hlength, hbyte, hne])
  | [] => exact .inl rfl
  | [_] | [_, _, _] | _ :: _ :: _ :: _ :: _ :: _ :: _ =>
    unfold splitBody
    exact .inl (by simp [hlength])

/-- The bytes in the body of a designator. -/
def inBody (b : UInt8) : Bool :=
  Bytes.isDigit b || b == 0x3A

theorem readDesignator_of_sign (s : Sign) (body : List Char) :
    readDesignator (ofChars (s.char :: body)) =
      if (ofChars body).all inBody then
        splitBody (ofChars body) >>= fun p => read s.factor p.1 p.2
      else throw .malformed := by
  have hZ : ofChars (s.char :: body) ≠ [0x5A] :=
    s.ofChars_ne (m := 'Z') (by decide) (by cases s <;> decide) body
  have hz : ofChars (s.char :: body) ≠ [0x7A] :=
    s.ofChars_ne (m := 'z') (by decide) (by cases s <;> decide) body
  unfold readDesignator
  rw [if_neg (not_or.mpr ⟨hZ, hz⟩), head?_bind_sign?, Bytes.sliceFrom_cons s.isAscii_char]
  rfl

/-- The bytes of the body are digits and colons if its characters are. -/
theorem all_inBody_of_chars {body : List Char} (h : ∀ c ∈ body, c.isDigit = true ∨ c = ':') :
    (ofChars body).all inBody = true := by
  have hascii : ∀ c ∈ body, IsAscii c := by
    intro c hc
    rcases h c hc with hdigit | rfl
    · exact Bytes.isAscii_of_isDigit hdigit
    · decide
  rw [Bytes.ofChars_of_ascii hascii, List.all_map, List.all_eq_true]
  intro c hc
  rcases h c hc with hdigit | rfl
  · simp [inBody, Bytes.isDigit_toUInt8 (hascii c hc), hdigit]
  · rfl

theorem isAscii_of_all_inBody {body : List Char} (h : (ofChars body).all inBody = true) :
    ∀ c ∈ body, IsAscii c := by
  refine Bytes.ascii_of_bytes fun x hx => ?_
  have hbyte := List.all_eq_true.mp h x hx
  have hends : (0x39 : UInt8).toNat = 57 ∧ (0x3A : UInt8).toNat = 58 := ⟨rfl, rfl⟩
  simp only [inBody, Bytes.isDigit, Bool.or_eq_true, Bool.and_eq_true, decide_eq_true_eq,
    UInt8.le_iff_toNat_le, beq_iff_eq] at hbyte
  rcases hbyte with hdigit | rfl
  · omega
  · omega

/-- Every designator is read as its offset. -/
theorem readDesignator_text (f : Designator) :
    readDesignator (ofChars f.chars) = pure f.offset := by
  cases f with
  | upperZ => rfl
  | lowerZ => rfl
  | hours sign hour =>
    have hbody := all_inBody_of_chars fun c hc => .inl (hour.1.isDigit c hc)
    simp only [Designator.chars]
    rw [readDesignator_of_sign, if_pos hbody,
      splitBody_hours (Bytes.length_ofChars_numeral _), pure_bind, read_text]
    rfl
  | compact sign hour minute =>
    have hbody : (ofChars (hour.1.chars ++ minute.1.chars)).all inBody = true := by
      refine all_inBody_of_chars fun c hc => .inl ?_
      rcases List.mem_append.mp hc with hc | hc
      · exact hour.1.isDigit c hc
      · exact minute.1.isDigit c hc
    simp only [Designator.chars]
    rw [readDesignator_of_sign, if_pos hbody, splitBody_compact (Bytes.length_ofChars_numeral _)
      (Bytes.length_ofChars_numeral _), pure_bind, read_text]
    rfl
  | extended sign hour minute =>
    have hbody : (ofChars (hour.1.chars ++ ':' :: minute.1.chars)).all inBody = true := by
      refine all_inBody_of_chars fun c hc => ?_
      rcases List.mem_append.mp hc with hc | hc
      · exact .inl (hour.1.isDigit c hc)
      · rcases List.mem_cons.mp hc with rfl | hc
        · exact .inr rfl
        · exact .inl (minute.1.isDigit c hc)
    simp only [Designator.chars]
    rw [readDesignator_of_sign, if_pos hbody, splitBody_extended (Bytes.length_ofChars_numeral _)
      (Bytes.length_ofChars_numeral _), pure_bind, read_text]
    rfl

/-- What is read after a sign is the body of a designator. -/
theorem readDesignator_sign_cases (s : Sign) (body : List Char) :
    readDesignator (ofChars (s.char :: body)) = throw .malformed ∨
      ∃ f : Designator, s.char :: body = f.chars := by
  rw [readDesignator_of_sign]
  split
  · next hall =>
    -- a body that passes the check has as many bytes as characters
    have hascii := isAscii_of_all_inBody hall
    have hbytes : ∀ a : List Char, (∀ c ∈ a, c ∈ body) → (ofChars a).length = a.length := by
      intro a ha
      rw [Bytes.ofChars_of_ascii fun c hc => hascii c (ha c hc), List.length_map]
    rcases splitBody_cases hascii with
      hnone | htwo | ⟨a, b, rfl, ha, hb⟩ | ⟨a, b, rfl, ha, hb⟩
    · exact .inl (by rw [hnone]; rfl)
    · rw [splitBody_hours ((hbytes body fun _ => id).trans htwo), pure_bind]
      rcases read_cases s.factor body noMinutes.1.chars with hnone | ⟨h, -, rfl, -⟩
      · exact .inl hnone
      · exact .inr ⟨.hours s h, rfl⟩
    · rw [splitBody_compact ((hbytes a (by simp +contextual)).trans ha)
        ((hbytes b (by simp +contextual)).trans hb), pure_bind]
      rcases read_cases s.factor a b with hnone | ⟨h, m, rfl, rfl⟩
      · exact .inl hnone
      · exact .inr ⟨.compact s h m, rfl⟩
    · rw [splitBody_extended ((hbytes a (by simp +contextual)).trans ha)
        ((hbytes b (by simp +contextual)).trans hb), pure_bind]
      rcases read_cases s.factor a b with hnone | ⟨h, m, rfl, rfl⟩
      · exact .inl hnone
      · exact .inr ⟨.extended s h m, rfl⟩
  · exact .inl rfl

/-- Every other text is malformed. -/
theorem readDesignator_cases (cs : List Char) :
    readDesignator (ofChars cs) = throw .malformed ∨ ∃ f : Designator, cs = f.chars := by
  by_cases hupper : cs = ['Z']
  · exact .inr ⟨.upperZ, hupper⟩
  by_cases hlower : cs = ['z']
  · exact .inr ⟨.lowerZ, hlower⟩
  have hZ : ofChars cs ≠ [0x5A] :=
    mt (Bytes.ofChars_eq_singleton_iff (m := 'Z') (by decide)).mp hupper
  have hz : ofChars cs ≠ [0x7A] :=
    mt (Bytes.ofChars_eq_singleton_iff (m := 'z') (by decide)).mp hlower
  cases hsign : (ofChars cs).head?.bind sign? with
  | none =>
    unfold readDesignator
    rw [if_neg (not_or.mpr ⟨hZ, hz⟩), hsign]
    exact .inl rfl
  | some i =>
    obtain ⟨s, body, rfl⟩ := exists_of_sign? hsign
    exact readDesignator_sign_cases s body

end Offset

end WritePolicy
