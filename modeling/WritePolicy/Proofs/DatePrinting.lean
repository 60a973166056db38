import WritePolicy.Proofs.TemporalGrammar

/-! # Printed dates

    A date is printed with a year of at least four digits, and with a sign if the year
    does not lie in 0 … 9999. It is read with a year of four digits, or of six after a
    sign. So the two agree on all years but those of five digits, which are printed as
    they are and are malformed when read (`Date.parse_printed_iff`).
-/

namespace WritePolicy.Date

/-- A year that takes five digits. -/
def HasFiveDigits (year : Int) : Prop :=
  10000 ≤ year.natAbs ∧ year.natAbs < 100000

instance (year : Int) : Decidable (HasFiveDigits year) :=
  inferInstanceAs (Decidable (_ ∧ _))

/-- What stands in front of the digits of a printed year. -/
def printedSign (year : Int) : List Char :=
  if year < 0 then ['-'] else if 9999 < year then ['+'] else []

theorem toList_padded (width n : Nat) :
    (padded width n).toList = (Nat.toDigits 10 n).leftpad width '0' := by
  simp [padded, List.leftpad]

theorem toList_text (d : Date) :
    d.text.toList = printedSign d.year ++ (Nat.toDigits 10 d.year.natAbs).leftpad 4 '0' ++
      '-' :: ((Nat.toDigits 10 d.month).leftpad 2 '0' ++
        '-' :: (Nat.toDigits 10 d.day).leftpad 2 '0') := by
  have hsign : (if d.year < 0 then "-" else if 9999 < d.year then "+" else "").toList =
      printedSign d.year := by
    unfold printedSign
    split
    · rfl
    · split <;> rfl
  simp [text, hsign, toList_padded]

/-! ## Years of four and of six digits -/

/-- Digits that fill a width are not padded by a smaller one. -/
theorem leftpad_toDigits {n width larger : Nat} (hlow : 10 ^ (larger - 1) ≤ n)
    (hle : width ≤ larger) (hlarger : 1 < larger) :
    (Nat.toDigits 10 n).leftpad width '0' = (Nat.toDigits 10 n).leftpad larger '0' := by
  have hlength : larger ≤ (Nat.toDigits 10 n).length := by
    by_contra hshort
    have hpos : 0 < larger - 1 := by omega
    have := (Nat.length_toDigits_le_iff (by decide : 1 < 10) hpos).mp
      (show (Nat.toDigits 10 n).length ≤ larger - 1 by omega)
    omega
  simp [List.leftpad, Nat.sub_eq_zero_of_le hlength, Nat.sub_eq_zero_of_le (hle.trans hlength)]

/-- A printed year that does not have five digits is the year in writing. -/
theorem exists_yearText {year : Int} (hlow : -1000000 < year) (hhigh : year < 1000000)
    (h : ¬ HasFiveDigits year) :
    ∃ y : YearText, y.value = year ∧
      y.chars = printedSign year ++ (Nat.toDigits 10 year.natAbs).leftpad 4 '0' := by
  unfold HasFiveDigits at h
  unfold printedSign
  by_cases hfour : year.natAbs < 10 ^ 4
  · by_cases hnegative : year < 0
    · refine ⟨.signed .minus (.ofNat year.natAbs (by decide) hfour), ?_, ?_⟩
      · rw [YearText.value, Numeral.value_ofNat, Sign.factor]
        omega
      · rw [if_pos hnegative]
        rfl
    · refine ⟨.plain (.ofNat year.natAbs (by decide) hfour), ?_, ?_⟩
      · rw [YearText.value, Numeral.value_ofNat]
        omega
      · rw [if_neg hnegative, if_neg (by omega)]
        rfl
  · -- a year of six digits is printed without zeros in front
    have hsix : year.natAbs < 10 ^ 6 := by omega
    have hdigits : (Nat.toDigits 10 year.natAbs).leftpad 4 '0' =
        (Nat.toDigits 10 year.natAbs).leftpad 6 '0' :=
      leftpad_toDigits (by omega) (by decide) (by decide)
    by_cases hnegative : year < 0
    · refine ⟨.long .minus (.ofNat year.natAbs (by decide) hsix), ?_, ?_⟩
      · rw [YearText.value, Numeral.value_ofNat, Sign.factor]
        omega
      · rw [if_pos hnegative, hdigits]
        rfl
    · refine ⟨.long .plus (.ofNat year.natAbs (by decide) hsix), ?_, ?_⟩
      · rw [YearText.value, Numeral.value_ofNat, Sign.factor]
        omega
      · rw [if_neg hnegative, if_pos (by omega), hdigits]
        rfl

theorem parse_text_of_not_five_digits {d : Date} (h : ¬ HasFiveDigits d.year) :
    parse d.text = .ok d := by
  obtain ⟨hlow, hhigh, -, -⟩ := d.isDay
  unfold Calendar.firstYear at hlow
  unfold Calendar.lastYear at hhigh
  obtain ⟨y, hvalue, hchars⟩ := exists_yearText (by omega) (by omega) h
  have htext : (DateText.ofDate y d).text = d.text := by
    apply String.toList_injective
    rw [toList_text, ← hchars, DateText.text, String.toList_ofList]
    rfl
  obtain ⟨hexists, hdate⟩ := DateText.exists_date_ofDate hvalue
  rw [← htext, parse_text hexists, hdate]

/-! ## Years of five digits -/

/-- A number of five digits, whatever width is asked for up to five. -/
theorem length_leftpad_of_five_digits {n : Nat} (hlow : 10000 ≤ n) (hhigh : n < 100000) :
    ((Nat.toDigits 10 n).leftpad 4 '0').length = 5 := by
  have hmost := (Nat.length_toDigits_le_iff (by decide : 1 < 10) (by decide : 0 < 5)).mpr hhigh
  have hleast : ¬ (Nat.toDigits 10 n).length ≤ 4 := by
    rw [Nat.length_toDigits_le_iff (by decide) (by decide)]
    omega
  rw [List.length_leftpad]
  omega

/-- The printed text has twelve characters, and no date is written with twelve. -/
theorem parse_text_of_five_digits {d : Date} (h : HasFiveDigits d.year) :
    parse d.text = .error (.malformed d.text .date) := by
  refine (parse_cases d.text).resolve_right ?_
  rintro ⟨f, hf⟩
  have hlength := congrArg List.length (congrArg String.toList hf)
  have hsign : (printedSign d.year).length = 1 := by
    unfold HasFiveDigits at h
    unfold printedSign
    split
    · rfl
    · rw [if_pos (by omega)]
      rfl
  have hmonth := (DateText.ofDate f.year d).month.length_eq
  have hday := (DateText.ofDate f.year d).day.length_eq
  simp only [DateText.ofDate, Numeral.ofNat] at hmonth hday
  rw [toList_text, DateText.text, String.toList_ofList] at hlength
  simp only [DateText.chars, List.length_append, List.length_cons, Numeral.length_eq, hsign,
    length_leftpad_of_five_digits h.1 h.2, hmonth, hday] at hlength
  have hyear : f.year.chars.length ≠ 6 := by
    cases f.year <;> simp [YearText.chars, Numeral.length_eq]
  omega

/-- **Printed dates**: a date that is printed is read as the same date exactly if its year
    does not have five digits, and is malformed exactly if it has. -/
theorem parse_printed_iff (d : Date) :
    (parse d.text = .ok d ↔ ¬ HasFiveDigits d.year) ∧
      (parse d.text = .error (.malformed d.text .date) ↔ HasFiveDigits d.year) := by
  by_cases h : HasFiveDigits d.year
  · rw [parse_text_of_five_digits h]
    simp [h]
  · rw [parse_text_of_not_five_digits h]
    simp [h]

/-- The first day of the year 10000. -/
theorem printed_date_malformed :
    ¬ ∀ (s : String) (d : Date), parse s = .ok d → parse d.text = .ok d := by
  intro hback
  let f : DateText := ⟨.long .plus (.ofDigits ['0', '1', '0', '0', '0', '0'] rfl),
    .ofDigits ['0', '1'] rfl, .ofDigits ['0', '1'] rfl⟩
  have hexists : f.Exists := by decide
  have hfive : HasFiveDigits (f.date hexists).year := by
    show HasFiveDigits f.year.value
    decide
  have h := hback _ _ (parse_text hexists)
  rw [parse_text_of_five_digits hfive] at h
  cases h

end WritePolicy.Date
