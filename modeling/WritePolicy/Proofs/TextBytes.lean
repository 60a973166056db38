import Mathlib.Data.List.Basic
import WritePolicy.Time.Checked

/-! # Bytes of texts

    The readers of temporal texts see bytes, and their operations fault where a slice
    would cut a character. What they look for are ASCII characters only. Such a character
    is one byte, and no other character has that byte in its encoding
    (`ascii_mem_ofChars_iff`). So a search among the bytes of a text finds what the same
    search among its characters finds, and what it cuts off are the bytes of characters
    again.

    Slices are well placed for the same reason: wherever characters end, the next byte
    does not continue one (`isBoundary_ofChars`).
-/

namespace WritePolicy.Bytes

/-- The bytes of characters. -/
def ofChars (cs : List Char) : Bytes :=
  cs.flatMap String.utf8EncodeChar

/-- A character of one byte. -/
def IsAscii (c : Char) : Prop :=
  c.toNat < 128

instance (c : Char) : Decidable (IsAscii c) :=
  inferInstanceAs (Decidable (_ < _))

variable {a b cs : List Char} {c m : Char}

theorem ofString_ofList (cs : List Char) : ofString (String.ofList cs) = ofChars cs := by
  simp only [ofString, ofChars, String.toList_ofList]

@[simp] theorem ofChars_nil : ofChars [] = [] := rfl

theorem ofChars_append (a b : List Char) : ofChars (a ++ b) = ofChars a ++ ofChars b :=
  List.flatMap_append

theorem ofChars_cons (c : Char) (cs : List Char) :
    ofChars (c :: cs) = String.utf8EncodeChar c ++ ofChars cs :=
  List.flatMap_cons

/-! ## Single characters -/

theorem toNat_toUInt8 (hc : IsAscii c) : c.toUInt8.toNat = c.toNat := by
  have hlt : c.val.toNat < 128 := hc
  show c.val.toNat % 256 = c.val.toNat
  omega

theorem toUInt8_inj (hc : IsAscii c) (hm : IsAscii m) : c.toUInt8 = m.toUInt8 ↔ c = m := by
  rw [← UInt8.toNat_inj, toNat_toUInt8 hc, toNat_toUInt8 hm, Char.toNat_inj]

/-- An ASCII character is encoded by its code. -/
theorem utf8EncodeChar_of_ascii (hc : IsAscii c) : String.utf8EncodeChar c = [c.toUInt8] := by
  have hlt : c.val.toNat < 128 := hc
  unfold String.utf8EncodeChar
  rw [if_pos (by omega)]
  rfl

/-- Any other character begins with a byte that begins characters of several bytes, and
    none of its bytes is that of an ASCII character. -/
theorem utf8EncodeChar_of_not_ascii (hc : ¬ IsAscii c) :
    ∃ first others, String.utf8EncodeChar c = first :: others ∧ 0xC0 ≤ first.toNat ∧
      ∀ x ∈ others, 0x80 ≤ x.toNat := by
  have hge : ¬ c.val.toNat < 128 := hc
  have hmax : c.val.toNat < 0x110000 := by
    have hvalid := c.valid
    simp only [UInt32.isValidChar, Nat.isValidChar] at hvalid
    omega
  unfold String.utf8EncodeChar
  dsimp only
  rw [if_neg (by omega)]
  split
  · refine ⟨_, _, rfl, ?_, ?_⟩ <;> simp <;> omega
  · split
    · refine ⟨_, _, rfl, ?_, ?_⟩ <;> simp <;> omega
    · refine ⟨_, _, rfl, ?_, ?_⟩ <;> simp <;> omega

@[simp] theorem ofChars_cons_of_ascii (hc : IsAscii c) (cs : List Char) :
    ofChars (c :: cs) = c.toUInt8 :: ofChars cs := by
  rw [ofChars_cons, utf8EncodeChar_of_ascii hc]
  rfl

/-- Characters of one byte each. -/
theorem ofChars_of_ascii (h : ∀ c ∈ cs, IsAscii c) : ofChars cs = cs.map Char.toUInt8 := by
  induction cs with
  | nil => rfl
  | cons c cs ih =>
    rw [ofChars_cons_of_ascii (h c (by simp)), ih fun x hx => h x (by simp [hx])]
    rfl

/-- Of a text whose bytes are all those of ASCII characters, all characters are. -/
theorem ascii_of_bytes (h : ∀ x ∈ ofChars cs, x.toNat < 128) : ∀ c ∈ cs, IsAscii c := by
  induction cs with
  | nil => simp
  | cons c cs ih =>
    rw [ofChars_cons] at h
    have hc : IsAscii c := by
      by_contra hwide
      obtain ⟨first, others, henc, hfirst, -⟩ := utf8EncodeChar_of_not_ascii hwide
      have := h first (by simp [henc])
      omega
    intro x hx
    rcases List.mem_cons.mp hx with rfl | hx
    · exact hc
    · exact ih (fun y hy => h y (List.mem_append_right _ hy)) x hx

/-- The byte of an ASCII character occurs where the character does. -/
theorem ascii_mem_ofChars_iff (hm : IsAscii m) : m.toUInt8 ∈ ofChars cs ↔ m ∈ cs := by
  have hcode := toNat_toUInt8 hm
  have hlt : m.toNat < 128 := hm
  induction cs with
  | nil => simp
  | cons c cs ih =>
    rw [ofChars_cons, List.mem_append, List.mem_cons]
    refine or_congr ?_ ih
    by_cases hc : IsAscii c
    · rw [utf8EncodeChar_of_ascii hc, List.mem_singleton, toUInt8_inj hm hc]
    · obtain ⟨first, others, henc, hfirst, hothers⟩ := utf8EncodeChar_of_not_ascii hc
      rw [henc, List.mem_cons]
      constructor
      · rintro (heq | hmem)
        · rw [← heq] at hfirst
          omega
        · have := hothers _ hmem
          omega
      · rintro rfl
        exact absurd hm hc

/-- A text begins with the byte of an ASCII character only if it begins with it. -/
theorem head?_ofChars_eq_iff (hm : IsAscii m) :
    (ofChars cs).head? = some m.toUInt8 ↔ cs.head? = some m := by
  have hcode := toNat_toUInt8 hm
  have hlt : m.toNat < 128 := hm
  cases cs with
  | nil => simp
  | cons c cs =>
    by_cases hc : IsAscii c
    · simp [hc, toUInt8_inj hc hm]
    · obtain ⟨first, others, henc, hfirst, -⟩ := utf8EncodeChar_of_not_ascii hc
      rw [ofChars_cons, henc]
      constructor
      · intro h
        cases h
        omega
      · intro h
        cases h
        exact absurd hm hc

/-- A text is one ASCII character if its bytes are. -/
theorem ofChars_eq_singleton_iff (hm : IsAscii m) : ofChars cs = [m.toUInt8] ↔ cs = [m] := by
  constructor
  · intro h
    have hascii : ∀ c ∈ cs, IsAscii c := by
      refine ascii_of_bytes fun x hx => ?_
      rw [h, List.mem_singleton] at hx
      rw [hx, toNat_toUInt8 hm]
      exact hm
    rw [ofChars_of_ascii hascii] at h
    obtain ⟨c, rfl, hcode⟩ := List.map_eq_singleton_iff.mp h
    rw [(toUInt8_inj (hascii c (by simp)) hm).mp hcode]
  · rintro rfl
    rw [ofChars_cons_of_ascii hm]
    rfl

/-! ## Slices at the ends of characters -/

/-- Where characters end, the next byte does not continue one. -/
theorem isBoundary_ofChars (bs : Bytes) (b : List Char) :
    isBoundary (bs ++ ofChars b) bs.length = true := by
  unfold isBoundary
  cases b with
  | nil => simp
  | cons c b =>
    obtain ⟨first, others, henc, hfirst⟩ : ∃ first others, String.utf8EncodeChar c =
        first :: others ∧ (first.toNat < 0x80 ∨ 0xC0 ≤ first.toNat) := by
      by_cases hc : IsAscii c
      · refine ⟨_, _, utf8EncodeChar_of_ascii hc, .inl ?_⟩
        rw [toNat_toUInt8 hc]
        exact hc
      · obtain ⟨first, others, henc, hfirst, -⟩ := utf8EncodeChar_of_not_ascii hc
        exact ⟨first, others, henc, .inr hfirst⟩
    have hget : (bs ++ ofChars (c :: b))[bs.length]? = some first := by
      rw [ofChars_cons, henc]
      simp
    rw [hget]
    have hcodes : (0x80 : UInt8).toNat = 128 ∧ (0xC0 : UInt8).toNat = 192 := ⟨rfl, rfl⟩
    simp only [isContinuation, Bool.not_eq_true', Bool.and_eq_false_iff, decide_eq_false_iff_not,
      UInt8.lt_iff_toNat_lt, UInt8.le_iff_toNat_le]
    omega

/-- A slice that begins and ends where characters do. -/
theorem slice_ofChars (before part after : List Char) :
    slice (ofChars (before ++ part ++ after)) (ofChars before).length
      (ofChars (before ++ part)).length = .ok (ofChars part) := by
  have hstart : isBoundary (ofChars (before ++ part ++ after)) (ofChars before).length = true := by
    rw [List.append_assoc, ofChars_append]
    exact isBoundary_ofChars _ _
  have hstop : isBoundary (ofChars (before ++ part ++ after))
      (ofChars (before ++ part)).length = true := by
    rw [ofChars_append]
    exact isBoundary_ofChars _ _
  unfold slice
  rw [if_pos (by simp [ofChars_append]), hstart, hstop]
  simp [ofChars_append, List.take_append]

/-- What follows some characters. -/
theorem sliceFrom_ofChars (before after : List Char) :
    sliceFrom (ofChars (before ++ after)) (ofChars before).length = .ok (ofChars after) := by
  have h := slice_ofChars before after []
  rwa [List.append_nil] at h

/-- What follows an ASCII character. -/
theorem sliceFrom_cons (hc : IsAscii c) (cs : List Char) :
    sliceFrom (ofChars (c :: cs)) 1 = .ok (ofChars cs) := by
  have h := sliceFrom_ofChars [c] cs
  rwa [ofChars_cons_of_ascii hc []] at h

/-! ## Marks -/

theorem splitOnce?_append {mark : UInt8} {before : Bytes} (h : mark ∉ before) (after : Bytes) :
    splitOnce? mark (before ++ mark :: after) = some (before, after) := by
  induction before with
  | nil => simp [splitOnce?]
  | cons x before ih =>
    rw [List.mem_cons, not_or] at h
    rw [List.cons_append, splitOnce?, if_neg (Ne.symm h.1), ih h.2]
    rfl

theorem splitOnce?_eq_none {mark : UInt8} {bs : Bytes} (h : mark ∉ bs) :
    splitOnce? mark bs = none := by
  induction bs with
  | nil => rfl
  | cons x bs ih =>
    rw [List.mem_cons, not_or] at h
    rw [splitOnce?, if_neg (Ne.symm h.1), ih h.2]
    rfl

/-- A text with a mark, split at the first one. -/
theorem splitOnce?_ofChars (hm : IsAscii m) (h : m ∉ a) (b : List Char) :
    splitOnce? m.toUInt8 (ofChars (a ++ m :: b)) = some (ofChars a, ofChars b) := by
  rw [ofChars_append, ofChars_cons_of_ascii hm]
  exact splitOnce?_append (mt (ascii_mem_ofChars_iff hm).mp h) _

/-- A text without the mark. -/
theorem splitOnce?_ofChars_eq_none (hm : IsAscii m) (h : m ∉ cs) :
    splitOnce? m.toUInt8 (ofChars cs) = none :=
  splitOnce?_eq_none (mt (ascii_mem_ofChars_iff hm).mp h)

theorem pieces_append {mark : UInt8} {before : Bytes} (h : mark ∉ before) (after : Bytes) :
    pieces mark (before ++ mark :: after) = before :: pieces mark after := by
  induction before with
  | nil => simp [pieces]
  | cons x before ih =>
    rw [List.mem_cons, not_or] at h
    rw [List.cons_append, pieces, if_neg (Ne.symm h.1), ih h.2]

theorem pieces_eq_singleton {mark : UInt8} {bs : Bytes} (h : mark ∉ bs) :
    pieces mark bs = [bs] := by
  induction bs with
  | nil => rfl
  | cons x bs ih =>
    rw [List.mem_cons, not_or] at h
    rw [pieces, if_neg (Ne.symm h.1), ih h.2]

/-- The pieces of a text between marks are those of its characters. -/
theorem pieces_ofChars (hm : IsAscii m) (cs : List Char) :
    pieces m.toUInt8 (ofChars cs) = (cs.splitOn m).map ofChars := by
  by_cases hmem : m ∈ cs
  · -- take off what stands before the first mark
    obtain ⟨a, b, rfl, ha⟩ := List.eq_append_cons_of_mem hmem
    have hlength : b.length < (a ++ m :: b).length := by
      rw [List.length_append, List.length_cons]
      omega
    rw [ofChars_append, ofChars_cons_of_ascii hm, List.splitOn_append_cons_self_of_not_mem ha,
      pieces_append (mt (ascii_mem_ofChars_iff hm).mp ha), pieces_ofChars hm b, List.map_cons]
  · rw [List.splitOn_eq_singleton hmem, pieces_eq_singleton (mt (ascii_mem_ofChars_iff hm).mp hmem)]
    rfl
termination_by cs.length

theorem find?_append {p : UInt8 → Bool} {before : Bytes} {x : UInt8}
    (h : ∀ y ∈ before, p y = false) (hx : p x = true) (after : Bytes) :
    find? p (before ++ x :: after) = some before.length := by
  induction before with
  | nil => simp [find?, hx]
  | cons y before ih =>
    rw [List.cons_append, find?, h y (by simp), ih fun z hz => h z (by simp [hz])]
    rfl

theorem find?_eq_none {p : UInt8 → Bool} {bs : Bytes} (h : ∀ y ∈ bs, p y = false) :
    find? p bs = none := by
  induction bs with
  | nil => rfl
  | cons y bs ih =>
    rw [find?, h y (by simp), ih fun z hz => h z (by simp [hz])]
    rfl

end WritePolicy.Bytes
