import WritePolicy.Proofs.TemporalGrammar

/-! # Strict readings

    Two operations of the readers of temporal texts refuse a text where they could fault: a
    number beyond its word and a slice that is not well placed count as malformed. So that
    a reader does not fault does not yet say that these succeed. Here the readers are given
    their operations (`Reading.Operations`). The lenient ones are those they have. With the
    strict ones, every slice and every step of every number is a fault when it fails.

    A strict and a lenient reading have the same verdict if neither faults and both accept
    the same value or refuse for the same reason (`Reading.SameVerdict`). This is shown of a
    reader one operation at a time. What holds of the values read goes along, since later
    operations rely on it: that what was cut off a text is a text again, and how large a
    number of so many digits can be.
-/

namespace WritePolicy

open Bytes (ofChars IsAscii)

/-! ## Texts among bytes -/

namespace Bytes

variable {bs a b : Bytes} {m : Char} {i j count : Nat}

/-- Bytes that encode characters. -/
def IsText (bs : Bytes) : Prop :=
  ∃ cs, bs = ofChars cs

theorem isText_ofString (s : String) : IsText (ofString s) :=
  ⟨s.toList, rfl⟩

/-- What stands before and after an ASCII character are texts. -/
theorem IsText.of_splitOnce? (h : IsText bs) (hm : IsAscii m)
    (hsplit : splitOnce? m.toUInt8 bs = some (a, b)) : IsText a ∧ IsText b := by
  obtain ⟨cs, rfl⟩ := h
  by_cases hmem : m ∈ cs
  · obtain ⟨before, after, rfl, hbefore⟩ := List.eq_append_cons_of_mem hmem
    rw [splitOnce?_ofChars hm hbefore, Option.some.injEq, Prod.mk.injEq] at hsplit
    exact ⟨⟨before, hsplit.1.symm⟩, ⟨after, hsplit.2.symm⟩⟩
  · rw [splitOnce?_ofChars_eq_none hm hmem] at hsplit
    cases hsplit

/-- What follows a sign at the start is a text. -/
theorem IsText.sliceFrom_one (h : IsText bs) {s : Sign} (hhead : bs.head? = some s.char.toUInt8) :
    ∃ rest, sliceFrom bs 1 = .ok rest ∧ IsText rest := by
  obtain ⟨cs, rfl⟩ := h
  obtain ⟨rest, rfl⟩ := Sign.exists_of_head? hhead
  exact ⟨ofChars rest, sliceFrom_cons s.isAscii_char rest, ⟨rest, rfl⟩⟩

/-- A text is cut between characters where a designator could begin first. -/
theorem IsText.cut_designator (h : IsText bs)
    (hfind : find? DateTime.beginsDesignator bs = some i) :
    ∃ before after, slice bs 0 i = .ok before ∧ sliceFrom bs i = .ok after ∧ IsText after := by
  obtain ⟨cs, rfl⟩ := h
  cases hbegins : cs.find? (fun c => decide (Designator.Begins c)) with
  | none =>
    rw [find?_eq_none (DateTime.not_beginsDesignator (by simpa using hbegins))] at hfind
    cases hfind
  | some c =>
    obtain ⟨hc, before, after, rfl, hbefore⟩ := List.find?_eq_some_iff_append.mp hbegins
    have hmark : Designator.Begins c := by simpa using hc
    -- such characters are ASCII, so the first of them is where the first such byte is
    have hfirst : find? DateTime.beginsDesignator (ofChars (before ++ c :: after)) =
        some (ofChars before).length := by
      rw [ofChars_append, ofChars_cons_of_ascii (DateTime.isAscii_of_begins hmark)]
      exact find?_append (DateTime.not_beginsDesignator (by simpa using hbefore))
        (DateTime.beginsDesignator_iff.mpr ⟨c, hmark, rfl⟩) _
    rw [hfirst, Option.some.injEq] at hfind
    subst hfind
    exact ⟨ofChars before, ofChars (c :: after), slice_ofChars [] before (c :: after),
      sliceFrom_ofChars before (c :: after), ⟨c :: after, rfl⟩⟩

/-- Among bytes that continue no character, every slice within them is well placed. -/
theorem slice_of_no_continuation (h : ∀ x ∈ bs, isContinuation x = false) (hle : i ≤ j)
    (hlast : j ≤ bs.length) : slice bs i j = .ok ((bs.take j).drop i) := by
  have hboundary : ∀ k ≤ bs.length, isBoundary bs k = true := by
    intro k hk
    unfold isBoundary
    cases hget : bs[k]? with
    | some x => simp [h x (List.mem_of_getElem? hget)]
    | none =>
      have hend := List.getElem?_eq_none_iff.mp hget
      simpa using Nat.le_antisymm hk hend
  unfold slice
  rw [if_pos ⟨hle, hlast⟩, hboundary i (by omega), hboundary j hlast]
  rfl

theorem byteAt_of_lt (h : i < bs.length) : byteAt bs i = .ok bs[i] := by
  unfold byteAt
  rw [List.getElem?_eq_getElem h]

/-! ## Numbers in words -/

/-- A number with one more digit behind it. -/
def appendDigit (n : Nat) (x : UInt8) : Checked Nat := do
  let tenfold ← word32 (10 * n)
  let digit ← minus x.toNat 0x30
  word32 (tenfold + digit)

/-- The number written by exactly `count` ASCII digits, with every step in a word. -/
def digits (bs : Bytes) (count : Nat) : Checked (Option Nat) :=
  if bs.length = count ∧ bs.all isDigit then some <$> bs.foldlM appendDigit 0
  else .ok none

theorem isDigit_bounds {x : UInt8} (h : isDigit x = true) : 48 ≤ x.toNat ∧ x.toNat ≤ 57 := by
  have hends : (0x30 : UInt8).toNat = 48 ∧ (0x39 : UInt8).toNat = 57 := ⟨rfl, rfl⟩
  simp only [isDigit, Bool.and_eq_true, decide_eq_true_eq, UInt8.le_iff_toNat_le] at h
  omega

/-- Behind a number of `k` digits, digits up to nine in all stay in the word. -/
theorem foldlM_appendDigit (hdigits : ∀ x ∈ bs, isDigit x = true) {n k : Nat} (hn : n < 10 ^ k)
    (hnine : k + bs.length ≤ 9) :
    bs.foldlM appendDigit n = .ok (bs.foldl (fun n x => 10 * n + (x.toNat - 0x30)) n) ∧
      bs.foldl (fun n x => 10 * n + (x.toNat - 0x30)) n < 10 ^ (k + bs.length) := by
  -- on the digits that follow; each moves the bound on by one place
  induction bs generalizing n k with
  | nil => exact ⟨rfl, hn⟩
  | cons x bs ih =>
    have hx := isDigit_bounds (hdigits x (by simp))
    have hlength : k + (x :: bs).length = k + 1 + bs.length := by
      rw [List.length_cons]
      omega
    rw [hlength] at hnine ⊢
    have hnext : 10 * n + (x.toNat - 0x30) < 10 ^ (k + 1) := by
      rw [Nat.pow_succ]
      omega
    have hfits : 10 ^ (k + 1) ≤ 10 ^ 9 := Nat.pow_le_pow_right (by decide) (by omega)
    have hword : twoTo 32 = 4294967296 := rfl
    have hstep : appendDigit n x = .ok (10 * n + (x.toNat - 0x30)) := by
      unfold appendDigit word32 minus
      rw [if_pos (by omega), if_pos hx.1]
      exact if_pos (by omega)
    rw [List.foldlM_cons, hstep, List.foldl_cons]
    exact ih (fun y hy => hdigits y (by simp [hy])) hnext hnine

/-- Up to nine digits are read in words as they are read without, and bound the number. -/
theorem digits_eq (bs : Bytes) (hcount : count ≤ 9) :
    digits bs count = .ok (digits? bs count) ∧
      ∀ n, digits? bs count = some n → n < 10 ^ count := by
  unfold digits digits?
  by_cases hall : bs.length = count ∧ bs.all isDigit
  · obtain ⟨hfold, hlt⟩ := foldlM_appendDigit (List.all_eq_true.mp hall.2) (n := 0) (k := 0)
      (by decide) (by omega)
    rw [Nat.zero_add, hall.1] at hlt
    have hword : twoTo 32 = 4294967296 := rfl
    have hfits : 10 ^ count ≤ 10 ^ 9 := Nat.pow_le_pow_right (by decide) hcount
    rw [if_pos hall, if_pos hall, if_pos (by omega), hfold]
    refine ⟨rfl, fun n hn => ?_⟩
    rw [← Option.some.inj hn]
    exact hlt
  · rw [if_neg hall, if_neg hall]
    exact ⟨rfl, nofun⟩

/-- Ten digits can leave the word. -/
example : digits (List.replicate 10 0x39) 10 = .error .overflow ∧
    digits? (List.replicate 10 0x39) 10 = none := by
  decide

end Bytes

/-! ## Strict and lenient operations -/

namespace Reading

/-- The operations of a reader that may give nothing. -/
structure Operations where
  /-- The number written by so many digits. -/
  digits : Bytes → Nat → Reading (Option Nat)
  /-- The bytes from one offset up to another. -/
  part : Bytes → Nat → Nat → Reading (Option Bytes)

namespace Operations

/-- A number beyond its word and a slice that is not well placed give nothing. -/
def lenient : Operations where
  digits bs count := pure (Bytes.digits? bs count)
  part bs start stop := pure (Bytes.slice? bs start stop)

/-- Either is a fault. -/
def strict : Operations where
  digits bs count := checked (Bytes.digits bs count)
  part bs start stop := some <$> checked (Bytes.slice bs start stop)

end Operations

/-! ## Readings of one verdict -/

variable {α β : Type}

/-- Both readings come to the same verdict, without a fault, and a value that they accept
    has the property. -/
def SameVerdict (r s : Reading α) (p : α → Prop) : Prop :=
  ∃ verdict, r.run = .ok verdict ∧ s.run = .ok verdict ∧ ∀ a, verdict = .ok a → p a

namespace SameVerdict

variable {r s : Reading α} {f g : α → Reading β} {p : α → Prop} {q : β → Prop} {a : α}

protected theorem pure (h : p a) : SameVerdict (pure a) (pure a) p :=
  ⟨.ok a, rfl, rfl, fun b hb => by
    cases hb
    exact h⟩

protected theorem throw (e : Refusal) : SameVerdict (throw e) (throw e) p :=
  ⟨.error e, rfl, rfl, nofun⟩

protected theorem required {o : Option α} (h : ∀ a, o = some a → p a) :
    SameVerdict (required o) (required o) p := by
  cases o with
  | none => exact .throw .malformed
  | some a => exact .pure (h a rfl)

protected theorem checked {c : Checked α} (hc : c = .ok a) (h : p a) :
    SameVerdict (checked c) (checked c) p := by
  rw [hc]
  exact .pure h

/-- One reading after another: what follows may rely on the value. -/
protected theorem bind (h : SameVerdict r s p) (hnext : ∀ a, p a → SameVerdict (f a) (g a) q) :
    SameVerdict (r >>= f) (s >>= g) q := by
  obtain ⟨verdict, hr, hs, hp⟩ := h
  cases verdict with
  | ok a =>
    have hr : r = pure a := hr
    have hs : s = pure a := hs
    rw [hr, hs, pure_bind, pure_bind]
    exact hnext a (hp a rfl)
  | error e =>
    have hr : r = throw e := hr
    have hs : s = throw e := hs
    rw [hr, hs]
    exact .throw e

/-! ### Single operations -/

theorem after_checked {c : Checked α} (hc : c = .ok a) (hnext : SameVerdict (f a) (g a) q) :
    SameVerdict (checked c >>= f) (checked c >>= g) q := by
  rw [hc]
  exact hnext

/-- A group of up to nine digits. -/
protected theorem digits (bs : Bytes) {count : Nat} (hcount : count ≤ 9) :
    SameVerdict (Operations.strict.digits bs count) (Operations.lenient.digits bs count)
      fun o => ∀ n, o = some n → n < 10 ^ count := by
  obtain ⟨hdigits, hlt⟩ := Bytes.digits_eq bs hcount
  simp only [Operations.strict, Operations.lenient, hdigits]
  exact .pure hlt

theorem after_digits (bs : Bytes) {count : Nat} (hcount : count ≤ 9) {f g : Nat → Reading β}
    (hnext : ∀ n, n < 10 ^ count → SameVerdict (f n) (g n) q) :
    SameVerdict (Operations.strict.digits bs count >>= fun o => required o >>= f)
      (Operations.lenient.digits bs count >>= fun o => required o >>= g) q :=
  (SameVerdict.digits bs hcount).bind fun _ ho => (SameVerdict.required ho).bind hnext

/-- A number of two digits that must lie below a bound. -/
theorem after_digits_below (bs : Bytes) (bound : Nat) {f g : Nat → Reading β}
    (hnext : ∀ n, n < bound → SameVerdict (f n) (g n) q) :
    SameVerdict
      (Operations.strict.digits bs 2 >>= fun o => required (o.filter (· < bound)) >>= f)
      (Operations.lenient.digits bs 2 >>= fun o => required (o.filter (· < bound)) >>= g) q := by
  refine (SameVerdict.digits bs (by decide)).bind fun o _ => ?_
  refine SameVerdict.bind (.required fun n hn => ?_) hnext
  simpa using (Option.filter_eq_some_iff.mp hn).2

/-- A slice within bytes that continue no character. -/
theorem after_part {bs : Bytes} {start stop : Nat}
    (h : ∀ x ∈ bs, Bytes.isContinuation x = false) (hle : start ≤ stop)
    (hlast : stop ≤ bs.length) {f g : Bytes → Reading β}
    (hnext : ∀ piece, SameVerdict (f piece) (g piece) q) :
    SameVerdict (Operations.strict.part bs start stop >>= fun o => required o >>= f)
      (Operations.lenient.part bs start stop >>= fun o => required o >>= g) q := by
  have hslice := Bytes.slice_of_no_continuation h hle hlast
  simp only [Operations.strict, Operations.lenient, Bytes.slice?, hslice]
  exact hnext _

/-- A sign, and the text behind it. -/
theorem after_sign {bs : Bytes} (h : bs.IsText) {f g : Int → Bytes → Reading β}
    (hnext : ∀ (s : Sign) (body : Bytes), body.IsText →
      SameVerdict (f s.factor body) (g s.factor body) q) :
    SameVerdict
      (required (bs.head?.bind Offset.sign?) >>= fun sign => checked (bs.sliceFrom 1) >>= f sign)
      (required (bs.head?.bind Offset.sign?) >>= fun sign => checked (bs.sliceFrom 1) >>= g sign)
      q := by
  cases hsign : bs.head?.bind Offset.sign? with
  | none => exact .throw .malformed
  | some i =>
    obtain ⟨x, hhead, hx⟩ := Option.bind_eq_some_iff.mp hsign
    obtain ⟨s, rfl, rfl⟩ : ∃ s : Sign, x = s.char.toUInt8 ∧ i = s.factor := by
      unfold Offset.sign? at hx
      split at hx
      · exact ⟨.plus, rfl, (Option.some.inj hx).symm⟩
      · exact ⟨.minus, rfl, (Option.some.inj hx).symm⟩
      · cases hx
    obtain ⟨body, hbody, htext⟩ := h.sliceFrom_one hhead
    exact after_checked hbody (hnext s body htext)

end SameVerdict

end Reading

end WritePolicy
