import Mathlib.Data.List.Induction
import WritePolicy.Proofs.Reading

/-! # The tokens of a text, part by part

    A separator is a character that ends the token before it: a blank, which is no token
    itself, or punctuation, which is one. Where a separator stands outside of a string,
    the scanner depends on what came before only through the tokens that it has
    completed, and of these it never looks at one again (`step_above`). So the tokens of
    a text are those of its parts (`tokens?_append_separator`).

    Conversely a text whose tokens begin or end with a brace begins or ends with that
    brace, but for blanks. A separator within a string is no separator; a text in which
    no quote follows it is not within a string there, for only a quote ends a string.
-/

namespace WritePolicy.Json

/-- The tokens that a separator is: one for punctuation and none for a blank. -/
def separator? (c : Char) : Option (List Token) :=
  if isBlank c then some []
  else match c with
    | '[' => some [.openArray]
    | ']' => some [.closeArray]
    | '\x7b' => some [.openObject]
    | '\x7d' => some [.closeObject]
    | ',' => some [.comma]
    | ':' => some [.colon]
    | _ => none

theorem separator?_of_blank {c : Char} (h : isBlank c = true) : separator? c = some [] :=
  if_pos h

/-- A separator is a blank, or one token, and only a brace is a brace. -/
theorem separator?_cases {c : Char} {ps : List Token} (h : separator? c = some ps) :
    (isBlank c = true ∧ ps = []) ∨
      ∃ t, ps = [t] ∧ (t = .openObject → c = '\x7b') ∧ (t = .closeObject → c = '\x7d') := by
  unfold separator? at h
  split at h
  · next hblank =>
    cases h
    exact .inl ⟨hblank, rfl⟩
  · split at h <;> cases h <;> exact .inr ⟨_, rfl, by simp, by simp⟩

namespace Scanner

variable {s s' : Scanner} {c : Char} {tokens base ps ts : List Token}

/-! ## Tokens below -/

/-- The scanner with further tokens that were completed before its own. -/
def above (s : Scanner) (base : List Token) : Scanner :=
  ⟨s.mode, s.tokens ++ base⟩

theorem eq_above {more : List Token} (h : s.tokens = more ++ base) :
    s = above ⟨s.mode, more⟩ base := by
  unfold above
  rw [← h]

theorem begin_above (tokens base : List Token) (c : Char) :
    begin (tokens ++ base) c = (begin tokens c).map (·.above base) := by
  unfold begin
  split
  · rfl
  · split
    case h_8 => split_ifs <;> rfl
    all_goals rfl

/-- A step does not look at the tokens that are complete. -/
theorem step_above (s : Scanner) (base : List Token) (c : Char) :
    step (s.above base) c = (step s c).map (·.above base) := by
  obtain ⟨mode, tokens⟩ := s
  unfold step above
  cases mode with
  | between => exact begin_above tokens base c
  | string read escape =>
    cases escape with
    | none =>
      dsimp only
      split_ifs <;> rfl
    | some e =>
      dsimp only
      cases escaped read c e <;> rfl
  | numeral read =>
    dsimp only
    split_ifs
    · rfl
    · cases numeral? read.reverse with
      | none => rfl
      | some n => exact begin_above (.scalar (.number n) :: tokens) base c
  | word read =>
    dsimp only
    split_ifs
    · rfl
    · cases word? read.reverse with
      | none => rfl
      | some v => exact begin_above (.scalar v :: tokens) base c

theorem foldlM_above (s : Scanner) (base : List Token) (cs : List Char) :
    cs.foldlM step (s.above base) = (cs.foldlM step s).map (·.above base) := by
  induction cs generalizing s with
  | nil => rfl
  | cons c rest ih =>
    rw [List.foldlM_cons, List.foldlM_cons, step_above]
    cases step s c with
    | none => rfl
    | some next => exact ih next

theorem finish_above (s : Scanner) (base : List Token) :
    (s.above base).finish = s.finish.map (· ++ base) := by
  obtain ⟨mode, tokens⟩ := s
  unfold finish above
  cases mode with
  | between => rfl
  | string _ _ => rfl
  | numeral read =>
    dsimp only
    cases numeral? read.reverse <;> rfl
  | word read =>
    dsimp only
    cases word? read.reverse <;> rfl

/-! ## Separators -/

theorem begin_separator (h : separator? c = some ps) (tokens : List Token) :
    begin tokens c = some ⟨.between, ps ++ tokens⟩ := by
  unfold separator? at h
  unfold begin
  split at h
  · next hblank =>
    rw [if_pos hblank]
    cases h
    rfl
  · next hblank =>
    rw [if_neg hblank]
    split at h <;> cases h <;> rfl

/-- No token goes on with a separator. -/
theorem separator_ends (h : separator? c = some ps) :
    isNumeralChar c = false ∧ c.isAlpha = false ∧ c ≠ '"' := by
  unfold separator? at h
  split at h
  · next hblank =>
    have hcases : c = ' ' ∨ c = '\t' ∨ c = '\n' ∨ c = '\r' := by
      simpa [isBlank, or_assoc] using hblank
    rcases hcases with rfl | rfl | rfl | rfl <;> decide
  · split at h <;> cases h <;> decide

/-- A separator is at most one token. -/
theorem reverse_separator (h : separator? c = some ps) : ps.reverse = ps := by
  rcases separator?_cases h with ⟨-, rfl⟩ | ⟨t, rfl, -⟩ <;> rfl

/-- A separator completes what could be complete without it. -/
theorem step_separator (h : separator? c = some ps) (hfinish : s.finish = some ts) :
    step s c = some ⟨.between, ps ++ ts⟩ := by
  obtain ⟨mode, tokens⟩ := s
  obtain ⟨hnumeral, halpha, -⟩ := separator_ends h
  unfold finish at hfinish
  unfold step
  cases mode with
  | between =>
    cases hfinish
    exact begin_separator h tokens
  | string _ _ => cases hfinish
  | numeral read =>
    obtain ⟨n, hn, hfinish⟩ := Option.bind_eq_some_iff.mp hfinish
    cases hfinish
    simp only [hnumeral, hn]
    exact begin_separator h _
  | word read =>
    obtain ⟨v, hv, hfinish⟩ := Option.bind_eq_some_iff.mp hfinish
    cases hfinish
    simp only [halpha, hv]
    exact begin_separator h _

/-! ## Strings -/

/-- The scanner is inside a string. -/
def InString (s : Scanner) : Prop :=
  ∃ read escape, s.mode = .string read escape

theorem finish_inString (h : s.InString) : s.finish = none := by
  obtain ⟨read, escape, hmode⟩ := h
  unfold finish
  rw [hmode]

/-- A code unit is completed inside the string. -/
theorem closeUnit_inString {read : List Char} {unit : Nat} {high : Option Nat} {mode : Mode}
    (h : closeUnit read unit high = some mode) : ∃ read escape, mode = .string read escape := by
  unfold closeUnit at h
  split at h <;> split_ifs at h <;> cases h <;> exact ⟨_, _, rfl⟩

theorem escaped_inString {read : List Char} {e : Escape} {mode : Mode}
    (h : escaped read c e = some mode) : ∃ read escape, mode = .string read escape := by
  unfold escaped at h
  cases e with
  | start => dsimp only at h; split at h <;> cases h <;> exact ⟨_, _, rfl⟩
  | unit owed value high =>
    obtain ⟨digit, -, h⟩ := Option.bind_eq_some_iff.mp h
    split at h
    · exact closeUnit_inString h
    · cases h
      exact ⟨_, _, rfl⟩
  | backslash high =>
    dsimp only at h
    split_ifs at h
    cases h
    exact ⟨_, _, rfl⟩
  | mark high =>
    dsimp only at h
    split_ifs at h
    cases h
    exact ⟨_, _, rfl⟩

/-- Only a quote ends a string. -/
theorem step_inString (h : s.InString) (hc : c ≠ '"') (hstep : step s c = some s') :
    s'.InString := by
  obtain ⟨mode, tokens⟩ := s
  obtain ⟨read, escape, rfl⟩ := h
  unfold step at hstep
  cases escape with
  | none =>
    have hquote : (c == '"') = false := beq_false_of_ne hc
    simp only [hquote, Bool.false_eq_true, if_false] at hstep
    split_ifs at hstep <;> cases hstep <;> exact ⟨_, _, rfl⟩
  | some e =>
    obtain ⟨mode, hmode, rfl⟩ := Option.map_eq_some_iff.mp hstep
    exact escaped_inString hmode

/-- Outside of a string, what a separator completes could be complete without it. -/
theorem exists_finish (h : separator? c = some ps) (hs : ¬ s.InString)
    (hstep : step s c = some s') : ∃ ts, s.finish = some ts := by
  obtain ⟨mode, tokens⟩ := s
  obtain ⟨hnumeral, halpha, -⟩ := separator_ends h
  unfold step at hstep
  unfold finish
  cases mode with
  | between => exact ⟨tokens, rfl⟩
  | string read escape => exact absurd ⟨read, escape, rfl⟩ hs
  | numeral read =>
    simp only [hnumeral] at hstep
    obtain ⟨n, hn, -⟩ := Option.bind_eq_some_iff.mp hstep
    simp [hn]
  | word read =>
    simp only [halpha] at hstep
    obtain ⟨v, hv, -⟩ := Option.bind_eq_some_iff.mp hstep
    simp [hv]

/-! ## Scalars -/

/-- The scanner is inside a scalar. -/
def InScalar (s : Scanner) : Prop :=
  s.mode ≠ .between

/-- A character that is no separator begins a scalar. -/
theorem begin_inScalar (h : separator? c = none) (hbegin : begin tokens c = some s') :
    s'.InScalar ∧ s'.tokens = tokens := by
  unfold separator? at h
  unfold begin at hbegin
  split at h
  · cases h
  · next hblank =>
    rw [if_neg hblank] at hbegin
    split at hbegin
    case h_8 => split_ifs at hbegin <;> cases hbegin <;> exact ⟨nofun, rfl⟩
    case h_7 =>
      cases hbegin
      exact ⟨nofun, rfl⟩
    -- punctuation separates
    all_goals cases h

/-- A word stands for no object. -/
theorem word?_kind {cs : List Char} {v : Json} (h : word? cs = some v) : v.kind ≠ .object := by
  unfold word? at h
  split at h <;> cases h <;> nofun

/-- Whatever comes next, a scalar goes on or it is the next token. -/
theorem step_inScalar (hs : s.InScalar) (hstep : step s c = some s') :
    (s'.InScalar ∧ s'.tokens = s.tokens) ∨
      ∃ more v, s'.tokens = more ++ .scalar v :: s.tokens ∧ v.kind ≠ .object := by
  obtain ⟨mode, tokens⟩ := s
  -- what comes after a scalar is put above it
  have hbegin {v : Json} (hv : v.kind ≠ .object) (h : begin (.scalar v :: tokens) c = some s') :
      ∃ more v, s'.tokens = more ++ .scalar v :: tokens ∧ v.kind ≠ .object := by
    have habove := begin_above [] (.scalar v :: tokens) c
    rw [List.nil_append, h] at habove
    obtain ⟨next, -, hnext⟩ := Option.map_eq_some_iff.mp habove.symm
    exact ⟨next.tokens, v, by rw [← hnext]; rfl, hv⟩
  unfold step at hstep
  cases mode with
  | between => exact absurd rfl hs
  | string read escape =>
    cases escape with
    | none =>
      dsimp only at hstep
      split_ifs at hstep <;> cases hstep
      · exact .inr ⟨[], _, rfl, nofun⟩
      · exact .inl ⟨nofun, rfl⟩
      · exact .inl ⟨nofun, rfl⟩
    | some e =>
      obtain ⟨mode, hmode, rfl⟩ := Option.map_eq_some_iff.mp hstep
      obtain ⟨read', escape', rfl⟩ := escaped_inString hmode
      exact .inl ⟨nofun, rfl⟩
  | numeral read =>
    dsimp only at hstep
    split_ifs at hstep
    · cases hstep
      exact .inl ⟨nofun, rfl⟩
    · obtain ⟨n, -, hstep⟩ := Option.bind_eq_some_iff.mp hstep
      have hnumber : (number n).kind ≠ .object := nofun
      exact .inr (hbegin hnumber hstep)
  | word read =>
    dsimp only at hstep
    split_ifs at hstep
    · cases hstep
      exact .inl ⟨nofun, rfl⟩
    · obtain ⟨v, hv, hstep⟩ := Option.bind_eq_some_iff.mp hstep
      exact .inr (hbegin (word?_kind hv) hstep)

/-- After a character that is no separator, the scanner is inside a scalar, or it has just
    completed one. -/
theorem step_no_separator (h : separator? c = none) (hstep : step s c = some s') :
    s'.InScalar ∨ ∃ v, s'.tokens = .scalar v :: s.tokens := by
  obtain ⟨mode, tokens⟩ := s
  unfold step at hstep
  cases mode with
  | between => exact .inl (begin_inScalar h hstep).1
  | string read escape =>
    cases escape with
    | none =>
      dsimp only at hstep
      split_ifs at hstep <;> cases hstep
      · exact .inr ⟨_, rfl⟩
      · exact .inl nofun
      · exact .inl nofun
    | some e =>
      obtain ⟨mode, hmode, rfl⟩ := Option.map_eq_some_iff.mp hstep
      obtain ⟨read', escape', rfl⟩ := escaped_inString hmode
      exact .inl nofun
  | numeral read =>
    dsimp only at hstep
    split_ifs at hstep
    · cases hstep
      exact .inl nofun
    · obtain ⟨n, -, hstep⟩ := Option.bind_eq_some_iff.mp hstep
      exact .inl (begin_inScalar h hstep).1
  | word read =>
    dsimp only at hstep
    split_ifs at hstep
    · cases hstep
      exact .inl nofun
    · obtain ⟨v, -, hstep⟩ := Option.bind_eq_some_iff.mp hstep
      exact .inl (begin_inScalar h hstep).1

/-- At the end of the text, a scalar is the last token. -/
theorem finish_inScalar (hs : s.InScalar) (hfinish : s.finish = some ts) :
    ∃ v, ts = .scalar v :: s.tokens ∧ v.kind ≠ .object := by
  obtain ⟨mode, tokens⟩ := s
  unfold finish at hfinish
  cases mode with
  | between => exact absurd rfl hs
  | string _ _ => cases hfinish
  | numeral read =>
    obtain ⟨n, -, hfinish⟩ := Option.bind_eq_some_iff.mp hfinish
    cases hfinish
    exact ⟨_, rfl, nofun⟩
  | word read =>
    obtain ⟨v, hv, hfinish⟩ := Option.bind_eq_some_iff.mp hfinish
    cases hfinish
    exact ⟨v, rfl, word?_kind hv⟩

end Scanner

open Scanner

variable {cs ds before after : List Char} {c : Char} {ps ts : List Token}

/-! ## Parts of a text -/

theorem tokens?_eq_some_iff : tokens? cs = some ts ↔
    ∃ s, cs.foldlM step {} = some s ∧ s.finish = some ts.reverse := by
  unfold tokens?
  constructor
  · intro h
    obtain ⟨s, hs, h⟩ := Option.bind_eq_some_iff.mp h
    obtain ⟨found, hfinish, h⟩ := Option.bind_eq_some_iff.mp h
    cases h
    exact ⟨s, hs, by rw [List.reverse_reverse]; exact hfinish⟩
  · rintro ⟨s, hs, hfinish⟩
    simp [hs, hfinish]

theorem tokens?_nil : tokens? [] = some [] :=
  rfl

/-- The tokens on both sides of a separator are those of the two parts. -/
theorem tokens?_append_separator (hc : separator? c = some ps) (hcs : tokens? cs = some ts)
    (ds : List Char) : tokens? (cs ++ c :: ds) = (tokens? ds).map (ts ++ ps ++ ·) := by
  obtain ⟨s, hs, hfinish⟩ := tokens?_eq_some_iff.mp hcs
  -- after the separator, what is complete lies below a fresh scanner
  have hstep : step s c = some (above ⟨.between, []⟩ (ps ++ ts.reverse)) := by
    rw [step_separator hc hfinish]
    rfl
  unfold tokens?
  rw [List.foldlM_append, hs]
  show ((c :: ds).foldlM step s >>= _) = _
  rw [List.foldlM_cons, hstep]
  show (ds.foldlM step (above ⟨.between, []⟩ (ps ++ ts.reverse)) >>= _) = _
  rw [foldlM_above]
  cases ds.foldlM step ⟨.between, []⟩ with
  | none => rfl
  | some last =>
    show ((last.above (ps ++ ts.reverse)).finish >>= _) = Option.map _ (last.finish >>= _)
    rw [finish_above]
    cases last.finish with
    | none => rfl
    | some found =>
      show some (found ++ (ps ++ ts.reverse)).reverse = some (ts ++ ps ++ found.reverse)
      simp [reverse_separator hc]

/-- A separator at the front is itself a part. -/
theorem tokens?_separator_cons (hc : separator? c = some ps) (ds : List Char) :
    tokens? (c :: ds) = (tokens? ds).map (ps ++ ·) :=
  tokens?_append_separator hc tokens?_nil ds

/-- What precedes a separator has tokens if no quote follows. -/
theorem tokens?_of_append_separator (hc : separator? c = some ps) (hds : ∀ d ∈ ds, d ≠ '"')
    (h : tokens? (cs ++ c :: ds) = some ts) :
    ∃ before after, tokens? cs = some before ∧ tokens? ds = some after ∧
      ts = before ++ ps ++ after := by
  obtain ⟨last, hlast, hfinish⟩ := tokens?_eq_some_iff.mp h
  rw [List.foldlM_append] at hlast
  obtain ⟨s, hs, hlast⟩ := Option.bind_eq_some_iff.mp hlast
  rw [List.foldlM_cons] at hlast
  obtain ⟨next, hnext, hlast⟩ := Option.bind_eq_some_iff.mp hlast
  have houtside : ¬ s.InString := by
    intro hstring
    have hnext : next.InString := step_inString hstring (separator_ends hc).2.2 hnext
    have hlast : last.InString :=
      foldlM_preserves (fun _ _ _ hs hd hstep => step_inString hs hd hstep) hnext hds hlast
    rw [finish_inString hlast] at hfinish
    cases hfinish
  obtain ⟨found, hfound⟩ := exists_finish hc houtside hnext
  have hcs : tokens? cs = some found.reverse :=
    tokens?_eq_some_iff.mpr ⟨s, hs, by rw [List.reverse_reverse]; exact hfound⟩
  rw [tokens?_append_separator hc hcs ds] at h
  obtain ⟨rest, hrest, rfl⟩ := Option.map_eq_some_iff.mp h
  exact ⟨found.reverse, rest, hcs, hrest, rfl⟩

/-! ## Blanks -/

/-- All characters may stand between tokens. -/
def Blank (cs : List Char) : Prop :=
  ∀ c ∈ cs, isBlank c = true

theorem tokens?_blank (h : Blank cs) : tokens? cs = some [] := by
  induction cs with
  | nil => rfl
  | cons c rest ih =>
    obtain ⟨hc, hrest⟩ := List.forall_mem_cons.mp h
    rw [tokens?_separator_cons (separator?_of_blank hc), ih hrest]
    rfl

/-- Blanks at the front change nothing. -/
theorem tokens?_blank_append (h : Blank before) : tokens? (before ++ cs) = tokens? cs := by
  induction before with
  | nil => rfl
  | cons c rest ih =>
    obtain ⟨hc, hrest⟩ := List.forall_mem_cons.mp h
    rw [List.cons_append, tokens?_separator_cons (separator?_of_blank hc), ih hrest]
    simp

/-- Blanks at the end change nothing. -/
theorem tokens?_append_blank (hcs : tokens? cs = some ts) (h : Blank after) :
    tokens? (cs ++ after) = some ts := by
  cases after with
  | nil => rwa [List.append_nil]
  | cons c rest =>
    obtain ⟨hc, hrest⟩ := List.forall_mem_cons.mp h
    rw [tokens?_append_separator (separator?_of_blank hc) hcs, tokens?_blank hrest]
    simp

theorem Blank.no_quote (h : Blank cs) : ∀ c ∈ cs, c ≠ '"' :=
  fun c hc => (separator_ends (separator?_of_blank (h c hc))).2.2

/-! ## Braces around a text -/

/-- A text is read as an object with the tokens that stand between the braces. -/
theorem tokens?_braces (hbefore : Blank before) (hafter : Blank after)
    (hcs : tokens? cs = some ts) :
    tokens? (before ++ '\x7b' :: cs ++ '\x7d' :: after) =
      some (.openObject :: ts ++ [.closeObject]) := by
  have hopen : tokens? ('\x7b' :: cs) = some (.openObject :: ts) := by
    rw [tokens?_separator_cons (c := '\x7b') rfl, hcs]
    rfl
  have hclose := tokens?_append_separator (c := '\x7d') rfl hopen after
  rw [tokens?_blank hafter] at hclose
  rw [List.append_assoc, tokens?_blank_append hbefore]
  simpa using hclose

/-- What stands between the braces has tokens. -/
theorem tokens?_of_braces (hbefore : Blank before) (hafter : Blank after)
    (h : tokens? (before ++ '\x7b' :: cs ++ '\x7d' :: after) = some ts) :
    ∃ members, tokens? cs = some members ∧ ts = .openObject :: members ++ [.closeObject] := by
  rw [List.append_assoc, tokens?_blank_append hbefore, List.cons_append,
    tokens?_separator_cons (c := '\x7b') rfl] at h
  obtain ⟨rest, hrest, rfl⟩ := Option.map_eq_some_iff.mp h
  obtain ⟨members, trailing, hmembers, htrailing, rfl⟩ :=
    tokens?_of_append_separator (c := '\x7d') rfl hafter.no_quote hrest
  rw [tokens?_blank hafter] at htrailing
  cases htrailing
  exact ⟨members, hmembers, by simp⟩

/-- A text that begins with no separator begins with a scalar. -/
theorem head_of_no_separator (hc : separator? c = none) (h : tokens? (c :: cs) = some ts) :
    ∃ v more, ts = .scalar v :: more ∧ v.kind ≠ .object := by
  obtain ⟨last, hlast, hfinish⟩ := tokens?_eq_some_iff.mp h
  rw [List.foldlM_cons] at hlast
  obtain ⟨s, hs, hlast⟩ := Option.bind_eq_some_iff.mp hlast
  obtain ⟨hscalar, hnone⟩ := begin_inScalar hc hs
  -- the first scalar is being read, or it is the first of the tokens
  have hfirst : (last.InScalar ∧ last.tokens = []) ∨
      ∃ more v, last.tokens = more ++ [.scalar v] ∧ v.kind ≠ .object := by
    refine foldlM_preserves (P := fun _ => True) (I := fun s => (s.InScalar ∧ s.tokens = []) ∨
      ∃ more v, s.tokens = more ++ [.scalar v] ∧ v.kind ≠ .object)
      ?_ (.inl ⟨hscalar, hnone⟩) (fun _ _ => trivial) hlast
    rintro s d s' (⟨hs, hnil⟩ | ⟨more, v, htokens, hv⟩) - hstep
    · have hnext := step_inScalar hs hstep
      rw [hnil] at hnext
      exact hnext
    · rw [eq_above htokens, step_above] at hstep
      obtain ⟨next, -, hnext⟩ := Option.map_eq_some_iff.mp hstep
      exact .inr ⟨next.tokens, v, by rw [← hnext]; rfl, hv⟩
  rcases hfirst with ⟨hs, hnil⟩ | ⟨more, v, htokens, hv⟩
  · obtain ⟨v, hts, hv⟩ := finish_inScalar hs hfinish
    rw [hnil, List.reverse_eq_iff] at hts
    exact ⟨v, [], hts, hv⟩
  · rw [eq_above htokens, finish_above] at hfinish
    obtain ⟨found, -, hfound⟩ := Option.map_eq_some_iff.mp hfinish
    have hfound := List.reverse_eq_iff.mp hfound.symm
    exact ⟨v, found.reverse, by simpa using hfound, hv⟩

/-- A text that ends with no separator ends with a scalar. -/
theorem last_of_no_separator (hc : separator? c = none) (h : tokens? (cs ++ [c]) = some ts) :
    ∃ more v, ts = more ++ [.scalar v] := by
  obtain ⟨last, hlast, hfinish⟩ := tokens?_eq_some_iff.mp h
  rw [List.foldlM_append] at hlast
  obtain ⟨s, hs, hlast⟩ := Option.bind_eq_some_iff.mp hlast
  rw [List.foldlM_cons] at hlast
  obtain ⟨next, hstep, hlast⟩ := Option.bind_eq_some_iff.mp hlast
  cases hlast
  by_cases hscalar : last.InScalar
  · obtain ⟨v, hv, -⟩ := finish_inScalar hscalar hfinish
    exact ⟨last.tokens.reverse, v, by simpa using List.reverse_eq_iff.mp hv⟩
  · rcases step_no_separator hc hstep with hs | ⟨v, hv⟩
    · exact absurd hs hscalar
    · have hbetween : last.mode = .between := not_not.mp hscalar
      unfold finish at hfinish
      rw [hbetween, hv] at hfinish
      have hts := List.reverse_eq_iff.mp (Option.some.inj hfinish).symm
      exact ⟨s.tokens.reverse, v, by simpa using hts⟩

/-- A text whose first token is a brace begins with it, but for blanks. -/
theorem exists_open (h : tokens? cs = some (.openObject :: ts)) :
    ∃ before rest, cs = before ++ '\x7b' :: rest ∧ Blank before := by
  induction cs with
  | nil => cases h
  | cons c rest ih =>
    cases hc : separator? c with
    | some ps =>
      rw [tokens?_separator_cons hc] at h
      obtain ⟨found, hfound, heq⟩ := Option.map_eq_some_iff.mp h
      rcases separator?_cases hc with ⟨hblank, rfl⟩ | ⟨t, rfl, hbrace, -⟩
      · obtain ⟨before, rest', rfl, hbefore⟩ := ih (by rw [hfound]; exact congrArg some heq)
        exact ⟨c :: before, rest', rfl, List.forall_mem_cons.mpr ⟨hblank, hbefore⟩⟩
      · cases heq
        exact ⟨[], rest, by rw [hbrace rfl]; rfl, nofun⟩
    | none =>
      obtain ⟨v, more, heq, -⟩ := head_of_no_separator hc h
      cases heq

/-- No text is a single token for an object. -/
theorem tokens?_ne_object (fields : List (String × Json)) :
    tokens? cs ≠ some [.scalar (.object fields)] := by
  induction cs with
  | nil => nofun
  | cons c rest ih =>
    intro h
    cases hc : separator? c with
    | some ps =>
      rw [tokens?_separator_cons hc] at h
      obtain ⟨found, hfound, heq⟩ := Option.map_eq_some_iff.mp h
      rcases separator?_cases hc with ⟨-, rfl⟩ | ⟨t, rfl, -⟩
      · exact ih (by rw [hfound]; exact congrArg some heq)
      · cases heq
        -- punctuation is no scalar
        unfold separator? at hc
        split at hc
        · cases hc
        · split at hc <;> cases hc
    | none =>
      obtain ⟨v, more, heq, hv⟩ := head_of_no_separator hc h
      cases heq
      exact hv rfl

/-- A text whose last token is a brace ends with it, but for blanks. -/
theorem exists_close (h : tokens? cs = some (ts ++ [.closeObject])) :
    ∃ rest after, cs = rest ++ '\x7d' :: after ∧ Blank after := by
  induction cs using List.reverseRecOn with
  | nil =>
    rw [tokens?_nil] at h
    have heq := congrArg (Option.map List.length) h
    simp at heq
  | append_singleton cs c ih =>
    cases hc : separator? c with
    | some ps =>
      have hend : ∀ d ∈ ([] : List Char), d ≠ '"' := nofun
      obtain ⟨before, trailing, hbefore, htrailing, heq⟩ := tokens?_of_append_separator hc hend h
      cases htrailing
      have heq : ts ++ [.closeObject] = before ++ ps := by simpa using heq
      rcases separator?_cases hc with ⟨hblank, rfl⟩ | ⟨t, rfl, -, hbrace⟩
      · rw [List.append_nil] at heq
        obtain ⟨rest, after, rfl, hafter⟩ := ih (by rw [hbefore, heq])
        refine ⟨rest, after ++ [c], by simp, ?_⟩
        intro d hd
        rcases List.mem_append.mp hd with hd | hd
        · exact hafter d hd
        · cases List.mem_singleton.mp hd
          exact hblank
      · cases (List.append_inj' heq rfl).2
        exact ⟨cs, [], by rw [hbrace rfl], nofun⟩
    | none =>
      obtain ⟨more, v, heq⟩ := last_of_no_separator hc h
      cases (List.append_inj' heq rfl).2

end WritePolicy.Json
