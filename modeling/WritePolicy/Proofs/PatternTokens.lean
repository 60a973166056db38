import WritePolicy.Pattern.Basic
import Mathlib.Data.List.Basic

/-! # Tokens of a source before an anchor

    A pattern source is compiled as a text with more text after it: the parenthesis
    that closes the group of the source, and the end anchor. What is read of such a
    text is compared here with what is read of the source alone.

    For each reader there are two ways in which the two can go (`Extends`). Either the
    same is read of both, and what is left of the longer text is what is left of the
    source with the anchor after it. Or the reader has read past the end of the source.
    This happens where an escape or a flag list takes the parenthesis for its own, and
    where a comment runs to the end of the source; what is left is then too little to
    close a group.

    There is one place where the end of the source is only looked at. A word boundary
    at the end of a source that goes on with an open brace is read as such before an
    anchor, and is not well formed without (`Dangles`); the open brace is what is left.
-/

namespace WritePolicy.Pattern

variable {α β : Type} {f : Flags} {cs : List Char}

/-! ## Readings of two texts -/

/-- What follows a source: its group is closed, and the text ends. -/
def closing : List Char := [')', '$']

/-- What is read of the longer text is read of the source alone, up to the anchor
    that is left, or it is past the end of the source. -/
def Extends (past : α → List Char → Prop) (alone joined : Option (α × List Char)) : Prop :=
  ∀ a rest, joined = some (a, rest) →
    (∃ left, alone = some (a, left) ∧ rest = left ++ closing) ∨ past a rest

/-- No reading is past the end. -/
abbrev Never : α → List Char → Prop := fun _ _ => False

/-- Nothing of the anchor is left that could close a group. -/
abbrev Past : α → List Char → Prop := fun _ rest => rest <:+ ['$']

namespace Extends

variable {past past' : α → List Char → Prop} {alone joined : Option (α × List Char)}

theorem none : Extends past alone none :=
  nofun

theorem same (a : α) (left : List Char) : Extends past (some (a, left)) (some (a, left ++ closing)) := by
  intro _ _ h
  cases h
  exact .inl ⟨left, rfl, rfl⟩

theorem mono (h : Extends past alone joined) (hpast : ∀ a rest, past a rest → past' a rest) :
    Extends past' alone joined :=
  fun a rest hjoined => (h a rest hjoined).imp_right (hpast a rest)

/-- One reading after another: what was read past the end has to stay so. -/
theorem bind {next : α × List Char → Option (β × List Char)} {past' : β → List Char → Prop}
    (h : Extends past alone joined)
    (hnext : ∀ a left, Extends past' (next (a, left)) (next (a, left ++ closing)))
    (hpast : ∀ a rest, past a rest → ∀ b rest', next (a, rest) = some (b, rest') → past' b rest') :
    Extends past' (alone.bind next) (joined.bind next) := by
  intro b rest hjoined
  obtain ⟨⟨a, middle⟩, ha, hb⟩ := Option.bind_eq_some_iff.mp hjoined
  rcases h a middle ha with ⟨left, halone, rfl⟩ | hp
  · -- the second reading starts within the source
    rw [halone]
    exact hnext a left b rest hb
  · -- it starts behind the source, and does not come back
    exact .inr (hpast a middle hp b rest hb)

/-- A reading whose result is changed. -/
theorem map {g : α → β} {past' : β → List Char → Prop} (h : Extends past alone joined)
    (hpast : ∀ a rest, past a rest → past' (g a) rest) :
    Extends past' (alone.map fun p => (g p.1, p.2)) (joined.map fun p => (g p.1, p.2)) := by
  intro b rest hjoined
  obtain ⟨⟨a, middle⟩, ha, hb⟩ := Option.map_eq_some_iff.mp hjoined
  cases hb
  rcases h a middle ha with ⟨left, halone, rfl⟩ | hp
  · rw [halone]
    exact .inl ⟨left, rfl, rfl⟩
  · exact .inr (hpast a middle hp)

end Extends

/-- The anchor begins like nothing but itself. -/
theorem append_ne_cons {c : Char} (hc : c ≠ ')') (h : ∀ rest, cs ≠ c :: rest) :
    ∀ rest, cs ++ closing ≠ c :: rest := by
  intro rest heq
  cases cs with
  | nil =>
    cases heq
    exact hc rfl
  | cons d others =>
    cases heq
    exact h others rfl

/-! ## Blanks and braces -/

theorem isSpace_closing : isSpace ')' = false ∧ isSpace '$' = false := by
  decide +kernel

@[simp] theorem gap_nil (f : Flags) : gap f [] = [] := by
  unfold gap
  split <;> rfl

/-- Where a visible character stands, there is nothing to skip. -/
theorem gap_cons {c : Char} (hspace : isSpace c = false) (hcomment : c ≠ '#') (rest : List Char) :
    gap f (c :: rest) = c :: rest := by
  unfold gap
  cases f.ignoreBlanks with
  | true => simp [skipWhere, hspace, hcomment]
  | false => rfl

/-- Blanks end before the anchor, unless a comment runs on. -/
theorem skipWhere_append {skip : Char → Bool} (hskip : skip ')' = false) (inComment : Bool)
    (cs : List Char) :
    skipWhere skip inComment (cs ++ closing) = skipWhere skip inComment cs ++ closing ∨
      (skipWhere skip inComment cs = [] ∧ skipWhere skip inComment (cs ++ closing) = []) := by
  -- the induction is on the characters; whether a comment is open goes along
  induction cs generalizing inComment with
  | nil =>
    cases inComment with
    | true => exact .inr ⟨rfl, rfl⟩
    | false =>
      left
      simp [skipWhere, closing, isSpace_closing, hskip]
  | cons c rest ih =>
    rw [List.cons_append]
    unfold skipWhere
    cases inComment with
    | true => exact ih _
    | false =>
      by_cases hcomment : (c == '#') = true
      · simp only [hcomment, if_true, Bool.false_eq_true, if_false]
        exact ih _
      · by_cases hblank : (isSpace c || skip c) = true
        · simp only [hcomment, hblank, if_true, Bool.false_eq_true, if_false]
          exact ih _
        · simp only [hcomment, hblank, Bool.false_eq_true, if_false]
          exact .inl rfl

theorem gap_append (f : Flags) (cs : List Char) :
    gap f (cs ++ closing) = gap f cs ++ closing ∨
      (gap f cs = [] ∧ gap f (cs ++ closing) = []) := by
  unfold gap
  cases f.ignoreBlanks with
  | true => exact skipWhere_append rfl false cs
  | false => exact .inl rfl

/-- Blanks after what was read are read with it. -/
theorem Extends.gapped (a : α) (left : List Char) :
    Extends Past (some (a, gap f left)) (some (a, gap f (left ++ closing))) := by
  rcases gap_append f left with h | ⟨_, h⟩
  · rw [h]
    exact .same a _
  · rw [h]
    intro _ _ hsome
    cases hsome
    exact .inr (List.nil_suffix)

/-- The anchor has no brace. -/
theorem braceBody?_closing (f : Flags) (inComment : Bool) (read : List Char) :
    braceBody? f inComment read closing = none := by
  cases inComment with
  | true => rfl
  | false => simp [braceBody?, closing, isSpace_closing]

theorem braceBody?_extends (f : Flags) (inComment : Bool) (read cs : List Char) :
    Extends Never (braceBody? f inComment read cs) (braceBody? f inComment read (cs ++ closing)) := by
  induction cs generalizing inComment read with
  | nil =>
    rw [List.nil_append, braceBody?_closing]
    exact .none
  | cons c rest ih =>
    rw [List.cons_append]
    unfold braceBody?
    cases inComment with
    | true => exact ih _ _
    | false =>
      simp only [Bool.false_eq_true, if_false]
      -- a closing brace ends the content; a comment, a blank or any other character goes on
      split
      · exact .same _ _
      · split
        · exact ih _ _
        · split
          · exact ih _ _
          · exact ih _ _

/-- Blanks close no brace. -/
theorem braceBody?_of_skipWhere (hblanks : f.ignoreBlanks = true) (inComment : Bool)
    (h : skipWhere (fun _ => false) inComment cs = []) (read : List Char) :
    braceBody? f inComment read cs = none := by
  induction cs generalizing inComment with
  | nil => rfl
  | cons c rest ih =>
    unfold skipWhere at h
    unfold braceBody?
    cases inComment with
    | true => exact ih _ h
    | false =>
      by_cases hcomment : (c == '#') = true
      · cases eq_of_beq hcomment
        simp only [hblanks]
        exact ih true h
      · by_cases hspace : isSpace c = true
        · simp only [hcomment, hspace, Bool.or_false, if_true, Bool.false_eq_true, if_false] at h
          -- a closing brace is not a blank
          have hbrace : (c == '\x7d') = false := by
            by_contra hc
            rw [Bool.not_eq_false] at hc
            cases eq_of_beq hc
            revert hspace
            decide +kernel
          simp only [hcomment, hspace, hbrace, hblanks, Bool.and_true, Bool.and_false, if_true,
            Bool.false_eq_true, if_false]
          exact ih false h
        · simp only [hcomment, hspace, Bool.or_false, Bool.false_eq_true, if_false] at h
          cases h

/-- Where only blanks follow, a brace is not closed before the anchor. -/
theorem braceBody?_of_gap (h : gap f cs = []) (read : List Char) :
    braceBody? f false read (cs ++ closing) = none := by
  have halone : braceBody? f false read cs = none := by
    unfold gap at h
    cases hblanks : f.ignoreBlanks with
    | true =>
      rw [hblanks] at h
      exact braceBody?_of_skipWhere hblanks false h read
    | false =>
      rw [hblanks] at h
      rw [show cs = [] from h]
      rfl
  cases hjoined : braceBody? f false read (cs ++ closing) with
  | none => rfl
  | some p =>
    rcases braceBody?_extends f false read cs p.1 p.2 hjoined with ⟨left, hsome, -⟩ | h
    · rw [halone] at hsome
      cases hsome
    · exact h.elim

/-! ## Escapes -/

theorem hexDigits?_extends (f : Flags) (read : List Char) (n : Nat) (cs : List Char) :
    Extends Past (hexDigits? f read n cs) (hexDigits? f read n (cs ++ closing)) := by
  induction n generalizing read cs with
  | zero =>
    -- only the blanks after the last digit are left to read
    exact .gapped _ cs
  | succ n ih =>
    unfold hexDigits?
    rcases gap_append f cs with h | ⟨_, h⟩
    · rw [h]
      cases gap f cs with
      | nil =>
        -- the parenthesis is not a digit
        exact .none
      | cons c rest =>
        simp only [List.cons_append]
        split
        · exact ih _ _
        · exact .none
    · -- a comment runs on, so that there is no further digit
      rw [h]
      exact .none

theorem hexDigits?_nil {read ds rest : List Char} {n : Nat}
    (h : hexDigits? f read n [] = some (ds, rest)) : rest = [] := by
  cases n with
  | zero =>
    simp only [hexDigits?, gap_nil] at h
    cases h
    rfl
  | succ n =>
    simp only [hexDigits?, gap_nil] at h
    cases h

/-- A code point that is not in braces is given by so many digits. -/
theorem hexEscape?_of_ne {width : Nat} (h : ∀ rest, gap f cs ≠ '\x7b' :: rest) :
    hexEscape? f width cs = (hexDigits? f [] width (gap f cs)).bind fun p =>
      (hexChar? p.1).bind fun c => some (.literal c (width == 2), p.2) := by
  unfold hexEscape?
  split
  · next heq => exact absurd heq (h _)
  · rfl

/-- A code point in braces, or one of so many digits. -/
theorem hexEscape?_extends (f : Flags) (width : Nat) (cs : List Char) :
    Extends Past (hexEscape? f width cs) (hexEscape? f width (cs ++ closing)) := by
  rcases gap_append f cs with h | ⟨_, h⟩
  · by_cases hbrace : ∃ rest, gap f cs = '\x7b' :: rest
    · -- a code point in braces ends before the anchor
      obtain ⟨rest, hgap⟩ := hbrace
      unfold hexEscape?
      rw [h, hgap]
      refine (braceBody?_extends f false [] rest).bind (fun ds left => ?_) fun _ _ hpast => hpast.elim
      show Extends Past (hexChar? ds >>= _) (hexChar? ds >>= _)
      cases hexChar? ds with
      | none => exact .none
      | some c => exact .gapped _ _
    · -- the digits may come to the end of the source, as far as the blanks after them
      have hne : ∀ rest, gap f cs ≠ '\x7b' :: rest := not_exists.mp hbrace
      have hne' : ∀ rest, gap f (cs ++ closing) ≠ '\x7b' :: rest :=
        h ▸ append_ne_cons (by decide) hne
      rw [hexEscape?_of_ne hne, hexEscape?_of_ne hne', h]
      refine (hexDigits?_extends f [] width _).bind (fun ds left => ?_) fun ds rest hpast b rest' hb => ?_
      · show Extends Past ((hexChar? ds).bind _) ((hexChar? ds).bind _)
        cases hexChar? ds with
        | none => exact .none
        | some c => exact .same _ _
      · obtain ⟨c, -, hc⟩ := Option.bind_eq_some_iff.mp hb
        cases hc
        exact hpast
  · -- a comment runs on, so that there are no digits
    intro p rest hjoined
    rw [hexEscape?_of_ne (by rw [h]; nofun), h] at hjoined
    obtain ⟨⟨ds, left⟩, hds, hjoined⟩ := Option.bind_eq_some_iff.mp hjoined
    obtain ⟨c, -, hjoined⟩ := Option.bind_eq_some_iff.mp hjoined
    cases hjoined
    exact .inr (hexDigits?_nil hds ▸ List.nil_suffix)

/-- What follows `\p`: a query in braces, or a letter. -/
theorem propertyEscape?_extends (f : Flags) (negated : Bool) (cs : List Char) :
    Extends Past (propertyEscape? f negated cs) (propertyEscape? f negated (cs ++ closing)) := by
  unfold propertyEscape?
  rcases gap_append f cs with h | ⟨_, h⟩
  · rw [h]
    generalize gap f cs = g
    cases g with
    | nil =>
      -- the parenthesis is taken for the letter
      intro _ rest hjoined
      obtain ⟨set, -, hjoined⟩ := Option.bind_eq_some_iff.mp hjoined
      cases hjoined
      rw [gap_cons isSpace_closing.2 (by decide)]
      exact .inr List.suffix_rfl
    | cons c rest =>
      by_cases hc : c = '\x7b'
      · subst hc
        refine (braceBody?_extends f false [] rest).bind (fun query left => ?_) fun _ _ hpast => hpast.elim
        show Extends Past (propertyQuery? query >>= _) (propertyQuery? query >>= _)
        cases propertyQuery? query with
        | none => exact .none
        | some p => exact .same _ _
      · have hletter : Extends Past
            ((CharSet.named? [c]).bind fun set => some (Primitive.property set negated, gap f rest))
            ((CharSet.named? [c]).bind fun set =>
              some (Primitive.property set negated, gap f (rest ++ closing))) := by
          cases CharSet.named? [c] with
          | none => exact .none
          | some set => exact .gapped _ _
        by_cases hslash : c = '\\'
        · -- an escape is not the letter of a property
          subst hslash
          exact .none
        · simp only [List.cons_append]
          exact hletter
  · rw [h]
    exact .none

/-- A word boundary was read before a brace of which only blanks are in the source. -/
def Dangles (f : Flags) (p : Primitive) (rest : List Char) : Prop :=
  p = .assertion .wordBoundary ∧
    ∃ blanks, gap f blanks = [] ∧ rest = '\x7b' :: (blanks ++ closing)

/-- A boundary that no brace follows has nothing more. -/
theorem boundaryEscape?_of_ne (h : ∀ rest, cs ≠ '\x7b' :: rest) :
    boundaryEscape? f cs = some (.assertion .wordBoundary, cs) := by
  unfold boundaryEscape?
  split
  · exact absurd rfl (h _)
  · rfl

/-- What follows `\b`: a name in braces, or nothing that belongs to it. -/
theorem boundaryEscape?_extends (f : Flags) (cs : List Char) :
    Extends (Dangles f) (boundaryEscape? f cs) (boundaryEscape? f (cs ++ closing)) := by
  by_cases hbrace : ∃ rest, cs = '\x7b' :: rest
  · obtain ⟨rest, rfl⟩ := hbrace
    rw [List.cons_append]
    unfold boundaryEscape?
    simp only []
    rcases gap_append f rest with h | ⟨_, h⟩
    · rw [h]
      cases hgap : gap f rest with
      | nil =>
        -- the brace is no name; that the source ends with it is not seen
        intro p left hjoined
        cases hjoined
        exact .inr ⟨rfl, rest, hgap, rfl⟩
      | cons d others =>
        simp only [List.cons_append]
        -- what begins like a name is read to the closing brace, else nothing is read
        split
        · refine (braceBody?_extends f false [] rest).bind (fun name left => ?_)
            fun _ _ hpast => hpast.elim
          show Extends _ (namedBoundary? name >>= _) (namedBoundary? name >>= _)
          cases namedBoundary? name with
          | none => exact .none
          | some make => exact .same _ _
        · exact .same _ ('\x7b' :: rest)
    · rw [h]
      exact .none
  · have hne : ∀ rest, cs ≠ '\x7b' :: rest := not_exists.mp hbrace
    rw [boundaryEscape?_of_ne hne, boundaryEscape?_of_ne (append_ne_cons (by decide) hne)]
    exact .same _ _

/-- What an escape goes on with is told by the character after the backslash. -/
theorem escape?_cons (f : Flags) (c : Char) (rest rest' : List Char) :
    (∃ width, escape? f (c :: rest) = hexEscape? f width rest ∧
        escape? f (c :: rest') = hexEscape? f width rest') ∨
      (∃ negated, escape? f (c :: rest) = propertyEscape? f negated rest ∧
        escape? f (c :: rest') = propertyEscape? f negated rest') ∨
      (escape? f (c :: rest) = boundaryEscape? f rest ∧
        escape? f (c :: rest') = boundaryEscape? f rest') ∨
      (∃ p, escape? f (c :: rest) = some (p, rest) ∧ escape? f (c :: rest') = some (p, rest')) ∨
      (escape? f (c :: rest) = none ∧ escape? f (c :: rest') = none) := by
  simp only [escape?]
  split
  case h_24 =>
    split
    · exact .inr (.inr (.inr (.inl ⟨_, rfl, rfl⟩)))
    · exact .inr (.inr (.inr (.inr ⟨rfl, rfl⟩)))
  all_goals first
    | exact .inl ⟨_, rfl, rfl⟩
    | exact .inr (.inl ⟨_, rfl, rfl⟩)
    | exact .inr (.inr (.inl ⟨rfl, rfl⟩))
    | exact .inr (.inr (.inr (.inl ⟨_, rfl, rfl⟩)))

/-- What follows a backslash. -/
theorem escape?_extends (f : Flags) (cs : List Char) :
    Extends (fun p rest => Past p rest ∨ Dangles f p rest) (escape? f cs)
      (escape? f (cs ++ closing)) := by
  cases cs with
  | nil =>
    -- the parenthesis is escaped
    intro p rest hjoined
    cases hjoined
    exact .inr (.inl List.suffix_rfl)
  | cons c rest =>
    rw [List.cons_append]
    rcases escape?_cons f c rest (rest ++ closing) with
      ⟨width, h, h'⟩ | ⟨negated, h, h'⟩ | ⟨h, h'⟩ | ⟨p, h, h'⟩ | ⟨h, h'⟩
    · rw [h, h']
      exact (hexEscape?_extends f width rest).mono fun _ _ hpast => .inl hpast
    · rw [h, h']
      exact (propertyEscape?_extends f negated rest).mono fun _ _ hpast => .inl hpast
    · rw [h, h']
      exact (boundaryEscape?_extends f rest).mono fun _ _ hdangles => .inr hdangles
    · rw [h, h']
      exact .same p rest
    · rw [h, h']
      exact .none

/-! ## Repetitions and groups -/

theorem skipGreed_append (cs : List Char) : skipGreed (cs ++ closing) = skipGreed cs ++ closing := by
  cases cs with
  | nil => rfl
  | cons c rest =>
    rw [List.cons_append]
    unfold skipGreed
    split
    · next heq =>
      cases heq
      rfl
    · next hne =>
      split
      · next heq =>
        cases heq
        exact absurd rfl (hne _)
      · rfl

/-- A stretch of characters of one kind ends in the source, or goes on into the
    anchor. -/
theorem stretch_append (p : Char → Bool) (cs : List Char) :
    (cs.dropWhile p = [] ∧ (cs ++ closing).takeWhile p = cs ++ closing.takeWhile p ∧
        (cs ++ closing).dropWhile p = closing.dropWhile p) ∨
      (cs.dropWhile p ≠ [] ∧ (cs ++ closing).takeWhile p = cs.takeWhile p ∧
        (cs ++ closing).dropWhile p = cs.dropWhile p ++ closing) := by
  induction cs with
  | nil => exact .inl ⟨rfl, rfl, rfl⟩
  | cons c rest ih =>
    rw [List.cons_append]
    -- the stretch goes on behind `c` or ends before it
    by_cases hc : p c = true
    · simp only [List.takeWhile_cons_of_pos hc, List.dropWhile_cons_of_pos hc, List.cons_append]
      rcases ih with ⟨h, htake, hdrop⟩ | ⟨h, htake, hdrop⟩
      · exact .inl ⟨h, congrArg _ htake, hdrop⟩
      · exact .inr ⟨h, congrArg _ htake, hdrop⟩
    · rw [List.takeWhile_cons_of_neg hc, List.takeWhile_cons_of_neg hc,
        List.dropWhile_cons_of_neg hc, List.dropWhile_cons_of_neg hc]
      exact .inr ⟨nofun, rfl, rfl⟩

/-- The anchor does not end a name. -/
theorem groupName?_extends (cs : List Char) :
    Extends Never (groupName? cs) (groupName? (cs ++ closing)) := by
  unfold groupName?
  rcases stretch_append (· != '>') cs with ⟨_, _, hdrop⟩ | ⟨hend, htake, hdrop⟩
  · -- neither the source nor the anchor has the bracket that closes the name
    rw [hdrop]
    intro _ _ hjoined
    split at hjoined
    · next heq => cases heq
    · cases hjoined
  · rw [htake, hdrop]
    cases hleft : cs.dropWhile (· != '>') with
    | nil => exact absurd hleft hend
    | cons d rest =>
      cases cs.takeWhile (· != '>') with
      | nil => exact .none
      | cons c name =>
        simp only [List.cons_append]
        split
        · exact .same _ rest
        · exact .none

/-- A character that stands before the end of a list of flags. -/
def withinFlags (c : Char) : Bool :=
  c != ':' && c != ')'

/-- What a list of flags with its mark stands for: flags of a group, or of what
    follows. -/
def flagGroup? (letters : List Char) : List Char → Option (Token × List Char)
  | [] => none
  | mark :: rest =>
    if mark = ')' then
      if letters.isEmpty then none
      else (flagChanges? true [] letters).bind fun changes => some (.setFlags changes, rest)
    else (flagChanges? true [] letters).bind fun changes => some (.openGroup changes none, rest)

theorem flagGroup?_extends (cs : List Char) :
    Extends Past (flagGroup? (cs.takeWhile withinFlags) (cs.dropWhile withinFlags))
      (flagGroup? ((cs ++ closing).takeWhile withinFlags)
        ((cs ++ closing).dropWhile withinFlags)) := by
  rcases stretch_append withinFlags cs with ⟨_, _, hdrop⟩ | ⟨hend, htake, hdrop⟩
  · -- the parenthesis is taken for the end of the flags
    rw [hdrop]
    intro _ rest hjoined
    have hmark : closing.dropWhile withinFlags = [')', '$'] := rfl
    rw [hmark] at hjoined
    simp only [flagGroup?, if_true] at hjoined
    split at hjoined
    · cases hjoined
    · obtain ⟨changes, _, hjoined⟩ := Option.bind_eq_some_iff.mp hjoined
      cases hjoined
      exact .inr List.suffix_rfl
  · rw [htake, hdrop]
    cases hleft : cs.dropWhile withinFlags with
    | nil => exact absurd hleft hend
    | cons mark rest =>
      have hsame (token : List (Flag × Bool) → Token) (letters : List Char) : Extends Past
          ((flagChanges? true [] letters).bind fun changes => some (token changes, rest))
          ((flagChanges? true [] letters).bind fun changes =>
            some (token changes, rest ++ closing)) := by
        cases flagChanges? true [] letters with
        | none => exact .none
        | some changes => exact .same _ rest
      rw [List.cons_append]
      simp only [flagGroup?]
      split
      · split
        · exact .none
        · exact hsame .setFlags _
      · exact hsame (.openGroup · none) _

/-! ## Openings of groups -/

/-- An opening without a question mark has nothing more. -/
theorem opening?_of_ne (h : ∀ rest, gap f cs ≠ '?' :: rest) :
    opening? f cs = some (.openGroup [] none, gap f cs) := by
  unfold opening?
  split
  all_goals first
    | rfl
    | next heq => exact absurd heq (h _)

/-- An opening angle bracket begins a name, unless it asks for the text before. -/
theorem opening?_named {rest : List Char} (h : gap f cs = '?' :: '<' :: rest)
    (hname : ∀ c others, rest = c :: others → c ≠ '=' ∧ c ≠ '!') :
    opening? f cs = opening?.named rest := by
  unfold opening?
  rw [h]
  split
  · next heq => cases heq
  · next heq => cases heq
  · next heq =>
    cases heq
    exact absurd rfl (hname _ _ rfl).1
  · next heq =>
    cases heq
    exact absurd rfl (hname _ _ rfl).2
  · next heq => cases heq
  · next heq =>
    cases heq
    rfl
  · next hne heq =>
    cases heq
    exact absurd rfl (hne _)
  · next hne => exact absurd rfl (hne _)

/-- Anything else after a question mark is a list of flags. -/
theorem opening?_flags {rest : List Char} (h : gap f cs = '?' :: rest)
    (hflags : ∀ c others, rest = c :: others → c ≠ '=' ∧ c ≠ '!' ∧ c ≠ '<' ∧
      (c = 'P' → ∀ more, others ≠ '<' :: more)) :
    opening? f cs = flagGroup? (rest.takeWhile withinFlags) (rest.dropWhile withinFlags) := by
  unfold opening?
  rw [h]
  split
  · next heq =>
    cases heq
    exact absurd rfl (hflags _ _ rfl).1
  · next heq =>
    cases heq
    exact absurd rfl (hflags _ _ rfl).2.1
  · next heq =>
    cases heq
    exact absurd rfl (hflags _ _ rfl).2.2.1
  · next heq =>
    cases heq
    exact absurd rfl (hflags _ _ rfl).2.2.1
  · next heq =>
    cases heq
    exact absurd rfl ((hflags _ _ rfl).2.2.2 rfl _)
  · next heq =>
    cases heq
    exact absurd rfl (hflags _ _ rfl).2.2.1
  · next heq =>
    cases heq
    -- what ends the list is a parenthesis or not
    generalize hleft : rest.dropWhile withinFlags = left
    have hleft' : (rest.dropWhile fun c => c != ':' && c != ')') = left := hleft
    rw [hleft']
    split
    · rfl
    · next mark others hne =>
      have hmark : mark ≠ ')' := hne
      simp only [flagGroup?, if_neg hmark]
      rfl
    · rfl
  · next hne => exact absurd rfl (hne _)

theorem named_extends (cs : List Char) :
    Extends Past (opening?.named cs) (opening?.named (cs ++ closing)) := by
  have hname := groupName?_extends cs
  exact hname.map (g := fun name => Token.openGroup [] (some name)) fun _ _ hpast => hpast.elim

/-- What follows an opening parenthesis and a question mark: one or two characters
    tell what is asked for. -/
theorem question_extends {joined rest : List Char} (h : gap f cs = '?' :: rest)
    (hjoined : gap f joined = '?' :: (rest ++ closing)) :
    Extends Past (opening? f cs) (opening? f joined) := by
  cases rest with
  | nil =>
    -- the parenthesis would end an empty list of flags
    unfold opening?
    rw [hjoined]
    exact .none
  | cons c others =>
    by_cases hlook : c = '=' ∨ c = '!'
    · -- looking ahead is refused
      unfold opening?
      rw [hjoined]
      rcases hlook with rfl | rfl
      · exact .none
      · exact .none
    · rw [not_or] at hlook
      by_cases hname : c = '<'
      · subst hname
        cases others with
        | nil =>
          unfold opening?
          rw [hjoined]
          exact .none
        | cons d more =>
          by_cases hbehind : d = '=' ∨ d = '!'
          · -- and so is looking behind
            unfold opening?
            rw [hjoined]
            rcases hbehind with rfl | rfl
            · exact .none
            · exact .none
          · rw [not_or] at hbehind
            have hbegins (left : List Char) :
                ∀ c others, d :: left = c :: others → c ≠ '=' ∧ c ≠ '!' := by
              intro c others heq
              cases heq
              exact hbehind
            rw [opening?_named h (hbegins more), opening?_named hjoined (hbegins _)]
            exact named_extends (d :: more)
      · by_cases hnamed : c = 'P' ∧ ∃ more, others = '<' :: more
        · obtain ⟨rfl, more, rfl⟩ := hnamed
          unfold opening?
          rw [h, hjoined]
          exact named_extends more
        · -- what is left are flags; a `P` that no bracket follows is taken for one
          have hflags (left : List Char) (hleft : c = 'P' → ∀ more, left ≠ '<' :: more) :
              ∀ d more, c :: left = d :: more → d ≠ '=' ∧ d ≠ '!' ∧ d ≠ '<' ∧
                (d = 'P' → ∀ more', more ≠ '<' :: more') := by
            intro d more heq
            cases heq
            exact ⟨hlook.1, hlook.2, hname, hleft⟩
          have hothers : c = 'P' → ∀ more, others ≠ '<' :: more :=
            fun hP more heq => hnamed ⟨hP, more, heq⟩
          have hothers' : c = 'P' → ∀ more, others ++ closing ≠ '<' :: more :=
            fun hP => append_ne_cons (by decide) (hothers hP)
          rw [opening?_flags h (hflags _ hothers), opening?_flags hjoined (hflags _ hothers')]
          exact flagGroup?_extends (c :: others)

/-- What follows an opening parenthesis. -/
theorem opening?_extends (f : Flags) (cs : List Char) :
    Extends Past (opening? f cs) (opening? f (cs ++ closing)) := by
  rcases gap_append f cs with h | ⟨_, h⟩
  · by_cases hquestion : ∃ rest, gap f cs = '?' :: rest
    · obtain ⟨rest, hgap⟩ := hquestion
      rw [hgap] at h
      exact question_extends hgap h
    · have hne : ∀ rest, gap f cs ≠ '?' :: rest := not_exists.mp hquestion
      have hne' : ∀ rest, gap f (cs ++ closing) ≠ '?' :: rest := h ▸ append_ne_cons (by decide) hne
      rw [opening?_of_ne hne, opening?_of_ne hne', h]
      exact .same _ _
  · -- a comment runs on after the parenthesis
    have hne : ∀ rest, gap f (cs ++ closing) ≠ '?' :: rest := fun _ => h ▸ nofun
    rw [opening?_of_ne hne, h]
    intro _ _ hjoined
    cases hjoined
    exact .inr List.nil_suffix

end WritePolicy.Pattern
