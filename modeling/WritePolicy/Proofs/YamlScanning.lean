import WritePolicy.Yaml.Scanner
import Mathlib.Tactic.SplitIfs

/-! # Every step of the scanner takes a character

    The scanner is allowed a number of steps before it begins. Here it is shown that
    this number never decides: with any other that is greater than the number of
    characters the tokens are the same.

    What a reader leaves is an end of the text that it began with. For a step that is
    so behind the first character (`Scanner.Takes`), which is plain where the character
    is an indicator; a plain scalar takes the first character because what may begin
    one does not end it.
-/

namespace WritePolicy.Yaml

/-! ## What is left of a text -/

namespace Cursor

variable {c next : Cursor}

theorem advance_suffix (c : Cursor) (count : Nat) : (c.advance count).rest <:+ c.rest :=
  List.drop_suffix _ _

theorem skipFrom_suffix (flow fresh comment : Bool) (line column : Nat) (cs : List Char) :
    (skipFrom flow fresh comment line column cs).1.rest <:+ cs := by
  induction cs generalizing fresh comment line column with
  | nil => exact List.suffix_rfl
  | cons x rest ih =>
    have hrest {fresh comment : Bool} {line column : Nat} :
        (skipFrom flow fresh comment line column rest).1.rest <:+ x :: rest :=
      (ih fresh comment line column).trans (List.suffix_cons _ _)
    unfold skipFrom
    split_ifs
    · exact hrest
    · exact hrest
    · exact hrest
    · exact hrest
    · exact List.suffix_rfl

theorem span_suffix (c : Cursor) (p : Char → Bool) : (c.span p).2.rest <:+ c.rest :=
  c.advance_suffix _

theorem nextLine?_suffix (h : c.nextLine? = some next) : next.rest <:+ c.rest := by
  unfold nextLine? at h
  have hblanks : c.rest.dropWhile isBlank <:+ c.rest := List.dropWhile_suffix _
  generalize c.rest.dropWhile isBlank = left at h hblanks
  have hcomment : (if left.head? == some '#' then left.dropWhile (!isBreak ·) else left) <:+
      left := by
    split
    · exact List.dropWhile_suffix _
    · exact List.suffix_rfl
  dsimp only at h
  split at h
  · cases h
    exact List.nil_suffix
  · next hcons =>
    rw [hcons] at hcomment
    split_ifs at h
    cases h
    exact (List.suffix_cons _ _).trans (hcomment.trans hblanks)

end Cursor

/-! ### Scalars -/

section

variable {read : List Char} {line column : Nat} {cs : List Char} {r : ReadScalar}

theorem plainFrom_suffix {flow : Bool} {least : Nat} {gap : Gap}
    (h : plainFrom flow least read gap line column cs = some r) : r.next.rest <:+ cs := by
  induction cs generalizing read gap line column with
  | nil =>
    cases h
    exact List.suffix_rfl
  | cons c rest ih =>
    unfold plainFrom at h
    dsimp only at h
    split_ifs at h
    · exact (ih h).trans (List.suffix_cons _ _)
    · exact (ih h).trans (List.suffix_cons _ _)
    · cases h
      exact List.suffix_rfl
    · cases h
      exact List.suffix_rfl
    · exact (ih h).trans (List.suffix_cons _ _)

theorem quotedFrom_suffix {double : Bool} {gap : Gap} {mode : QuoteMode}
    (h : quotedFrom double read gap mode line column cs = some r) : r.next.rest <:+ cs := by
  induction cs generalizing read gap mode line column with
  | nil =>
    unfold quotedFrom at h
    split at h
    · cases h
      exact List.suffix_rfl
    · cases h
  | cons c rest ih =>
    unfold quotedFrom at h
    dsimp only at h
    -- the scalar is read on, ends before the character or ends with it
    repeat' split at h
    all_goals first
      | exact (ih h).trans (List.suffix_cons _ _)
      | (cases h; exact List.suffix_rfl)
      | (cases h; exact List.suffix_cons _ _)
      | cases h

theorem leadFrom_suffix {deepest : Nat} {lead : Lead}
    (h : leadFrom deepest read line column cs = some lead) : lead.next.rest <:+ cs := by
  induction cs generalizing deepest read line column with
  | nil =>
    cases h
    exact List.suffix_rfl
  | cons c rest ih =>
    unfold leadFrom at h
    split_ifs at h
    · exact (ih h).trans (List.suffix_cons _ _)
    · exact (ih h).trans (List.suffix_cons _ _)
    · cases h
      exact List.suffix_rfl

theorem linesFrom_suffix {header : BlockHeader} {least : Nat} {trail : Trail} {within : Bool}
    (h : linesFrom header least read trail within line column cs = some r) :
    r.next.rest <:+ cs := by
  induction cs generalizing read trail within line column with
  | nil =>
    cases h
    exact List.suffix_rfl
  | cons c rest ih =>
    unfold linesFrom at h
    split_ifs at h
    · exact (ih h).trans (List.suffix_cons _ _)
    · exact (ih h).trans (List.suffix_cons _ _)
    · exact (ih h).trans (List.suffix_cons _ _)
    · exact (ih h).trans (List.suffix_cons _ _)
    · exact (ih h).trans (List.suffix_cons _ _)
    · cases h
      exact List.suffix_rfl

/-- What begins a plain scalar belongs to it. -/
theorem stays_of_beginsPlain {flow : Bool} {x : Char} {rest : List Char}
    (h : beginsPlain flow (x :: rest) = true) :
    isBreak x = false ∧ isBlank x = false ∧ endsPlain flow x rest = false := by
  simp only [beginsPlain] at h
  split_ifs at h with hdash hmark
  · rw [beq_iff_eq] at hdash
    subst hdash
    cases flow <;> exact ⟨rfl, rfl, rfl⟩
  · -- a question mark or a colon, outside brackets and before no gap
    obtain ⟨hflow, hrest⟩ := Bool.and_eq_true_iff.mp h
    rw [Bool.not_eq_true'] at hflow hrest
    subst hflow
    rw [Bool.or_eq_true_iff, beq_iff_eq, beq_iff_eq] at hmark
    rcases hmark with rfl | rfl
    · exact ⟨rfl, rfl, rfl⟩
    · exact ⟨rfl, rfl, by simp [endsPlain, hrest]⟩
  · simp only [Bool.and_eq_true_iff, Bool.not_eq_true'] at h
    obtain ⟨⟨hindicator, hblank⟩, hbreak⟩ := h
    refine ⟨hbreak, hblank, ?_⟩
    simp only [indicators, List.contains_cons, Bool.or_eq_false_iff] at hindicator
    simp only [endsPlain, flowIndicators, List.contains_cons, hindicator, Bool.false_and,
      Bool.and_false, Bool.or_self]

theorem flowScalar?_suffix {flow : Bool} {least : Nat} {c : Cursor}
    (h : flowScalar? flow least c = some r) : r.next.rest <:+ c.rest.tail := by
  unfold flowScalar? at h
  split at h
  · next hquote =>
    rw [hquote]
    exact quotedFrom_suffix h
  · next hquote =>
    rw [hquote]
    exact quotedFrom_suffix h
  · split_ifs at h with hbegins
    generalize c.rest = cs at h hbegins
    cases cs with
    | nil => cases hbegins
    | cons x rest =>
      obtain ⟨hbreak, hblank, hends⟩ := stays_of_beginsPlain hbegins
      unfold plainFrom at h
      simp only [hbreak, hblank, hends, Gap.isNothing, Bool.not_true, Bool.false_and,
        Bool.false_eq_true, if_false] at h
      split_ifs at h
      exact plainFrom_suffix h

theorem chomping?_suffix (cs : List Char) : (chomping? cs).2 <:+ cs := by
  unfold chomping?
  split
  · exact List.suffix_cons _ _
  · exact List.suffix_cons _ _
  · exact List.suffix_rfl

theorem indentation?_suffix (cs : List Char) : (indentation? cs).2 <:+ cs := by
  unfold indentation?
  split
  · split
    · exact List.suffix_cons _ _
    · exact List.suffix_rfl
  · exact List.suffix_rfl

theorem blockHeader?_suffix {folded : Bool} {header : BlockHeader} {rest : List Char}
    (h : blockHeader? folded cs = some (header, rest)) : rest <:+ cs := by
  have hmarks : (indentation? (chomping? cs).2).2 <:+ cs :=
    (indentation?_suffix _).trans (chomping?_suffix cs)
  unfold blockHeader? at h
  dsimp only at h
  split_ifs at h
  · cases h
    exact (chomping?_suffix _).trans hmarks
  · cases h
    exact hmarks

theorem blockScalar?_suffix {folded : Bool} {least : Nat} {c : Cursor}
    (h : blockScalar? folded least c = some r) : r.next.rest <:+ c.rest := by
  obtain ⟨⟨header, rest⟩, hheader, h⟩ := Option.bind_eq_some_iff.mp h
  obtain ⟨start, hstart, h⟩ := Option.bind_eq_some_iff.mp h
  have hbelow : start.rest <:+ c.rest :=
    (Cursor.nextLine?_suffix hstart).trans (blockHeader?_suffix hheader)
  dsimp only at h
  split at h
  · exact (linesFrom_suffix h).trans hbelow
  · obtain ⟨lead, hlead, h⟩ := Option.bind_eq_some_iff.mp h
    exact (linesFrom_suffix h).trans ((leadFrom_suffix hlead).trans hbelow)

end

/-! ### Names and directives -/

section

variable {c next : Cursor}

theorem anchorName?_suffix {name : String} (h : anchorName? c = some (name, next)) :
    next.rest <:+ c.rest := by
  unfold anchorName? at h
  dsimp only at h
  split_ifs at h
  cases h
  exact c.span_suffix _

theorem bracketedTag?_suffix {name : TagName} (h : bracketedTag? c = some (name, next)) :
    next.rest <:+ c.rest := by
  unfold bracketedTag? at h
  dsimp only at h
  split_ifs at h
  cases h
  exact (Cursor.advance_suffix _ 1).trans (c.span_suffix _)

theorem tagName?_suffix {name : TagName} (h : tagName? c = some (name, next)) :
    next.rest <:+ c.rest := by
  unfold tagName? at h
  dsimp only at h
  split_ifs at h
  · exact (bracketedTag?_suffix h).trans (c.advance_suffix 1)
  · cases h
    exact (Cursor.span_suffix _ _).trans ((Cursor.advance_suffix _ 1).trans (c.span_suffix _))
  · cases h
    exact c.span_suffix _
  · cases h
    exact c.span_suffix _

theorem versionNumber?_suffix {n : Nat} (h : versionNumber? c = some (n, next)) :
    next.rest <:+ c.rest := by
  unfold versionNumber? at h
  dsimp only at h
  split_ifs at h
  cases h
  exact c.span_suffix _

theorem directiveBody?_suffix {name : String} {d : Directive}
    (h : directiveBody? name c = some (d, next)) : next.rest <:+ c.rest := by
  have hblanks := c.span_suffix isBlank
  unfold directiveBody? at h
  dsimp only at h
  generalize (c.span isBlank).2 = body at h hblanks
  refine List.IsSuffix.trans ?_ hblanks
  split at h
  · obtain ⟨⟨major, c₁⟩, hmajor, h⟩ := Option.bind_eq_some_iff.mp h
    dsimp only at h
    split_ifs at h
    obtain ⟨⟨minor, c₂⟩, hminor, h⟩ := Option.bind_eq_some_iff.mp h
    cases h
    exact (versionNumber?_suffix hminor).trans
      ((c₁.advance_suffix 1).trans (versionNumber?_suffix hmajor))
  · split_ifs at h
    cases h
    -- the blanks, the mark and the word of the handle are taken before
    have hword := Cursor.span_suffix (body.advance 1) isWordChar
    exact (Cursor.span_suffix _ _).trans ((Cursor.span_suffix _ _).trans
      ((Cursor.span_suffix _ _).trans (hword.trans (body.advance_suffix 1))))
  · cases h

theorem directive?_suffix {d : Directive} (h : directive? c = some (d, next)) :
    next.rest <:+ c.rest := by
  unfold directive? at h
  dsimp only at h
  split_ifs at h
  obtain ⟨⟨d', c₁⟩, hbody, h⟩ := Option.bind_eq_some_iff.mp h
  obtain ⟨c₂, hnext, h⟩ := Option.bind_eq_some_iff.mp h
  cases h
  exact (Cursor.nextLine?_suffix hnext).trans
    ((directiveBody?_suffix hbody).trans (c.span_suffix _))

end

/-! ## Steps of the scanner -/

namespace Scanner

variable {s s' : Scanner} {t : Token}

/-! ### What leaves the position as it is -/

theorem dropKey?_cursor (h : s.dropKey? = some s') : s'.cursor = s.cursor := by
  unfold dropKey? at h
  split_ifs at h
  cases h
  rfl

theorem noteKey?_cursor (h : s.noteKey? = some s') : s'.cursor = s.cursor := by
  unfold noteKey? at h
  split_ifs at h
  · obtain ⟨s₁, hdrop, h⟩ := Option.bind_eq_some_iff.mp h
    have hcursor := dropKey?_cursor hdrop
    cases h
    exact hcursor
  · cases h
    rfl

theorem dropStaleKeys?_cursor (h : s.dropStaleKeys? = some s') : s'.cursor = s.cursor := by
  unfold dropStaleKeys? at h
  split_ifs at h
  cases h
  rfl

theorem openBlock_cursor (s : Scanner) (t : Token) (column index : Nat) :
    (s.openBlock t column index).cursor = s.cursor := by
  unfold openBlock
  split
  · rfl
  · rfl

theorem openBlock?_cursor (h : s.openBlock? t = some s') : s'.cursor = s.cursor := by
  unfold openBlock? at h
  split_ifs at h
  · cases h
    rfl
  · cases h
    exact s.openBlock_cursor t _ _

theorem closeBlocks_cursor (s : Scanner) (p : Nat → Bool) :
    (s.closeBlocks p).cursor = s.cursor := by
  unfold closeBlocks
  split
  · rfl
  · rfl

theorem skip?_suffix (h : s.skip? = some s') : s'.cursor.rest <:+ s.cursor.rest := by
  obtain ⟨s₁, hstale, h⟩ := Option.bind_eq_some_iff.mp h
  cases h
  rw [closeBlocks_cursor, dropStaleKeys?_cursor hstale]
  exact Cursor.skipFrom_suffix _ _ _ _ _ _

/-! ### What takes characters -/

/-- A character at least is taken between two scanners. -/
def Takes (s s' : Scanner) : Prop :=
  s'.cursor.rest <:+ s.cursor.rest.tail

/-- Behind the first character, what is left may be any end of the text. -/
theorem takes_of_suffix {c : Cursor} (hcursor : c = s.cursor)
    (h : s'.cursor.rest <:+ (c.advance 1).rest) : s.Takes s' := by
  subst hcursor
  unfold Takes
  rw [← List.drop_one]
  exact h

theorem marker?_takes (h : s.marker? t = some s') : s.Takes s' := by
  obtain ⟨s₁, hdrop, h⟩ := Option.bind_eq_some_iff.mp h
  cases h
  refine takes_of_suffix ((dropKey?_cursor hdrop).trans (s.closeBlocks_cursor _)) ?_
  exact List.drop_suffix_drop_left _ (by omega)

theorem directive?_takes (h : s.directive? = some s') : s.Takes s' := by
  obtain ⟨s₁, hdrop, h⟩ := Option.bind_eq_some_iff.mp h
  obtain ⟨⟨d, next⟩, hdirective, h⟩ := Option.bind_eq_some_iff.mp h
  cases h
  exact takes_of_suffix ((dropKey?_cursor hdrop).trans (s.closeBlocks_cursor _))
    (directive?_suffix hdirective)

theorem openFlow?_takes (h : s.openFlow? t = some s') : s.Takes s' := by
  obtain ⟨s₁, hnote, h⟩ := Option.bind_eq_some_iff.mp h
  cases h
  exact takes_of_suffix (noteKey?_cursor hnote) List.suffix_rfl

theorem closeFlow?_takes (h : s.closeFlow? t = some s') : s.Takes s' := by
  obtain ⟨s₁, hdrop, h⟩ := Option.bind_eq_some_iff.mp h
  cases h
  exact takes_of_suffix (dropKey?_cursor hdrop) List.suffix_rfl

theorem comma?_takes (h : s.comma? = some s') : s.Takes s' := by
  obtain ⟨s₁, hdrop, h⟩ := Option.bind_eq_some_iff.mp h
  cases h
  exact takes_of_suffix (dropKey?_cursor hdrop) List.suffix_rfl

theorem dash?_takes (h : s.dash? = some s') : s.Takes s' := by
  obtain ⟨s₁, hopen, h⟩ := Option.bind_eq_some_iff.mp h
  obtain ⟨s₂, hdrop, h⟩ := Option.bind_eq_some_iff.mp h
  cases h
  exact takes_of_suffix ((dropKey?_cursor hdrop).trans (openBlock?_cursor hopen)) List.suffix_rfl

theorem question?_takes (h : s.question? = some s') : s.Takes s' := by
  obtain ⟨s₁, hopen, h⟩ := Option.bind_eq_some_iff.mp h
  obtain ⟨s₂, hdrop, h⟩ := Option.bind_eq_some_iff.mp h
  cases h
  exact takes_of_suffix ((dropKey?_cursor hdrop).trans (openBlock?_cursor hopen)) List.suffix_rfl

theorem colon?_takes (h : s.colon? = some s') : s.Takes s' := by
  unfold colon? at h
  split at h
  · next k _ =>
    have hcursor := (s.insert .key k.index).openBlock_cursor .blockMapping k.column k.index
    cases h
    exact takes_of_suffix hcursor List.suffix_rfl
  · obtain ⟨s₁, hopen, h⟩ := Option.bind_eq_some_iff.mp h
    cases h
    exact takes_of_suffix (openBlock?_cursor hopen) List.suffix_rfl

theorem name?_takes {make : String → Token} (h : s.name? make = some s') : s.Takes s' := by
  obtain ⟨s₁, hnote, h⟩ := Option.bind_eq_some_iff.mp h
  obtain ⟨⟨name, next⟩, hname, h⟩ := Option.bind_eq_some_iff.mp h
  cases h
  exact takes_of_suffix (noteKey?_cursor hnote) (anchorName?_suffix hname)

theorem tag?_takes (h : s.tag? = some s') : s.Takes s' := by
  obtain ⟨s₁, hnote, h⟩ := Option.bind_eq_some_iff.mp h
  obtain ⟨⟨name, next⟩, hname, h⟩ := Option.bind_eq_some_iff.mp h
  dsimp only at h
  split_ifs at h
  cases h
  exact takes_of_suffix (noteKey?_cursor hnote) (tagName?_suffix hname)

theorem blockScalar?_takes {folded : Bool} (h : s.blockScalar? folded = some s') :
    s.Takes s' := by
  obtain ⟨s₁, hdrop, h⟩ := Option.bind_eq_some_iff.mp h
  split_ifs at h
  obtain ⟨r, hr, h⟩ := Option.bind_eq_some_iff.mp h
  cases h
  exact takes_of_suffix (dropKey?_cursor hdrop) (blockScalar?_suffix hr)

theorem flowScalar?_takes (h : s.flowScalar? = some s') : s.Takes s' := by
  obtain ⟨s₁, hnote, h⟩ := Option.bind_eq_some_iff.mp h
  obtain ⟨r, hr, h⟩ := Option.bind_eq_some_iff.mp h
  cases h
  refine takes_of_suffix (noteKey?_cursor hnote) ?_
  exact (flowScalar?_suffix hr).trans (List.drop_one ▸ List.suffix_rfl)

/-- One step takes a character. -/
theorem step?_takes (h : s.step? = some s') : s.Takes s' := by
  unfold step? at h
  dsimp only at h
  split_ifs at h
  · exact marker?_takes h
  · exact marker?_takes h
  · split at h
    · cases h
    · split_ifs at h
      · exact directive?_takes h
      · exact dash?_takes h
      · exact question?_takes h
      · exact colon?_takes h
      · split at h
        · exact openFlow?_takes h
        · exact closeFlow?_takes h
        · exact openFlow?_takes h
        · exact closeFlow?_takes h
        · exact comma?_takes h
        · exact name?_takes h
        · exact name?_takes h
        · exact tag?_takes h
        · exact blockScalar?_takes h
        · exact blockScalar?_takes h
        · exact flowScalar?_takes h

/-- How many steps may be made does not matter, if they are more than the characters. -/
theorem run_eq_of_lt {n m : Nat} (hn : s.cursor.rest.length < n)
    (hm : s.cursor.rest.length < m) : run n s = run m s := by
  induction n generalizing m s with
  | zero => omega
  | succ n ih =>
    obtain ⟨m, rfl⟩ : ∃ k, m = k + 1 := ⟨m - 1, by omega⟩
    refine Option.bind_congr fun s₁ hskip => ?_
    have hskipped := (skip?_suffix hskip).length_le
    by_cases hend : s₁.cursor.rest.isEmpty
    · simp only [hend, if_true]
    · simp only [hend, Bool.false_eq_true, if_false]
      refine Option.bind_congr fun s₂ hstep => ?_
      have hstepped := (step?_takes hstep).length_le
      rw [List.length_tail] at hstepped
      have hpos : 0 < s₁.cursor.rest.length :=
        List.length_pos_iff.mpr (mt List.isEmpty_iff.mpr hend)
      exact ih (by omega) (by omega)

end Scanner

/-- The tokens of a text, whatever number of steps may be made beyond that of its
    characters. -/
theorem tokens?_eq_run {text : String} {start : Cursor} (h : Cursor.ofText? text = some start)
    {n : Nat} (hn : start.rest.length < n) :
    tokens? text = Scanner.run n { cursor := start } := by
  unfold tokens?
  rw [h]
  exact Scanner.run_eq_of_lt (Nat.lt_succ_self _) hn

end WritePolicy.Yaml
