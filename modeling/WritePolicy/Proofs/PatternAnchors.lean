import WritePolicy.Proofs.PatternClasses
import WritePolicy.Proofs.PatternSearch

/-! # Patterns that match whole values

    A pattern is compiled with its source put into a group between two anchors, as
    text. The reader of the anchored text is followed here next to the reader of the
    source alone.

    The two go in lockstep: the first has one more group around everything it reads
    (`Reader.within`), and otherwise the same state. They part where a reading is past
    the end of the source, and then the anchored text is not well formed. They also
    part where the source closes a group that it has not opened (`Reader.Oversteps`): the
    reader of the source alone fails there, while the reader of the anchored text
    closes the group that was meant for the whole source, and reads on outside of it.

    So there are two kinds of patterns. The source of one is a well-formed expression,
    and the pattern matches a text exactly if that expression matches the whole of it.
    The source of the other oversteps its group, and is no expression by itself.
-/

namespace WritePolicy.Pattern

variable {f : Flags}

/-! ## Tokens -/

/-- A token has been read past the end of the source, or it is the word boundary
    that leaves an open brace. -/
def Overruns (f : Flags) (t : Token) (rest : List Char) : Prop :=
  (t ≠ .closeGroup ∧ rest <:+ ['$']) ∨ ∃ p, t = .primitive p ∧ Dangles f p rest

theorem braces_extends (f : Flags) (rest : List Char) :
    Extends (Overruns f) (token? f '\x7b' rest) (token? f '\x7b' (rest ++ closing)) := by
  refine (braceBody?_extends f false [] rest).bind (fun body left => ?_) fun _ _ hpast => hpast.elim
  show Extends _ (counts? body >>= _) (counts? body >>= _)
  cases counts? body with
  | none => exact .none
  | some bounds =>
    rcases gap_append f left with h | ⟨_, h⟩
    · -- a question mark that changes the greed is one of the source
      simp only [Option.bind_eq_bind, Option.bind_some, h, skipGreed_append]
      exact .same _ _
    · -- a comment runs on after the brace
      simp only [Option.bind_eq_bind, Option.bind_some, h]
      intro t rest' hjoined
      cases hjoined
      exact .inr (.inl ⟨nofun, List.nil_suffix⟩)

/-- An opening parenthesis closes no group. -/
theorem opening?_ne_closeGroup {cs rest : List Char} {t : Token}
    (h : opening? f cs = some (t, rest)) : t ≠ .closeGroup := by
  rintro rfl
  unfold opening? at h
  split at h
  any_goals cases h
  · obtain ⟨name, -, h⟩ := Option.map_eq_some_iff.mp h
    cases h
  · obtain ⟨name, -, h⟩ := Option.map_eq_some_iff.mp h
    cases h
  · split at h
    · dsimp only at h
      split at h
      · cases h
      · obtain ⟨changes, -, h⟩ := Option.bind_eq_some_iff.mp h
        cases h
    · obtain ⟨changes, -, h⟩ := Option.bind_eq_some_iff.mp h
      cases h
    · cases h

/-- The next token of a source, before an anchor and alone. -/
theorem token?_extends (f : Flags) (c : Char) (rest : List Char) :
    Extends (Overruns f) (token? f c rest) (token? f c (rest ++ closing)) := by
  unfold token?
  split
  · -- an opening parenthesis
    intro t left hjoined
    rcases opening?_extends f rest t left hjoined with hsame | hpast
    · exact .inl hsame
    · exact .inr (.inl ⟨opening?_ne_closeGroup hjoined, hpast⟩)
  · exact .same _ _
  · exact .same _ _
  · exact (bracketed?_extends f rest).map (g := fun c => Token.classSet c.1 c.2)
      fun _ _ hpast => hpast.elim
  · exact skipGreed_append rest ▸ .same _ _
  · exact skipGreed_append rest ▸ .same _ _
  · exact skipGreed_append rest ▸ .same _ _
  · exact braces_extends f rest
  · -- a backslash
    refine (escape?_extends f rest).map fun p left hpast => ?_
    rcases hpast with hpast | hdangles
    · exact .inl ⟨nofun, hpast⟩
    · exact .inr ⟨p, rfl, hdangles⟩
  · exact .same _ _
  · exact .same _ _
  · exact .same _ _
  · exact .same _ _

/-- Only a closing parenthesis closes a group. -/
theorem eq_of_token?_closeGroup {c : Char} {rest left : List Char}
    (h : token? f c rest = some (.closeGroup, left)) : c = ')' := by
  unfold token? at h
  split at h
  · exact absurd rfl (opening?_ne_closeGroup h)
  · rfl
  · cases h
  · obtain ⟨p, -, h⟩ := Option.map_eq_some_iff.mp h
    cases h
  · cases h
  · cases h
  · cases h
  · obtain ⟨body, -, h⟩ := Option.bind_eq_some_iff.mp h
    obtain ⟨bounds, -, h⟩ := Option.bind_eq_some_iff.mp h
    cases h
  · obtain ⟨p, -, h⟩ := Option.map_eq_some_iff.mp h
    cases h
  · cases h
  · cases h
  · cases h
  · cases h

/-! ## Runs of the reader -/

namespace Reader

variable {r r' last : Reader} {c : Char} {cs rest : List Char}

theorem run_of_gap_nil (h : gap r.flags cs = []) : run r cs = some r := by
  rw [run]
  split
  · rfl
  · next heq =>
    rw [h] at heq
    cases heq

/-- One token is read and applied, and the run goes on. -/
theorem run_of_gap_cons (h : gap r.flags cs = c :: rest) :
    run r cs = (token? r.flags c rest).bind fun p =>
      if p.2.length < cs.length then (r.apply p.1).bind fun r' => run r' p.2 else none := by
  rw [run]
  split
  · next heq =>
    rw [h] at heq
    cases heq
  · next heq =>
    rw [h] at heq
    cases heq
    cases htoken : token? r.flags c rest with
    | none => rfl
    | some p =>
      simp only [Option.bind_some, dite_eq_ite]
      cases r.apply p.1 with
      | none => rfl
      | some r' => rfl

/-- What the first token of a run that ends did. -/
theorem exists_of_run (h : gap r.flags cs = c :: rest) (hrun : run r cs = some last) :
    ∃ t left r', token? r.flags c rest = some (t, left) ∧ left.length < cs.length ∧
      r.apply t = some r' ∧ run r' left = some last := by
  rw [run_of_gap_cons h] at hrun
  obtain ⟨⟨t, left⟩, htoken, hrun⟩ := Option.bind_eq_some_iff.mp hrun
  split at hrun
  · next hlt =>
    obtain ⟨r', happly, hrun⟩ := Option.bind_eq_some_iff.mp hrun
    exact ⟨t, left, r', htoken, hlt, happly, hrun⟩
  · cases hrun

/-- An end anchor is one item. -/
theorem run_dollar (r : Reader) :
    run r ['$'] = (Primitive.dollar.regex? r.flags).map fun e => r.push (.expr e 0) := by
  have htoken : token? r.flags '$' [] = some (.primitive .dollar, []) := rfl
  rw [run_of_gap_cons (gap_cons isSpace_closing.2 (by decide) []), htoken, Option.bind_some,
    if_pos (by decide)]
  show ((Primitive.dollar.regex? r.flags).bind fun e => some (r.push (.expr e 0))).bind _ = _
  cases Primitive.dollar.regex? r.flags with
  | none => rfl
  | some e => exact run_of_gap_nil (gap_nil _)

/-- A run that has nothing but the end anchor before it closes no group. -/
theorem outer_of_run_past (hpast : rest <:+ ['$']) (hrun : run r rest = some last) :
    last.outer = r.outer := by
  rcases past_cases hpast with rfl | rfl
  · rw [run_of_gap_nil (gap_nil _)] at hrun
    cases hrun
    rfl
  · rw [run_dollar] at hrun
    obtain ⟨e, -, hlast⟩ := Option.map_eq_some_iff.mp hrun
    cases hlast
    rfl

/-! ## A group around the source -/

/-- The reader inside one more group than it knows of. -/
def within (r : Reader) (o : OpenGroup × Flags) : Reader :=
  { r with outer := r.outer ++ [o] }

variable {o : OpenGroup × Flags} {t : Token}

theorem outer_within_ne_nil (r : Reader) (o : OpenGroup × Flags) : (r.within o).outer ≠ [] :=
  List.append_ne_nil_of_right_ne_nil _ nofun

/-- A token that does not close the outermost group does the same inside of one more. -/
theorem apply_within (h : t = .closeGroup → r.outer ≠ []) :
    (r.within o).apply t = (r.apply t).map (·.within o) := by
  cases t with
  | primitive p =>
    show (p.regex? r.flags >>= _) = Option.map _ (p.regex? r.flags >>= _)
    cases p.regex? r.flags with
    | none => rfl
    | some e => rfl
  | classSet s depth => rfl
  | openGroup changes name =>
    cases hname : name.any r.names.contains with
    | true => simp [apply, within, hname]
    | false => simp [apply, within, hname]
  | setFlags changes => rfl
  | closeGroup =>
    -- the group that is closed is not the one that was added at the end
    unfold apply within
    cases houter : r.outer with
    | nil => exact absurd houter (h rfl)
    | cons g outer => rfl
  | bar => rfl
  | repetition least most =>
    simp only [apply, within]
    split
    · rfl
    · rfl

/-- The reader comes to a parenthesis that closes a group where no group is open. -/
inductive Oversteps : Reader → List Char → Prop where
  | here {r : Reader} {cs rest : List Char} :
      gap r.flags cs = ')' :: rest → r.outer = [] → Oversteps r cs
  | later {r r' : Reader} {cs rest left : List Char} {c : Char} {t : Token} :
      gap r.flags cs = c :: rest → token? r.flags c rest = some (t, left) →
      r.apply t = some r' → Oversteps r' left → Oversteps r cs

/-- The run fails there. -/
theorem Oversteps.run_eq_none (h : Oversteps r cs) : run r cs = none := by
  induction h with
  | here hgap houter =>
    rw [run_of_gap_cons hgap]
    show ite _ (Option.bind (apply _ .closeGroup) _) none = none
    unfold apply
    rw [houter]
    exact ite_self _
  | later hgap htoken happly _ ih =>
    rw [run_of_gap_cons hgap, htoken, Option.bind_some]
    simp only [happly, Option.bind_some, ih, ite_self]

/-- The word boundary that leaves an open brace is not followed by a repetition. -/
theorem run_of_dangles {p : Primitive} (hdangles : Dangles r.flags p rest) :
    run r rest = none := by
  obtain ⟨-, blanks, hblanks, rfl⟩ := hdangles
  rw [run_of_gap_cons (gap_cons (by decide +kernel) (by decide) _)]
  show ((braceBody? r.flags false [] (blanks ++ closing)).bind _).bind _ = none
  rw [braceBody?_of_gap hblanks]
  rfl

/-- The group around a source with what it is put together of at the end: the group of
    the source, and the end anchor. -/
def anchor (g source : OpenGroup) : OpenGroup :=
  { g with items :=
      .expr (.assertion .textEnd) 0 :: .expr source.close (source.depth + 1) :: g.items }

/-- Where the source has ended, the group around it is closed and the text ends. -/
theorem run_closing {g : OpenGroup} (hgap : gap r.flags cs = closing) (houter : r.outer = [])
    (hrun : run (r.within (g, {})) cs = some last) : last.group = anchor g r.group := by
  obtain ⟨t, left, r', htoken, -, happly, hrun⟩ := exists_of_run (r := r.within (g, {})) hgap hrun
  have htoken' : token? (r.within (g, {})).flags ')' ['$'] = some (.closeGroup, ['$']) := rfl
  rw [htoken'] at htoken
  cases htoken
  have happly' : (r.within (g, {})).apply .closeGroup =
      some ({ r with group := g, outer := [], flags := {} }.push
        (.expr r.group.close (r.group.depth + 1))) := by
    simp only [apply, within, houter, List.nil_append]
  rw [happly'] at happly
  cases happly
  rw [run_dollar] at hrun
  cases hrun
  rfl

/-- The group around the source is not closed while a group inside of it is open. -/
theorem outer_of_run_closing {g : OpenGroup} (hgap : gap r.flags cs = closing)
    (houter : r.outer ≠ []) (hrun : run (r.within (g, {})) cs = some last) : last.outer ≠ [] := by
  obtain ⟨t, left, r', htoken, -, happly, hrun⟩ := exists_of_run (r := r.within (g, {})) hgap hrun
  cases htoken
  rw [apply_within fun _ => houter] at happly
  obtain ⟨inner, -, rfl⟩ := Option.map_eq_some_iff.mp happly
  rw [outer_of_run_past List.suffix_rfl hrun]
  exact outer_within_ne_nil inner _

/-- The run of a source inside of a group that the anchor closes, and the run of the
    source alone. -/
theorem run_within {g : OpenGroup} (hrun : run (r.within (g, {})) (cs ++ closing) = some last)
    (hclosed : last.outer = []) :
    (∃ alone, run r cs = some alone ∧ alone.outer = [] ∧
        last.group = anchor g alone.group) ∨ Oversteps r cs := by
  -- the induction is on the length of the source, which every token makes shorter
  induction hn : cs.length using Nat.strongRecOn generalizing r cs with
  | ind n ih =>
    rcases gap_append r.flags cs with hgap | ⟨-, hgap⟩
    · cases halone : gap r.flags cs with
      | nil =>
        rw [halone, List.nil_append] at hgap
        -- the source is at its end, and its groups are closed or not
        by_cases houter : r.outer = []
        · exact .inl ⟨r, run_of_gap_nil halone, houter, run_closing hgap houter hrun⟩
        · exact absurd hclosed (outer_of_run_closing hgap houter hrun)
      | cons c rest =>
        rw [halone, List.cons_append] at hgap
        obtain ⟨t, left', r', htoken, hlt, happly, hrun⟩ :=
          exists_of_run (r := r.within (g, {})) hgap hrun
        by_cases hcloses : t = .closeGroup ∧ r.outer = []
        · obtain ⟨rfl, houter⟩ := hcloses
          cases eq_of_token?_closeGroup htoken
          exact .inr (.here halone houter)
        · -- the token does the same in both runs, if it is read of the source
          have hwithin : t = .closeGroup → r.outer ≠ [] := fun ht houter => hcloses ⟨ht, houter⟩
          rw [apply_within hwithin] at happly
          obtain ⟨inner, hinner, rfl⟩ := Option.map_eq_some_iff.mp happly
          rcases token?_extends r.flags c rest t left' htoken with
            ⟨left, htoken', rfl⟩ | ⟨-, hpast⟩ | ⟨p, rfl, hdangles⟩
          · have hlt' : left.length < cs.length := by
              simp only [List.length_append] at hlt
              omega
            rcases ih left.length (hn ▸ hlt') hrun rfl with ⟨alone, hrun', hends⟩ | hoversteps
            · refine .inl ⟨alone, ?_, hends⟩
              rw [run_of_gap_cons halone, htoken', Option.bind_some, if_pos hlt', hinner]
              exact hrun'
            · exact .inr (.later halone htoken' hinner hoversteps)
          · -- nothing is left that closes the group
            rw [outer_of_run_past hpast hrun] at hclosed
            exact absurd hclosed (outer_within_ne_nil inner _)
          · -- an assertion changes no flags, so the brace is read as it was looked at
            have hflags : (inner.within (g, {})).flags = r.flags := by
              obtain ⟨e, -, hinner⟩ := Option.bind_eq_some_iff.mp hinner
              cases hinner
              rfl
            rw [run_of_dangles (hflags ▸ hdangles)] at hrun
            cases hrun
    · -- a comment runs on, and the group stays open
      rw [run_of_gap_nil (r := r.within (g, {})) hgap] at hrun
      cases hrun
      exact absurd hclosed (outer_within_ne_nil r _)

end Reader

/-! ## Whole values -/

/-- An expression between the anchors of the text. -/
def whole (e : Regex) : Regex :=
  .concat (.assertion .textStart) (.concat e (.assertion .textEnd))

/-- Anchored, an expression matches a part of a text exactly if it matches the whole. -/
theorem exists_matches_whole_iff {text : Characters} {e : Regex} :
    (∃ i j, Matches text (whole e) i j) ↔ Matches text e 0 text.size := by
  constructor
  · rintro ⟨i, j, hmatches⟩
    cases hmatches with
    | concat hstart hrest =>
      cases hstart with
      | assertion _ hzero =>
        cases hrest with
        | concat he hend =>
          cases hend with
          | assertion _ hsize =>
            have hi : i = 0 := eq_of_beq hzero
            have hj : j = text.size := eq_of_beq hsize
            rw [← hi, ← hj]
            exact he
  · intro hmatches
    have hstart : Matches text (.assertion .textStart) 0 0 := .assertion (Nat.zero_le _) rfl
    have hend : Matches text (.assertion .textEnd) text.size text.size :=
      .assertion le_rfl (beq_self_eq_true _)
    exact ⟨0, text.size, .concat hstart (.concat hmatches hend)⟩

/-- The group that the source is put into stands after the start of the text. -/
def start : OpenGroup :=
  { items := [.expr (.assertion .textStart) 0] }

/-- The anchors are two levels around the source. -/
theorem depth_anchor (source : OpenGroup) :
    (Reader.anchor start source).depth = source.depth + 2 := by
  simp [OpenGroup.depth, OpenGroup.itemsDepth, Reader.anchor, start, levels, Item.depth]

/-- The source is read inside of its group. -/
theorem run_anchored {source : String} {last : Reader}
    (h : Reader.run {} (anchored source) = some last) :
    Reader.run (Reader.within {} (start, {})) (source.toList ++ closing) = some last := by
  have hanchored : anchored source = '^' :: '(' :: '?' :: ':' :: (source.toList ++ closing) := by
    simp [anchored, closing]
  rw [hanchored] at h
  -- the first token is the start anchor, the second opens the group
  obtain ⟨t, left, r, htoken, -, happly, h⟩ := Reader.exists_of_run rfl h
  cases htoken
  cases happly
  obtain ⟨t, left, r, htoken, -, happly, h⟩ := Reader.exists_of_run rfl h
  cases htoken
  cases happly
  exact h

/-- The anchored source is well formed only if the source is, or closes the group that
    was opened for it. -/
theorem regex?_anchored {source : String} {e : Regex}
    (h : regex? (anchored source) = some e) :
    (∃ alone, regex? source.toList = some alone ∧ e = whole alone) ∨
      Reader.Oversteps {} source.toList := by
  obtain ⟨last, hrun, hfinish⟩ := Option.bind_eq_some_iff.mp h
  unfold Reader.finish at hfinish
  split at hfinish
  · next hends =>
    cases hfinish
    obtain ⟨hclosed, hdepth⟩ := Bool.and_eq_true_iff.mp hends
    rw [List.isEmpty_iff] at hclosed
    rw [decide_eq_true_iff] at hdepth
    rcases Reader.run_within (run_anchored hrun) hclosed with
      ⟨alone, halone, houter, hgroup⟩ | hoversteps
    · -- what is not too deep between the anchors is not too deep alone
      have halone' : alone.group.depth ≤ nestLimit := by
        rw [hgroup, depth_anchor] at hdepth
        omega
      refine .inl ⟨alone.group.close, ?_, ?_⟩
      · unfold regex?
        rw [halone, Option.bind_some]
        simp [Reader.finish, houter, halone']
      · rw [hgroup]
        rfl
    · exact .inr hoversteps
  · cases hfinish

/-- **Patterns as whole values**: a pattern either has a source that is a well-formed
    expression, and matches exactly the texts that this expression matches from the
    first to the last character; or its source closes a group that it has not opened,
    and is no expression by itself. -/
theorem isMatch_iff_whole_or_oversteps {source : String} {p : Pattern}
    (h : ofSource? source = some p) :
    (∃ alone, regex? source.toList = some alone ∧
        ∀ text : String, p.isMatch text = true ↔
          Matches text.toList.toArray alone 0 text.toList.toArray.size) ∨
      (Reader.Oversteps {} source.toList ∧ regex? source.toList = none) := by
  obtain ⟨e, hregex, rfl⟩ := Option.map_eq_some_iff.mp h
  rcases regex?_anchored hregex with ⟨alone, halone, rfl⟩ | hoversteps
  · refine .inl ⟨alone, halone, fun text => ?_⟩
    exact (Regex.isMatch_iff _ text).trans exists_matches_whole_iff
  · refine .inr ⟨hoversteps, ?_⟩
    unfold regex?
    rw [hoversteps.run_eq_none]
    rfl

/-- A pattern for a whole word of letters. -/
theorem isMatch_iff_whole_letters :
    ∃ p alone, ofSource? "[a-z]+" = some p ∧ regex? "[a-z]+".toList = some alone ∧
      ∀ text : String, p.isMatch text = true ↔
        Matches text.toList.toArray alone 0 text.toList.toArray.size := by
  have hpattern : (ofSource? "[a-z]+").isSome = true := by decide +kernel
  have halone : (regex? "[a-z]+".toList).isSome = true := by decide +kernel
  obtain ⟨p, hp⟩ := Option.isSome_iff_exists.mp hpattern
  rcases isMatch_iff_whole_or_oversteps hp with ⟨alone, hregex, hwhole⟩ | ⟨-, hnone⟩
  · exact ⟨p, alone, hp, hregex, hwhole⟩
  · rw [hnone] at halone
    cases halone

/-- Two alternatives of which the first closes the group of both. -/
theorem not_whole_overstepping :
    ¬ ∀ (source : String) (p : Pattern), ofSource? source = some p →
      ∃ alone, regex? source.toList = some alone ∧
        ∀ text : String, p.isMatch text = true ↔
          Matches text.toList.toArray alone 0 text.toList.toArray.size := by
  intro hwhole
  have hpattern : (ofSource? "a)|(b").isSome = true := by decide +kernel
  have halone : (regex? "a)|(b".toList).isSome = false := by decide +kernel
  obtain ⟨p, hp⟩ := Option.isSome_iff_exists.mp hpattern
  obtain ⟨alone, hregex, -⟩ := hwhole _ p hp
  rw [hregex] at halone
  cases halone

example : (ofSource? "a)|(b").map (fun p => ["a", "ax", "xb", "xa"].map p.isMatch) =
    some [true, true, true, false] := by decide +kernel

end WritePolicy.Pattern
