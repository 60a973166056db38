import WritePolicy.Proofs.PatternTokens

/-! # Bracketed classes before an anchor

    A class of a source ends within the source. Before an anchor, a list that the
    source leaves open takes the anchor for further items, but the anchor has no
    bracket, so that such a class is not well formed either way.
-/

namespace WritePolicy.Pattern

variable {α : Type} {f : Flags} {cs : List Char}

theorem past_cases {rest : List Char} (h : rest <:+ ['$']) : rest = [] ∨ rest = ['$'] := by
  rcases List.suffix_cons_iff.mp h with h | h
  · exact .inr h
  · exact .inl (List.suffix_nil.mp h)

/-- Nothing of the source is left. -/
abbrev Through : α → List Char → Prop := fun _ rest => rest <:+ closing

/-! ## ASCII classes -/

/-- The name of an ASCII class, and what ends the class. -/
def asciiName? (f : Flags) (negated : Bool) (cs : List Char) : Option (CharSet × List Char) :=
  match cs.dropWhile (· != ':') with
  | ':' :: ']' :: after =>
    (CharSet.asciiClass? (String.ofList (cs.takeWhile (· != ':')))).bind fun set =>
      some (.complIf negated (f.close set), after)
  | _ => none

theorem asciiName?_of_ne {negated : Bool}
    (h : ∀ after, cs.dropWhile (· != ':') ≠ ':' :: ']' :: after) :
    asciiName? f negated cs = none := by
  unfold asciiName?
  split
  · next heq => exact absurd heq (h _)
  · rfl

theorem asciiName?_append (f : Flags) (negated : Bool) (cs : List Char) :
    asciiName? f negated (cs ++ closing) =
      (asciiName? f negated cs).map fun p => (p.1, p.2 ++ closing) := by
  by_cases hends : ∃ after, cs.dropWhile (· != ':') = ':' :: ']' :: after
  · -- the name ends within the source
    obtain ⟨after, hafter⟩ := hends
    rcases stretch_append (· != ':') cs with ⟨hnil, -, -⟩ | ⟨-, htake, hdrop⟩
    · rw [hafter] at hnil
      cases hnil
    · unfold asciiName?
      rw [htake, hdrop, hafter]
      cases h : CharSet.asciiClass? (String.ofList (cs.takeWhile (· != ':'))) with
      | none => rfl
      | some set => rfl
  · have hne := not_exists.mp hends
    have hne' : ∀ after, (cs ++ closing).dropWhile (· != ':') ≠ ':' :: ']' :: after := by
      intro after
      rcases stretch_append (· != ':') cs with ⟨-, -, hdrop⟩ | ⟨hnil, -, hdrop⟩
      · rw [hdrop]
        nofun
      · rw [hdrop]
        -- the anchor has no bracket that would complete the end
        match hleft : cs.dropWhile (· != ':') with
        | [] => exact absurd hleft hnil
        | [c] => nofun
        | c :: d :: others =>
          intro heq
          cases heq
          exact hne _ hleft
    rw [asciiName?_of_ne hne, asciiName?_of_ne hne']
    rfl

theorem asciiClass?_colon (h : ∀ rest, cs ≠ '^' :: rest) :
    asciiClass? f (':' :: cs) = asciiName? f false cs := by
  unfold asciiClass?
  cases cs with
  | nil => rfl
  | cons c rest =>
    have hc : c ≠ '^' := fun heq => h rest (heq ▸ rfl)
    simp only []
    rfl

theorem asciiClass?_cons {c : Char} (hc : c ≠ ':') (rest : List Char) :
    asciiClass? f (c :: rest) = none := by
  unfold asciiClass?
  split
  · next heq =>
    cases heq
    exact absurd rfl hc
  · rfl

/-- Whether an ASCII class follows is told by the source alone. -/
theorem asciiClass?_append (f : Flags) (cs : List Char) :
    asciiClass? f (cs ++ closing) = (asciiClass? f cs).map fun p => (p.1, p.2 ++ closing) := by
  cases cs with
  | nil => rfl
  | cons c rest =>
    rw [List.cons_append]
    by_cases hc : c = ':'
    · subst hc
      by_cases hcaret : ∃ others, rest = '^' :: others
      · obtain ⟨others, rfl⟩ := hcaret
        exact asciiName?_append f true others
      · have hne := not_exists.mp hcaret
        rw [asciiClass?_colon hne, asciiClass?_colon (append_ne_cons (by decide) hne)]
        exact asciiName?_append f false rest
    · rw [asciiClass?_cons hc, asciiClass?_cons hc]
      rfl

/-! ## Openings of classes -/

/-- A class after the mark that negates it. -/
def openList? (f : Flags) (negated : Bool) (cs : List Char) : Option (OpenClass × List Char) :=
  match cs with
  | [] => none
  | ']' :: rest => some (⟨negated, .single 0x5D, [0], none⟩, gap f rest)
  | '-' :: rest =>
    let after := if f.ignoreBlanks then skipWhere (· == '-') false rest
      else rest.dropWhile (· == '-')
    some (⟨negated, .single 0x2D, hyphenDepths f rest, none⟩, after)
  | cs => some (⟨negated, .empty, [], none⟩, cs)

theorem openClass?_caret {rest : List Char} (h : gap f cs = '^' :: rest) :
    openClass? f cs = openList? f true (gap f rest) := by
  unfold openClass?
  rw [h]
  rfl

theorem openClass?_of_ne (h : ∀ rest, gap f cs ≠ '^' :: rest) :
    openClass? f cs = openList? f false (gap f cs) := by
  unfold openClass?
  generalize gap f cs = left at h
  cases left with
  | nil => rfl
  | cons c rest =>
    have hc : c ≠ '^' := fun heq => h rest (heq ▸ rfl)
    simp only []
    rfl

theorem openList?_cons {negated : Bool} {c : Char} (hbracket : c ≠ ']') (hhyphen : c ≠ '-')
    (rest : List Char) :
    openList? f negated (c :: rest) = some (⟨negated, .empty, [], none⟩, c :: rest) := by
  unfold openList?
  split
  · next heq => cases heq
  · next heq =>
    cases heq
    exact absurd rfl hbracket
  · next heq =>
    cases heq
    exact absurd rfl hhyphen
  · rfl

/-- Whether several hyphens come first is told by the source alone. -/
theorem hyphenDepths_append (f : Flags) (cs : List Char) :
    hyphenDepths f (cs ++ closing) = hyphenDepths f cs := by
  unfold hyphenDepths
  rcases gap_append f cs with h | ⟨hnil, h⟩
  · rw [h]
    cases gap f cs with
    | nil => rfl
    | cons c rest => rfl
  · rw [h, hnil]

theorem openList?_extends (f : Flags) (negated : Bool) (cs : List Char) :
    Extends Through (openList? f negated cs) (openList? f negated (cs ++ closing)) := by
  have hthrough {α : Type} (a : α) (rest : List Char) (hpast : Past a rest) : Through a rest :=
    hpast.trans (List.suffix_cons _ _)
  cases cs with
  | nil =>
    -- the anchor would be what the class lists
    intro _ _ hjoined
    cases hjoined
    exact .inr List.suffix_rfl
  | cons c rest =>
    rw [List.cons_append]
    by_cases hbracket : c = ']'
    · -- a bracket that comes first is listed, with the blanks after it
      subst hbracket
      exact (Extends.gapped _ rest).mono hthrough
    · by_cases hhyphen : c = '-'
      · -- so are hyphens, of which the anchor has none
        subst hhyphen
        unfold openList?
        simp only [hyphenDepths_append]
        cases f.ignoreBlanks with
        | true =>
          have hhyphens := @skipWhere_append (· == '-') rfl false rest
          rcases hhyphens with h | ⟨-, h⟩
          · rw [if_pos rfl, if_pos rfl, h]
            exact .same _ _
          · rw [if_pos rfl, if_pos rfl, h]
            intro _ _ hjoined
            cases hjoined
            exact .inr List.nil_suffix
        | false =>
          rcases stretch_append (· == '-') rest with ⟨hnil, -, h⟩ | ⟨-, -, h⟩
          · rw [if_neg nofun, if_neg nofun, hnil, h]
            exact .same _ []
          · rw [if_neg nofun, if_neg nofun, h]
            exact .same _ _
      · rw [openList?_cons hbracket hhyphen, openList?_cons hbracket hhyphen]
        exact .same _ (c :: rest)

/-- What follows an opening bracket. -/
theorem openClass?_extends (f : Flags) (cs : List Char) :
    Extends Through (openClass? f cs) (openClass? f (cs ++ closing)) := by
  rcases gap_append f cs with h | ⟨-, h⟩
  · by_cases hcaret : ∃ rest, gap f cs = '^' :: rest
    · obtain ⟨rest, hgap⟩ := hcaret
      have hgap' : gap f (cs ++ closing) = '^' :: (rest ++ closing) := by
        rw [h, hgap]
        rfl
      rw [openClass?_caret hgap, openClass?_caret hgap']
      rcases gap_append f rest with h | ⟨-, h⟩
      · rw [h]
        exact openList?_extends f true _
      · -- a comment runs on after the caret, and nothing is listed
        rw [h]
        exact .none
    · have hne := not_exists.mp hcaret
      have hne' : ∀ rest, gap f (cs ++ closing) ≠ '^' :: rest := h ▸ append_ne_cons (by decide) hne
      rw [openClass?_of_ne hne, openClass?_of_ne hne', h]
      exact openList?_extends f false _
  · have hne : ∀ rest, gap f (cs ++ closing) ≠ '^' :: rest := fun _ => h ▸ nofun
    rw [openClass?_of_ne hne, h]
    exact .none

/-! ## Items and ranges -/

theorem classItem?_extends (f : Flags) (cs : List Char) :
    Extends (fun p rest => Past p rest ∨ Dangles f p rest) (classItem? f cs)
      (classItem? f (cs ++ closing)) := by
  cases cs with
  | nil =>
    -- the parenthesis is taken for an item
    intro _ _ hjoined
    cases hjoined
    exact .inr (.inl List.suffix_rfl)
  | cons c rest =>
    by_cases hc : c = '\\'
    · subst hc
      exact escape?_extends f rest
    · rw [List.cons_append]
      unfold classItem?
      simp only []
      exact .same _ rest

/-- Whether a hyphen joins a range is told by the source alone. -/
theorem joinsRange_append (f : Flags) (cs : List Char) :
    joinsRange f (cs ++ closing) = joinsRange f cs := by
  unfold joinsRange
  rcases gap_append f cs with h | ⟨hnil, h⟩
  · rw [h]
    cases gap f cs with
    | nil => rfl
    | cons c rest => rfl
  · rw [h, hnil]

/-- What two ends of a range become. -/
def rangeTo? (f : Flags) (first : Primitive) (p : Primitive × List Char) :
    Option (CharSet × List Char) :=
  (literal? f first).bind fun low => (literal? f p.1).bind fun high =>
    if low ≤ high then some (.range low high, p.2) else none

/-- What an item becomes, by what follows it: an end of a range, or an item. -/
def rangeFrom? (f : Flags) (first : Primitive) (rest : List Char) : Option (CharSet × List Char) :=
  match gap f rest with
  | '-' :: afterHyphen =>
    if joinsRange f afterHyphen then (classItem? f (gap f afterHyphen)).bind (rangeTo? f first)
    else return (← itemSet? f first, '-' :: afterHyphen)
  | [] => none
  | rest => return (← itemSet? f first, rest)

theorem classRange?_eq (f : Flags) (cs : List Char) :
    classRange? f cs = (classItem? f cs).bind fun p => rangeFrom? f p.1 p.2 :=
  rfl

theorem rangeFrom?_nil {first : Primitive} {rest : List Char} (h : gap f rest = []) :
    rangeFrom? f first rest = none := by
  unfold rangeFrom?
  rw [h]

theorem rangeFrom?_item {first : Primitive} {c : Char} {rest others : List Char}
    (h : gap f rest = c :: others) (hc : c ≠ '-') :
    rangeFrom? f first rest = (itemSet? f first).bind fun set => some (set, c :: others) := by
  unfold rangeFrom?
  rw [h]
  split
  · next heq =>
    cases heq
    exact absurd rfl hc
  · next heq => cases heq
  · rfl

/-- An assertion is not one end of a range, and it is not listed. -/
theorem rangeFrom?_assertion (make : CharSet → Assertion) (rest : List Char) :
    rangeFrom? f (.assertion make) rest = none := by
  unfold rangeFrom?
  split
  · next afterHyphen heq =>
    split
    · cases classItem? f (gap f afterHyphen) with
      | none => rfl
      | some p => rfl
    · rfl
  · rfl
  · rfl

theorem rangeTo_extends (f : Flags) (first : Primitive) (cs : List Char) :
    Extends Through ((classItem? f cs).bind (rangeTo? f first))
      ((classItem? f (cs ++ closing)).bind (rangeTo? f first)) := by
  refine (classItem?_extends f cs).bind (fun last left => ?_) fun last rest hpast b rest' hb => ?_
  · unfold rangeTo?
    cases literal? f first with
    | none => exact .none
    | some low =>
      simp only [Option.bind_some]
      cases literal? f last with
      | none => exact .none
      | some high =>
        simp only [Option.bind_some]
        split
        · exact .same _ _
        · exact .none
  · obtain ⟨low, -, hb⟩ := Option.bind_eq_some_iff.mp hb
    obtain ⟨high, hhigh, hb⟩ := Option.bind_eq_some_iff.mp hb
    rcases hpast with hpast | ⟨rfl, -⟩
    · split at hb
      · cases hb
        exact hpast.trans (List.suffix_cons _ _)
      · cases hb
    · -- a word boundary is no end of a range
      cases hhigh

theorem rangeFrom?_extends (f : Flags) (first : Primitive) (left : List Char) :
    Extends Through (rangeFrom? f first left) (rangeFrom? f first (left ++ closing)) := by
  rcases gap_append f left with h | ⟨-, h⟩
  · cases hgap : gap f left with
    | nil =>
      -- the item is the last of the source, and the parenthesis stands after it
      rw [hgap] at h
      rw [rangeFrom?_item h (by decide)]
      intro _ _ hjoined
      obtain ⟨_, _, hjoined⟩ := Option.bind_eq_some_iff.mp hjoined
      cases hjoined
      exact .inr List.suffix_rfl
    | cons c others =>
      have h' : gap f (left ++ closing) = c :: (others ++ closing) := by
        rw [h, hgap]
        rfl
      by_cases hc : c = '-'
      · subst hc
        unfold rangeFrom?
        rw [hgap, h']
        simp only [joinsRange_append]
        -- the hyphen joins a range, or it stands for itself and is left for later
        split
        · rcases gap_append f others with hg | ⟨-, hg⟩
          · rw [hg]
            exact rangeTo_extends f first _
          · rw [hg]
            exact .none
        · cases itemSet? f first with
          | none => exact .none
          | some set => exact .same set ('-' :: others)
      · rw [rangeFrom?_item hgap hc, rangeFrom?_item h' hc]
        cases itemSet? f first with
        | none => exact .none
        | some set => exact .same set (c :: others)
  · rw [rangeFrom?_nil h]
    exact .none

/-- One item or one range of a class. -/
theorem classRange?_extends (f : Flags) (cs : List Char) :
    Extends Through (classRange? f cs) (classRange? f (cs ++ closing)) := by
  rw [classRange?_eq, classRange?_eq]
  refine (classItem?_extends f cs).bind (fun first left => rangeFrom?_extends f first left)
    fun first rest hpast b rest' hb => ?_
  rcases hpast with hpast | ⟨rfl, -⟩
  · -- the item took the parenthesis, so that at most the end anchor follows
    rcases past_cases hpast with rfl | rfl
    · rw [rangeFrom?_nil (gap_nil f)] at hb
      cases hb
    · rw [rangeFrom?_item (gap_cons isSpace_closing.2 (by decide) []) (by decide)] at hb
      obtain ⟨_, _, hb⟩ := Option.bind_eq_some_iff.mp hb
      cases hb
      exact List.suffix_cons _ _
  · rw [rangeFrom?_assertion] at hb
    cases hb

/-! ## Bodies of classes -/

/-- A class is read step by step. -/
theorem classBody?_eq (f : Flags) (inner : OpenClass) (outer : List OpenClass) (cs : List Char) :
    classBody? f inner outer cs = (classStep? f inner outer (gap f cs)).bind fun p =>
      match p.1 with
      | .inl set => some (set, p.2)
      | .inr (inner, outer) =>
        if p.2.length < cs.length then classBody? f inner outer p.2 else none := by
  rw [classBody?]
  cases classStep? f inner outer (gap f cs) with
  | none => rfl
  | some p =>
    obtain ⟨step, rest⟩ := p
    cases step with
    | inl set => rfl
    | inr classes => simp only [dite_eq_ite, Option.bind_some]

/-- The operator that a doubled character stands for. -/
def setOperator? : Char → Option SetOperator
  | '&' => some .inter
  | '-' => some .diff
  | '~' => some .symmDiff
  | _ => none

theorem classStep?_operator {inner : OpenClass} {outer : List OpenClass} {c : Char}
    {op : SetOperator} (hop : setOperator? c = some op) (rest : List Char) :
    classStep? f inner outer (c :: c :: rest) = some (.inr (inner.operator f op, outer), rest) := by
  unfold setOperator? at hop
  split at hop
  · cases hop
    rfl
  · cases hop
    rfl
  · cases hop
    rfl
  · cases hop

theorem classStep?_item {inner : OpenClass} {outer : List OpenClass} {c : Char} {rest : List Char}
    (hopen : c ≠ '[') (hclose : c ≠ ']')
    (hop : setOperator? c ≠ none → ∀ more, rest ≠ c :: more) :
    classStep? f inner outer (c :: rest) =
      (classRange? f (c :: rest)).map fun p => (.inr (inner.add p.1 0, outer), p.2) := by
  unfold classStep?
  split
  · next heq => cases heq
  · next heq =>
    cases heq
    exact absurd rfl hopen
  · next heq =>
    cases heq
    exact absurd rfl hclose
  · next heq =>
    cases heq
    exact absurd rfl (hop (Option.some_ne_none _) _)
  · next heq =>
    cases heq
    exact absurd rfl (hop (Option.some_ne_none _) _)
  · next heq =>
    cases heq
    exact absurd rfl (hop (Option.some_ne_none _) _)
  · rfl

/-- A class is still open, and nothing of the source is left. -/
def OpenThrough (step : (CharSet × Nat) ⊕ OpenClass × List OpenClass) (rest : List Char) : Prop :=
  step.isRight = true ∧ rest <:+ closing

theorem classStep?_extends (f : Flags) (inner : OpenClass) (outer : List OpenClass)
    (cs : List Char) :
    Extends OpenThrough (classStep? f inner outer cs)
      (classStep? f inner outer (cs ++ closing)) := by
  have hitem (cs : List Char) : Extends OpenThrough
      ((classRange? f cs).map fun p => (.inr (inner.add p.1 0, outer), p.2))
      ((classRange? f (cs ++ closing)).map fun p => (.inr (inner.add p.1 0, outer), p.2)) :=
    (classRange?_extends f cs).map (g := fun set => Sum.inr (inner.add set 0, outer))
      fun _ _ hpast => ⟨rfl, hpast⟩
  cases cs with
  | nil => exact hitem []
  | cons c rest =>
    rw [List.cons_append]
    by_cases hopen : c = '['
    · subst hopen
      unfold classStep?
      simp only []
      rw [asciiClass?_append]
      cases asciiClass? f rest with
      | some p =>
        simp only [Option.map_some]
        cases f.admit? p.1 with
        | none => exact .none
        | some set => exact .same _ p.2
      | none =>
        simp only [Option.map_none]
        exact (openClass?_extends f rest).map (g := fun o => Sum.inr (o, inner :: outer))
          fun _ _ hpast => ⟨rfl, hpast⟩
    · by_cases hclose : c = ']'
      · subst hclose
        unfold classStep?
        cases inner.close? f with
        | none => exact .none
        | some closed =>
          cases outer with
          | nil => exact .same _ rest
          | cons o outer => exact .same _ rest
      · by_cases hop : setOperator? c ≠ none ∧ ∃ more, rest = c :: more
        · obtain ⟨hsome, more, rfl⟩ := hop
          obtain ⟨op, hop⟩ := Option.ne_none_iff_exists'.mp hsome
          rw [List.cons_append, classStep?_operator hop, classStep?_operator hop]
          exact .same _ more
        · -- one mark of an operator is an item, and the anchor has no second one
          have hsingle : setOperator? c ≠ none → ∀ more, rest ≠ c :: more :=
            fun hsome more heq => hop ⟨hsome, more, heq⟩
          have hsingle' : setOperator? c ≠ none → ∀ more, rest ++ closing ≠ c :: more := by
            intro hsome
            refine append_ne_cons ?_ (hsingle hsome)
            rintro rfl
            exact hsome rfl
          rw [classStep?_item hopen hclose hsingle, classStep?_item hopen hclose hsingle']
          exact hitem (c :: rest)

/-- A class does not end where nothing of the source is left. -/
theorem classBody?_of_through {rest : List Char} (h : rest <:+ closing) (inner : OpenClass)
    (outer : List OpenClass) : classBody? f inner outer rest = none := by
  have hempty (inner : OpenClass) (outer : List OpenClass) :
      classBody? f inner outer [] = none := by
    rw [classBody?_eq, gap_nil]
    rfl
  have hdollar (inner : OpenClass) (outer : List OpenClass) :
      classBody? f inner outer ['$'] = none := by
    have hitem : classItem? f ['$'] = some (.literal '$' false, []) := rfl
    rw [classBody?_eq, gap_cons isSpace_closing.2 (by decide),
      classStep?_item (by decide) (by decide) (fun h => absurd rfl h), classRange?_eq, hitem,
      Option.bind_some, rangeFrom?_nil (gap_nil f)]
    rfl
  rcases List.suffix_cons_iff.mp h with rfl | h
  · have hitem : classItem? f [')', '$'] = some (.literal ')' false, ['$']) := rfl
    rw [classBody?_eq, gap_cons isSpace_closing.1 (by decide),
      classStep?_item (by decide) (by decide) (fun h => absurd rfl h), classRange?_eq,
      hitem, Option.bind_some,
      rangeFrom?_item (gap_cons isSpace_closing.2 (by decide) []) (by decide)]
    cases itemSet? f (.literal ')' false) with
    | none => rfl
    | some set => exact hdollar _ _
  · rcases past_cases h with rfl | rfl
    · exact hempty inner outer
    · exact hdollar inner outer

/-- What an open class and the classes around it go on with. -/
theorem classBody?_extends (f : Flags) (inner : OpenClass) (outer : List OpenClass)
    (cs : List Char) :
    Extends Never (classBody? f inner outer cs) (classBody? f inner outer (cs ++ closing)) := by
  -- the induction is on the length of the source, which every step makes shorter
  induction hn : cs.length using Nat.strongRecOn generalizing inner outer cs with
  | ind n ih =>
    intro set rest hjoined
    rw [classBody?_eq] at hjoined ⊢
    rcases gap_append f cs with h | ⟨-, h⟩
    · rw [h] at hjoined
      obtain ⟨⟨step, middle⟩, hstep, hjoined⟩ := Option.bind_eq_some_iff.mp hjoined
      rcases classStep?_extends f inner outer (gap f cs) step middle hstep with
        ⟨left, halone, rfl⟩ | ⟨hopen, hpast⟩
      · rw [halone]
        cases step with
        | inl set =>
          cases hjoined
          exact .inl ⟨left, rfl, rfl⟩
        | inr classes =>
          simp only [List.length_append, Nat.add_lt_add_iff_right] at hjoined
          simp only [Option.bind_some]
          split at hjoined
          · next hlt =>
            rw [if_pos hlt]
            exact ih left.length (hn ▸ hlt) classes.1 classes.2 left rfl set rest hjoined
          · cases hjoined
      · -- the class would have to be closed by what is left of the anchor
        cases step with
        | inl set => cases hopen
        | inr classes =>
          simp only [classBody?_of_through hpast, ite_self] at hjoined
          cases hjoined
    · rw [h] at hjoined
      cases hjoined

/-- What follows the first bracket of a class. -/
theorem bracketed?_extends (f : Flags) (cs : List Char) :
    Extends Never (bracketed? f cs) (bracketed? f (cs ++ closing)) := by
  refine (openClass?_extends f cs).bind (fun c left => classBody?_extends f c [] left)
    fun c rest hpast b rest' hb => ?_
  dsimp only at hb
  rw [classBody?_of_through hpast] at hb
  cases hb

end WritePolicy.Pattern
