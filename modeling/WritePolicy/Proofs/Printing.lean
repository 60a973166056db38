import WritePolicy.Json.Printer
import WritePolicy.Proofs.DeclarationOrder
import WritePolicy.Proofs.JsonBuilder

/-! # Printed values are read back

    A value that is printed over several lines is read back as it was, as far as it has
    no numbers, carries each key once and is not too deep. The proof goes through the
    tokens of a value (`tokensOf`): what is printed has these tokens, whatever the line
    breaks, and the builder makes the value of them again.

    Both parts are inductions on the value. In the first, the text is taken apart at its
    punctuation. In the second, the containers that are already open are arbitrary, and
    the tokens of a value do what a scalar would do: they complete one value.
-/

namespace WritePolicy.Json

/-! ## Tokens of a value -/

mutual

/-- The tokens of a value, in order. -/
def tokensOf : Json → List Token
  | array items => .openArray :: (List.intercalate [.comma] (itemTokens items) ++ [.closeArray])
  | object fields =>
    .openObject :: (List.intercalate [.comma] (fieldTokens fields) ++ [.closeObject])
  | v => [.scalar v]

/-- The tokens of each item. -/
def itemTokens : List Json → List (List Token)
  | [] => []
  | v :: rest => tokensOf v :: itemTokens rest

/-- The tokens of each field. -/
def fieldTokens : List (String × Json) → List (List Token)
  | [] => []
  | (k, v) :: rest => (.scalar (.string k) :: .colon :: tokensOf v) :: fieldTokens rest

end

mutual

/-- There are no numbers in the value. -/
def Numberless : Json → Prop
  | number _ => False
  | array items => NumberlessItems items
  | object fields => NumberlessFields fields
  | _ => True

/-- There are no numbers in the items. -/
def NumberlessItems : List Json → Prop
  | [] => True
  | v :: rest => v.Numberless ∧ NumberlessItems rest

/-- There are no numbers in the field values. -/
def NumberlessFields : List (String × Json) → Prop
  | [] => True
  | (_, v) :: rest => v.Numberless ∧ NumberlessFields rest

end

/-! ## Strings -/

namespace Scanner

theorem hexValue?_hexDigit : ∀ n < 16, hexValue? (hexDigit n) = some n := by
  decide

/-- A character that is escaped is read as itself. -/
theorem foldlM_escape (c : Char) (read : List Char) (tokens : List Token) :
    (escape c).foldlM step ⟨.string read none, tokens⟩ =
      some ⟨.string (c :: read) none, tokens⟩ := by
  unfold escape
  split
  case h_8 _ hquote hbackslash _ _ _ _ _ =>
    by_cases hcontrol : c.toNat < 32
    · -- the two digits are those of the code point
      rw [if_pos hcontrol]
      have hhigh := hexValue?_hexDigit (c.toNat / 16) (by omega)
      have hlow := hexValue?_hexDigit (c.toNat % 16) (by omega)
      have hunit : 16 * (c.toNat / 16) + c.toNat % 16 = c.toNat := by omega
      have hsurrogate : ¬ (0xD800 ≤ c.toNat ∧ c.toNat < 0xDC00) := by omega
      have hsurrogate' : ¬ (0xDC00 ≤ c.toNat ∧ c.toNat < 0xE000) := by omega
      have hzero : hexValue? '0' = some 0 := by decide
      simp [step, escaped, closeUnit, hzero, hhigh, hlow, hunit, hsurrogate, hsurrogate']
    · rw [if_neg hcontrol]
      have hquote : c ≠ '"' := fun h => hquote h
      have hbackslash : c ≠ '\\' := fun h => hbackslash h
      simp [step, hquote, hbackslash, hcontrol]
  all_goals rfl

theorem foldlM_escaped (cs read : List Char) (tokens : List Token) :
    (cs.flatMap escape).foldlM step ⟨.string read none, tokens⟩ =
      some ⟨.string (cs.reverse ++ read) none, tokens⟩ := by
  induction cs generalizing read with
  | nil => rfl
  | cons c rest ih =>
    rw [List.flatMap_cons, List.foldlM_append, foldlM_escape]
    show List.foldlM step _ _ = _
    rw [ih]
    simp

end Scanner

/-! ## Texts of values -/

section

open Scanner

/-- A string between quotes is one token. -/
theorem tokens?_quote (s : String) : tokens? (quote s).toList = some [.scalar (.string s)] := by
  have hopen : step {} '"' = some ⟨.string [] none, []⟩ := rfl
  have hclose : step ⟨.string s.toList.reverse none, []⟩ '"' =
      some ⟨.between, [.scalar (.string (String.ofList s.toList.reverse.reverse))]⟩ := rfl
  rw [tokens?_eq_some_iff, toList_quote]
  refine ⟨⟨.between, [.scalar (.string s)]⟩, ?_, rfl⟩
  rw [List.foldlM_cons, hopen]
  show List.foldlM step _ (s.toList.flatMap escape ++ ['"']) = _
  rw [List.foldlM_append, foldlM_escaped, List.append_nil]
  show List.foldlM step ⟨.string s.toList.reverse none, []⟩ ['"'] = _
  rw [List.foldlM_cons, hclose, List.reverse_reverse, String.ofList_toList]
  rfl

end

variable {left right : String} {l r : Char} {p q : List Token} {gap : List Char}

theorem blank_lineBreak (level : Nat) : Blank (lineBreak level).toList := by
  intro c hc
  unfold lineBreak at hc
  rw [String.toList_ofList] at hc
  rcases List.mem_cons.mp hc with rfl | hc
  · rfl
  · rw [List.eq_of_mem_replicate hc]
    rfl

/-- The text has the tokens. -/
def HasTokens (text : String) (ts : List Token) : Prop :=
  tokens? text.toList = some ts

/-- Parts with commas and blanks between them have the tokens of the parts with commas
    between them. -/
theorem tokens?_intercalate {parts : List String} {tss : List (List Token)}
    (h : List.Forall₂ HasTokens parts tss) (hgap : Blank gap) :
    tokens? (List.intercalate (',' :: gap) (parts.map String.toList)) =
      some (List.intercalate [.comma] tss) := by
  induction h with
  | nil => rfl
  | @cons part ts parts tss hpart hparts ih =>
    cases hparts with
    | nil =>
      have hone : tokens? part.toList = some ts := hpart
      simpa [List.intercalate] using hone
    | @cons next ts' parts tss hnext hrest =>
      rw [List.map_cons, List.map_cons, List.intercalate_cons_cons, List.intercalate_cons_cons]
      rw [List.map_cons] at ih
      have hcomma := tokens?_append_separator (c := ',') rfl hpart
        (gap ++ List.intercalate (',' :: gap) (next.toList :: parts.map String.toList))
      rw [tokens?_blank_append hgap, ih] at hcomma
      simpa using hcomma

/-- Parts between brackets have the tokens of the brackets and between them those of the
    parts. -/
theorem hasTokens_bracketed (hl : separator? l = some p) (hr : separator? r = some q)
    (hleft : left.toList = [l]) (hright : right.toList = [r]) (level : Nat) {parts : List String}
    {tss : List (List Token)} (h : List.Forall₂ HasTokens parts tss) :
    HasTokens (bracketed left right level parts) (p ++ List.intercalate [.comma] tss ++ q) := by
  have hend : tokens? [r] = some q := by
    rw [tokens?_separator_cons hr, tokens?_nil]
    simp
  unfold HasTokens bracketed
  split
  · next hempty =>
    rw [List.isEmpty_iff.mp hempty] at h
    cases h
    have hparts := tokens?_separator_cons hl [r]
    rw [hend] at hparts
    rw [String.toList_append, hleft, hright]
    simpa using hparts
  · -- the brackets, the line breaks and the commas separate what is between them
    have hbetween := tokens?_intercalate h (blank_lineBreak (level + 1))
    have hbefore := (tokens?_blank_append (blank_lineBreak (level + 1))).trans hbetween
    have hafter := tokens?_append_blank hbefore (blank_lineBreak level)
    have hclosed := tokens?_append_separator hr hafter []
    have hparts := tokens?_separator_cons hl
      (((lineBreak (level + 1)).toList ++ List.intercalate (',' :: (lineBreak (level + 1)).toList)
        (parts.map String.toList) ++ (lineBreak level).toList) ++ r :: [])
    rw [hclosed, tokens?_nil] at hparts
    simp only [String.toList_append, String.toList_intercalate, hleft, hright]
    simpa using hparts

mutual

/-- The printed value has the tokens of the value. -/
theorem hasTokens_indented (v : Json) (level : Nat) (h : v.Numberless) :
    HasTokens (indented level v) (tokensOf v) := by
  cases v with
  | null =>
    unfold indented
    exact (rfl : tokens? ['n', 'u', 'l', 'l'] = some [.scalar null])
  | bool b =>
    unfold indented
    cases b with
    | true => exact (rfl : tokens? ['t', 'r', 'u', 'e'] = some [.scalar (bool true)])
    | false => exact (rfl : tokens? ['f', 'a', 'l', 's', 'e'] = some [.scalar (bool false)])
  | number n => exact absurd h id
  | string s => exact tokens?_quote s
  | array items =>
    have hopen : separator? '[' = some [.openArray] := rfl
    have hclose : separator? ']' = some [.closeArray] := rfl
    exact hasTokens_bracketed hopen hclose rfl rfl level
      (hasTokens_indentedItems items (level + 1) h)
  | object fields =>
    have hopen : separator? '\x7b' = some [.openObject] := rfl
    have hclose : separator? '\x7d' = some [.closeObject] := rfl
    exact hasTokens_bracketed hopen hclose rfl rfl level
      (hasTokens_indentedFields fields (level + 1) h)

theorem hasTokens_indentedItems (items : List Json) (level : Nat) (h : NumberlessItems items) :
    List.Forall₂ HasTokens (indentedItems level items) (itemTokens items) := by
  cases items with
  | nil => exact .nil
  | cons v rest =>
    exact .cons (hasTokens_indented v level h.1) (hasTokens_indentedItems rest level h.2)

theorem hasTokens_indentedFields (fields : List (String × Json)) (level : Nat)
    (h : NumberlessFields fields) :
    List.Forall₂ HasTokens (indentedFields level fields) (fieldTokens fields) := by
  cases fields with
  | nil => exact .nil
  | cons e rest =>
    obtain ⟨k, v⟩ := e
    refine .cons ?_ (hasTokens_indentedFields rest level h.2)
    have hvalue : tokens? (' ' :: (indented level v).toList) = some (tokensOf v) := by
      have hindented : tokens? (indented level v).toList = some (tokensOf v) :=
        hasTokens_indented v level h.1
      rw [tokens?_separator_cons (c := ' ') rfl, hindented]
      rfl
    have hparts := tokens?_append_separator (c := ':') rfl (tokens?_quote k)
      (' ' :: (indented level v).toList)
    rw [hvalue] at hparts
    unfold HasTokens
    simp only [String.toList_append]
    simpa using hparts

end

/-! ## Values of tokens -/

open Builder

theorem itemTokens_ne_nil {items : List Json} (h : items ≠ []) : itemTokens items ≠ [] := by
  cases items with
  | nil => exact absurd rfl h
  | cons _ _ => exact List.cons_ne_nil _ _

theorem fieldTokens_ne_nil {fields : List (String × Json)} (h : fields ≠ []) :
    fieldTokens fields ≠ [] := by
  cases fields with
  | nil => exact absurd rfl h
  | cons _ _ => exact List.cons_ne_nil _ _

mutual

/-- The tokens of a value complete the value, whatever is open. -/
theorem foldlM_tokensOf (v : Json) {frames : List Frame} {expected : Expected}
    (hunique : v.UniqueKeys) (hdepth : frames.length + v.depth ≤ depthLimit)
    (hexpected : expected = .value ∨ expected = .valueOrEnd) :
    (tokensOf v).foldlM Builder.step ⟨frames, expected⟩ = complete frames v := by
  have hscalar (v : Json) : [Token.scalar v].foldlM Builder.step ⟨frames, expected⟩ =
      complete frames v := by
    rw [List.foldlM_cons]
    rcases hexpected with rfl | rfl
    · exact bind_pure (complete frames v)
    · exact bind_pure (complete frames v)
  cases v with
  | null => exact hscalar null
  | bool b => exact hscalar (bool b)
  | number n => exact hscalar (number n)
  | string s => exact hscalar (string s)
  | array items =>
    have hroom : frames.length < depthLimit := by
      unfold depth at hdepth
      omega
    have hopen : Builder.step ⟨frames, expected⟩ .openArray =
        some ⟨.array [] :: frames, .valueOrEnd⟩ := (Move.openArray hexpected hroom).step_eq
    have hclose (items : List Json) (expected : Expected)
        (h : expected = .valueOrEnd ∨ expected = .commaOrEnd) :
        [Token.closeArray].foldlM Builder.step ⟨.array items :: frames, expected⟩ =
          complete frames (array items.reverse) := by
      rw [List.foldlM_cons]
      rcases h with rfl | rfl <;> exact bind_pure (complete frames (array items.reverse))
    unfold tokensOf
    rw [List.foldlM_cons, hopen]
    show List.foldlM Builder.step ⟨.array [] :: frames, .valueOrEnd⟩ _ = _
    rw [List.foldlM_append]
    by_cases hempty : items = []
    · subst hempty
      exact hclose [] .valueOrEnd (.inl rfl)
    · have hbelow : frames.length + 1 + depthItems items ≤ depthLimit := by
        unfold depth at hdepth
        omega
      rw [foldlM_itemTokens items hempty hunique hbelow (.inr rfl)]
      have hend := hclose (items.reverse ++ []) .commaOrEnd (.inr rfl)
      rw [List.append_nil, List.reverse_reverse] at hend
      rw [List.append_nil]
      exact hend
  | object fields =>
    have hroom : frames.length < depthLimit := by
      unfold depth at hdepth
      omega
    have hopen : Builder.step ⟨frames, expected⟩ .openObject =
        some ⟨.object [] none :: frames, .keyOrEnd⟩ := (Move.openObject hexpected hroom).step_eq
    have hclose (fields : Entries Json) (expected : Expected)
        (h : expected = .keyOrEnd ∨ expected = .commaOrEnd) :
        [Token.closeObject].foldlM Builder.step ⟨.object fields none :: frames, expected⟩ =
          complete frames (object fields) := by
      rw [List.foldlM_cons]
      rcases h with rfl | rfl <;> exact bind_pure (complete frames (object fields))
    unfold tokensOf
    rw [List.foldlM_cons, hopen]
    show List.foldlM Builder.step ⟨.object [] none :: frames, .keyOrEnd⟩ _ = _
    rw [List.foldlM_append]
    by_cases hempty : fields = []
    · subst hempty
      exact hclose [] .keyOrEnd (.inl rfl)
    · have hbelow : frames.length + 1 + depthFields fields ≤ depthLimit := by
        unfold depth at hdepth
        omega
      -- fields with distinct keys are inserted as they are
      have hsame : Entries.insertAll [] fields = fields := Entries.ofList_of_nodup hunique.1
      rw [foldlM_fieldTokens fields hempty hunique.2 hbelow (.inr rfl), hsame]
      exact hclose fields .commaOrEnd (.inr rfl)

/-- The tokens of items put the items into the innermost array. -/
theorem foldlM_itemTokens (items : List Json) {outer : List Frame} {done : List Json}
    {expected : Expected} (hne : items ≠ []) (hunique : UniqueKeysItems items)
    (hdepth : outer.length + 1 + depthItems items ≤ depthLimit)
    (hexpected : expected = .value ∨ expected = .valueOrEnd) :
    (List.intercalate [.comma] (itemTokens items)).foldlM Builder.step
        ⟨.array done :: outer, expected⟩ =
      some ⟨.array (items.reverse ++ done) :: outer, .commaOrEnd⟩ := by
  cases items with
  | nil => exact absurd rfl hne
  | cons v rest =>
    unfold depthItems at hdepth
    have hfirst : (tokensOf v).foldlM Builder.step ⟨.array done :: outer, expected⟩ =
        complete (.array done :: outer) v :=
      foldlM_tokensOf v hunique.1 (by rw [List.length_cons]; omega) hexpected
    unfold itemTokens
    by_cases hrest : rest = []
    · subst hrest
      exact (congrArg (List.foldlM Builder.step _) (List.intercalate_singleton)).trans hfirst
    · rw [List.intercalate_cons_of_ne_nil (itemTokens_ne_nil hrest), List.foldlM_append,
        List.foldlM_append, hfirst]
      have hnext : (List.intercalate [.comma] (itemTokens rest)).foldlM Builder.step
          ⟨.array (v :: done) :: outer, .value⟩ =
          some ⟨.array (rest.reverse ++ v :: done) :: outer, .commaOrEnd⟩ :=
        foldlM_itemTokens rest hrest hunique.2 (by omega) (.inl rfl)
      rw [List.reverse_cons, List.append_assoc, List.singleton_append]
      exact hnext

/-- The tokens of fields insert the fields into the innermost object. -/
theorem foldlM_fieldTokens (fields : List (String × Json)) {outer : List Frame}
    {done : Entries Json} {expected : Expected} (hne : fields ≠ [])
    (hunique : UniqueKeysFields fields)
    (hdepth : outer.length + 1 + depthFields fields ≤ depthLimit)
    (hexpected : expected = .key ∨ expected = .keyOrEnd) :
    (List.intercalate [.comma] (fieldTokens fields)).foldlM Builder.step
        ⟨.object done none :: outer, expected⟩ =
      some ⟨.object (Entries.insertAll done fields) none :: outer, .commaOrEnd⟩ := by
  cases fields with
  | nil => exact absurd rfl hne
  | cons e rest =>
    obtain ⟨k, v⟩ := e
    unfold depthFields at hdepth
    have hkey : Builder.step ⟨.object done none :: outer, expected⟩ (.scalar (.string k)) =
        some ⟨.object done (some k) :: outer, .colon⟩ := (Move.key hexpected).step_eq
    have hvalue : (tokensOf v).foldlM Builder.step ⟨.object done (some k) :: outer, .value⟩ =
        complete (.object done (some k) :: outer) v :=
      foldlM_tokensOf v hunique.1 (by rw [List.length_cons]; omega) (.inl rfl)
    have hfirst : (Token.scalar (.string k) :: .colon :: tokensOf v).foldlM Builder.step
        ⟨.object done none :: outer, expected⟩ =
        some ⟨.object (Entries.insert k v done) none :: outer, .commaOrEnd⟩ := by
      rw [List.foldlM_cons, hkey]
      exact hvalue
    unfold fieldTokens
    by_cases hrest : rest = []
    · subst hrest
      exact (congrArg (List.foldlM Builder.step _) (List.intercalate_singleton)).trans hfirst
    · rw [List.intercalate_cons_of_ne_nil (fieldTokens_ne_nil hrest), List.foldlM_append,
        List.foldlM_append, hfirst]
      have hnext : (List.intercalate [.comma] (fieldTokens rest)).foldlM Builder.step
          ⟨.object (Entries.insert k v done) none :: outer, .key⟩ =
          some ⟨.object (Entries.insertAll (Entries.insert k v done) rest) none :: outer,
            .commaOrEnd⟩ :=
        foldlM_fieldTokens rest hrest hunique.2 (by omega) (.inl rfl)
      exact hnext

end

/-! ## Reading back -/

/-- A printed value without numbers is read back as it was, with or without blanks after
    it. -/
theorem parse?_pretty {v : Json} (hnumberless : v.Numberless) (hunique : v.UniqueKeys)
    (hdepth : v.depth ≤ depthLimit) {after : String} (hafter : Blank after.toList) :
    parse? (v.pretty ++ after) = some v := by
  have htokens := tokens?_append_blank (hasTokens_indented v 0 hnumberless) hafter
  have hempty : ([] : List Frame).length + v.depth ≤ depthLimit := by simpa using hdepth
  have hvalue : (tokensOf v).foldlM Builder.step {} = some ⟨[], .nothing v⟩ :=
    foldlM_tokensOf v hunique hempty (.inl rfl)
  unfold parse? ofTokens?
  rw [String.toList_append]
  show (tokens? ((indented 0 v).toList ++ after.toList) >>= _) = _
  rw [htokens]
  show ((tokensOf v).foldlM Builder.step {} >>= _) = _
  rw [hvalue]
  rfl

end WritePolicy.Json
