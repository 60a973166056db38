import WritePolicy.Proofs.JsonBuilder
import WritePolicy.Proofs.OrderedEntries

/-! # Merging definition sets

    A definition set may be written in two files, or in one that lists the members of
    both. To load the one file is to load the two and to insert the definitions of the
    second into the first, in order: a definition that both have stands where the first
    has it and is the one of the second.

    The reader of the one file passes through the members of the first and then goes on
    with an object that is not empty. It is compared with the reader of the second file,
    which starts from an empty object: both hold the same open containers, except that
    the outermost object of the one has the fields of the first file below its own
    (`onto`). That a field goes into both in the same way is the law of insertion into
    merged maps (`Entries.insertAll_insert`).
-/

namespace WritePolicy

namespace Json

namespace Builder

variable {base : Entries Json} {frames outer : List Frame} {frame : Frame} {b b' last : Builder}
  {t : Token} {v : Json} {ts : List Token}

/-! ## Members after other members -/

/-- The open containers, where the outermost object has further fields below its own. -/
def onto (base : Entries Json) : List Frame → List Frame
  | [] => []
  | [.object fields owed] => [.object (Entries.insertAll base fields) owed]
  | frame :: outer => frame :: onto base outer

theorem onto_cons (h : outer ≠ []) : onto base (frame :: outer) = frame :: onto base outer := by
  cases outer with
  | nil => exact absurd rfl h
  | cons _ _ => cases frame <;> rfl

theorem length_onto (frames : List Frame) : (onto base frames).length = frames.length := by
  induction frames with
  | nil => rfl
  | cons frame outer ih =>
    by_cases hnil : outer = []
    · subst hnil
      cases frame <;> rfl
    · rw [onto_cons hnil, List.length_cons, List.length_cons, ih]

/-- A value goes into the innermost container in the same way. -/
theorem complete_onto (hframes : ∀ f ∈ frames, f.UniqueKeys) (hne : frames ≠ [])
    (h : complete frames v = some b') :
    complete (onto base frames) v = some ⟨onto base b'.frames, b'.expected⟩ := by
  cases frames with
  | nil => exact absurd rfl hne
  | cons frame outer =>
    by_cases hnil : outer = []
    · subst hnil
      match frame with
      | .array items =>
        cases h
        rfl
      | .object fields none => cases h
      | .object fields (some k) =>
        cases h
        -- the outermost object has each key once, so the insertion may be put off
        have hnodup : (Entries.keys fields).Nodup :=
          (uniqueKeys_object_iff.mp (hframes _ List.mem_cons_self)).1
        show some (Builder.mk [.object (Entries.insert k v (Entries.insertAll base fields)) none] _) =
          some ⟨[.object (Entries.insertAll base (Entries.insert k v fields)) none], _⟩
        rw [Entries.insertAll_insert hnodup]
    · rw [onto_cons hnil]
      match frame with
      | .array items =>
        cases h
        show some _ = some (Builder.mk (onto base (.array (v :: items) :: outer)) _)
        rw [onto_cons hnil]
      | .object fields none => cases h
      | .object fields (some k) =>
        cases h
        show some _ = some (Builder.mk (onto base (.object (Entries.insert k v fields) none :: outer)) _)
        rw [onto_cons hnil]

/-- Every move that leaves the outermost container open can be made with further fields
    below. -/
theorem Move.onto (base : Entries Json) (h : Move b t b') (hframes : ∀ f ∈ b.frames, f.UniqueKeys)
    (hne : b.frames ≠ []) (hopen : b'.frames ≠ []) :
    Move ⟨onto base b.frames, b.expected⟩ t ⟨onto base b'.frames, b'.expected⟩ := by
  -- a container that ends while another is open goes into that one
  have houter {outer : List Frame} {v : Json} (hcomplete : complete outer v = some b') :
      outer ≠ [] := by
    intro hnil
    exact hopen ((complete_shape hcomplete).2 hnil).1
  cases h with
  | scalar hexpected hcomplete => exact .scalar hexpected (complete_onto hframes hne hcomplete)
  | openArray hexpected hdepth =>
    have hnext : _ ≠ [] := hne
    rw [onto_cons hnext]
    exact .openArray hexpected (by rwa [length_onto])
  | openObject hexpected hdepth =>
    have hnext : _ ≠ [] := hne
    rw [onto_cons hnext]
    exact .openObject hexpected (by rwa [length_onto])
  | closeArray hexpected hcomplete =>
    have hnext := houter hcomplete
    have hrest := (List.forall_mem_cons.mp hframes).2
    rw [onto_cons hnext]
    exact .closeArray hexpected (complete_onto hrest hnext hcomplete)
  | closeObject hexpected hcomplete =>
    have hnext := houter hcomplete
    have hrest := (List.forall_mem_cons.mp hframes).2
    rw [onto_cons hnext]
    exact .closeObject hexpected (complete_onto hrest hnext hcomplete)
  | @key fields outer expected k hexpected =>
    by_cases hnil : outer = []
    · subst hnil
      exact .key hexpected
    · rw [onto_cons hnil, onto_cons hnil]
      exact .key hexpected
  | colon => exact .colon
  | @nextItem items outer =>
    by_cases hnil : outer = []
    · subst hnil
      exact .nextItem
    · rw [onto_cons hnil]
      exact .nextItem
  | @nextField fields owed outer =>
    by_cases hnil : outer = []
    · subst hnil
      exact .nextField
    · rw [onto_cons hnil]
      exact .nextField

/-- After a result there is nothing but the result. -/
theorem done_of_run (hb : b.Done) (h : ts.foldlM step b = some last) : last.Done := by
  refine foldlM_preserves (P := fun _ => True) (fun b t b' hb _ hstep => ?_) hb
    (fun _ _ => trivial) h
  rw [hb.step_eq] at hstep
  cases hstep

/-- A builder runs in the same way with further fields below. -/
theorem run_onto (base : Entries Json) (hunique : b.UniqueKeys) (hts : ∀ t ∈ ts, t.Plain)
    (hne : b.frames ≠ [])
    (hopen : last.frames ≠ []) (h : ts.foldlM step b = some last) :
    ts.foldlM step ⟨onto base b.frames, b.expected⟩ =
      some ⟨onto base last.frames, last.expected⟩ := by
  induction ts generalizing b with
  | nil =>
    cases h
    rfl
  | cons t rest ih =>
    obtain ⟨ht, hrest⟩ := List.forall_mem_cons.mp hts
    rw [List.foldlM_cons] at h
    obtain ⟨next, hstep, h⟩ := Option.bind_eq_some_iff.mp h
    have hnext : next.frames ≠ [] := by
      intro hnil
      -- the outermost container would be closed before the end
      obtain ⟨array, harray⟩ := Option.ne_none_iff_exists'.mp
        (mt List.getLast?_eq_none_iff.mp (mt List.map_eq_nil_iff.mp hne) :
          (shape b.frames).getLast? ≠ none)
      rcases step_rooted (.inr harray) hstep with hdone | hroot
      · exact hopen (done_of_run hdone h).1
      · rw [hnil] at hroot
        cases hroot
    have hmove := (move_of_step hstep).onto base hunique.frames hne hnext
    rw [List.foldlM_cons, hmove.step_eq]
    exact ih (step_uniqueKeys hunique ht hstep) hrest hnext h

end Builder

open Builder

variable {ms ns : List Token} {fields more : Entries Json} {text other : String}
  {members others : List Char}

/-- Members after other members make the fields of both, inserted in order. -/
theorem Makes.append (hm : Makes ms fields) (hn : Makes ns more) (hns : ∀ t ∈ ns, t.Plain)
    (hfields : fields ≠ []) (hmore : more ≠ []) :
    Makes (ms ++ .comma :: ns) (Entries.insertAll fields more) := by
  obtain ⟨_, hm, rfl | ⟨-, hnil⟩⟩ := hm
  swap
  · exact absurd hnil hfields
  obtain ⟨_, hn, rfl | ⟨-, hnil⟩⟩ := hn
  swap
  · exact absurd hnil hmore
  cases ns with
  | nil =>
    cases hn
  | cons first rest =>
    obtain ⟨hfirst, hrest⟩ := List.forall_mem_cons.mp hns
    rw [List.foldlM_cons] at hn
    obtain ⟨begun, hbegun, hafter⟩ := Option.bind_eq_some_iff.mp hn
    cases move_of_step hbegun with
    | scalar hexpected _ => rcases hexpected with h | h <;> cases h
    | openArray hexpected _ => rcases hexpected with h | h <;> cases h
    | openObject hexpected _ => rcases hexpected with h | h <;> cases h
    | closeObject _ hcomplete =>
      have hdone := done_of_run ((complete_shape hcomplete).2 rfl) hafter
      cases hdone.1
    | @key _ _ _ k _ =>
      -- after the first key both readers expect the same
      have hunique : Builder.UniqueKeys ⟨[.object [] (some k)], .colon⟩ :=
        ⟨fun f hf => by cases List.mem_singleton.mp hf; exact Frame.uniqueKeys_object_nil, nofun⟩
      have hrun := run_onto fields hunique hrest (by simp) (by simp) hafter
      refine ⟨_, ?_, .inl rfl⟩
      rw [List.foldlM_append, hm]
      exact hrun

/-! ## Texts -/

/-- A text is an object that lists members, with blanks around it. -/
def HasMembers (text : String) (members : List Char) : Prop :=
  ∃ before after, Blank before ∧ Blank after ∧
    text.toList = before ++ '\x7b' :: members ++ '\x7d' :: after

/-- Every text that denotes an object lists members. -/
theorem exists_hasMembers (h : parse? text = some (.object fields)) :
    ∃ members, HasMembers text members := by
  obtain ⟨ts, hts, h⟩ := Option.bind_eq_some_iff.mp h
  have hscalar : ts ≠ [.scalar (.object fields)] := by
    rintro rfl
    exact tokens?_ne_object fields hts
  obtain ⟨ms, rfl, -⟩ := exists_makes h hscalar
  obtain ⟨before, rest, htext, hbefore⟩ := exists_open hts
  rw [htext, tokens?_blank_append hbefore, tokens?_separator_cons (c := '\x7b') rfl] at hts
  obtain ⟨found, hrest, hfound⟩ := Option.map_eq_some_iff.mp hts
  cases hfound
  obtain ⟨members, after, rfl, hafter⟩ := exists_close hrest
  exact ⟨members, before, after, hbefore, hafter, by rw [htext]; simp⟩

/-- The members of a text that denotes an object make its fields. -/
theorem HasMembers.makes (h : HasMembers text members)
    (hparse : parse? text = some (.object fields)) :
    ∃ ms, tokens? members = some ms ∧ Makes ms fields := by
  obtain ⟨before, after, hbefore, hafter, htext⟩ := h
  obtain ⟨ts, hts, hparse⟩ := Option.bind_eq_some_iff.mp hparse
  have hscalar : ts ≠ [.scalar (.object fields)] := by
    rintro rfl
    exact tokens?_ne_object fields hts
  rw [htext] at hts
  obtain ⟨ms, hms, rfl⟩ := tokens?_of_braces hbefore hafter hts
  obtain ⟨ms', heq, hmakes⟩ := exists_makes hparse hscalar
  have hsame : ms = ms' := by simpa using heq
  exact ⟨ms, hms, hsame ▸ hmakes⟩

/-- A text denotes the object whose fields its members make. -/
theorem HasMembers.parse?_eq (h : HasMembers text members) (hms : tokens? members = some ms)
    (hmakes : Makes ms fields) : parse? text = some (.object fields) := by
  obtain ⟨before, after, hbefore, hafter, htext⟩ := h
  unfold Json.parse?
  rw [htext, tokens?_braces hbefore hafter hms]
  exact hmakes.ofTokens?

/-- A text that lists the members of two objects, neither of which is empty, denotes the
    first with the fields of the second inserted. -/
theorem parse?_of_joined {joined : String} (hmembers : HasMembers text members)
    (hothers : HasMembers other others) (htext : parse? text = some (.object fields))
    (hother : parse? other = some (.object more)) (hfields : fields ≠ []) (hmore : more ≠ [])
    (hjoined : HasMembers joined (members ++ ',' :: others)) :
    parse? joined = some (.object (Entries.insertAll fields more)) := by
  obtain ⟨ms, hms, hmakes⟩ := hmembers.makes htext
  obtain ⟨ns, hns, hmakes'⟩ := hothers.makes hother
  have htokens := tokens?_append_separator (c := ',') rfl hms others
  rw [hns] at htokens
  have hboth := hmakes.append hmakes' (plain_of_tokens? hns) hfields hmore
  refine hjoined.parse?_eq htokens ?_
  simpa using hboth

end Json

/-! ## Definitions -/

namespace Definitions

open Json (HasMembers)

variable {fields more : Entries Json} {read others a b : Definitions} {typeId A B : String}
  {v : Json} {d : Definition}

theorem keys_ofFields (h : ofFields fields = .ok read) :
    Entries.keys read = Entries.keys fields := by
  induction fields generalizing read with
  | nil =>
    cases h
    rfl
  | cons field rest ih =>
    obtain ⟨d, -, h⟩ := bind_eq_ok.mp h
    obtain ⟨found, hfound, h⟩ := bind_eq_ok.mp h
    cases h
    exact congrArg (field.1 :: ·) (ih hfound)

/-- What is inserted into an object is read and inserted into the definitions. -/
theorem ofFields_insert (h : ofFields fields = .ok read) (hd : Definition.ofJson typeId v = .ok d) :
    ofFields (Entries.insert typeId v fields) = .ok (Entries.insert typeId d read) := by
  induction fields generalizing read with
  | nil =>
    cases h
    simp [Entries.insert, ofFields, hd]
    rfl
  | cons field rest ih =>
    obtain ⟨first, hfirst, h⟩ := bind_eq_ok.mp h
    obtain ⟨found, hfound, h⟩ := bind_eq_ok.mp h
    cases h
    by_cases hkey : field.1 = typeId
    · simp [Entries.insert, hkey, ofFields, hd, hfound]
      rfl
    · simp [Entries.insert, hkey, ofFields, hfirst, ih hfound]
      rfl

theorem ofFields_insertAll (h : ofFields fields = .ok read) (hmore : ofFields more = .ok others) :
    ofFields (Entries.insertAll fields more) = .ok (Entries.insertAll read others) := by
  induction more generalizing fields read others with
  | nil =>
    cases hmore
    exact h
  | cons field rest ih =>
    obtain ⟨d, hd, hmore⟩ := bind_eq_ok.mp hmore
    obtain ⟨found, hfound, hmore⟩ := bind_eq_ok.mp hmore
    cases hmore
    show ofFields (Entries.insertAll (Entries.insert field.1 field.2 fields) rest) =
      .ok (Entries.insertAll (Entries.insert field.1 d read) found)
    exact ih (ofFields_insert h hd) hfound

/-- A set that is loaded is read field by field from an object that has each key once. -/
theorem fields_of_ofJsonText {text : String} (h : ofJsonText text = .ok a) :
    ∃ fields, Json.parse? text = some (.object fields) ∧ (Entries.keys fields).Nodup ∧
      ofFields fields = .ok a := by
  unfold ofJsonText at h
  cases hv : Json.parse? text with
  | none =>
    rw [hv] at h
    cases h
  | some v =>
    rw [hv] at h
    obtain ⟨fields, read, rfl, hread, rfl⟩ := ofFields_of_ofJson h
    have hnodup : (Entries.keys fields).Nodup :=
      (Json.uniqueKeys_object_iff.mp (Json.uniqueKeys_of_parse? hv)).1
    have hsame : Entries.ofList read = read :=
      Entries.ofList_of_nodup (by rw [keys_ofFields hread]; exact hnodup)
    exact ⟨fields, rfl, hnodup, by rw [hsame]; exact hread⟩

theorem ofJsonText_of_fields {text : String} (h : Json.parse? text = some (.object fields))
    (hnodup : (Entries.keys fields).Nodup) (hread : ofFields fields = .ok read) :
    ofJsonText text = .ok read := by
  have hsame : Entries.ofList read = read :=
    Entries.ofList_of_nodup (by rw [keys_ofFields hread]; exact hnodup)
  unfold ofJsonText
  rw [h]
  show (ofFields fields >>= fun read => pure (Entries.ofList read)) = _
  rw [hread]
  exact congrArg Except.ok hsame

/-- The members of two definition files, with a comma between them if both have any. -/
def joinedMembers (a : Definitions) (members : List Char) (b : Definitions)
    (others : List Char) : List Char :=
  if a.isEmpty then others else if b.isEmpty then members else members ++ ',' :: others

/-- A file that lists the members of two others is loaded as the first with the
    definitions of the second inserted. -/
theorem ofJsonText_joined {members others : List Char} {joined : String}
    (hA : ofJsonText A = .ok a) (hB : ofJsonText B = .ok b) (hm : HasMembers A members)
    (hn : HasMembers B others) (hjoined : HasMembers joined (joinedMembers a members b others)) :
    ofJsonText joined = .ok (Entries.insertAll a b) := by
  obtain ⟨fields, hparse, hnodup, hread⟩ := fields_of_ofJsonText hA
  obtain ⟨more, hparse', hnodup', hread'⟩ := fields_of_ofJsonText hB
  unfold joinedMembers at hjoined
  by_cases ha : a = []
  · -- the one file lists the members of the second
    subst ha
    obtain ⟨ns, hns, hmakes⟩ := hn.makes hparse'
    have hkeys : (Entries.keys b).Nodup := by
      rw [keys_ofFields hread']
      exact hnodup'
    have hsame : Entries.insertAll [] b = b := Entries.ofList_of_nodup hkeys
    rw [hsame]
    exact ofJsonText_of_fields (hjoined.parse?_eq hns hmakes) hnodup' hread'
  · rw [if_neg (by simpa using ha)] at hjoined
    by_cases hb : b = []
    · subst hb
      obtain ⟨ms, hms, hmakes⟩ := hm.makes hparse
      exact ofJsonText_of_fields (hjoined.parse?_eq hms hmakes) hnodup hread
    · rw [if_neg (by simpa using hb)] at hjoined
      have hfields : fields ≠ [] := by
        rintro rfl
        cases hread
        exact ha rfl
      have hmore : more ≠ [] := by
        rintro rfl
        cases hread'
        exact hb rfl
      exact ofJsonText_of_fields
        (Json.parse?_of_joined hm hn hparse hparse' hfields hmore hjoined)
        (Entries.nodup_keys_insertAll hnodup) (ofFields_insertAll hread hread')

/-- **Definition sets are ordered maps, and merging them agrees with loading.** Insertions
    one after the other make an ordered map, of definitions as of validators; a file that
    lists the members of two files is loaded as the merged set; and a set that is inserted
    into itself stays as it is. -/
theorem ordered_maps_merge :
    (∀ {α : Type} (pairs : List (String × α)), Entries.Keeps pairs (Entries.ofList pairs)) ∧
    (∀ (A B : String) (a b : Definitions), ofJsonText A = .ok a → ofJsonText B = .ok b →
      (∃ members, HasMembers A members) ∧ (∃ others, HasMembers B others) ∧
      ∀ members others joined, HasMembers A members → HasMembers B others →
        HasMembers joined (joinedMembers a members b others) →
        ofJsonText joined = .ok (Entries.insertAll a b)) ∧
    (∀ {α : Type} (pairs : List (String × α)),
      Entries.insertAll (Entries.ofList pairs) (Entries.ofList pairs) = Entries.ofList pairs) := by
  refine ⟨Entries.keeps_ofList, ?_, ?_⟩
  · intro A B a b hA hB
    obtain ⟨fields, hparse, -⟩ := fields_of_ofJsonText hA
    obtain ⟨more, hparse', -⟩ := fields_of_ofJsonText hB
    refine ⟨Json.exists_hasMembers hparse, Json.exists_hasMembers hparse', ?_⟩
    intro members others joined hm hn hjoined
    exact ofJsonText_joined hA hB hm hn hjoined
  · intro α pairs
    exact Entries.insertAll_of_mem (Entries.keeps_ofList pairs).distinct fun _ he => he

/-! ### The files of an office -/

/-- The compact text of an object lists its members. -/
theorem hasMembers_compact (fields : List (String × Json)) :
    HasMembers (Json.object fields).compact
      (List.intercalate [','] (Json.compactFieldChars fields)) := by
  refine ⟨[], [], nofun, nofun, ?_⟩
  rw [Json.toList_compact]
  rfl

/-- Memos and notes of the desk. -/
def deskMembers : List (String × Json) :=
  [("memo", .object [("channels", .string "desk")]),
    ("note", .object [("channels", .string "desk")])]

/-- Notes of the archive, which stay as they are, and pages. -/
def archiveMembers : List (String × Json) :=
  [("note", .object [("channels", .string "archive"), ("immutable", .bool true)]),
    ("page", .object [])]

/-- In one file for both, notes stand between memos and pages and are those of the
    archive. -/
theorem ordered_maps_merge_office :
    ∃ a b, ofJsonText (Json.object deskMembers).compact = .ok a ∧
      ofJsonText (Json.object archiveMembers).compact = .ok b ∧
      Entries.keys (Entries.insertAll a b) = ["memo", "note", "page"] ∧
      (Entries.get? "note" (Entries.insertAll a b)).map (·.immutable.literal?) = some (some true) ∧
      ofJsonText (Json.object (deskMembers ++ archiveMembers)).compact =
        .ok (Entries.insertAll a b) := by
  have hcompute : ((Definitions.parse .json (Json.object deskMembers).compact).toOption.bind
      fun a => (Definitions.parse .json (Json.object archiveMembers).compact).toOption.map
      fun b => (a.isEmpty, b.isEmpty, Entries.keys (Entries.insertAll a b),
        (Entries.get? "note" (Entries.insertAll a b)).map (·.immutable.literal?))) =
      some (false, false, ["memo", "note", "page"], some (some true)) := by
    rw [parse_compact, parse_compact]
    decide +kernel
  obtain ⟨a, ha, hcompute⟩ := Option.bind_eq_some_iff.mp hcompute
  obtain ⟨b, hb, hcompute⟩ := Option.map_eq_some_iff.mp hcompute
  simp only [Prod.mk.injEq] at hcompute
  obtain ⟨hsome, hsome', hkeys, hnote⟩ := hcompute
  have ha : ofJsonText (Json.object deskMembers).compact = .ok a := ok_of_toOption ha
  have hb : ofJsonText (Json.object archiveMembers).compact = .ok b := ok_of_toOption hb
  have hmembers : List.intercalate [','] (Json.compactFieldChars (deskMembers ++ archiveMembers)) =
      List.intercalate [','] (Json.compactFieldChars deskMembers) ++
        ',' :: List.intercalate [','] (Json.compactFieldChars archiveMembers) := by
    decide +kernel
  have hjoined : HasMembers (Json.object (deskMembers ++ archiveMembers)).compact
      (joinedMembers a (List.intercalate [','] (Json.compactFieldChars deskMembers)) b
        (List.intercalate [','] (Json.compactFieldChars archiveMembers))) := by
    unfold joinedMembers
    rw [hsome, hsome', ← hmembers]
    exact hasMembers_compact _
  obtain ⟨_, _, hmerge⟩ := ordered_maps_merge.2.1 _ _ a b ha hb
  exact ⟨a, b, ha, hb, hkeys, hnote, hmerge _ _ _ (hasMembers_compact _) (hasMembers_compact _) hjoined⟩

end Definitions

end WritePolicy
