import WritePolicy.Proofs.JsonTokens

/-! # The value of a list of tokens

    The builder takes one token at a time. What a token can do is listed once
    (`Builder.Move`), and what is known of whole lists of tokens is read off that list:
    how the open containers change, and how a list looks whose value is an object.

    The tokens of such a list are a brace, the tokens of the members and a brace. Between
    the braces the outermost container is the object all along: it cannot be an array,
    since an open container never becomes one of the other kind, and it cannot be closed
    before the end, since nothing comes after a result.
-/

namespace WritePolicy

namespace Json

/-! ## What a builder does -/

namespace Builder

/-- What one token can do. -/
inductive Move : Builder → Token → Builder → Prop where
  /-- a scalar goes into the innermost container -/
  | scalar {frames : List Frame} {expected : Expected} {v : Json} {b : Builder} :
      expected = .value ∨ expected = .valueOrEnd → complete frames v = some b →
      Move ⟨frames, expected⟩ (.scalar v) b
  | openArray {frames : List Frame} {expected : Expected} :
      expected = .value ∨ expected = .valueOrEnd → frames.length < depthLimit →
      Move ⟨frames, expected⟩ .openArray ⟨.array [] :: frames, .valueOrEnd⟩
  | openObject {frames : List Frame} {expected : Expected} :
      expected = .value ∨ expected = .valueOrEnd → frames.length < depthLimit →
      Move ⟨frames, expected⟩ .openObject ⟨.object [] none :: frames, .keyOrEnd⟩
  /-- a container that ends goes into the one around it -/
  | closeArray {items : List Json} {outer : List Frame} {expected : Expected} {b : Builder} :
      expected = .valueOrEnd ∨ expected = .commaOrEnd →
      complete outer (.array items.reverse) = some b →
      Move ⟨.array items :: outer, expected⟩ .closeArray b
  | closeObject {fields : Entries Json} {outer : List Frame} {expected : Expected} {b : Builder} :
      expected = .keyOrEnd ∨ expected = .commaOrEnd → complete outer (.object fields) = some b →
      Move ⟨.object fields none :: outer, expected⟩ .closeObject b
  | key {fields : Entries Json} {outer : List Frame} {expected : Expected} {k : String} :
      expected = .key ∨ expected = .keyOrEnd →
      Move ⟨.object fields none :: outer, expected⟩ (.scalar (.string k))
        ⟨.object fields (some k) :: outer, .colon⟩
  | colon {frames : List Frame} : Move ⟨frames, .colon⟩ .colon ⟨frames, .value⟩
  | nextItem {items : List Json} {outer : List Frame} :
      Move ⟨.array items :: outer, .commaOrEnd⟩ .comma ⟨.array items :: outer, .value⟩
  | nextField {fields : Entries Json} {owed : Option String} {outer : List Frame} :
      Move ⟨.object fields owed :: outer, .commaOrEnd⟩ .comma ⟨.object fields owed :: outer, .key⟩

variable {frames : List Frame} {expected : Expected} {b b' : Builder} {t : Token} {v : Json}

theorem move_of_value (h : value frames t = some b')
    (hexpected : expected = .value ∨ expected = .valueOrEnd) : Move ⟨frames, expected⟩ t b' := by
  unfold value push at h
  split at h
  · exact .scalar hexpected h
  · split_ifs at h with hdepth
    cases h
    exact .openArray hexpected hdepth
  · split_ifs at h with hdepth
    cases h
    exact .openObject hexpected hdepth
  · cases h

theorem move_of_key (h : key frames t = some b')
    (hexpected : expected = .key ∨ expected = .keyOrEnd) :
    Move ⟨frames, expected⟩ t b' := by
  unfold key at h
  split at h
  · split at h
    · cases h
      exact .key hexpected
    · cases h
  · cases h

/-- A builder does nothing else. -/
theorem move_of_step (h : step b t = some b') : Move b t b' := by
  obtain ⟨frames, expected⟩ := b
  unfold step at h
  cases expected with
  | value => exact move_of_value h (.inl rfl)
  | key => exact move_of_key h (.inl rfl)
  | valueOrEnd =>
    cases t with
    | closeArray =>
      unfold close at h
      dsimp only at h
      split at h
      · exact .closeArray (.inl rfl) h
      · cases h
    | _ => exact move_of_value h (.inr rfl)
  | keyOrEnd =>
    cases t with
    | closeObject =>
      unfold close at h
      dsimp only at h
      split at h
      · exact .closeObject (.inl rfl) h
      · cases h
    | _ => exact move_of_key h (.inr rfl)
  | colon =>
    cases t with
    | colon =>
      cases h
      exact .colon
    | _ => cases h
  | commaOrEnd =>
    cases t with
    | comma =>
      dsimp only at h
      split at h <;> cases h
      · exact .nextItem
      · exact .nextField
    | closeArray =>
      unfold close at h
      dsimp only at h
      split at h
      · exact .closeArray (.inr rfl) h
      · cases h
    | closeObject =>
      unfold close at h
      dsimp only at h
      split at h
      · exact .closeObject (.inr rfl) h
      · cases h
    | _ => cases h
  | nothing result => cases h

/-- A builder does all of this. -/
theorem Move.step_eq (h : Move b t b') : step b t = some b' := by
  cases h with
  | scalar hexpected hcomplete => rcases hexpected with rfl | rfl <;> exact hcomplete
  | openArray hexpected hdepth => rcases hexpected with rfl | rfl <;> exact if_pos hdepth
  | openObject hexpected hdepth => rcases hexpected with rfl | rfl <;> exact if_pos hdepth
  | closeArray hexpected hcomplete => rcases hexpected with rfl | rfl <;> exact hcomplete
  | closeObject hexpected hcomplete => rcases hexpected with rfl | rfl <;> exact hcomplete
  | key hexpected => rcases hexpected with rfl | rfl <;> rfl
  | colon => rfl
  | nextItem => rfl
  | nextField => rfl

/-! ## Open containers -/

/-- Which of the open containers are arrays, innermost first. -/
def shape (frames : List Frame) : List Bool :=
  frames.map fun
    | .array _ => true
    | .object _ _ => false

/-- Nothing is open, and there is a result. -/
def Done (b : Builder) : Prop :=
  b.frames = [] ∧ ∃ v, b.expected = .nothing v

/-- Nothing comes after a result. -/
theorem Done.step_eq (h : b.Done) (t : Token) : step b t = none := by
  obtain ⟨-, v, hv⟩ := h
  unfold step
  rw [hv]

/-- A value that is complete leaves the containers open that are, or it is the result. -/
theorem complete_shape (h : complete frames v = some b') :
    shape b'.frames = shape frames ∧ (frames = [] → b'.Done) := by
  unfold complete at h
  split at h <;> cases h
  · exact ⟨rfl, fun _ => ⟨rfl, v, rfl⟩⟩
  · exact ⟨rfl, nofun⟩
  · exact ⟨rfl, nofun⟩

/-- The outermost container is of a kind, or it is closed and there is a result. -/
def Rooted (array : Bool) (b : Builder) : Prop :=
  b.Done ∨ (shape b.frames).getLast? = some array

theorem rooted_of_complete {array : Bool} (h : complete frames v = some b')
    (hframes : frames ≠ [] → (shape frames).getLast? = some array) : Rooted array b' := by
  obtain ⟨hshape, hdone⟩ := complete_shape h
  by_cases hnil : frames = []
  · exact .inl (hdone hnil)
  · right
    rw [hshape]
    exact hframes hnil

/-- The outermost container stays of its kind until it is closed. -/
theorem step_rooted {array : Bool} (h : Rooted array b) (hstep : step b t = some b') :
    Rooted array b' := by
  rcases h with hdone | hroot
  · rw [hdone.step_eq] at hstep
    cases hstep
  have hbelow (kind : Bool) (outer : List Bool) (hne : outer ≠ [])
      (h : (kind :: outer).getLast? = some array) : outer.getLast? = some array := by
    cases outer with
    | nil => exact absurd rfl hne
    | cons next rest => rwa [List.getLast?_cons_cons] at h
  cases move_of_step hstep with
  | scalar _ hcomplete => exact rooted_of_complete hcomplete fun _ => hroot
  | openArray _ _ =>
    right
    show (true :: shape _).getLast? = some array
    rw [List.getLast?_cons, hroot]
    rfl
  | openObject _ _ =>
    right
    show (false :: shape _).getLast? = some array
    rw [List.getLast?_cons, hroot]
    rfl
  | closeArray _ hcomplete =>
    refine rooted_of_complete hcomplete fun hne => hbelow true _ ?_ hroot
    exact fun hnil => hne (List.map_eq_nil_iff.mp hnil)
  | closeObject _ hcomplete =>
    refine rooted_of_complete hcomplete fun hne => hbelow false _ ?_ hroot
    exact fun hnil => hne (List.map_eq_nil_iff.mp hnil)
  | key _ => exact .inr hroot
  | colon => exact .inr hroot
  | nextItem => exact .inr hroot
  | nextField => exact .inr hroot

/-- An object that may end before its first key is empty. -/
def FreshObject (b : Builder) : Prop :=
  b.expected = .keyOrEnd → ∃ outer, b.frames = .object [] none :: outer

theorem complete_expected (h : complete frames v = some b') : b'.expected ≠ .keyOrEnd := by
  unfold complete at h
  split at h <;> cases h <;> nofun

theorem step_freshObject (hstep : step b t = some b') : b'.FreshObject := by
  intro hexpected
  cases move_of_step hstep with
  | scalar _ hcomplete => exact absurd hexpected (complete_expected hcomplete)
  | closeArray _ hcomplete => exact absurd hexpected (complete_expected hcomplete)
  | closeObject _ hcomplete => exact absurd hexpected (complete_expected hcomplete)
  | openObject _ _ => exact ⟨_, rfl⟩
  | _ => cases hexpected

end Builder

open Builder

/-! ## Objects -/

variable {ts ms : List Token} {fields : Entries Json}

/-- Between the braces of an object, the tokens make the fields. -/
def Makes (ms : List Token) (fields : Entries Json) : Prop :=
  ∃ expected, ms.foldlM Builder.step ⟨[.object [] none], .keyOrEnd⟩ =
      some ⟨[.object fields none], expected⟩ ∧
    (expected = .commaOrEnd ∨ expected = .keyOrEnd ∧ fields = [])

/-- With braces around them, tokens that make fields denote the object with the fields. -/
theorem Makes.ofTokens? (h : Makes ms fields) :
    ofTokens? (.openObject :: ms ++ [.closeObject]) = some (.object fields) := by
  obtain ⟨expected, hrun, hexpected⟩ := h
  have hopen : Builder.step {} .openObject = some ⟨[.object [] none], .keyOrEnd⟩ := rfl
  have hclose : Builder.step ⟨[.object fields none], expected⟩ Token.closeObject =
      some ⟨[], .nothing (.object fields)⟩ := by
    rcases hexpected with rfl | ⟨rfl, -⟩ <;> rfl
  unfold Json.ofTokens?
  rw [List.cons_append, List.foldlM_cons, hopen]
  show (List.foldlM Builder.step _ (ms ++ [Token.closeObject]) >>= _) = _
  rw [List.foldlM_append, hrun]
  show (List.foldlM Builder.step ⟨[.object fields none], expected⟩ [Token.closeObject] >>= _) = _
  rw [List.foldlM_cons, hclose]
  rfl

/-- What step ends with an object. -/
theorem last_of_object {b b' : Builder} {t : Token} (hstep : Builder.step b t = some b')
    (h : b'.expected = .nothing (.object fields)) :
    (t = .scalar (.object fields) ∧ b.frames = []) ∨
      (t = .closeObject ∧ b.frames = [.object fields none] ∧
        (b.expected = .commaOrEnd ∨ b.expected = .keyOrEnd)) := by
  have hresult {frames : List Frame} {v : Json} (hcomplete : complete frames v = some b') :
      frames = [] ∧ v = .object fields := by
    unfold complete at hcomplete
    split at hcomplete <;> cases hcomplete <;> cases h
    exact ⟨rfl, rfl⟩
  cases move_of_step hstep with
  | scalar _ hcomplete =>
    obtain ⟨rfl, rfl⟩ := hresult hcomplete
    exact .inl ⟨rfl, rfl⟩
  | closeArray _ hcomplete => cases (hresult hcomplete).2
  | closeObject hexpected hcomplete =>
    obtain ⟨rfl, hobject⟩ := hresult hcomplete
    cases hobject
    exact .inr ⟨rfl, rfl, hexpected.symm⟩
  | _ => cases h

theorem rooted_of_run {b b' : Builder} {array : Bool} (h : Rooted array b)
    (hrun : ms.foldlM Builder.step b = some b') : Rooted array b' :=
  foldlM_preserves (P := fun _ => True) (fun _ _ _ hb _ => step_rooted hb) h
    (fun _ _ => trivial) hrun

/-- With a result there would be no further step. -/
theorem root_of_step {b b' : Builder} {t : Token} {array : Bool} (h : Rooted array b)
    (hstep : Builder.step b t = some b') : (shape b.frames).getLast? = some array := by
  rcases h with hdone | hroot
  · rw [hdone.step_eq] at hstep
    cases hstep
  · exact hroot

/-- Where a first key or the end is expected, the object is still empty. -/
theorem fields_of_run {b : Builder} (hfirst : b.frames = [.object fields none])
    (hexpected : b.expected = .keyOrEnd)
    (hrun : ms.foldlM Builder.step ⟨[.object [] none], .keyOrEnd⟩ = some b) : fields = [] := by
  have hfresh : b.FreshObject :=
    foldlM_preserves (P := fun _ => True) (fun _ _ _ _ _ => step_freshObject)
      (fun _ => ⟨[], rfl⟩) (fun _ _ => trivial) hrun
  obtain ⟨outer, houter⟩ := hfresh hexpected
  rw [hfirst] at houter
  cases houter
  rfl

/-- Tokens that denote an object are braces around tokens that make its fields. -/
theorem exists_makes (h : ofTokens? ts = some (.object fields))
    (hscalar : ts ≠ [.scalar (.object fields)]) :
    ∃ ms, ts = .openObject :: ms ++ [.closeObject] ∧ Makes ms fields := by
  obtain ⟨last, hlast, h⟩ := Option.bind_eq_some_iff.mp h
  have hresult : last.expected = .nothing (.object fields) := by
    split at h <;> cases h
    assumption
  rcases List.eq_nil_or_concat' ts with rfl | ⟨init, t, rfl⟩
  · cases hlast
    cases hresult
  · rw [List.foldlM_append] at hlast
    obtain ⟨b, hrun, hlast⟩ := Option.bind_eq_some_iff.mp hlast
    rw [List.foldlM_cons] at hlast
    obtain ⟨b', hstep, hlast⟩ := Option.bind_eq_some_iff.mp hlast
    cases hlast
    have hend := last_of_object hstep hresult
    cases init with
    | nil =>
      cases hrun
      rcases hend with ⟨rfl, -⟩ | ⟨-, hframes, -⟩
      · exact absurd rfl hscalar
      · cases hframes
    | cons first ms =>
      rw [List.foldlM_cons] at hrun
      obtain ⟨begun, hfirst, hrun⟩ := Option.bind_eq_some_iff.mp hrun
      -- what is opened first is the only container at the last step
      have hroot {array : Bool} (hbegun : Rooted array begun) :
          (shape b.frames).getLast? = some array :=
        root_of_step (rooted_of_run hbegun hrun) hstep
      cases move_of_step hfirst with
      | scalar _ hcomplete =>
        -- the result would have to be closed in two ways
        have hdone := (complete_shape hcomplete).2 rfl
        have htrue := hroot (.inl hdone : Rooted true begun)
        have hfalse := hroot (.inl hdone : Rooted false begun)
        rw [htrue] at hfalse
        cases hfalse
      | openArray _ _ =>
        have hroot := hroot (.inr rfl)
        rcases hend with ⟨-, hnil⟩ | ⟨-, hobject, -⟩
        · rw [hnil] at hroot
          cases hroot
        · rw [hobject] at hroot
          cases hroot
      | openObject _ _ =>
        have hroot := hroot (.inr rfl)
        rcases hend with ⟨-, hnil⟩ | ⟨rfl, hobject, hexpected⟩
        · rw [hnil] at hroot
          cases hroot
        · refine ⟨ms, rfl, b.expected, ?_, ?_⟩
          · rw [← hobject]
            exact hrun
          · rcases hexpected with hexpected | hexpected
            · exact .inl hexpected
            · exact .inr ⟨hexpected, fields_of_run hobject hexpected hrun⟩

end Json

end WritePolicy
