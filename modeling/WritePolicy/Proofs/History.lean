import WritePolicy.Proofs.DecisionTable

/-! # Histories of a document

    A history is a run of accepted writes: each is decided on the revision that
    was accepted before it, and none is there at first. Which definition governs
    a write is found anew each time, so a document may change hands.

    A filter looks at two things only: the type that the document pair names and
    the identifier. The identifier stays. The type that a pair names stays as
    long as replacements keep the `type` property; a replacement that changes it
    names no type at all, and is left to the filters by identifier. So a live
    document stays with its definition while its type is kept, and otherwise
    changes hands exactly if the two filters are of different kinds.
-/

namespace WritePolicy

/-! ## Runs of writes -/

/-- The revision that a run leaves, if there was a write. -/
def stored (writes : List (Request × Acceptance)) : Option Document :=
  writes.head?.map (·.1.proposed)

/-- A run of accepted writes, the last one first. -/
inductive Run (definitions : Definitions) (options : Options) :
    List (Request × Acceptance) → Prop where
  | start : Run definitions options []
  | write {past : List (Request × Acceptance)} {r : Request} {a : Acceptance} :
      Run definitions options past → r.oldDoc = stored past →
      (definitions.decide options r).outcome = .ok a →
      Run definitions options ((r, a) :: past)

/-- A request writes a revision of the document with an identifier. A deleted
    revision may omit it. -/
def Request.Carries (r : Request) (id : String) : Prop :=
  r.proposed.id? = some id ∨ r.proposed.Tombstone ∧ r.proposed.get? "_id" = none

/-- The request does not replace a document by one that names another type. -/
def Request.KeepsType (r : Request) : Prop :=
  ∀ old, r.prior = some old → ¬ r.proposed.Tombstone →
    r.proposed.typeName? = old.typeName?

namespace Run

variable {definitions : Definitions} {options : Options}
  {past : List (Request × Acceptance)} {r r' : Request} {a a' : Acceptance}

/-- Every write of a run was accepted. -/
theorem accepted (h : Run definitions options ((r, a) :: past)) :
    (definitions.decide options r).outcome = .ok a := by
  cases h with
  | write _ _ ha => exact ha

/-- A run without its last write is a run. -/
theorem tail (h : Run definitions options ((r, a) :: past)) : Run definitions options past := by
  cases h with
  | write hpast _ _ => exact hpast

/-- A live revision is the prior document of the next write. -/
theorem prior_eq (h : Run definitions options ((r', a') :: (r, a) :: past))
    (hlive : ¬ r.proposed.Tombstone) : r'.prior = some r.proposed := by
  cases h with
  | write _ hstored _ => exact (r'.prior_eq_some_iff _).mpr ⟨hstored, hlive⟩

end Run

/-! ## What a filter looks at -/

/-- A live document pair names the type of the new document, or none. -/
theorem governingType?_of_live {newDoc : Document} (oldDoc : Option Document)
    (hlive : ¬ newDoc.Tombstone) :
    governingType? newDoc oldDoc = newDoc.typeName? ∨ governingType? newDoc oldDoc = none := by
  unfold governingType?
  cases oldDoc with
  | none => exact .inl rfl
  | some old =>
    by_cases hsame : newDoc.typeName? = old.typeName?
    · left
      simp [hsame]
    · right
      have hdel : newDoc.isDeleted = false := by
        rw [← Bool.not_eq_true, newDoc.isDeleted_iff]
        exact hlive
      simp [hsame, hdel]

/-- A pair with a prior document names the type of that document, or none. -/
theorem governingType?_of_prior (newDoc old : Document) :
    governingType? newDoc (some old) = old.typeName? ∨
      governingType? newDoc (some old) = none := by
  unfold governingType?
  by_cases h : (newDoc.isDeleted || newDoc.typeName? == old.typeName?) = true
  · exact .inl (if_pos h)
  · exact .inr (if_neg h)

namespace Request.KeepsType

variable {r : Request}

/-- A live write that keeps the type names that of the new document. -/
theorem governingType?_eq (h : r.KeepsType) (hlive : ¬ r.proposed.Tombstone) :
    governingType? r.proposed r.prior = r.proposed.typeName? := by
  unfold governingType?
  cases hprior : r.prior with
  | none => rfl
  | some old =>
    have hsame := h old hprior hlive
    simp [hsame]

/-- A write that keeps the type names that of the prior document. -/
theorem governingType?_prior_eq (h : r.KeepsType) {old : Document} (hprior : r.prior = some old) :
    governingType? r.proposed r.prior = old.typeName? := by
  rw [hprior]
  unfold governingType?
  by_cases hdel : r.proposed.isDeleted = true
  · simp [hdel]
  · have hsame := h old hprior fun htomb => hdel (r.proposed.isDeleted_iff.mpr htomb)
    simp [hsame]

end Request.KeepsType

/-- A static definition that is not simple goes by the identifier. -/
theorem Definition.Static.eq_idPattern {d : Definition} (hd : d.Static)
    (h : d.typeFilter ≠ .simple) : ∃ p, d.typeFilter = .idPattern p := by
  cases hfilter : d.typeFilter with
  | simple => exact absurd hfilter h
  | idPattern p => exact ⟨p, rfl⟩
  | custom f => exact absurd hfilter (hd.typeFilter f)

namespace Definitions

variable {definitions : Definitions} {docType docType' : String} {d d' : Definition}
  {new new' : Document} {old old' : Option Document}

/-- Two definitions that govern one pair each, and accept the pair of the other,
    are the same. -/
theorem Governs.eq_of_accepts (h : definitions.Governs docType d new old)
    (h' : definitions.Governs docType' d' new' old')
    (hother : d'.typeFilter.accepts docType' new old = true)
    (hother' : d.typeFilter.accepts docType new' old' = true) :
    docType = docType' ∧ d = d' := by
  obtain ⟨before, after, hsplit, _, hbefore⟩ := h
  obtain ⟨before', after', hsplit', _, hbefore'⟩ := h'
  -- neither stands before the other
  rcases List.append_eq_append_iff.mp (hsplit.symm.trans hsplit') with
    ⟨between, hmid, hrest⟩ | ⟨between, hmid, hrest⟩
  · cases between with
    | nil =>
      cases hrest
      exact ⟨rfl, rfl⟩
    | cons e rest =>
      cases hrest
      have hrefused := hbefore' (docType, d) (hmid ▸ List.mem_append_right _ List.mem_cons_self)
      rw [hother'] at hrefused
      cases hrefused
  · cases between with
    | nil =>
      cases hrest
      exact ⟨rfl, rfl⟩
    | cons e rest =>
      cases hrest
      have hrefused := hbefore (docType', d') (hmid ▸ List.mem_append_right _ List.mem_cons_self)
      rw [hother] at hrefused
      cases hrefused

/-- Names tell loaded definitions apart. -/
theorem Governs.eq_of_docType_eq (h : definitions.Governs docType d new old)
    (h' : definitions.Governs docType d' new' old')
    (hnodup : (Entries.keys definitions).Nodup) : d = d' := by
  have hsame := (Entries.get?_of_mem hnodup h.mem).symm.trans (Entries.get?_of_mem hnodup h'.mem)
  exact Option.some.inj hsame

end Definitions

/-! ## One write after another -/

/-- A live revision carries the identifier itself. -/
theorem Request.Carries.id?_eq {r : Request} {id : String} (h : r.Carries id)
    (hlive : ¬ r.proposed.Tombstone) : r.proposed.id? = some id := by
  rcases h with h | ⟨htomb, _⟩
  · exact h
  · exact absurd htomb hlive

/-- The next write after a live revision names the same identifier. -/
theorem Request.Carries.governingId?_eq {r : Request} {id : String} (h : r.Carries id)
    {old : Document} (hprior : r.prior = some old) (hold : old.id? = some id) :
    governingId? r.proposed r.prior = some id := by
  unfold governingId?
  rw [hprior, Option.bind_some, hold]
  rcases h with h | ⟨_, hnone⟩
  · rw [h]
    rfl
  · unfold Document.id?
    rw [hnone]
    rfl

/-- Two writes of a document that follow one another: the first leaves a live
    revision, the second is decided on it, and both were accepted. -/
structure Follows (definitions : Definitions) (options : Options) (id : String)
    (r r' : Request) (a a' : Acceptance) : Prop where
  accepted : (definitions.decide options r).outcome = .ok a
  accepted' : (definitions.decide options r').outcome = .ok a'
  live : ¬ r.proposed.Tombstone
  prior : r'.prior = some r.proposed
  carries : r.Carries id
  carries' : r'.Carries id

namespace Follows

variable {definitions : Definitions} {options : Options} {id : String} {r r' : Request}
  {a a' : Acceptance} {docType docType' : String} {d d' : Definition}

/-- Both document pairs name the identifier. -/
theorem governingId?_eq (h : Follows definitions options id r r' a a') :
    governingId? r.proposed r.prior = some id ∧ governingId? r'.proposed r'.prior = some id := by
  have hid := h.carries.id?_eq h.live
  refine ⟨?_, h.carries'.governingId?_eq h.prior hid⟩
  unfold governingId?
  rw [hid]
  rfl

/-- A definition that goes by the identifier accepts both pairs or neither. -/
theorem idPattern_accepts (h : Follows definitions options id r r' a a') (p : Pattern)
    (name : String) :
    (TypeFilter.idPattern p).accepts name r'.proposed r'.prior =
      (TypeFilter.idPattern p).accepts name r.proposed r.prior := by
  obtain ⟨hid, hid'⟩ := h.governingId?_eq
  unfold TypeFilter.accepts
  rw [hid, hid']

/-- While the type is kept, the definition that governs stays the same. -/
theorem governs_of_keepsType (h : Follows definitions options id r r' a a')
    (hstatic : definitions.Static) (hkeeps : r.KeepsType) (hkeeps' : r'.KeepsType)
    (hgov : definitions.Governs docType d r.proposed r.prior) :
    definitions.Governs docType d r'.proposed r'.prior := by
  have htype : governingType? r.proposed r.prior = governingType? r'.proposed r'.prior := by
    rw [hkeeps.governingType?_eq h.live, hkeeps'.governingType?_prior_eq h.prior]
  obtain ⟨hid, hid'⟩ := h.governingId?_eq
  exact hgov.congr hstatic htype (hid.trans hid'.symm)

/-- A simple definition that governs goes by the type of the revision. -/
theorem typeName?_of_simple (h : Follows definitions options id r r' a a')
    (hgov : definitions.Governs docType d r.proposed r.prior) (hsimple : d.typeFilter = .simple) :
    r.proposed.typeName? = some docType := by
  have haccepts := hgov.accepts
  rw [hsimple] at haccepts
  have hnamed : governingType? r.proposed r.prior = some docType := eq_of_beq haccepts
  rcases governingType?_of_live r.prior h.live with htype | htype
  · rw [← htype, hnamed]
  · rw [htype] at hnamed
    cases hnamed

/-- A simple definition that governs the next write goes by the type of the
    revision before it. -/
theorem typeName?_of_simple' (h : Follows definitions options id r r' a a')
    (hgov : definitions.Governs docType d r'.proposed r'.prior)
    (hsimple : d.typeFilter = .simple) : r.proposed.typeName? = some docType := by
  have haccepts := hgov.accepts
  rw [hsimple, h.prior] at haccepts
  have hnamed : governingType? r'.proposed (some r.proposed) = some docType :=
    eq_of_beq haccepts
  rcases governingType?_of_prior r'.proposed r.proposed with htype | htype
  · rw [← htype, hnamed]
  · rw [htype] at hnamed
    cases hnamed

/-- The next write is governed by some definition. -/
theorem exists_governs (h : Follows definitions options id r r' a a')
    (hstatic : definitions.Static) (hgov : definitions.Governs docType d r.proposed r.prior) :
    ∃ docType' d', definitions.Governs docType' d' r'.proposed r'.prior := by
  rcases definitions.governs_or_ungoverned r'.proposed r'.prior with hgov' | hnone
  · exact hgov'
  · exfalso
    -- only a deletion is accepted without a definition, and the one before accepts it
    have hdel : r'.proposed.isDeleted = true := by
      have haccepted := h.accepted'
      rw [Definitions.decide_of_ungoverned options hnone] at haccepted
      unfold Decision.ungoverned at haccepted
      split at haccepted
      · rename_i hallowed
        rw [Bool.and_eq_true, Bool.and_eq_true] at hallowed
        exact hallowed.1.1
      · cases haccepted
    have hrefused : d.typeFilter.accepts docType r'.proposed r'.prior = false :=
      hnone _ hgov.mem
    cases hfilter : d.typeFilter with
    | simple =>
      have htype := h.typeName?_of_simple hgov hfilter
      rw [hfilter, h.prior] at hrefused
      simp [TypeFilter.accepts, governingType?, hdel, htype] at hrefused
    | idPattern p =>
      have haccepts := hgov.accepts
      rw [hfilter] at hrefused haccepts
      rw [h.idPattern_accepts p docType, haccepts] at hrefused
      cases hrefused
    | custom f => exact (hstatic _ hgov.mem).typeFilter f hfilter

/-- Filters of the same kind govern both writes under the same name. -/
theorem docType_eq_of_same_kind (h : Follows definitions options id r r' a a')
    (hstatic : definitions.Static) (hgov : definitions.Governs docType d r.proposed r.prior)
    (hgov' : definitions.Governs docType' d' r'.proposed r'.prior)
    (hkind : d.typeFilter = .simple ↔ d'.typeFilter = .simple) : docType' = docType := by
  -- simple filters go by the type of the revision between the two writes, filters by
  -- identifier accept both pairs
  by_cases hsimple : d.typeFilter = .simple
  · have htype := h.typeName?_of_simple hgov hsimple
    have htype' := h.typeName?_of_simple' hgov' (hkind.mp hsimple)
    rw [htype] at htype'
    exact (Option.some.inj htype').symm
  · have hsimple' : d'.typeFilter ≠ .simple := fun h' => hsimple (hkind.mpr h')
    obtain ⟨p, hp⟩ := (hstatic _ hgov.mem).eq_idPattern hsimple
    obtain ⟨p', hp'⟩ := (hstatic _ hgov'.mem).eq_idPattern hsimple'
    have hother : d'.typeFilter.accepts docType' r.proposed r.prior = true := by
      rw [hp', ← h.idPattern_accepts, ← hp']
      exact hgov'.accepts
    have hother' : d.typeFilter.accepts docType r'.proposed r'.prior = true := by
      rw [hp, h.idPattern_accepts, ← hp]
      exact hgov.accepts
    exact (hgov.eq_of_accepts hgov' hother hother').1.symm

/-- After a revision under an immutable definition, only a write that changes
    the type is accepted. -/
theorem not_keepsType_of_immutable (h : Follows definitions options id r r' a a')
    (hstatic : definitions.Static) (hgov : definitions.Governs docType d r.proposed r.prior)
    (himmutable : d.immutable = .literal true) : ¬ r'.KeepsType := by
  intro hkeeps'
  obtain ⟨hfirst, _⟩ := hgov.accepts_of_accepted hstatic h.accepted
  -- the revision itself did not replace another
  have hnone : r.prior = none := by
    cases hprior : r.prior with
    | none => rfl
    | some old =>
      have hopen := (hfirst.revision (show r.prior ≠ none by rw [hprior]; nofun)).1
      rw [himmutable] at hopen
      cases hopen
  have hkeeps : r.KeepsType := by
    intro old hold
    rw [hnone] at hold
    cases hold
  have hgov' := h.governs_of_keepsType hstatic hkeeps hkeeps' hgov
  obtain ⟨hnext, _⟩ := hgov'.accepts_of_accepted hstatic h.accepted'
  have hopen := (hnext.revision (show r'.prior ≠ none by rw [h.prior]; nofun)).1
  rw [himmutable] at hopen
  cases hopen

end Follows

/-! ## Along a run -/

section Histories

variable {definitions : Definitions} {options : Options} {id : String}
  {past later : List (Request × Acceptance)} {r r' : Request} {a a' : Acceptance}
  {docType : String} {d : Definition}

/-- Writes of a run follow one another where the first leaves a live revision. -/
theorem Run.follows (h : Run definitions options ((r', a') :: (r, a) :: past))
    (hid : ∀ w ∈ (r', a') :: (r, a) :: past, w.1.Carries id)
    (hlive : ¬ r.proposed.Tombstone) : Follows definitions options id r r' a a' where
  accepted := h.tail.accepted
  accepted' := h.accepted
  live := hlive
  prior := h.prior_eq hlive
  carries := hid _ (List.mem_cons_of_mem _ List.mem_cons_self)
  carries' := hid _ List.mem_cons_self

/-- While a document lives and its type is kept, one definition governs every
    write, however many there are. -/
theorem Run.governs_throughout (h : Run definitions options (later ++ (r, a) :: past))
    (hstatic : definitions.Static)
    (hid : ∀ w ∈ later ++ (r, a) :: past, w.1.Carries id)
    (hkeeps : ∀ w ∈ later ++ [(r, a)], w.1.KeepsType)
    (hlive : ∀ w ∈ (later ++ [(r, a)]).tail, ¬ w.1.proposed.Tombstone)
    (hgov : definitions.Governs docType d r.proposed r.prior) :
    ∀ w ∈ later ++ [(r, a)], definitions.Governs docType d w.1.proposed w.1.prior := by
  -- the induction goes back in time: the last write is governed like the one before it
  induction later with
  | nil =>
    intro w hw
    cases List.mem_singleton.mp hw
    exact hgov
  | cons last earlier ih =>
    have hearlier : ∀ w ∈ earlier ++ [(r, a)],
        definitions.Governs docType d w.1.proposed w.1.prior := by
      refine ih h.tail (fun w hw => hid w (List.mem_cons_of_mem _ hw))
        (fun w hw => hkeeps w (List.mem_cons_of_mem _ hw)) fun w hw => ?_
      exact hlive w (List.mem_of_mem_tail hw)
    intro w hw
    rcases List.mem_cons.mp hw with rfl | hw
    · -- the write before the last one is the first, or one of those in between
      obtain ⟨before, rest, hsplit, hbefore⟩ :
          ∃ before rest, earlier ++ (r, a) :: past = before :: rest ∧
            before ∈ earlier ++ [(r, a)] := by
        cases earlier with
        | nil => exact ⟨_, _, rfl, List.mem_cons_self⟩
        | cons first others => exact ⟨_, _, rfl, List.mem_cons_self⟩
      rw [List.cons_append, hsplit] at h hid
      have hfollows := h.follows hid (hlive before hbefore)
      exact hfollows.governs_of_keepsType hstatic
        (hkeeps before (List.mem_cons_of_mem _ hbefore)) (hkeeps _ List.mem_cons_self)
        (hearlier before hbefore)
    · exact hearlier w hw

/-- The next write on a live revision is accepted under the same type exactly if
    the filters of the two definitions are of the same kind. They are if both
    writes keep the type of what they replace; and after a revision under an
    immutable definition only a write that does not keep it is accepted. -/
theorem next_docType_eq_iff {format : Format} {text : String}
    (hload : Definitions.parse format text = .ok definitions)
    (hrun : Run definitions options ((r', a') :: (r, a) :: past))
    (hid : ∀ w ∈ (r', a') :: (r, a) :: past, w.1.Carries id)
    (hlive : ¬ r.proposed.Tombstone) (htype : a.docType = some docType) :
    ∃ d docType' d', definitions.Governs docType d r.proposed r.prior ∧
      definitions.Governs docType' d' r'.proposed r'.prior ∧ a'.docType = some docType' ∧
      (docType' = docType ↔ (d.typeFilter = .simple ↔ d'.typeFilter = .simple)) ∧
      (r.KeepsType → r'.KeepsType → docType' = docType) ∧
      (d.immutable = .literal true → ¬ r'.KeepsType) := by
  have hstatic := Definitions.parse_static hload
  have hnodup := Definitions.nodup_keys_of_parse hload
  have hfollows := hrun.follows hid hlive
  obtain ⟨d, hgov, _⟩ :=
    (Definitions.accepted_iff hstatic options r docType).mp ⟨a, hfollows.accepted, htype⟩
  obtain ⟨docType', d', hgov'⟩ := hfollows.exists_governs hstatic hgov
  obtain ⟨_, htype', _⟩ := hgov'.accepts_of_accepted hstatic hfollows.accepted'
  refine ⟨d, docType', d', hgov, hgov', htype', ⟨?_, ?_⟩, ?_, ?_⟩
  · rintro rfl
    rw [hgov.eq_of_docType_eq hgov' hnodup]
  · exact hfollows.docType_eq_of_same_kind hstatic hgov hgov'
  · intro hkeeps hkeeps'
    have hsame := hfollows.governs_of_keepsType hstatic hkeeps hkeeps' hgov
    exact (hgov'.unique hsame).1
  · exact hfollows.not_keepsType_of_immutable hstatic hgov

end Histories

/-- Memos, which may not change, go by their type; what is numbered and is no memo
    goes by its identifier. -/
def deskText : String :=
  let anything (more : String × Json) : Json :=
    .object [more, ("channels", .string "desk"), ("allowUnknownProperties", .bool true)]
  (Json.object [
    ("memo", anything ("immutable", .bool true)),
    ("numbered", anything ("typeFilter", .object [("idPattern", .string "n.*")]))]).compact

/-- A revision of a numbered document. -/
def deskDocument (type text : String) : Document :=
  ⟨[("_id", .string "n7"), ("type", .string type), ("text", .string text)], []⟩

/-- A write through the channel of the desk. -/
def deskWrite (newDoc : Document) (oldDoc : Option Document) : Request :=
  { newDoc := some newDoc, oldDoc, context := { principal := { channels := ["desk"] } } }

/-- An acceptance of a write through the channel of the desk. -/
def deskAcceptance (docType : String) (operation : Operation) : Acceptance :=
  ⟨some docType, operation, ["desk"], ["desk"]⟩

/-- A letter is added and replaced. -/
def letterRun : List (Request × Acceptance) :=
  [(deskWrite (deskDocument "letter" "b") (some (deskDocument "letter" "a")),
      deskAcceptance "numbered" .replace),
    (deskWrite (deskDocument "letter" "a") none, deskAcceptance "numbered" .add)]

/-- A memo is added and replaced by a letter. -/
def memoRun : List (Request × Acceptance) :=
  [(deskWrite (deskDocument "letter" "b") (some (deskDocument "memo" "a")),
      deskAcceptance "numbered" .replace),
    (deskWrite (deskDocument "memo" "a") none, deskAcceptance "memo" .add)]

/-- Both runs are accepted, although memos are immutable. -/
theorem desk_runs :
    ∃ definitions d, Definitions.parse .json deskText = .ok definitions ∧
      Run definitions {} letterRun ∧ Run definitions {} memoRun ∧
      definitions.Governs "memo" d (deskDocument "memo" "a") none ∧
      d.immutable = .literal true := by
  have hrun : ((Definitions.parse .json deskText).toOption.bind fun definitions =>
      (definitions.identify (deskDocument "memo" "a") none).map fun e =>
        (e.1, e.2.immutable.literal?,
          decide (∀ w ∈ letterRun ++ memoRun,
            (definitions.decide {} w.1).outcome.toOption = some w.2))) =
      some ("memo", some true, true) := by
    have htext : deskText = Json.compact _ := rfl
    rw [htext, Definitions.parse_compact]
    decide +kernel
  obtain ⟨definitions, hload, hrun⟩ := Option.bind_eq_some_iff.mp hrun
  obtain ⟨⟨docType, d⟩, hidentify, hrun⟩ := Option.map_eq_some_iff.mp hrun
  obtain ⟨rfl, hrun⟩ := Prod.mk.inj hrun
  obtain ⟨himmutable, haccepted⟩ := Prod.mk.inj hrun
  have hall : ∀ w ∈ letterRun ++ memoRun, (definitions.decide {} w.1).outcome = .ok w.2 :=
    fun w hw => ok_of_toOption (of_decide_eq_true haccepted w hw)
  have hletter := fun w hw => hall w (List.mem_append_left memoRun hw)
  have hmemo := fun w hw => hall w (List.mem_append_right letterRun hw)
  refine ⟨definitions, d, ok_of_toOption hload, ?_, ?_,
    Definitions.identify_eq_some_iff.mp hidentify, Slot.literal?_eq_some.mp himmutable⟩
  · exact .write (.write .start rfl (hletter _ (List.mem_cons_of_mem _ List.mem_cons_self))) rfl
      (hletter _ List.mem_cons_self)
  · exact .write (.write .start rfl (hmemo _ (List.mem_cons_of_mem _ List.mem_cons_self))) rfl
      (hmemo _ List.mem_cons_self)

/-- Every revision of a run at the desk carries the same identifier. -/
theorem desk_carries {w : Request × Acceptance} (h : w ∈ letterRun ++ memoRun) :
    w.1.Carries "n7" := by
  refine .inl ?_
  have hall : ∀ w ∈ letterRun ++ memoRun, w.1.proposed.id? = some "n7" := by decide +kernel
  exact hall w h

/-- A letter stays what it was while its text is replaced. -/
theorem next_docType_eq_iff_letter :
    ∃ definitions docType' d', Definitions.parse .json deskText = .ok definitions ∧
      definitions.Governs docType' d' (deskDocument "letter" "b")
        (some (deskDocument "letter" "a")) ∧ docType' = "numbered" := by
  obtain ⟨definitions, _, hload, hletter, _⟩ := desk_runs
  have hid : ∀ w ∈ letterRun, w.1.Carries "n7" :=
    fun w hw => desk_carries (List.mem_append_left memoRun hw)
  obtain ⟨_, docType', d', _, hgov', _, _, hkept, _⟩ :=
    next_docType_eq_iff hload hletter hid nofun rfl
  refine ⟨definitions, docType', d', hload, hgov', hkept ?_ ?_⟩
  · intro old hold
    cases hold
  · intro old hold _
    cases hold
    rfl

/-- A memo may not change, but it is replaced under another type. -/
theorem immutable_memo_replaced :
    ∃ definitions d r r' a a', Definitions.parse .json deskText = .ok definitions ∧
      Run definitions {} [(r', a'), (r, a)] ∧ r.Carries "n7" ∧ r'.Carries "n7" ∧
      ¬ r.proposed.Tombstone ∧ definitions.Governs "memo" d r.proposed r.prior ∧
      d.immutable = .literal true ∧ a.docType = some "memo" ∧
      a'.operation = .replace ∧ a'.docType = some "numbered" := by
  obtain ⟨definitions, d, hload, _, hmemo, hgov, himmutable⟩ := desk_runs
  have hid : ∀ w ∈ memoRun, w.1.Carries "n7" :=
    fun w hw => desk_carries (List.mem_append_right letterRun hw)
  exact ⟨definitions, d, _, _, _, _, hload, hmemo,
    hid _ (List.mem_cons_of_mem _ List.mem_cons_self), hid _ List.mem_cons_self, nofun, hgov,
    himmutable, rfl, rfl, rfl⟩

end WritePolicy
