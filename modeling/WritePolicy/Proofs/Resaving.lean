import WritePolicy.Proofs.Constancy
import WritePolicy.Proofs.Ruling

/-! # Saving a document over itself

    A document that replaces itself has at every position the value that it had, so
    no value that is frozen has changed. Nothing else of a prior document is looked
    at while the content is checked. So the report on the content is the one that
    creating the document gives, violation by violation.

    Two things differ between creating a document and saving it over itself: the
    grants of another operation apply, and a definition may protect documents that
    exist. If creating was accepted, only these two decide.
-/

namespace WritePolicy

/-! ## Values that stay -/

namespace Walk

/-- Values have unique keys at all positions below one that has. -/
theorem Below.uniqueKeys {v w : Validator} {value y : Option Json} {rest : Path}
    (h : Below v value rest w y) (hkeys : ∀ x, value = some x → x.UniqueKeys) :
    ∀ x, y = some x → x.UniqueKeys := by
  induction h with
  | here => exact hkeys
  | step hchild _ ih =>
    obtain ⟨-, hz⟩ := hchild.into?_eq (hkeys _ rfl)
    exact ih hz

/-- A value has not changed if it is what it was. -/
theorem Unchanged.refl (type : DataType) {value : Option Json}
    (hkeys : ∀ x, value = some x → x.UniqueKeys) : Unchanged type value value := by
  cases hpresent : present value with
  | none => exact .inl ⟨hpresent, hpresent⟩
  | some x =>
    obtain ⟨hx, -⟩ := present_eq_some.mp hpresent
    have hsame : x.sameContent x = true := Json.sameContent_refl (hkeys x hx)
    exact .inr ⟨x, x, hpresent, hpresent, type.sameValue_of_sameContent hsame⟩

variable {declared : Properties} {s s' : Situation}

/-- Beside itself, a document tells of frozen values what it tells without a prior
    document: none has changed. -/
theorem sameFrozen_of_resaved (hkeys : s.newDoc.toJson.UniqueKeys) (hnone : s.oldDoc = none)
    (hself : s'.oldDoc = some s.newDoc) : SameFrozen declared s s' := by
  intro path w y hreached
  have hfresh : StaysFrozen s.hasOld w.dataType w.rules y (s.counterpart path) := by
    intro hhas
    unfold Situation.hasOld at hhas
    rw [hnone] at hhas
    cases hhas
  -- without a prior document nothing is frozen; beside itself nothing has changed
  refine iff_of_true hfresh fun _ _ => ?_
  -- the counterpart of a position is the value at the position
  have hcounterpart : s'.counterpart path = y := by
    unfold Situation.counterpart
    rw [hself]
    exact hreached.at?_eq hkeys
  rw [hcounterpart]
  obtain ⟨name, v, rest, -, -, hbelow⟩ := hreached
  obtain ⟨-, hfields⟩ := Json.uniqueKeys_object_iff.mp hkeys
  exact Unchanged.refl _ (hbelow.uniqueKeys fun x hx => hfields _ (Entries.mem_of_get? hx))

end Walk

/-- The report on the content of a document that is saved over itself is the one on
    the document when it is new. -/
theorem Definition.contentViolations_resaved {d : Definition} (hd : d.Static) {s s' : Situation}
    (hdoc : s.newDoc = s'.newDoc) (hkeys : s.newDoc.toJson.UniqueKeys) (hnone : s.oldDoc = none)
    (hself : s'.oldDoc = some s.newDoc) : d.contentViolations s' = d.contentViolations s :=
  (contentViolations_eq_of_frozen hd hdoc (Walk.sameFrozen_of_resaved hkeys hnone hself)).symm

/-! ## Which definition governs -/

/-- A live document beside itself names its own type. -/
theorem governingType?_resaved (doc : Document) :
    governingType? doc (some doc) = governingType? doc none := by
  unfold governingType?
  simp

/-- A document beside itself names its own identifier. -/
theorem governingId?_resaved (doc : Document) :
    governingId? doc (some doc) = governingId? doc none := by
  unfold governingId?
  rw [Option.bind_some, Option.bind_none, Option.or_none, Option.or_self]

/-! ## Decisions -/

namespace Request

variable {doc : Document} {r : Request}

/-- The request creates the document: there is no prior document, or it is
    deleted. -/
structure Creates (r : Request) (doc : Document) : Prop where
  newDoc : r.newDoc = some doc
  live : ¬ doc.Tombstone
  prior : r.prior = none

/-- The request saves the document over itself. -/
structure Resaves (r : Request) (doc : Document) : Prop where
  newDoc : r.newDoc = some doc
  live : ¬ doc.Tombstone
  oldDoc : r.oldDoc = some doc

theorem proposed_eq (h : r.newDoc = some doc) : r.proposed = doc := by
  unfold proposed
  rw [h]
  rfl

theorem Creates.operation (h : r.Creates doc) : r.operation = .add := by
  unfold Request.operation
  rw [Operation.classify_eq_iff, proposed_eq h.newDoc, h.prior]
  exact .add h.live

theorem Resaves.prior (h : r.Resaves doc) : r.prior = some doc :=
  (r.prior_eq_some_iff doc).mpr ⟨h.oldDoc, h.live⟩

theorem Resaves.operation (h : r.Resaves doc) : r.operation = .replace := by
  unfold Request.operation
  rw [Operation.classify_eq_iff, proposed_eq h.newDoc, h.prior]
  exact .replace h.live

end Request

namespace Definition

/-- The definition opens a document to being saved over itself by a writer. -/
structure OpensResaving (d : Definition) (p : Principal) : Prop where
  access : d.authorization.Opens .replace p
  notImmutable : d.immutable = .literal false
  replaceable : d.cannotReplace = .literal false

variable {d : Definition} {r r' : Request} {doc : Document}

/-- A document whose creation a definition accepts is accepted over itself exactly if
    the definition opens that to the writer. -/
theorem Accepts.resaved_iff (h : d.Accepts r.operation r.situation) (hd : d.Static)
    (hkeys : doc.toJson.UniqueKeys) (hcreates : r.Creates doc) (hresaves : r'.Resaves doc) :
    d.Accepts r'.operation r'.situation ↔ d.OpensResaving r'.context.principal := by
  rw [hresaves.operation]
  have hprior : r'.situation.oldDoc ≠ none := by
    show r'.prior ≠ none
    rw [hresaves.prior]
    nofun
  constructor
  · intro h'
    obtain ⟨himmutable, hreplace, -⟩ := h'.revision hprior
    exact ⟨h'.access, himmutable, hreplace rfl⟩
  · intro hopens
    have hnew : r.situation.newDoc = doc := Request.proposed_eq hcreates.newDoc
    have hnew' : r'.situation.newDoc = doc := Request.proposed_eq hresaves.newDoc
    have hself : r'.situation.oldDoc = some r.situation.newDoc := hnew ▸ hresaves.prior
    have hsame : d.contentViolations r'.situation = d.contentViolations r.situation :=
      contentViolations_resaved hd (hnew.trans hnew'.symm) (hnew ▸ hkeys) hcreates.prior hself
    have hfound : d.FindsNothing r'.situation := by
      rw [findsNothing_iff hd, hsame, ← findsNothing_iff hd]
      exact h.content (hcreates.operation ▸ nofun)
    exact {
      access := hopens.access
      identifier := nofun
      revision := fun _ => ⟨hopens.notImmutable, fun _ => hopens.replaceable, nofun⟩
      content := fun _ => hfound }

end Definition

namespace Definitions

variable {definitions : Definitions} {doc : Document}

/-- Writes that are accepted under one definition assign the same channels, whatever
    they do: acceptances tell of grants, and grants for all operations agree there. -/
theorem Governs.channels_eq {docType : String} {d : Definition} {r r' : Request}
    (hgov : definitions.Governs docType d r.proposed r.prior) (hstatic : definitions.Static)
    (options : Options) (hgov' : definitions.Governs docType d r'.proposed r'.prior)
    {a a' : Acceptance} (haccepted : (definitions.decide options r).outcome = .ok a)
    (haccepted' : (definitions.decide options r').outcome = .ok a') : a.channels = a'.channels := by
  have hd := hstatic _ hgov.mem
  obtain ⟨g, report, hgrant, -, hruling⟩ := Decision.exists_ruling hd docType r
  obtain ⟨g', report', hgrant', -, hruling'⟩ := Decision.exists_ruling hd docType r'
  rw [decide_of_governs options hgov, hruling, Decision.ruling_eq_ok_iff] at haccepted
  rw [decide_of_governs options hgov', hruling', Decision.ruling_eq_ok_iff] at haccepted'
  obtain ⟨-, -, rfl⟩ := haccepted
  obtain ⟨-, -, rfl⟩ := haccepted'
  exact Authorization.assignedChannels_eq hd.authorization hgrant hgrant'

/-- What becomes of a document that is saved over itself. -/
structure ResavesSafely (definitions : Definitions) (doc : Document) : Prop where
  /-- The document is of the type that it has when it is new. -/
  identified : definitions.identify doc (some doc) = definitions.identify doc none
  /-- By any definition of the set, the content is found as it is found when the
      document is new: the same violations in the same order. -/
  content (r r' : Request) (docType : String) (d : Definition) : r.Creates doc → r'.Resaves doc →
    (docType, d) ∈ definitions → ∃ report, d.contentViolations r.situation = .ok report ∧
      d.contentViolations r'.situation = .ok report
  /-- If creating the document is accepted, saving it over itself is, by whom and
      where the definition allows that; it keeps its type and its channels. -/
  accepted (options : Options) (r r' : Request) (a : Acceptance) : r.Creates doc →
    r'.Resaves doc → (definitions.decide options r).outcome = .ok a →
    ∃ docType d, definitions.Governs docType d doc none ∧ a.docType = some docType ∧
      ((∃ a', (definitions.decide options r').outcome = .ok a') ↔
        d.OpensResaving r'.context.principal) ∧
      ∀ a', (definitions.decide options r').outcome = .ok a' →
        a'.docType = a.docType ∧ a'.operation = .replace ∧ a'.channels = a.channels

/-- In a loaded set, a live document that is saved over itself meets no problem that
    it did not have when it was created, except that it may be protected. Its keys are
    unique, as those of every document are that is read. -/
theorem resaves_safely (hload : definitions.Loaded) (hkeys : doc.toJson.UniqueKeys) :
    definitions.ResavesSafely doc := by
  have hstatic := hload.static
  have hidentified : definitions.identify doc (some doc) = definitions.identify doc none :=
    identify_congr hstatic (governingType?_resaved doc) (governingId?_resaved doc)
  refine ⟨hidentified, ?_, ?_⟩
  · intro r r' docType d hcreates hresaves hmem
    have hd := hstatic _ hmem
    have hnew : r.situation.newDoc = doc := Request.proposed_eq hcreates.newDoc
    have hnew' : r'.situation.newDoc = doc := Request.proposed_eq hresaves.newDoc
    obtain ⟨report, hreport, -⟩ := Definition.contentViolations_reports hd r.situation
    refine ⟨report, hreport, ?_⟩
    rw [Definition.contentViolations_resaved hd (hnew.trans hnew'.symm) (hnew ▸ hkeys)
      hcreates.prior (hnew ▸ hresaves.prior)]
    exact hreport
  · intro options r r' a hcreates hresaves haccepted
    have hdoc := Request.proposed_eq hcreates.newDoc
    have hdoc' := Request.proposed_eq hresaves.newDoc
    obtain ⟨docType, d, hgov, htype⟩ := exists_governs_of_live hstatic haccepted
      (hdoc ▸ hcreates.live)
    have hd := hstatic _ hgov.mem
    obtain ⟨haccepts, -, -⟩ := hgov.accepts_of_accepted hstatic haccepted
    -- the definition that governs the document when it is new governs it over itself
    have hnew : definitions.Governs docType d doc none := by
      rw [hdoc, hcreates.prior] at hgov
      exact hgov
    have hgov' : definitions.Governs docType d r'.proposed r'.prior := by
      rw [hdoc', hresaves.prior, ← identify_eq_some_iff, hidentified]
      exact identify_eq_some_iff.mpr hnew
    refine ⟨docType, d, hnew, htype, ?_, fun a' haccepted' => ?_⟩
    · rw [← haccepts.resaved_iff hd hkeys hcreates hresaves]
      constructor
      · rintro ⟨a', haccepted'⟩
        exact (hgov'.accepts_of_accepted hstatic haccepted').1
      · intro haccepts'
        obtain ⟨a', haccepted', -⟩ :=
          (accepted_iff hstatic options r' docType).mpr ⟨d, hgov', haccepts'⟩
        exact ⟨a', haccepted'⟩
    · obtain ⟨-, htype', hop'⟩ := hgov'.accepts_of_accepted hstatic haccepted'
      have hchannels := hgov'.channels_eq hstatic options hgov haccepted' haccepted
      exact ⟨htype'.trans htype.symm, hop'.trans hresaves.operation, hchannels⟩

/-- Minutes, whose number may not change, are kept by the board and corrected by the
    office. -/
def minutesText : String :=
  (Json.object [("minutes", .object [
    ("typeFilter", .object [("idPattern", .string "m[0-9]+")]),
    ("channels", .object [("add", .string "board"), ("replace", .string "office")]),
    ("propertyValidators", .object [
      ("number", .object [("type", .string "integer"), ("immutable", .bool true)]),
      ("held", .object [("type", .string "datetime"), ("immutable", .bool true)])])])]).compact

/-- Minutes of a meeting. -/
def minutes : Document :=
  ⟨[("_id", .string "m4"), ("number", .ofNat 4), ("held", .string "2016-06-05T10:00Z")], []⟩

/-- The board adds the minutes, or saves them over themselves; the office does the
    latter. -/
def minutesRequest (oldDoc : Option Document) (channel : String) : Request where
  newDoc := some minutes
  oldDoc := oldDoc
  context := { principal := { channels := [channel] } }

/-- The minutes that the board added are saved over themselves by the office, under
    the same type and in the same channels, and not by the board. -/
theorem resaves_safely_minutes :
    minutes.toJson.UniqueKeys ∧
      ∃ definitions docType d, Definitions.parse .json minutesText = .ok definitions ∧
        definitions.Governs docType d minutes (some minutes) ∧
        d.OpensResaving { channels := ["office"] } ∧ ¬ d.OpensResaving { channels := ["board"] } ∧
        ∃ a, (definitions.decide {} (minutesRequest (some minutes) "office")).outcome = .ok a ∧
          a.docType = some "minutes" ∧ a.channels = ["board", "office"] := by
  have hkeys : minutes.toJson.UniqueKeys := by
    rw [Document.toJson, Json.uniqueKeys_object_iff]
    refine ⟨by decide, ?_⟩
    rintro e (_ | ⟨_, _ | ⟨_, _ | ⟨_, he⟩⟩⟩)
    · trivial
    · trivial
    · trivial
    · cases he
  have hrun : ((Definitions.parse .json minutesText).toOption.map fun definitions =>
      ((definitions.decide {} (minutesRequest none "board")).outcome.toOption,
        (definitions.decide {} (minutesRequest (some minutes) "office")).outcome.toOption.isSome,
        (definitions.decide {} (minutesRequest (some minutes) "board")).outcome.toOption.isSome)) =
      some (some ⟨some "minutes", .add, ["board"], ["board", "office"]⟩, true, false) := by
    rw [minutesText, Definitions.parse_compact]
    decide +kernel
  obtain ⟨definitions, hparse, hends⟩ := Option.map_eq_some_iff.mp hrun
  simp only [Prod.mk.injEq] at hends
  obtain ⟨hadded, hoffice, hboard⟩ := hends
  have hload := ok_of_toOption hparse
  have hadded := ok_of_toOption hadded
  have hsafely := resaves_safely (.file hload) hkeys
  have hlive : ¬ minutes.Tombstone := fun hdeleted => Option.some_ne_none _ hdeleted.symm
  have hcreates : (minutesRequest none "board").Creates minutes := ⟨rfl, hlive, rfl⟩
  have hresaves (channel : String) :
      (minutesRequest (some minutes) channel).Resaves minutes := ⟨rfl, hlive, rfl⟩
  obtain ⟨docType, d, hgov, -, hiff, hsame⟩ :=
    hsafely.accepted {} _ _ _ hcreates (hresaves "office") hadded
  obtain ⟨_, _, hgov', -, hiff', -⟩ :=
    hsafely.accepted {} _ _ _ hcreates (hresaves "board") hadded
  obtain ⟨rfl, rfl⟩ := hgov.unique hgov'
  obtain ⟨a, ha⟩ := Option.isSome_iff_exists.mp hoffice
  have ha := ok_of_toOption ha
  obtain ⟨htype, -, hchannels⟩ := hsame a ha
  refine ⟨hkeys, definitions, docType, d, hload, ?_, hiff.mp ⟨a, ha⟩, ?_, a, ha, htype, hchannels⟩
  · rw [← identify_eq_some_iff, hsafely.identified]
    exact identify_eq_some_iff.mpr hgov
  · intro hopens
    obtain ⟨a', ha'⟩ := hiff'.mpr hopens
    rw [ha'] at hboard
    cases hboard

end Definitions

end WritePolicy
