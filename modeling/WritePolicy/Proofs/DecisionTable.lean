import WritePolicy.Proofs.Decision

/-! # The decision table of a loaded definition set

    Every request ends in one of six ways, and each of them is the row of a
    table whose condition speaks of the request and of the definitions only. The
    definition that governs a write is the first in order whose filter accepts
    the document pair; what the write does is told from the deletion flag of the
    new document and from whether there is a live prior document.

    The conditions exclude one another and leave nothing out, so a row never
    depends on the order in which the stages are gone through.
-/

namespace WritePolicy

/-! ## What a write does -/

/-- The deletion flag of the document is `true`. -/
def Document.Tombstone (d : Document) : Prop :=
  d.get? "_deleted" = some (.bool true)

/-- What a write does to the stored document, told from the document pair. -/
inductive Operation.Fits (newDoc : Document) : Option Document → Operation → Prop where
  | remove {prior : Option Document} : newDoc.Tombstone → Fits newDoc prior .remove
  | add : ¬ newDoc.Tombstone → Fits newDoc none .add
  | replace {old : Document} : ¬ newDoc.Tombstone → Fits newDoc (some old) .replace

/-- The deletion flag is read as it is written. -/
theorem Document.isDeleted_iff (d : Document) : d.isDeleted = true ↔ d.Tombstone := by
  unfold Document.isDeleted Document.Tombstone
  cases d.get? "_deleted" with
  | none => simp
  | some v =>
    cases v with
    | bool b => cases b <;> simp
    | _ => simp

/-- Every pair is classified as the operation that fits it, and as no other. -/
theorem Operation.classify_eq_iff {newDoc : Document} {prior : Option Document}
    {op : Operation} : classify newDoc prior = op ↔ Fits newDoc prior op := by
  unfold classify
  by_cases hdel : newDoc.isDeleted = true
  · have htomb := newDoc.isDeleted_iff.mp hdel
    rw [if_pos hdel]
    constructor
    · rintro rfl
      exact .remove htomb
    · intro h
      cases h with
      | remove _ => rfl
      | add hlive => exact absurd htomb hlive
      | replace hlive => exact absurd htomb hlive
  · have hlive : ¬ newDoc.Tombstone := fun h => hdel (newDoc.isDeleted_iff.mpr h)
    rw [if_neg hdel]
    cases prior with
    | none =>
      constructor
      · rintro rfl
        exact .add hlive
      · intro h
        cases h with
        | remove htomb => exact absurd htomb hlive
        | add _ => rfl
    | some old =>
      constructor
      · rintro rfl
        exact .replace hlive
      · intro h
        cases h with
        | remove htomb => exact absurd htomb hlive
        | replace _ => rfl

/-- A deleted prior document counts as none. -/
theorem Request.prior_eq_some_iff (r : Request) (old : Document) :
    r.prior = some old ↔ r.oldDoc = some old ∧ ¬ old.Tombstone := by
  unfold Request.prior
  rw [Option.filter_eq_some_iff, Bool.not_eq_true', ← Bool.not_eq_true, old.isDeleted_iff]

/-! ## The table -/

/-- The rows of the table: when a request ends in which way. -/
structure DecisionTable (definitions : Definitions) (options : Options) (r : Request)
    (outcome : Except Rejection Acceptance) : Prop where
  /-- A governed write is accepted under the type that governs it. -/
  accepted : ∀ docType, (∃ a, outcome = .ok a ∧ a.docType = some docType) ↔
    ∃ d op, definitions.Governs docType d r.proposed r.prior ∧
      Operation.Fits r.proposed r.prior op ∧ d.Accepts op r.situation
  /-- An administrator deletes what no definition governs, where the store lets
      them. -/
  removed : (∃ a, outcome = .ok a ∧ a.docType = none) ↔
    definitions.Ungoverned r.proposed r.prior ∧
      r.proposed.Tombstone ∧ r.context.principal.isAdmin = true ∧
      options.allowAdminUnknownTypeDeletion = true
  /-- Nobody else writes what no definition governs. -/
  unknownType : outcome = .error .unknownType ↔
    definitions.Ungoverned r.proposed r.prior ∧
      ¬ (r.proposed.Tombstone ∧ r.context.principal.isAdmin = true ∧
        options.allowAdminUnknownTypeDeletion = true)
  /-- Who has no identity and no access is asked for an identity. -/
  unauthorized : (∃ reason, outcome = .error (.unauthorized reason)) ↔
    ∃ docType d op, definitions.Governs docType d r.proposed r.prior ∧
      Operation.Fits r.proposed r.prior op ∧
      ¬ d.authorization.Opens op r.context.principal ∧
      r.context.principal.isAnonymous = true
  /-- Who has an identity but no access is turned away. -/
  forbidden : (∃ reason, outcome = .error (.forbidden reason)) ↔
    ∃ docType d op, definitions.Governs docType d r.proposed r.prior ∧
      Operation.Fits r.proposed r.prior op ∧
      ¬ d.authorization.Opens op r.context.principal ∧
      r.context.principal.isAnonymous = false
  /-- With access, what is not accepted is invalid. -/
  invalid : ∀ docType, (∃ report, outcome = .error (.invalid docType report)) ↔
    ∃ d op, definitions.Governs docType d r.proposed r.prior ∧
      Operation.Fits r.proposed r.prior op ∧
      d.authorization.Opens op r.context.principal ∧ ¬ d.Accepts op r.situation

variable {definitions : Definitions} {options : Options} {r : Request}

/-- A row about the definition that governs speaks of one definition and one
    operation. -/
theorem exists_governing_iff {docType : String} {d : Definition}
    (hgov : definitions.Governs docType d r.proposed r.prior) {name : String}
    {C : Definition → Operation → Prop} :
    (∃ d' op, definitions.Governs name d' r.proposed r.prior ∧
        Operation.Fits r.proposed r.prior op ∧ C d' op) ↔
      name = docType ∧ C d r.operation := by
  have hfits : Operation.Fits r.proposed r.prior r.operation :=
    Operation.classify_eq_iff.mp rfl
  constructor
  · intro h
    obtain ⟨d', op, hgov', hop, hC⟩ := h
    obtain ⟨rfl, rfl⟩ := hgov.unique hgov'
    cases Operation.classify_eq_iff.mpr hop
    exact ⟨rfl, hC⟩
  · intro h
    obtain ⟨rfl, hC⟩ := h
    exact ⟨d, r.operation, hgov, hfits, hC⟩

/-- The rows of a request that a definition governs. -/
theorem DecisionTable.of_verdict {docType : String} {d : Definition}
    {outcome : Except Rejection Acceptance}
    (hgov : definitions.Governs docType d r.proposed r.prior)
    (hverdict : Decision.Verdict docType d r outcome) :
    DecisionTable definitions options r outcome := by
  have hsome := hgov.not_ungoverned
  have haccess : d.Accepts r.operation r.situation →
      d.authorization.Opens r.operation r.context.principal := fun h => h.access
  -- each verdict meets the condition of one row and refutes those of the others
  constructor
  case accepted =>
    intro name
    rw [exists_governing_iff hgov]
    cases hverdict <;> grind
  case removed =>
    cases hverdict <;> grind
  case unknownType =>
    cases hverdict <;> grind
  case unauthorized =>
    simp only [exists_governing_iff hgov]
    cases hverdict <;> grind
  case forbidden =>
    simp only [exists_governing_iff hgov]
    cases hverdict <;> grind
  case invalid =>
    intro name
    rw [exists_governing_iff hgov]
    cases hverdict with
    | invalid hopen _ _ hrefused =>
      constructor
      · intro h
        obtain ⟨_, h⟩ := h
        cases h
        exact ⟨rfl, hopen, hrefused⟩
      · intro h
        obtain ⟨rfl, _⟩ := h
        exact ⟨_, rfl⟩
    | unauthorized _ _ => grind
    | forbidden _ _ => grind
    | accepted _ _ _ => grind

/-- The rows of a request that no definition governs. -/
theorem DecisionTable.of_ungoverned
    (hnone : definitions.Ungoverned r.proposed r.prior) :
    DecisionTable definitions options r (Decision.ungoverned options r).outcome := by
  have hrow {name : String} {d : Definition} :
      ¬ definitions.Governs name d r.proposed r.prior := fun hgov => hgov.not_ungoverned hnone
  have hadmin : (r.proposed.isDeleted && r.context.principal.isAdmin &&
      options.allowAdminUnknownTypeDeletion) = true ↔
      r.proposed.Tombstone ∧ r.context.principal.isAdmin = true ∧
        options.allowAdminUnknownTypeDeletion = true := by
    rw [Bool.and_eq_true, Bool.and_eq_true, Document.isDeleted_iff, and_assoc]
  unfold Decision.ungoverned
  -- only the two rows of ungoverned writes can be met
  by_cases h : (r.proposed.isDeleted && r.context.principal.isAdmin &&
      options.allowAdminUnknownTypeDeletion) = true
  · rw [if_pos h]
    rw [hadmin] at h
    constructor
    case removed => exact iff_of_true ⟨_, rfl, rfl⟩ ⟨hnone, h⟩
    case unknownType => exact iff_of_false nofun fun hrefused => hrefused.2 h
    case accepted =>
      refine fun name => iff_of_false ?_ ?_
      · intro h
        obtain ⟨a, ha, hname⟩ := h
        cases ha
        cases hname
      · exact fun ⟨_, _, hgov, _⟩ => hrow hgov
    case unauthorized => exact iff_of_false nofun fun ⟨_, _, _, hgov, _⟩ => hrow hgov
    case forbidden => exact iff_of_false nofun fun ⟨_, _, _, hgov, _⟩ => hrow hgov
    case invalid => exact fun _ => iff_of_false nofun fun ⟨_, _, hgov, _⟩ => hrow hgov
  · rw [if_neg h]
    rw [hadmin] at h
    constructor
    case removed => exact iff_of_false nofun fun hallowed => h hallowed.2
    case unknownType => exact iff_of_true rfl ⟨hnone, h⟩
    case accepted => exact fun _ => iff_of_false nofun fun ⟨_, _, hgov, _⟩ => hrow hgov
    case unauthorized => exact iff_of_false nofun fun ⟨_, _, _, hgov, _⟩ => hrow hgov
    case forbidden => exact iff_of_false nofun fun ⟨_, _, _, hgov, _⟩ => hrow hgov
    case invalid => exact fun _ => iff_of_false nofun fun ⟨_, _, hgov, _⟩ => hrow hgov

/-- Every decision of a loaded definition set is the row of the table that the
    request meets. -/
theorem decide_by_table {format : Format} {text : String}
    (h : Definitions.parse format text = .ok definitions) (options : Options) (r : Request) :
    DecisionTable definitions options r (definitions.decide options r).outcome := by
  have hstatic := Definitions.parse_static h
  rcases definitions.governs_or_ungoverned r.proposed r.prior with ⟨docType, d, hgov⟩ | hnone
  · rw [Definitions.decide_of_governs options hgov]
    exact .of_verdict hgov (Decision.governed_verdict (hstatic _ hgov.mem) docType r)
  · rw [Definitions.decide_of_ungoverned options hnone]
    exact .of_ungoverned hnone

/-- Notes go by their identifiers, and are added by those who may access a
    channel. -/
def noteText : String :=
  (Json.object [("note", .object [
    ("typeFilter", .object [("idPattern", .string "n[0-9]+")]),
    ("channels", .object [("add", .string "desk")])])]).compact

/-- A note is added through its channel. -/
def noteRequest : Request :=
  { newDoc := some ⟨[("_id", .string "n7")], []⟩
    context := { principal := { channels := ["desk"] } } }

/-- The row of an accepted note. -/
theorem decide_by_table_note :
    ∃ definitions, Definitions.parse .json noteText = .ok definitions ∧
      ∃ d op, definitions.Governs "note" d noteRequest.proposed noteRequest.prior ∧
        Operation.Fits noteRequest.proposed noteRequest.prior op ∧
        d.Accepts op noteRequest.situation := by
  have hrun : ((Definitions.parse .json noteText).toOption.bind fun definitions =>
      (definitions.decide {} noteRequest).outcome.toOption) =
        some ⟨some "note", .add, ["desk"], ["desk"]⟩ := by
    rw [noteText, Definitions.parse_compact]
    decide +kernel
  obtain ⟨definitions, hload, hdecide⟩ := Option.bind_eq_some_iff.mp hrun
  have hload := ok_of_toOption hload
  have hdecide := ok_of_toOption hdecide
  have haccepted := (decide_by_table hload {} noteRequest).accepted "note"
  exact ⟨definitions, hload, haccepted.mp ⟨_, hdecide, rfl⟩⟩

end WritePolicy
