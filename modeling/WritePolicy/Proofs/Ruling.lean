import WritePolicy.Proofs.Lifecycle
import WritePolicy.Proofs.Relocation

/-! # What a ruling is made of

    A static definition rules on a write by two things: the grants for the operation
    and the report on the documents. The writer is held against the grants; once let
    in, the report decides (`Decision.governed_eq_ruling`).

    So the two can be followed apart from each other. The grants are literals, and
    which of them apply is a matter of the operation; who writes is not asked when the
    report is made, and neither is into which database
    (`Definition.violations_eq_of_documents`).
-/

namespace WritePolicy

/-! ## Rulings -/

/-- The writer is rejected, not the documents. -/
def Rejection.isDenial : Rejection → Bool
  | unauthorized _ | forbidden _ => true
  | _ => false

namespace Decision

/-- What a writer hears who is denied access. -/
def denial (p : Principal) (reason : DenialReason) : Rejection :=
  if p.isAnonymous then .unauthorized reason else .forbidden reason

theorem isDenial_denial (p : Principal) (reason : DenialReason) :
    (denial p reason).isDenial = true := by
  unfold denial
  cases p.isAnonymous <;> rfl

/-- How a write ends, given the grants for it, the report on it and the writer. -/
def ruling (docType : String) (g : AccessGrant) (report : List Violation) (p : Principal) :
    Except Rejection Acceptance :=
  match g.check p with
  | some reason => .error (denial p reason)
  | none =>
    match report with
    | [] => .ok (.ofGrant docType g)
    | v :: rest => .error (.invalid docType (v :: rest))

variable {docType : String} {d : Definition} {r : Request} {g : AccessGrant}
  {report : List Violation} {p : Principal}

/-- A static definition rules by the grants and the report. -/
theorem governed_eq_ruling (hd : d.Static)
    (hgrant : d.authorization.grant r.operation r.situation = .ok g)
    (hreport : d.violations r.operation r.situation = .ok report) :
    (governed docType d r).outcome = ruling docType g report r.context.principal := by
  unfold governed
  rw [hd.actions]
  simp only [act_none, Logged.pure_bind]
  rw [Logged.outcome_bind, hgrant]
  show (authorize g r.context.principal >>= _).outcome = _
  unfold authorize ruling
  cases g.check r.context.principal with
  | some reason => rfl
  | none =>
    show (ofDefinition (d.violations r.operation r.situation) >>= _).outcome = _
    rw [Logged.outcome_bind, hreport]
    cases report with
    | nil => rfl
    | cons v rest => rfl

/-- Grants and report of a static definition, and the ruling by them. -/
theorem exists_ruling (hd : d.Static) (docType : String) (r : Request) :
    ∃ g report, d.authorization.grant r.operation r.situation = .ok g ∧
      d.violations r.operation r.situation = .ok report ∧
      (governed docType d r).outcome = ruling docType g report r.context.principal := by
  obtain ⟨g, hgrant, -, -⟩ := d.authorization.grant_of_static hd.authorization r.operation r.situation
  obtain ⟨report, hreport, -⟩ := Definition.violations_reports hd r.operation r.situation
  exact ⟨g, report, hgrant, hreport, governed_eq_ruling hd hgrant hreport⟩

/-- A ruling accepts if the grants hold nothing against the writer and the report is
    empty. -/
theorem ruling_eq_ok_iff {a : Acceptance} :
    ruling docType g report p = .ok a ↔
      g.check p = none ∧ report = [] ∧ a = .ofGrant docType g := by
  unfold ruling
  cases g.check p with
  | some reason => exact iff_of_false nofun fun h => nomatch h.1
  | none =>
    cases report with
    | nil =>
      constructor
      · intro h
        cases h
        exact ⟨rfl, rfl, rfl⟩
      · rintro ⟨-, -, rfl⟩
        rfl
    | cons v rest => exact iff_of_false nofun fun h => nomatch h.2.1

/-- A ruling finds a document invalid if the grants hold nothing against the writer
    and the report is not empty. -/
theorem ruling_eq_invalid_iff {name : String} {found : List Violation} :
    ruling docType g report p = .error (.invalid name found) ↔
      g.check p = none ∧ report ≠ [] ∧ name = docType ∧ found = report := by
  unfold ruling
  cases g.check p with
  | some reason =>
    refine iff_of_false (fun h => ?_) fun h => nomatch h.1
    have hsame : denial p reason = .invalid name found := Except.error.inj h
    have hdenial := isDenial_denial p reason
    rw [hsame] at hdenial
    cases hdenial
  | none =>
    cases report with
    | nil => exact iff_of_false nofun fun h => h.2.1 rfl
    | cons v rest =>
      constructor
      · intro h
        cases h
        exact ⟨rfl, List.cons_ne_nil _ _, rfl, rfl⟩
      · rintro ⟨-, -, rfl, rfl⟩
        rfl

/-- A ruling denies access for the reason that the grants hold against the writer. -/
theorem ruling_eq_denial_iff {e : Rejection} (he : e.isDenial = true) :
    ruling docType g report p = .error e ↔ ∃ reason, g.check p = some reason ∧ e = denial p reason := by
  unfold ruling
  cases g.check p with
  | some reason =>
    constructor
    · intro h
      cases h
      exact ⟨reason, rfl, rfl⟩
    · rintro ⟨_, h, rfl⟩
      cases h
      rfl
  | none =>
    -- the other rejections are not denials
    refine iff_of_false (fun h => ?_) fun ⟨_, h, _⟩ => nomatch h
    cases report with
    | nil => cases h
    | cons v rest =>
      cases h
      cases he

end Decision

/-! ## Grants and reports -/

/-- Pairs that name the same type and the same identifier are identified alike. -/
theorem Definitions.identify_congr {definitions : Definitions} (hstatic : definitions.Static)
    {new new' : Document} {old old' : Option Document}
    (htype : governingType? new old = governingType? new' old')
    (hid : governingId? new old = governingId? new' old') :
    definitions.identify new old = definitions.identify new' old' := by
  rcases definitions.governs_or_ungoverned new old with ⟨docType, d, hgov⟩ | hnone
  · rw [identify_eq_some_iff.mpr hgov, identify_eq_some_iff.mpr (hgov.congr hstatic htype hid)]
  · rw [identify_eq_none_iff.mpr hnone, identify_eq_none_iff.mpr (hnone.congr hstatic htype hid)]

/-- Which channels a document is assigned to is the same for all operations. -/
theorem Authorization.assignedChannels_eq {a : Authorization} (ha : a.Static) {op op' : Operation}
    {s s' : Situation} {g g' : AccessGrant} (hg : a.grant op s = .ok g)
    (hg' : a.grant op' s' = .ok g') : g.assignedChannels = g'.assignedChannels := by
  rw [a.grant_eq ha op' s' s] at hg'
  unfold grant at hg hg'
  obtain ⟨channels, hchannels, hg⟩ := bind_eq_ok.mp hg
  obtain ⟨_, _, hg⟩ := bind_eq_ok.mp hg
  obtain ⟨_, _, hg⟩ := bind_eq_ok.mp hg
  obtain ⟨_, _, hg⟩ := bind_eq_ok.mp hg
  obtain ⟨channels', hchannels', hg'⟩ := bind_eq_ok.mp hg'
  obtain ⟨_, _, hg'⟩ := bind_eq_ok.mp hg'
  obtain ⟨_, _, hg'⟩ := bind_eq_ok.mp hg'
  obtain ⟨_, _, hg'⟩ := bind_eq_ok.mp hg'
  rw [hchannels] at hchannels'
  cases hchannels'
  cases hg
  cases hg'
  rfl

namespace Definition

variable {d : Definition} {s s' : Situation}

/-- Neither the writer nor the database has a part in the report. -/
theorem violations_eq_of_documents (hd : d.Static) (op : Operation)
    (hnew : s.newDoc = s'.newDoc) (hold : s.oldDoc = s'.oldDoc) :
    d.violations op s = d.violations op s' := by
  have hhas : s.hasOld = s'.hasOld := congrArg Option.isSome hold
  have hid : d.idViolations op s = d.idViolations op s' := by
    unfold idViolations
    rw [hd.idPattern.valueOf?_eq s s', hnew]
  have hrevision : d.revisionViolations op s = d.revisionViolations op s' := by
    unfold revisionViolations
    rw [hhas, hd.immutable.value_eq s s', hd.cannotReplace.value_eq s s',
      hd.cannotDelete.value_eq s s']
  have hcontent : d.contentViolations s = d.contentViolations s' := by
    refine contentViolations_eq_of_frozen hd hnew fun path w y _ => ?_
    unfold Situation.counterpart
    rw [hhas, hold]
  unfold violations
  rw [hid, hrevision, hcontent]

/-- Nothing is found in a document if the report on its content is empty. -/
theorem findsNothing_iff (hd : d.Static) :
    d.FindsNothing s ↔ d.contentViolations s = .ok [] := by
  obtain ⟨found, hfound, hclean⟩ := contentViolations_reports hd s
  rw [← hclean, hfound, Except.ok.injEq]

end Definition

end WritePolicy
