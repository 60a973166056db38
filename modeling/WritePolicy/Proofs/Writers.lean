import WritePolicy.Proofs.Ruling

/-! # What the writer has to do with a decision

    A writer is asked for access and for nothing else. Two things follow for a loaded
    definition set, each about two requests.

    A denial tells nothing of the documents: requests of one writer for one operation
    under one definition are denied together, with the same reason.

    More access never hurts. A principal is within another if the other has all its
    roles and channels and is an administrator if it is one, and bears its name if it
    has one. What is accepted of the first is accepted of the second with the same
    acceptance, and what is invalid is invalid with the same report. Each way in which
    a writer is looked at is a lemma; there are five: by channel, by role, by name, for
    anonymity and for being an administrator.
-/

namespace WritePolicy

/-! ## Principals within others -/

/-- The second principal has all that the first has. A name is all or nothing. -/
structure Principal.Within (p q : Principal) : Prop where
  roles : ∀ role ∈ p.roles, role ∈ q.roles
  channels : ∀ channel ∈ p.channels, channel ∈ q.channels
  admin : p.admin = true → q.admin = true
  name : p.name = none ∨ q.name = p.name

namespace Principal.Within

variable {p q : Principal}

theorem hasRole (h : p.Within q) (role : String) (hp : p.hasRole role = true) :
    q.hasRole role = true := by
  unfold Principal.hasRole at hp ⊢
  rw [List.contains_iff_mem] at hp ⊢
  exact h.roles role hp

theorem hasChannel (h : p.Within q) (channel : String) (hp : p.hasChannel channel = true) :
    q.hasChannel channel = true := by
  unfold Principal.hasChannel at hp ⊢
  rw [List.contains_iff_mem] at hp ⊢
  exact h.channels channel hp

theorem isUser (h : p.Within q) (name : String) (hp : p.isUser name = true) :
    q.isUser name = true := by
  unfold Principal.isUser at hp ⊢
  rcases h.name with hnone | hsame
  · rw [hnone] at hp
    cases hp
  · rw [hsame]
    exact hp

/-- The role of administrators is one of the roles, so it comes along. -/
theorem isAdmin (h : p.Within q) (hp : p.isAdmin = true) : q.isAdmin = true := by
  unfold Principal.isAdmin at hp ⊢
  rw [Bool.or_eq_true] at hp ⊢
  rcases hp with hflag | hrole
  · exact .inl (h.admin hflag)
  · exact .inr (h.hasRole Principal.adminRole hrole)

/-- Who is not anonymous is not so with more access either. -/
theorem isAnonymous (h : p.Within q) (hp : p.isAnonymous = false) : q.isAnonymous = false := by
  unfold Principal.isAnonymous at hp ⊢
  rw [Bool.and_eq_false_iff] at hp ⊢
  rcases hp with hname | hadmin
  · -- a name is kept, and being an administrator is too
    left
    rcases h.name with hnone | hsame
    · rw [hnone] at hname
      cases hname
    · rw [hsame]
      exact hname
  · right
    rw [Bool.not_eq_false'] at hadmin ⊢
    exact h.isAdmin hadmin

end Principal.Within

/-! ## Access -/

namespace AccessGrant

variable {p q : Principal} {g : AccessGrant}

/-- An axis meets whoever holds at least as much. -/
theorem meets_mono {axis : Option (List String)} {holds holds' : String → Bool}
    (h : ∀ member, holds member = true → holds' member = true) (hmeets : meets axis holds = true) :
    meets axis holds' = true := by
  cases axis with
  | none => cases hmeets
  | some members =>
    obtain ⟨member, hmem, hholds⟩ := List.any_eq_true.mp hmeets
    exact List.any_eq_true.mpr ⟨member, hmem, h member hholds⟩

theorem meetsSome_mono (h : p.Within q) (hmeets : g.meetsSome p = true) :
    g.meetsSome q = true := by
  unfold meetsSome at hmeets ⊢
  rw [Bool.or_eq_true, Bool.or_eq_true] at hmeets ⊢
  rcases hmeets with (hchannels | hroles) | husers
  · exact .inl (.inl (meets_mono h.hasChannel hchannels))
  · exact .inl (.inr (meets_mono h.hasRole hroles))
  · exact .inr (meets_mono h.isUser husers)

/-- Grants that hold nothing against a writer hold nothing against one with more
    access. -/
theorem check_mono (h : p.Within q) (hcheck : g.check p = none) : g.check q = none := by
  rw [check_eq_none_iff] at hcheck ⊢
  rcases hcheck with ⟨hall, hanonymous⟩ | hmeets
  · exact .inl ⟨hall, h.isAnonymous hanonymous⟩
  · exact .inr (meetsSome_mono h hmeets)

end AccessGrant

/-! ## Decisions -/

/-- Requests of the same documents propose the same after the same. -/
theorem Request.documents_eq {r r' : Request} (hnew : r.newDoc = r'.newDoc)
    (hold : r.oldDoc = r'.oldDoc) : r.proposed = r'.proposed ∧ r.prior = r'.prior := by
  unfold Request.proposed Request.prior
  rw [hnew, hold]
  exact ⟨rfl, rfl⟩

namespace Decision

variable {d : Definition} {r r' : Request}

/-- A request that no definition governs is not denied. -/
theorem not_denied_ungoverned (options : Options) (r : Request) {e : Rejection}
    (he : e.isDenial = true) : (ungoverned options r).outcome ≠ .error e := by
  unfold ungoverned
  split
  · nofun
  · intro h
    cases h
    cases he

/-- One definition denies the requests of one writer for one operation together. -/
theorem governed_denied (hd : d.Static) (docType : String) (hcontext : r.context = r'.context)
    (hop : r.operation = r'.operation) {e : Rejection} (he : e.isDenial = true)
    (hdenied : (governed docType d r).outcome = .error e) :
    (governed docType d r').outcome = .error e := by
  obtain ⟨g, _, hgrant, _, hruling⟩ := exists_ruling hd docType r
  obtain ⟨g', _, hgrant', _, hruling'⟩ := exists_ruling hd docType r'
  -- the grants are the same for both requests, whatever is reported
  have hsame : g = g' := by
    rw [hop, Authorization.grant_eq hd.authorization _ _ r'.situation, hgrant'] at hgrant
    exact (Except.ok.inj hgrant).symm
  rw [hruling, ruling_eq_denial_iff he] at hdenied
  rw [hruling', ruling_eq_denial_iff he, ← hsame, ← hcontext]
  exact hdenied

/-- Who deletes what no definition governs may do so with more access, too. -/
theorem ungoverned_accepted (options : Options) (hproposed : r.proposed = r'.proposed)
    (hwithin : r.context.principal.Within r'.context.principal) {a : Acceptance}
    (haccepted : (ungoverned options r).outcome = .ok a) :
    (ungoverned options r').outcome = .ok a := by
  unfold ungoverned at haccepted ⊢
  rw [← hproposed]
  split at haccepted
  · next hcondition =>
    rw [Bool.and_eq_true, Bool.and_eq_true] at hcondition
    obtain ⟨⟨hdeleted, hadmin⟩, hallowed⟩ := hcondition
    rw [hdeleted, hwithin.isAdmin hadmin, hallowed]
    exact haccepted
  · cases haccepted

/-- What no definition governs is not looked at, so it is not invalid. -/
theorem ungoverned_ne_invalid (options : Options) (r : Request) (docType : String)
    (report : List Violation) :
    (ungoverned options r).outcome ≠ .error (.invalid docType report) := by
  unfold ungoverned
  split <;> nofun

end Decision

/-- Two writes of the same documents are ruled on by the same grants and the same
    report, or neither is governed. -/
theorem Definitions.rulings_of_documents {definitions : Definitions}
    (hstatic : definitions.Static) (options : Options) {r r' : Request}
    (hproposed : r.proposed = r'.proposed) (hprior : r.prior = r'.prior) :
    (∃ docType g report,
      (definitions.decide options r).outcome =
          Decision.ruling docType g report r.context.principal ∧
        (definitions.decide options r').outcome =
          Decision.ruling docType g report r'.context.principal) ∨
    (definitions.decide options r = Decision.ungoverned options r ∧
      definitions.decide options r' = Decision.ungoverned options r') := by
  rcases definitions.governs_or_ungoverned r.proposed r.prior with ⟨docType, d, hgov⟩ | hnone
  · left
    have hd := hstatic _ hgov.mem
    have hgov' := hgov
    rw [hproposed, hprior] at hgov'
    obtain ⟨g, report, hgrant, hreport, hruling⟩ := Decision.exists_ruling hd docType r
    -- operation, grants and report are all told by the documents
    have hop : r.operation = r'.operation := by
      unfold Request.operation
      rw [hproposed, hprior]
    rw [hop, Authorization.grant_eq hd.authorization _ _ r'.situation] at hgrant
    rw [hop, @Definition.violations_eq_of_documents d r.situation r'.situation hd _ hproposed hprior]
      at hreport
    rw [decide_of_governs options hgov, decide_of_governs options hgov']
    exact ⟨docType, g, report, hruling, Decision.governed_eq_ruling hd hgrant hreport⟩
  · right
    have hnone' := hnone
    rw [hproposed, hprior] at hnone'
    exact ⟨decide_of_ungoverned options hnone, decide_of_ungoverned options hnone'⟩

/-- What a writer has to do with the decisions of a set. -/
structure WriterAuthorizes (definitions : Definitions) (options : Options) : Prop where
  /-- Whether a writer is denied access, and why, is told by the definition and the
      operation. -/
  denied (r r' : Request) (e : Rejection) : r.context = r'.context →
    definitions.identify r.proposed r.prior = definitions.identify r'.proposed r'.prior →
    r.operation = r'.operation → e.isDenial = true →
    (definitions.decide options r).outcome = .error e →
    (definitions.decide options r').outcome = .error e
  /-- What is accepted stays accepted with more access. -/
  accepted (r r' : Request) (a : Acceptance) : r.newDoc = r'.newDoc → r.oldDoc = r'.oldDoc →
    r.context.principal.Within r'.context.principal →
    (definitions.decide options r).outcome = .ok a →
    (definitions.decide options r').outcome = .ok a
  /-- What is invalid stays invalid with more access, for the same reasons. -/
  invalid (r r' : Request) (docType : String) (report : List Violation) :
    r.newDoc = r'.newDoc → r.oldDoc = r'.oldDoc →
    r.context.principal.Within r'.context.principal →
    (definitions.decide options r).outcome = .error (.invalid docType report) →
    (definitions.decide options r').outcome = .error (.invalid docType report)

variable {definitions : Definitions}

/-- In a loaded set the writer matters for access only, and more access never
    hurts. -/
theorem writer_authorizes (hload : definitions.Loaded) (options : Options) :
    WriterAuthorizes definitions options := by
  have hstatic := hload.static
  constructor
  case denied =>
    intro r r' e hcontext hidentify hop he hdenied
    rcases definitions.governs_or_ungoverned r.proposed r.prior with ⟨docType, d, hgov⟩ | hnone
    · have hgov' : definitions.Governs docType d r'.proposed r'.prior := by
        rw [← Definitions.identify_eq_some_iff, ← hidentify]
        exact Definitions.identify_eq_some_iff.mpr hgov
      rw [Definitions.decide_of_governs options hgov] at hdenied
      rw [Definitions.decide_of_governs options hgov']
      exact Decision.governed_denied (hstatic _ hgov.mem) docType hcontext hop he hdenied
    · rw [Definitions.decide_of_ungoverned options hnone] at hdenied
      exact absurd hdenied (Decision.not_denied_ungoverned options r he)
  case accepted =>
    intro r r' a hnew hold hwithin haccepted
    obtain ⟨hproposed, hprior⟩ := Request.documents_eq hnew hold
    rcases Definitions.rulings_of_documents hstatic options hproposed hprior with
      ⟨docType, g, report, hruling, hruling'⟩ | ⟨hruling, hruling'⟩
    · rw [hruling, Decision.ruling_eq_ok_iff] at haccepted
      rw [hruling', Decision.ruling_eq_ok_iff]
      obtain ⟨hcheck, hreport, ha⟩ := haccepted
      exact ⟨AccessGrant.check_mono hwithin hcheck, hreport, ha⟩
    · rw [hruling] at haccepted
      rw [hruling']
      exact Decision.ungoverned_accepted options hproposed hwithin haccepted
  case invalid =>
    intro r r' docType report hnew hold hwithin hinvalid
    obtain ⟨hproposed, hprior⟩ := Request.documents_eq hnew hold
    rcases Definitions.rulings_of_documents hstatic options hproposed hprior with
      ⟨name, g, found, hruling, hruling'⟩ | ⟨hruling, _⟩
    · rw [hruling, Decision.ruling_eq_invalid_iff] at hinvalid
      rw [hruling', Decision.ruling_eq_invalid_iff]
      obtain ⟨hcheck, hfound⟩ := hinvalid
      exact ⟨AccessGrant.check_mono hwithin hcheck, hfound⟩
    · rw [hruling] at hinvalid
      exact absurd hinvalid (Decision.ungoverned_ne_invalid options r docType report)

/-- Shifts are written by the desk and have at most twelve hours. -/
def shiftText : String :=
  (Json.object [("shift", .object [
    ("typeFilter", .object [("idPattern", .string "s[0-9]+")]),
    ("channels", .string "desk"),
    ("propertyValidators", .object [("hours", .object [
      ("type", .string "integer"), ("maximumValue", .ofNat 12)])])])]).compact

/-- A new shift. -/
def shiftRequest (hours : Nat) (p : Principal) : Request where
  newDoc := some ⟨[("_id", .string "s1"), ("hours", .ofNat hours)], []⟩
  context := { principal := p }

/-- Somebody without a name at the desk. -/
def deskHand : Principal := { channels := ["desk"] }

/-- Whoever has at least the access of the desk writes the same shifts and is told
    the same of a shift that is too long; the anonymous writer is denied any shift
    alike. -/
theorem writer_authorizes_shift :
    ∃ definitions, Definitions.parse .json shiftText = .ok definitions ∧
      (∃ a, ∀ p, deskHand.Within p →
        (definitions.decide {} (shiftRequest 8 p)).outcome = .ok a) ∧
      (∃ docType report, ∀ p, deskHand.Within p →
        (definitions.decide {} (shiftRequest 13 p)).outcome = .error (.invalid docType report)) ∧
      ∃ e, e.isDenial = true ∧
        ∀ hours, (definitions.decide {} (shiftRequest hours .anonymous)).outcome = .error e := by
  have hrun : ((Definitions.parse .json shiftText).toOption.map fun definitions =>
      ((definitions.decide {} (shiftRequest 8 deskHand)).outcome.toOption.isSome,
        (Decision.invalid? (definitions.decide {} (shiftRequest 13 deskHand)).outcome).isSome,
        match (definitions.decide {} (shiftRequest 8 .anonymous)).outcome with
        | .error e => e.isDenial
        | .ok _ => false)) = some (true, true, true) := by
    rw [shiftText, Definitions.parse_compact]
    decide +kernel
  obtain ⟨definitions, hparse, hends⟩ := Option.map_eq_some_iff.mp hrun
  simp only [Prod.mk.injEq] at hends
  obtain ⟨haccepted, hinvalid, hdenied⟩ := hends
  have hload := ok_of_toOption hparse
  have hwriter := writer_authorizes (.file hload) {}
  refine ⟨definitions, hload, ?_, ?_, ?_⟩
  · obtain ⟨a, ha⟩ := Option.isSome_iff_exists.mp haccepted
    exact ⟨a, fun p hp =>
      hwriter.accepted (shiftRequest 8 deskHand) _ a rfl rfl hp (ok_of_toOption ha)⟩
  · obtain ⟨⟨docType, report⟩, hreport⟩ := Option.isSome_iff_exists.mp hinvalid
    rw [Decision.invalid?_eq_some_iff] at hreport
    exact ⟨docType, report, fun p hp =>
      hwriter.invalid (shiftRequest 13 deskHand) _ docType report rfl rfl hp hreport⟩
  · cases hend : (definitions.decide {} (shiftRequest 8 .anonymous)).outcome with
    | ok a =>
      rw [hend] at hdenied
      cases hdenied
    | error e =>
      rw [hend] at hdenied
      -- which definition governs is told by the identifier, not by the hours
      exact ⟨e, hdenied, fun hours => hwriter.denied (shiftRequest 8 .anonymous) _ e rfl
        (Definitions.identify_congr (Definitions.parse_static hload) rfl rfl) rfl hdenied hend⟩

end WritePolicy
