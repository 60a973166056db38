import WritePolicy.Decision
import WritePolicy.Proofs.Loading
import WritePolicy.Proofs.Walk

/-! # Decisions by static definitions

    A static definition has no actions, and nothing in it fails. So whether a
    write that it governs is accepted comes down to four conditions, one for
    each thing that is looked at: access, the identifier of a new document, the
    protection of a prior document, and the content. `Definition.Accepts` names
    them.

    The reports of violations are lists behind a computation that may fail.
    `Reports x P` says that the computation gives a list, and that the list is
    empty exactly if `P` holds; reports that follow one another are decided
    together.
-/

namespace WritePolicy

namespace Logged

variable {ω ε α β : Type}

/-- How a sequence ends depends on how its parts end, not on their logs. -/
theorem outcome_bind (c : Logged ω ε α) (f : α → Logged ω ε β) :
    (c >>= f).outcome = c.outcome >>= fun a => (f a).outcome := by
  cases h : c.outcome with
  | ok a =>
    rw [bind_of_ok h]
    rfl
  | error e =>
    rw [bind_of_error h]
    rfl

end Logged

/-! ## Slots -/

namespace Slot

variable {α : Type}

/-- A literal that may be unset has a value, which is that literal. -/
theorem LiteralIfSet.valueOf? {slot : Option (Slot α)} (h : LiteralIfSet slot) (s : Situation) :
    ∃ v, Slot.valueOf? slot s = .ok v ∧ ∀ a, v = some a ↔ slot = some (literal a) := by
  obtain rfl | ⟨b, rfl⟩ := h.cases
  · exact ⟨none, rfl, fun a => by simp⟩
  · exact ⟨some b, rfl, fun a => by simp⟩

end Slot

/-! ## Access -/

namespace GrantSet

/-- A writer holds a member of the list of an operation, or of the list for all
    writes. -/
def Meets (g : GrantSet) (op : Operation) (holds : String → Bool) : Prop :=
  ∃ member, (member ∈ g.specific op ∨ member ∈ g.write) ∧ holds member = true

end GrantSet

/-- The list keeps its members and gets the further ones. -/
theorem mem_appendNew {member : String} {members more : List String} :
    member ∈ appendNew members more ↔ member ∈ members ∨ member ∈ more := by
  induction more generalizing members with
  | nil => simp [appendNew]
  | cons first rest ih =>
    have hstep : appendNew members (first :: rest) =
        appendNew (if members.contains first then members else members ++ [first]) rest := rfl
    rw [hstep, ih, List.mem_cons]
    by_cases hfirst : first ∈ members
    · rw [if_pos (List.contains_iff_mem.mpr hfirst)]
      constructor
      · rintro (h | h)
        · exact .inl h
        · exact .inr (.inr h)
      · rintro (h | rfl | h)
        · exact .inl h
        · exact .inl hfirst
        · exact .inr h
    · rw [if_neg (fun h => hfirst (List.contains_iff_mem.mp h)), List.mem_append,
        List.mem_singleton, or_assoc]

/-- Whom an axis admits to an operation, in terms of its lists. -/
theorem GrantSet.any_forOperation (g : GrantSet) (op : Operation) (holds : String → Bool) :
    (g.forOperation op).any holds = true ↔ g.Meets op holds := by
  have hmem (m : String) : m ∈ g.forOperation op ↔ m ∈ g.specific op ∨ m ∈ g.write := by
    unfold GrantSet.forOperation
    rw [mem_appendNew, mem_appendNew]
    simp only [List.not_mem_nil, false_or]
  rw [List.any_eq_true]
  simp only [hmem]
  exact Iff.rfl

/-- The grants open an operation to a writer: all members may write and the
    writer is one, or some configured axis meets the writer. -/
def Authorization.Opens (a : Authorization) (op : Operation) (p : Principal) : Prop :=
  (a.allMembers = .literal true ∧ p.isAnonymous = false) ∨
    (∃ g, a.channels = some (.literal g) ∧ g.Meets op p.hasChannel) ∨
    (∃ g, a.roles = some (.literal g) ∧ g.Meets op p.hasRole) ∨
    (∃ g, a.users = some (.literal g) ∧ g.Meets op p.isUser)

/-- An axis meets a writer if it is configured and one of its members does. -/
theorem AccessGrant.meets_axis {axis : Option (Slot GrantSet)} {value : Option GrantSet}
    (hvalue : ∀ g, value = some g ↔ axis = some (.literal g)) (op : Operation)
    (holds : String → Bool) :
    meets (value.map (·.forOperation op)) holds = true ↔
      ∃ g, axis = some (.literal g) ∧ g.Meets op holds := by
  cases value with
  | none =>
    constructor
    · intro h
      cases h
    · intro h
      obtain ⟨g, hg, _⟩ := h
      cases (hvalue g).mpr hg
  | some g =>
    -- the value of a configured axis is its literal
    have haxis : axis = some (.literal g) := (hvalue g).mp rfl
    constructor
    · intro h
      exact ⟨g, haxis, (g.any_forOperation op holds).mp h⟩
    · intro h
      obtain ⟨g', hg', h⟩ := h
      cases (hvalue g').mpr hg'
      exact (g.any_forOperation op holds).mpr h

/-- Nothing is held against a writer whom the flag for all members or some axis
    lets in. -/
theorem AccessGrant.check_eq_none_iff (g : AccessGrant) (p : Principal) :
    g.check p = none ↔
      (g.allMembers = true ∧ p.isAnonymous = false) ∨ g.meetsSome p = true := by
  unfold AccessGrant.check
  by_cases hall : (g.allMembers && !p.isAnonymous) = true
  · rw [if_pos hall]
    rw [Bool.and_eq_true, Bool.not_eq_true'] at hall
    exact iff_of_true rfl (.inl hall)
  · rw [if_neg hall]
    rw [Bool.and_eq_true, Bool.not_eq_true'] at hall
    by_cases hsome : g.meetsSome p = true
    · rw [if_pos hsome]
      exact iff_of_true rfl (.inr hsome)
    · rw [if_neg hsome]
      exact iff_of_false nofun fun h => h.elim hall hsome

/-- Static grants are resolved, and they let in whom they open the operation
    to. -/
theorem Authorization.grant_of_static {a : Authorization} (ha : a.Static) (op : Operation)
    (s : Situation) :
    ∃ g, a.grant op s = .ok g ∧ g.operation = op ∧
      ∀ p, g.check p = none ↔ a.Opens op p := by
  obtain ⟨channels, hchannels, hc⟩ := ha.channels.valueOf? s
  obtain ⟨roles, hroles, hr⟩ := ha.roles.valueOf? s
  obtain ⟨users, husers, hu⟩ := ha.users.valueOf? s
  obtain ⟨allMembers, hall⟩ := ha.allMembers
  -- each axis is resolved by itself; none of them can fail
  let g : AccessGrant := {
    operation := op
    channels := channels.map (·.forOperation op)
    roles := roles.map (·.forOperation op)
    users := users.map (·.forOperation op)
    allMembers
    assignedChannels := (channels.map GrantSet.all).getD [] }
  have hgrant : a.grant op s = .ok g := by
    unfold Authorization.grant
    rw [hchannels, hroles, husers, hall]
    rfl
  refine ⟨g, hgrant, rfl, fun p => ?_⟩
  have hsome : g.meetsSome p = true ↔
      (∃ x, a.channels = some (.literal x) ∧ x.Meets op p.hasChannel) ∨
      (∃ x, a.roles = some (.literal x) ∧ x.Meets op p.hasRole) ∨
      (∃ x, a.users = some (.literal x) ∧ x.Meets op p.isUser) := by
    unfold AccessGrant.meetsSome
    rw [Bool.or_eq_true, Bool.or_eq_true, AccessGrant.meets_axis hc,
      AccessGrant.meets_axis hr, AccessGrant.meets_axis hu, or_assoc]
  unfold Authorization.Opens
  rw [g.check_eq_none_iff, hsome, hall, Slot.literal.injEq]

/-! ## Reports -/

/-- A report is given, and it is empty exactly if the statement holds. -/
def Reports {α : Type} (report : Except Misconfiguration (List α)) (P : Prop) : Prop :=
  ∃ found, report = .ok found ∧ (found = [] ↔ P)

namespace Reports

variable {α : Type} {P Q : Prop} {x : Except Misconfiguration (List α)}

theorem congr (h : Reports x P) (hPQ : P ↔ Q) : Reports x Q := by
  obtain ⟨found, hfound, hiff⟩ := h
  exact ⟨found, hfound, hiff.trans hPQ⟩

/-- Nothing is reported. -/
theorem none : Reports (.ok ([] : List α)) True :=
  ⟨[], rfl, iff_of_true rfl trivial⟩

/-- What is reported under a condition. -/
theorem single {condition : Bool} {a : α} :
    Reports (.ok (if condition then [a] else [])) (condition = false) := by
  cases condition with
  | true => exact ⟨[a], rfl, iff_of_false (List.cons_ne_nil _ _) nofun⟩
  | false => exact ⟨[], rfl, iff_of_true rfl rfl⟩

end Reports

/-! ## What a definition asks of a write -/

namespace Definition

/-- A new document has an identifier of the asked form. -/
def FitsIdentifier (d : Definition) (op : Operation) (doc : Document) : Prop :=
  op = .add → ∀ p, d.idPattern = some (.literal p) →
    ∃ id, doc.get? "_id" = some (.string id) ∧ p.isMatch id = true

/-- The prior document, if there is one, is not protected against the
    operation. -/
def LeavesOpen (d : Definition) (op : Operation) (prior : Option Document) : Prop :=
  prior ≠ none → d.immutable = .literal false ∧
    (op = .replace → d.cannotReplace = .literal false) ∧
    (op = .remove → d.cannotDelete = .literal false)

/-- The walk over the properties and the rules for attachments report nothing. -/
def FindsNothing (d : Definition) (s : Situation) : Prop :=
  ∃ trace, d.walk s = .ok trace ∧ trace.outcome = .ok () ∧ trace.violations = [] ∧
    d.attachments.violations trace.references s = .ok []

/-- Everything that a definition asks of a write that it governs. -/
structure Accepts (d : Definition) (op : Operation) (s : Situation) : Prop where
  access : d.authorization.Opens op s.principal
  identifier : d.FitsIdentifier op s.newDoc
  revision : d.LeavesOpen op s.oldDoc
  content : op ≠ .remove → d.FindsNothing s

end Definition

/-- No limit is breached exactly if a set limit is kept. -/
theorem breach_eq_nil_iff {α ν : Type} {limit : Option α} {kept : α → Bool}
    {violation : α → ν} :
    breach limit kept violation = [] ↔ ∀ a, limit = some a → kept a = true := by
  cases limit with
  | none => exact iff_of_true rfl nofun
  | some a =>
    cases hkept : kept a with
    | true => simp [breach, hkept]
    | false => simp [breach, hkept]

/-- A document has a string of a form as its identifier. -/
theorem Document.id?_any_iff (doc : Document) (p : Pattern) :
    doc.id?.any p.isMatch = true ↔
      ∃ id, doc.get? "_id" = some (.string id) ∧ p.isMatch id = true := by
  unfold Document.id?
  cases hid : doc.get? "_id" with
  | none => simp
  | some v => cases v <;> simp [Json.asString?]

namespace Definition

variable {d : Definition}

/-- The report on the identifier. -/
theorem idViolations_reports (hd : d.Static) (op : Operation) (s : Situation) :
    Reports (d.idViolations op s) (d.FitsIdentifier op s.newDoc) := by
  cases op with
  | replace => exact Reports.none.congr (iff_of_true trivial nofun)
  | remove => exact Reports.none.congr (iff_of_true trivial nofun)
  | add =>
    obtain ⟨pattern, hpattern, hspec⟩ := hd.idPattern.valueOf? s
    have hreport : d.idViolations .add s =
        .ok (breach pattern (fun p => s.newDoc.id?.any p.isMatch) fun p =>
          .idMismatch p.source) := by
      unfold idViolations
      rw [hpattern]
      rfl
    refine ⟨_, hreport, ?_⟩
    rw [breach_eq_nil_iff]
    constructor
    · intro h _ p hp
      exact (Document.id?_any_iff _ p).mp (h p ((hspec p).mpr hp))
    · intro h p hp
      exact (Document.id?_any_iff _ p).mpr (h rfl p ((hspec p).mp hp))

/-- The report on the protection of the prior document. -/
theorem revisionViolations_reports (hd : d.Static) (op : Operation) (s : Situation) :
    Reports (d.revisionViolations op s) (d.LeavesOpen op s.oldDoc) := by
  unfold revisionViolations LeavesOpen Situation.hasOld
  cases s.oldDoc with
  | none => exact Reports.none.congr (iff_of_true trivial fun h => absurd rfl h)
  | some old =>
    -- an immutable definition refuses both operations, whatever else it says
    obtain himm | himm := hd.immutable.on_or_off
    · rw [himm]
      exact ⟨_, rfl, iff_of_false (List.cons_ne_nil _ _) fun h => nomatch (h nofun).1⟩
    · rw [himm]
      obtain ⟨replaceable, hrep⟩ := hd.cannotReplace
      obtain ⟨deletable, hdel⟩ := hd.cannotDelete
      rw [hrep, hdel]
      cases op with
      | add => exact Reports.none.congr (iff_of_true trivial fun _ => ⟨rfl, nofun, nofun⟩)
      | replace => exact Reports.single.congr (by simp)
      | remove => exact Reports.single.congr (by simp)

/-- The report on the attachments is given. -/
theorem attachments_report {rules : AttachmentRules} (h : rules.Static)
    (references : StringSet) (s : Situation) :
    ∃ found, rules.violations references s = .ok found := by
  unfold AttachmentRules.violations
  by_cases hfiles : s.newDoc.attachments.isEmpty = true
  · rw [if_pos hfiles]
    exact ⟨[], rfl⟩
  · rw [if_neg hfiles]
    obtain ⟨allow, hallow⟩ := h.allow
    obtain ⟨count, hcount, _⟩ := h.maximumCount.valueOf? s
    obtain ⟨size, hsize, _⟩ := h.maximumIndividualSize.valueOf? s
    obtain ⟨total, htotal, _⟩ := h.maximumTotalSize.valueOf? s
    obtain ⟨extensions, hext, _⟩ := h.supportedExtensions.valueOf? s
    obtain ⟨types, htypes, _⟩ := h.supportedContentTypes.valueOf? s
    obtain ⟨pattern, hpattern, _⟩ := h.filenamePattern.valueOf? s
    obtain ⟨references, hrefs⟩ := h.requireReferences
    unfold AttachmentRules.resolve
    rw [hallow, hcount, hsize, htotal, hext, htypes, hpattern, hrefs]
    exact ⟨_, rfl⟩

/-- The walk over a document is told whether unknown properties are allowed. -/
theorem walk_of_static (hd : d.Static) (s : Situation) :
    ∃ allowUnknown, d.allowUnknownProperties = .literal allowUnknown ∧
      d.walk s = .ok (Walk.document d.properties allowUnknown s) := by
  obtain ⟨allowUnknown, hallow⟩ := hd.allowUnknownProperties
  refine ⟨allowUnknown, hallow, ?_⟩
  unfold walk
  rw [hallow]
  rfl

/-- A document in which nothing is found conforms to the declared properties. -/
theorem FindsNothing.conforms {s : Situation} (h : d.FindsNothing s) (hd : d.Static) :
    ∃ allowUnknown, d.allowUnknownProperties = .literal allowUnknown ∧
      Walk.Conforms d.properties allowUnknown s := by
  obtain ⟨trace, htrace, _, hclean, _⟩ := h
  obtain ⟨allowUnknown, hallow, hwalk⟩ := walk_of_static hd s
  rw [hwalk] at htrace
  cases htrace
  exact ⟨allowUnknown, hallow,
    (Walk.document_decides hd.properties allowUnknown s).clean_iff.mp hclean⟩

/-- The report on the content is what the walk and the rules for attachments
    report, one after the other. -/
theorem contentViolations_eq (hd : d.Static) (s : Situation) :
    ∃ allowUnknown found, d.allowUnknownProperties = .literal allowUnknown ∧
      d.attachments.violations (Walk.document d.properties allowUnknown s).references s =
        .ok found ∧
      d.contentViolations s =
        .ok ((Walk.document d.properties allowUnknown s).violations ++ found.map .document) := by
  obtain ⟨allowUnknown, hallow, hwalk⟩ := walk_of_static hd s
  obtain ⟨found, hfound⟩ := attachments_report hd.attachments
    (Walk.document d.properties allowUnknown s).references s
  refine ⟨allowUnknown, found, hallow, hfound, ?_⟩
  unfold contentViolations
  rw [hwalk]
  show (Walk.document d.properties allowUnknown s).outcome >>= _ = _
  rw [(Walk.document_decides hd.properties allowUnknown s).ends]
  show d.attachments.violations _ s >>= _ = _
  rw [hfound]
  rfl

/-- The report on the content. -/
theorem contentViolations_reports (hd : d.Static) (s : Situation) :
    Reports (d.contentViolations s) (d.FindsNothing s) := by
  obtain ⟨allowUnknown, found, hallow, hfound, hcontent⟩ := contentViolations_eq hd s
  obtain ⟨_, hallow', hwalk⟩ := walk_of_static hd s
  rw [hallow] at hallow'
  cases hallow'
  have hends := (Walk.document_decides hd.properties allowUnknown s).ends
  refine ⟨_, hcontent, ?_⟩
  -- the two lists are empty together exactly if both are
  rw [List.append_eq_nil_iff, List.map_eq_nil_iff]
  constructor
  · intro h
    obtain ⟨hclean, rfl⟩ := h
    exact ⟨_, hwalk, hends, hclean, hfound⟩
  · intro h
    obtain ⟨trace, htrace, _, hclean, hattachments⟩ := h
    rw [hwalk] at htrace
    cases htrace
    rw [hfound] at hattachments
    exact ⟨hclean, Except.ok.inj hattachments⟩

/-- The whole report is what the three parts report, one after the other. -/
theorem violations_eq {op : Operation} {s : Situation} {id revision : List DocumentViolation}
    {content : List Violation} (hid : d.idViolations op s = .ok id)
    (hrevision : d.revisionViolations op s = .ok revision)
    (hcontent : (if op = .remove then .ok [] else d.contentViolations s) = .ok content) :
    d.violations op s = .ok (id.map .document ++ revision.map .document ++ content) := by
  unfold violations
  rw [hid, hrevision]
  show (if op = .remove then _ else _) = _
  by_cases hop : op = .remove
  · rw [if_pos hop] at hcontent ⊢
    rw [← Except.ok.inj hcontent]
    rfl
  · rw [if_neg hop] at hcontent ⊢
    rw [hcontent]
    rfl

/-- The whole report. -/
theorem violations_reports (hd : d.Static) (op : Operation) (s : Situation) :
    Reports (d.violations op s)
      (d.FitsIdentifier op s.newDoc ∧ d.LeavesOpen op s.oldDoc ∧
        (op ≠ .remove → d.FindsNothing s)) := by
  obtain ⟨id, hid, hidIff⟩ := idViolations_reports hd op s
  obtain ⟨revision, hrevision, hrevisionIff⟩ := revisionViolations_reports hd op s
  obtain ⟨content, hcontent, hcontentIff⟩ :
      Reports (if op = .remove then .ok [] else d.contentViolations s)
        (op ≠ .remove → d.FindsNothing s) := by
    by_cases hop : op = .remove
    · rw [if_pos hop]
      exact Reports.none.congr (iff_of_true trivial fun h => absurd hop h)
    · rw [if_neg hop]
      exact (contentViolations_reports hd s).congr ⟨fun h _ => h, fun h => h hop⟩
  refine ⟨_, violations_eq hid hrevision hcontent, ?_⟩
  rw [List.append_eq_nil_iff, List.append_eq_nil_iff, List.map_eq_nil_iff, List.map_eq_nil_iff,
    hidIff, hrevisionIff, hcontentIff, and_assoc]

end Definition

/-! ## Decisions -/

namespace Decision

/-- An action that is not there has no part in the decision. -/
theorem act_none (call : ActionCall) : act {} call = pure () := by
  unfold act Actions.at?
  cases call.stage <;> rfl

/-- The type and the violations that are reported of an invalid document. -/
def invalid? : Except Rejection Acceptance → Option (String × List Violation)
  | .error (.invalid docType report) => some (docType, report)
  | _ => none

theorem invalid?_eq_some_iff {outcome : Except Rejection Acceptance} {docType : String}
    {report : List Violation} :
    invalid? outcome = some (docType, report) ↔ outcome = .error (.invalid docType report) := by
  unfold invalid?
  split <;> simp_all

/-- How a write ends that a static definition governs: one case for each end. -/
inductive Verdict (docType : String) (d : Definition) (r : Request) :
    Except Rejection Acceptance → Prop where
  | unauthorized {reason : DenialReason} :
      ¬ d.authorization.Opens r.operation r.context.principal →
      r.context.principal.isAnonymous = true →
      Verdict docType d r (.error (.unauthorized reason))
  | forbidden {reason : DenialReason} :
      ¬ d.authorization.Opens r.operation r.context.principal →
      r.context.principal.isAnonymous = false →
      Verdict docType d r (.error (.forbidden reason))
  | invalid {report : List Violation} :
      d.authorization.Opens r.operation r.context.principal →
      d.violations r.operation r.situation = .ok report → report ≠ [] →
      ¬ d.Accepts r.operation r.situation →
      Verdict docType d r (.error (.invalid docType report))
  | accepted {a : Acceptance} :
      d.Accepts r.operation r.situation → a.docType = some docType →
      a.operation = r.operation → Verdict docType d r (.ok a)

/-- The grants are asked first, then the report; a definition without actions
    has no other say. -/
theorem governed_verdict {d : Definition} (hd : d.Static) (docType : String) (r : Request) :
    Verdict docType d r (governed docType d r).outcome := by
  obtain ⟨grant, hgrant, hop, hopens⟩ := d.authorization.grant_of_static hd.authorization
    r.operation r.situation
  obtain ⟨report, hreport, hclean⟩ := Definition.violations_reports hd r.operation r.situation
  have hgrants := hopens r.context.principal
  -- without actions, two computations are left that could end the decision
  unfold governed
  rw [hd.actions]
  simp only [act_none, Logged.pure_bind]
  rw [Logged.outcome_bind, hgrant]
  show Verdict docType d r (authorize grant r.context.principal >>= _).outcome
  unfold authorize
  cases hcheck : grant.check r.context.principal with
  | some reason =>
    have hclosed : ¬ d.authorization.Opens r.operation r.context.principal := by
      rw [← hgrants, hcheck]
      nofun
    cases hanonymous : r.context.principal.isAnonymous with
    | true => exact .unauthorized hclosed hanonymous
    | false => exact .forbidden hclosed hanonymous
  | none =>
    -- the writer is let in, so the report decides
    have hopen := hgrants.mp hcheck
    show Verdict docType d r (ofDefinition (d.violations r.operation r.situation) >>= _).outcome
    rw [Logged.outcome_bind, hreport]
    cases report with
    | nil =>
      obtain ⟨hid, hrevision, hcontent⟩ := hclean.mp rfl
      exact .accepted ⟨hopen, hid, hrevision, hcontent⟩ rfl hop
    | cons v rest =>
      refine .invalid hopen hreport (List.cons_ne_nil _ _) fun h => ?_
      cases hclean.mpr ⟨h.identifier, h.revision, h.content⟩

end Decision

/-! ## Which definition governs -/

/-- Filters that are not predicates accept by the named type and the identifier. -/
theorem TypeFilter.accepts_congr {filter : TypeFilter} (hfilter : ∀ f, filter ≠ .custom f)
    (docType : String) {new new' : Document} {old old' : Option Document}
    (htype : governingType? new old = governingType? new' old')
    (hid : governingId? new old = governingId? new' old') :
    filter.accepts docType new old = filter.accepts docType new' old' := by
  cases filter with
  | simple =>
    unfold TypeFilter.accepts
    rw [htype]
  | idPattern p =>
    unfold TypeFilter.accepts
    rw [hid]
  | custom f => exact absurd rfl (hfilter f)

namespace Definitions

/-- The definition is the first, in order, whose filter accepts the document
    pair. -/
def Governs (definitions : Definitions) (docType : String) (d : Definition)
    (newDoc : Document) (oldDoc : Option Document) : Prop :=
  ∃ before after, definitions = before ++ (docType, d) :: after ∧
    d.typeFilter.accepts docType newDoc oldDoc = true ∧
    ∀ e ∈ before, e.2.typeFilter.accepts e.1 newDoc oldDoc = false

/-- No filter accepts the document pair. -/
def Ungoverned (definitions : Definitions) (newDoc : Document) (oldDoc : Option Document) :
    Prop :=
  ∀ e ∈ definitions, e.2.typeFilter.accepts e.1 newDoc oldDoc = false

variable {definitions : Definitions} {docType : String} {d : Definition} {newDoc : Document}
  {oldDoc : Option Document}

/-- What is identified is the definition that governs the pair. -/
theorem identify_eq_some_iff :
    definitions.identify newDoc oldDoc = some (docType, d) ↔
      definitions.Governs docType d newDoc oldDoc := by
  unfold identify Governs
  rw [List.find?_eq_some_iff_append]
  constructor
  · intro h
    obtain ⟨haccepts, before, after, hsplit, hbefore⟩ := h
    exact ⟨before, after, hsplit, haccepts, fun e he => Bool.not_eq_true' _ ▸ hbefore e he⟩
  · intro h
    obtain ⟨before, after, hsplit, haccepts, hbefore⟩ := h
    exact ⟨haccepts, before, after, hsplit, fun e he => Bool.not_eq_true' _ ▸ hbefore e he⟩

/-- Nothing is identified if no filter accepts the pair. -/
theorem identify_eq_none_iff :
    definitions.identify newDoc oldDoc = none ↔ definitions.Ungoverned newDoc oldDoc := by
  unfold identify Ungoverned
  rw [List.find?_eq_none]
  simp only [Bool.not_eq_true]

/-- A definition that governs a pair is one of the set. -/
theorem Governs.mem (h : definitions.Governs docType d newDoc oldDoc) :
    (docType, d) ∈ definitions := by
  obtain ⟨before, after, rfl, _⟩ := h
  exact List.mem_append_right _ List.mem_cons_self

/-- The filter of a definition that governs a pair accepts it. -/
theorem Governs.accepts (h : definitions.Governs docType d newDoc oldDoc) :
    d.typeFilter.accepts docType newDoc oldDoc = true := by
  obtain ⟨_, _, _, haccepts, _⟩ := h
  exact haccepts

/-- A pair that is governed is not ungoverned. -/
theorem Governs.not_ungoverned (h : definitions.Governs docType d newDoc oldDoc) :
    ¬ definitions.Ungoverned newDoc oldDoc := by
  intro hnone
  have hrefused := hnone _ h.mem
  rw [h.accepts] at hrefused
  cases hrefused

/-- At most one definition governs a pair. -/
theorem Governs.unique {docType' : String} {d' : Definition}
    (h : definitions.Governs docType d newDoc oldDoc)
    (h' : definitions.Governs docType' d' newDoc oldDoc) : docType = docType' ∧ d = d' := by
  have hsame := (identify_eq_some_iff.mpr h).symm.trans (identify_eq_some_iff.mpr h')
  cases hsame
  exact ⟨rfl, rfl⟩

/-- Pairs that name the same type and the same identifier are governed alike. -/
theorem Governs.congr {new new' : Document} {old old' : Option Document}
    (h : definitions.Governs docType d new old) (hstatic : definitions.Static)
    (htype : governingType? new old = governingType? new' old')
    (hid : governingId? new old = governingId? new' old') :
    definitions.Governs docType d new' old' := by
  have hcongr {e : String × Definition} (he : e ∈ definitions) :=
    TypeFilter.accepts_congr (hstatic e he).typeFilter e.1 htype hid
  obtain ⟨before, after, rfl, haccepts, hbefore⟩ := id h
  refine ⟨before, after, rfl, ?_, fun e he => ?_⟩
  · rw [← hcongr h.mem]
    exact haccepts
  · rw [← hcongr (List.mem_append_left _ he)]
    exact hbefore e he

/-- Pairs that name the same type and the same identifier are ungoverned alike. -/
theorem Ungoverned.congr {new new' : Document} {old old' : Option Document}
    (h : definitions.Ungoverned new old) (hstatic : definitions.Static)
    (htype : governingType? new old = governingType? new' old')
    (hid : governingId? new old = governingId? new' old') : definitions.Ungoverned new' old' := by
  intro e he
  rw [← TypeFilter.accepts_congr (hstatic e he).typeFilter e.1 htype hid]
  exact h e he

/-! ## Decisions of a set -/

/-- The decision on a governed write is that of the definition. -/
theorem decide_of_governs {r : Request} (options : Options)
    (h : definitions.Governs docType d r.proposed r.prior) :
    definitions.decide options r = Decision.governed docType d r := by
  unfold decide
  rw [identify_eq_some_iff.mpr h]

/-- The decision on a write that no definition governs. -/
theorem decide_of_ungoverned {r : Request} (options : Options)
    (h : definitions.Ungoverned r.proposed r.prior) :
    definitions.decide options r = Decision.ungoverned options r := by
  unfold decide
  rw [identify_eq_none_iff.mpr h]

/-- A write is governed by a definition or by none. -/
theorem governs_or_ungoverned (definitions : Definitions) (newDoc : Document)
    (oldDoc : Option Document) :
    (∃ docType d, definitions.Governs docType d newDoc oldDoc) ∨
      definitions.Ungoverned newDoc oldDoc := by
  cases h : definitions.identify newDoc oldDoc with
  | none => exact .inr (identify_eq_none_iff.mp h)
  | some e => exact .inl ⟨e.1, e.2, identify_eq_some_iff.mp h⟩

/-- What is accepted is accepted by the definition that governs it, under its
    name. -/
theorem Governs.accepts_of_accepted {r : Request} {options : Options} {a : Acceptance}
    (h : definitions.Governs docType d r.proposed r.prior) (hstatic : definitions.Static)
    (ha : (definitions.decide options r).outcome = .ok a) :
    d.Accepts r.operation r.situation ∧ a.docType = some docType ∧
      a.operation = r.operation := by
  have hverdict := Decision.governed_verdict (hstatic _ h.mem) docType r
  rw [decide_of_governs options h] at ha
  rw [ha] at hverdict
  cases hverdict with
  | accepted haccepts htype hop => exact ⟨haccepts, htype, hop⟩

/-- A write is accepted under a type exactly if a definition under that name
    governs and accepts it. -/
theorem accepted_iff (hstatic : definitions.Static) (options : Options) (r : Request)
    (docType : String) :
    (∃ a, (definitions.decide options r).outcome = .ok a ∧ a.docType = some docType) ↔
      ∃ d, definitions.Governs docType d r.proposed r.prior ∧
        d.Accepts r.operation r.situation := by
  -- a governed write ends as its definition says, any other without a type
  rcases definitions.governs_or_ungoverned r.proposed r.prior with ⟨t, d, hgov⟩ | hnone
  · constructor
    · intro h
      obtain ⟨a, ha, ht⟩ := h
      obtain ⟨haccepts, htype, _⟩ := hgov.accepts_of_accepted hstatic ha
      rw [ht] at htype
      cases htype
      exact ⟨d, hgov, haccepts⟩
    · intro h
      obtain ⟨d', hgov', haccepts⟩ := h
      obtain ⟨rfl, rfl⟩ := hgov.unique hgov'
      have hverdict := Decision.governed_verdict (hstatic _ hgov.mem) t r
      rw [decide_of_governs options hgov]
      generalize hout : (Decision.governed t d r).outcome = outcome at hverdict
      cases hverdict with
      | unauthorized hclosed _ => exact absurd haccepts.access hclosed
      | forbidden hclosed _ => exact absurd haccepts.access hclosed
      | invalid _ _ _ hrefused => exact absurd haccepts hrefused
      | accepted _ htype _ => exact ⟨_, rfl, htype⟩
  · rw [decide_of_ungoverned options hnone]
    constructor
    · intro h
      obtain ⟨a, ha, ht⟩ := h
      unfold Decision.ungoverned at ha
      split at ha
      · cases ha
        cases ht
      · cases ha
    · intro h
      obtain ⟨d, hgov, _⟩ := h
      exact absurd hnone hgov.not_ungoverned

end Definitions

end WritePolicy
