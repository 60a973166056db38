import WritePolicy.Proofs.Agreement
import WritePolicy.Proofs.Decision
import WritePolicy.Proofs.Reading

/-! # Decisions go by content

    Two requests whose documents have the same content are decided alike. They do
    the same to the same stored document, so they are governed by one definition,
    which asks the same of them; the walks over their documents log the same events.
    Only the order of violations follows the order in which a document lists its
    fields.
-/

namespace WritePolicy

/-! ## Requests -/

/-- The documents of two requests have the same content, and their contexts are the
    same. A request without a new document proposes the marker of a deletion. -/
structure Request.Alike (r r' : Request) : Prop where
  proposed : r.proposed.Alike r'.proposed
  oldDoc : Option.Rel Document.Alike r.oldDoc r'.oldDoc
  context : r.context = r'.context

/-- Two situations have documents of the same content, and one writer. -/
structure Situation.Alike (s s' : Situation) : Prop where
  newDoc : s.newDoc.Alike s'.newDoc
  oldDoc : Option.Rel Document.Alike s.oldDoc s'.oldDoc
  principal : s.principal = s'.principal

namespace Request.Alike

variable {r r' : Request}

/-- Requests are alike if their new documents are, or if both delete. -/
theorem of_newDoc (hnew : Option.Rel Document.Alike r.newDoc r'.newDoc)
    (hold : Option.Rel Document.Alike r.oldDoc r'.oldDoc) (hcontext : r.context = r'.context) :
    r.Alike r' := by
  refine ⟨?_, hold, hcontext⟩
  unfold Request.proposed
  generalize r.newDoc = new, r'.newDoc = new' at hnew
  cases hnew with
  | none => exact Document.isRead_deletionMarker.alike
  | some hdoc => exact hdoc

/-- The live prior documents have the same content. -/
theorem prior (h : r.Alike r') : Option.Rel Document.Alike r.prior r'.prior := by
  refine filter_rel h.oldDoc fun d d' hdoc => ?_
  rw [hdoc.isDeleted_eq]

theorem situation (h : r.Alike r') : r.situation.Alike r'.situation where
  newDoc := h.proposed
  oldDoc := h.prior
  principal := congrArg WriteContext.principal h.context

/-- Alike requests do the same to the stored document. -/
theorem operation_eq (h : r.Alike r') : r.operation = r'.operation := by
  have hprior := h.prior
  unfold Request.operation Operation.classify
  rw [h.proposed.isDeleted_eq]
  generalize r.prior = prior, r'.prior = prior' at hprior
  cases hprior <;> rfl

end Request.Alike

/-! ## Which definition governs -/

section Filters

variable {newDoc newDoc' : Document} {oldDoc oldDoc' : Option Document}

theorem governingType?_eq (hnew : newDoc.Alike newDoc')
    (hold : Option.Rel Document.Alike oldDoc oldDoc') :
    governingType? newDoc oldDoc = governingType? newDoc' oldDoc' := by
  have hname {d d' : Document} (h : d.Alike d') : d.typeName? = d'.typeName? := h.string_eq "type"
  unfold governingType?
  cases hold with
  | none => exact hname hnew
  | some hdoc =>
    simp only []
    rw [hnew.isDeleted_eq, hname hnew, hname hdoc]

theorem governingId?_eq (hnew : newDoc.Alike newDoc')
    (hold : Option.Rel Document.Alike oldDoc oldDoc') :
    governingId? newDoc oldDoc = governingId? newDoc' oldDoc' := by
  have hid {d d' : Document} (h : d.Alike d') : d.id? = d'.id? := h.string_eq "_id"
  unfold governingId?
  rw [hid hnew]
  cases hold with
  | none => rfl
  | some hdoc => rw [Option.bind_some, Option.bind_some, hid hdoc]

end Filters

/-! ## What a definition asks -/

namespace Slot

variable {α : Type}

/-- A literal has one value in all situations. -/
theorem IsLiteral.value_eq {slot : Slot α} (h : slot.IsLiteral) (s s' : Situation) :
    slot.value s = slot.value s' := by
  obtain ⟨a, rfl⟩ := h
  rfl

theorem LiteralIfSet.valueOf?_eq {slot : Option (Slot α)} (h : LiteralIfSet slot)
    (s s' : Situation) : Slot.valueOf? slot s = Slot.valueOf? slot s' := by
  obtain rfl | ⟨a, rfl⟩ := h.cases
  · rfl
  · rfl

end Slot

/-- Static grants are the same in all situations. -/
theorem Authorization.grant_eq {a : Authorization} (ha : a.Static) (op : Operation)
    (s s' : Situation) : a.grant op s = a.grant op s' := by
  unfold grant
  rw [ha.channels.valueOf?_eq s s', ha.roles.valueOf?_eq s s', ha.users.valueOf?_eq s s',
    ha.allMembers.value_eq s s']

/-- Static rules for attachments are the same in all situations. -/
theorem AttachmentRules.resolve_eq {rules : AttachmentRules} (h : rules.Static)
    (s s' : Situation) : rules.resolve s = rules.resolve s' := by
  unfold resolve
  rw [h.allow.value_eq s s', h.maximumCount.valueOf?_eq s s',
    h.maximumIndividualSize.valueOf?_eq s s', h.supportedExtensions.valueOf?_eq s s',
    h.supportedContentTypes.valueOf?_eq s s', h.filenamePattern.valueOf?_eq s s',
    h.requireReferences.value_eq s s', h.maximumTotalSize.valueOf?_eq s s']

/-! ## Reports -/

namespace StringSet

variable {m member : String}

theorem mem_insert {set : StringSet} : m ∈ insert member set ↔ m = member ∨ m ∈ set := by
  induction set with
  | nil => exact List.mem_singleton.trans (by simp)
  | cons first rest ih =>
    unfold insert
    split
    · exact List.mem_cons
    · split
      · next heq =>
        rw [heq]
        simp
      · rw [List.mem_cons, ih, List.mem_cons]
        exact or_left_comm

/-- A set has the members of the list that it was made of. -/
theorem mem_ofList {members : List String} : m ∈ ofList members ↔ m ∈ members := by
  have hall (set : StringSet) : m ∈ insertAll set members ↔ m ∈ set ∨ m ∈ members := by
    induction members generalizing set with
    | nil => simp [insertAll]
    | cons first rest ih =>
      show m ∈ insertAll (insert first set) rest ↔ _
      rw [ih, mem_insert, List.mem_cons]
      exact or_assoc.trans or_left_comm
  exact (hall []).trans (by simp)

end StringSet

namespace Trace

variable {t u : Trace Unit}

theorem Agrees.violations (h : Agrees t u) : t.violations.Perm u.violations :=
  h.log.filterMap _

/-- Traces that agree refer to the same attachments. -/
theorem Agrees.contains_references (h : Agrees t u) (filename : String) :
    t.references.contains filename = u.references.contains filename := by
  rw [Bool.eq_iff_iff, List.contains_iff_mem, List.contains_iff_mem]
  unfold references
  rw [StringSet.mem_ofList, StringSet.mem_ofList]
  exact (h.log.filterMap _).mem_iff

end Trace

/-- Which attachments are referred to is all that matters of the references. -/
theorem AttachmentLimits.violations_congr (limits : AttachmentLimits)
    {references references' : StringSet}
    (h : ∀ filename, references.contains filename = references'.contains filename)
    (files : Entries AttachmentDescriptor) :
    limits.violations references files = limits.violations references' files := by
  unfold violations fileViolations
  simp only [h]

namespace Definition

variable {d : Definition} {s s' : Situation}

theorem idViolations_congr (hd : d.Static) (op : Operation) (h : s.Alike s') :
    d.idViolations op s = d.idViolations op s' := by
  unfold idViolations
  rw [hd.idPattern.valueOf?_eq s s', show s.newDoc.id? = s'.newDoc.id? from h.newDoc.string_eq "_id"]

theorem revisionViolations_congr (hd : d.Static) (op : Operation) (h : s.Alike s') :
    d.revisionViolations op s = d.revisionViolations op s' := by
  have hhas : s.hasOld = s'.hasOld := isSome_eq_of_rel h.oldDoc
  unfold revisionViolations
  rw [hhas, hd.immutable.value_eq s s', hd.cannotReplace.value_eq s s',
    hd.cannotDelete.value_eq s s']

/-- The walks over the new documents agree. -/
theorem walk_agrees (hd : d.Static) (allowUnknown : Bool) (h : s.Alike s') :
    (Walk.document d.properties allowUnknown s).Agrees
      (Walk.document d.properties allowUnknown s') := by
  have hold : Option.Rel Json.Alike (s.oldDoc.map Document.toJson)
      (s'.oldDoc.map Document.toJson) :=
    map_rel h.oldDoc fun _ _ hdoc => hdoc.toJson
  exact Walk.document_agrees hd.properties allowUnknown h.newDoc.attachments_eq h.newDoc.toJson hold

/-- The reports on the content are the same up to their order. -/
theorem contentViolations_perm (hd : d.Static) (h : s.Alike s') :
    ∃ vs ws, d.contentViolations s = .ok vs ∧ d.contentViolations s' = .ok ws ∧ vs.Perm ws := by
  obtain ⟨allowUnknown, found, hallow, hfound, hcontent⟩ := contentViolations_eq hd s
  obtain ⟨allowUnknown', found', hallow', hfound', hcontent'⟩ := contentViolations_eq hd s'
  rw [hallow] at hallow'
  cases hallow'
  have hwalk := walk_agrees hd allowUnknown h
  -- the attachments are checked with the references that the walk has logged
  have hsame : found = found' := by
    have hattachments : d.attachments.violations
        (Walk.document d.properties allowUnknown s).references s = d.attachments.violations
        (Walk.document d.properties allowUnknown s').references s' := by
      unfold AttachmentRules.violations
      rw [h.newDoc.attachments_eq, AttachmentRules.resolve_eq hd.attachments s s']
      simp only [AttachmentLimits.violations_congr _ hwalk.contains_references]
    rw [hfound, hfound'] at hattachments
    exact Except.ok.inj hattachments
  exact ⟨_, _, hcontent, hcontent', hsame ▸ hwalk.violations.append_right _⟩

/-- The whole reports are the same up to their order. -/
theorem violations_perm (hd : d.Static) (op : Operation) (h : s.Alike s') :
    ∃ vs ws, d.violations op s = .ok vs ∧ d.violations op s' = .ok ws ∧ vs.Perm ws := by
  obtain ⟨id, hid, _⟩ := idViolations_reports hd op s
  obtain ⟨revision, hrevision, _⟩ := revisionViolations_reports hd op s
  have hid' : d.idViolations op s' = .ok id := idViolations_congr hd op h ▸ hid
  have hrevision' : d.revisionViolations op s' = .ok revision :=
    revisionViolations_congr hd op h ▸ hrevision
  obtain ⟨vs, ws, hvs, hws, hperm⟩ : ∃ vs ws,
      (if op = .remove then .ok [] else d.contentViolations s) = .ok vs ∧
        (if op = .remove then .ok [] else d.contentViolations s') = .ok ws ∧ vs.Perm ws := by
    by_cases hop : op = .remove
    · rw [if_pos hop, if_pos hop]
      exact ⟨[], [], rfl, rfl, .refl _⟩
    · rw [if_neg hop, if_neg hop]
      exact contentViolations_perm hd h
  exact ⟨_, _, violations_eq hid hrevision hvs, violations_eq hid' hrevision' hws,
    hperm.append_left _⟩

end Definition

/-! ## Decisions -/

/-- The results of two requests are the same, where the violations of an invalid
    document may be listed in another order. -/
inductive SameResult : Except Rejection Acceptance → Except Rejection Acceptance → Prop where
  | refl (outcome : Except Rejection Acceptance) : SameResult outcome outcome
  | invalid {docType : String} {vs ws : List Violation} : vs.Perm ws →
      SameResult (.error (.invalid docType vs)) (.error (.invalid docType ws))

/-- Two invalid documents of one result are of one type, with the same violations. -/
theorem SameResult.perm {docType docType' : String} {vs ws : List Violation}
    (h : SameResult (.error (.invalid docType vs)) (.error (.invalid docType' ws))) :
    docType = docType' ∧ vs.Perm ws := by
  cases h with
  | refl => exact ⟨rfl, .refl _⟩
  | invalid hperm => exact ⟨rfl, hperm⟩

variable {definitions : Definitions} {d : Definition} {r r' : Request}

/-- A definition decides alike requests alike. -/
theorem Decision.governed_same (hd : d.Static) (docType : String) (h : r.Alike r') :
    SameResult (governed docType d r).outcome (governed docType d r').outcome := by
  obtain ⟨g, hgrant, _⟩ := d.authorization.grant_of_static hd.authorization r.operation r.situation
  have hgrant' : d.authorization.grant r'.operation r'.situation = .ok g := by
    rw [← h.operation_eq, ← Authorization.grant_eq hd.authorization _ r.situation]
    exact hgrant
  obtain ⟨vs, ws, hvs, hws, hperm⟩ := Definition.violations_perm hd r.operation h.situation
  rw [h.operation_eq] at hws
  -- without actions, the grants and the reports decide
  unfold governed
  rw [hd.actions]
  simp only [act_none, Logged.pure_bind]
  rw [Logged.outcome_bind, Logged.outcome_bind, hgrant, hgrant']
  show SameResult (authorize g r.context.principal >>= _).outcome
    (authorize g r'.context.principal >>= _).outcome
  rw [h.context]
  unfold authorize
  cases g.check r'.context.principal with
  | some reason => exact .refl _
  | none =>
    show SameResult (ofDefinition (d.violations r.operation r.situation) >>= _).outcome
      (ofDefinition (d.violations r'.operation r'.situation) >>= _).outcome
    rw [Logged.outcome_bind, Logged.outcome_bind, hvs, hws]
    cases vs with
    | nil =>
      -- an empty report is empty in any order
      rw [hperm.nil_eq]
      exact .refl _
    | cons v rest =>
      cases ws with
      | nil => cases hperm.eq_nil
      | cons w others => exact .invalid hperm

/-- Nobody but an administrator writes what no definition governs, alike or not. -/
theorem Decision.ungoverned_eq (options : Options) (h : r.Alike r') :
    ungoverned options r = ungoverned options r' := by
  unfold ungoverned
  rw [h.proposed.isDeleted_eq, h.context]

/-- Requests whose documents have the same content get the same result: numbers may
    be written and fields may be ordered in any way, at any depth. -/
theorem decide_respects_content (hload : definitions.Loaded) (options : Options)
    (h : r.Alike r') : SameResult (definitions.decide options r).outcome
      (definitions.decide options r').outcome := by
  have hstatic := hload.static
  have htype := governingType?_eq h.proposed h.prior
  have hid := governingId?_eq h.proposed h.prior
  rcases definitions.governs_or_ungoverned r.proposed r.prior with ⟨docType, d, hgov⟩ | hnone
  · have hgov' := hgov.congr hstatic htype hid
    rw [Definitions.decide_of_governs options hgov, Definitions.decide_of_governs options hgov']
    exact Decision.governed_same (hstatic _ hgov.mem) docType h
  · have hnone' := hnone.congr hstatic htype hid
    rw [Definitions.decide_of_ungoverned options hnone,
      Definitions.decide_of_ungoverned options hnone', Decision.ungoverned_eq options h]
    exact .refl _

/-- Sheets: a table of numbers, and their total, which may not change. -/
def sheetText : String :=
  (Json.object [("sheet", .object [
    ("typeFilter", .object [("idPattern", .string "s[0-9]+")]),
    ("channels", .string "desk"),
    ("propertyValidators", .object [
      ("cells", .object [("type", .string "hashtable"),
        ("hashtableValuesValidator", .object [("type", .string "integer")])]),
      ("total", .object [("type", .string "integer"), ("immutable", .bool true)])])])]).compact

/-- The float 1. -/
def floatOne : Json :=
  .number (.float ((Binary64.ofNat? 1).getD (.zero false)))

/-- A sheet with two cells that are no numbers. -/
def sheet (total : Json) : Document :=
  ⟨[("_id", .string "s1"), ("total", total),
    ("cells", .object [("a", .string "x"), ("b", .string "y")])], []⟩

/-- The sheet with the fields in another order. -/
def reorderedSheet (total : Json) : Document :=
  ⟨[("cells", .object [("b", .string "y"), ("a", .string "x")]),
    ("total", total), ("_id", .string "s1")], []⟩

/-- A sheet is replaced by the desk. -/
def sheetRequest (new old : Document) : Request :=
  { newDoc := some new, oldDoc := some old, context := { principal := { channels := ["desk"] } } }

theorem isRead_sheet {total : Json} (h : total.UniqueKeys) : (sheet total).IsRead :=
  ⟨by simp [sheet, Document.toJson, Json.UniqueKeys, Json.UniqueKeysFields, h], rfl⟩

theorem isRead_reorderedSheet {total : Json} (h : total.UniqueKeys) :
    (reorderedSheet total).IsRead :=
  ⟨by simp [reorderedSheet, Document.toJson, Json.UniqueKeys, Json.UniqueKeysFields, h], rfl⟩

/-- With fields in another order and `1.0` for `1`, the same cells are reported in
    another order, and the total counts as unchanged. -/
theorem decide_respects_content_sheet :
    ∃ definitions docType vs ws, Definitions.parse .json sheetText = .ok definitions ∧
      (definitions.decide {} (sheetRequest (sheet (.ofNat 1)) (sheet floatOne))).outcome =
        .error (.invalid docType vs) ∧
      (definitions.decide {} (sheetRequest (reorderedSheet floatOne) (sheet (.ofNat 1)))).outcome =
        .error (.invalid docType ws) ∧
      vs.map Violation.pathText? = [some "cells[a]", some "cells[b]"] ∧
      ws.map Violation.pathText? = [some "cells[b]", some "cells[a]"] ∧ vs.Perm ws := by
  have hcompute : ((Definitions.parse .json sheetText).toOption.bind fun definitions =>
      (Decision.invalid? (definitions.decide {}
        (sheetRequest (sheet (.ofNat 1)) (sheet floatOne))).outcome).bind fun report =>
      (Decision.invalid? (definitions.decide {}
        (sheetRequest (reorderedSheet floatOne) (sheet (.ofNat 1)))).outcome).map fun report' =>
        (report.2.map Violation.pathText?, report'.2.map Violation.pathText?)) =
      some ([some "cells[a]", some "cells[b]"], [some "cells[b]", some "cells[a]"]) := by
    rw [sheetText, Definitions.parse_compact]
    decide +kernel
  obtain ⟨definitions, hload, hcompute⟩ := Option.bind_eq_some_iff.mp hcompute
  obtain ⟨⟨docType, vs⟩, houtcome, hcompute⟩ := Option.bind_eq_some_iff.mp hcompute
  obtain ⟨⟨docType', ws⟩, houtcome', hcompute⟩ := Option.map_eq_some_iff.mp hcompute
  simp only [Prod.mk.injEq] at hcompute
  obtain ⟨hvs, hws⟩ := hcompute
  have hload := ok_of_toOption hload
  rw [Decision.invalid?_eq_some_iff] at houtcome houtcome'
  have hnew : (sheet (.ofNat 1)).Alike (reorderedSheet floatOne) :=
    ⟨isRead_sheet trivial, isRead_reorderedSheet trivial, by decide +kernel⟩
  have hold : (sheet floatOne).Alike (sheet (.ofNat 1)) :=
    ⟨isRead_sheet trivial, isRead_sheet trivial, by decide +kernel⟩
  have halike : (sheetRequest (sheet (.ofNat 1)) (sheet floatOne)).Alike
      (sheetRequest (reorderedSheet floatOne) (sheet (.ofNat 1))) :=
    .of_newDoc (.some hnew) (.some hold) rfl
  have hsame := decide_respects_content (.file hload) {} halike
  rw [houtcome, houtcome'] at hsame
  obtain ⟨rfl, hperm⟩ := hsame.perm
  exact ⟨definitions, docType, vs, ws, hload, houtcome, houtcome', hvs, hws, hperm⟩

end WritePolicy
