import WritePolicy.Proofs.AttachmentPolicy
import WritePolicy.Proofs.ComputedSlots
import WritePolicy.Proofs.Composition
import WritePolicy.Proofs.Lifecycle

/-! # The report of an invalid write

    Four checks write one report: of the identifier, of the protection of the prior
    document, of the properties and of the attachments. What each may find depends on
    the operation and on the documents, so a report has a shape (`ReportParts.Of`): the
    first two find at most one violation each and never both, the third finds violations
    of properties only, the fourth finds violations of documents only, and a removal is
    not held against the last two.

    That the violations of properties lie below properties of the document is the one
    fact about the whole walk. Whatever happens during a walk happens at the position
    where the walk started or below it (`item_within`). This is an induction over the
    validator, and it holds of computed slots and of walks that fail as well, since it is
    about what has happened so far.
-/

namespace WritePolicy

/-! ## Walks stay where they started -/

/-- The position at which something happened. -/
def Event.place : Event → Path
  | .violation place _ | .reference place _ | .computation place _ _ => place

namespace Trace

variable {α β : Type} {scope : Path → Prop} {path : Path}

/-- All that happened, happened at positions in a scope. -/
def Within (scope : Path → Prop) (t : Trace α) : Prop :=
  ∀ e ∈ t.log, scope e.place

theorem Within.mono {wider : Path → Prop} {t : Trace α} (h : Within scope t)
    (hwider : ∀ place, scope place → wider place) : Within wider t :=
  fun e he => hwider _ (h e he)

/-- Without events there is nothing to place. -/
theorem within_of_log_nil {t : Trace α} (h : t.log = []) : Within scope t := by
  intro e he
  rw [h] at he
  cases he

theorem within_pure (a : α) : Within scope (pure a : Trace α) :=
  within_of_log_nil rfl

/-- One event is in the scope if its position is. -/
theorem within_single {e : Event} {outcome : Except Misconfiguration α} (h : scope e.place) :
    Within scope (⟨[e], outcome⟩ : Trace α) := by
  intro e' he'
  cases List.mem_singleton.mp he'
  exact h

theorem within_violationIf (condition : Bool) (h : scope path) (v : PropertyViolation) :
    Within scope (violationIf condition path v) := by
  cases condition with
  | true => exact within_single h
  | false => exact within_pure ()

/-- What follows adds its own events. -/
theorem Within.bind {t : Trace α} {f : α → Trace β} (h : Within scope t)
    (hf : ∀ a, Within scope (f a)) : Within scope (t >>= f) := by
  cases hout : t.outcome with
  | error e =>
    rw [Logged.bind_of_error hout]
    exact h
  | ok a =>
    rw [Logged.bind_of_ok hout]
    intro e he
    rcases List.mem_append.mp he with he | he
    · exact h e he
    · exact hf a e he

theorem within_each {f : α → Trace Unit} {members : List α}
    (h : ∀ a ∈ members, Within scope (f a)) : Within scope (Logged.each f members) := by
  induction members with
  | nil => exact within_pure ()
  | cons a rest ih =>
    obtain ⟨hhead, hrest⟩ := List.forall_mem_cons.mp h
    exact hhead.bind fun _ => ih hrest

theorem within_read (c : Constraint) (here : Situation) (slot : Slot α) (h : scope path) :
    Within scope (read path c here slot) := by
  cases slot with
  | literal a => exact within_pure a
  | computed f => exact within_single h

theorem within_readThen (c : Constraint) (here : Situation) {slot : Option (Slot α)}
    {check : α → Trace Unit} (h : scope path) (hcheck : ∀ a, Within scope (check a)) :
    Within scope (readThen path c here slot check) := by
  cases slot with
  | none => exact within_pure ()
  | some slot => exact (within_read c here slot h).bind hcheck

/-- The violations that were found, with their positions. -/
def found (t : Trace α) : List (Path × PropertyViolation) :=
  t.log.filterMap fun
    | .violation place v => some (place, v)
    | _ => none

/-- What is reported is what was found. -/
theorem violations_eq_found (t : Trace α) :
    t.violations = t.found.map fun e => .property e.1 e.2 := by
  unfold violations found
  rw [List.map_filterMap]
  refine List.filterMap_congr fun e _ => ?_
  cases e <;> rfl

/-- What was found lies in the scope. -/
theorem Within.of_mem_found {t : Trace α} (h : Within scope t) {e : Path × PropertyViolation}
    (he : e ∈ t.found) : scope e.1 := by
  obtain ⟨event, hevent, hfound⟩ := List.mem_filterMap.mp he
  cases event with
  | violation _ _ =>
    cases hfound
    exact h _ hevent
  | reference _ _ => cases hfound
  | computation _ _ _ => cases hfound

end Trace

open Trace

namespace Walk

variable {scope : Path → Prop} {path : Path} (here : Situation)

/-! ### Checks of one position -/

theorem customValidation_within (rules : CommonRules) (h : scope path) :
    Within scope (customValidation rules path here) :=
  within_readThen _ _ h fun _ => within_each fun _ _ => within_single h

theorem isFrozen_within (rules : CommonRules) (h : scope path) :
    Within scope (isFrozen rules path here) := by
  unfold isFrozen
  refine (within_read _ _ _ h).bind fun frozen => ?_
  split
  · exact within_pure true
  · split
    · exact within_read _ _ _ h
    · exact within_pure false

theorem immutability_within (type : DataType) (rules : CommonRules) (h : scope path) :
    Within scope (immutability type rules path here) := by
  unfold immutability
  split
  · exact (isFrozen_within here rules h).bind fun _ => within_violationIf _ h _
  · exact within_pure ()

/-- The checks at a position stay there if those of the type and below it do. -/
theorem position_within (type : DataType) (rules : CommonRules) (h : scope path)
    {content : Json → Trace Unit} (hcontent : ∀ x, Within scope (content x)) :
    Within scope (position type rules path here content) := by
  have hrequirement : Within scope (requirement rules path here) :=
    (within_read _ _ _ h).bind fun _ => within_violationIf _ h _
  have hemptiness (x : Json) : Within scope (emptiness rules path here x) :=
    (within_read _ _ _ h).bind fun _ => within_violationIf _ h _
  have hequality (x : Json) : Within scope (equality type rules path here x) :=
    within_readThen _ _ h fun _ => within_violationIf _ h _
  unfold position
  refine (customValidation_within here rules h).bind fun _ => ?_
  refine (immutability_within here type rules h).bind fun _ => ?_
  split
  · exact hrequirement
  · next x _ =>
    split
    · exact (hemptiness x).bind fun _ => (hequality x).bind fun _ => hcontent x
    · exact within_single h

/-! ### Rules of types -/

theorem size_within (r : SizeRules) (counted : Counted) (actual : Nat) (h : scope path) :
    Within scope (size r counted path here actual) :=
  (within_readThen _ _ h fun _ => within_violationIf _ h _).bind fun _ =>
    within_readThen _ _ h fun _ => within_violationIf _ h _

theorem pattern_within (rule : Option (Slot Pattern)) (text : String) (h : scope path) :
    Within scope (pattern rule path here text) :=
  within_readThen _ _ h fun _ => within_violationIf _ h _

theorem bound_within (type : OrdinalType) (limit : Limit) (actual : Magnitude) (b : Json)
    (h : scope path) : Within scope (bound type path limit actual b) := by
  unfold bound
  split
  · exact within_pure ()
  · split
    · exact within_of_log_nil rfl
    · split
      · exact within_pure ()
      · exact within_violationIf _ h _

theorem range_within (type : OrdinalType) (r : RangeRules) (x : Json) (h : scope path) :
    Within scope (range type r path x here) := by
  unfold range
  split
  · exact within_pure ()
  · exact within_each fun _ _ => within_readThen _ _ h fun b => bound_within _ _ _ b h

theorem attachmentReference_within (r : ReferenceRules) (filename : String) (h : scope path) :
    Within scope (attachmentReference r path here filename) := by
  unfold attachmentReference
  refine Within.bind (t := reference path filename) (within_single h) fun _ => ?_
  refine (pattern_within here r.pattern filename h).bind fun _ => ?_
  refine (within_readThen _ _ h fun _ => within_violationIf _ h _).bind fun _ => ?_
  split
  · exact within_pure ()
  · exact (within_readThen _ _ h fun _ => within_violationIf _ h _).bind fun _ =>
      within_readThen _ _ h fun _ => within_violationIf _ h _

theorem scalar_within (type : Scalar) (x : Json) (h : scope path) :
    Within scope (scalar type path here x) := by
  cases type with
  | string rule length =>
    exact (pattern_within here rule _ h).bind fun _ => size_within here length .length _ h
  | ordinal type range => exact range_within here type range x h
  | boolean => exact within_pure ()
  | enumeration allowed => exact (within_read _ _ _ h).bind fun _ => within_violationIf _ h _
  | attachmentReference rules => exact attachmentReference_within here rules _ h
  | any => exact within_pure ()

/-- A key is reported at its hashtable or at its entry. -/
theorem key_within (keys : Option KeyRules) (k : String) (h : scope path)
    (hentry : scope (path ++ [.entry k])) : Within scope (key keys path here k) := by
  cases keys with
  | none => exact within_pure ()
  | some r =>
    have hpattern : Within scope (readThen path .keyPattern here r.pattern fun p =>
        violationIf (!p.isMatch k) (path ++ [.entry k]) (.keyPatternMismatch k p.source)) :=
      within_readThen _ _ h fun _ => within_violationIf _ hentry _
    unfold key
    cases k.isEmpty with
    | true =>
      exact (within_read _ _ _ h).bind fun _ => (within_violationIf _ h _).bind fun _ => hpattern
    | false => exact hpattern

/-- An unknown property is reported at its own position. -/
theorem unsupported_within (declared : List String) (allowed : Bool) (fields : Entries Json)
    (h : ∀ name ∈ Entries.keys fields, scope (path ++ [.property name])) :
    Within scope (unsupported declared allowed path fields) := by
  unfold unsupported
  split
  · exact within_pure ()
  · exact within_each fun name hname => within_single (h name (List.mem_filter.mp hname).1)

/-! ### All positions -/

/-- What lies below a step lies below the position that the step starts from. -/
theorem prefix_of_step {step : Step} {place : Path} (h : path ++ [step] <+: place) :
    path <+: place :=
  (List.prefix_append path [step]).trans h

/-- Whatever happens in a walk from a validator happens at its position or below. -/
theorem item_within (s : Situation) (v : Validator) (path : Path) (value old : Option Json) :
    Within (path <+: ·) (item s path value old v) := by
  -- the induction is on the tree; what happens below a child happens below its parent
  have hhere (path : Path) : path <+: path := List.prefix_rfl
  induction v using Validator.induction generalizing path value old with
  | scalar rules type =>
    unfold item
    exact position_within _ _ _ (hhere path) fun x => scalar_within _ type x (hhere path)
  | object rules properties allowUnknown ih =>
    cases properties with
    | none =>
      unfold item
      exact position_within _ _ _ (hhere path) fun _ => within_pure ()
    | some declared =>
      unfold item
      refine position_within _ _ _ (hhere path) fun x => ?_
      refine (within_read _ _ _ (hhere path)).bind fun _ => ?_
      rw [properties_eq_each]
      refine (within_each fun e he => ?_).bind fun _ => ?_
      · exact (ih declared rfl e he _ _ _).mono fun _ => prefix_of_step
      · exact unsupported_within _ _ _ fun _ _ => prefix_of_step (hhere _)
  | array rules length elements ih =>
    cases elements with
    | none =>
      unfold item
      exact position_within _ _ _ (hhere path) fun _ => size_within _ _ _ _ (hhere path)
    | some element =>
      unfold item
      refine position_within _ _ _ (hhere path) fun x => ?_
      refine (size_within _ _ _ _ (hhere path)).bind fun _ => within_each fun e _ => ?_
      exact (ih element rfl _ _ _).mono fun _ => prefix_of_step
  | hashtable rules limits keys values ih =>
    have hkey (here : Situation) (k : String) : Within (path <+: ·) (key keys path here k) :=
      key_within here keys k (hhere path) (prefix_of_step (hhere _))
    cases values with
    | none =>
      unfold item
      refine position_within _ _ _ (hhere path) fun x => ?_
      exact (size_within _ _ _ _ (hhere path)).bind fun _ => within_each fun e _ => hkey _ e.1
    | some entry =>
      unfold item
      refine position_within _ _ _ (hhere path) fun x => ?_
      refine (size_within _ _ _ _ (hhere path)).bind fun _ => within_each fun e _ => ?_
      refine (hkey _ e.1).bind fun _ => ?_
      exact (ih entry rfl _ _ _).mono fun _ => prefix_of_step

/-- The position lies at or below a property that is declared or that the document has. -/
def BelowProperty (declared : Properties) (fields : Entries Json) (place : Path) : Prop :=
  ∃ name rest, place = .property name :: rest ∧
    (name ∈ Entries.keys declared ∨ name ∈ Entries.keys fields)

/-- Whatever happens in a walk over a document happens below its properties. -/
theorem document_within (declared : Properties) (allowUnknown : Bool) (s : Situation) :
    Within (BelowProperty declared s.newDoc.fields) (document declared allowUnknown s) := by
  unfold document
  rw [properties_eq_each]
  refine (within_each fun e he => ?_).bind fun _ => unsupported_within _ _ _ fun name hname => ?_
  · refine (item_within _ _ _ _ _).mono fun place hplace => ?_
    obtain ⟨rest, rfl⟩ := hplace
    exact ⟨e.1, rest, rfl, .inl (List.mem_map_of_mem he)⟩
  · exact ⟨name, [], rfl, .inr hname⟩

end Walk

/-! ## Parts of a report -/

/-- What a definition protects a prior document against. -/
inductive Protection where
  | replacement | deletion | both
  deriving DecidableEq, Repr

/-- The violation of a protection. -/
def Protection.violation : Protection → DocumentViolation
  | replacement => .cannotReplace
  | deletion => .cannotDelete
  | both => .cannotReplaceOrDelete

/-- The violation concerns the attachments of a document. -/
def DocumentViolation.concernsAttachments : DocumentViolation → Bool
  | attachmentsNotAllowed | tooManyAttachments _ | attachment _ _
  | attachmentsExceedTotalSize _ => true
  | _ => false

/-- A report in four parts: the pattern that the identifier does not match, the protection
    that is not respected, the violations of properties, and those of the document that
    come last. -/
structure ReportParts where
  idPattern : Option String
  protection : Option Protection
  properties : List (Path × PropertyViolation)
  attachments : List DocumentViolation

namespace ReportParts

/-- The violations of the document that come first. -/
def leading (parts : ReportParts) : List DocumentViolation :=
  parts.idPattern.toList.map .idMismatch ++ parts.protection.toList.map Protection.violation

/-- The report that is put together from its parts. -/
def all (parts : ReportParts) : List Violation :=
  parts.leading.map .document ++ parts.properties.map (fun e => .property e.1 e.2) ++
    parts.attachments.map .document

/-- What the parts of the report on a write may have in them. -/
structure Of (parts : ReportParts) (d : Definition) (r : Request) : Prop where
  /-- only new documents are held against a pattern for identifiers -/
  identifier : parts.idPattern ≠ none → r.operation = .add
  /-- only live prior documents are protected -/
  protection : parts.protection ≠ none → r.prior ≠ none
  replacement : parts.protection = some .replacement → r.operation = .replace
  deletion : parts.protection = some .deletion → r.operation = .remove
  exclusive : parts.idPattern = none ∨ parts.protection = none
  /-- the text of a position begins with the name of a property -/
  properties : ∀ e ∈ parts.properties, ∃ name rest, e.1 = .property name :: rest ∧
    (Violation.property e.1 e.2).pathText? = some (name ++ Path.tailText rest) ∧
    (name ∈ Entries.keys d.properties ∨ name ∈ Entries.keys r.proposed.fields)
  attachments : ∀ v ∈ parts.attachments, v.concernsAttachments = true
  /-- a document without attachments is not asked anything about them -/
  attached : parts.attachments ≠ [] → r.proposed.attachments ≠ []
  /-- only the protection of the prior document is held against a removal -/
  removal : r.operation = .remove →
    parts.properties = [] ∧ parts.attachments = [] ∧ parts.all.length = 1

end ReportParts

/-! ## What the checks find -/

/-- A new document has no live prior one. -/
theorem Request.prior_of_add {r : Request} (h : r.operation = .add) : r.prior = none := by
  unfold Request.operation Operation.classify at h
  split at h
  · cases h
  · split at h
    · next hnone => exact Option.isNone_iff_eq_none.mp hnone
    · cases h

namespace Definition

variable {d : Definition} {op : Operation} {s : Situation}

/-- The check of the identifier finds at most one mismatch, and only of a new document. -/
theorem idViolations_cases {report : List DocumentViolation}
    (h : d.idViolations op s = .ok report) :
    ∃ pattern : Option String, report = pattern.toList.map .idMismatch ∧
      (pattern ≠ none → op = .add) := by
  cases op with
  | replace | remove =>
    cases h
    exact ⟨none, rfl, fun hne => absurd rfl hne⟩
  | add =>
    obtain ⟨pattern, -, h⟩ := bind_eq_ok.mp h
    cases h
    cases pattern with
    | none => exact ⟨none, rfl, fun _ => rfl⟩
    | some p =>
      by_cases hkept : s.newDoc.id?.any p.isMatch = true
      · exact ⟨none, if_pos hkept, fun _ => rfl⟩
      · exact ⟨some p.source, if_neg hkept, fun _ => rfl⟩

/-- The check of the prior document finds at most one protection, and only where there is
    a prior document. -/
theorem revisionViolations_cases {report : List DocumentViolation}
    (h : d.revisionViolations op s = .ok report) :
    ∃ protection : Option Protection, report = protection.toList.map Protection.violation ∧
      (protection ≠ none → s.oldDoc ≠ none) ∧
      (protection = some .replacement → op = .replace) ∧
      (protection = some .deletion → op = .remove) := by
  have hnothing : ∃ protection : Option Protection,
      [] = protection.toList.map Protection.violation ∧ (protection ≠ none → s.oldDoc ≠ none) ∧
      (protection = some .replacement → op = .replace) ∧
      (protection = some .deletion → op = .remove) :=
    ⟨none, rfl, fun hne => absurd rfl hne, nofun, nofun⟩
  unfold revisionViolations at h
  by_cases hold : s.hasOld = true
  · have hprior : s.oldDoc ≠ none := Option.isSome_iff_ne_none.mp hold
    rw [hold] at h
    obtain ⟨immutable, -, h⟩ := bind_eq_ok.mp h
    cases immutable with
    | true =>
      cases h
      exact ⟨some .both, rfl, fun _ => hprior, nofun, nofun⟩
    | false =>
      -- what else is asked depends on the operation
      cases op with
      | add =>
        cases h
        exact hnothing
      | remove =>
        obtain ⟨cannotDelete, -, h⟩ := bind_eq_ok.mp h
        cases cannotDelete with
        | true =>
          cases h
          exact ⟨some .deletion, rfl, fun _ => hprior, nofun, fun _ => rfl⟩
        | false =>
          cases h
          exact hnothing
      | replace =>
        obtain ⟨cannotReplace, -, h⟩ := bind_eq_ok.mp h
        cases cannotReplace with
        | true =>
          cases h
          exact ⟨some .replacement, rfl, fun _ => hprior, fun _ => rfl, nofun⟩
        | false =>
          cases h
          exact hnothing
  · rw [Bool.not_eq_true] at hold
    rw [hold] at h
    cases h
    exact hnothing

end Definition

/-- The check of the attachments finds what concerns attachments, and nothing in a document
    without any. -/
theorem AttachmentRules.violations_cases {rules : AttachmentRules} {references : StringSet}
    {s : Situation} {report : List DocumentViolation}
    (h : rules.violations references s = .ok report) :
    (∀ v ∈ report, v.concernsAttachments = true) ∧
      (report ≠ [] → s.newDoc.attachments ≠ []) := by
  unfold AttachmentRules.violations at h
  by_cases hempty : s.newDoc.attachments.isEmpty = true
  · rw [hempty] at h
    cases h
    exact ⟨fun _ hv => absurd hv List.not_mem_nil, fun hne => absurd rfl hne⟩
  · have hfiles : s.newDoc.attachments ≠ [] := fun hnil => hempty (by rw [hnil]; rfl)
    rw [Bool.not_eq_true] at hempty
    rw [hempty] at h
    obtain ⟨limits, -, h⟩ := bind_eq_ok.mp h
    cases h
    refine ⟨fun v hv => ?_, fun _ => hfiles⟩
    have hbreach := (AttachmentLimits.mem_violations_iff fun _ => Iff.rfl).mp hv
    cases hbreach <;> rfl

namespace Definition

variable {d : Definition} {r : Request}

/-- The walk finds violations of properties, and after them the check of the attachments
    finds violations of the document. -/
theorem contentViolations_cases {s : Situation} {report : List Violation}
    (h : d.contentViolations s = .ok report) :
    ∃ (properties : List (Path × PropertyViolation)) (attachments : List DocumentViolation),
      report = properties.map (fun e => .property e.1 e.2) ++ attachments.map .document ∧
      (∀ e ∈ properties, Walk.BelowProperty d.properties s.newDoc.fields e.1) ∧
      (∀ v ∈ attachments, v.concernsAttachments = true) ∧
      (attachments ≠ [] → s.newDoc.attachments ≠ []) := by
  obtain ⟨trace, hwalk, h⟩ := bind_eq_ok.mp h
  obtain ⟨_, -, h⟩ := bind_eq_ok.mp h
  obtain ⟨attachments, hattachments, h⟩ := bind_eq_ok.mp h
  obtain ⟨allowUnknown, -, hwalk⟩ := bind_eq_ok.mp hwalk
  cases hwalk
  cases h
  have hwithin := Walk.document_within d.properties allowUnknown s
  generalize Walk.document d.properties allowUnknown s = trace at hwithin hattachments ⊢
  obtain ⟨hconcern, hattached⟩ := AttachmentRules.violations_cases hattachments
  refine ⟨trace.found, attachments, by rw [trace.violations_eq_found], fun e he => ?_, hconcern,
    hattached⟩
  exact hwithin.of_mem_found he

/-- A report that is not empty has the shape of a report on the write. -/
theorem violations_cases {report : List Violation}
    (h : d.violations r.operation r.situation = .ok report) (hne : report ≠ []) :
    ∃ parts : ReportParts, report = parts.all ∧ parts.Of d r := by
  obtain ⟨id, hid, h⟩ := bind_eq_ok.mp h
  obtain ⟨revision, hrevision, h⟩ := bind_eq_ok.mp h
  obtain ⟨idPattern, rfl, hadd⟩ := idViolations_cases hid
  obtain ⟨protection, rfl, hprior, hreplace, hremove⟩ := revisionViolations_cases hrevision
  have hexclusive : idPattern = none ∨ protection = none := by
    by_cases hnone : idPattern = none
    · exact .inl hnone
    · right
      by_contra hsome
      exact hprior hsome (Request.prior_of_add (hadd hnone))
  by_cases hop : r.operation = .remove
  · simp only [if_pos hop] at h
    cases h
    -- a removal has no new identifier, so the protection is all that can be reported
    have hid : idPattern = none := by
      by_contra hsome
      cases hop.symm.trans (hadd hsome)
    subst hid
    refine ⟨⟨none, protection, [], []⟩, by simp [ReportParts.all, ReportParts.leading],
      ⟨hadd, hprior, hreplace, hremove, hexclusive, nofun, nofun, fun h => absurd rfl h, ?_⟩⟩
    intro _
    refine ⟨rfl, rfl, ?_⟩
    cases protection with
    | none => exact absurd rfl hne
    | some x => rfl
  · simp only [if_neg hop] at h
    obtain ⟨content, hcontent, h⟩ := bind_eq_ok.mp h
    cases h
    obtain ⟨properties, attachments, rfl, hbelow, hconcern, hattached⟩ :=
      contentViolations_cases hcontent
    refine ⟨⟨idPattern, protection, properties, attachments⟩,
      by simp [ReportParts.all, ReportParts.leading, List.append_assoc],
      ⟨hadd, hprior, hreplace, hremove, hexclusive, fun e he => ?_, hconcern, hattached,
        fun h => absurd h hop⟩⟩
    obtain ⟨name, rest, hplace, hname⟩ := hbelow e he
    refine ⟨name, rest, hplace, ?_, hname⟩
    rw [hplace]
    exact congrArg some (Path.foldl_text rest name)

end Definition

/-! ## Invalid writes -/

namespace Decision

variable {docType : String} {d : Definition} {r : Request}

/-- A decision goes on after an action, or it is refused. -/
theorem act_bind_invalid {α : Type} {actions : Actions} {call : ActionCall} {next : Decision α}
    {name : String} {report : List Violation}
    (h : (act actions call >>= fun _ => next).outcome = .error (.invalid name report)) :
    next.outcome = .error (.invalid name report) := by
  rw [Logged.outcome_bind] at h
  unfold act at h
  cases haction : actions.at? call.stage with
  | none =>
    rw [haction] at h
    exact h
  | some action =>
    rw [haction] at h
    cases hresult : action call with
    | ok _ =>
      simp only [hresult] at h
      exact h
    | error message =>
      simp only [hresult] at h
      cases h

/-- What a governed write is rejected with as invalid is what its definition reports. -/
theorem violations_of_invalid {name : String} {report : List Violation}
    (h : (governed docType d r).outcome = .error (.invalid name report)) :
    name = docType ∧ d.violations r.operation r.situation = .ok report ∧ report ≠ [] := by
  rw [governed_eq] at h
  have h := act_bind_invalid h
  -- the grants do not report, and neither does what is held against the writer
  cases hgrant : d.authorization.grant r.operation r.situation with
  | error cause =>
    rw [hgrant] at h
    cases h
  | ok g =>
    rw [hgrant] at h
    have h : (authorize g r.context.principal >>= fun _ => admitted docType d r g).outcome =
        .error (.invalid name report) := h
    unfold authorize at h
    cases hcheck : g.check r.context.principal with
    | some reason =>
      rw [hcheck] at h
      have h : Except.error (if r.context.principal.isAnonymous then Rejection.unauthorized reason
        else .forbidden reason) = (.error (.invalid name report) : Except _ Acceptance) := h
      split at h <;> cases h
    | none =>
      rw [hcheck] at h
      unfold admitted at h
      have h := act_bind_invalid h
      cases hviolations : d.violations r.operation r.situation with
      | error cause =>
        rw [hviolations] at h
        cases h
      | ok found =>
        rw [hviolations] at h
        have h : (reported docType d r g found).outcome = .error (.invalid name report) := h
        cases found with
        | cons v rest =>
          cases h
          exact ⟨rfl, rfl, List.cons_ne_nil _ _⟩
        | nil =>
          unfold reported at h
          cases act_bind_invalid h

end Decision

variable {definitions : Definitions} {options : Options} {docType : String} {r : Request}

/-- Only a write that a definition governs is rejected as invalid, with what it reports. -/
theorem Definitions.governs_of_invalid {report : List Violation}
    (h : (definitions.decide options r).outcome = .error (.invalid docType report)) :
    ∃ d, definitions.Governs docType d r.proposed r.prior ∧
      d.violations r.operation r.situation = .ok report ∧ report ≠ [] := by
  rcases definitions.governs_or_ungoverned r.proposed r.prior with ⟨name, d, hgov⟩ | hnone
  · rw [Definitions.decide_of_governs options hgov] at h
    obtain ⟨rfl, hviolations, hne⟩ := Decision.violations_of_invalid h
    exact ⟨d, hgov, hviolations, hne⟩
  · rw [Definitions.decide_of_ungoverned options hnone] at h
    unfold Decision.ungoverned at h
    split at h <;> cases h

/-- **The shape of a rejection.** What is reported of an invalid write is not empty, and it
    is put together from parts that the operation and the documents allow. -/
theorem shape_of_invalid {report : List Violation}
    (h : (definitions.decide options r).outcome = .error (.invalid docType report)) :
    ∃ d parts, definitions.Governs docType d r.proposed r.prior ∧ report ≠ [] ∧
      report = ReportParts.all parts ∧ parts.Of d r := by
  obtain ⟨d, hgov, hviolations, hne⟩ := Definitions.governs_of_invalid h
  obtain ⟨parts, hall, hparts⟩ := Definition.violations_cases hviolations hne
  exact ⟨d, parts, hgov, hne, hall, hparts⟩

/-! ## Expense reports -/

/-- Expense reports are numbered by database, hold lines with amounts up to a limit that
    is computed, and come with small receipts. -/
def expenses : Definitions :=
  [("expense", {
    typeFilter := .custom fun newDoc _ name => newDoc.typeName? == some name
    authorization := { allMembers := .literal true }
    idPattern := some (.computed fun s =>
      match Pattern.ofSource? (s.database.getD "" ++ "[0-9]") with
      | some p => .ok p
      | none => .error ⟨"no database"⟩)
    properties := [
      ("type", .typeId),
      ("lines", .ofElements (.ofProperties [("amount", .ofRange .integer {
        maximum := some (.computed fun s => .ok (.ofNat (s.principal.roles.length * 10))) })])),
      ("note", .mapRules ({ · with customValidation := some (.computed fun s =>
        .ok (if s.value.isNone then ["explain yourself"] else [])) }) .ofString)]
    attachments := { allow := .literal true, maximumIndividualSize := some (.literal 5) } })]

/-- A report under another number, with an amount above the limit, an unknown property, no
    note and a large receipt. -/
def expenseAdded : Request where
  newDoc := some {
    fields := [("_id", .string "x"), ("type", .string "expense"), ("paid", .bool true),
      ("lines", .array [.object [("amount", .ofNat 3)], .object [("amount", .ofNat 12)]])]
    attachments := [("scan.png", { length := some 9 })] }
  context := { principal := { name := some "ann", roles := ["clerk"] }, database := some "e" }

/-- The identifier, three properties and an attachment are reported. A new document has no
    prior one to protect, so that this part of the report is empty. -/
theorem shape_of_invalid_expense :
    ∃ report, (expenses.decide {} expenseAdded).outcome = .error (.invalid "expense" report) ∧
      report.map Violation.message = [
        "document id must conform to expected format /e[0-9]/",
        "property \"lines[1].amount\" must not be greater than 10",
        "explain yourself",
        "property \"paid\" is not supported",
        "attachment \"scan.png\" must not exceed 5 bytes"] ∧
      ∃ d parts, expenses.Governs "expense" d expenseAdded.proposed expenseAdded.prior ∧
        report ≠ [] ∧ report = ReportParts.all parts ∧ parts.Of d expenseAdded := by
  have hcompute : (Decision.invalid? (expenses.decide {} expenseAdded).outcome).map
      (fun found => (found.1, found.2.map Violation.message)) = some ("expense", [
        "document id must conform to expected format /e[0-9]/",
        "property \"lines[1].amount\" must not be greater than 10",
        "explain yourself",
        "property \"paid\" is not supported",
        "attachment \"scan.png\" must not exceed 5 bytes"]) := by
    decide +kernel
  obtain ⟨⟨docType, report⟩, houtcome, hcompute⟩ := Option.map_eq_some_iff.mp hcompute
  obtain ⟨rfl, hmessages⟩ := Prod.mk.inj hcompute
  rw [Decision.invalid?_eq_some_iff] at houtcome
  exact ⟨report, houtcome, hmessages, shape_of_invalid houtcome⟩

end WritePolicy
