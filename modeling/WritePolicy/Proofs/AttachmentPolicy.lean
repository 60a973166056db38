import WritePolicy.Proofs.DocumentContent
import WritePolicy.Proofs.References

/-! # The policy for attachments

    What is reported of the attachments of a document is determined by the definition, the
    descriptors of the files and the names that properties give. `AttachmentLimits.Breach`
    says which violations there are, one constructor for each thing that can be wrong, and
    `DocumentViolation.Precedes` in which order they stand. Together they fix the report
    (`attachment_policy_enforced`): it has each breach once, and there is no other list
    that has.

    Three things carry this. The names are the ones that the walk over the properties
    gathers, which are those at the positions for references (`Walk.references_iff`). The
    files are listed by name, and a document that is read has each name once
    (`Document.IsRead.names_ascend`), so that the violations of one file stand together
    and those of two files in the order of their names. And the sizes are added up with a
    largest size at which the sum stops, which does not depend on where on the way it is
    reached (`totalSize_eq`).
-/

namespace WritePolicy

/-! ## Extensions -/

namespace Walk

/-- A file name ends in a dot and the extension, in which there is no further dot. -/
def HasExtension (filename extension : String) : Prop :=
  ∃ stem, filename = stem ++ "." ++ extension ∧ '.' ∉ extension.toList

/-- Read from the end, the extension is what stands before the first dot. -/
theorem extension?_of_reverse {filename : String} {after before : List Char}
    (h : filename.toList.reverse = after ++ '.' :: before) (hnone : '.' ∉ after) :
    extension? filename = some (String.ofList after.reverse) := by
  have hall : ∀ c ∈ after, (c != '.') = true := by
    intro c hc
    rw [bne_iff_ne]
    rintro rfl
    exact hnone hc
  have hdot : (after ++ '.' :: before).contains '.' = true := by simp
  have htake : (after ++ '.' :: before).takeWhile (· != '.') = after := by
    rw [List.takeWhile_append_of_pos hall, List.takeWhile_cons_of_neg (by simp), List.append_nil]
  unfold extension?
  simp only [h, hdot, htake, if_true]

/-- The extension of a name is what follows its last dot. -/
theorem extension?_eq_some_iff {filename extension : String} :
    extension? filename = some extension ↔ HasExtension filename extension := by
  constructor
  · intro h
    by_cases hdot : '.' ∈ filename.toList.reverse
    · obtain ⟨after, before, hsplit, hnone⟩ := List.eq_append_cons_of_mem hdot
      rw [extension?_of_reverse hsplit hnone, Option.some.injEq] at h
      refine ⟨String.ofList before.reverse, ?_, ?_⟩
      · have hchars : filename.toList = before.reverse ++ '.' :: after.reverse := by
          rw [← List.reverse_reverse filename.toList, hsplit]
          simp
        apply String.toList_injective
        rw [hchars, ← h]
        simp
      · rw [← h]
        simpa using hnone
    · unfold extension? at h
      simp only [List.contains_eq_mem, hdot] at h
      cases h
  · rintro ⟨stem, rfl, hnone⟩
    have hsplit : (stem ++ "." ++ extension).toList.reverse =
        extension.toList.reverse ++ '.' :: stem.toList.reverse := by
      simp
    rw [extension?_of_reverse hsplit (by simpa using hnone)]
    simp

/-- A name has a supported extension if what follows its last dot is, up to ASCII case,
    one of those supported. -/
theorem hasSupportedExtension_eq_false_iff {supported : List String} {filename : String} :
    hasSupportedExtension supported filename = false ↔
      ∀ extension, HasExtension filename extension →
        ∀ e ∈ supported, e.map Char.toLower ≠ extension.map Char.toLower := by
  unfold hasSupportedExtension
  simp only [← extension?_eq_some_iff]
  cases extension? filename with
  | none => simp
  | some extension => simp

/-- Only the last dot counts. -/
example : extension? "scan.tar.PNG" = some "PNG" ∧ extension? "notes" = none := by
  decide +kernel

theorem hasSupportedContentType_eq_false_iff {supported : List String}
    {d : AttachmentDescriptor} : hasSupportedContentType supported d = false ↔
      ∀ type, d.contentType = some type → type ∉ supported := by
  unfold hasSupportedContentType
  cases d.contentType with
  | none => simp
  | some type => simp

end Walk

open Walk

/-! ## Sizes -/

/-- Sizes that are added up one by one stop at the largest size, as their sum does. -/
theorem foldl_addSize (files : Entries AttachmentDescriptor) (total : Nat) :
    files.foldl (fun total f => addSize total f.2.size) (min largestSize total) =
      min largestSize (total + (files.map fun f => f.2.size).sum) := by
  induction files generalizing total with
  | nil => rfl
  | cons f rest ih =>
    have hstep : addSize (min largestSize total) f.2.size = min largestSize (total + f.2.size) := by
      unfold addSize
      omega
    rw [List.foldl_cons, hstep, ih, List.map_cons, List.sum_cons, Nat.add_assoc]

theorem totalSize_eq (files : Entries AttachmentDescriptor) :
    totalSize files = min largestSize (files.map fun f => f.2.size).sum := by
  have hsum := foldl_addSize files 0
  rw [Nat.min_zero, Nat.zero_add] at hsum
  exact hsum

/-! ## Files -/

namespace Document

/-- The attachments of a document that is read ascend by name, with each name once. -/
theorem IsRead.names_ascend {doc : Document} (h : doc.IsRead) :
    doc.attachments.Pairwise fun a b => a.1 < b.1 := by
  have hread := h.attachments
  have hkeys := h.keys
  unfold readAttachments at hread
  split at hread
  · rw [← Except.ok.inj hread]
    exact .nil
  · rw [← Except.ok.inj hread]
    exact .nil
  · next files hfiles =>
    split at hread
    · next descriptors hdescriptors =>
      -- the descriptors are under the keys of an object, which are distinct
      have hnodup : (Entries.keys descriptors).Nodup := by
        rw [keys_descriptors (forall₂_of_mapM hdescriptors)]
        have hobject := (Json.uniqueKeys_object_iff.mp hkeys).2 _ (Entries.mem_of_get? hfiles)
        exact (Json.uniqueKeys_object_iff.mp hobject).1
      rw [← Except.ok.inj hread]
      have hperm : (sortedByName descriptors).Perm descriptors := List.mergeSort_perm _ _
      have hdistinct : (sortedByName descriptors).Pairwise fun a b => a.1 ≠ b.1 :=
        List.pairwise_map.mp ((hperm.map Prod.fst).nodup_iff.mpr hnodup)
      refine (pairwise_sortedByName descriptors).imp₂ (fun a b hle hne => ?_) hdistinct
      by_contra hlt
      exact hne (String.le_antisymm hle (String.not_lt.mp hlt))
    · cases hread
  · cases hread

end Document

/-! ## What is wrong with attachments -/

namespace AttachmentLimits

/-- What is wrong with one file, given which names are referenced. -/
inductive FileBreach (limits : AttachmentLimits) (referenced : String → Prop) (filename : String)
    (d : AttachmentDescriptor) : AttachmentViolation → Prop
  /-- it is too long, where a length that is not told counts as 0 -/
  | size {most : Nat} :
      limits.maximumIndividualSize = some most → most < d.length.getD 0 →
      FileBreach limits referenced filename d (.exceedsSize most)
  /-- it has no extension, or one that is not supported in either case of letters -/
  | extension {supported : List String} :
      limits.supportedExtensions = some supported →
      (∀ extension, HasExtension filename extension →
        ∀ e ∈ supported, e.map Char.toLower ≠ extension.map Char.toLower) →
      FileBreach limits referenced filename d (.extension supported)
  /-- it tells no content type, or one that is not supported -/
  | contentType {supported : List String} :
      limits.supportedContentTypes = some supported →
      (∀ type, d.contentType = some type → type ∉ supported) →
      FileBreach limits referenced filename d (.contentType supported)
  | filename {p : Pattern} :
      limits.filenamePattern = some p → p.isMatch filename = false →
      FileBreach limits referenced filename d (.filename p.source)
  | unreferenced :
      limits.requireReferences = true → ¬ referenced filename →
      FileBreach limits referenced filename d .unreferenced

/-- What is wrong with the files of a document, given which names are referenced. -/
inductive Breach (limits : AttachmentLimits) (referenced : String → Prop)
    (files : Entries AttachmentDescriptor) : DocumentViolation → Prop
  /-- attachments are not allowed, and there is one that is not referenced -/
  | notAllowed {filename : String} {d : AttachmentDescriptor} :
      limits.allow = false → (filename, d) ∈ files → ¬ referenced filename →
      Breach limits referenced files .attachmentsNotAllowed
  | tooMany {most : Nat} :
      limits.maximumCount = some most → most < files.length →
      Breach limits referenced files (.tooManyAttachments most)
  | file {filename : String} {d : AttachmentDescriptor} {v : AttachmentViolation} :
      (filename, d) ∈ files → limits.FileBreach referenced filename d v →
      Breach limits referenced files (.attachment filename v)
  /-- all lengths together exceed the limit, where their sum counts up to `2^64 - 1` -/
  | total {most : Nat} :
      limits.maximumTotalSize = some most →
      most < min (2 ^ 64 - 1) (files.map fun f => f.2.length.getD 0).sum →
      Breach limits referenced files (.attachmentsExceedTotalSize most)

end AttachmentLimits

/-- What is reported is a set limit that is not kept. -/
theorem mem_breach_iff {α ν : Type} {limit : Option α} {kept : α → Bool} {violation : α → ν}
    {v : ν} : v ∈ breach limit kept violation ↔
      ∃ a, limit = some a ∧ kept a = false ∧ v = violation a := by
  cases limit with
  | none => simp [breach]
  | some a => cases hkept : kept a <;> simp [breach, hkept]

namespace AttachmentLimits

variable {limits : AttachmentLimits} {references : StringSet} {referenced : String → Prop}

/-- The report on a file has what is wrong with it. -/
theorem mem_fileViolations_iff (hreferences : ∀ name, name ∈ references ↔ referenced name)
    {filename : String} {d : AttachmentDescriptor} {v : AttachmentViolation} :
    v ∈ limits.fileViolations references filename d ↔
      limits.FileBreach referenced filename d v := by
  unfold fileViolations
  simp only [List.mem_append, mem_breach_iff, decide_eq_false_iff_not, not_le,
    hasSupportedExtension_eq_false_iff, hasSupportedContentType_eq_false_iff,
    List.mem_ite_nil_right, List.mem_singleton, Bool.and_eq_true, Bool.not_eq_true',
    List.contains_eq_mem, hreferences, or_assoc]
  constructor
  · rintro (⟨most, hmost, hlong, rfl⟩ | ⟨supported, hset, hnone, rfl⟩ |
      ⟨supported, hset, hnone, rfl⟩ | ⟨p, hset, hfails, rfl⟩ | ⟨⟨hrequired, hnot⟩, rfl⟩)
    · exact .size hmost hlong
    · exact .extension hset hnone
    · exact .contentType hset hnone
    · exact .filename hset hfails
    · exact .unreferenced hrequired hnot
  · intro h
    cases h with
    | size hmost hlong => exact .inl ⟨_, hmost, hlong, rfl⟩
    | extension hset hnone => exact .inr (.inl ⟨_, hset, hnone, rfl⟩)
    | contentType hset hnone => exact .inr (.inr (.inl ⟨_, hset, hnone, rfl⟩))
    | filename hset hfails => exact .inr (.inr (.inr (.inl ⟨_, hset, hfails, rfl⟩)))
    | unreferenced hrequired hnot => exact .inr (.inr (.inr (.inr ⟨⟨hrequired, hnot⟩, rfl⟩)))

/-- The report on the files of a document has what is wrong with them. -/
theorem mem_violations_iff (hreferences : ∀ name, name ∈ references ↔ referenced name)
    {files : Entries AttachmentDescriptor} {v : DocumentViolation} :
    v ∈ limits.violations references files ↔ limits.Breach referenced files v := by
  unfold violations
  simp only [List.mem_append, mem_breach_iff, decide_eq_false_iff_not, not_le,
    List.mem_ite_nil_right, List.mem_singleton, Bool.and_eq_true, Bool.not_eq_true',
    List.any_eq_true, List.contains_eq_mem, hreferences, or_assoc, List.mem_flatMap, List.mem_map,
    mem_fileViolations_iff hreferences, totalSize_eq]
  constructor
  · rintro (⟨⟨hallow, name, hname, hnot⟩, rfl⟩ | ⟨most, hmost, hmany, rfl⟩ |
      ⟨file, hfile, x, hbreach, rfl⟩ | ⟨most, hmost, hlarge, rfl⟩)
    · obtain ⟨file, hfile, rfl⟩ := List.mem_map.mp hname
      exact .notAllowed hallow hfile hnot
    · exact .tooMany hmost hmany
    · exact .file hfile hbreach
    · exact .total hmost hlarge
  · intro h
    cases h with
    | notAllowed hallow hfile hnot =>
      exact .inl ⟨⟨hallow, _, List.mem_map.mpr ⟨_, hfile, rfl⟩, hnot⟩, rfl⟩
    | tooMany hmost hmany => exact .inr (.inl ⟨_, hmost, hmany, rfl⟩)
    | file hfile hbreach => exact .inr (.inr (.inl ⟨_, hfile, _, hbreach, rfl⟩))
    | total hmost hlarge => exact .inr (.inr (.inr ⟨_, hmost, hlarge, rfl⟩))

end AttachmentLimits

/-! ## The order of the report -/

/-- The turn of a check of one file. -/
def AttachmentViolation.turn : AttachmentViolation → Nat
  | exceedsSize _ => 0
  | extension _ => 1
  | contentType _ => 2
  | filename _ => 3
  | unreferenced => 4

namespace DocumentViolation

/-- The turn of a check of all files; what does not concern attachments comes first. -/
def turn : DocumentViolation → Nat
  | attachmentsNotAllowed => 1
  | tooManyAttachments _ => 2
  | attachment _ _ => 3
  | attachmentsExceedTotalSize _ => 4
  | _ => 0

/-- The first violation stands before the second: by the turns of their checks, for two
    files by their names, and for one file by the turns of the checks of files. -/
inductive Precedes : DocumentViolation → DocumentViolation → Prop
  | turn {v w : DocumentViolation} : v.turn < w.turn → Precedes v w
  | name {filename filename' : String} {x y : AttachmentViolation} :
      filename < filename' → Precedes (.attachment filename x) (.attachment filename' y)
  | check {filename : String} {x y : AttachmentViolation} :
      x.turn < y.turn → Precedes (.attachment filename x) (.attachment filename y)

/-- No two violations precede one another. -/
theorem Precedes.asymm {v w : DocumentViolation} (h : Precedes v w) : ¬ Precedes w v := by
  intro h'
  cases h with
  | turn hturn =>
    cases h' with
    | turn hturn' => omega
    | name _ => exact absurd hturn (lt_irrefl 3)
    | check _ => exact absurd hturn (lt_irrefl 3)
  | name hname =>
    cases h' with
    | turn hturn' => exact absurd hturn' (lt_irrefl 3)
    | name hname' => exact String.lt_irrefl _ (String.lt_trans hname hname')
    | check _ => exact String.lt_irrefl _ hname
  | check hcheck =>
    cases h' with
    | turn hturn' => exact absurd hturn' (lt_irrefl 3)
    | name hname' => exact String.lt_irrefl _ hname'
    | check hcheck' => omega

/-- Two reports in order that have the same violations are one report. -/
theorem report_unique {report report' : List DocumentViolation}
    (h : report.Pairwise Precedes) (h' : report'.Pairwise Precedes)
    (hsame : ∀ v, v ∈ report ↔ v ∈ report') : report = report' := by
  have hnodup {l : List DocumentViolation} (hl : l.Pairwise Precedes) : l.Nodup := by
    refine hl.imp fun {v w} hvw => ?_
    rintro rfl
    exact hvw.asymm hvw
  have hperm : report.Perm report' :=
    (List.perm_ext_iff_of_nodup (hnodup h) (hnodup h')).mpr hsame
  -- in two orders of the same violations, none could stand on both sides of another
  refine hperm.eq_of_pairwise (fun v w _ _ hvw hwv => ?_) h h'
  exact absurd hwv hvw.asymm

end DocumentViolation

/-! ### Reports by turns -/

section Turns

variable {α : Type} {R : α → α → Prop} {turn : α → Nat} {first middle last : Nat} {l m : List α}

/-- A list in order whose members have their turns from one up to another. -/
structure InTurn (R : α → α → Prop) (turn : α → Nat) (first last : Nat) (l : List α) : Prop where
  sorted : l.Pairwise R
  from_le (a : α) : a ∈ l → first ≤ turn a
  lt_until (a : α) : a ∈ l → turn a < last

/-- What has its turn later comes later. -/
theorem InTurn.append (hR : ∀ a b, turn a < turn b → R a b) (hl : InTurn R turn first middle l)
    (hm : InTurn R turn middle last m) (hfirst : first ≤ middle) (hlast : middle ≤ last) :
    InTurn R turn first last (l ++ m) := by
  constructor
  · refine List.pairwise_append.mpr ⟨hl.sorted, hm.sorted, fun a ha b hb => hR a b ?_⟩
    have hbefore := hl.lt_until a ha
    have hafter := hm.from_le b hb
    omega
  · intro a ha
    rcases List.mem_append.mp ha with h | h
    · exact hl.from_le a h
    · exact hfirst.trans (hm.from_le a h)
  · intro a ha
    rcases List.mem_append.mp ha with h | h
    · exact (hl.lt_until a h).trans_le hlast
    · exact hm.lt_until a h

/-- At most one violation is in order by itself. -/
theorem inTurn_of_length_le_one {n : Nat} (hlength : l.length ≤ 1) (hturn : ∀ a ∈ l, turn a = n) :
    InTurn R turn n (n + 1) l := by
  refine ⟨?_, fun a ha => (hturn a ha).ge, fun a ha => ?_⟩
  · cases l with
    | nil => exact .nil
    | cons a rest =>
      have hnone : rest = [] := List.length_eq_zero_iff.mp (by simpa using hlength)
      rw [hnone]
      exact List.pairwise_singleton R a
  · rw [hturn a ha]
    exact Nat.lt_succ_self n

theorem inTurn_breach {β : Type} {limit : Option β} {kept : β → Bool} {violation : β → α} (n : Nat)
    (hturn : ∀ b, turn (violation b) = n) :
    InTurn R turn n (n + 1) (breach limit kept violation) := by
  refine inTurn_of_length_le_one ?_ fun a ha => ?_
  · cases limit with
    | none => exact Nat.zero_le 1
    | some b => by_cases hkept : kept b = true <;> simp [breach, hkept]
  · obtain ⟨b, -, -, rfl⟩ := mem_breach_iff.mp ha
    exact hturn b

theorem inTurn_if {condition : Bool} {a : α} (n : Nat) (hturn : turn a = n) :
    InTurn R turn n (n + 1) (if condition then [a] else []) := by
  refine inTurn_of_length_le_one ?_ fun b hb => ?_
  · cases condition <;> simp
  · cases condition with
    | true => rw [List.mem_singleton.mp hb, hturn]
    | false => cases hb

end Turns

namespace AttachmentLimits

variable {limits : AttachmentLimits} {references : StringSet}

/-- The violations of one file stand by the turns of the checks. -/
theorem pairwise_fileViolations (filename : String) (d : AttachmentDescriptor) :
    (limits.fileViolations references filename d).Pairwise fun x y => x.turn < y.turn := by
  have hR : ∀ x y : AttachmentViolation, x.turn < y.turn → x.turn < y.turn := fun _ _ h => h
  have hinTurn : InTurn (fun x y => x.turn < y.turn) AttachmentViolation.turn 0 5
      (limits.fileViolations references filename d) := by
    unfold fileViolations
    refine InTurn.append hR (InTurn.append hR (InTurn.append hR (InTurn.append hR
      (inTurn_breach 0 fun _ => rfl) (inTurn_breach 1 fun _ => rfl) ?_ ?_)
      (inTurn_breach 2 fun _ => rfl) ?_ ?_) (inTurn_breach 3 fun _ => rfl) ?_ ?_)
      (inTurn_if 4 rfl) ?_ ?_ <;> omega
  exact hinTurn.sorted

/-- The violations of files stand by the names of the files, which ascend. -/
theorem inTurn_files {files : Entries AttachmentDescriptor}
    (hnames : files.Pairwise fun f g => f.1 < g.1) :
    InTurn DocumentViolation.Precedes DocumentViolation.turn 3 4 (files.flatMap fun f =>
      (limits.fileViolations references f.1 f.2).map (.attachment f.1)) := by
  have hturn (v : DocumentViolation) (hv : v ∈ files.flatMap fun f =>
      (limits.fileViolations references f.1 f.2).map (.attachment f.1)) : v.turn = 3 := by
    obtain ⟨f, -, hv⟩ := List.mem_flatMap.mp hv
    obtain ⟨x, -, rfl⟩ := List.mem_map.mp hv
    rfl
  refine ⟨?_, fun v hv => (hturn v hv).ge, fun v hv => ?_⟩
  · rw [List.pairwise_flatMap]
    constructor
    · intro f _
      rw [List.pairwise_map]
      exact (pairwise_fileViolations f.1 f.2).imp fun h => .check h
    · refine hnames.imp fun {f g} hname v hv w hw => ?_
      obtain ⟨x, -, rfl⟩ := List.mem_map.mp hv
      obtain ⟨y, -, rfl⟩ := List.mem_map.mp hw
      exact .name hname
  · rw [hturn v hv]
    exact Nat.lt_succ_self 3

/-- The report on the files of a document is in order. -/
theorem pairwise_violations {files : Entries AttachmentDescriptor}
    (hnames : files.Pairwise fun f g => f.1 < g.1) :
    (limits.violations references files).Pairwise DocumentViolation.Precedes := by
  have hR : ∀ v w : DocumentViolation, v.turn < w.turn → v.Precedes w := fun _ _ h => .turn h
  have hinTurn : InTurn DocumentViolation.Precedes DocumentViolation.turn 1 5
      (limits.violations references files) := by
    unfold violations
    refine InTurn.append hR (InTurn.append hR (InTurn.append hR (inTurn_if 1 rfl)
      (inTurn_breach 2 fun _ => rfl) ?_ ?_) (inTurn_files hnames) ?_ ?_)
      (inTurn_breach 4 fun _ => rfl) ?_ ?_ <;> omega
  exact hinTurn.sorted

end AttachmentLimits

/-! ## Rules that are stated as literals -/

namespace Slot

variable {α : Type}

/-- A slot that holds a literal if it is set is that of a value that may be missing. -/
theorem LiteralIfSet.eq_map {slot : Option (Slot α)} (h : LiteralIfSet slot) :
    ∃ value : Option α, slot = value.map literal := by
  obtain rfl | ⟨a, rfl⟩ := h.cases
  · exact ⟨none, rfl⟩
  · exact ⟨some a, rfl⟩

theorem valueOf?_map (value : Option α) (s : Situation) :
    valueOf? (value.map literal) s = .ok value := by
  cases value <;> rfl

end Slot

/-- The rules state the limits as literals. -/
structure AttachmentRules.States (rules : AttachmentRules) (limits : AttachmentLimits) : Prop where
  allow : rules.allow = .literal limits.allow
  maximumCount : rules.maximumCount = limits.maximumCount.map .literal
  maximumIndividualSize : rules.maximumIndividualSize = limits.maximumIndividualSize.map .literal
  maximumTotalSize : rules.maximumTotalSize = limits.maximumTotalSize.map .literal
  supportedExtensions : rules.supportedExtensions = limits.supportedExtensions.map .literal
  supportedContentTypes : rules.supportedContentTypes = limits.supportedContentTypes.map .literal
  filenamePattern : rules.filenamePattern = limits.filenamePattern.map .literal
  requireReferences : rules.requireReferences = .literal limits.requireReferences

namespace AttachmentRules

variable {rules : AttachmentRules} {limits : AttachmentLimits}

/-- Static rules state limits. -/
theorem Static.exists_limits (h : rules.Static) : ∃ limits, rules.States limits := by
  obtain ⟨allow, hallow⟩ := h.allow
  obtain ⟨count, hcount⟩ := h.maximumCount.eq_map
  obtain ⟨size, hsize⟩ := h.maximumIndividualSize.eq_map
  obtain ⟨total, htotal⟩ := h.maximumTotalSize.eq_map
  obtain ⟨extensions, hextensions⟩ := h.supportedExtensions.eq_map
  obtain ⟨types, htypes⟩ := h.supportedContentTypes.eq_map
  obtain ⟨pattern, hpattern⟩ := h.filenamePattern.eq_map
  obtain ⟨required, hrequired⟩ := h.requireReferences
  exact ⟨⟨allow, count, size, extensions, types, pattern, required, total⟩,
    ⟨hallow, hcount, hsize, htotal, hextensions, htypes, hpattern, hrequired⟩⟩

/-- Limits that are stated are the limits for every write. -/
theorem States.resolve_eq (h : rules.States limits) (s : Situation) :
    rules.resolve s = .ok limits := by
  unfold resolve
  rw [h.allow, h.maximumCount, h.maximumIndividualSize, h.maximumTotalSize, h.supportedExtensions,
    h.supportedContentTypes, h.filenamePattern, h.requireReferences]
  simp only [Slot.valueOf?_map]
  rfl

/-- What is reported of a document is what is reported of its files; without files that is
    nothing, so that it makes no difference that the limits are not asked then. -/
theorem States.violations_eq (h : rules.States limits) (references : StringSet) (s : Situation) :
    rules.violations references s =
      .ok (limits.violations references s.newDoc.attachments) := by
  unfold violations
  cases hfiles : s.newDoc.attachments with
  | nil =>
    have hnone : limits.violations references [] = [] := by
      rw [List.eq_nil_iff_forall_not_mem]
      intro v hv
      rw [AttachmentLimits.mem_violations_iff fun _ => Iff.rfl] at hv
      cases hv with
      | notAllowed _ hfile _ => cases hfile
      | tooMany _ hmany => cases hmany
      | file hfile _ => cases hfile
      | total _ hlarge => cases hlarge
    rw [hnone]
    rfl
  | cons f rest =>
    rw [h.resolve_eq]
    rfl

end AttachmentRules

/-! ## The policy of a definition -/

namespace Definition

/-- What is reported of the attachments of a document, by a definition with these limits
    and after a walk with this trace. -/
structure EnforcesPolicy (d : Definition) (op : Operation) (s : Situation) (trace : Trace Unit)
    (limits : AttachmentLimits) (report : List DocumentViolation) : Prop where
  /-- The properties are walked to the end. -/
  walked : d.walk s = .ok trace ∧ trace.outcome = .ok ()
  /-- The walk gathers the strings at the positions for references. -/
  references (filename : String) :
    filename ∈ trace.references ↔ Refers d.properties s.newDoc filename
  /-- The limits are those that the definition states, and the references are those that
      are held against them. -/
  held : d.attachments.States limits ∧
    d.attachments.violations trace.references s = .ok report
  /-- The report on the attachments follows the one on the properties, after which
      nothing else is reported. -/
  appended : ∃ id revision, d.idViolations op s = .ok id ∧ d.revisionViolations op s = .ok revision ∧
    d.violations op s = .ok (id.map .document ++ revision.map .document ++
      (trace.violations ++ report.map .document))
  /-- What is reported is what is wrong with the attachments. -/
  breaches (v : DocumentViolation) :
    v ∈ report ↔ limits.Breach (Refers d.properties s.newDoc) s.newDoc.attachments v
  /-- It is reported in order. -/
  sorted : report.Pairwise DocumentViolation.Precedes
  /-- No other list has the same violations in order. -/
  unique (other : List DocumentViolation) : other.Pairwise DocumentViolation.Precedes →
    (∀ v, v ∈ other ↔ limits.Breach (Refers d.properties s.newDoc) s.newDoc.attachments v) →
    other = report

/-- A static definition walks a document to the end, holds the names that the walk gathers
    against its rules for attachments, and reports what both find. -/
theorem content_reported {d : Definition} (hd : d.Static) (s : Situation) :
    ∃ trace report, d.walk s = .ok trace ∧ trace.outcome = .ok () ∧
      (∀ filename, filename ∈ trace.references ↔ Refers d.properties s.newDoc filename) ∧
      d.attachments.violations trace.references s = .ok report ∧
      d.contentViolations s = .ok (trace.violations ++ report.map .document) := by
  obtain ⟨allowUnknown, report, hallow, hreport, hcontent⟩ := contentViolations_eq hd s
  obtain ⟨allowUnknown', hallow', hwalk⟩ := walk_of_static hd s
  have hsame : allowUnknown = allowUnknown' := Slot.literal.inj (hallow.symm.trans hallow')
  rw [← hsame] at hwalk
  have hends := (document_decides hd.properties allowUnknown s).ends
  have hreferences := references_iff hd.properties allowUnknown s
  exact ⟨document d.properties allowUnknown s, report, hwalk, hends, hreferences, hreport, hcontent⟩

/-- **The policy for attachments is enforced** on every document that is not removed: by
    the names that its properties hold, and with a report that is fixed by what is wrong. -/
theorem attachment_policy_enforced {definitions : Definitions} (hload : definitions.Loaded)
    {docType : String} {d : Definition} (hmem : (docType, d) ∈ definitions) {op : Operation}
    (hop : op ≠ .remove) {s : Situation} (hdoc : s.newDoc.IsRead) :
    ∃ trace limits report, d.EnforcesPolicy op s trace limits report := by
  have hd := hload.static _ hmem
  obtain ⟨limits, hlimits⟩ := hd.attachments.exists_limits
  obtain ⟨id, hid, -⟩ := idViolations_reports hd op s
  obtain ⟨revision, hrevision, -⟩ := revisionViolations_reports hd op s
  obtain ⟨trace, report, hwalk, hends, hreferences, hreport, hcontent⟩ := content_reported hd s
  have heq : limits.violations trace.references s.newDoc.attachments = report :=
    Except.ok.inj ((hlimits.violations_eq trace.references s).symm.trans hreport)
  have hbreaches (v : DocumentViolation) : v ∈ report ↔
      limits.Breach (Refers d.properties s.newDoc) s.newDoc.attachments v := by
    rw [← heq]
    exact AttachmentLimits.mem_violations_iff hreferences
  have hsorted : report.Pairwise DocumentViolation.Precedes := by
    rw [← heq]
    exact AttachmentLimits.pairwise_violations hdoc.names_ascend
  refine ⟨trace, limits, report, ⟨hwalk, hends⟩, hreferences, ⟨hlimits, hreport⟩,
    ⟨id, revision, hid, hrevision, ?_⟩, hbreaches, hsorted, ?_⟩
  · apply violations_eq hid hrevision
    rw [if_neg hop]
    exact hcontent
  · intro other hother hsame
    apply DocumentViolation.report_unique hother hsorted
    intro v
    rw [hsame, hbreaches]

/-- Albums of scanned pages, each of which names its file. -/
def albumText : String :=
  (Json.object [("album", .object [
    ("typeFilter", .object [("idPattern", .string "a[0-9]+")]),
    ("channels", .string "archive"),
    ("allowAttachments", .bool true),
    ("attachmentConstraints", .object [
      ("maximumTotalSize", .ofNat 100),
      ("supportedContentTypes", .array [.string "image/png"]),
      ("requireAttachmentReferences", .bool true)]),
    ("propertyValidators", .object [
      ("pages", .object [("type", .string "array"),
        ("arrayElementsValidator", .object [("type", .string "object"),
          ("propertyValidators", .object [
            ("scan", .object [("type", .string "attachmentReference")])])])])])])]).compact

/-- An album with one page and two files. -/
def album : Document :=
  ⟨[("_id", .string "a1"),
    ("_attachments", .object [
      ("first.png", .object [("content_type", .string "image/png"), ("length", .ofNat 101)]),
      ("notes", .object [])]),
    ("pages", .array [.object [("scan", .string "first.png")]])],
    [("first.png", { contentType := some "image/png", length := some 101 }), ("notes", {})]⟩

theorem isRead_album : album.IsRead := by
  constructor
  · have hlength : (Json.ofNat 101).UniqueKeys := trivial
    simp [album, Document.toJson, Json.UniqueKeys, Json.UniqueKeysFields, Json.UniqueKeysItems,
      hlength]
  · -- the files are listed by name already
    have hsorted : Document.sortedByName album.attachments = album.attachments :=
      List.mergeSort_of_pairwise (by decide)
    exact congrArg Except.ok hsorted

/-- What computations see when the archive adds the album. -/
def albumAdded : Situation where
  newDoc := album
  oldDoc := none
  principal := { channels := ["archive"] }
  database := none

/-- The file that a page names is in order by itself. The notes are of no content type and
    no page names them, and both files together are too large. -/
theorem attachment_policy_enforced_album :
    ∃ definitions d trace limits report, Definitions.parse .json albumText = .ok definitions ∧
      ("album", d) ∈ definitions ∧ d.EnforcesPolicy .add albumAdded trace limits report ∧
      trace.references = ["first.png"] ∧
      report = [.attachment "notes" (.contentType ["image/png"]), .attachment "notes" .unreferenced,
        .attachmentsExceedTotalSize 100] := by
  have hcompute : ((Definitions.parse .json albumText).toOption.bind fun definitions =>
      (Entries.get? "album" definitions).bind fun d =>
        (d.walk albumAdded).toOption.bind fun trace =>
          (d.attachments.violations trace.references albumAdded).toOption.map fun report =>
            (trace.references, report)) =
      some (["first.png"], [.attachment "notes" (.contentType ["image/png"]),
        .attachment "notes" .unreferenced, .attachmentsExceedTotalSize 100]) := by
    rw [albumText, Definitions.parse_compact]
    decide +kernel
  obtain ⟨definitions, hload, hcompute⟩ := Option.bind_eq_some_iff.mp hcompute
  obtain ⟨d, hd, hcompute⟩ := Option.bind_eq_some_iff.mp hcompute
  obtain ⟨trace, hwalk, hcompute⟩ := Option.bind_eq_some_iff.mp hcompute
  obtain ⟨report, hreport, hcompute⟩ := Option.map_eq_some_iff.mp hcompute
  obtain ⟨hreferences, hfound⟩ := Prod.mk.inj hcompute
  have hload := ok_of_toOption hload
  have hmem := Entries.mem_of_get? hd
  have hadded : Operation.add ≠ .remove := nofun
  have hread : albumAdded.newDoc.IsRead := isRead_album
  obtain ⟨trace', limits, report', henforces⟩ :=
    attachment_policy_enforced (.file hload) hmem hadded hread
  -- the walk and the report are the ones that were run
  obtain rfl : trace = trace' := Except.ok.inj ((ok_of_toOption hwalk).symm.trans henforces.walked.1)
  obtain rfl : report = report' := Except.ok.inj ((ok_of_toOption hreport).symm.trans henforces.held.2)
  exact ⟨definitions, d, trace, limits, report, hload, hmem, henforces, hreferences, hfound⟩

end Definition

end WritePolicy
