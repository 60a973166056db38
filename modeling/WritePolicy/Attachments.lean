import WritePolicy.Walk.Item

/-! # Attachments of a document

    What a definition asks of the attachments of a document as a whole: whether
    there may be any, how many, how large, of which names and types, and
    whether a property has to name each of them. The rules are resolved once for
    a write; the files are then checked one by one in the order of their names.
    A document without attachments is not asked anything.
-/

namespace WritePolicy

/-- Rules for the attachments of documents. -/
structure AttachmentRules where
  allow : Slot Bool := .literal false
  maximumCount : Option (Slot Nat) := none
  maximumIndividualSize : Option (Slot Nat) := none
  maximumTotalSize : Option (Slot Nat) := none
  supportedExtensions : Option (Slot (List String)) := none
  supportedContentTypes : Option (Slot (List String)) := none
  filenamePattern : Option (Slot Pattern) := none
  requireReferences : Slot Bool := .literal false

/-- The rules as they stand for one write. -/
structure AttachmentLimits where
  allow : Bool
  maximumCount : Option Nat
  maximumIndividualSize : Option Nat
  supportedExtensions : Option (List String)
  supportedContentTypes : Option (List String)
  filenamePattern : Option Pattern
  requireReferences : Bool
  maximumTotalSize : Option Nat

/-- The rules for a write. -/
def AttachmentRules.resolve (rules : AttachmentRules) (s : Situation) :
    Except Misconfiguration AttachmentLimits := do
  let allow ← rules.allow.value s
  let maximumCount ← Slot.valueOf? rules.maximumCount s
  let maximumIndividualSize ← Slot.valueOf? rules.maximumIndividualSize s
  let supportedExtensions ← Slot.valueOf? rules.supportedExtensions s
  let supportedContentTypes ← Slot.valueOf? rules.supportedContentTypes s
  let filenamePattern ← Slot.valueOf? rules.filenamePattern s
  let requireReferences ← rules.requireReferences.value s
  let maximumTotalSize ← Slot.valueOf? rules.maximumTotalSize s
  return {
    allow, maximumCount, maximumIndividualSize, supportedExtensions, supportedContentTypes,
    filenamePattern, requireReferences, maximumTotalSize }

/-! ## Sizes -/

/-- The size of an attachment; one that is not told counts as 0. -/
def AttachmentDescriptor.size (d : AttachmentDescriptor) : Nat :=
  d.length.getD 0

/-- The largest size that is told apart from larger ones. -/
def largestSize : Nat := twoTo 64 - 1

/-- The sum of two sizes, or the largest size where the sum exceeds it. -/
def addSize (total size : Nat) : Nat :=
  min largestSize (total + size)

/-- The size of all files together, added up file by file. -/
def totalSize (files : Entries AttachmentDescriptor) : Nat :=
  files.foldl (fun total f => addSize total f.2.size) 0

namespace AttachmentLimits

/-! ## Violations -/

/-- What is wrong with one file. -/
def fileViolations (limits : AttachmentLimits) (references : StringSet) (filename : String)
    (d : AttachmentDescriptor) : List AttachmentViolation :=
  breach limits.maximumIndividualSize (fun most => decide (d.size ≤ most)) .exceedsSize
    ++ breach limits.supportedExtensions (Walk.hasSupportedExtension · filename) .extension
    ++ breach limits.supportedContentTypes (Walk.hasSupportedContentType · d) .contentType
    ++ breach limits.filenamePattern (·.isMatch filename) (fun p => .filename p.source)
    ++ if limits.requireReferences && !references.contains filename then [.unreferenced] else []

/-- What is wrong with the files of a document, given which of them its
    properties name. -/
def violations (limits : AttachmentLimits) (references : StringSet)
    (files : Entries AttachmentDescriptor) : List DocumentViolation :=
  (if !limits.allow && (Entries.keys files).any (!references.contains ·) then
      [.attachmentsNotAllowed] else [])
    ++ breach limits.maximumCount (fun most => decide (files.length ≤ most)) .tooManyAttachments
    ++ files.flatMap (fun f =>
      (limits.fileViolations references f.1 f.2).map (.attachment f.1))
    ++ breach limits.maximumTotalSize (fun most => decide (totalSize files ≤ most))
      .attachmentsExceedTotalSize

end AttachmentLimits

/-- The violations of the attachments of the new document. -/
def AttachmentRules.violations (rules : AttachmentRules) (references : StringSet)
    (s : Situation) : Except Misconfiguration (List DocumentViolation) := do
  if s.newDoc.attachments.isEmpty then return []
  let limits ← rules.resolve s
  return limits.violations references s.newDoc.attachments

end WritePolicy
