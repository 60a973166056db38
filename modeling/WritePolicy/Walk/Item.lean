import WritePolicy.Validator

/-! # Rules at a position

    The checks at one position, without those below it: custom validation and
    immutability always; then either the requirement of a value that is missing
    or, for a value of the declared type, emptiness, equality and the rules of
    its type. A value of another type is one violation and ends the checks.
-/

namespace WritePolicy.Walk

/-- A value that is neither absent nor `null`. -/
def present (v : Option Json) : Option Json :=
  v.filter (!·.isNull)

/-! ## Custom validation and immutability -/

/-- The messages of a custom validation. -/
def customValidation (rules : CommonRules) (path : Path) (here : Situation) : Trace Unit :=
  Trace.readThen path .customValidation here rules.customValidation fun messages =>
    Logged.each (fun m => Trace.violation path (.custom m)) messages

/-- The value may not change: always, or because it was set before. The second
    is asked only if the first does not hold. -/
def isFrozen (rules : CommonRules) (path : Path) (here : Situation) : Trace Bool := do
  if ← Trace.read path .immutable here rules.immutable then return true
  else if (present here.oldValue).isSome then
    Trace.read path .immutableWhenSet here rules.immutableWhenSet
  else return false

/-- The value is what it was, where missing and `null` are the same. -/
def unchanged (type : DataType) (here : Situation) : Bool :=
  match present here.value, present here.oldValue with
  | none, none => true
  | some new, some old => type.sameValue new old
  | _, _ => false

/-- Immutability against the prior document, if there is one. -/
def immutability (type : DataType) (rules : CommonRules) (path : Path) (here : Situation) :
    Trace Unit := do
  if here.hasOld then
    let frozen ← isFrozen rules path here
    Trace.violationIf (frozen && !unchanged type here) path .modified
  else return ()

/-! ## Requirement, type, emptiness, equality -/

/-- A missing value must not be required. -/
def requirement (rules : CommonRules) (path : Path) (here : Situation) : Trace Unit := do
  Trace.violationIf (← Trace.read path .required here rules.required) path .required

/-- An empty value may be forbidden. -/
def emptiness (rules : CommonRules) (path : Path) (here : Situation) (v : Json) :
    Trace Unit := do
  let forbidden ← Trace.read path .mustNotBeEmpty here rules.mustNotBeEmpty
  Trace.violationIf (forbidden && v.isEmpty) path .mustNotBeEmpty

/-- A value may have to equal another; `null` demands nothing. -/
def equality (type : DataType) (rules : CommonRules) (path : Path) (here : Situation)
    (v : Json) : Trace Unit :=
  Trace.readThen path .mustEqual here rules.mustEqual fun expected =>
    Trace.violationIf (!expected.isNull && !type.sameValue v expected) path (.mustEqual expected)

/-- All checks at a position; those of its type and below it are given. -/
def position (type : DataType) (rules : CommonRules) (path : Path) (here : Situation)
    (content : Json → Trace Unit) : Trace Unit := do
  customValidation rules path here
  immutability type rules path here
  match present here.value with
  | none => requirement rules path here
  | some v =>
    if type.admits v then do
      emptiness rules path here v
      equality type rules path here v
      content v
    else Trace.violation path (.wrongType type)

/-! ## Rules of scalar types -/

/-- A size within its limits. -/
def size (rules : SizeRules) (counted : Counted) (path : Path) (here : Situation)
    (actual : Nat) : Trace Unit := do
  Trace.readThen path .minimumSize here rules.minimum fun least =>
    Trace.violationIf (decide (actual < least)) path (.tooSmall counted least)
  Trace.readThen path .maximumSize here rules.maximum fun most =>
    Trace.violationIf (decide (most < actual)) path (.tooLarge counted most)

/-- A text against a pattern. -/
def pattern (rule : Option (Slot Pattern)) (path : Path) (here : Situation) (text : String) :
    Trace Unit :=
  Trace.readThen path .pattern here rule fun p =>
    Trace.violationIf (!p.isMatch text) path (.patternMismatch p.source)

/-- The extension of a file name: what follows its last dot. -/
def extension? (filename : String) : Option String :=
  let cs := filename.toList.reverse
  if cs.contains '.' then some (String.ofList (cs.takeWhile (· != '.')).reverse) else none

/-- The extension is supported, regardless of ASCII case. -/
def hasSupportedExtension (supported : List String) (filename : String) : Bool :=
  match extension? filename with
  | none => false
  | some e => supported.any fun s => s.map Char.toLower == e.map Char.toLower

/-- The content type is given and supported. -/
def hasSupportedContentType (supported : List String) (d : AttachmentDescriptor) : Bool :=
  match d.contentType with
  | none => false
  | some t => supported.contains t

/-- A property that names an attachment: the name always, content type and size
    if the document describes the attachment. -/
def attachmentReference (rules : ReferenceRules) (path : Path) (here : Situation)
    (filename : String) : Trace Unit := do
  Trace.reference path filename
  pattern rules.pattern path here filename
  Trace.readThen path .supportedExtensions here rules.supportedExtensions fun supported =>
    Trace.violationIf (!hasSupportedExtension supported filename) path
      (.unsupportedExtension supported)
  match here.newDoc.attachment? filename with
  | none => return ()
  | some d => do
    Trace.readThen path .supportedContentTypes here rules.supportedContentTypes fun supported =>
      Trace.violationIf (!hasSupportedContentType supported d) path
        (.unsupportedContentType supported)
    Trace.readThen path .maximumAttachmentSize here rules.maximumSize fun most =>
      Trace.violationIf (d.length.any fun l => decide (most < l)) path (.attachmentTooLarge most)

/-- The text of a value that is a string. -/
def textOf (v : Json) : String :=
  v.asString?.getD ""

/-- The rules of a scalar type. -/
def scalar (type : Scalar) (path : Path) (here : Situation) (v : Json) : Trace Unit :=
  match type with
  | .string rule length => do
    pattern rule path here (textOf v)
    size length .length path here (textOf v).length
  | .ordinal t rules => range t rules path v here
  | .boolean | .any => pure ()
  | .enumeration allowed => do
    let values ← Trace.read path .predefinedValues here allowed
    Trace.violationIf (!values.any (·.sameContent v)) path (.notPredefined values)
  | .attachmentReference rules => attachmentReference rules path here (textOf v)

/-! ## Keys of hashtables -/

/-- The key of an entry. An empty key is reported at the hashtable, a key that
    does not match at the entry. -/
def key (rules : Option KeyRules) (path : Path) (here : Situation) (k : String) : Trace Unit :=
  match rules with
  | none => pure ()
  | some rules => do
    if k.isEmpty then
      Trace.violationIf (← Trace.read path .keyMustNotBeEmpty here rules.mustNotBeEmpty) path
        .emptyKey
    Trace.readThen path .keyPattern here rules.pattern fun p =>
      Trace.violationIf (!p.isMatch k) (path ++ [.entry k]) (.keyPatternMismatch k p.source)

end WritePolicy.Walk
