import WritePolicy.Proofs.Agreement
import WritePolicy.Proofs.Relocation
import WritePolicy.Proofs.Robustness

/-! # Reports are put together from segments

    What a walk reports of a property is its segment: the violations at the value and
    at all positions below it, with positions counted from the value. A segment is a
    function of the validator, the value, its prior counterpart, whether there is a
    prior document, and the descriptors of the attachments (`Walk.segment`); nothing
    else of a write has a part in it.

    The report on a document is the segments of the declared properties, each moved
    below the name of its property, and then the unknown properties. The same holds
    further down: the segment of every validator that is reached is part of the
    report, moved below the path that leads there. So nothing leaks from one property
    into another, however they are nested.
-/

namespace WritePolicy

open Trace

/-! ## Texts of positions -/

/-- The text of steps that follow others. -/
def Path.tailText (rest : Path) : String :=
  rest.foldl (fun text step => text ++ step.text) ""

/-- Steps are written one after the other, whatever stands before them. -/
theorem Path.foldl_text (rest : Path) (text : String) :
    rest.foldl (fun text step => text ++ step.text) text = text ++ rest.tailText := by
  unfold tailText
  induction rest generalizing text with
  | nil => exact String.append_empty.symm
  | cons step rest ih =>
    have hempty : "" ++ step.text = step.text := String.empty_append
    rw [List.foldl_cons, List.foldl_cons, ih, hempty, ih step.text, String.append_assoc]

/-- A path that begins with another has the text of the other at its front. -/
theorem Path.text_append {path : Path} (h : path ≠ []) (rest : Path) :
    (path ++ rest).text = path.text ++ rest.tailText := by
  cases path with
  | nil => exact absurd rfl h
  | cons step steps =>
    -- only the first step of a path may be written without a dot
    cases step <;>
    · show List.foldl _ _ (steps ++ rest) = _
      rw [List.foldl_append, Path.foldl_text rest]
      rfl

namespace Trace

variable {α : Type}

/-- A trace reports violations of properties. -/
theorem exists_of_mem_violations {t : Trace α} {v : Violation} (h : v ∈ t.violations) :
    ∃ place x, v = .property place x := by
  obtain ⟨e, -, he⟩ := List.mem_filterMap.mp h
  cases e with
  | violation place x => exact ⟨place, x, (Option.some.inj he).symm⟩
  | reference _ _ => cases he
  | computation _ _ _ => cases he

/-- What is run for each member of a list reports what is run for the members. -/
theorem violations_each {f : α → Trace Unit} {members : List α}
    (h : ∀ a ∈ members, (f a).outcome = .ok ()) :
    violations (Logged.each f members) = members.flatMap fun a => (f a).violations := by
  rw [each_eq h]
  unfold violations
  exact List.filterMap_flatMap

end Trace

namespace Walk

variable {s : Situation} {path : Path} {type : DataType} {rules : CommonRules}
  {v c w : Validator} {x : Json} {value old y z : Option Json} {step : Step} {rest : Path}

/-! ## Segments -/

/-- A write of which only that is told which a static validator looks at, besides
    the value and its counterpart. -/
def seen (hasOld : Bool) (files : Entries AttachmentDescriptor) : Situation where
  newDoc := ⟨[], files⟩
  oldDoc := if hasOld then some ⟨[], []⟩ else none
  principal := {}
  database := none

theorem seen_hasOld (hasOld : Bool) (files : Entries AttachmentDescriptor) :
    (seen hasOld files).hasOld = hasOld := by
  cases hasOld <;> rfl

/-- What a walk from a validator reports of a value and its counterpart, with
    positions counted from the value. -/
def segment (hasOld : Bool) (files : Entries AttachmentDescriptor) (v : Validator)
    (value old : Option Json) : List Violation :=
  (item (seen hasOld files) [] value old v).violations

/-- A walk from any place reports the segment, moved below the place. -/
theorem item_violations (hv : v.Static) (s : Situation) (place : Path) (value old : Option Json) :
    (item s place value old v).violations =
      (segment s.hasOld s.newDoc.attachments v value old).map (.below place) := by
  have hfiles : s.newDoc.attachments = (seen s.hasOld s.newDoc.attachments).newDoc.attachments :=
    rfl
  have hmoved : item s (place ++ []) value old v =
      (item (seen s.hasOld s.newDoc.attachments) [] value old v).below place := by
    refine item_below hv hfiles place [] fun rest w y _ => ?_
    rw [seen_hasOld]
  rw [List.append_nil] at hmoved
  rw [hmoved, violations_below]
  rfl

/-- The declared properties report one after the other. -/
theorem properties_violations {declared : List (String × Validator)}
    (hdeclared : ∀ e ∈ declared, e.2.Static) (s : Situation) (path : Path) (fields : Entries Json)
    (old : Option Json) :
    (properties s path fields old declared).outcome = .ok () ∧
      (properties s path fields old declared).violations = declared.flatMap fun e =>
        (item s (path ++ [.property e.1]) (Entries.get? e.1 fields)
          (old.bind (·.field? e.1)) e.2).violations := by
  induction declared with
  | nil => exact ⟨rfl, rfl⟩
  | cons e rest ih =>
    obtain ⟨hhead, hrest⟩ := List.forall_mem_cons.mp hdeclared
    obtain ⟨hends, hviolations⟩ := ih hrest
    have hfirst : (item s (path ++ [.property e.1]) (Entries.get? e.1 fields)
        (old.bind (·.field? e.1)) e.2).outcome = .ok () := (item_decides hhead _ _ _).ends
    unfold properties
    constructor
    · rw [Logged.bind_of_ok hfirst]
      exact hends
    · rw [violations_bind hfirst, hviolations, List.flatMap_cons]

/-- The keys that are neither declared nor the store's, in the order of the fields. -/
def unknownNames (declared : Properties) (fields : Entries Json) : List String :=
  (Entries.keys fields).filter fun name =>
    decide (name ∉ Entries.keys declared ∧ name ∉ Document.reservedProperties)

/-- Each unknown property is one violation, unless all are allowed. -/
theorem unsupported_violations (declared : Properties) (allowed : Bool) (path : Path)
    (fields : Entries Json) :
    (unsupported (Entries.keys declared) allowed path fields).violations =
      if allowed then [] else (unknownNames declared fields).map fun name =>
        .property (path ++ [.property name]) .unsupported := by
  have hnames : (Entries.keys fields).filter (fun name =>
      !(Entries.keys declared).contains name && !Document.isReserved name) =
      unknownNames declared fields := by
    refine List.filter_congr fun name _ => ?_
    simp [Document.isReserved, Bool.decide_and]
  unfold unsupported
  cases allowed with
  | true => rfl
  | false =>
    rw [hnames]
    show violations (Logged.each _ _) = _
    rw [violations_each fun _ _ => rfl]
    exact List.flatMap_pure_eq_map _ _

/-! ## Segments within segments -/

/-- What is a step down is described by the step. -/
theorem Child.under (h : Child v x step c z) (hrest : Under c rest w) :
    Under v (step :: rest) w := by
  cases h with
  | property hmem => exact .property hmem hrest
  | element _ => exact .element _ hrest
  | entry _ => exact .entry _ hrest

/-- What is below is described by the steps that lead there. -/
theorem Below.under (h : Below v value rest w y) : Under v rest w := by
  induction h with
  | here => exact .here
  | step hchild _ ih => exact hchild.under ih

/-- What is reported for a member is part of what is reported for all. -/
theorem infix_flatMap {α β : Type} {f : α → List β} {members : List α} {a : α}
    (h : a ∈ members) : f a <:+: members.flatMap f := by
  obtain ⟨before, after, rfl⟩ := List.append_of_mem h
  rw [List.flatMap_append, List.flatMap_cons]
  exact ⟨before.flatMap f, after.flatMap f, by rw [List.append_assoc]⟩

/-- The report on a value ends with what the checks of its type and below it report. -/
theorem position_part {here : Situation} (hr : rules.Static) (hvalue : here.value = some x)
    (hx : x ≠ .null) (htype : type.admits x = true) (content : Json → Trace Unit) :
    (content x).violations <:+: (position type rules path here content).violations := by
  have hpresent : present here.value = some x := present_eq_some.mpr ⟨hvalue, hx⟩
  have hfrozen : (immutability type rules path here).outcome = .ok () :=
    (immutability_decides hr).ends
  have hempty : (emptiness rules path here x).outcome = .ok () := (emptiness_decides hr x).ends
  have hequal : (equality type rules path here x).outcome = .ok () :=
    (equality_decides hr x).ends
  unfold position
  rw [customValidation_static hr, Logged.pure_bind, violations_bind hfrozen, hpresent]
  show _ <:+: _ ++ (if type.admits x then _ else _ : Trace Unit).violations
  rw [if_pos htype, violations_bind hempty, violations_bind hequal]
  refine List.IsSuffix.isInfix ?_
  exact ((List.suffix_append _ _).trans (List.suffix_append _ _)).trans (List.suffix_append _ _)

/-- A declared property is reported on in the report on its object. -/
theorem property_part {declared : List (String × Validator)} {allowUnknown : Slot Bool}
    (hv : (Validator.object rules (some declared) allowUnknown).Static) (s : Situation)
    (path : Path) {fields : Entries Json} (old : Option Json) {e : String × Validator}
    (he : e ∈ declared) :
    (item s (path ++ [.property e.1]) (Entries.get? e.1 fields)
        (old.bind (·.field? e.1)) e.2).violations <:+:
      (item s path (some (.object fields)) old
        (.object rules (some declared) allowUnknown)).violations := by
  cases hv with
  | object hr hallow hdeclared =>
    obtain ⟨allowed, rfl⟩ := hallow
    obtain ⟨hends, hviolations⟩ := properties_violations (hdeclared declared rfl) s path fields old
    conv => rhs; unfold item
    refine List.IsInfix.trans ?_ (position_part (x := .object fields) hr rfl Json.noConfusion rfl _)
    -- the declared properties are reported on before the unknown ones
    show _ <:+: violations (properties s path fields old declared >>= fun _ =>
      unsupported (Entries.keys declared) allowed path fields)
    rw [violations_bind hends, hviolations]
    have hmember := infix_flatMap (f := fun e : String × Validator =>
      (item s (path ++ [.property e.1]) (Entries.get? e.1 fields)
        (old.bind (·.field? e.1)) e.2).violations) he
    exact hmember.trans (List.prefix_append _ _).isInfix

/-- An element is reported on in the report on its array. -/
theorem element_part {length : SizeRules} {element : Validator}
    (hv : (Validator.array rules length (some element)).Static) (s : Situation)
    (path : Path) {items : List Json} (old : Option Json) {e : Nat × Json}
    (he : e ∈ indexed items) :
    (item s (path ++ [.element e.1]) (some e.2) (old.bind (·.item? e.1)) element).violations <:+:
      (item s path (some (.array items)) old (.array rules length (some element))).violations := by
  cases hv with
  | array hr hlength helement =>
    conv => rhs; unfold item
    refine List.IsInfix.trans ?_ (position_part (x := .array items) hr rfl Json.noConfusion rfl _)
    -- the length is reported on before the elements
    have hsize (here : Situation) : (size length .length path here items.length).outcome = .ok () :=
      (size_decides hlength .length items.length).ends
    show _ <:+: violations (size length .length path _ items.length >>= fun _ =>
      Logged.each _ (indexed items))
    rw [violations_bind (hsize _), violations_each fun e _ =>
      (item_decides (helement _ rfl) _ _ _).ends]
    have hmember := infix_flatMap (f := fun e : Nat × Json =>
      (item s (path ++ [.element e.1]) (some e.2) (old.bind (·.item? e.1)) element).violations) he
    exact hmember.trans (List.suffix_append _ _).isInfix

/-- The value of an entry is reported on in the report on its hashtable. -/
theorem entry_part {limits : SizeRules} {keys : Option KeyRules} {entry : Validator}
    (hv : (Validator.hashtable rules limits keys (some entry)).Static) (s : Situation)
    (path : Path) {fields : Entries Json} (old : Option Json) {e : String × Json}
    (he : e ∈ fields) :
    (item s (path ++ [.entry e.1]) (some e.2) (old.bind (·.field? e.1)) entry).violations <:+:
      (item s path (some (.object fields)) old
        (.hashtable rules limits keys (some entry))).violations := by
  cases hv with
  | hashtable hr hlimits hkeys hentry =>
    conv => rhs; unfold item
    refine List.IsInfix.trans ?_ (position_part (x := .object fields) hr rfl Json.noConfusion rfl _)
    -- what is run for one entry, and what it comes to
    let here := s.withItem (some (.object fields)) old
    let below (e : String × Json) : Trace Unit :=
      item s (path ++ [.entry e.1]) (some e.2) (old.bind (·.field? e.1)) entry
    let visit (e : String × Json) : Trace Unit := do
      Walk.key keys path here e.1
      below e
    have hsize : (size limits .entries path here fields.length).outcome = .ok () :=
      (size_decides hlimits .entries fields.length).ends
    have hkey (e : String × Json) : (Walk.key keys path here e.1).outcome = .ok () :=
      (key_decides hkeys e.1).ends
    have hbelow (e : String × Json) : (below e).outcome = .ok () :=
      (item_decides (hentry _ rfl) _ _ _).ends
    have hvisit (e : String × Json) : (visit e).outcome = .ok () := by
      show (Walk.key keys path here e.1 >>= fun _ => below e).outcome = _
      rw [Logged.bind_of_ok (hkey e)]
      exact hbelow e
    show _ <:+: violations (size limits .entries path here fields.length >>= fun _ =>
      Logged.each visit fields)
    rw [violations_bind hsize, violations_each fun e _ => hvisit e]
    have hmember : (below e).violations <:+: (visit e).violations := by
      show _ <:+: violations (Walk.key keys path here e.1 >>= fun _ => below e)
      rw [violations_bind (hkey e)]
      exact (List.suffix_append _ _).isInfix
    refine hmember.trans ?_
    exact (infix_flatMap (f := fun e => (visit e).violations) he).trans
      (List.suffix_append _ _).isInfix

/-- The segment one step down is part of the segment, moved below the step. -/
theorem Child.segment_part (h : Child v x step c z) (hv : v.Static) (hasOld : Bool)
    (files : Entries AttachmentDescriptor) (old : Option Json) :
    (segment hasOld files c z (old.bind (Step.into? · step))).map (.below [step]) <:+:
      segment hasOld files v (some x) old := by
  -- the walk that the segment is defined by goes through the place one step down
  have hmoved := item_violations ((h.under .here).static hv) (seen hasOld files) [step] z
    (old.bind (Step.into? · step))
  rw [seen_hasOld] at hmoved
  rw [show files = (seen hasOld files).newDoc.attachments from rfl, ← hmoved]
  unfold segment
  cases h with
  | property hmem => exact property_part hv _ [] old hmem
  | element hitem =>
    exact element_part hv _ [] old (mem_indexed.mpr hitem : (⟨_, _⟩ : Nat × Json) ∈ _)
  | entry hmem => exact entry_part hv _ [] old hmem

/-- The segment at a position below is part of the segment, moved below the path
    that leads there. -/
theorem Below.segment_part (h : Below v value rest w y) (hv : v.Static) (hasOld : Bool)
    (files : Entries AttachmentDescriptor) (old : Option Json) :
    (segment hasOld files w y (old.bind (·.at? rest))).map (.below rest) <:+:
      segment hasOld files v value old := by
  induction h generalizing old with
  | here =>
    have hstays : Violation.below [] = id := funext Violation.below_nil
    simp only [Json.at?_nil, hstays, List.map_id, List.infix_refl]
  | @step v c w x y z step rest hchild _ ih =>
    have hone := hchild.segment_part hv hasOld files old
    have hrest := ih ((hchild.under .here).static hv) (old.bind (Step.into? · step))
    have hsteps : Violation.below (step :: rest) = Violation.below [step] ∘ Violation.below rest :=
      funext (Violation.below_append [step] rest)
    rw [Json.at?_cons, hsteps, ← List.map_map]
    exact (hrest.map _).trans hone

/-! ## Reports on documents -/

/-- What is reported at a declared property and at all positions below it. -/
def propertyReport (s : Situation) (e : String × Validator) : List Violation :=
  (item s [.property e.1] (s.newDoc.get? e.1) (s.oldDoc.bind (·.get? e.1)) e.2).violations

/-- The counterpart of a property is the one that the prior document has. -/
theorem counterpart_property (s : Situation) (name : String) :
    (s.oldDoc.map Document.toJson).bind (·.field? name) = s.oldDoc.bind (·.get? name) := by
  cases s.oldDoc <;> rfl

/-- A walk over a document reports the declared properties in order, and then the
    unknown ones. -/
theorem document_violations {declared : Properties} (h : declared.Static) (allowUnknown : Bool)
    (s : Situation) :
    (document declared allowUnknown s).violations =
      declared.flatMap (propertyReport s) ++
        if allowUnknown then [] else (unknownNames declared s.newDoc.fields).map fun name =>
          .property [.property name] .unsupported := by
  obtain ⟨hends, hviolations⟩ := properties_violations h s [] s.newDoc.fields
    (s.oldDoc.map Document.toJson)
  unfold document
  rw [violations_bind hends, hviolations, unsupported_violations]
  refine congrArg (· ++ _) (List.flatMap_congr fun e _ => ?_)
  rw [counterpart_property]
  rfl

/-- What is reported at a position that is reached is part of the report on the
    document. -/
theorem Reached.infix_document {declared : Properties} (h : declared.Static) (allowUnknown : Bool)
    {s : Situation} (hreached : Reached declared s.newDoc path w y) :
    (item s path y (s.counterpart path) w).violations <:+:
      (document declared allowUnknown s).violations := by
  obtain ⟨name, v, rest, hmem, rfl, hbelow⟩ := hreached
  have hv := h _ hmem
  have hw : w.Static := hbelow.under.static hv
  have hcounterpart : s.counterpart (.property name :: rest) =
      (s.oldDoc.bind (·.get? name)).bind (·.at? rest) := by
    unfold Situation.counterpart
    rw [Json.at?_cons]
    exact congrArg (fun v : Option Json => v.bind (·.at? rest)) (counterpart_property s name)
  have hsegment := hbelow.segment_part hv s.hasOld s.newDoc.attachments
    (s.oldDoc.bind (·.get? name))
  have hsteps : Violation.below (.property name :: rest) =
      Violation.below [.property name] ∘ Violation.below rest :=
    funext (Violation.below_append [.property name] rest)
  rw [item_violations hw, hcounterpart, hsteps, ← List.map_map, document_violations h]
  refine (hsegment.map _).trans ?_
  rw [← item_violations hv]
  exact (infix_flatMap (f := propertyReport s) hmem).trans (List.prefix_append _ _).isInfix

/-- How the reports on documents with these properties are put together. -/
structure ComposedReports (declared : Properties) : Prop where
  /-- The report has the segments of the declared properties, in order of
      declaration, and then the unknown properties, in order of appearance. -/
  report (allowUnknown : Bool) (s : Situation) :
    (document declared allowUnknown s).outcome = .ok () ∧
      (document declared allowUnknown s).violations =
        declared.flatMap (propertyReport s) ++
          if allowUnknown then [] else (unknownNames declared s.newDoc.fields).map fun name =>
            .property [.property name] .unsupported
  /-- The segment of a property is told by its own values, whether there is a
      prior document, and the attachments. -/
  own (e : String × Validator) (s s' : Situation) :
    e ∈ declared → s.newDoc.get? e.1 = s'.newDoc.get? e.1 →
      s.oldDoc.bind (·.get? e.1) = s'.oldDoc.bind (·.get? e.1) →
      s.hasOld = s'.hasOld → s.newDoc.attachments = s'.newDoc.attachments →
      propertyReport s e = propertyReport s' e
  /-- A validator reports the same of a value and its counterpart wherever they
      stand, with the place put in front of every position. -/
  moved (path : Path) (w : Validator) (s : Situation) (place : Path) (value old : Option Json) :
    Describes declared path w →
      (item s place value old w).violations =
        (segment s.hasOld s.newDoc.attachments w value old).map (.below place)
  /-- So a position is written as the place and then what is not of the place. -/
  texts (hasOld : Bool) (files : Entries AttachmentDescriptor) (w : Validator)
      (value old : Option Json) :
    ∀ v ∈ segment hasOld files w value old, ∃ tail, ∀ place : Path, place ≠ [] →
      (v.below place).pathText? = some (place.text ++ tail)
  /-- This is so at every depth: what is reported at a position that is reached is
      one part of the report. -/
  embedded (allowUnknown : Bool) (s : Situation) (path : Path) (w : Validator) (y : Option Json) :
    Reached declared s.newDoc path w y →
      (item s path y (s.counterpart path) w).violations <:+:
        (document declared allowUnknown s).violations

/-- Reports are composed of segments, whatever static validators are declared. -/
theorem reports_composed {declared : Properties} (h : declared.Static) :
    ComposedReports declared where
  report allowUnknown s :=
    ⟨(document_decides h allowUnknown s).ends, document_violations h allowUnknown s⟩
  own e s s' hmem hnew hold hhas hfiles := by
    have hv := h e hmem
    unfold propertyReport
    rw [item_violations hv, item_violations hv, hnew, hold, hhas, hfiles]
  moved path w s place value old hdesc := by
    obtain ⟨name, v, rest, hmem, -, hunder⟩ := hdesc
    exact item_violations (hunder.static (h _ hmem)) s place value old
  texts hasOld files w value old v hv := by
    obtain ⟨rest, x, rfl⟩ := exists_of_mem_violations hv
    refine ⟨rest.tailText, fun place hplace => ?_⟩
    exact congrArg some (Path.text_append hplace rest)
  embedded allowUnknown s path w y hreached := hreached.infix_document h allowUnknown

/-- A list of texts. -/
def tagList : Validator :=
  .array {} {} (some (.scalar {} (.string none {})))

/-- A table of texts. -/
def labelTable : Validator :=
  .hashtable {} {} none (some (.scalar {} (.string none {})))

/-- A write of a list and a table. -/
def labelled (tags : List Json) (labels : Entries Json) : Situation where
  newDoc := ⟨[("labels", .object labels), ("extra", .null), ("tags", .array tags)], []⟩
  oldDoc := none
  principal := {}
  database := none

/-- The report on a list and a table is the segment of the list, that of the table,
    and the unknown property. The segment of the list stays what it is without the
    table. -/
theorem reports_composed_labelled :
    Properties.Static [("tags", tagList), ("labels", labelTable)] ∧
      ∃ tags labels,
        (document [("tags", tagList), ("labels", labelTable)] false
            (labelled [.string "a", .null, .ofNat 3] [("b", .ofNat 4)])).violations =
          tags ++ labels ++ [.property [.property "extra"] .unsupported] ∧
        tags.map Violation.pathText? = [some "tags[2]"] ∧
        labels.map Violation.pathText? = [some "labels[b]"] ∧
        propertyReport (labelled [.string "a", .null, .ofNat 3] []) ("tags", tagList) = tags := by
  have hrules : CommonRules.Static {} :=
    ⟨⟨_, rfl⟩, ⟨_, rfl⟩, ⟨_, rfl⟩, ⟨_, rfl⟩, Slot.literalIfSet_none, rfl⟩
  have hsize : SizeRules.Static {} := ⟨Slot.literalIfSet_none, Slot.literalIfSet_none⟩
  have htext : (Validator.scalar {} (.string none {})).Static :=
    .scalar hrules ⟨Slot.literalIfSet_none, hsize⟩
  have hstatic : Properties.Static [("tags", tagList), ("labels", labelTable)] := by
    intro e he
    rcases List.mem_cons.mp he with rfl | he
    · refine .array hrules hsize fun element helement => ?_
      cases helement
      exact htext
    · cases List.mem_singleton.mp he
      refine .hashtable hrules hsize nofun fun entry hentry => ?_
      cases hentry
      exact htext
  have hcomposed := reports_composed hstatic
  let both := labelled [.string "a", .null, .ofNat 3] [("b", .ofNat 4)]
  refine ⟨hstatic, propertyReport both ("tags", tagList), propertyReport both ("labels", labelTable),
    ?_, ?_, ?_, hcomposed.own _ _ _ List.mem_cons_self rfl rfl rfl rfl⟩
  · rw [(hcomposed.report false _).2, List.flatMap_cons, List.flatMap_singleton]
    rfl
  · decide +kernel
  · decide +kernel

end Walk

end WritePolicy
