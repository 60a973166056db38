import WritePolicy.Proofs.Alike
import WritePolicy.Proofs.Walk

/-! # Walks over alike documents

    Two walks with static validators over alike documents log the same events. Only
    the order may differ, and only in two places: where the entries of a hashtable
    are visited and where unknown properties are listed, which both follow the order
    of the fields. Everywhere else the checks at a position are not merely alike but
    equal, because what they read of the document is equal.

    So there is one equation for each check, `Agrees` for the traces as wholes, and
    the induction on the validator tree (`item_agrees`) puts them together.
-/

namespace WritePolicy

namespace Trace

variable {α β : Type} {t t' u u' v : Trace Unit}

/-- Both traces end without a failure, with the same events up to their order. -/
structure Agrees (t u : Trace Unit) : Prop where
  ends : t.outcome = .ok ()
  ends' : u.outcome = .ok ()
  log : t.log.Perm u.log

/-- A trace that ends agrees with itself. -/
theorem Agrees.of_eq (h : t.outcome = .ok ()) (heq : t = u) : Agrees t u :=
  ⟨h, heq ▸ h, heq ▸ .refl _⟩

theorem agrees_pure : Agrees (pure ()) (pure ()) :=
  .of_eq rfl rfl

theorem Agrees.trans (h : Agrees t u) (h' : Agrees u v) : Agrees t v :=
  ⟨h.ends, h'.ends', h.log.trans h'.log⟩

theorem Agrees.bind (h : Agrees t u) (h' : Agrees t' u') :
    Agrees (t >>= fun _ => t') (u >>= fun _ => u') := by
  rw [Logged.bind_of_ok h.ends, Logged.bind_of_ok h.ends']
  exact ⟨h'.ends, h'.ends', h.log.append h'.log⟩

/-- What is run for the members of two lists agrees if it does one by one. -/
theorem agrees_each {R : α → β → Prop} {f : α → Trace Unit} {g : β → Trace Unit}
    {xs : List α} {ys : List β} (h : List.Forall₂ R xs ys)
    (hfg : ∀ a b, R a b → Agrees (f a) (g b)) : Agrees (Logged.each f xs) (Logged.each g ys) := by
  induction h with
  | nil => exact agrees_pure
  | cons hab _ ih => exact (hfg _ _ hab).bind ih

/-- What is run for each member of a list logs what is run for the members. -/
theorem each_eq {f : α → Trace Unit} {xs : List α} (h : ∀ a ∈ xs, (f a).outcome = .ok ()) :
    Logged.each f xs = ⟨xs.flatMap fun a => (f a).log, .ok ()⟩ := by
  induction xs with
  | nil => rfl
  | cons a rest ih =>
    obtain ⟨hhead, hrest⟩ := List.forall_mem_cons.mp h
    show (f a >>= fun _ => Logged.each f rest) = _
    rw [Logged.bind_of_ok hhead, ih hrest]
    rfl

/-- The order of a list affects the order of the events only. -/
theorem agrees_each_perm {f : α → Trace Unit} {xs ys : List α} (hperm : xs.Perm ys)
    (h : ∀ a ∈ xs, (f a).outcome = .ok ()) : Agrees (Logged.each f xs) (Logged.each f ys) := by
  rw [each_eq h, each_eq fun a ha => h a (hperm.mem_iff.mpr ha)]
  exact ⟨rfl, rfl, hperm.flatMap_right _⟩

/-- What is run for the fields of alike objects agrees if it does for alike
    fields. -/
theorem agrees_each_fields {f g : String × Json → Trace Unit} {xs ys : Entries Json}
    (h : (Json.object xs).Alike (.object ys))
    (hfg : ∀ e e', Json.AlikeEntry e e' → Agrees (f e) (g e')) :
    Agrees (Logged.each f xs) (Logged.each g ys) := by
  obtain ⟨between, hbetween, hperm⟩ := Json.exists_between h
  -- reordering needs that every run ends, which the fields between pass on
  have hends : ∀ e' ∈ between, (g e').outcome = .ok () := by
    clear hperm h
    induction hbetween with
    | nil => nofun
    | cons he _ ih => exact List.forall_mem_cons.mpr ⟨(hfg _ _ he).ends', ih⟩
  exact (agrees_each hbetween hfg).trans (agrees_each_perm hperm hends)

/-- A check of a literal does not depend on where it is read. -/
theorem readThen_eq {path : Path} {constraint : Constraint} {s s' : Situation}
    {slot : Option (Slot α)} (hslot : Slot.LiteralIfSet slot) {check check' : α → Trace Unit}
    (h : ∀ a, check a = check' a) :
    readThen path constraint s slot check = readThen path constraint s' slot check' := by
  obtain rfl | ⟨a, rfl⟩ := hslot.cases
  · rfl
  · exact h a

end Trace

open Trace

namespace Walk

variable {s s' here here' : Situation} {path : Path} {type : DataType} {rules : CommonRules}
  {x y : Json}

/-! ## Checks of one position -/

/-- What is there is alike. -/
theorem present_rel {v w : Option Json} (h : Option.Rel Json.Alike v w) :
    Option.Rel Json.Alike (present v) (present w) := by
  refine filter_rel h fun a b hab => ?_
  rw [hab.shape.isNull_eq]

theorem unchanged_eq (hvalue : Option.Rel Json.Alike here.value here'.value)
    (hold : Option.Rel Json.Alike here.oldValue here'.oldValue) :
    unchanged type here = unchanged type here' := by
  have hnew := present_rel hvalue
  have hprior := present_rel hold
  unfold unchanged
  generalize present here.value = new, present here'.value = new',
    present here.oldValue = old, present here'.oldValue = old' at hnew hprior
  cases hnew with
  | none => cases hprior <;> rfl
  | some hxy =>
    cases hprior with
    | none => rfl
    | some hab => exact (type.sameValue_congr_left hxy _).trans (type.sameValue_congr_right _ hab)

/-- Immutability is checked by the values and their counterparts. -/
theorem immutability_eq (hr : rules.Static) (hhas : here.hasOld = here'.hasOld)
    (hvalue : Option.Rel Json.Alike here.value here'.value)
    (hold : Option.Rel Json.Alike here.oldValue here'.oldValue) :
    immutability type rules path here = immutability type rules path here' := by
  obtain ⟨frozen, hread, hfrozen⟩ := isFrozen_static hr path here
  obtain ⟨frozen', hread', hfrozen'⟩ := isFrozen_static hr path here'
  -- whether the prior value is set is all that matters of it to being frozen
  have hset : present here.oldValue ≠ none ↔ present here'.oldValue ≠ none := by
    rw [← Option.isSome_iff_ne_none, ← Option.isSome_iff_ne_none,
      isSome_eq_of_rel (present_rel hold)]
  have hsame : frozen = frozen' := by
    rw [Bool.eq_iff_iff, hfrozen, hfrozen']
    unfold Frozen
    rw [hset]
  unfold immutability
  rw [hread, hread', hhas, hsame]
  show (if here'.hasOld then
      Trace.violationIf (frozen' && !unchanged type here) path .modified else pure ()) =
    if here'.hasOld then
      Trace.violationIf (frozen' && !unchanged type here') path .modified else pure ()
  rw [unchanged_eq hvalue hold]

theorem requirement_eq (hr : rules.Static) :
    requirement rules path here = requirement rules path here' := by
  obtain ⟨required, hrequired⟩ := hr.required
  unfold requirement
  rw [hrequired]
  rfl

theorem emptiness_eq (hr : rules.Static) (h : x.Alike y) :
    emptiness rules path here x = emptiness rules path here' y := by
  obtain ⟨forbidden, hforbidden⟩ := hr.mustNotBeEmpty
  unfold emptiness
  rw [hforbidden, h.shape.isEmpty_eq]
  rfl

theorem equality_eq (hr : rules.Static) (h : x.Alike y) :
    equality type rules path here x = equality type rules path here' y :=
  readThen_eq hr.mustEqual fun expected => by rw [type.sameValue_congr_left h]

/-- The checks of a position agree, if those of its type and below it do. -/
theorem position_agrees (hr : rules.Static) (hhas : here.hasOld = here'.hasOld)
    (hvalue : Option.Rel Json.Alike here.value here'.value)
    (hold : Option.Rel Json.Alike here.oldValue here'.oldValue)
    {content content' : Json → Trace Unit}
    (hcontent : ∀ x y, x.Alike y → type.admits x = true → Agrees (content x) (content' y)) :
    Agrees (position type rules path here content) (position type rules path here' content') := by
  unfold position
  rw [customValidation_static hr, customValidation_static hr, Logged.pure_bind, Logged.pure_bind]
  have himmutability : Agrees (immutability type rules path here)
      (immutability type rules path here') :=
    .of_eq (immutability_decides hr).ends (immutability_eq hr hhas hvalue hold)
  refine himmutability.bind ?_
  have hpresent := present_rel hvalue
  generalize present here.value = value, present here'.value = value' at hpresent
  cases hpresent with
  | none => exact .of_eq (requirement_decides hr).ends (requirement_eq hr)
  | @some x y hxy =>
    show Agrees (if type.admits x then _ else _) (if type.admits y then _ else _)
    -- both are values of the type, or neither is and the type is reported
    rw [← type.admits_eq hxy]
    by_cases ht : type.admits x = true
    · rw [if_pos ht, if_pos ht]
      have hempty : Agrees (emptiness rules path here x) (emptiness rules path here' y) :=
        .of_eq (emptiness_decides hr x).ends (emptiness_eq hr hxy)
      have hequal : Agrees (equality type rules path here x) (equality type rules path here' y) :=
        .of_eq (equality_decides hr x).ends (equality_eq hr hxy)
      exact hempty.bind (hequal.bind (hcontent x y hxy ht))
    · rw [if_neg ht, if_neg ht]
      exact .of_eq rfl rfl

/-! ## Rules of types -/

theorem size_eq {r : SizeRules} (hr : r.Static) (counted : Counted) (actual : Nat) :
    size r counted path here actual = size r counted path here' actual := by
  unfold size
  rw [readThen_eq hr.minimum fun _ => rfl, readThen_eq hr.maximum fun _ => rfl]

theorem pattern_eq {rule : Option (Slot Pattern)} (hrule : Slot.LiteralIfSet rule)
    (text : String) : pattern rule path here text = pattern rule path here' text :=
  readThen_eq hrule fun _ => rfl

/-- The bounds of a range are compared with magnitudes that are the same. -/
theorem range_eq {t : OrdinalType} {r : RangeRules} (hr : r.Static t) (h : x.Alike y) :
    range t r path x here = range t r path y here' := by
  have hmagnitude := Magnitude.of?_rel t h
  unfold range
  generalize Magnitude.of? t x = m, Magnitude.of? t y = n at hmagnitude
  cases hmagnitude with
  | none => rfl
  | @some m n hmn =>
    have hbound (limit : Limit) (b : Json) : bound t path limit m b = bound t path limit n b := by
      unfold bound
      simp only [hmn.compare?_eq]
    show Logged.each _ _ = Logged.each _ _
    congr 1
    funext limit
    exact readThen_eq (hr.literalIfSet limit) (hbound limit)

/-- The rules for an attachment are checked by its name and its descriptor. -/
theorem attachmentReference_eq {r : ReferenceRules} (hr : r.Static)
    (hfiles : here.newDoc.attachments = here'.newDoc.attachments) (filename : String) :
    attachmentReference r path here filename = attachmentReference r path here' filename := by
  unfold attachmentReference Document.attachment?
  rw [pattern_eq hr.pattern, readThen_eq hr.supportedExtensions fun _ => rfl, hfiles]
  cases Entries.get? filename here'.newDoc.attachments with
  | none => rfl
  | some d =>
    simp only []
    rw [readThen_eq hr.supportedContentTypes fun _ => rfl, readThen_eq hr.maximumSize fun _ => rfl]

theorem scalar_eq {t : Scalar} (ht : t.Static)
    (hfiles : here.newDoc.attachments = here'.newDoc.attachments) (h : x.Alike y) :
    scalar t path here x = scalar t path here' y := by
  have htext : textOf x = textOf y := by
    unfold textOf
    rw [h.shape.asString?_eq]
  cases t with
  | string rule length =>
    unfold scalar
    simp only [htext]
    rw [pattern_eq ht.1, size_eq ht.2]
  | ordinal t r => exact range_eq ht h
  | boolean => rfl
  | any => rfl
  | enumeration allowed =>
    obtain ⟨values, rfl⟩ := ht
    have hany : values.any (·.sameContent x) = values.any (·.sameContent y) := by
      congr 1
      funext a
      exact DataType.any.sameValue_congr_right a h
    show Trace.violationIf (!values.any (·.sameContent x)) path (.notPredefined values) =
      Trace.violationIf (!values.any (·.sameContent y)) path (.notPredefined values)
    rw [hany]
  | attachmentReference r =>
    unfold scalar
    simp only [htext]
    exact attachmentReference_eq ht hfiles _

theorem key_eq {keys : Option KeyRules} (hkeys : ∀ r ∈ keys, r.Static) (k : String) :
    key keys path here k = key keys path here' k := by
  cases keys with
  | none => rfl
  | some r =>
    have hr := hkeys r rfl
    obtain ⟨forbidden, hforbidden⟩ := hr.mustNotBeEmpty
    unfold key
    simp only [hforbidden]
    rw [readThen_eq hr.pattern fun _ => rfl]
    rfl

/-! ## Positions below -/

/-- Unknown properties are listed in the order of the fields. -/
theorem unsupported_agrees (declared : List String) (allowed : Bool) {xs ys : Entries Json}
    (h : (Json.object xs).Alike (.object ys)) :
    Agrees (unsupported declared allowed path xs) (unsupported declared allowed path ys) := by
  obtain ⟨hnodup, _⟩ := Json.uniqueKeys_object_iff.mp h.keys
  have hkeys := Json.keys_perm_of_sameContent hnodup h.content
  unfold unsupported
  cases allowed with
  | true => exact agrees_pure
  | false => exact agrees_each_perm (hkeys.filter _) fun _ _ => rfl

/-- Alike items are alike under their indexes. -/
theorem indexed_rel {xs ys : List Json} (h : List.Forall₂ Json.Alike xs ys) :
    List.Forall₂ Json.AlikeEntry (indexed xs) (indexed ys) := by
  unfold indexed
  rw [h.length_eq]
  exact Json.zip_rel h _

/-- The declared properties of alike objects are walked one after the other. -/
theorem properties_agrees {declared : List (String × Validator)} {xs ys : Entries Json}
    {old old' : Option Json} (hfields : (Json.object xs).Alike (.object ys))
    (hold : Option.Rel Json.Alike old old')
    (h : ∀ e ∈ declared, ∀ path value value' old old', Option.Rel Json.Alike value value' →
      Option.Rel Json.Alike old old' →
      Agrees (item s path value old e.2) (item s' path value' old' e.2)) :
    Agrees (properties s path xs old declared) (properties s' path ys old' declared) := by
  induction declared with
  | nil =>
    unfold properties
    exact agrees_pure
  | cons e rest ih =>
    unfold properties
    have hhead := h e List.mem_cons_self (path ++ [.property e.1]) _ _ _ _
      (hfields.get?_rel e.1) (bind_rel hold fun _ _ hxy => hxy.field?_rel e.1)
    exact hhead.bind (ih fun e' he' => h e' (List.mem_cons_of_mem _ he'))

/-- The checks at a validator agree, if those of its type and below it do. -/
theorem node_agrees (hr : rules.Static) (hhas : s.hasOld = s'.hasOld)
    {value value' old old' : Option Json} (hvalue : Option.Rel Json.Alike value value')
    (hold : Option.Rel Json.Alike old old') {content content' : Json → Trace Unit}
    (hcontent : ∀ x y, x.Alike y → type.admits x = true → Agrees (content x) (content' y)) :
    Agrees (position type rules path (s.withItem value old) content)
      (position type rules path (s'.withItem value' old') content') :=
  @position_agrees (s.withItem value old) (s'.withItem value' old') path type rules hr hhas
    hvalue hold content content' hcontent

/-- Walks from a static validator over alike values, with alike counterparts, log
    the same events. -/
theorem item_agrees {v : Validator} (hv : v.Static)
    (hfiles : s.newDoc.attachments = s'.newDoc.attachments) (hhas : s.hasOld = s'.hasOld)
    (path : Path) {value value' old old' : Option Json}
    (hvalue : Option.Rel Json.Alike value value') (hold : Option.Rel Json.Alike old old') :
    Agrees (item s path value old v) (item s' path value' old' v) := by
  -- the induction is on the tree; each case compares what its own type looks at
  induction hv generalizing path value value' old old' with
  | @scalar rules type hr ht =>
    unfold item
    refine node_agrees hr hhas hvalue hold fun x y hxy hx => ?_
    exact .of_eq (scalar_decides ht hx).ends (scalar_eq ht hfiles hxy)
  | @object rules properties allowUnknown hr hallow _ ih =>
    cases properties with
    | none =>
      unfold item
      exact node_agrees hr hhas hvalue hold fun _ _ _ _ => agrees_pure
    | some declared =>
      unfold item
      refine node_agrees hr hhas hvalue hold fun x y hxy hx => ?_
      obtain ⟨xs, rfl⟩ := eq_object_of_kind hx
      obtain ⟨ys, rfl⟩ := Json.eq_object_of_sameContent hxy.content
      obtain ⟨allowed, rfl⟩ := hallow
      simp only [read_literal, Logged.pure_bind]
      have hbelow : Agrees (Walk.properties s path xs old declared)
          (Walk.properties s' path ys old' declared) :=
        properties_agrees hxy hold fun e he path _ _ _ _ hvalue hold =>
          ih declared rfl e he path hvalue hold
      exact hbelow.bind (unsupported_agrees (Entries.keys declared) allowed hxy)
  | @array rules length elements hr hlength _ ih =>
    -- alike arrays are of one length
    have hsize {xs ys : List Json} (h : List.Forall₂ Json.Alike xs ys) (here here' : Situation) :
        Agrees (size length .length path here xs.length)
          (size length .length path here' ys.length) := by
      rw [h.length_eq]
      exact .of_eq (size_decides hlength _ _).ends (size_eq hlength _ _)
    cases elements with
    | none =>
      unfold item
      refine node_agrees hr hhas hvalue hold fun x y hxy hx => ?_
      obtain ⟨xs, rfl⟩ := eq_array_of_kind hx
      obtain ⟨ys, rfl, hitems⟩ := hxy.exists_items
      exact hsize hitems _ _
    | some element =>
      unfold item
      refine node_agrees hr hhas hvalue hold fun x y hxy hx => ?_
      obtain ⟨xs, rfl⟩ := eq_array_of_kind hx
      obtain ⟨ys, rfl, hitems⟩ := hxy.exists_items
      refine (hsize hitems _ _).bind (agrees_each (indexed_rel hitems) fun e e' he => ?_)
      obtain ⟨hindex, hvalue⟩ := he
      -- elements at one index have one path
      rw [← hindex]
      exact ih element rfl _ (.some hvalue) (bind_rel hold fun _ _ hxy => hxy.item?_rel e.1)
  | @hashtable rules limits keys values hr hlimits hkeys _ ih =>
    -- alike hashtables have the same keys, and so one size
    have hsize {xs ys : Entries Json} (h : (Json.object xs).Alike (.object ys))
        (here here' : Situation) :
        Agrees (size limits .entries path here xs.length)
          (size limits .entries path here' ys.length) := by
      rw [(Json.sameContent_object_iff.mp h.content).1]
      exact .of_eq (size_decides hlimits _ _).ends (size_eq hlimits _ _)
    have hkey (k : String) (here here' : Situation) :
        Agrees (key keys path here k) (key keys path here' k) :=
      .of_eq (key_decides hkeys k).ends (key_eq hkeys k)
    cases values with
    | none =>
      unfold item
      refine node_agrees hr hhas hvalue hold fun x y hxy hx => ?_
      obtain ⟨xs, rfl⟩ := eq_object_of_kind hx
      obtain ⟨ys, rfl⟩ := Json.eq_object_of_sameContent hxy.content
      refine (hsize hxy _ _).bind (agrees_each_fields hxy fun e e' he => ?_)
      rw [he.1]
      exact hkey _ _ _
    | some entry =>
      unfold item
      refine node_agrees hr hhas hvalue hold fun x y hxy hx => ?_
      obtain ⟨xs, rfl⟩ := eq_object_of_kind hx
      obtain ⟨ys, rfl⟩ := Json.eq_object_of_sameContent hxy.content
      refine (hsize hxy _ _).bind (agrees_each_fields hxy fun e e' he => ?_)
      obtain ⟨hname, hvalue⟩ := he
      rw [← hname]
      exact (hkey _ _ _).bind
        (ih entry rfl _ (.some hvalue) (bind_rel hold fun _ _ hxy => hxy.field?_rel e.1))

/-- Walks over alike documents log the same events. -/
theorem document_agrees {declared : Properties} (hdeclared : declared.Static)
    (allowUnknown : Bool) (hfiles : s.newDoc.attachments = s'.newDoc.attachments)
    (hnew : s.newDoc.toJson.Alike s'.newDoc.toJson)
    (hold : Option.Rel Json.Alike (s.oldDoc.map Document.toJson) (s'.oldDoc.map Document.toJson)) :
    Agrees (document declared allowUnknown s) (document declared allowUnknown s') := by
  have hhas : s.hasOld = s'.hasOld := by
    have hsome := isSome_eq_of_rel hold
    rwa [Option.isSome_map, Option.isSome_map] at hsome
  unfold document
  have hbelow : Agrees (properties s [] s.newDoc.fields (s.oldDoc.map Document.toJson) declared)
      (properties s' [] s'.newDoc.fields (s'.oldDoc.map Document.toJson) declared) :=
    properties_agrees hnew hold fun e he path _ _ _ _ hvalue hold =>
      item_agrees (hdeclared e he) hfiles hhas path hvalue hold
  exact hbelow.bind (unsupported_agrees (Entries.keys declared) allowUnknown hnew)

end Walk

end WritePolicy
