import WritePolicy.Proofs.Walk

/-! # Computations that walks run

    A walk runs the computation of a slot when a constraint is asked at a position, and
    the log tells which constraint it was, where, and in what situation. What is asked at
    a position is the business of the validator there: a slot that it has
    (`Validator.computation?`), at a time when the constraint is due (`Validator.Due`),
    in the situation of the write with the value and the prior counterpart of that
    position (`Validator.Asks`).

    `Trace.Runs P t` says of a whole trace that it runs only computations that `P`
    expects, that all of them succeed but perhaps the last event, and that a computation
    fails the trace exactly if it is that event. It is an induction over the log, so it is
    put together by sequence and by repetition like the traces themselves.

    The main lemma (`item_runs`) is about a walk from any validator, with whatever
    computations in it: what it runs is asked by a validator below it.
-/

namespace WritePolicy

/-! ## Induction over validators -/

/-- What holds of a node if it holds of the nodes one level down holds of every
    validator. -/
theorem Validator.induction {P : Validator → Prop}
    (scalar : ∀ rules type, P (scalar rules type))
    (object : ∀ rules properties allowUnknown,
      (∀ declared, properties = some declared → ∀ e ∈ declared, P e.2) →
        P (object rules properties allowUnknown))
    (array : ∀ rules length elements, (∀ c, elements = some c → P c) →
      P (array rules length elements))
    (hashtable : ∀ rules size keys values, (∀ c, values = some c → P c) →
      P (hashtable rules size keys values)) (v : Validator) : P v := by
  -- the lists and options between two levels are taken along as subjects of their own
  refine @Validator.rec P
    (fun properties => ∀ declared, properties = some declared → ∀ e ∈ declared, P e.2)
    (fun child => ∀ c, child = some c → P c) (fun declared => ∀ e ∈ declared, P e.2)
    (fun e => P e.2) scalar object array hashtable nofun ?_ nofun ?_ nofun ?_ (fun _ _ h => h) v
  · rintro declared h _ ⟨⟩
    exact h
  · rintro c h _ ⟨⟩
    exact h
  · exact fun _ _ hhead hrest => List.forall_mem_cons.mpr ⟨hhead, hrest⟩

/-! ## The computations of a validator -/

/-- A computation, of which only that is told whether it fails. -/
abbrev Computation := Situation → Except ComputationError Unit

namespace Slot

variable {α : Type}

/-- The computation that stands in a slot. -/
def computation? : Slot α → Option Computation
  | literal _ => none
  | computed f => some fun s => (f s).map fun _ => ()

/-- The computation that stands in a slot that may be unset. -/
def computationIfSet? (slot : Option (Slot α)) : Option Computation :=
  slot.bind computation?

end Slot

/-- A constraint that all types share. -/
def Constraint.isShared : Constraint → Bool
  | customValidation | immutable | immutableWhenSet | required | mustNotBeEmpty | mustEqual => true
  | _ => false

/-- The computations of the constraints that all types share. -/
def CommonRules.computation? (r : CommonRules) : Constraint → Option Computation
  | .customValidation => Slot.computationIfSet? r.customValidation
  | .immutable => r.immutable.computation?
  | .immutableWhenSet => r.immutableWhenSet.computation?
  | .required => r.required.computation?
  | .mustNotBeEmpty => r.mustNotBeEmpty.computation?
  | .mustEqual => Slot.computationIfSet? r.mustEqual
  | _ => none

/-- The computations of the limits of a size. -/
def SizeRules.computation? (r : SizeRules) : Constraint → Option Computation
  | .minimumSize => Slot.computationIfSet? r.minimum
  | .maximumSize => Slot.computationIfSet? r.maximum
  | _ => none

/-- The computations of the rules for keys. -/
def KeyRules.computation? (r : KeyRules) : Constraint → Option Computation
  | .keyMustNotBeEmpty => r.mustNotBeEmpty.computation?
  | .keyPattern => Slot.computationIfSet? r.pattern
  | _ => none

theorem SizeRules.of_computation? {r : SizeRules} {c : Constraint} {run : Computation}
    (h : r.computation? c = some run) : c = .minimumSize ∨ c = .maximumSize := by
  unfold computation? at h
  split at h
  · exact .inl rfl
  · exact .inr rfl
  · cases h

theorem KeyRules.of_computation? {r : KeyRules} {c : Constraint} {run : Computation}
    (h : r.computation? c = some run) : c = .keyMustNotBeEmpty ∨ c = .keyPattern := by
  unfold computation? at h
  split at h
  · exact .inl rfl
  · exact .inr rfl
  · cases h

/-- The computations of the rules for an attachment. -/
def ReferenceRules.computation? (r : ReferenceRules) : Constraint → Option Computation
  | .pattern => Slot.computationIfSet? r.pattern
  | .supportedExtensions => Slot.computationIfSet? r.supportedExtensions
  | .supportedContentTypes => Slot.computationIfSet? r.supportedContentTypes
  | .maximumAttachmentSize => Slot.computationIfSet? r.maximumSize
  | _ => none

/-- The computations of a scalar type. -/
def Scalar.computation? : Scalar → Constraint → Option Computation
  | string pattern _, .pattern => Slot.computationIfSet? pattern
  | string _ length, c => length.computation? c
  | ordinal _ range, .range limit => Slot.computationIfSet? (range.slot? limit)
  | enumeration allowed, .predefinedValues => allowed.computation?
  | attachmentReference rules, c => rules.computation? c
  | _, _ => none

namespace Validator

/-- The computations of the constraints that are specific to the type of a node. -/
def ownComputation? : Validator → Constraint → Option Computation
  | scalar _ type, c => type.computation? c
  | object _ _ allowUnknown, .allowUnknownProperties => allowUnknown.computation?
  | object _ _ _, _ => none
  | array _ length _, c => length.computation? c
  | hashtable _ size keys _, c =>
    (size.computation? c).or (keys.bind (·.computation? c))

/-- The computation that a node has for a constraint. -/
def computation? (v : Validator) (c : Constraint) : Option Computation :=
  if c.isShared then v.rules.computation? c else v.ownComputation? c

/-- A constraint is due: custom validation always; immutability if there is a prior
    document, and for a value that was set before only if it did not hold already; the
    requirement of a value that is missing; everything else of a value of the type. -/
def Due (v : Validator) (here : Situation) : Constraint → Prop
  | .customValidation => True
  | .immutable => here.hasOld = true
  | .immutableWhenSet => here.hasOld = true ∧ Walk.present here.oldValue ≠ none ∧
      v.rules.immutable.resolve here = .ok false
  | .required => Walk.present here.value = none
  | _ => ∃ x, Walk.present here.value = some x ∧ v.dataType.admits x = true

/-- No constraint that types share is specific to a type. -/
theorem ownComputation?_of_isShared (v : Validator) {c : Constraint} (h : c.isShared = true) :
    v.ownComputation? c = none := by
  cases c <;> cases h
  all_goals
    cases v with
    | scalar rules type => cases type <;> rfl
    | object | array => rfl
    | hashtable rules size keys values => cases keys <;> rfl

theorem isShared_eq_false_of_own {v : Validator} {c : Constraint} {run : Computation}
    (h : v.ownComputation? c = some run) : c.isShared = false := by
  cases hshared : c.isShared with
  | false => rfl
  | true =>
    rw [v.ownComputation?_of_isShared hshared] at h
    cases h

/-- What is specific to a type is due for a value of the type. -/
theorem due_of_own {v : Validator} {c : Constraint} {run : Computation} {here : Situation}
    {x : Json} (h : v.ownComputation? c = some run) (hx : Walk.present here.value = some x)
    (htype : v.dataType.admits x = true) : v.Due here c := by
  have hown := isShared_eq_false_of_own h
  unfold Due
  split
  case h_1 | h_2 | h_3 | h_4 => cases hown
  case h_5 => exact ⟨x, hx, htype⟩

/-- A validator asks for a computation in a situation, given its value and the prior
    counterpart of the value. -/
structure Asks (s : Situation) (v : Validator) (value old : Option Json) (c : Constraint)
    (here : Situation) (run : Computation) : Prop where
  situation : here = s.withItem value old
  slot : v.computation? c = some run
  due : v.Due here c

end Validator

/-! ## Traces that run what is expected -/

namespace Trace

variable {α β : Type}

/-- The failure of a computation, if a trace ends with one. -/
def failure? (t : Trace α) : Option ComputationError :=
  match t.outcome with
  | .error (.computationFailed e) => some e
  | _ => none

theorem failure?_eq_some_iff {t : Trace α} {e : ComputationError} :
    t.failure? = some e ↔ t.outcome = .error (.computationFailed e) := by
  unfold failure?
  match t.outcome with
  | .ok _ => simp
  | .error (.invalidBound _ _) => simp
  | .error (.computationFailed _) => simp

/-- Every computation in a log is expected where it stands, and it succeeds unless it is
    the last event and its failure is the one that is given. -/
inductive Runs (P : Path → Constraint → Situation → Computation → Prop) :
    List Event → Option ComputationError → Prop where
  | ended : Runs P [] none
  | violation {place : Path} {v : PropertyViolation} {rest : List Event}
      {failure : Option ComputationError} :
      Runs P rest failure → Runs P (.violation place v :: rest) failure
  | reference {place : Path} {filename : String} {rest : List Event}
      {failure : Option ComputationError} :
      Runs P rest failure → Runs P (.reference place filename :: rest) failure
  | computed {place : Path} {c : Constraint} {here : Situation} {run : Computation}
      {rest : List Event} {failure : Option ComputationError} :
      P place c here run → run here = .ok () → Runs P rest failure →
      Runs P (.computation place c here :: rest) failure
  | failed {place : Path} {c : Constraint} {here : Situation} {run : Computation}
      {e : ComputationError} :
      P place c here run → run here = .error e →
      Runs P [.computation place c here] (some e)

/-- A trace runs only what is expected, and fails with the computation that fails. -/
def RunsOnly (P : Path → Constraint → Situation → Computation → Prop) (t : Trace α) : Prop :=
  Runs P t.log t.failure?

variable {P Q : Path → Constraint → Situation → Computation → Prop} {path place : Path}
  {c : Constraint} {here : Situation} {log rest : List Event} {failure : Option ComputationError}

theorem Runs.mono (h : Runs P log failure)
    (hPQ : ∀ place c here run, P place c here run → Q place c here run) : Runs Q log failure := by
  induction h with
  | ended => exact .ended
  | violation _ ih => exact .violation ih
  | reference _ ih => exact .reference ih
  | computed hP hrun _ ih => exact .computed (hPQ _ _ _ _ hP) hrun ih
  | failed hP hrun => exact .failed (hPQ _ _ _ _ hP) hrun

/-- A log in which nothing fails may be continued. -/
theorem Runs.append (h : Runs P log none) (hrest : Runs P rest failure) :
    Runs P (log ++ rest) failure := by
  generalize hnone : (none : Option ComputationError) = without at h
  induction h with
  | ended => exact hrest
  | violation _ ih => exact .violation (ih hnone)
  | reference _ ih => exact .reference (ih hnone)
  | computed hP hrun _ ih => exact .computed hP hrun (ih hnone)
  | failed _ _ => cases hnone

/-- A computation in the log is expected, and if it fails it ends the log. -/
theorem Runs.of_split {before after : List Event} (h : Runs P log failure)
    (hsplit : log = before ++ .computation place c here :: after) :
    ∃ run, P place c here run ∧ ∀ e, run here = .error e → after = [] ∧ failure = some e := by
  induction h generalizing before with
  | ended => exact absurd hsplit (by simp)
  | violation _ ih =>
    cases before with
    | nil => cases hsplit
    | cons _ before => exact ih (List.cons.inj hsplit).2
  | reference _ ih =>
    cases before with
    | nil => cases hsplit
    | cons _ before => exact ih (List.cons.inj hsplit).2
  | @computed _ _ _ run _ _ hP hrun _ ih =>
    cases before with
    | nil =>
      cases hsplit
      refine ⟨run, hP, fun e he => ?_⟩
      rw [hrun] at he
      cases he
    | cons _ before => exact ih (List.cons.inj hsplit).2
  | @failed _ _ _ run e hP hrun =>
    cases before with
    | nil =>
      cases hsplit
      refine ⟨run, hP, fun e' he => ⟨rfl, ?_⟩⟩
      rw [hrun] at he
      cases he
      rfl
    | cons _ before => exact absurd (List.cons.inj hsplit).2 (by simp)

/-- The failure is that of the last event. -/
theorem Runs.of_failure {e : ComputationError} (h : Runs P log failure)
    (hfailure : failure = some e) :
    ∃ before place c here run, log = before ++ [.computation place c here] ∧
      P place c here run ∧ run here = .error e := by
  induction h with
  | ended => cases hfailure
  | @violation place v _ _ _ ih =>
    obtain ⟨before, place', c, here, run, rfl, hP, hrun⟩ := ih hfailure
    exact ⟨.violation place v :: before, place', c, here, run, rfl, hP, hrun⟩
  | @reference place filename _ _ _ ih =>
    obtain ⟨before, place', c, here, run, rfl, hP, hrun⟩ := ih hfailure
    exact ⟨.reference place filename :: before, place', c, here, run, rfl, hP, hrun⟩
  | @computed place c here _ _ _ _ _ _ ih =>
    obtain ⟨before, place', c', here', run, rfl, hP, hrun⟩ := ih hfailure
    exact ⟨.computation place c here :: before, place', c', here', run, rfl, hP, hrun⟩
  | @failed place c here run _ hP hrun =>
    cases hfailure
    exact ⟨[], place, c, here, run, rfl, hP, hrun⟩

/-! ### Steps -/

theorem runsOnly_pure (a : α) : RunsOnly P (pure a) :=
  .ended

theorem runsOnly_invalidBound (type : OrdinalType) (b : Json) :
    RunsOnly P (Logged.fail (.invalidBound type b) : Trace α) :=
  .ended

theorem runsOnly_reference (filename : String) : RunsOnly P (reference path filename) :=
  .reference .ended

theorem runsOnly_violation (v : PropertyViolation) : RunsOnly P (violation path v) :=
  .violation .ended

theorem runsOnly_violationIf (condition : Bool) (v : PropertyViolation) :
    RunsOnly P (violationIf condition path v) := by
  cases condition with
  | true => exact runsOnly_violation v
  | false => exact runsOnly_pure ()

/-- What follows a part is run if the part ends with a value. -/
theorem RunsOnly.bind {t : Trace α} {f : α → Trace β} (h : RunsOnly P t)
    (hf : ∀ a, t.outcome = .ok a → RunsOnly P (f a)) : RunsOnly P (t >>= f) := by
  cases hout : t.outcome with
  | ok a =>
    have hnone : t.failure? = none := by
      unfold failure?
      rw [hout]
    unfold RunsOnly at h
    rw [hnone] at h
    rw [Logged.bind_of_ok hout]
    exact h.append (hf a hout)
  | error e =>
    have hsame : failure? (⟨t.log, .error e⟩ : Trace β) = t.failure? := by
      unfold failure?
      rw [hout]
      cases e <;> rfl
    rw [Logged.bind_of_error hout]
    show Runs P t.log (failure? (⟨t.log, .error e⟩ : Trace β))
    rw [hsame]
    exact h

/-- What is run for each member of a list is expected if it is for every member. -/
theorem runsOnly_each {f : α → Trace Unit} {members : List α}
    (h : ∀ a ∈ members, RunsOnly P (f a)) : RunsOnly P (Logged.each f members) := by
  induction members with
  | nil => exact runsOnly_pure ()
  | cons a rest ih =>
    obtain ⟨hhead, hrest⟩ := List.forall_mem_cons.mp h
    exact hhead.bind fun _ _ => ih hrest

/-! ### Slots -/

/-- A slot is read as what it resolves to. -/
theorem resolve_of_read {slot : Slot α} {a : α} (h : (read path c here slot).outcome = .ok a) :
    slot.resolve here = .ok a := by
  cases slot with
  | literal b =>
    cases h
    rfl
  | computed f =>
    have hf : (f here).mapError Misconfiguration.computationFailed = .ok a := h
    cases hout : f here with
    | ok b =>
      rw [hout] at hf
      cases hf
      exact hout
    | error e =>
      rw [hout] at hf
      cases hf

/-- A slot runs its own computation. -/
theorem runsOnly_read {slot : Slot α}
    (h : ∀ run, slot.computation? = some run → P path c here run) :
    RunsOnly P (read path c here slot) := by
  cases slot with
  | literal a => exact runsOnly_pure a
  | computed f =>
    show Runs P [.computation path c here] (failure? ⟨_, (f here).mapError .computationFailed⟩)
    have hP := h _ rfl
    cases hf : f here with
    | ok a => exact .computed hP (by simp only [hf]; rfl) .ended
    | error e => exact .failed hP (by simp only [hf]; rfl)

/-- A check of a slot that may be unset runs its computation, and what the check runs. -/
theorem runsOnly_readThen {slot : Option (Slot α)} {check : α → Trace Unit}
    (h : ∀ run, Slot.computationIfSet? slot = some run → P path c here run)
    (hcheck : ∀ a, RunsOnly P (check a)) : RunsOnly P (readThen path c here slot check) := by
  cases slot with
  | none => exact runsOnly_pure ()
  | some slot => exact (runsOnly_read h).bind fun a _ => hcheck a

end Trace

open Trace

namespace Walk

variable {P : Path → Constraint → Situation → Computation → Prop} {s here : Situation}
  {path : Path} {rules : CommonRules} {v : Validator} {value old : Option Json}

/-! ## Checks of one position -/

/-- The computations that a validator has for constraints that are due are expected at a
    position. -/
def ExpectsDue (P : Path → Constraint → Situation → Computation → Prop) (v : Validator)
    (path : Path) (here : Situation) : Prop :=
  ∀ c run, v.computation? c = some run → v.Due here c → P path c here run

/-- The computations of rules are expected at a position. -/
def Expects (P : Path → Constraint → Situation → Computation → Prop)
    (computation? : Constraint → Option Computation) (path : Path) (here : Situation) : Prop :=
  ∀ c run, computation? c = some run → P path c here run

/-- What is specific to a type is expected for a value of the type. -/
theorem ExpectsDue.own {x : Json} (h : ExpectsDue P v path here)
    (hx : present here.value = some x) (htype : v.dataType.admits x = true) :
    Expects P v.ownComputation? path here := by
  intro c run hrun
  refine h c run ?_ (Validator.due_of_own hrun hx htype)
  unfold Validator.computation?
  rw [Validator.isShared_eq_false_of_own hrun]
  exact hrun

theorem customValidation_runs (h : ExpectsDue P v path here) :
    RunsOnly P (customValidation v.rules path here) :=
  runsOnly_readThen (fun run hrun => h .customValidation run hrun trivial) fun _ =>
    runsOnly_each fun _ _ => runsOnly_violation _

theorem isFrozen_runs (h : ExpectsDue P v path here) (hold : here.hasOld = true) :
    RunsOnly P (isFrozen v.rules path here) := by
  unfold isFrozen
  refine (runsOnly_read fun run hrun => h .immutable run hrun hold).bind fun frozen hread => ?_
  cases frozen with
  | true => exact runsOnly_pure true
  | false =>
    -- that the value was set before matters only where immutability did not hold
    show RunsOnly P (if (present here.oldValue).isSome then _ else _)
    by_cases hset : (present here.oldValue).isSome = true
    · rw [if_pos hset]
      refine runsOnly_read fun run hrun => h .immutableWhenSet run hrun ⟨hold, ?_, ?_⟩
      · exact Option.isSome_iff_ne_none.mp hset
      · exact resolve_of_read hread
    · rw [if_neg hset]
      exact runsOnly_pure false

theorem immutability_runs (h : ExpectsDue P v path here) :
    RunsOnly P (immutability v.dataType v.rules path here) := by
  unfold immutability
  by_cases hold : here.hasOld = true
  · rw [if_pos hold]
    exact (isFrozen_runs h hold).bind fun _ _ => runsOnly_violationIf _ _
  · rw [if_neg hold]
    exact runsOnly_pure ()

theorem requirement_runs (h : ExpectsDue P v path here) (hmissing : present here.value = none) :
    RunsOnly P (requirement v.rules path here) :=
  (runsOnly_read fun run hrun => h .required run hrun hmissing).bind fun _ _ =>
    runsOnly_violationIf _ _

theorem emptiness_runs {x : Json} (h : ExpectsDue P v path here)
    (hx : present here.value = some x) (htype : v.dataType.admits x = true) :
    RunsOnly P (emptiness v.rules path here x) :=
  (runsOnly_read fun run hrun => h .mustNotBeEmpty run hrun ⟨x, hx, htype⟩).bind fun _ _ =>
    runsOnly_violationIf _ _

theorem equality_runs {x : Json} (h : ExpectsDue P v path here)
    (hx : present here.value = some x) (htype : v.dataType.admits x = true) :
    RunsOnly P (equality v.dataType v.rules path here x) :=
  runsOnly_readThen (fun run hrun => h .mustEqual run hrun ⟨x, hx, htype⟩) fun _ =>
    runsOnly_violationIf _ _

/-- The checks at a position run what is due there, and what those of the type and below
    it run of a value of the type. -/
theorem position_runs (h : ExpectsDue P v path here) {content : Json → Trace Unit}
    (hcontent : ∀ x, present here.value = some x → v.dataType.admits x = true →
      RunsOnly P (content x)) :
    RunsOnly P (position v.dataType v.rules path here content) := by
  unfold position
  refine (customValidation_runs h).bind fun _ _ => (immutability_runs h).bind fun _ _ => ?_
  cases hpresent : present here.value with
  | none => exact requirement_runs h hpresent
  | some x =>
    show RunsOnly P (if v.dataType.admits x then _ else _)
    by_cases htype : v.dataType.admits x = true
    · rw [if_pos htype]
      exact (emptiness_runs h hpresent htype).bind fun _ _ =>
        (equality_runs h hpresent htype).bind fun _ _ => hcontent x hpresent htype
    -- of a value of another type nothing more is asked
    · rw [if_neg htype]
      exact runsOnly_violation _

/-! ## Rules of types -/

theorem size_runs {r : SizeRules} (h : Expects P r.computation? path here) (counted : Counted)
    (actual : Nat) : RunsOnly P (size r counted path here actual) :=
  (runsOnly_readThen (h .minimumSize) fun _ => runsOnly_violationIf _ _).bind fun _ _ =>
    runsOnly_readThen (h .maximumSize) fun _ => runsOnly_violationIf _ _

theorem pattern_runs {rule : Option (Slot Pattern)}
    (h : ∀ run, Slot.computationIfSet? rule = some run → P path .pattern here run) (text : String) :
    RunsOnly P (pattern rule path here text) :=
  runsOnly_readThen h fun _ => runsOnly_violationIf _ _

theorem bound_runs (type : OrdinalType) (limit : Limit) (actual : Magnitude) (b : Json) :
    RunsOnly P (bound type path limit actual b) := by
  unfold bound
  cases b.isNull with
  | true => exact runsOnly_pure ()
  | false =>
    cases Magnitude.of? type b with
    | none => exact runsOnly_invalidBound type b
    | some m =>
      dsimp only
      cases actual.compare? m with
      | none => exact runsOnly_pure ()
      | some order => exact runsOnly_violationIf _ _

theorem range_runs {type : OrdinalType} {r : RangeRules}
    (h : ∀ limit run, Slot.computationIfSet? (r.slot? limit) = some run →
      P path (.range limit) here run) (x : Json) :
    RunsOnly P (range type r path x here) := by
  unfold range
  cases Magnitude.of? type x with
  | none => exact runsOnly_pure ()
  | some m =>
    exact runsOnly_each fun limit _ => runsOnly_readThen (h limit) fun b => bound_runs type limit m b

theorem attachmentReference_runs {r : ReferenceRules} (h : Expects P r.computation? path here)
    (filename : String) : RunsOnly P (attachmentReference r path here filename) := by
  unfold attachmentReference
  refine (runsOnly_reference filename).bind fun _ _ => ?_
  refine (pattern_runs (h .pattern) filename).bind fun _ _ => ?_
  refine (runsOnly_readThen (h .supportedExtensions) fun _ => runsOnly_violationIf _ _).bind
    fun _ _ => ?_
  cases here.newDoc.attachment? filename with
  | none => exact runsOnly_pure ()
  | some d =>
    exact (runsOnly_readThen (h .supportedContentTypes) fun _ => runsOnly_violationIf _ _).bind
      fun _ _ => runsOnly_readThen (h .maximumAttachmentSize) fun _ => runsOnly_violationIf _ _

theorem scalar_runs {type : Scalar} (h : Expects P type.computation? path here) (x : Json) :
    RunsOnly P (scalar type path here x) := by
  cases type with
  | string rule length =>
    refine (pattern_runs (h .pattern) _).bind fun _ _ => size_runs (fun c run hrun => ?_) .length _
    refine h c run ?_
    rcases SizeRules.of_computation? hrun with rfl | rfl <;> exact hrun
  | ordinal type range => exact range_runs (fun limit => h (.range limit)) x
  | boolean => exact runsOnly_pure ()
  | enumeration allowed =>
    exact (runsOnly_read (h .predefinedValues)).bind fun _ _ => runsOnly_violationIf _ _
  | attachmentReference rules => exact attachmentReference_runs h _
  | any => exact runsOnly_pure ()

theorem key_runs {keys : Option KeyRules} (h : ∀ r ∈ keys, Expects P r.computation? path here)
    (k : String) : RunsOnly P (key keys path here k) := by
  cases keys with
  | none => exact runsOnly_pure ()
  | some r =>
    have hr := h r rfl
    have hpattern : RunsOnly P (readThen path .keyPattern here r.pattern fun p =>
        violationIf (!p.isMatch k) (path ++ [.entry k]) (.keyPatternMismatch k p.source)) :=
      runsOnly_readThen (hr .keyPattern) fun _ => runsOnly_violationIf _ _
    unfold key
    by_cases hk : k.isEmpty = true
    · simp only [hk, if_true]
      refine (runsOnly_read (hr .keyMustNotBeEmpty)).bind fun _ _ => ?_
      exact (runsOnly_violationIf _ _).bind fun _ _ => hpattern
    · simp only [hk]
      exact hpattern

theorem unsupported_runs (declared : List String) (allowed : Bool) (fields : Entries Json) :
    RunsOnly P (unsupported declared allowed path fields) := by
  unfold unsupported
  cases allowed with
  | true => exact runsOnly_pure ()
  | false => exact runsOnly_each fun _ _ => runsOnly_violation _

/-! ## Positions below -/

/-- A validator at or below a position asks for the computation, given its own value and
    the prior counterpart of that value. -/
def AskedBelow (s : Situation) (v : Validator) (path : Path) (value old : Option Json)
    (place : Path) (c : Constraint) (here : Situation) (run : Computation) : Prop :=
  ∃ rest w y, place = path ++ rest ∧ Below v value rest w y ∧
    w.Asks s y (old.bind (·.at? rest)) c here run

/-- What a validator asks for itself is asked at its position. -/
theorem askedBelow_here (s : Situation) (v : Validator) (path : Path) (value old : Option Json) :
    ExpectsDue (AskedBelow s v path value old) v path (s.withItem value old) := by
  intro c run hrun hdue
  refine ⟨[], v, value, (List.append_nil path).symm, .here, ⟨?_, hrun, hdue⟩⟩
  rw [Json.at?_nil]

/-- What is asked one step down is asked below. -/
theorem AskedBelow.of_child {c : Validator} {x : Json} {step : Step} {z : Option Json}
    {place : Path} {constraint : Constraint} {here : Situation} {run : Computation}
    (hchild : Child v x step c z)
    (h : AskedBelow s c (path ++ [step]) z (old.bind (Step.into? · step)) place constraint here run) :
    AskedBelow s v path (some x) old place constraint here run := by
  obtain ⟨rest, w, y, rfl, hbelow, hasks⟩ := h
  refine ⟨step :: rest, w, y, ?_, .step hchild hbelow, ?_⟩
  · rw [List.append_assoc, List.singleton_append]
  · rw [Json.at?_cons]
    exact hasks

/-- Declared properties are walked one after the other. -/
theorem properties_eq_each (s : Situation) (path : Path) (fields : Entries Json)
    (old : Option Json) (declared : List (String × Validator)) :
    properties s path fields old declared =
      Logged.each (fun e => item s (path ++ [.property e.1]) (Entries.get? e.1 fields)
        (old.bind (·.field? e.1)) e.2) declared := by
  induction declared with
  | nil => rfl
  | cons e rest ih =>
    unfold properties
    rw [ih]
    rfl

/-- A walk from a validator runs what is asked at its position and below. -/
theorem item_runs (s : Situation) (v : Validator) (path : Path) (value old : Option Json) :
    RunsOnly (AskedBelow s v path value old) (item s path value old v) := by
  -- the induction is on the tree; what a child asks, the validator has below it
  induction v using Validator.induction generalizing path value old with
  | scalar rules type =>
    have hhere := askedBelow_here s (.scalar rules type) path value old
    unfold item
    exact position_runs hhere fun x hx htype => scalar_runs (hhere.own hx htype) x
  | object rules properties allowUnknown ih =>
    have hhere := askedBelow_here s (.object rules properties allowUnknown) path value old
    cases properties with
    | none =>
      unfold item
      exact position_runs hhere fun _ _ _ => runsOnly_pure ()
    | some declared =>
      unfold item
      refine position_runs hhere fun x hx htype => ?_
      obtain ⟨fields, rfl⟩ := eq_object_of_kind htype
      obtain ⟨rfl, -⟩ := present_eq_some.mp hx
      refine (runsOnly_read (hhere.own hx htype .allowUnknownProperties)).bind fun _ _ => ?_
      rw [properties_eq_each]
      refine (runsOnly_each fun e he => ?_).bind fun _ _ => unsupported_runs _ _ _
      exact (ih declared rfl e he _ _ _).mono fun _ _ _ _ => .of_child (.property he)
  | array rules length elements ih =>
    have hhere := askedBelow_here s (.array rules length elements) path value old
    cases elements with
    | none =>
      unfold item
      exact position_runs hhere fun x hx htype => size_runs (hhere.own hx htype) _ _
    | some element =>
      unfold item
      refine position_runs hhere fun x hx htype => ?_
      obtain ⟨items, rfl⟩ := eq_array_of_kind htype
      obtain ⟨rfl, -⟩ := present_eq_some.mp hx
      refine (size_runs (hhere.own hx htype) _ _).bind fun _ _ => runsOnly_each fun e he => ?_
      exact (ih element rfl _ _ _).mono fun _ _ _ _ => .of_child (.element (mem_indexed.mp he))
  | hashtable rules limits keys values ih =>
    have hhere := askedBelow_here s (.hashtable rules limits keys values) path value old
    -- the rules of the size and those of the keys are asked of the hashtable itself
    have hsize {x : Json} (hx : present value = some x) (htype : DataType.hashtable.admits x = true) :
        Expects (AskedBelow s (.hashtable rules limits keys values) path value old)
          limits.computation? path (s.withItem value old) := by
      intro c run hrun
      refine hhere.own hx htype c run ?_
      show (limits.computation? c).or _ = some run
      rw [hrun]
      rfl
    have hkeys {x : Json} (hx : present value = some x) (htype : DataType.hashtable.admits x = true) :
        ∀ r ∈ keys, Expects (AskedBelow s (.hashtable rules limits keys values) path value old)
          r.computation? path (s.withItem value old) := by
      rintro r rfl c run hrun
      refine hhere.own hx htype c run ?_
      rcases KeyRules.of_computation? hrun with rfl | rfl <;> exact hrun
    cases values with
    | none =>
      unfold item
      refine position_runs hhere fun x hx htype => ?_
      exact (size_runs (hsize hx htype) _ _).bind fun _ _ =>
        runsOnly_each fun e _ => key_runs (hkeys hx htype) e.1
    | some entry =>
      unfold item
      refine position_runs hhere fun x hx htype => ?_
      obtain ⟨fields, rfl⟩ := eq_object_of_kind htype
      obtain ⟨rfl, -⟩ := present_eq_some.mp hx
      refine (size_runs (hsize hx htype) _ _).bind fun _ _ => runsOnly_each fun e he => ?_
      refine (key_runs (hkeys hx htype) e.1).bind fun _ _ => ?_
      exact (ih entry rfl _ _ _).mono fun _ _ _ _ => .of_child (.entry he)

end Walk

end WritePolicy
