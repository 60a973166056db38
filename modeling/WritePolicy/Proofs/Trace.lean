import WritePolicy.Proofs.Static

/-! # Traces that decide a statement

    A walk over a document whose constraints are all literals ends without a
    failure, and it reports no violation exactly if the document keeps the
    constraints. `Decides t P` says both about a trace: it ends, and it is clean
    exactly if `P` holds.

    Traces are put together by sequence, by conditions and by repetition, and
    what they decide is put together in step: by conjunction, by implication and
    by quantification over a list. So what a walk decides is read off its parts.
-/

namespace WritePolicy

/-! ## Running logged computations -/

namespace Logged

variable {ω ε α β : Type}

@[simp] theorem pure_bind (a : α) (f : α → Logged ω ε β) : (pure a >>= f) = f a :=
  rfl

/-- After a computation that succeeds, the logs are appended and the second
    computation decides how the whole ends. -/
theorem bind_of_ok {c : Logged ω ε α} {a : α} (h : c.outcome = .ok a)
    (f : α → Logged ω ε β) : (c >>= f) = ⟨c.log ++ (f a).log, (f a).outcome⟩ := by
  show Logged.bind c f = _
  simp only [Logged.bind, h]

/-- A failure ends the whole. -/
theorem bind_of_error {c : Logged ω ε α} {e : ε} (h : c.outcome = .error e)
    (f : α → Logged ω ε β) : (c >>= f) = ⟨c.log, .error e⟩ := by
  show Logged.bind c f = _
  simp only [Logged.bind, h]

end Logged

/-! ## What a trace decides -/

namespace Trace

variable {α : Type}

/-- The violations of two parts that follow one another are appended. -/
theorem violations_bind {t : Trace α} {a : α} (h : t.outcome = .ok a)
    (f : α → Trace Unit) : (t >>= f).violations = t.violations ++ (f a).violations := by
  rw [Logged.bind_of_ok h]
  exact List.filterMap_append

/-- The trace ends without a failure, and it is free of violations exactly if
    the statement holds. -/
structure Decides (t : Trace Unit) (P : Prop) : Prop where
  ends : t.outcome = .ok ()
  clean_iff : t.violations = [] ↔ P

variable {t u : Trace Unit} {P Q : Prop} {path : Path}

theorem Decides.congr (h : Decides t P) (hPQ : P ↔ Q) : Decides t Q :=
  ⟨h.ends, h.clean_iff.trans hPQ⟩

theorem decides_pure : Decides (pure ()) True :=
  ⟨rfl, iff_of_true rfl trivial⟩

theorem decides_reference (filename : String) : Decides (reference path filename) True :=
  ⟨rfl, iff_of_true rfl trivial⟩

theorem decides_violation (v : PropertyViolation) : Decides (violation path v) False :=
  ⟨rfl, iff_of_false (List.cons_ne_nil _ _) id⟩

theorem decides_violationIf (condition : Bool) (v : PropertyViolation) :
    Decides (violationIf condition path v) (condition = false) := by
  cases condition with
  | true => exact (decides_violation v).congr (by simp)
  | false => exact decides_pure.congr (by simp)

/-- What follows one another is decided together. -/
theorem Decides.bind (ht : Decides t P) (hu : Decides u Q) :
    Decides (t >>= fun _ => u) (P ∧ Q) := by
  constructor
  · rw [Logged.bind_of_ok ht.ends]
    exact hu.ends
  -- the first part ends, so the violations of both are reported
  · rw [violations_bind ht.ends, List.append_eq_nil_iff, ht.clean_iff, hu.clean_iff]

/-- What is run for each member of a list is decided for all of them. -/
theorem decides_each {f : α → Trace Unit} {P : α → Prop} {members : List α}
    (h : ∀ a ∈ members, Decides (f a) (P a)) :
    Decides (Logged.each f members) (∀ a ∈ members, P a) := by
  induction members with
  | nil => exact decides_pure.congr (by simp)
  | cons a rest ih =>
    have hhead : Decides (f a) (P a) := h a List.mem_cons_self
    have hrest := ih fun b hb => h b (List.mem_cons_of_mem _ hb)
    exact (hhead.bind hrest).congr (by simp)

/-! ## Slots -/

@[simp] theorem read_literal (constraint : Constraint) (s : Situation) (a : α) :
    read path constraint s (.literal a) = pure a :=
  rfl

/-- A check of a literal that may be unset decides what it decides of the
    literal, if there is one. -/
theorem decides_readThen {constraint : Constraint} {s : Situation} {slot : Option (Slot α)}
    {check : α → Trace Unit} {P : α → Prop} (hslot : Slot.LiteralIfSet slot)
    (hcheck : ∀ a, slot = some (.literal a) → Decides (check a) (P a)) :
    Decides (readThen path constraint s slot check) (∀ a, slot = some (.literal a) → P a) := by
  obtain rfl | ⟨a, rfl⟩ := hslot.cases
  · exact decides_pure.congr (by simp)
  · exact (hcheck a rfl).congr (by simp)

/-- A violation under a condition on a literal that may be unset. -/
theorem decides_readThen_violationIf {constraint : Constraint} {s : Situation}
    {slot : Option (Slot α)} {place : Path} {condition : α → Bool}
    {violation : α → PropertyViolation} {P : α → Prop} (hslot : Slot.LiteralIfSet slot)
    (hP : ∀ a, condition a = false ↔ P a) :
    Decides (readThen path constraint s slot fun a => violationIf (condition a) place (violation a))
      (∀ a, slot = some (.literal a) → P a) :=
  decides_readThen hslot fun a _ => (decides_violationIf _ _).congr (hP a)

end Trace

end WritePolicy
