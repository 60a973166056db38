import WritePolicy.Proofs.Content
import WritePolicy.Proofs.RelaxedWalk

/-! # Ranges and equality

    A value of an ordinal type is held against bounds and against the value that it must
    equal on two different ways: bounds by magnitude, equality by magnitude or by
    content, whichever the values allow. Both ways agree (`ranges_agree_with_equality`).

    What decides in both is the rational number that a value stands for
    (`OrdinalType.Denotes`): the number itself, the instant of a date or a date/time in
    UTC, or the offset of a time zone in minutes. Everything that can be a bound and is
    not `null` stands for one, and so does every value of the type. So no comparison is
    left out for want of a magnitude, and a value is below, at or above a bound as its
    number is.
-/

namespace WritePolicy

/-! ## What values stand for -/

namespace OrdinalType

/-- The rational number that a value stands for as one of an ordinal type. -/
inductive Denotes : OrdinalType → Json → Rat → Prop
  /-- a number stands for itself -/
  | integer (n : Number) : Denotes .integer (.number n) n.toRat
  | float (n : Number) : Denotes .float (.number n) n.toRat
  /-- a date stands for its midnight in UTC -/
  | date {text : String} {d : Date} (h : Date.parse text = .ok d) :
      Denotes .date (.string text) d.instantMillis
  /-- a date/time stands for its instant, at whatever offset it is written -/
  | dateTime {text : String} {d : DateTime} (h : DateTime.parse text = .ok d) :
      Denotes .dateTime (.string text) d.instantMillis
  /-- among date/times, a date alone stands for its midnight in UTC -/
  | midnight {text : String} {e : TemporalError} {d : Date}
      (hdate : DateTime.parse text = .error e) (h : Date.parse text = .ok d) :
      Denotes .dateTime (.string text) d.instantMillis
  /-- a time zone stands for its offset in minutes -/
  | timeZone {text : String} {z : TimeZone} (h : TimeZone.parse text = .ok z) :
      Denotes .timeZone (.string text) z.offsetMinutes

/-- The first value stands for a smaller number than the second. -/
def Below (t : OrdinalType) (x y : Json) : Prop :=
  ∃ p q, t.Denotes x p ∧ t.Denotes y q ∧ p < q

end OrdinalType

/-- A value that stands so to a bound is out of the limit that the bound sets. -/
def Limit.Broken (t : OrdinalType) (v b : Json) : Limit → Prop
  | minimum => t.Below v b
  | exclusiveMinimum => ¬ t.Below b v
  | maximum => t.Below b v
  | exclusiveMaximum => ¬ t.Below v b

/-- Exactly one of three statements holds. -/
def ExactlyOne (p q r : Prop) : Prop :=
  (p ∧ ¬q ∧ ¬r) ∨ (¬p ∧ q ∧ ¬r) ∨ (¬p ∧ ¬q ∧ r)

/-- The second holds if neither of the others does. -/
theorem ExactlyOne.second_iff {p q r : Prop} (h : ExactlyOne p q r) : q ↔ ¬p ∧ ¬r := by
  unfold ExactlyOne at h
  tauto

/-! ## Magnitudes stand for the same -/

namespace Magnitude

section Texts

variable {α : Type} {parse : String → Except TemporalError α} {measure : α → Magnitude}

/-- A text that is read has the measure of what is read. -/
theorem ofText?_of_ok {text : String} {a : α} (h : parse text = .ok a) :
    ofText? parse measure (.string text) = some (measure a) := by
  simp only [ofText?, h]
  rfl

/-- A text that cannot be read has no magnitude. -/
theorem ofText?_of_error {text : String} {e : TemporalError} (h : parse text = .error e) :
    ofText? parse measure (.string text) = none := by
  simp only [ofText?, h]
  rfl

/-- What has a magnitude by a reader is a text that it reads. -/
theorem exists_text_of_ofText? {x : Json} {m : Magnitude} (h : ofText? parse measure x = some m) :
    ∃ text a, x = .string text ∧ parse text = .ok a ∧ m = measure a := by
  cases x with
  | string text =>
    cases hparse : parse text with
    | ok a =>
      rw [ofText?_of_ok hparse] at h
      exact ⟨text, a, rfl, hparse, (Option.some.inj h).symm⟩
    | error e =>
      rw [ofText?_of_error hparse] at h
      cases h
  | _ => cases h

end Texts

/-- Two magnitudes of a temporal type are the same if they stand for one number. -/
theorem eq_iff_toRat_eq {t : OrdinalType} {x y : Json} {m n : Magnitude} (ht : t.IsTemporal)
    (hm : of? t x = some m) (hn : of? t y = some n) : m = n ↔ m.toRat = n.toRat := by
  have hmkind := Walk.magnitude_kind hm
  have hnkind := Walk.magnitude_kind hn
  rcases ht with rfl | rfl | rfl <;> obtain ⟨a, rfl⟩ := hmkind <;> obtain ⟨b, rfl⟩ := hnkind <;>
    simp [toRat]

end Magnitude

namespace OrdinalType

variable {t : OrdinalType} {x y : Json} {m n : Magnitude} {q : Rat}

/-- What stands for a number has the number as its magnitude. -/
theorem Denotes.magnitude (h : t.Denotes x q) : ∃ m, Magnitude.of? t x = some m ∧ m.toRat = q := by
  cases h with
  | integer n => exact ⟨.number n, rfl, rfl⟩
  | float n => exact ⟨.number n, rfl, rfl⟩
  | @date text d h => exact ⟨.instant d.instantMillis, Magnitude.ofText?_of_ok h, rfl⟩
  | @dateTime text d h =>
    refine ⟨.instant d.instantMillis, ?_, rfl⟩
    simp only [Magnitude.of?, Magnitude.ofText?_of_ok h]
  | @midnight text e d hdate h =>
    refine ⟨.instant d.instantMillis, ?_, rfl⟩
    simp only [Magnitude.of?, Magnitude.ofText?_of_error hdate, Magnitude.ofText?_of_ok h]
  | @timeZone text z h => exact ⟨.offset z.offsetMinutes, Magnitude.ofText?_of_ok h, rfl⟩

/-- What has a magnitude stands for a number. -/
theorem denotes_of_magnitude (h : Magnitude.of? t x = some m) : t.Denotes x m.toRat := by
  cases t with
  | integer =>
    cases x with
    | number n =>
      cases h
      exact .integer n
    | _ => cases h
  | float =>
    cases x with
    | number n =>
      cases h
      exact .float n
    | _ => cases h
  | date =>
    obtain ⟨text, d, rfl, hparse, rfl⟩ := Magnitude.exists_text_of_ofText? h
    exact .date hparse
  | dateTime =>
    cases hfull : Magnitude.ofText? DateTime.parse (fun d => .instant d.instantMillis) x with
    | some m' =>
      obtain ⟨text, d, rfl, hparse, rfl⟩ := Magnitude.exists_text_of_ofText? hfull
      simp only [Magnitude.of?, hfull] at h
      cases h
      exact .dateTime hparse
    -- what is no date/time has its magnitude as a date
    | none =>
      simp only [Magnitude.of?, hfull] at h
      obtain ⟨text, d, rfl, hparse, rfl⟩ := Magnitude.exists_text_of_ofText? h
      cases hdate : DateTime.parse text with
      | ok d' =>
        rw [Magnitude.ofText?_of_ok hdate] at hfull
        cases hfull
      | error e => exact .midnight hdate hparse
  | timeZone =>
    obtain ⟨text, z, rfl, hparse, rfl⟩ := Magnitude.exists_text_of_ofText? h
    exact .timeZone hparse

/-- Values with magnitudes stand to one another as their magnitudes do. -/
theorem below_iff (hm : Magnitude.of? t x = some m) (hn : Magnitude.of? t y = some n) :
    t.Below x y ↔ m.toRat < n.toRat := by
  constructor
  · rintro ⟨p, q, hp, hq, hlt⟩
    obtain ⟨m', hm', rfl⟩ := hp.magnitude
    obtain ⟨n', hn', rfl⟩ := hq.magnitude
    rw [hm] at hm'
    rw [hn] at hn'
    cases hm'
    cases hn'
    exact hlt
  · intro hlt
    exact ⟨_, _, denotes_of_magnitude hm, denotes_of_magnitude hn, hlt⟩

/-- Values with magnitudes are the same if they stand for one number, also where their
    contents differ. -/
theorem sameValue_iff (hm : Magnitude.of? t x = some m) (hn : Magnitude.of? t y = some n) :
    (DataType.ordinal t).sameValue x y = true ↔ m.toRat = n.toRat := by
  by_cases ht : t.IsTemporal
  · rw [DataType.sameValue_temporal_iff ht, ← Magnitude.eq_iff_toRat_eq ht hm hn]
    constructor
    · rintro (hcontent | ⟨k, hk, hk'⟩)
      -- texts of the same content are read alike
      · rw [Magnitude.of?_congr_temporal ht hcontent, hn] at hm
        exact (Option.some.inj hm).symm
      · rw [hm] at hk
        rw [hn] at hk'
        exact (Option.some.inj hk).trans (Option.some.inj hk').symm
    · rintro rfl
      exact .inr ⟨m, hm, hn⟩
  -- the other two types have numbers, which are compared by what they denote
  · have hnumber {z : Json} {k : Magnitude} (hk : Magnitude.of? t z = some k) :
        ∃ a, z = .number a ∧ k = .number a := by
      cases t with
      | integer | float =>
        cases z with
        | number a => exact ⟨a, rfl, (Option.some.inj hk).symm⟩
        | _ => cases hk
      | date => exact absurd (.inl rfl) ht
      | dateTime => exact absurd (.inr (.inl rfl)) ht
      | timeZone => exact absurd (.inr (.inr rfl)) ht
    obtain ⟨a, rfl, rfl⟩ := hnumber hm
    obtain ⟨b, rfl, rfl⟩ := hnumber hn
    rw [DataType.sameValue_of_not_temporal fun u hu => by cases hu; exact ht,
      Json.sameContent_number, beq_iff_eq]
    exact Number.compare_eq_iff

/-- A bound that is not `null` has a magnitude. -/
theorem magnitude_of_isBound {b : Json} (hnull : b.isNull = false) (hb : t.isBound b = true) :
    ∃ n, Magnitude.of? t b = some n := by
  apply Option.isSome_iff_exists.mp
  simpa [OrdinalType.isBound, hnull] using hb

/-- Of two values with magnitudes, the first is below the second, the same or above. -/
theorem exactlyOne_of_magnitudes (hm : Magnitude.of? t x = some m)
    (hn : Magnitude.of? t y = some n) :
    ExactlyOne (t.Below x y) ((DataType.ordinal t).sameValue x y = true) (t.Below y x) := by
  unfold ExactlyOne
  rw [below_iff hm hn, below_iff hn hm, sameValue_iff hm hn]
  rcases lt_trichotomy m.toRat n.toRat with h | h | h
  · exact .inl ⟨h, h.ne, h.not_gt⟩
  · exact .inr (.inl ⟨h.not_lt, h, h.not_gt⟩)
  · exact .inr (.inr ⟨h.not_gt, h.ne', h⟩)

end OrdinalType

/-- A limit excludes the order of two magnitudes if the value breaks it. -/
theorem Limit.excludes_iff_broken {t : OrdinalType} {v b : Json} {m n : Magnitude} {o : Ordering}
    (limit : Limit) (hm : Magnitude.of? t v = some m) (hn : Magnitude.of? t b = some n)
    (ho : m.compare? n = some o) : limit.excludes o = true ↔ limit.Broken t v b := by
  obtain ⟨hlt, hgt⟩ := Magnitude.compare?_toRat ho
  have hbelow := OrdinalType.below_iff hm hn
  have habove := OrdinalType.below_iff hn hm
  cases limit with
  | minimum => exact beq_iff_eq.trans (hlt.trans hbelow.symm)
  | exclusiveMinimum => exact bne_iff_ne.trans (not_congr (hgt.trans habove.symm))
  | maximum => exact beq_iff_eq.trans (hgt.trans habove.symm)
  | exclusiveMaximum => exact bne_iff_ne.trans (not_congr (hlt.trans hbelow.symm))

/-! ## What a trace reports -/

namespace Trace

variable {α : Type} {path : Path}

/-- The trace ends without a failure and reports these violations. -/
structure Yields (t : Trace Unit) (vs : List Violation) : Prop where
  ends : t.outcome = .ok ()
  violations_eq : t.violations = vs

theorem yields_pure : Yields (pure ()) [] :=
  ⟨rfl, rfl⟩

theorem yields_violationIf (condition : Bool) (v : PropertyViolation) :
    Yields (violationIf condition path v) (if condition then [.property path v] else []) := by
  cases condition <;> exact ⟨rfl, rfl⟩

theorem Yields.congr {t : Trace Unit} {vs ws : List Violation} (h : Yields t vs)
    (heq : vs = ws) : Yields t ws :=
  heq ▸ h

/-- What a trace reports is what it is known to yield. -/
theorem Yields.nil_iff {t : Trace Unit} {vs : List Violation} (h : Yields t vs) :
    Yields t [] ↔ vs = [] := by
  constructor
  · intro hnil
    exact h.violations_eq.symm.trans hnil.violations_eq
  · intro hvs
    exact h.congr hvs

/-- What follows one another is reported one after the other. -/
theorem Yields.bind {t u : Trace Unit} {vs ws : List Violation} (ht : Yields t vs)
    (hu : Yields u ws) : Yields (t >>= fun _ => u) (vs ++ ws) := by
  constructor
  · rw [Logged.bind_of_ok ht.ends]
    exact hu.ends
  · rw [violations_bind ht.ends, ht.violations_eq, hu.violations_eq]

/-- What is run for each member of a list is reported in the order of the list. -/
theorem yields_each {f : α → Trace Unit} {report : α → List Violation} {members : List α}
    (h : ∀ a ∈ members, Yields (f a) (report a)) :
    Yields (Logged.each f members) (members.flatMap report) := by
  induction members with
  | nil => exact yields_pure
  | cons a rest ih =>
    rw [List.flatMap_cons]
    have hrest := ih fun b hb => h b (List.mem_cons_of_mem _ hb)
    exact (h a List.mem_cons_self).bind hrest

/-- A check of a slot reports what it reports of the value that the slot gives, whether
    that is a literal or the result of a computation. -/
theorem yields_readThen {constraint : Constraint} {s : Situation} {slot : Option (Slot α)}
    {check : α → Trace Unit} {given : Option α} {report : α → List Violation}
    (hslot : Slot.valueOf? slot s = .ok given)
    (hcheck : ∀ a, given = some a → Yields (check a) (report a)) :
    Yields (readThen path constraint s slot check) (given.elim [] report) := by
  match slot with
  | none =>
    cases hslot
    exact yields_pure
  | some (.literal a) =>
    cases hslot
    exact hcheck a rfl
  | some (.computed f) =>
    cases hf : f s with
    | error e =>
      simp only [Slot.valueOf?, Slot.value, Slot.resolve, hf] at hslot
      cases hslot
    | ok a =>
      simp only [Slot.valueOf?, Slot.value, Slot.resolve, hf] at hslot
      cases hslot
      -- the run of the computation is logged, but is no violation
      have hread : read path constraint s (.computed f) =
          ⟨[.computation path constraint s], .ok a⟩ := by
        simp only [read, hf]
        rfl
      obtain ⟨hends, hviolations⟩ := hcheck a rfl
      constructor
      · show (read path constraint s (.computed f) >>= check).outcome = _
        rw [Logged.bind_of_ok (a := a) (by rw [hread])]
        exact hends
      · show (read path constraint s (.computed f) >>= check).violations = _
        rw [violations_bind (a := a) (by rw [hread]), hread]
        exact hviolations

end Trace

/-! ## Checks of ranges -/

instance (t : OrdinalType) (x y : Json) : Decidable (t.Below x y) :=
  match hm : Magnitude.of? t x, hn : Magnitude.of? t y with
  | some m, some n => decidable_of_iff (m.toRat < n.toRat) (OrdinalType.below_iff hm hn).symm
  | none, _ => .isFalse fun ⟨_, _, h, _⟩ => by
    obtain ⟨_, h, -⟩ := h.magnitude
    rw [hm] at h
    cases h
  | some _, none => .isFalse fun ⟨_, _, _, h, _⟩ => by
    obtain ⟨_, h, -⟩ := h.magnitude
    rw [hn] at h
    cases h

instance (t : OrdinalType) (v b : Json) (limit : Limit) : Decidable (limit.Broken t v b) :=
  match limit with
  | .minimum => inferInstanceAs (Decidable (t.Below v b))
  | .exclusiveMinimum => inferInstanceAs (Decidable (¬ t.Below b v))
  | .maximum => inferInstanceAs (Decidable (t.Below b v))
  | .exclusiveMaximum => inferInstanceAs (Decidable (¬ t.Below v b))

namespace RangeRules

/-- The slots of a range give these bounds in a situation, each of which can bound
    values of the type. -/
structure Gives (r : RangeRules) (t : OrdinalType) (s : Situation)
    (bounds : Limit → Option Json) : Prop where
  resolved (limit : Limit) : Slot.valueOf? (r.slot? limit) s = .ok (bounds limit)
  valid (limit : Limit) (b : Json) : bounds limit = some b → t.isBound b = true

/-- The bounds of the range that ends on both sides with one value. -/
def pointBounds (b : Json) : Limit → Option Json
  | .minimum | .maximum => some b
  | .exclusiveMinimum | .exclusiveMaximum => none

end RangeRules

/-- The violation of a value by one bound; `null` bounds nothing. -/
def Limit.breach (limit : Limit) (t : OrdinalType) (path : Path) (v b : Json) : List Violation :=
  if b.isNull = false ∧ limit.Broken t v b then [.property path (.outOfRange limit b)] else []

/-- The violations of a value by the bounds that are set, in the order in which limits
    are checked. -/
def OrdinalType.breaches (t : OrdinalType) (path : Path) (v : Json)
    (bounds : Limit → Option Json) : List Violation :=
  Limit.all.flatMap fun limit => (bounds limit).elim [] (limit.breach t path v)

namespace Walk

open Trace

variable {t : OrdinalType} {v b : Json} {m : Magnitude} {path : Path} {here : Situation}

/-- A bound is reported if the value breaks the limit that it sets. -/
theorem bound_yields (limit : Limit) (hm : Magnitude.of? t v = some m) (hb : t.isBound b = true) :
    Yields (bound t path limit m b) (limit.breach t path v b) := by
  by_cases hnull : b.isNull = true
  · have hnone : limit.breach t path v b = [] := if_neg fun h => by simp [hnull] at h
    unfold bound
    rw [hnone, if_pos hnull]
    exact yields_pure
  · rw [Bool.not_eq_true] at hnull
    obtain ⟨n, hn⟩ := OrdinalType.magnitude_of_isBound hnull hb
    obtain ⟨order, horder⟩ := compare?_of_magnitudes hm hn
    obtain ⟨out, hout, hexcludes⟩ := bound_eq_violationIf path limit hm hb
    rw [hout]
    refine (yields_violationIf out _).congr ?_
    have hiff : out = true ↔ b.isNull = false ∧ limit.Broken t v b := by
      rw [hexcludes n order hn horder, limit.excludes_iff_broken hm hn horder]
    unfold Limit.breach
    simp only [hiff]

/-- A range reports the bounds that the value breaks. -/
theorem range_yields {r : RangeRules} {bounds : Limit → Option Json}
    (hv : (DataType.ordinal t).admits v = true) (hr : r.Gives t here bounds) :
    Yields (range t r path v here) (t.breaches path v bounds) := by
  obtain ⟨m, hm⟩ := magnitude_of_admits hv
  unfold range
  rw [hm]
  refine yields_each fun limit _ => yields_readThen (hr.resolved limit) fun b hb => ?_
  exact bound_yields limit hm (hr.valid limit b hb)

/-- Equality reports a value that is not the same as the one that is demanded. -/
theorem equality_yields {rules : CommonRules} (type : DataType)
    (hrules : Slot.valueOf? rules.mustEqual here = .ok (some b)) :
    Yields (equality type rules path here v)
      (if !b.isNull && !type.sameValue v b then [.property path (.mustEqual b)] else []) := by
  unfold equality
  refine (yields_readThen hrules fun expected _ => yields_violationIf _ _).congr ?_
  rfl

/-- A value passes the range from a bound to the same bound if it is the same as the
    bound. -/
theorem breaches_pointBounds_iff (hv : (DataType.ordinal t).admits v = true)
    (hb : t.isBound b = true) : t.breaches path v (RangeRules.pointBounds b) = [] ↔
      (b.isNull = false → (DataType.ordinal t).sameValue v b = true) := by
  -- the exclusive limits are unset, and null bounds nothing on either side
  have hbreaches : t.breaches path v (RangeRules.pointBounds b) =
      Limit.minimum.breach t path v b ++ Limit.maximum.breach t path v b := by
    simp [OrdinalType.breaches, Limit.all, RangeRules.pointBounds]
  have hnil (limit : Limit) :
      limit.breach t path v b = [] ↔ (b.isNull = false → ¬ limit.Broken t v b) := by
    unfold Limit.breach
    simp
  rw [hbreaches, List.append_eq_nil_iff, hnil, hnil, ← imp_and]
  obtain ⟨m, hm⟩ := magnitude_of_admits hv
  refine imp_congr_right fun hnull => ?_
  obtain ⟨n, hn⟩ := OrdinalType.magnitude_of_isBound hnull hb
  exact (OrdinalType.exactlyOne_of_magnitudes hm hn).second_iff.symm

end Walk

/-! ## Agreement -/

/-- How ranges stand to equality, for a value of an ordinal type. -/
structure OrdinalType.RangesAgree (t : OrdinalType) (v : Json) : Prop where
  /-- The value is below a bound, the same as the bound or above it, and only one of it. -/
  order (b : Json) : b.isNull = false → t.isBound b = true →
    ExactlyOne (t.Below v b) ((DataType.ordinal t).sameValue v b = true) (t.Below b v)
  /-- The check of a range ends, and reports the bounds that the value breaks. -/
  checked (r : RangeRules) (bounds : Limit → Option Json) (path : Path) (here : Situation) :
    r.Gives t here bounds →
      (Walk.range t r path v here).Yields (t.breaches path v bounds)
  /-- The value passes the range from a bound to the same bound as it passes the check
      that it is equal to the bound. -/
  point (r : RangeRules) (rules : CommonRules) (b : Json) (path : Path) (here : Situation) :
    r.Gives t here (RangeRules.pointBounds b) →
      Slot.valueOf? rules.mustEqual here = .ok (some b) →
      ((Walk.range t r path v here).Yields [] ↔
        (Walk.equality (.ordinal t) rules path here v).Yields [])

/-- **Ranges agree with equality**, whatever the bounds are and however values and bounds
    are written. -/
theorem OrdinalType.ranges_agree_with_equality (t : OrdinalType) (v : Json)
    (hv : (DataType.ordinal t).admits v = true) : t.RangesAgree v := by
  constructor
  · intro b hnull hb
    obtain ⟨m, hm⟩ := Walk.magnitude_of_admits hv
    obtain ⟨n, hn⟩ := magnitude_of_isBound hnull hb
    exact exactlyOne_of_magnitudes hm hn
  · intro r bounds path here hr
    exact Walk.range_yields hv hr
  · intro r rules b path here hr hrules
    have hrange : (Walk.range t r path v here).Yields (t.breaches path v (RangeRules.pointBounds b)) :=
      Walk.range_yields hv hr
    have hequality : (Walk.equality (.ordinal t) rules path here v).Yields
        (if !b.isNull && !(DataType.ordinal t).sameValue v b then
          [.property path (.mustEqual b)] else []) :=
      Walk.equality_yields (.ordinal t) hrules
    have hbreaches : t.breaches path v (RangeRules.pointBounds b) = [] ↔
        (b.isNull = false → (DataType.ordinal t).sameValue v b = true) :=
      Walk.breaches_pointBounds_iff hv (hr.valid .minimum b rfl)
    -- both checks report nothing under one condition
    rw [hrange.nil_iff, hequality.nil_iff, hbreaches]
    cases b.isNull <;> simp

/-- The instant with which 20 July 2016 begins in UTC, as it is written seven hours
    west of there. -/
def eveningBefore : Json :=
  .string "2016-07-19T17:00-07:00"

/-- 20 July 2016. -/
def nextDay : Json :=
  .string "2016-07-20"

/-- Date/times from one day on, and before the same day by a bound that is computed. -/
def emptyRange : RangeRules :=
  { minimum := some (.literal nextDay), exclusiveMaximum := some (.computed fun _ => .ok nextDay) }

/-- A date bounds date/times by its midnight in UTC: the evening before at an offset is
    the same as the bound, so that only the exclusive limit excludes it. -/
theorem OrdinalType.ranges_agree_with_equality_evening :
    (DataType.ordinal .dateTime).admits eveningBefore = true ∧
      ExactlyOne (dateTime.Below eveningBefore nextDay)
        ((DataType.ordinal .dateTime).sameValue eveningBefore nextDay = true)
        (dateTime.Below nextDay eveningBefore) ∧
      (Walk.range .dateTime emptyRange [] eveningBefore ⟨⟨[], []⟩, none, {}, none, none, none⟩).Yields
        [.property [] (.outOfRange .exclusiveMaximum nextDay)] := by
  have hadmits : (DataType.ordinal .dateTime).admits eveningBefore = true := by decide +kernel
  have hbound : dateTime.isBound nextDay = true := by decide +kernel
  have hagree := dateTime.ranges_agree_with_equality eveningBefore hadmits
  refine ⟨hadmits, hagree.order nextDay rfl hbound, ?_⟩
  have hgives : emptyRange.Gives .dateTime ⟨⟨[], []⟩, none, {}, none, none, none⟩ fun
      | .minimum | .exclusiveMaximum => some nextDay
      | .maximum | .exclusiveMinimum => none := by
    constructor
    · intro limit
      cases limit <;> rfl
    · intro limit b hb
      cases limit <;> cases hb <;> exact hbound
  refine (hagree.checked _ _ _ _ hgives).congr ?_
  have hlow : ¬ Limit.minimum.Broken .dateTime eveningBefore nextDay := by decide +kernel
  have hhigh : Limit.exclusiveMaximum.Broken .dateTime eveningBefore nextDay := by decide +kernel
  have hnull : nextDay.isNull = false := rfl
  simp [breaches, Limit.all, Limit.breach, hlow, hhigh, hnull]

end WritePolicy
