import WritePolicy.Proofs.Content
import WritePolicy.Proofs.Decision

/-! # Definitions that never fail

    Two things can go wrong with a definition while a write is decided: a
    computation fails, or a bound cannot be compared with the value that it
    bounds. Definitions from files compute nothing, and their bounds were checked
    when they were loaded. That check looks at the bound alone. What it
    guarantees is that the bound can be compared with every value of the type
    (`isBound_iff_bounds`), and being static passes this on to every node of a
    validator tree (`Static.under`).
-/

namespace WritePolicy

/-! ## Bounds -/

/-- A value limits nothing, or every value of the type stands in an order to it. -/
def OrdinalType.Bounds (t : OrdinalType) (b : Json) : Prop :=
  b = .null ∨ ∀ x, (DataType.ordinal t).admits x = true →
    ∃ m n o, Magnitude.of? t x = some m ∧ Magnitude.of? t b = some n ∧ m.compare? n = some o

namespace OrdinalType

/-- A value of each ordinal type. -/
def sample : OrdinalType → Json
  | .date => .string "1970-01-01"
  | .dateTime => .string "1970-01-01T00:00Z"
  | .timeZone => .string "Z"
  | .integer | .float => .ofNat 0

theorem admits_sample (t : OrdinalType) : (DataType.ordinal t).admits t.sample = true := by
  cases t <;> decide +kernel

/-- The check of a bound at loading allows exactly the bounds that can be compared
    with all values of the type. -/
theorem isBound_iff_bounds {t : OrdinalType} {b : Json} : t.isBound b = true ↔ t.Bounds b := by
  unfold isBound Bounds
  rw [Bool.or_eq_true, Option.isSome_iff_exists]
  constructor
  · rintro (hnull | ⟨n, hn⟩)
    · left
      cases b with
      | null => rfl
      | _ => cases hnull
    · right
      intro x hx
      obtain ⟨m, hm⟩ := Walk.magnitude_of_admits hx
      obtain ⟨o, ho⟩ := Walk.compare?_of_magnitudes hm hn
      exact ⟨m, n, o, hm, hn, ho⟩
  · rintro (rfl | h)
    · exact .inl rfl
    · -- a type without values would allow any bound; none is
      obtain ⟨_, n, _, _, hn, _⟩ := h t.sample t.admits_sample
      exact .inr ⟨n, hn⟩

end OrdinalType

namespace Walk

/-! ## Down the tree -/

/-- What stands below a static validator is static. -/
theorem Under.static {v w : Validator} {path : Path} (h : Under v path w) (hv : v.Static) :
    w.Static := by
  induction h with
  | here => exact hv
  | property hmem _ ih =>
    cases hv with
    | object _ _ hdeclared => exact ih (hdeclared _ rfl _ hmem)
  | element i _ ih =>
    cases hv with
    | array _ _ helement => exact ih (helement _ rfl)
  | entry key _ ih =>
    cases hv with
    | hashtable _ _ _ hentry => exact ih (hentry _ rfl)

/-- Every bound of a static range at any depth is a literal that bounds the values
    of its type. -/
theorem Describes.bounds {declared : Properties} {path : Path} {rules : CommonRules}
    {t : OrdinalType} {range : RangeRules}
    (h : Describes declared path (.scalar rules (.ordinal t range))) (hstatic : declared.Static)
    {limit : Limit} {slot : Slot Json} (hslot : range.slot? limit = some slot) :
    ∃ b, slot = .literal b ∧ t.Bounds b := by
  obtain ⟨_, _, _, hmem, -, hunder⟩ := h
  have hvalidator := hunder.static (hstatic _ hmem)
  cases hvalidator with
  | scalar _ hrange =>
    obtain ⟨b, hb, hbound⟩ := hrange limit slot hslot
    exact ⟨b, hb, OrdinalType.isBound_iff_bounds.mp hbound⟩

end Walk

open Walk

/-! ## Decisions -/

namespace Definitions

variable {definitions : Definitions}

/-- The decision of static definitions is neither a failure of a definition nor the
    refusal of an action. -/
theorem Static.outcome_ne (h : definitions.Static) (options : Options) (r : Request) :
    (∀ cause, (definitions.decide options r).outcome ≠ .error (.misconfigured cause)) ∧
      ∀ docType message,
        (definitions.decide options r).outcome ≠ .error (.refused docType message) := by
  rcases definitions.governs_or_ungoverned r.proposed r.prior with ⟨t, d, hgov⟩ | hnone
  · have hverdict := Decision.governed_verdict (h _ hgov.mem) t r
    rw [decide_of_governs options hgov]
    -- no end of a governed decision is one of the two
    constructor
    · intro cause herror
      rw [herror] at hverdict
      cases hverdict
    · intro docType message herror
      rw [herror] at hverdict
      cases hverdict
  · rw [decide_of_ungoverned options hnone]
    unfold Decision.ungoverned
    split <;> exact ⟨nofun, nofun⟩

end Definitions

/-- Definitions that were loaded never fail: no write ends in a failure of a
    definition or in the refusal of an action, and every bound of a range, at any
    depth, limits nothing or can be compared with every value of its type. -/
theorem loaded_definitions_never_fail {definitions : Definitions} (h : definitions.Loaded) :
    (∀ options r,
      (∀ cause, (definitions.decide options r).outcome ≠ .error (.misconfigured cause)) ∧
        ∀ docType message,
          (definitions.decide options r).outcome ≠ .error (.refused docType message)) ∧
      ∀ docType d, (docType, d) ∈ definitions → ∀ path rules t range,
        Describes d.properties path (.scalar rules (.ordinal t range)) →
        ∀ limit slot, range.slot? limit = some slot → ∃ b, slot = .literal b ∧ t.Bounds b := by
  refine ⟨h.static.outcome_ne, ?_⟩
  intro docType d hmem path rules t range hdesc limit slot hslot
  exact hdesc.bounds (h.static _ hmem).properties hslot

/-- Stays: the bound on the times of arrival stands below an array and a hashtable.
    A date bounds date/times. -/
def stayText : String :=
  let arrival : Json := .object [("type", .string "datetime"),
    ("minimumValue", .string "2016-01-01")]
  let arrivals : Json := .object [("type", .string "hashtable"),
    ("hashtableValuesValidator", arrival)]
  (Json.object [("stay", .object [
    ("typeFilter", .object [("idPattern", .string "s[0-9]+")]),
    ("channels", .string "desk"),
    ("propertyValidators", .object [
      ("nights", .object [("type", .string "array"),
        ("arrayElementsValidator", arrivals)])])])]).compact

/-- Rates: the bound on their amounts is `null`. -/
def rateText : String :=
  "rate:\n  channels: desk\n  propertyValidators:\n" ++
  "    amount:\n      type: float\n      maximumValue: null\n"

/-- The position of a time of arrival. -/
def arrivalPath : Path :=
  [.property "nights", .element 0, .entry "first"]

/-- A stay with a time of arrival below the bound. -/
def stayRequest : Request :=
  let night : Json := .object [("first", .string "2015-12-31T23:59:59Z")]
  { newDoc := some ⟨[("_id", .string "s1"), ("nights", .array [night])], []⟩
    context := { principal := { channels := ["desk"] } } }

/-- The ordinal type of a validator and the text of its lower bound. -/
def minimumText? : Validator → Option (OrdinalType × String)
  | .scalar _ (.ordinal t range) =>
    ((range.minimum.bind (·.literal?)).bind (·.asString?)).map (t, ·)
  | _ => none

theorem exists_of_minimumText? {v : Validator} {t : OrdinalType} {text : String}
    (h : minimumText? v = some (t, text)) :
    ∃ rules range, v = .scalar rules (.ordinal t range) ∧
      range.minimum = some (.literal (.string text)) := by
  unfold minimumText? at h
  split at h
  · next rules t' range =>
    obtain ⟨_, hbound, heq⟩ := Option.map_eq_some_iff.mp h
    cases heq
    obtain ⟨b, hb, htext⟩ := Option.bind_eq_some_iff.mp hbound
    obtain ⟨slot, hslot, hliteral⟩ := Option.bind_eq_some_iff.mp hb
    cases Slot.literal?_eq_some.mp hliteral
    cases Json.asString?_eq_some_iff.mp htext
    exact ⟨rules, range, rfl, hslot⟩
  · cases h

/-- With definitions of two files in one set, the time of arrival is compared with
    the bound, and the stay is rejected for no fault of a definition. -/
theorem loaded_definitions_never_fail_stay :
    ∃ stays rates, Definitions.parse .json stayText = .ok stays ∧
      Definitions.parse .yaml rateText = .ok rates ∧
      (∃ report, (Definitions.decide (Entries.insertAll stays rates) {} stayRequest).outcome =
        .error (.invalid "stay" report)) ∧
      (∀ cause, (Definitions.decide (Entries.insertAll stays rates) {} stayRequest).outcome ≠
        .error (.misconfigured cause)) ∧
      ∃ d rules range, ("stay", d) ∈ Entries.insertAll stays rates ∧
        Describes d.properties arrivalPath (.scalar rules (.ordinal .dateTime range)) ∧
        range.minimum = some (.literal (.string "2016-01-01")) ∧
        OrdinalType.dateTime.Bounds (.string "2016-01-01") := by
  have hcompute : ((Definitions.parse .json stayText).toOption.bind fun stays =>
      (Definitions.parse .yaml rateText).toOption.bind fun rates =>
        (Entries.get? "stay" (Entries.insertAll stays rates)).bind fun d =>
          (described? d.properties arrivalPath).bind fun v =>
            (Decision.invalid? (Definitions.decide (Entries.insertAll stays rates) {}
              stayRequest).outcome).map fun report => (minimumText? v, report.1)) =
      some (some (.dateTime, "2016-01-01"), "stay") := by
    have htext : stayText = Json.compact _ := rfl
    rw [htext, Definitions.parse_compact]
    decide +kernel
  obtain ⟨stays, hstays, hcompute⟩ := Option.bind_eq_some_iff.mp hcompute
  obtain ⟨rates, hrates, hcompute⟩ := Option.bind_eq_some_iff.mp hcompute
  obtain ⟨d, hd, hcompute⟩ := Option.bind_eq_some_iff.mp hcompute
  obtain ⟨v, hdescribed, hcompute⟩ := Option.bind_eq_some_iff.mp hcompute
  obtain ⟨⟨docType, report⟩, houtcome, hcompute⟩ := Option.map_eq_some_iff.mp hcompute
  simp only [Prod.mk.injEq] at hcompute
  obtain ⟨hminimum, rfl⟩ := hcompute
  obtain ⟨rules, range, rfl, hslot⟩ := exists_of_minimumText? hminimum
  have hstays := ok_of_toOption hstays
  have hrates := ok_of_toOption hrates
  have hmem := Entries.mem_of_get? hd
  have hdesc := describes_of_described? hdescribed
  obtain ⟨hnever, hbounds⟩ :=
    loaded_definitions_never_fail ((Definitions.Loaded.file hstays).merge (.file hrates))
  obtain ⟨_, hb, hbound⟩ :=
    hbounds "stay" d hmem arrivalPath rules .dateTime range hdesc .minimum _ hslot
  cases hb
  exact ⟨stays, rates, hstays, hrates, ⟨report, Decision.invalid?_eq_some_iff.mp houtcome⟩,
    (hnever {} stayRequest).1, d, rules, range, hmem, hdesc, hslot, hbound⟩

end WritePolicy
