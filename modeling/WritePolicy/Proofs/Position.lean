import WritePolicy.Proofs.Static

/-! # Positions in a document

    A position is named by the steps that lead to it. Three notions of "being
    there" are kept apart:

    * a validator tree describes a position if the steps lead to a validator,
      whatever the document holds (`Under`, `Describes`);
    * a document encloses a position if the objects, arrays and entries that the
      steps pass through are in the document (`Encloses`);
    * a position is reached if the steps lead down the tree and the document at
      the same time, through values of the declared kinds (`Below`, `Reached`).

    The main facts are that the value at a reached position is the one that the
    document has there (`Reached.at?_eq`), that a position that a tree describes and
    a document encloses is reached (`reached_of_encloses`), and that a document
    holds nothing at a position that it does not enclose (`at?_of_not_encloses`).
-/

namespace WritePolicy

/-! ## Values at positions -/

/-- One step, then the others. -/
theorem Json.at?_cons (v : Option Json) (step : Step) (rest : Path) :
    v.bind (·.at? (step :: rest)) = (v.bind (Step.into? · step)).bind (·.at? rest) := by
  cases v <;> rfl

theorem Json.at?_nil (v : Option Json) : v.bind (·.at? []) = v := by
  cases v <;> rfl

/-- What the prior document holds at a position, if there is a prior document
    and it holds something there. -/
def Situation.counterpart (s : Situation) (path : Path) : Option Json :=
  (s.oldDoc.map Document.toJson).bind (·.at? path)

/-- A value that is found under a key is one of the entries. -/
theorem Entries.mem_of_get? {α : Type} {key : String} {entries : Entries α} {v : α}
    (h : Entries.get? key entries = some v) : (key, v) ∈ entries := by
  induction entries with
  | nil => cases h
  | cons e rest ih =>
    obtain ⟨k, w⟩ := e
    by_cases hk : k = key
    · simp only [Entries.get?, hk, if_true, Option.some.injEq] at h
      rw [hk, h]
      exact List.mem_cons_self
    · simp only [Entries.get?, hk, if_false] at h
      exact List.mem_cons_of_mem _ (ih h)

/-! ## Unique keys -/

/-- Where keys are unique, an entry is the one that is found under its key. -/
theorem Entries.get?_of_mem {α : Type} {key : String} {entries : Entries α} {v : α}
    (hnodup : (Entries.keys entries).Nodup) (h : (key, v) ∈ entries) :
    Entries.get? key entries = some v := by
  induction entries with
  | nil => cases h
  | cons e rest ih =>
    obtain ⟨k, w⟩ := e
    obtain ⟨hnot, hrest⟩ := List.nodup_cons.mp hnodup
    rcases List.mem_cons.mp h with hhead | htail
    · cases hhead
      simp [Entries.get?]
    · have hne : k ≠ key := by
        rintro rfl
        exact hnot (List.mem_map.mpr ⟨_, htail, rfl⟩)
      simp only [Entries.get?, hne, if_false]
      exact ih hrest htail

namespace Json

theorem uniqueKeysItems_iff {items : List Json} :
    UniqueKeysItems items ↔ ∀ x ∈ items, x.UniqueKeys := by
  induction items with
  | nil => exact iff_of_true trivial nofun
  | cons x rest ih => rw [UniqueKeysItems, ih, List.forall_mem_cons]

theorem uniqueKeysFields_iff {fields : List (String × Json)} :
    UniqueKeysFields fields ↔ ∀ e ∈ fields, e.2.UniqueKeys := by
  induction fields with
  | nil => exact iff_of_true trivial nofun
  | cons e rest ih => rw [UniqueKeysFields, ih, List.forall_mem_cons]

/-- An array has unique keys if its items do. -/
theorem uniqueKeys_array_iff {items : List Json} :
    (array items).UniqueKeys ↔ ∀ x ∈ items, x.UniqueKeys := by
  rw [UniqueKeys, uniqueKeysItems_iff]

/-- An object has unique keys if its own are distinct and its values have unique
    keys. -/
theorem uniqueKeys_object_iff {fields : List (String × Json)} :
    (object fields).UniqueKeys ↔
      (Entries.keys fields).Nodup ∧ ∀ e ∈ fields, e.2.UniqueKeys := by
  rw [UniqueKeys, uniqueKeysFields_iff]
  rfl

end Json

/-! ## Reaching -/

namespace Walk

/-- One step down a validator and a value of its kind: to a declared property of
    an object, with the value that the object has there, if any; to an element
    of an array; to an entry of a hashtable. -/
inductive Child : Validator → Json → Step → Validator → Option Json → Prop where
  | property {rules : CommonRules} {declared : List (String × Validator)}
      {allowUnknown : Slot Bool} {fields : Entries Json} {name : String} {c : Validator} :
      (name, c) ∈ declared →
      Child (.object rules (some declared) allowUnknown) (.object fields) (.property name)
        c (Entries.get? name fields)
  | element {rules : CommonRules} {length : SizeRules} {c : Validator} {items : List Json}
      {i : Nat} {x : Json} :
      items[i]? = some x →
      Child (.array rules length (some c)) (.array items) (.element i) c (some x)
  | entry {rules : CommonRules} {size : SizeRules} {keys : Option KeyRules} {c : Validator}
      {fields : Entries Json} {key : String} {x : Json} :
      (key, x) ∈ fields →
      Child (.hashtable rules size keys (some c)) (.object fields) (.entry key) c (some x)

/-- The steps lead from a validator with its value to a validator with its
    value. -/
inductive Below : Validator → Option Json → Path → Validator → Option Json → Prop where
  | here {v : Validator} {value : Option Json} : Below v value [] v value
  | step {v c w : Validator} {x : Json} {y z : Option Json} {step : Step} {rest : Path} :
      Child v x step c y → Below c y rest w z → Below v (some x) (step :: rest) w z

/-- The steps lead from the top of a document, where properties are declared, to
    a validator with its value. -/
def Reached (declared : Properties) (doc : Document) (path : Path) (w : Validator)
    (value : Option Json) : Prop :=
  ∃ name v rest, (name, v) ∈ declared ∧ path = .property name :: rest ∧
    Below v (doc.get? name) rest w value

/-- What holds everywhere below a validator holds at it, and everywhere below the
    validators one step down. -/
theorem forall_below_iff {v : Validator} {value : Option Json}
    {Q : Path → Validator → Option Json → Prop} :
    (∀ rest w y, Below v value rest w y → Q rest w y) ↔
      Q [] v value ∧ ∀ x, value = some x → ∀ step c z, Child v x step c z →
        ∀ rest w y, Below c z rest w y → Q (step :: rest) w y := by
  constructor
  · intro h
    refine ⟨h _ _ _ .here, ?_⟩
    rintro x rfl step c z hchild rest w y hbelow
    exact h _ _ _ (.step hchild hbelow)
  · rintro ⟨hhere, hbelow⟩ rest w y h
    cases h with
    | here => exact hhere
    | step hchild hrest => exact hbelow _ rfl _ _ _ hchild _ _ _ hrest

/-- What holds at every reached position holds below every declared property. -/
theorem forall_reached_iff {declared : Properties} {doc : Document}
    {Q : Path → Validator → Option Json → Prop} :
    (∀ path w y, Reached declared doc path w y → Q path w y) ↔
      ∀ e ∈ declared, ∀ rest w y, Below e.2 (doc.get? e.1) rest w y →
        Q (.property e.1 :: rest) w y := by
  constructor
  · rintro h ⟨name, v⟩ he rest w y hbelow
    exact h _ _ _ ⟨name, v, rest, he, rfl, hbelow⟩
  · rintro h path w y ⟨name, v, rest, he, rfl, hbelow⟩
    exact h (name, v) he rest w y hbelow

/-- The value one step down is the one that the step leads to. -/
theorem Child.into?_eq {v c : Validator} {x : Json} {step : Step} {z : Option Json}
    (h : Child v x step c z) (hkeys : x.UniqueKeys) :
    Step.into? x step = z ∧ ∀ y, z = some y → y.UniqueKeys := by
  cases h with
  | property hmem =>
    obtain ⟨-, hfields⟩ := Json.uniqueKeys_object_iff.mp hkeys
    exact ⟨rfl, fun y hy => hfields _ (Entries.mem_of_get? hy)⟩
  | element hitem =>
    rw [Json.uniqueKeys_array_iff] at hkeys
    refine ⟨hitem, fun y hy => ?_⟩
    cases hy
    exact hkeys _ (List.mem_of_getElem? hitem)
  | entry hmem =>
    obtain ⟨hnodup, hfields⟩ := Json.uniqueKeys_object_iff.mp hkeys
    refine ⟨Entries.get?_of_mem hnodup hmem, fun y hy => ?_⟩
    cases hy
    exact hfields _ hmem

/-- The value at a position below is the one that the steps lead to. -/
theorem Below.at?_eq {v w : Validator} {value y : Option Json} {rest : Path}
    (h : Below v value rest w y) (hkeys : ∀ x, value = some x → x.UniqueKeys) :
    value.bind (·.at? rest) = y := by
  induction h with
  | here => exact Json.at?_nil _
  | step hchild _ ih =>
    obtain ⟨hinto, hz⟩ := hchild.into?_eq (hkeys _ rfl)
    rw [Json.at?_cons, Option.bind_some, hinto]
    exact ih hz

/-- The value at a reached position is the one that the document has there. -/
theorem Reached.at?_eq {declared : Properties} {doc : Document} {path : Path} {w : Validator}
    {value : Option Json} (h : Reached declared doc path w value)
    (hkeys : doc.toJson.UniqueKeys) : doc.toJson.at? path = value := by
  obtain ⟨name, v, rest, -, rfl, hbelow⟩ := h
  obtain ⟨-, hfields⟩ := Json.uniqueKeys_object_iff.mp hkeys
  exact hbelow.at?_eq fun x hx => hfields _ (Entries.mem_of_get? hx)

/-! ## Describing -/

/-- The steps lead from a validator down its tree to a validator, through any
    element and any entry. -/
inductive Under : Validator → Path → Validator → Prop where
  | here {v : Validator} : Under v [] v
  | property {rules : CommonRules} {declared : List (String × Validator)}
      {allowUnknown : Slot Bool} {name : String} {c w : Validator} {rest : Path} :
      (name, c) ∈ declared → Under c rest w →
      Under (.object rules (some declared) allowUnknown) (.property name :: rest) w
  | element {rules : CommonRules} {length : SizeRules} {c w : Validator} {rest : Path}
      (i : Nat) :
      Under c rest w → Under (.array rules length (some c)) (.element i :: rest) w
  | entry {rules : CommonRules} {size : SizeRules} {keys : Option KeyRules} {c w : Validator}
      {rest : Path} (key : String) :
      Under c rest w → Under (.hashtable rules size keys (some c)) (.entry key :: rest) w

/-- The declared properties describe a position: the steps lead to a validator. -/
def Describes (declared : Properties) (path : Path) (w : Validator) : Prop :=
  ∃ name v rest, (name, v) ∈ declared ∧ path = .property name :: rest ∧ Under v rest w

/-- The validator one step down. -/
def child? : Validator → Step → Option Validator
  | .object _ (some declared) _, .property name => Entries.get? name declared
  | .array _ _ elements, .element _ => elements
  | .hashtable _ _ _ values, .entry _ => values
  | _, _ => none

/-- The validator that the steps lead to. -/
def under? : Path → Validator → Option Validator
  | [], v => some v
  | step :: rest, v => (child? v step).bind (under? rest)

/-- The validator that the declared properties have at a position. -/
def described? (declared : Properties) : Path → Option Validator
  | .property name :: rest => (Entries.get? name declared).bind (under? rest)
  | _ => none

/-- One step, then the others. -/
theorem Under.of_child? {v c w : Validator} {step : Step} {rest : Path}
    (hc : child? v step = some c) (h : Under c rest w) : Under v (step :: rest) w := by
  cases v with
  | scalar rules type => cases step <;> cases hc
  | object rules properties allowUnknown =>
    cases properties with
    | none => cases step <;> cases hc
    | some declared =>
      cases step with
      | property name => exact .property (Entries.mem_of_get? hc) h
      | element i => cases hc
      | entry key => cases hc
  | array rules length elements =>
    cases step with
    | property name => cases hc
    | element i =>
      cases hc
      exact .element i h
    | entry key => cases hc
  | hashtable rules size keys values =>
    cases step with
    | property name => cases hc
    | element i => cases hc
    | entry key =>
      cases hc
      exact .entry key h

/-- A validator that is found is one that the steps lead to. -/
theorem under_of_under? {path : Path} {v w : Validator} (h : under? path v = some w) :
    Under v path w := by
  induction path generalizing v with
  | nil =>
    cases h
    exact .here
  | cons step rest ih =>
    obtain ⟨c, hc, h⟩ := Option.bind_eq_some_iff.mp h
    exact .of_child? hc (ih h)

/-- A validator that is found at a position is described there. -/
theorem describes_of_described? {declared : Properties} {path : Path} {w : Validator}
    (h : described? declared path = some w) : Describes declared path w := by
  cases path with
  | nil => cases h
  | cons step rest =>
    cases step with
    | property name =>
      obtain ⟨v, hv, h⟩ := Option.bind_eq_some_iff.mp h
      exact ⟨name, v, rest, Entries.mem_of_get? hv, rfl, under_of_under? h⟩
    | element i => cases h
    | entry key => cases h

/-! ## Enclosing -/

/-- A value encloses a position: the objects, elements and entries that the steps
    pass through are there. Whether an object has the property that the last step
    names does not matter. -/
def Encloses : Option Json → Path → Prop
  | _, [] => True
  | v, .property name :: rest =>
    ∃ fields, v = some (.object fields) ∧ Encloses (Entries.get? name fields) rest
  | v, .element i :: rest => ∃ x, v.bind (·.item? i) = some x ∧ Encloses (some x) rest
  | v, .entry key :: rest => ∃ x, v.bind (·.field? key) = some x ∧ Encloses (some x) rest

/-- A field belongs to an object. -/
theorem eq_object_of_field? {v : Option Json} {key : String} {x : Json}
    (h : v.bind (·.field? key) = some x) :
    ∃ fields, v = some (.object fields) ∧ Entries.get? key fields = some x := by
  obtain ⟨a, rfl, ha⟩ := Option.bind_eq_some_iff.mp h
  cases a with
  | object fields => exact ⟨fields, rfl, ha⟩
  | _ => cases ha

/-- An item belongs to an array. -/
theorem eq_array_of_item? {v : Option Json} {i : Nat} {x : Json}
    (h : v.bind (·.item? i) = some x) :
    ∃ items, v = some (.array items) ∧ items[i]? = some x := by
  obtain ⟨a, rfl, ha⟩ := Option.bind_eq_some_iff.mp h
  cases a with
  | array items => exact ⟨items, rfl, ha⟩
  | _ => cases ha

/-- A position that is described and enclosed is reached, with the value that is
    there. -/
theorem below_of_encloses {v w : Validator} {value : Option Json} {path : Path}
    (hunder : Under v path w) (hencl : Encloses value path) :
    Below v value path w (value.bind (·.at? path)) := by
  -- enclosing is taken apart in step with the tree, and the kinds come with it
  induction hunder generalizing value with
  | here =>
    rw [Json.at?_nil]
    exact .here
  | property hmem _ ih =>
    obtain ⟨fields, rfl, hrest⟩ := hencl
    exact .step (.property hmem) (ih hrest)
  | element i _ ih =>
    obtain ⟨x, hx, hrest⟩ := hencl
    rw [Json.at?_cons, show value.bind (Step.into? · (.element i)) = some x from hx]
    obtain ⟨items, rfl, hitem⟩ := eq_array_of_item? hx
    exact .step (.element hitem) (ih hrest)
  | entry key _ ih =>
    obtain ⟨x, hx, hrest⟩ := hencl
    rw [Json.at?_cons, show value.bind (Step.into? · (.entry key)) = some x from hx]
    obtain ⟨fields, rfl, hfield⟩ := eq_object_of_field? hx
    exact .step (.entry (Entries.mem_of_get? hfield)) (ih hrest)

/-- Nothing is at a position that is not enclosed. -/
theorem at?_of_not_encloses {value : Option Json} {path : Path}
    (h : ¬ Encloses value path) : value.bind (·.at? path) = none := by
  induction path generalizing value with
  | nil => exact absurd trivial h
  | cons step rest ih =>
    rw [Json.at?_cons]
    -- the step leads nowhere, or to a value that does not enclose the rest
    cases hx : value.bind (Step.into? · step) with
    | none => rfl
    | some x =>
      apply ih
      intro hrest
      cases step with
      | property name =>
        obtain ⟨fields, hvalue, hget⟩ := eq_object_of_field? hx
        exact h ⟨fields, hvalue, hget ▸ hrest⟩
      | element i => exact h ⟨x, hx, hrest⟩
      | entry key => exact h ⟨x, hx, hrest⟩

/-- A described position that a document encloses is reached from its top. -/
theorem reached_of_encloses {declared : Properties} {doc : Document} {path : Path}
    {w : Validator} (hdesc : Describes declared path w)
    (hencl : Encloses (some doc.toJson) path) :
    Reached declared doc path w (doc.toJson.at? path) := by
  obtain ⟨name, v, rest, hmem, rfl, hunder⟩ := hdesc
  obtain ⟨fields, hfields, hrest⟩ := hencl
  cases hfields
  exact ⟨name, v, rest, hmem, rfl, below_of_encloses hunder hrest⟩

end Walk

end WritePolicy
