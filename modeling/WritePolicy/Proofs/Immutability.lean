import WritePolicy.Proofs.DecisionTable

/-! # Immutability below the top of a document

    A frozen value is compared with its counterpart where the walk over the new
    document comes by. The walk goes down through values that are there, so an
    accepted replacement keeps a frozen value at every position that the new
    document encloses, at any depth. Where the enclosing object, element or
    entry is gone, nobody looks: the value is lost with it.

    The two facts together tell exactly when a frozen position is kept by an
    accepted replacement (`replacement_keeps_frozen_iff`). The prior document is never walked,
    so the argument is about positions of the tree, not about the recursion.
-/

namespace WritePolicy

namespace Walk

variable {declared : Properties} {path : Path} {w : Validator} {doc old : Document}

/-- Where nothing is, a value is unchanged if there was none. -/
theorem unchanged_none_iff {type : DataType} {value : Option Json} :
    Unchanged type none value ↔ present value = none := by
  constructor
  · rintro (⟨_, h⟩ | ⟨_, _, h, _⟩)
    · exact h
    · cases h
  · exact fun h => .inl ⟨rfl, h⟩

/-- A document that conforms keeps what is frozen at every position that it
    encloses. -/
theorem Conforms.unchanged {allowUnknown : Bool} {s : Situation}
    (h : Conforms declared allowUnknown s) (hold : s.oldDoc = some old)
    (hdesc : Describes declared path w) (hencl : Encloses (some s.newDoc.toJson) path)
    (hfrozen : Frozen w.rules (old.toJson.at? path)) :
    Unchanged w.dataType (s.newDoc.toJson.at? path) (old.toJson.at? path) := by
  have hreached : Reached declared s.newDoc path w (s.newDoc.toJson.at? path) :=
    reached_of_encloses hdesc hencl
  have hcounterpart : s.counterpart path = old.toJson.at? path := by
    unfold Situation.counterpart
    rw [hold]
    rfl
  have hkeeps := h.positions path w _ hreached
  rw [hcounterpart] at hkeeps
  -- immutability is asked because there is a prior document
  have hhas : s.hasOld = true := by
    unfold Situation.hasOld
    rw [hold]
    rfl
  exact hkeeps.unchanged hhas hfrozen

/-- A document loses what was set at a position that it does not enclose. -/
theorem unchanged_iff_of_not_encloses {type : DataType} {value : Option Json}
    (h : ¬ Encloses (some doc.toJson) path) :
    Unchanged type (doc.toJson.at? path) value ↔ present value = none := by
  have hnone : doc.toJson.at? path = none := at?_of_not_encloses h
  rw [hnone, unchanged_none_iff]

end Walk

open Walk

/-- An accepted replacement leaves a frozen position unchanged exactly if the new
    document still encloses the position, or nothing was set there. -/
theorem replacement_keeps_frozen_iff {format : Format} {text : String}
    {definitions : Definitions} (hload : Definitions.parse format text = .ok definitions)
    {options : Options} {r : Request} {a : Acceptance}
    (haccepted : (definitions.decide options r).outcome = .ok a)
    (hop : r.operation = .replace) {old : Document} (hold : r.prior = some old)
    {docType : String} {d : Definition}
    (hgov : definitions.Governs docType d r.proposed r.prior) {path : Path} {w : Validator}
    (hdesc : Describes d.properties path w) (hfrozen : Frozen w.rules (old.toJson.at? path)) :
    Unchanged w.dataType (r.proposed.toJson.at? path) (old.toJson.at? path) ↔
      Encloses (some r.proposed.toJson) path ∨ present (old.toJson.at? path) = none := by
  have hstatic := Definitions.parse_static hload
  obtain ⟨haccepts, _⟩ := hgov.accepts_of_accepted hstatic haccepted
  have hfound : d.FindsNothing r.situation := haccepts.content (by rw [hop]; nofun)
  obtain ⟨allowUnknown, _, hconforms⟩ := hfound.conforms (hstatic _ hgov.mem)
  -- where the position is enclosed, the walk has come by; elsewhere nothing is left
  by_cases hencl : Encloses (some r.proposed.toJson) path
  · have hkept := hconforms.unchanged hold hdesc hencl hfrozen
    exact iff_of_true hkept (.inl hencl)
  · rw [unchanged_iff_of_not_encloses hencl]
    exact ⟨.inr, fun h => h.resolve_left hencl⟩

/-- Orders: a list of items, each with an article number that may not change. -/
def orderText : String :=
  (Json.object [("order", .object [
    ("typeFilter", .object [("idPattern", .string "o.*")]),
    ("channels", .string "desk"),
    ("propertyValidators", .object [
      ("items", .object [
        ("type", .string "array"),
        ("arrayElementsValidator", .object [
          ("type", .string "object"),
          ("propertyValidators", .object [
            ("sku", .object [("type", .string "string"), ("immutable", .bool true)])])])])])])]).compact

/-- An order of some articles. -/
def orderOfSkus (skus : List String) : Document :=
  ⟨[("_id", .string "o1"), ("items", .array (skus.map fun sku => .object [("sku", .string sku)]))],
    []⟩

/-- The article number of an item. -/
def skuAt (i : Nat) : Path :=
  [.property "items", .element i, .property "sku"]

/-- The second item is taken off an order. -/
def shorterOrder : Request :=
  { newDoc := some (orderOfSkus ["a"]), oldDoc := some (orderOfSkus ["a", "b"])
    context := { principal := { channels := ["desk"] } } }

/-- The shorter order is accepted, although the article numbers of both items
    are frozen. -/
theorem shorterOrder_accepted :
    ∃ definitions a d, Definitions.parse .json orderText = .ok definitions ∧
      (definitions.decide {} shorterOrder).outcome = .ok a ∧
      definitions.Governs "order" d shorterOrder.proposed shorterOrder.prior ∧
      ∀ i < 2, ∃ w, Describes d.properties (skuAt i) w ∧ w.rules.immutable = .literal true := by
  have hrun : ((Definitions.parse .json orderText).toOption.bind fun definitions =>
      (definitions.decide {} shorterOrder).outcome.toOption.bind fun _ =>
        (definitions.identify shorterOrder.proposed shorterOrder.prior).map fun e =>
          (e.1, (List.range 2).map fun i =>
            (described? e.2.properties (skuAt i)).bind fun w => w.rules.immutable.literal?)) =
      some ("order", [some true, some true]) := by
    rw [orderText, Definitions.parse_compact]
    decide +kernel
  obtain ⟨definitions, hload, hrun⟩ := Option.bind_eq_some_iff.mp hrun
  obtain ⟨a, haccepted, hrun⟩ := Option.bind_eq_some_iff.mp hrun
  obtain ⟨⟨docType, d⟩, hidentify, hrun⟩ := Option.map_eq_some_iff.mp hrun
  obtain ⟨rfl, hfrozen⟩ := Prod.mk.inj hrun
  refine ⟨definitions, a, d, ok_of_toOption hload, ok_of_toOption haccepted,
    Definitions.identify_eq_some_iff.mp hidentify, fun i hi => ?_⟩
  have hmem : (described? d.properties (skuAt i)).bind (·.rules.immutable.literal?) ∈
      [some true, some true] := by
    rw [← hfrozen]
    exact List.mem_map.mpr ⟨i, List.mem_range.mpr hi, rfl⟩
  have hi' : (described? d.properties (skuAt i)).bind (·.rules.immutable.literal?) = some true := by
    simpa using hmem
  obtain ⟨w, hw, himmutable⟩ := Option.bind_eq_some_iff.mp hi'
  exact ⟨w, describes_of_described? hw, Slot.literal?_eq_some.mp himmutable⟩

/-- The article that stays is unchanged, and the one that is taken off is not. -/
theorem replacement_keeps_frozen_iff_order :
    ∃ definitions d, Definitions.parse .json orderText = .ok definitions ∧
      definitions.Governs "order" d shorterOrder.proposed shorterOrder.prior ∧
      ∃ w, Describes d.properties (skuAt 0) w ∧
        Unchanged w.dataType ((orderOfSkus ["a"]).toJson.at? (skuAt 0))
          ((orderOfSkus ["a", "b"]).toJson.at? (skuAt 0)) := by
  obtain ⟨definitions, a, d, hload, haccepted, hgov, hskus⟩ := shorterOrder_accepted
  obtain ⟨w, hdesc, himmutable⟩ := hskus 0 (by decide)
  have hkeeps := replacement_keeps_frozen_iff hload haccepted rfl
    (show shorterOrder.prior = some (orderOfSkus ["a", "b"]) from rfl) hgov hdesc
    (.inl himmutable)
  refine ⟨definitions, d, hload, hgov, w, hdesc, hkeeps.mpr (.inl ?_)⟩
  exact ⟨_, rfl, _, rfl, _, rfl, trivial⟩

/-- An article number is lost that may not change. -/
theorem replacement_loses_frozen_sku :
    ∃ definitions a d w, Definitions.parse .json orderText = .ok definitions ∧
      (definitions.decide {} shorterOrder).outcome = .ok a ∧
      shorterOrder.operation = .replace ∧
      shorterOrder.prior = some (orderOfSkus ["a", "b"]) ∧
      definitions.Governs "order" d shorterOrder.proposed shorterOrder.prior ∧
      Describes d.properties (skuAt 1) w ∧ w.rules.immutable = .literal true ∧
      (orderOfSkus ["a", "b"]).toJson.at? (skuAt 1) = some (.string "b") ∧
      ¬ Unchanged w.dataType ((orderOfSkus ["a"]).toJson.at? (skuAt 1))
        ((orderOfSkus ["a", "b"]).toJson.at? (skuAt 1)) := by
  obtain ⟨definitions, a, d, hload, haccepted, hgov, hskus⟩ := shorterOrder_accepted
  obtain ⟨w, hdesc, himmutable⟩ := hskus 1 (by decide)
  refine ⟨definitions, a, d, w, hload, haccepted, rfl, rfl, hgov, hdesc, himmutable, rfl, ?_⟩
  rintro (⟨_, hold⟩ | ⟨_, _, hnew, _⟩)
  · cases hold
  · cases hnew

end WritePolicy
