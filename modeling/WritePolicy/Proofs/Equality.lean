import WritePolicy.Proofs.Alike

/-! # Equality is an equivalence

    Values are compared in two ways: by their content, and by what a data type makes of
    them. Both are equivalences on values in which every object carries each key once, as
    in all values that are read, and each type takes values of the same content for the
    same value (`equality_laws`).

    Neither is plain by its definition. The content of an object is looked up in one
    direction only, so that symmetry rests on counting keys (`Json.sameContent_symm`).
    A temporal type changes over from magnitudes to content as soon as one of two values
    has no magnitude. A chain of equal values may pass through both; it holds together
    because values of the same content have the same magnitude or none
    (`Magnitude.of?_congr_temporal`).
-/

namespace WritePolicy

/-- A value in which every object carries each key once, at any depth. -/
abbrev Json.Keyed :=
  { v : Json // v.UniqueKeys }

namespace DataType

variable {x y : Json}

/-- A value is the same as itself, as every type understands it. -/
theorem sameValue_refl (type : DataType) (hx : x.UniqueKeys) : type.sameValue x x = true := by
  apply sameValue_of_sameContent
  exact Json.sameContent_refl hx

/-- Values are compared symmetrically, as every type understands them. -/
theorem sameValue_symm (type : DataType) (hx : x.UniqueKeys) (h : type.sameValue x y = true) :
    type.sameValue y x = true := by
  rcases type.temporal_or_content with ⟨t, rfl, ht⟩ | hcontent
  · rw [sameValue_temporal_iff ht] at h ⊢
    rcases h with hsame | ⟨m, hm, hn⟩
    · left
      exact Json.sameContent_symm hx hsame
    · right
      exact ⟨m, hn, hm⟩
  · rw [hcontent] at h ⊢
    exact Json.sameContent_symm hx h

end DataType

/-- The laws of both equalities of values. -/
structure EqualityLaws : Prop where
  /-- To have the same content is an equivalence. -/
  content : Equivalence fun x y : Json.Keyed => x.1.sameContent y.1 = true
  /-- To be the same value of a type is an equivalence, also where some values are of the
      type and others are not. -/
  typed (type : DataType) : Equivalence fun x y : Json.Keyed => type.sameValue x.1 y.1 = true
  /-- No type tells values of the same content apart. -/
  coarser (type : DataType) (x y : Json.Keyed) :
    x.1.sameContent y.1 = true → type.sameValue x.1 y.1 = true

/-- **Equality is an equivalence**, by content and by every type. -/
theorem equality_laws : EqualityLaws where
  content := by
    constructor
    · intro x
      exact Json.sameContent_refl x.2
    · intro x y hxy
      exact Json.sameContent_symm x.2 hxy
    · intro x y z hxy hyz
      exact Json.sameContent_trans hxy hyz
  typed type := by
    constructor
    · intro x
      exact type.sameValue_refl x.2
    · intro x y hxy
      exact type.sameValue_symm x.2 hxy
    · intro x y z hxy hyz
      exact type.sameValue_trans hxy hyz
  coarser type x y hxy := type.sameValue_of_sameContent hxy

/-- A meeting at an instant, in the room of a number. -/
def meetingWith (number : Number) : Json :=
  .object [("at", .string "2016-07-19T19:24:38.920-0700"), ("room", .array [.number number])]

/-- The meeting in room 4, with the fields in the other order. -/
def meetingReordered : Json :=
  .object [("room", .array [.number (.int 4)]), ("at", .string "2016-07-19T19:24:38.920-0700")]

/-- A number that is written as a fraction and fields in another order make no
    difference, to content or to a type, and an instant is the same at any offset. -/
theorem equality_laws_meeting :
    (meetingWith (.floatOf 4)).sameContent meetingReordered = true ∧
      DataType.object.sameValue meetingReordered (meetingWith (.floatOf 4)) = true ∧
      (DataType.ordinal .dateTime).sameValue (.string "2016-07-20T02:24:38.920Z")
        (.string "2016-07-19T19:24:38.920-0700") = true := by
  have hkeyed (number : Number) : (meetingWith number).UniqueKeys := by
    simp [meetingWith, Json.UniqueKeys, Json.UniqueKeysFields, Json.UniqueKeysItems]
  have hreordered : meetingReordered.UniqueKeys := by
    simp [meetingReordered, Json.UniqueKeys, Json.UniqueKeysFields, Json.UniqueKeysItems]
  have hsame : (meetingWith (.floatOf 4)).sameContent meetingReordered = true := by
    decide +kernel
  have hoffsets : (DataType.ordinal .dateTime).sameValue
      (.string "2016-07-19T19:24:38.920-0700") (.string "2016-07-20T02:24:38.920Z") = true := by
    decide +kernel
  refine ⟨hsame, ?_, ?_⟩
  · exact equality_laws.coarser .object ⟨_, hreordered⟩ ⟨_, hkeyed _⟩
      (equality_laws.content.symm (x := ⟨_, hkeyed _⟩) (y := ⟨_, hreordered⟩) hsame)
  · exact (equality_laws.typed (.ordinal .dateTime)).symm (x := ⟨.string _, trivial⟩)
      (y := ⟨.string _, trivial⟩) hoffsets

end WritePolicy
