import WritePolicy.Proofs.Content
import Mathlib.Data.List.Forall2

/-! # Values that are alike

    Two values are alike if they have the same content and carry each key once, as
    all values do that are read. What the rules of a definition look at is then the
    same for both: the kind, the text, the number of items or entries, the rational
    that a number denotes, and at every step down values that are alike again.

    `Json.Alike.shape` says once what alike values look like. The views of a value
    are then compared shape by shape. The fields of alike objects are the same up to
    their order, so an object goes over into the other in two steps: each value into
    the alike one, then the fields into their new order.
-/

namespace WritePolicy

/-! ## Options that are related -/

section Options

variable {α β γ δ : Type} {R : α → β → Prop} {S : γ → δ → Prop} {v : Option α} {w : Option β}

/-- One is set if the other is. -/
theorem isSome_eq_of_rel (h : Option.Rel R v w) : v.isSome = w.isSome := by
  cases h <;> rfl

/-- What passes a test that related values pass alike is related. -/
theorem filter_rel {p : α → Bool} {q : β → Bool} (h : Option.Rel R v w)
    (hpq : ∀ a b, R a b → p a = q b) : Option.Rel R (v.filter p) (w.filter q) := by
  cases h with
  | none => exact .none
  | @some a b hab =>
    rw [Option.filter_some, Option.filter_some, hpq a b hab]
    split
    · exact .some hab
    · exact .none

theorem map_rel {f : α → γ} {g : β → δ} (h : Option.Rel R v w)
    (hfg : ∀ a b, R a b → S (f a) (g b)) : Option.Rel S (v.map f) (w.map g) := by
  cases h with
  | none => exact .none
  | some hab => exact .some (hfg _ _ hab)

theorem bind_rel {f : α → Option γ} {g : β → Option δ} (h : Option.Rel R v w)
    (hfg : ∀ a b, R a b → Option.Rel S (f a) (g b)) : Option.Rel S (v.bind f) (w.bind g) := by
  cases h with
  | none => exact .none
  | some hab => exact hfg _ _ hab

end Options

/-! ## Alike values -/

namespace Json

/-- The values have the same content, and every key is carried once. -/
structure Alike (x y : Json) : Prop where
  keys : x.UniqueKeys
  content : x.sameContent y = true

/-- Two entries have one key and alike values. -/
def AlikeEntry {κ : Type} (e e' : κ × Json) : Prop :=
  e.1 = e'.1 ∧ e.2.Alike e'.2

/-- What alike values look like. -/
inductive Shape : Json → Json → Prop where
  | scalar {v : Json} : v.kind ≠ .array → v.kind ≠ .object → Shape v v
  | number {a b : Number} : a.toRat = b.toRat → Shape (number a) (number b)
  | array {xs ys : List Json} : List.Forall₂ Alike xs ys → Shape (array xs) (array ys)
  | object {xs between ys : List (String × Json)} :
      List.Forall₂ AlikeEntry xs between → between.Perm ys → Shape (object xs) (object ys)

variable {x y : Json}

/-- Objects of the same content differ by the order of their fields and by values of
    the same content. -/
theorem exists_between {xs ys : List (String × Json)} (h : (object xs).Alike (object ys)) :
    ∃ between, List.Forall₂ AlikeEntry xs between ∧ between.Perm ys := by
  obtain ⟨hnodup, hkeys⟩ := uniqueKeys_object_iff.mp h.keys
  have hperm := keys_perm_of_sameContent hnodup h.content
  obtain ⟨_, hfields⟩ := sameContent_object_iff.mp h.content
  -- the second object in the order of the first
  let find (key : String) : String × Json := (key, (Entries.get? key ys).getD .null)
  have hself : (Entries.keys ys).map find = ys := by
    rw [Entries.keys, List.map_map]
    refine (List.map_congr_left fun e he => ?_).trans (List.map_id _)
    show (e.1, (Entries.get? e.1 ys).getD .null) = e
    rw [Entries.get?_of_mem (hperm.nodup_iff.mp hnodup) he]
    rfl
  -- the fields between have the keys of the first and the values of the second
  refine ⟨(Entries.keys xs).map find, ?_, hself ▸ hperm.map find⟩
  rw [Entries.keys, List.map_map, List.forall₂_map_right_iff, List.forall₂_same]
  intro e he
  obtain ⟨y, hy, hey⟩ := hfields e he
  have hfind : find e.1 = (e.1, y) := by
    show (e.1, (Entries.get? e.1 ys).getD .null) = _
    rw [hy]
    rfl
  show AlikeEntry e (find e.1)
  rw [hfind]
  exact ⟨rfl, hkeys e he, hey⟩

namespace Alike

theorem symm (h : x.Alike y) : y.Alike x :=
  ⟨h.keys.of_sameContent h.content, sameContent_symm h.keys h.content⟩

theorem shape (h : x.Alike y) : Shape x y := by
  cases x with
  | array xs =>
    obtain ⟨ys, rfl⟩ := eq_array_of_sameContent h.content
    obtain ⟨hlength, hitems⟩ := sameContent_array_iff.mp h.content
    have hkeys := uniqueKeys_array_iff.mp h.keys
    refine .array (List.forall₂_iff_get.mpr ⟨hlength, fun i hi hi' => ?_⟩)
    exact ⟨hkeys _ (List.get_mem xs ⟨i, hi⟩), hitems i _ _ (List.getElem?_eq_getElem hi)
      (List.getElem?_eq_getElem hi')⟩
  | object xs =>
    obtain ⟨ys, rfl⟩ := eq_object_of_sameContent h.content
    obtain ⟨between, hbetween, hperm⟩ := exists_between h
    exact .object hbetween hperm
  | null | bool | string =>
    rcases (sameContent_scalar_iff (by nofun) (by nofun)).mp h.content with rfl | ⟨_, _, ha, _, _⟩
    · exact .scalar nofun nofun
    · cases ha
  | number a =>
    rcases (sameContent_scalar_iff (by nofun) (by nofun)).mp h.content with rfl | ⟨a, b, ha, rfl, hab⟩
    · exact .scalar nofun nofun
    · cases ha
      exact .number hab

end Alike

/-- What is alike to an array is an array of alike items. -/
theorem Alike.exists_items {xs : List Json} (h : (array xs).Alike y) :
    ∃ ys, y = array ys ∧ List.Forall₂ Alike xs ys := by
  cases h.shape with
  | scalar harray _ => exact absurd rfl harray
  | array hitems => exact ⟨_, rfl, hitems⟩

/-! ## Views of a value -/

namespace Shape

theorem kind_eq (h : Shape x y) : x.kind = y.kind := by
  cases h <;> rfl

theorem isNull_eq (h : Shape x y) : x.isNull = y.isNull := by
  cases h <;> rfl

theorem asString?_eq (h : Shape x y) : x.asString? = y.asString? := by
  cases h <;> rfl

theorem isTextOf_eq {α ε : Type} (h : Shape x y) (parse : String → Except ε α) :
    x.isTextOf parse = y.isTextOf parse := by
  cases h <;> rfl

theorem isIntegralNumber_eq (h : Shape x y) : x.isIntegralNumber = y.isIntegralNumber := by
  cases h with
  | number hab => exact Number.isIntegral_congr hab
  | _ => rfl

theorem isEmpty_eq (h : Shape x y) : x.isEmpty = y.isEmpty := by
  cases h with
  | array hitems =>
    cases hitems <;> rfl
  | object hfields hperm =>
    show List.isEmpty _ = List.isEmpty _
    rw [← hperm.isEmpty_eq]
    cases hfields <;> rfl
  | _ => rfl

end Shape

/-! ## Steps down -/

/-- What alike objects have under a key is alike. -/
theorem Alike.get?_rel {xs ys : Entries Json} (h : (object xs).Alike (object ys)) (key : String) :
    Option.Rel Alike (Entries.get? key xs) (Entries.get? key ys) := by
  obtain ⟨hnodup, hkeys⟩ := uniqueKeys_object_iff.mp h.keys
  obtain ⟨_, hfields⟩ := sameContent_object_iff.mp h.content
  cases hx : Entries.get? key xs with
  | some x =>
    have hmem := Entries.mem_of_get? hx
    obtain ⟨y, hy, hxy⟩ := hfields _ hmem
    rw [show Entries.get? key ys = some y from hy]
    exact .some ⟨hkeys _ hmem, hxy⟩
  | none =>
    cases hy : Entries.get? key ys with
    | none => exact .none
    | some y =>
      -- a key of the second object is one of the first
      obtain ⟨x, hmem, _⟩ := exists_of_sameContent hnodup h.content (Entries.mem_of_get? hy)
      rw [Entries.get?_of_mem hnodup hmem] at hx
      cases hx

/-- The fields of alike values are alike. -/
theorem Alike.field?_rel (h : x.Alike y) (key : String) :
    Option.Rel Alike (x.field? key) (y.field? key) := by
  cases h.shape with
  | object _ _ => exact h.get?_rel key
  | scalar _ hobject =>
    cases x with
    | object _ => exact absurd rfl hobject
    | _ => exact .none
  | _ => exact .none

/-- The items of alike values are alike. -/
theorem Alike.item?_rel (h : x.Alike y) (i : Nat) :
    Option.Rel Alike (x.item? i) (y.item? i) := by
  cases h.shape with
  | @array xs ys hitems =>
    show Option.Rel Alike xs[i]? ys[i]?
    -- an index is within both arrays or within neither
    have hlength := hitems.length_eq
    by_cases hi : i < xs.length
    · rw [List.getElem?_eq_getElem hi, List.getElem?_eq_getElem (hlength ▸ hi)]
      exact .some (hitems.get hi (hlength ▸ hi))
    · rw [List.getElem?_eq_none (Nat.le_of_not_lt hi),
        List.getElem?_eq_none (hlength ▸ Nat.le_of_not_lt hi)]
      exact .none
  | scalar harray _ =>
    cases x with
    | array _ => exact absurd rfl harray
    | _ => exact .none
  | _ => exact .none

/-- What is found under a key in entries that are alike one by one is alike. -/
theorem get?_rel_of_forall₂ {xs ys : Entries Json} (h : List.Forall₂ AlikeEntry xs ys)
    (key : String) : Option.Rel Alike (Entries.get? key xs) (Entries.get? key ys) := by
  induction h with
  | nil => exact .none
  | @cons e e' _ _ he _ ih =>
    obtain ⟨hkey, hvalue⟩ := he
    by_cases hfound : e.1 = key
    · simp only [Entries.get?, hfound, ← hkey, if_true]
      exact .some hvalue
    · simp only [Entries.get?, hfound, ← hkey, if_false]
      exact ih

/-- Alike items are alike under the same keys. -/
theorem zip_rel {κ : Type} {xs ys : List Json} (h : List.Forall₂ Alike xs ys) (keys : List κ) :
    List.Forall₂ AlikeEntry (keys.zip xs) (keys.zip ys) := by
  induction h generalizing keys with
  | nil => cases keys <;> exact .nil
  | cons hab _ ih =>
    cases keys with
    | nil => exact .nil
    | cons key rest => exact .cons ⟨rfl, hab⟩ (ih rest)

end Json

/-! ## Types -/

/-- Magnitudes are the same if they stand in one order to all others. -/
inductive Magnitude.Same : Magnitude → Magnitude → Prop where
  | refl (m : Magnitude) : Same m m
  | number {a b : Number} : a.toRat = b.toRat → Same (.number a) (.number b)

namespace Magnitude

theorem Same.compare?_eq {m m' : Magnitude} (h : Same m m') (n : Magnitude) :
    m.compare? n = m'.compare? n := by
  cases h with
  | refl => rfl
  | number hab =>
    cases n with
    | number c => exact congrArg some (Number.compare_congr hab rfl)
    | _ => rfl

/-- Alike values have the same magnitude. -/
theorem of?_rel (t : OrdinalType) {x y : Json} (h : x.Alike y) :
    Option.Rel Same (of? t x) (of? t y) := by
  have hrefl (m : Option Magnitude) : Option.Rel Same m m := by
    cases m with
    | none => exact .none
    | some m => exact .some (.refl m)
  have hnumber : Option.Rel Same (x.asNumber?.map number) (y.asNumber?.map number) := by
    cases h.shape with
    | scalar _ _ => exact hrefl _
    | number hab => exact .some (.number hab)
    | _ => exact .none
  cases t with
  | integer | float => exact hnumber
  | date =>
    rw [of?_congr_temporal (.inl rfl) h.content]
    exact hrefl _
  | dateTime =>
    rw [of?_congr_temporal (.inr (.inl rfl)) h.content]
    exact hrefl _
  | timeZone =>
    rw [of?_congr_temporal (.inr (.inr rfl)) h.content]
    exact hrefl _

end Magnitude

namespace DataType

variable {x x' y y' : Json}

/-- Alike values are of the same types. -/
theorem admits_eq (type : DataType) (h : x.Alike x') : type.admits x = type.admits x' := by
  unfold admits
  rw [h.shape.kind_eq, h.shape.isIntegralNumber_eq, h.shape.isTextOf_eq, h.shape.isTextOf_eq,
    h.shape.isTextOf_eq]

/-- Every type takes values of the same content for the same value. -/
theorem sameValue_of_sameContent (type : DataType) (h : x.sameContent y = true) :
    type.sameValue x y = true := by
  rcases type.temporal_or_content with ⟨t, rfl, ht⟩ | hcontent
  · exact (sameValue_temporal_iff ht).mpr (.inl h)
  · rw [hcontent]
    exact h

/-- Alike values are the same as the same values. -/
theorem sameValue_congr_left (type : DataType) (h : x.Alike x') (y : Json) :
    type.sameValue x y = type.sameValue x' y := by
  -- alike values are the same value, so transitivity carries one over to the other
  have hto := type.sameValue_of_sameContent h.content
  have hback := type.sameValue_of_sameContent h.symm.content
  rw [Bool.eq_iff_iff]
  exact ⟨type.sameValue_trans hback, type.sameValue_trans hto⟩

theorem sameValue_congr_right (type : DataType) (x : Json) (h : y.Alike y') :
    type.sameValue x y = type.sameValue x y' := by
  have hto := type.sameValue_of_sameContent h.content
  have hback := type.sameValue_of_sameContent h.symm.content
  rw [Bool.eq_iff_iff]
  exact ⟨fun hxy => type.sameValue_trans hxy hto, fun hxy => type.sameValue_trans hxy hback⟩

end DataType

end WritePolicy
