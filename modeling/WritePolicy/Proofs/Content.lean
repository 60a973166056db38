import WritePolicy.Proofs.NumberOrder
import WritePolicy.Proofs.Position
import Mathlib.Data.List.Nodup
import Mathlib.Data.List.Perm.Subperm

/-! # Values of the same content

    Two JSON values have the same content if they differ at most in the order of
    the fields of their objects and in the way their numbers are written. The
    check is one-sided: it looks up each field of the first object in the second
    and compares the numbers of fields. Where every object carries each key once,
    as in all values that are read, that makes an equivalence relation: the keys
    of the first object are as many as those of the second, so they are all.

    Types may tell values apart by less than their content. For temporal types two
    values are the same if they have the same content or one magnitude
    (`sameValue_temporal_iff`); transitivity of both notions is what carries
    equality along a chain of revisions.
-/

namespace WritePolicy

/-! ## Induction over values -/

namespace Json

/-- What holds of scalars, and of containers if it holds of what they contain,
    holds of every value. -/
theorem induction {P : Json → Prop} (scalar : ∀ v, v.kind ≠ .array → v.kind ≠ .object → P v)
    (array : ∀ items, (∀ x ∈ items, P x) → P (array items))
    (object : ∀ fields, (∀ e ∈ fields, P e.2) → P (object fields)) (v : Json) : P v := by
  have hscalar {v : Json} (h : v.kind ≠ .array ∧ v.kind ≠ .object) : P v := scalar v h.1 h.2
  -- lists of items and of fields are taken along as values of their own
  refine @Json.rec P (fun items => ∀ x ∈ items, P x) (fun fields => ∀ e ∈ fields, P e.2)
    (fun e => P e.2) (hscalar ⟨nofun, nofun⟩) (fun _ => hscalar ⟨nofun, nofun⟩)
    (fun _ => hscalar ⟨nofun, nofun⟩) (fun _ => hscalar ⟨nofun, nofun⟩) array object
    nofun ?_ nofun ?_ (fun _ _ h => h) v
  · exact fun _ _ hhead hrest => List.forall_mem_cons.mpr ⟨hhead, hrest⟩
  · exact fun _ _ hhead hrest => List.forall_mem_cons.mpr ⟨hhead, hrest⟩

/-- The text of a value is that of a string. -/
theorem asString?_eq_some_iff {v : Json} {text : String} :
    v.asString? = some text ↔ v = string text := by
  cases v <;> simp [asString?]

/-! ## Content of containers -/

/-- Scalars of one kind are compared by themselves. -/
theorem sameContent_bool (a b : Bool) : (bool a).sameContent (bool b) = (a == b) :=
  rfl

theorem sameContent_number (a b : Number) :
    (number a).sameContent (number b) = (a.compare b == .eq) :=
  rfl

theorem sameContent_string (a b : String) : (string a).sameContent (string b) = (a == b) :=
  rfl

/-- Arrays are compared by their items, in order. -/
theorem sameContent_array (xs ys : List Json) :
    (array xs).sameContent (array ys) = sameItems xs ys :=
  rfl

theorem sameItems_cons (x y : Json) (xs ys : List Json) :
    sameItems (x :: xs) (y :: ys) = (x.sameContent y && sameItems xs ys) :=
  rfl

/-- Objects are compared by their fields, by name. -/
theorem sameContent_object (xs ys : List (String × Json)) :
    (object xs).sameContent (object ys) = (xs.length == ys.length && fieldsWithin xs ys) :=
  rfl

theorem fieldsWithin_cons (e : String × Json) (xs ys : List (String × Json)) :
    fieldsWithin (e :: xs) ys =
      ((match Entries.get? e.1 ys with
        | some y => e.2.sameContent y
        | none => false) && fieldsWithin xs ys) :=
  rfl

/-- Items have the same content if they are as many and have it one by one. -/
theorem sameItems_iff {xs ys : List Json} :
    sameItems xs ys = true ↔ xs.length = ys.length ∧
      ∀ (i : Nat) (x y : Json), xs[i]? = some x → ys[i]? = some y → x.sameContent y = true := by
  induction xs generalizing ys with
  | nil =>
    cases ys with
    | nil => exact iff_of_true rfl ⟨rfl, nofun⟩
    | cons y ys => exact iff_of_false nofun fun h => nomatch h.1
  | cons x xs ih =>
    cases ys with
    | nil => exact iff_of_false nofun fun h => nomatch h.1
    | cons y ys =>
      rw [sameItems_cons, Bool.and_eq_true, ih, List.length_cons, List.length_cons, Nat.add_right_cancel_iff]
      constructor
      · rintro ⟨hhead, hlength, hrest⟩
        refine ⟨hlength, fun i x' y' hx hy => ?_⟩
        cases i with
        | zero =>
          cases hx
          cases hy
          exact hhead
        | succ i => exact hrest i x' y' hx hy
      · rintro ⟨hlength, hall⟩
        exact ⟨hall 0 x y rfl rfl, hlength, fun i => hall (i + 1)⟩

/-- Fields are within an object if it has each of them with the same content. -/
theorem fieldsWithin_iff {xs ys : List (String × Json)} :
    fieldsWithin xs ys = true ↔
      ∀ e ∈ xs, ∃ y, Entries.get? e.1 ys = some y ∧ e.2.sameContent y = true := by
  induction xs with
  | nil => exact iff_of_true rfl nofun
  | cons e rest ih =>
    rw [fieldsWithin_cons, Bool.and_eq_true, ih, List.forall_mem_cons]
    refine and_congr ?_ Iff.rfl
    cases Entries.get? e.1 ys <;> simp

theorem sameContent_array_iff {xs ys : List Json} :
    (array xs).sameContent (array ys) = true ↔ xs.length = ys.length ∧
      ∀ (i : Nat) (x y : Json), xs[i]? = some x → ys[i]? = some y → x.sameContent y = true := by
  rw [sameContent_array, sameItems_iff]

theorem sameContent_object_iff {xs ys : List (String × Json)} :
    (object xs).sameContent (object ys) = true ↔ xs.length = ys.length ∧
      ∀ e ∈ xs, ∃ y, Entries.get? e.1 ys = some y ∧ e.2.sameContent y = true := by
  rw [sameContent_object, Bool.and_eq_true, beq_iff_eq, fieldsWithin_iff]

/-- Lists of one length have items at the same positions. -/
theorem exists_getElem? {xs ys : List Json} (h : xs.length = ys.length) {i : Nat} {x : Json}
    (hx : xs[i]? = some x) : ∃ y, ys[i]? = some y := by
  obtain ⟨hi, -⟩ := List.getElem?_eq_some_iff.mp hx
  rw [h] at hi
  exact ⟨_, List.getElem?_eq_getElem hi⟩

/-! ## What has the same content -/

variable {x y z : Json}

/-- Values of the same content are of one kind. -/
theorem sameContent_kind (h : x.sameContent y = true) : x.kind = y.kind := by
  cases x <;> cases y <;> first | rfl | cases h

theorem eq_array_of_sameContent {xs : List Json} (h : (array xs).sameContent y = true) :
    ∃ ys, y = array ys := by
  cases y with
  | array ys => exact ⟨ys, rfl⟩
  | _ => cases h

theorem eq_object_of_sameContent {xs : List (String × Json)}
    (h : (object xs).sameContent y = true) : ∃ ys, y = object ys := by
  cases y with
  | object ys => exact ⟨ys, rfl⟩
  | _ => cases h

/-- A scalar has the content of the values that are equal to it, as numbers or as
    they stand. -/
theorem sameContent_scalar_iff (harray : x.kind ≠ .array) (hobject : x.kind ≠ .object) :
    x.sameContent y = true ↔ x = y ∨
      ∃ a b : Number, x = .number a ∧ y = .number b ∧ a.toRat = b.toRat := by
  by_cases hkind : x.kind = y.kind
  · cases x with
    | array xs => exact absurd rfl harray
    | object xs => exact absurd rfl hobject
    | number a =>
      -- numbers are compared by what they denote
      cases y with
      | number b =>
        rw [sameContent_number, beq_iff_eq, Number.compare_eq_iff]
        constructor
        · intro h
          exact .inr ⟨a, b, rfl, rfl, h⟩
        · rintro (h | ⟨_, _, ha, hb, h⟩)
          · cases h
            rfl
          · cases ha
            cases hb
            exact h
      | _ => cases hkind
    | null =>
      cases y with
      | null => exact iff_of_true rfl (.inl rfl)
      | _ => cases hkind
    | bool a =>
      cases y with
      | bool b => simp [sameContent_bool]
      | _ => cases hkind
    | string a =>
      cases y with
      | string b => simp [sameContent_string]
      | _ => cases hkind
  · -- values of two kinds are neither equal nor both numbers
    refine iff_of_false (fun h => hkind (sameContent_kind h)) ?_
    rintro (rfl | ⟨a, b, rfl, rfl, -⟩)
    · exact hkind rfl
    · exact hkind rfl

/-- Content is compared transitively. -/
theorem sameContent_trans (hxy : x.sameContent y = true) (hyz : y.sameContent z = true) :
    x.sameContent z = true := by
  induction x using induction generalizing y z with
  | scalar x harray hobject =>
    have hy := sameContent_kind hxy
    rw [sameContent_scalar_iff harray hobject] at hxy ⊢
    rw [sameContent_scalar_iff (hy ▸ harray) (hy ▸ hobject)] at hyz
    rcases hxy with rfl | ⟨a, b, rfl, rfl, hab⟩
    · exact hyz
    · rcases hyz with rfl | ⟨b', c, hb, rfl, hbc⟩
      · exact .inr ⟨a, b, rfl, rfl, hab⟩
      · cases hb
        exact .inr ⟨a, c, rfl, rfl, hab.trans hbc⟩
  | array xs ih =>
    obtain ⟨ys, rfl⟩ := eq_array_of_sameContent hxy
    obtain ⟨zs, rfl⟩ := eq_array_of_sameContent hyz
    obtain ⟨hlength, hitems⟩ := sameContent_array_iff.mp hxy
    obtain ⟨hlength', hitems'⟩ := sameContent_array_iff.mp hyz
    refine sameContent_array_iff.mpr ⟨hlength.trans hlength', fun i x z hx hz => ?_⟩
    -- the item between them is there because the lengths are the same
    obtain ⟨y, hy⟩ := exists_getElem? hlength hx
    exact ih x (List.mem_of_getElem? hx) (hitems i x y hx hy) (hitems' i y z hy hz)
  | object xs ih =>
    obtain ⟨ys, rfl⟩ := eq_object_of_sameContent hxy
    obtain ⟨zs, rfl⟩ := eq_object_of_sameContent hyz
    obtain ⟨hlength, hfields⟩ := sameContent_object_iff.mp hxy
    obtain ⟨hlength', hfields'⟩ := sameContent_object_iff.mp hyz
    refine sameContent_object_iff.mpr ⟨hlength.trans hlength', fun e he => ?_⟩
    obtain ⟨y, hy, hey⟩ := hfields e he
    obtain ⟨z, hz, hyz⟩ := hfields' (e.1, y) (Entries.mem_of_get? hy)
    exact ⟨z, hz, ih e he hey hyz⟩

/-! ## Unique keys -/

theorem uniqueKeys_scalar (harray : x.kind ≠ .array) (hobject : x.kind ≠ .object) :
    x.UniqueKeys := by
  cases x with
  | array xs => exact absurd rfl harray
  | object xs => exact absurd rfl hobject
  | _ => exact trivial

/-- Objects of the same content have the same keys: those of the first are distinct
    and as many as those of the second. -/
theorem keys_perm_of_sameContent {xs ys : List (String × Json)}
    (hnodup : (Entries.keys xs).Nodup) (h : (object xs).sameContent (object ys) = true) :
    (Entries.keys xs).Perm (Entries.keys ys) := by
  obtain ⟨hlength, hfields⟩ := sameContent_object_iff.mp h
  have hsubset : Entries.keys xs ⊆ Entries.keys ys := by
    intro key hkey
    obtain ⟨e, he, rfl⟩ := List.mem_map.mp hkey
    obtain ⟨y, hy, _⟩ := hfields e he
    exact List.mem_map.mpr ⟨_, Entries.mem_of_get? hy, rfl⟩
  -- distinct keys among as many are all of them
  refine (hnodup.subperm hsubset).perm_of_length_le ?_
  simp only [Entries.keys, List.length_map, hlength, le_refl]

/-- Each field of the second object is one of the first, with the same content. -/
theorem exists_of_sameContent {xs ys : List (String × Json)}
    (hnodup : (Entries.keys xs).Nodup) (h : (object xs).sameContent (object ys) = true)
    {e : String × Json} (he : e ∈ ys) :
    ∃ x, (e.1, x) ∈ xs ∧ x.sameContent e.2 = true := by
  have hkeys := keys_perm_of_sameContent hnodup h
  obtain ⟨_, hfields⟩ := sameContent_object_iff.mp h
  have hkey : e.1 ∈ Entries.keys xs := hkeys.mem_iff.mpr (List.mem_map.mpr ⟨e, he, rfl⟩)
  obtain ⟨⟨key, x⟩, hx, rfl⟩ := List.mem_map.mp hkey
  obtain ⟨y, hy, hxy⟩ := hfields _ hx
  -- what is found under the key is the field itself
  rw [Entries.get?_of_mem (hkeys.nodup_iff.mp hnodup) he] at hy
  cases hy
  exact ⟨x, hx, hxy⟩

/-- A value has unique keys if one of the same content does. -/
theorem UniqueKeys.of_sameContent (hx : x.UniqueKeys) (h : x.sameContent y = true) :
    y.UniqueKeys := by
  induction x using induction generalizing y with
  | scalar x harray hobject =>
    have hkind := sameContent_kind h
    exact uniqueKeys_scalar (hkind ▸ harray) (hkind ▸ hobject)
  | array xs ih =>
    obtain ⟨ys, rfl⟩ := eq_array_of_sameContent h
    obtain ⟨hlength, hitems⟩ := sameContent_array_iff.mp h
    rw [uniqueKeys_array_iff] at hx ⊢
    intro y hy
    obtain ⟨i, hi⟩ := List.mem_iff_getElem?.mp hy
    obtain ⟨x, hxi⟩ := exists_getElem? hlength.symm hi
    have hmem := List.mem_of_getElem? hxi
    exact ih x hmem (hx x hmem) (hitems i x y hxi hi)
  | object xs ih =>
    obtain ⟨ys, rfl⟩ := eq_object_of_sameContent h
    rw [uniqueKeys_object_iff] at hx ⊢
    obtain ⟨hnodup, hx⟩ := hx
    refine ⟨(keys_perm_of_sameContent hnodup h).nodup_iff.mp hnodup, fun e he => ?_⟩
    obtain ⟨x, hmem, hxe⟩ := exists_of_sameContent hnodup h he
    exact ih _ hmem (hx _ hmem) hxe

/-- Where keys are unique, content is compared symmetrically. -/
theorem sameContent_symm (hx : x.UniqueKeys) (h : x.sameContent y = true) :
    y.sameContent x = true := by
  induction x using induction generalizing y with
  | scalar x harray hobject =>
    have hkind := sameContent_kind h
    rw [sameContent_scalar_iff harray hobject] at h
    rw [sameContent_scalar_iff (hkind ▸ harray) (hkind ▸ hobject)]
    rcases h with rfl | ⟨a, b, rfl, rfl, hab⟩
    · exact .inl rfl
    · exact .inr ⟨b, a, rfl, rfl, hab.symm⟩
  | array xs ih =>
    obtain ⟨ys, rfl⟩ := eq_array_of_sameContent h
    obtain ⟨hlength, hitems⟩ := sameContent_array_iff.mp h
    rw [uniqueKeys_array_iff] at hx
    refine sameContent_array_iff.mpr ⟨hlength.symm, fun i y x hy hxi => ?_⟩
    have hmem := List.mem_of_getElem? hxi
    exact ih x hmem (hx x hmem) (hitems i x y hxi hy)
  | object xs ih =>
    obtain ⟨ys, rfl⟩ := eq_object_of_sameContent h
    obtain ⟨hlength, _⟩ := sameContent_object_iff.mp h
    rw [uniqueKeys_object_iff] at hx
    obtain ⟨hnodup, hx⟩ := hx
    refine sameContent_object_iff.mpr ⟨hlength.symm, fun e he => ?_⟩
    obtain ⟨x, hmem, hxe⟩ := exists_of_sameContent hnodup h he
    exact ⟨x, Entries.get?_of_mem hnodup hmem, ih _ hmem (hx _ hmem) hxe⟩

/-- Where keys are unique, a value has its own content. -/
theorem sameContent_refl (hx : x.UniqueKeys) : x.sameContent x = true := by
  induction x using induction with
  | scalar x harray hobject => exact (sameContent_scalar_iff harray hobject).mpr (.inl rfl)
  | array xs ih =>
    rw [uniqueKeys_array_iff] at hx
    refine sameContent_array_iff.mpr ⟨rfl, fun i x y hxi hyi => ?_⟩
    rw [hxi] at hyi
    cases hyi
    have hmem := List.mem_of_getElem? hxi
    exact ih x hmem (hx x hmem)
  | object xs ih =>
    rw [uniqueKeys_object_iff] at hx
    exact sameContent_object_iff.mpr ⟨rfl, fun e he =>
      ⟨e.2, Entries.get?_of_mem hx.1 he, ih e he (hx.2 e he)⟩⟩

end Json

/-! ## Equality by type -/

/-- The types whose values are texts that stand for a time or an offset. -/
def OrdinalType.IsTemporal (t : OrdinalType) : Prop :=
  t = .date ∨ t = .dateTime ∨ t = .timeZone

/-- The magnitude of a text is that of every value of the same content. -/
theorem Magnitude.ofText?_congr {α : Type} (parse : String → Except TemporalError α)
    (measure : α → Magnitude) {x y : Json} (h : x.sameContent y = true) :
    ofText? parse measure x = ofText? parse measure y := by
  have hkind := Json.sameContent_kind h
  cases x with
  | string text =>
    rcases (Json.sameContent_scalar_iff (x := .string text) nofun nofun).mp h with rfl | ⟨_, _, hx, _⟩
    · rfl
    · cases hx
  | _ => cases y <;> first | rfl | cases hkind

theorem Magnitude.of?_congr_temporal {t : OrdinalType} (ht : t.IsTemporal) {x y : Json}
    (h : x.sameContent y = true) : of? t x = of? t y := by
  rcases ht with rfl | rfl | rfl
  · exact ofText?_congr _ _ h
  · simp only [of?, ofText?_congr _ _ h]
  · exact ofText?_congr _ _ h

namespace DataType

variable {x y z : Json}

/-- Two values of a temporal type are the same if they have the same content or
    one magnitude, whether or not their texts are readable. -/
theorem sameValue_temporal_iff {t : OrdinalType} (ht : t.IsTemporal) :
    (ordinal t).sameValue x y = true ↔ x.sameContent y = true ∨
      ∃ m, Magnitude.of? t x = some m ∧ Magnitude.of? t y = some m := by
  -- with two magnitudes these decide, otherwise the content does
  have hmagnitude {m n : Magnitude} (hx : Magnitude.of? t x = some m)
      (hy : Magnitude.of? t y = some n) : (ordinal t).sameValue x y = decide (m = n) := by
    rcases ht with rfl | rfl | rfl <;> simp only [sameValue, ordinal?, Option.bind_some, hx, hy]
  have hcontent (h : Magnitude.of? t x = none ∨ Magnitude.of? t y = none) :
      (ordinal t).sameValue x y = x.sameContent y := by
    rcases ht with rfl | rfl | rfl <;> rcases h with h | h <;>
      simp only [sameValue, ordinal?, Option.bind_some, h]
    -- without a magnitude of the second value, that of the first is not asked
    all_goals cases Magnitude.of? _ x <;> rfl
  cases hx : Magnitude.of? t x with
  | none =>
    rw [hcontent (.inl hx)]
    simp
  | some m =>
    cases hy : Magnitude.of? t y with
    | none =>
      rw [hcontent (.inr hy)]
      simp
    | some n =>
      rw [hmagnitude hx hy]
      simp only [decide_eq_true_eq, Option.some.injEq, exists_eq_left']
      constructor
      · exact fun h => .inr h.symm
      · rintro (h | h)
        -- texts of the same content are read alike
        · rw [Magnitude.of?_congr_temporal ht h, hy] at hx
          exact (Option.some.inj hx).symm
        · exact h.symm

/-- All other types tell values apart by their content. -/
theorem sameValue_of_not_temporal {type : DataType}
    (h : ∀ t, type = ordinal t → ¬ t.IsTemporal) (x y : Json) :
    type.sameValue x y = x.sameContent y := by
  cases type with
  | ordinal t =>
    cases t with
    | date => exact absurd (.inl rfl) (h _ rfl)
    | dateTime => exact absurd (.inr (.inl rfl)) (h _ rfl)
    | timeZone => exact absurd (.inr (.inr rfl)) (h _ rfl)
    | integer => rfl
    | float => rfl
  | _ => rfl

/-- A type is temporal, or tells values apart by their content. -/
theorem temporal_or_content (type : DataType) :
    (∃ t, type = ordinal t ∧ t.IsTemporal) ∨
      ∀ x y, type.sameValue x y = x.sameContent y := by
  by_cases h : ∃ t, type = ordinal t ∧ t.IsTemporal
  · exact .inl h
  · exact .inr (sameValue_of_not_temporal fun t ht htemporal => h ⟨t, ht, htemporal⟩)

/-- Values are compared transitively, as every type understands them. -/
theorem sameValue_trans (type : DataType) (hxy : type.sameValue x y = true)
    (hyz : type.sameValue y z = true) : type.sameValue x z = true := by
  rcases type.temporal_or_content with ⟨t, rfl, ht⟩ | hcontent
  · rw [sameValue_temporal_iff ht] at hxy hyz ⊢
    rcases hxy with hxy | ⟨m, hx, hy⟩ <;> rcases hyz with hyz | ⟨n, hy', hz⟩
    · exact .inl (Json.sameContent_trans hxy hyz)
    · exact .inr ⟨n, (Magnitude.of?_congr_temporal ht hxy).trans hy', hz⟩
    · exact .inr ⟨m, hx, (Magnitude.of?_congr_temporal ht hyz).symm.trans hy⟩
    · rw [hy] at hy'
      cases hy'
      exact .inr ⟨m, hx, hz⟩
  · rw [hcontent] at hxy hyz ⊢
    exact Json.sameContent_trans hxy hyz

end DataType

end WritePolicy
