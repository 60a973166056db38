import Mathlib.Data.List.Induction
import WritePolicy.Proofs.DeclarationOrder

/-! # Entries are ordered maps

    Entries that are inserted one after the other form a map that remembers an order.
    Two views say all about such a map: the list of its keys, and what is found under
    each key. An insertion changes each view by one simple rule (`keys_insert`,
    `get?_insert`), so a whole sequence of insertions leaves the first occurrences of
    its keys, in order, and under each key the value that was inserted last.

    Where a key stands is decided by its first insertion and what it holds by its last.
    So the order of two insertions matters only where both bring in a new key. It follows
    that inserting the entries of a map is the same as inserting, one by one, what the
    map was made of (`insertAll_insertAll`): merging maps is associative.
-/

namespace WritePolicy

/-! ## First occurrences -/

section

variable {α : Type} [BEq α] [LawfulBEq α]

/-- A further member is kept if it did not occur before. -/
theorem eraseDups_concat (xs : List α) (a : α) :
    (xs ++ [a]).eraseDups = xs.eraseDups ++ if xs.contains a then [] else [a] := by
  rw [List.eraseDups_append]
  by_cases h : a ∈ xs
  · simp [List.removeAll, h]
  · simp [List.removeAll, h, List.eraseDups_cons]

/-- First occurrences are distinct. -/
theorem nodup_eraseDups (xs : List α) : xs.eraseDups.Nodup := by
  induction xs using List.reverseRecOn with
  | nil => simp
  | append_singleton xs a ih =>
    rw [eraseDups_concat]
    by_cases h : a ∈ xs
    · simpa [h] using ih
    · have hnew : a ∉ xs.eraseDups := fun hmem => h (List.mem_eraseDups.mp hmem)
      simp [h, List.nodup_append, ih]
      intro b hb heq
      exact h (heq ▸ hb)

end

namespace Entries

variable {α : Type} {key other : String} {value value' : α} {entries more : Entries α}

/-! ## One insertion -/

/-- A known key stays where it stands, and a new one goes to the end. -/
theorem keys_insert : keys (insert key value entries) =
    keys entries ++ if (keys entries).contains key then [] else [key] := by
  induction entries with
  | nil => rfl
  | cons e rest ih =>
    have hkeys : keys (e :: rest) = e.1 :: keys rest := rfl
    unfold insert
    by_cases h : e.1 = key
    · simp [h, keys]
    · have hne : ¬ key = e.1 := fun heq => h heq.symm
      rw [if_neg h, hkeys]
      show e.1 :: keys (insert key value rest) = _
      rw [ih]
      simp [hne]

/-- The inserted value is found under its key, and elsewhere what was found before. -/
theorem get?_insert : get? other (insert key value entries) =
    if key = other then some value else get? other entries := by
  induction entries with
  | nil => rfl
  | cons e rest ih =>
    unfold insert
    by_cases h : e.1 = key
    · rw [if_pos h]
      by_cases ho : key = other
      · simp [get?, ho]
      · simp [get?, ho, h]
    · rw [if_neg h]
      by_cases ho : e.1 = other
      · have hne : ¬ key = other := fun heq => h (ho.trans heq.symm)
        simp [get?, ho, hne]
      · simp [get?, ho, ih]

/-- A key that does not occur holds nothing. -/
theorem get?_eq_none_iff : get? key entries = none ↔ key ∉ keys entries := by
  induction entries with
  | nil => simp [get?, keys]
  | cons e rest ih =>
    have hkeys : keys (e :: rest) = e.1 :: keys rest := rfl
    by_cases h : e.1 = key
    · simp [get?, hkeys, h]
    · have hne : ¬ key = e.1 := fun heq => h heq.symm
      simp [get?, hkeys, h, hne, ih]

/-- A value replaces the one that was inserted under its key just before. -/
theorem insert_insert_self :
    insert key value (insert key value' entries) = insert key value entries := by
  induction entries with
  | nil => simp [insert]
  | cons e rest ih =>
    by_cases h : e.1 = key
    · simp [insert, h]
    · simp [insert, h, ih]

/-- A value that is replaced in place may be replaced before or after an insertion under
    another key. -/
theorem insert_comm (hkey : key ∈ keys entries) (hne : key ≠ other) :
    insert key value (insert other value' entries) =
      insert other value' (insert key value entries) := by
  induction entries with
  | nil => simp [keys] at hkey
  | cons e rest ih =>
    by_cases h : e.1 = key
    · -- the other key stands further back or is new, and so goes behind this one
      have hother : ¬ e.1 = other := fun heq => hne (h.symm.trans heq)
      simp [insert, h, hne]
    · have hrest : key ∈ keys rest := by
        rcases List.mem_cons.mp hkey with heq | hmem
        · exact absurd heq.symm h
        · exact hmem
      by_cases ho : e.1 = other
      · have hback : ¬ other = key := fun heq => hne heq.symm
        simp [insert, ho, hback]
      · simp [insert, h, ho, ih hrest]

/-- What is found under its key is there already. -/
theorem insert_of_get? (h : get? key entries = some value) :
    insert key value entries = entries := by
  induction entries with
  | nil => simp [get?] at h
  | cons e rest ih =>
    by_cases hk : e.1 = key
    · simp [get?, hk] at h
      simp [insert, hk, ← h]
      rw [← hk]
    · simp [get?, hk] at h
      simp [insert, hk, ih h]

/-! ## Many insertions -/

theorem insertAll_append (xs ys : List (String × α)) :
    insertAll entries (xs ++ ys) = insertAll (insertAll entries xs) ys :=
  List.foldl_append

theorem insertAll_concat (xs : List (String × α)) (e : String × α) :
    insertAll entries (xs ++ [e]) = insert e.1 e.2 (insertAll entries xs) :=
  insertAll_append xs [e]

/-- The keys of a map that was made by insertions, in the order in which they first came. -/
theorem keys_insertAll : keys (insertAll entries more) =
    keys entries ++ (keys more).eraseDups.filter fun key => !(keys entries).contains key := by
  induction more using List.reverseRecOn with
  | nil => simp [insertAll, keys]
  | append_singleton more e ih =>
    have hkeys : keys (more ++ [e]) = keys more ++ [e.1] := by simp [keys]
    rw [insertAll_concat, keys_insert, ih, hkeys, eraseDups_concat]
    by_cases hold : e.1 ∈ keys entries
    · by_cases h : e.1 ∈ keys more <;> simp [hold, h]
    · by_cases h : e.1 ∈ keys more <;> simp [hold, h]

theorem keys_ofList (pairs : List (String × α)) :
    keys (ofList pairs) = (keys pairs).eraseDups := by
  have h : keys (insertAll ([] : Entries α) pairs) = _ := keys_insertAll
  simpa [keys, ofList] using h

/-- What is not inserted later stays. -/
theorem get?_insertAll_of_not_mem (h : key ∉ keys more) :
    get? key (insertAll entries more) = get? key entries := by
  induction more generalizing entries with
  | nil => rfl
  | cons e rest ih =>
    obtain ⟨hfirst, hrest⟩ := not_or.mp (mt List.mem_cons.mpr h)
    show get? key (insertAll (insert e.1 e.2 entries) rest) = _
    rw [ih hrest, get?_insert, if_neg fun heq => hfirst heq.symm]

/-- The last insertion under a key decides what is found there. -/
theorem get?_insertAll_last {before after : List (String × α)} (h : key ∉ keys after) :
    get? key (insertAll entries (before ++ (key, value) :: after)) = some value := by
  have hsplit : before ++ (key, value) :: after = before ++ [(key, value)] ++ after := by simp
  rw [hsplit, insertAll_append, get?_insertAll_of_not_mem h, insertAll_concat, get?_insert,
    if_pos rfl]

/-- A value may be replaced before or after insertions under other keys. -/
theorem insert_insertAll_comm (hkey : key ∈ keys entries) (hmore : key ∉ keys more) :
    insert key value (insertAll entries more) = insertAll (insert key value entries) more := by
  induction more generalizing entries with
  | nil => rfl
  | cons e rest ih =>
    obtain ⟨hne, hrest⟩ := not_or.mp (mt List.mem_cons.mpr hmore)
    have hstill : key ∈ keys (insert e.1 e.2 entries) := by
      rw [keys_insert]
      exact List.mem_append_left _ hkey
    calc
      insert key value (insertAll (insert e.1 e.2 entries) rest)
        = insertAll (insert key value (insert e.1 e.2 entries)) rest := ih hstill hrest
      _ = insertAll (insert e.1 e.2 (insert key value entries)) rest := by
          rw [insert_comm hkey hne]

/-- To insert a map into which a value was inserted is to insert the map and then the
    value. -/
theorem insertAll_insert (h : (keys more).Nodup) :
    insertAll entries (insert key value more) = insert key value (insertAll entries more) := by
  induction more generalizing entries with
  | nil => rfl
  | cons e rest ih =>
    obtain ⟨hfirst, hrest⟩ := List.nodup_cons.mp h
    by_cases hk : e.1 = key
    · -- the value is replaced where it stands in the map, before the rest is inserted
      have hreplaced : insert key value (e :: rest) = (key, value) :: rest := by
        simp [insert, hk]
      have hmem : key ∈ keys (insert key e.2 entries) := by
        rw [keys_insert]
        by_cases hold : key ∈ keys entries <;> simp [hold]
      rw [hreplaced]
      calc
        insertAll (insert key value entries) rest
          = insertAll (insert key value (insert key e.2 entries)) rest := by
            rw [insert_insert_self]
        _ = insert key value (insertAll (insert key e.2 entries) rest) :=
            (insert_insertAll_comm hmem (hk ▸ hfirst)).symm
        _ = insert key value (insertAll (insert e.1 e.2 entries) rest) := by rw [hk]
    · have hpassed : insert key value (e :: rest) = e :: insert key value rest := by
        simp [insert, hk]
      rw [hpassed]
      exact ih hrest

/-- Merging maps is associative. -/
theorem insertAll_insertAll {first : Entries α} (h : (keys first).Nodup)
    (pairs : List (String × α)) :
    insertAll entries (insertAll first pairs) = insertAll (insertAll entries first) pairs := by
  induction pairs using List.reverseRecOn with
  | nil => rfl
  | append_singleton pairs e ih =>
    rw [insertAll_concat, insertAll_concat, insertAll_insert (nodup_keys_insertAll h), ih]

/-- Entries that are in a map already change nothing. -/
theorem insertAll_of_mem (h : (keys entries).Nodup) (hmore : ∀ e ∈ more, e ∈ entries) :
    insertAll entries more = entries := by
  induction more with
  | nil => rfl
  | cons e rest ih =>
    obtain ⟨hfirst, hrest⟩ := List.forall_mem_cons.mp hmore
    have hsame : insert e.1 e.2 entries = entries := insert_of_get? (get?_of_mem h hfirst)
    show insertAll (insert e.1 e.2 entries) rest = entries
    rw [hsame]
    exact ih hrest

/-! ## Maps that are made by insertions -/

/-- What insertions one after the other leave. -/
structure Keeps (pairs : List (String × α)) (entries : Entries α) : Prop where
  /-- the keys stand in the order in which they were first inserted -/
  order : keys entries = (keys pairs).eraseDups
  distinct : (keys entries).Nodup
  /-- under a key is what was inserted there last -/
  last : ∀ before key value after, pairs = before ++ (key, value) :: after → key ∉ keys after →
    get? key entries = some value
  never : ∀ key, key ∉ keys pairs → get? key entries = none
  /-- who goes through the entries comes by every key once, with what is found there -/
  once : ∀ key ∈ keys pairs, (keys entries).count key = 1
  mem_iff : ∀ key value, (key, value) ∈ entries ↔ get? key entries = some value

/-- Every sequence of insertions makes an ordered map. -/
theorem keeps_ofList (pairs : List (String × α)) : Keeps pairs (ofList pairs) := by
  have horder : keys (ofList pairs) = (keys pairs).eraseDups := keys_ofList pairs
  have hdistinct : (keys (ofList pairs)).Nodup := nodup_keys_insertAll List.nodup_nil
  constructor
  case order => exact horder
  case distinct => exact hdistinct
  case last =>
    intro before key value after hsplit hafter
    rw [hsplit]
    exact get?_insertAll_last hafter
  case never =>
    intro key hkey
    rw [get?_eq_none_iff, horder]
    exact fun hmem => hkey (List.mem_eraseDups.mp hmem)
  case once =>
    intro key hkey
    have hmem : key ∈ keys (ofList pairs) := by
      rw [horder]
      exact List.mem_eraseDups.mpr hkey
    exact List.count_eq_one_of_mem hdistinct hmem
  case mem_iff =>
    intro key value
    exact ⟨get?_of_mem hdistinct, mem_of_get?⟩

end Entries

end WritePolicy
