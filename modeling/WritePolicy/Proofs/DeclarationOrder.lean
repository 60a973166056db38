import WritePolicy.Proofs.Constancy

/-! # Declaration order

    The first definition in order whose filter accepts a document pair governs it, so
    the order of declaration is in general part of what a definition set means. For
    simple filters it is not. Such a filter accepts the pairs that name its type, a
    pair names at most one type, and in a set that is made by insertions no two
    definitions have one name. So at most one definition accepts a pair
    (`Definitions.length_filter_accepts_le_one`), and the first that does is the only one.

    Nothing is assumed of what the definitions hold besides their filters: slots may
    be computed and may fail, and actions may refuse a write.
-/

namespace WritePolicy

/-! ## Entries with distinct keys -/

namespace Entries

variable {α : Type} {key : String} {value : α} {entries more : Entries α}

/-- A new key goes to the end. -/
theorem insert_of_not_mem (h : key ∉ keys entries) :
    insert key value entries = entries ++ [(key, value)] := by
  induction entries with
  | nil => rfl
  | cons first rest ih =>
    obtain ⟨hfirst, hrest⟩ := not_or.mp (mt List.mem_cons.mpr h)
    unfold insert
    rw [if_neg (Ne.symm hfirst), ih hrest]
    rfl

/-- Entries with new and distinct keys are appended one after the other. -/
theorem insertAll_of_nodup (h : (keys (entries ++ more)).Nodup) :
    insertAll entries more = entries ++ more := by
  induction more generalizing entries with
  | nil => exact (List.append_nil entries).symm
  | cons first rest ih =>
    have hnew : first.1 ∉ keys entries := by
      unfold keys at h ⊢
      rw [List.map_append, List.nodup_append] at h
      intro hmem
      exact h.2.2 _ hmem _ List.mem_cons_self rfl
    show insertAll (insert first.1 first.2 entries) rest = _
    rw [insert_of_not_mem hnew, ih (by rwa [List.append_assoc])]
    exact List.append_assoc entries [first] rest

/-- Entries with distinct keys are what their insertion gives. -/
theorem ofList_of_nodup (h : (keys entries).Nodup) : ofList entries = entries :=
  insertAll_of_nodup h

end Entries

/-! ## First matches -/

/-- Where at most one member is accepted, the first one is the same in any order. -/
theorem find?_of_perm {α : Type} {p : α → Bool} {xs ys : List α} (hperm : ys.Perm xs)
    (hone : (xs.filter p).length ≤ 1) : ys.find? p = xs.find? p := by
  have hfilter : (ys.filter p).Perm (xs.filter p) := hperm.filter p
  rw [← List.head?_filter, ← List.head?_filter]
  match h : xs.filter p with
  | [] =>
    rw [h] at hfilter
    rw [hfilter.eq_nil]
  | [a] =>
    rw [h] at hfilter
    rw [hfilter.eq_singleton]
  | _ :: _ :: _ =>
    rw [h] at hone
    simp at hone

/-! ## Types that document pairs name -/

/-- The type that a document pair names in its `type` properties: for a deletion that
    of the live prior document, for a replacement the one on which both agree, and
    without a prior document that of the new one. -/
inductive NamesType (new : Document) : Option Document → String → Prop where
  | removed {old : Document} {name : String} :
      new.Tombstone → old.get? "type" = some (.string name) → NamesType new (some old) name
  | replaced {old : Document} {name : String} :
      ¬ new.Tombstone → new.get? "type" = some (.string name) →
      old.get? "type" = some (.string name) → NamesType new (some old) name
  | alone {name : String} : new.get? "type" = some (.string name) → NamesType new none name

/-- A document names a type by a string. -/
theorem Document.typeName?_eq_some_iff {d : Document} {name : String} :
    d.typeName? = some name ↔ d.get? "type" = some (.string name) := by
  unfold typeName?
  cases d.get? "type" with
  | none => exact iff_of_false nofun nofun
  | some v => cases v <;> simp [Json.asString?]

/-- What a simple filter goes by is the type that the pair names. -/
theorem governingType?_eq_some_iff {new : Document} {prior : Option Document} {name : String} :
    governingType? new prior = some name ↔ NamesType new prior name := by
  unfold governingType?
  cases prior with
  | none =>
    constructor
    · intro h
      exact .alone (Document.typeName?_eq_some_iff.mp h)
    · rintro ⟨⟩
      exact Document.typeName?_eq_some_iff.mpr ‹_›
  | some old =>
    show (if new.isDeleted || new.typeName? == old.typeName? then old.typeName? else none) =
      some name ↔ _
    by_cases hdel : new.isDeleted = true
    · have htomb := new.isDeleted_iff.mp hdel
      rw [hdel, Bool.true_or, if_pos rfl, Document.typeName?_eq_some_iff]
      constructor
      · exact .removed htomb
      · intro h
        cases h with
        | removed _ hold => exact hold
        | replaced hlive _ _ => exact absurd htomb hlive
    · have hlive : ¬ new.Tombstone := fun h => hdel (new.isDeleted_iff.mpr h)
      rw [Bool.not_eq_true] at hdel
      rw [hdel, Bool.false_or]
      constructor
      · intro h
        split at h
        · next hsame =>
          -- both name a type, and it is the same
          rw [beq_iff_eq] at hsame
          exact .replaced hlive (Document.typeName?_eq_some_iff.mp (hsame.trans h))
            (Document.typeName?_eq_some_iff.mp h)
        · cases h
      · intro h
        cases h with
        | removed htomb _ => exact absurd htomb hlive
        | replaced _ hnew hold =>
          rw [Document.typeName?_eq_some_iff.mpr hnew, Document.typeName?_eq_some_iff.mpr hold,
            BEq.rfl, if_pos rfl]

/-- A simple filter accepts the pairs that name its type. -/
theorem accepts_simple_iff {docType : String} {new : Document} {prior : Option Document} :
    TypeFilter.simple.accepts docType new prior = true ↔ NamesType new prior docType := by
  rw [← governingType?_eq_some_iff]
  exact beq_iff_eq

/-! ## Sets of simple definitions -/

namespace Definitions

/-- Sets that are made from nothing or from a file by inserting definitions, which
    may be any. -/
inductive Built : Definitions → Prop where
  | empty : Built []
  | file {format : Format} {text : String} {definitions : Definitions} :
      parse format text = .ok definitions → Built definitions
  | insert {definitions : Definitions} (docType : String) (d : Definition) :
      Built definitions → Built (Entries.insert docType d definitions)

variable {definitions definitions' : Definitions} {docType : String} {d : Definition}
  {new : Document} {prior : Option Document}

/-- No two definitions of such a set have one name. -/
theorem Built.nodup_keys (h : Built definitions) : (Entries.keys definitions).Nodup := by
  induction h with
  | empty => exact List.nodup_nil
  | file hparse => exact nodup_keys_of_parse hparse
  | insert _ _ _ ih => exact Entries.nodup_keys_insert ih

/-- What is made by inserting definitions one after the other is such a set. -/
theorem Built.insertAll (h : Built definitions) (more : List (String × Definition)) :
    Built (Entries.insertAll definitions more) := by
  induction more generalizing definitions with
  | nil => exact h
  | cons first rest ih => exact ih (h.insert first.1 first.2)

/-- At most one simple definition accepts a pair, if the names are distinct. -/
theorem length_filter_accepts_le_one (hnodup : (Entries.keys definitions).Nodup)
    (hsimple : definitions.Simple) (new : Document) (prior : Option Document) :
    (definitions.filter fun e => e.2.typeFilter.accepts e.1 new prior).length ≤ 1 := by
  have hnames : (Entries.keys (definitions.filter fun e =>
      e.2.typeFilter.accepts e.1 new prior)).Nodup :=
    hnodup.sublist (List.filter_sublist.map _)
  -- all that is accepted has the name that the pair names
  have hname : ∀ e ∈ definitions.filter fun e => e.2.typeFilter.accepts e.1 new prior,
      governingType? new prior = some e.1 := by
    intro e he
    obtain ⟨hmem, haccepts⟩ := List.mem_filter.mp he
    rw [hsimple e hmem, accepts_simple_iff] at haccepts
    exact governingType?_eq_some_iff.mpr haccepts
  generalize definitions.filter _ = accepted at hnames hname
  match accepted with
  | [] => exact Nat.zero_le 1
  | [_] => exact Nat.le_refl 1
  | a :: b :: rest =>
    have ha := hname a List.mem_cons_self
    have hb := hname b (List.mem_cons_of_mem _ List.mem_cons_self)
    rw [ha] at hb
    exact absurd (Option.some.inj hb) fun h =>
      (List.nodup_cons.mp hnames).1 (List.mem_cons.mpr (.inl h))

/-- Sets that identify the same decide the same. -/
theorem decide_congr {r : Request}
    (h : definitions'.identify r.proposed r.prior = definitions.identify r.proposed r.prior)
    (options : Options) : definitions'.decide options r = definitions.decide options r := by
  unfold decide
  rw [h]

/-- A definition that is appended governs only what it accepts. -/
theorem identify_append_of_not_accepts
    (h : d.typeFilter.accepts docType new prior = false) :
    identify (definitions ++ [(docType, d)]) new prior = definitions.identify new prior := by
  unfold identify
  rw [List.find?_append, List.find?_singleton, h]
  exact Option.or_none

/-- The order of definitions does not matter, and what is added is added for the
    writes of its own type only. -/
structure OrderFree (definitions : Definitions) : Prop where
  /-- At most one definition accepts a document pair. -/
  one (new : Document) (prior : Option Document) :
    (definitions.filter fun e => e.2.typeFilter.accepts e.1 new prior).length ≤ 1
  /-- The same definitions, inserted in another order, decide every request alike,
      with the same calls of actions. -/
  reordered (definitions' : List (String × Definition)) :
    definitions'.Perm definitions → ∀ options r,
      decide (Entries.ofList definitions') options r = definitions.decide options r
  /-- A simple definition under a new name affects only the requests that name its
      type. -/
  extended (docType : String) (d : Definition) :
    docType ∉ Entries.keys definitions → d.typeFilter = .simple → ∀ options r,
      decide (Entries.insert docType d definitions) options r ≠ definitions.decide options r →
        NamesType r.proposed r.prior docType

/-- Simple definitions may be declared in any order. -/
theorem simple_order_free (h : Built definitions) (hsimple : definitions.Simple) :
    OrderFree definitions where
  one := length_filter_accepts_le_one h.nodup_keys hsimple
  reordered definitions' hperm options r := by
    have hnodup : (Entries.keys definitions').Nodup :=
      (hperm.map _).nodup_iff.mpr h.nodup_keys
    rw [Entries.ofList_of_nodup hnodup]
    refine decide_congr (find?_of_perm hperm ?_) options
    exact length_filter_accepts_le_one h.nodup_keys hsimple _ _
  extended docType d hnew hd options r := by
    intro hchanged
    by_contra hother
    have hrefused : d.typeFilter.accepts docType r.proposed r.prior = false := by
      rw [hd, ← Bool.not_eq_true, accepts_simple_iff]
      exact hother
    rw [Entries.insert_of_not_mem hnew] at hchanged
    exact hchanged (decide_congr (identify_append_of_not_accepts hrefused) options)

/-- Memos, which every member may write, and receipts, which nobody may. -/
def memosAndReceipts : Definitions :=
  Entries.insertAll [] [
    ("memo", { authorization := { allMembers := .literal true } }),
    ("receipt", {})]

/-- A member adds a memo. -/
def memoRequest : Request :=
  { newDoc := some ⟨[("_id", .string "m1"), ("type", .string "memo")], []⟩
    context := { principal := { name := some "eve" } } }

/-- The memo is reported on by its own definition when the two types change places,
    and a third type makes no difference to it. -/
theorem simple_order_free_memo :
    Built memosAndReceipts ∧ memosAndReceipts.Simple ∧
      (decide (Entries.ofList memosAndReceipts.reverse) {} memoRequest).outcome =
        .error (.invalid "memo" [.property [.property "type"] .unsupported]) ∧
      decide (Entries.insert "letter" {} memosAndReceipts) {} memoRequest =
        memosAndReceipts.decide {} memoRequest := by
  have hbuilt : Built memosAndReceipts := Built.empty.insertAll _
  have hsimple : memosAndReceipts.Simple := by decide
  have hfree := simple_order_free hbuilt hsimple
  refine ⟨hbuilt, hsimple, ?_, ?_⟩
  · rw [hfree.reordered _ (List.reverse_perm _)]
    rfl
  · by_contra hchanged
    have hnames := hfree.extended "letter" {} (by decide) rfl {} memoRequest hchanged
    rw [← governingType?_eq_some_iff] at hnames
    revert hnames
    decide

end Definitions

end WritePolicy
