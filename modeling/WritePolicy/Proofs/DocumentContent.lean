import WritePolicy.Proofs.Alike
import WritePolicy.Definition
import Mathlib.Data.List.Perm.Basic

/-! # Documents of the same content

    A document is read from an object: its attachment descriptors are those that the
    object holds (`Document.IsRead`). Documents that are read from objects of the same
    content have the same identifier, type and deletion flag, and the same
    descriptors in the same order. The descriptors are where this takes an argument:
    they are read in the order of the fields and then sorted by name, and what is
    sorted by a key that is unique does not depend on the order in which it came.
-/

namespace WritePolicy

/-! ## Sorting by name -/

namespace Document

variable {α : Type}

/-- Sorted entries ascend: the order of names is total and transitive. -/
theorem pairwise_sortedByName (entries : Entries α) :
    (sortedByName entries).Pairwise fun a b => a.1 ≤ b.1 := by
  have hle (a b : String × α) : (!decide (b.1 < a.1)) = true ↔ a.1 ≤ b.1 := by
    rw [Bool.not_eq_true', decide_eq_false_iff_not]
    exact String.not_lt
  have htrans (a b c : String × α) (hab : (!decide (b.1 < a.1)) = true)
      (hbc : (!decide (c.1 < b.1)) = true) : (!decide (c.1 < a.1)) = true :=
    (hle a c).mpr (String.le_trans ((hle a b).mp hab) ((hle b c).mp hbc))
  have htotal (a b : String × α) : (!decide (b.1 < a.1) || !decide (a.1 < b.1)) = true := by
    rw [Bool.or_eq_true, hle, hle]
    exact String.le_total a.1 b.1
  exact (List.pairwise_mergeSort htrans htotal entries).imp fun {a b} hab => (hle a b).mp hab

/-- Entries with unique keys are sorted in one way. -/
theorem sortedByName_perm {xs ys : Entries α} (hperm : xs.Perm ys)
    (hnodup : (Entries.keys xs).Nodup) : sortedByName xs = sortedByName ys := by
  have hxs : (sortedByName xs).Perm xs := List.mergeSort_perm _ _
  have hys : (sortedByName ys).Perm ys := List.mergeSort_perm _ _
  refine List.Perm.eq_of_pairwise (fun a b ha hb hab hba => ?_) (pairwise_sortedByName xs)
    (pairwise_sortedByName ys) (hxs.trans (hperm.trans hys.symm))
  -- two entries of one name are one entry
  have ha' : (a.1, a.2) ∈ xs := hxs.mem_iff.mp ha
  have hb' : (a.1, b.2) ∈ xs := by
    rw [String.le_antisymm hab hba]
    exact hperm.mem_iff.mpr (hys.mem_iff.mp hb)
  have hvalue := Entries.get?_of_mem hnodup ha'
  rw [Entries.get?_of_mem hnodup hb', Option.some.injEq] at hvalue
  exact Prod.ext (String.le_antisymm hab hba) hvalue.symm

end Document

/-! ## Descriptors -/

namespace Json

variable {x y : Json}

/-- The record fields of alike values are alike. -/
theorem recordFields?_rel {declared : List RecordField} {xs ys : Entries Json} (h : x.Alike y)
    (hx : x.recordFields? declared false = some xs) (hy : y.recordFields? declared false = some ys)
    (key : String) : Option.Rel Alike (Entries.get? key xs) (Entries.get? key ys) := by
  cases x with
  | object fields =>
    obtain ⟨fields', rfl⟩ := eq_object_of_sameContent h.content
    cases hx
    cases hy
    exact h.get?_rel key
  | array items =>
    -- a record may be given as the list of its values
    obtain ⟨items', rfl, hitems⟩ := h.exists_items
    simp only [recordFields?] at hx hy
    split_ifs at hx hy
    cases hx
    cases hy
    exact get?_rel_of_forall₂ (zip_rel hitems _) key
  | _ => cases hx

/-- A field that may be left out is read in one way from alike fields. -/
theorem optionalField?_unique {α : Type} {decode : Json → Option α} {xs ys : Entries Json}
    {name : String} (h : Option.Rel Alike (Entries.get? name xs) (Entries.get? name ys))
    (hdecode : ∀ x y a b, x.Alike y → decode x = some a → decode y = some b → a = b)
    {a b : Option α} (hx : optionalField? xs name decode = some a)
    (hy : optionalField? ys name decode = some b) : a = b := by
  unfold optionalField? at hx hy
  generalize Entries.get? name xs = v, Entries.get? name ys = w at h hx hy
  cases h with
  | none =>
    cases hx
    cases hy
    rfl
  | @some x y hxy =>
    -- `null` counts as left out; of alike values, both are `null` or neither
    have hnull := hxy.shape.isNull_eq
    split at hx
    · next h => cases h
    · next h =>
      cases h
      cases y with
      | null =>
        cases hx
        cases hy
        rfl
      | _ => cases hnull
    · next v hne h =>
      cases h
      split at hy
      · next h => cases h
      · next h =>
        cases h
        cases x with
        | null => exact absurd rfl hne
        | _ => cases hnull
      · next h =>
        cases h
        obtain ⟨a, ha, rfl⟩ := Option.map_eq_some_iff.mp hx
        obtain ⟨b, hb, rfl⟩ := Option.map_eq_some_iff.mp hy
        exact congrArg some (hdecode _ _ a b hxy ha hb)

/-- Only integers are counts, so alike counts are written alike. -/
theorem asCount?_unique {a b : Nat} (h : x.Alike y) (hx : x.asCount? = some a)
    (hy : y.asCount? = some b) : a = b := by
  cases h.shape with
  | scalar _ _ =>
    rw [hx] at hy
    exact Option.some.inj hy
  | @number m n hmn =>
    have hx' : m.toCount? = some a := hx
    have hy' : n.toCount? = some b := hy
    cases m with
    | float _ => cases hx'
    | int i =>
      cases n with
      | float _ => cases hy'
      | int j =>
        have hij : i = j := by
          have hcast : (i : Rat) = j := hmn
          exact_mod_cast hcast
        rw [hij, hy'] at hx'
        exact (Option.some.inj hx').symm
  | _ => cases hx

end Json

/-- Alike values are one descriptor, where both are descriptors. -/
theorem AttachmentDescriptor.ofJson?_unique {x y : Json} {d d' : AttachmentDescriptor}
    (h : x.Alike y) (hx : ofJson? x = some d) (hy : ofJson? y = some d') : d = d' := by
  -- both readers are peeled to the fields that they decode
  obtain ⟨xs, hxs, hx⟩ := Option.bind_eq_some_iff.mp hx
  obtain ⟨type, htype, hx⟩ := Option.bind_eq_some_iff.mp hx
  obtain ⟨length, hlength, hx⟩ := Option.bind_eq_some_iff.mp hx
  obtain ⟨ys, hys, hy⟩ := Option.bind_eq_some_iff.mp hy
  obtain ⟨type', htype', hy⟩ := Option.bind_eq_some_iff.mp hy
  obtain ⟨length', hlength', hy⟩ := Option.bind_eq_some_iff.mp hy
  cases hx
  cases hy
  have hfields := Json.recordFields?_rel h hxs hys
  have htypes : type = type' := by
    refine Json.optionalField?_unique (hfields _) (fun x y a b hxy ha hb => ?_) htype htype'
    rw [hxy.shape.asString?_eq, hb] at ha
    exact (Option.some.inj ha).symm
  have hlengths : length = length' :=
    Json.optionalField?_unique (hfields _) (fun _ _ _ _ => Json.asCount?_unique) hlength hlength'
  rw [htypes, hlengths]

/-! ## Attachments -/

/-- What `mapM` reads from a list is read item by item. -/
theorem forall₂_of_mapM {α β : Type} {read : α → Option β} {xs : List α} {ys : List β}
    (h : xs.mapM read = some ys) : List.Forall₂ (fun x y => read x = some y) xs ys := by
  induction xs generalizing ys with
  | nil =>
    cases h
    exact .nil
  | cons x rest ih =>
    rw [List.mapM_cons] at h
    obtain ⟨y, hy, h⟩ := Option.bind_eq_some_iff.mp h
    obtain ⟨ys, hys, h⟩ := Option.bind_eq_some_iff.mp h
    cases h
    exact .cons hy (ih hys)

namespace Document

/-- The descriptor of a file under its name. -/
def readFile (file : String × Json) : Option (String × AttachmentDescriptor) :=
  (AttachmentDescriptor.ofJson? file.2).map (file.1, ·)

/-- Files that are alike one by one have the same descriptors. -/
theorem descriptors_unique {files files' : Entries Json}
    {descriptors descriptors' : Entries AttachmentDescriptor}
    (h : List.Forall₂ Json.AlikeEntry files files')
    (hread : List.Forall₂ (fun file d => readFile file = some d) files descriptors)
    (hread' : List.Forall₂ (fun file d => readFile file = some d) files' descriptors') :
    descriptors = descriptors' := by
  induction h generalizing descriptors descriptors' with
  | nil =>
    cases hread
    cases hread'
    rfl
  | cons he _ ih =>
    obtain ⟨hname, hvalue⟩ := he
    cases hread with
    | cons hd hrest =>
      cases hread' with
      | cons hd' hrest' =>
        obtain ⟨d, hfile, rfl⟩ := Option.map_eq_some_iff.mp hd
        obtain ⟨d', hfile', rfl⟩ := Option.map_eq_some_iff.mp hd'
        rw [hname, AttachmentDescriptor.ofJson?_unique hvalue hfile hfile', ih hrest hrest']

/-- The descriptors of alike files are the same up to their order. -/
theorem descriptors_perm {files files' : Entries Json}
    {descriptors descriptors' : Entries AttachmentDescriptor}
    (h : (Json.object files).Alike (.object files'))
    (hread : List.Forall₂ (fun file d => readFile file = some d) files descriptors)
    (hread' : List.Forall₂ (fun file d => readFile file = some d) files' descriptors') :
    descriptors.Perm descriptors' := by
  obtain ⟨between, hbetween, hperm⟩ := Json.exists_between h
  -- the second descriptors in the order of the first files
  obtain ⟨reordered, hreordered, hdescriptors⟩ := List.perm_comp_forall₂ hperm hread'
  rw [descriptors_unique hbetween hread hreordered]
  exact hdescriptors

/-- The descriptors are under the names of the files. -/
theorem keys_descriptors {files : Entries Json} {descriptors : Entries AttachmentDescriptor}
    (h : List.Forall₂ (fun file d => readFile file = some d) files descriptors) :
    Entries.keys descriptors = Entries.keys files := by
  induction h with
  | nil => rfl
  | cons hd _ ih =>
    obtain ⟨d, _, rfl⟩ := Option.map_eq_some_iff.mp hd
    exact congrArg₂ List.cons rfl ih

/-- Alike objects have the same attachments, where both are readable. -/
theorem readAttachments_unique {xs ys : Entries Json}
    {attachments attachments' : Entries AttachmentDescriptor}
    (h : (Json.object xs).Alike (.object ys)) (hx : readAttachments xs = .ok attachments)
    (hy : readAttachments ys = .ok attachments') : attachments = attachments' := by
  have hfiles := h.get?_rel "_attachments"
  unfold readAttachments at hx hy
  generalize Entries.get? "_attachments" xs = v, Entries.get? "_attachments" ys = w at hfiles hx hy
  cases hfiles with
  | none =>
    cases hx
    cases hy
    rfl
  | @some x y hxy =>
    -- attachments are `null` or an object, in both documents alike
    have hkind := hxy.shape.kind_eq
    cases x with
    | null =>
      cases y with
      | null =>
        cases hx
        cases hy
        rfl
      | _ => cases hkind
    | object files =>
      obtain ⟨files', rfl⟩ := Json.eq_object_of_sameContent hxy.content
      simp only [] at hx hy
      split at hx
      · next descriptors hread =>
        split at hy
        · next descriptors' hread' =>
          cases hx
          cases hy
          have hread := forall₂_of_mapM hread
          have hread' := forall₂_of_mapM hread'
          refine sortedByName_perm (descriptors_perm hxy hread hread') ?_
          rw [keys_descriptors hread]
          exact (Json.uniqueKeys_object_iff.mp hxy.keys).1
        · cases hy
      · cases hx
    | _ => cases hx

/-! ## Documents -/

/-- The document is read from an object in which every key is carried once. -/
structure IsRead (d : Document) : Prop where
  keys : d.toJson.UniqueKeys
  attachments : readAttachments d.fields = .ok d.attachments

/-- Two documents are read from objects of the same content. -/
structure Alike (d d' : Document) : Prop where
  read : d.IsRead
  read' : d'.IsRead
  content : d.toJson.sameContent d'.toJson = true

/-- A document that is read has its own content. -/
theorem IsRead.alike {d : Document} (h : d.IsRead) : d.Alike d :=
  ⟨h, h, Json.sameContent_refl h.keys⟩

namespace Alike

variable {d d' : Document}

theorem toJson (h : d.Alike d') : d.toJson.Alike d'.toJson :=
  ⟨h.read.keys, h.content⟩

theorem attachments_eq (h : d.Alike d') : d.attachments = d'.attachments :=
  readAttachments_unique h.toJson h.read.attachments h.read'.attachments

theorem get?_rel (h : d.Alike d') (name : String) :
    Option.Rel Json.Alike (d.get? name) (d'.get? name) :=
  h.toJson.get?_rel name

/-- A property that is a string is the same string. -/
theorem string_eq (h : d.Alike d') (name : String) :
    (d.get? name).bind Json.asString? = (d'.get? name).bind Json.asString? := by
  have hvalue := h.get?_rel name
  generalize d.get? name = v, d'.get? name = w at hvalue
  cases hvalue with
  | none => rfl
  | some hxy => exact hxy.shape.asString?_eq

theorem isDeleted_eq (h : d.Alike d') : d.isDeleted = d'.isDeleted := by
  have hvalue := h.get?_rel "_deleted"
  unfold isDeleted
  generalize d.get? "_deleted" = v, d'.get? "_deleted" = w at hvalue
  cases hvalue with
  | none => rfl
  | some hxy => cases hxy.shape <;> rfl

end Alike

end Document

end WritePolicy
