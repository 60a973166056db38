import Mathlib.Data.List.Nodup
import WritePolicy.Proofs.ComputedSlots
import WritePolicy.Proofs.Loading

/-! # The order of computations

    Among the computations at a position and below it, custom validation comes first.
    Within the walk from one validator that is plain; the point is that the walk from
    the top runs, at and below a reached position, exactly what the walk from the
    validator there runs, unless it has ended with a failure before (`Trace.Visits`).
    That holds one step down because what a walk runs beside a step is run elsewhere:
    the checks of the position stand above it, and the other children stand at other
    names, indexes and keys. For names and keys this needs that they are distinct.

    Together with where computations are run and what they are given (`item_runs`) this
    is the main result: **computations see their own position**
    (`Walk.computations_situated`).
-/

namespace WritePolicy

/-! ## Computations at a position -/

namespace Trace

variable {α β : Type} {path rest : Path} {inner inner' : Trace Unit}

/-- The computations that were run at a position and below it. -/
def computationsAt (path : Path) (t : Trace α) : List (Path × Constraint × Situation) :=
  t.computations.filter fun e => path.isPrefixOf e.1

/-- The computations of a sequence are those of its parts. -/
theorem computations_bind_of_ok {t : Trace α} {a : α} (h : t.outcome = .ok a)
    (f : α → Trace β) : computations (t >>= f) = t.computations ++ (f a).computations := by
  rw [Logged.bind_of_ok h]
  exact List.filterMap_append

theorem computations_bind_of_error {t : Trace α} {e : Misconfiguration}
    (h : t.outcome = .error e) (f : α → Trace β) : computations (t >>= f) = t.computations := by
  rw [Logged.bind_of_error h]
  rfl

theorem computationsAt_bind_of_ok {t : Trace α} {a : α} (h : t.outcome = .ok a)
    (f : α → Trace β) :
    computationsAt path (t >>= f) = t.computationsAt path ++ (f a).computationsAt path := by
  unfold computationsAt
  rw [computations_bind_of_ok h, List.filter_append]

theorem computationsAt_bind_of_error {t : Trace α} {e : Misconfiguration}
    (h : t.outcome = .error e) (f : α → Trace β) :
    computationsAt path (t >>= f) = t.computationsAt path := by
  unfold computationsAt
  rw [computations_bind_of_error h]

/-- What is run for the members of a list runs nothing at a position if it does not for
    any of them. -/
theorem computationsAt_each_eq_nil {f : α → Trace Unit} {members : List α}
    (h : ∀ a ∈ members, (f a).computationsAt path = []) :
    computationsAt path (Logged.each f members) = [] := by
  induction members with
  | nil => rfl
  | cons a more ih =>
    obtain ⟨ha, hmore⟩ := List.forall_mem_cons.mp h
    show computationsAt path (f a >>= fun _ => Logged.each f more) = []
    cases hout : (f a).outcome with
    | ok _ => rw [computationsAt_bind_of_ok hout, ha, ih hmore, List.nil_append]
    | error e => rw [computationsAt_bind_of_error hout, ha]

/-- A part that comes first runs its computations first. -/
theorem computations_prefix_bind (t : Trace α) (f : α → Trace β) :
    t.computations <+: computations (t >>= f) := by
  cases h : t.outcome with
  | ok a =>
    rw [computations_bind_of_ok h]
    exact List.prefix_append _ _
  | error e =>
    have hsame := computations_bind_of_error h f
    exact ⟨[], (List.append_nil _).trans hsame.symm⟩

/-- What is run below a position is run at it and below. -/
theorem computationsAt_append (path rest : Path) (t : Trace α) :
    t.computationsAt (path ++ rest) =
      (t.computationsAt path).filter fun e => (path ++ rest).isPrefixOf e.1 := by
  unfold computationsAt
  rw [List.filter_filter]
  refine List.filter_congr fun e _ => ?_
  rw [Bool.eq_iff_iff, Bool.and_eq_true, List.isPrefixOf_iff_prefix, List.isPrefixOf_iff_prefix]
  exact ⟨fun h => ⟨h, (List.prefix_append _ _).trans h⟩, And.left⟩

variable {P : Path → Constraint → Situation → Computation → Prop}

/-- A computation that was run is expected. -/
theorem RunsOnly.of_mem {t : Trace α} (h : RunsOnly P t) {e : Path × Constraint × Situation}
    (he : e ∈ t.computations) : ∃ run, P e.1 e.2.1 e.2.2 run := by
  obtain ⟨event, hevent, hcomputation⟩ := List.mem_filterMap.mp he
  obtain ⟨before, after, hsplit⟩ := List.append_of_mem hevent
  cases event with
  | violation _ _ => cases hcomputation
  | reference _ _ => cases hcomputation
  | computation place c here =>
    cases hcomputation
    obtain ⟨run, hP, -⟩ := Runs.of_split h hsplit
    exact ⟨run, hP⟩

/-- Nothing is run at and below a position if it is expected elsewhere only. -/
theorem RunsOnly.silent {t : Trace α} (h : RunsOnly P t)
    (helsewhere : ∀ place c here run, P place c here run → ¬ path <+: place) :
    t.computationsAt path = [] := by
  refine List.filter_eq_nil_iff.mpr fun e he => ?_
  obtain ⟨run, hP⟩ := h.of_mem he
  rw [List.isPrefixOf_iff_prefix]
  exact helsewhere _ _ _ _ hP

/-- All is run at and below a position if it is expected there. -/
theorem RunsOnly.all {t : Trace α} (h : RunsOnly P t)
    (hthere : ∀ place c here run, P place c here run → path <+: place) :
    t.computationsAt path = t.computations := by
  refine List.filter_eq_self.mpr fun e he => ?_
  obtain ⟨run, hP⟩ := h.of_mem he
  rw [List.isPrefixOf_iff_prefix]
  exact hthere _ _ _ _ hP

/-! ### Visits -/

/-- At a position and below it a trace runs what another trace runs, and fails if that
    one fails; or it runs nothing there, because it fails before. -/
inductive Visits (path : Path) (t : Trace α) (inner : Trace Unit) : Prop where
  | reached : t.computationsAt path = inner.computations →
      (∀ e, inner.outcome = .error e → t.outcome = .error e) → Visits path t inner
  | stopped (e : Misconfiguration) :
      t.computationsAt path = [] → t.outcome = .error e → Visits path t inner

/-- What comes before a visit runs nothing at the position. -/
theorem Visits.after {t : Trace α} {f : α → Trace Unit} (ht : t.computationsAt path = [])
    (h : ∀ a, t.outcome = .ok a → Visits path (f a) inner) : Visits path (t >>= f) inner := by
  cases hout : t.outcome with
  | ok a =>
    have hsame : computationsAt path (t >>= f) = (f a).computationsAt path := by
      rw [computationsAt_bind_of_ok hout, ht, List.nil_append]
    have hends : (t >>= f).outcome = (f a).outcome := by rw [Logged.bind_of_ok hout]
    cases h a hout with
    | reached hrun hfails => exact .reached (hsame.trans hrun) fun e he => hends.trans (hfails e he)
    | stopped e hrun hfails => exact .stopped e (hsame.trans hrun) (hends.trans hfails)
  | error e =>
    refine .stopped e ((computationsAt_bind_of_error hout f).trans ht) ?_
    rw [Logged.bind_of_error hout]

/-- What comes after a visit runs nothing at the position. -/
theorem Visits.before {t : Trace α} {f : α → Trace Unit} (h : Visits path t inner)
    (hf : ∀ a, t.outcome = .ok a → (f a).computationsAt path = []) :
    Visits path (t >>= f) inner := by
  have hsame : computationsAt path (t >>= f) = t.computationsAt path := by
    cases hout : t.outcome with
    | ok a => rw [computationsAt_bind_of_ok hout, hf a hout, List.append_nil]
    | error e => exact computationsAt_bind_of_error hout f
  have hfails {e : Misconfiguration} (he : t.outcome = .error e) :
      (t >>= f).outcome = .error e := by
    rw [Logged.bind_of_error he]
  cases h with
  | reached hrun hinner => exact .reached (hsame.trans hrun) fun e he => hfails (hinner e he)
  | stopped e hrun hout => exact .stopped e (hsame.trans hrun) (hfails hout)

/-- A visit of a member of a list is a visit of the list, if the other members run
    nothing at the position. -/
theorem Visits.each {f : α → Trace Unit} {members : List α} {a : α} (ha : a ∈ members)
    (hnodup : members.Nodup) (h : Visits path (f a) inner)
    (hothers : ∀ b ∈ members, b ≠ a → (f b).computationsAt path = []) :
    Visits path (Logged.each f members) inner := by
  induction members with
  | nil => cases ha
  | cons b more ih =>
    obtain ⟨hb, hmore⟩ := List.nodup_cons.mp hnodup
    rcases List.mem_cons.mp ha with rfl | ha
    · refine Visits.before h fun _ _ => computationsAt_each_eq_nil fun c hc => ?_
      exact hothers c (List.mem_cons_of_mem _ hc) fun hca => hb (hca ▸ hc)
    · refine Visits.after (hothers b List.mem_cons_self fun hba => hb (hba ▸ ha)) fun _ _ => ?_
      exact ih ha hmore fun c hc => hothers c (List.mem_cons_of_mem _ hc)

/-- A visit below a visit. -/
theorem Visits.trans {t : Trace α} (h : Visits path t inner)
    (h' : Visits (path ++ rest) inner inner') : Visits (path ++ rest) t inner' := by
  cases h with
  | stopped e hrun hfails =>
    refine .stopped e ?_ hfails
    rw [computationsAt_append, hrun]
    rfl
  | reached hrun hfails =>
    have hsame : t.computationsAt (path ++ rest) = inner.computationsAt (path ++ rest) := by
      rw [computationsAt_append, hrun]
      rfl
    cases h' with
    | reached hrun' hfails' =>
      exact .reached (hsame.trans hrun') fun e he => hfails e (hfails' e he)
    | stopped e hrun' hfails' => exact .stopped e (hsame.trans hrun') (hfails e hfails')

end Trace

/-! ## Distinct names -/

/-- No object of the tree declares a property twice. -/
inductive Validator.DistinctNames : Validator → Prop where
  | scalar {rules : CommonRules} {type : Scalar} : DistinctNames (.scalar rules type)
  | object {rules : CommonRules} {properties : Option Properties} {allowUnknown : Slot Bool} :
      (∀ declared, properties = some declared → (Entries.keys declared).Nodup) →
      (∀ declared, properties = some declared → ∀ e ∈ declared, DistinctNames e.2) →
      DistinctNames (.object rules properties allowUnknown)
  | array {rules : CommonRules} {length : SizeRules} {elements : Option Validator} :
      (∀ element, elements = some element → DistinctNames element) →
      DistinctNames (.array rules length elements)
  | hashtable {rules : CommonRules} {size : SizeRules} {keys : Option KeyRules}
      {values : Option Validator} :
      (∀ entry, values = some entry → DistinctNames entry) →
      DistinctNames (.hashtable rules size keys values)

/-- No property is declared twice, at any depth. -/
def Properties.DistinctNames (declared : Properties) : Prop :=
  (Entries.keys declared).Nodup ∧ ∀ e ∈ declared, e.2.DistinctNames

/-- Declaring a property by insertion keeps the names distinct. -/
theorem Properties.DistinctNames.insert {declared : Properties} {v : Validator}
    (h : declared.DistinctNames) (name : String) (hv : v.DistinctNames) :
    DistinctNames (Entries.insert name v declared) := by
  obtain ⟨hnodup, hchildren⟩ := h
  refine ⟨Entries.nodup_keys_insert hnodup, fun e he => ?_⟩
  rcases Entries.mem_insert he with rfl | he
  · exact hv
  · exact hchildren e he

open Trace

namespace Walk

variable {s : Situation} {path rest : Path} {v c w : Validator} {x : Json}
  {value old y z : Option Json} {step : Step}

/-! ## Visits one step down -/

theorem not_append_prefix (path : Path) (step : Step) (rest : Path) :
    ¬ path ++ step :: rest <+: path := by
  intro h
  have hlength := h.length_le
  rw [List.length_append, List.length_cons] at hlength
  omega

/-- Steps that differ lead to different places. -/
theorem not_prefix_of_ne {step other : Step} (h : step ≠ other) (path rest : Path) :
    ¬ path ++ [step] <+: path ++ [other] ++ rest := by
  intro hprefix
  rw [List.append_assoc, List.prefix_append_right_inj] at hprefix
  exact h (List.cons_prefix_cons.mp hprefix).1

/-- A check that runs what is due at a position runs nothing one step down. -/
theorem silent_of_here {t : Trace α} (h : RunsOnly (fun place _ _ _ => place = path) t) :
    t.computationsAt (path ++ [step]) = [] :=
  h.silent fun _ _ _ _ hplace => hplace ▸ not_append_prefix path step []

/-- A walk from one place runs nothing at another place beside it. -/
theorem item_silent {other : Step} (h : step ≠ other) (s : Situation) (v : Validator)
    (value old : Option Json) :
    (item s (path ++ [other]) value old v).computationsAt (path ++ [step]) = [] := by
  refine (item_runs s v (path ++ [other]) value old).silent ?_
  rintro _ _ _ _ ⟨rest, w, y, rfl, -⟩
  exact not_prefix_of_ne h path rest

/-- All that a walk from a place runs is run there and below. -/
theorem item_all (s : Situation) (v : Validator) (path : Path) (value old : Option Json) :
    (item s path value old v).computationsAt path = (item s path value old v).computations := by
  refine (item_runs s v path value old).all ?_
  rintro _ _ _ _ ⟨rest, w, y, rfl, -⟩
  exact List.prefix_append path rest

theorem item_visits (s : Situation) (v : Validator) (path : Path) (value old : Option Json) :
    Visits path (item s path value old v) (item s path value old v) :=
  .reached (item_all s v path value old) fun _ => id

/-- The checks at a position visit what the checks of the type and below it visit. -/
theorem position_visits {v : Validator} {here : Situation} {content : Json → Trace Unit}
    {inner : Trace Unit} (hx : present here.value = some x) (htype : v.dataType.admits x = true)
    (h : Visits (path ++ [step]) (content x) inner) :
    Visits (path ++ [step]) (position v.dataType v.rules path here content) inner := by
  have hown : ExpectsDue (fun place _ _ _ => place = path) v path here := fun _ _ _ _ => rfl
  unfold position
  refine .after (silent_of_here (customValidation_runs hown)) fun _ _ => ?_
  refine .after (silent_of_here (immutability_runs hown)) fun _ _ => ?_
  rw [hx]
  show Visits _ (if v.dataType.admits x then _ else _) _
  rw [if_pos htype]
  refine .after (silent_of_here (emptiness_runs hown hx htype)) fun _ _ => ?_
  exact .after (silent_of_here (equality_runs hown hx htype)) fun _ _ => h

theorem indexed_nodup (items : List Json) : (indexed items).Nodup := by
  refine List.Nodup.of_map (·.1) ?_
  unfold indexed
  rw [List.map_fst_zip (by simp)]
  exact List.nodup_range

/-- The walk from a validator visits the walk one step down. -/
theorem Child.visits (h : Child v x step c z) (hv : v.DistinctNames) (hx : x.UniqueKeys)
    (s : Situation) (path : Path) (old : Option Json) :
    Visits (path ++ [step]) (item s path (some x) old v)
      (item s (path ++ [step]) z (old.bind (Step.into? · step)) c) := by
  cases h with
  | @property rules declared allowUnknown fields name c hmem =>
    have hnodup : (Entries.keys declared).Nodup := by
      cases hv with
      | object hnames _ => exact hnames declared rfl
    conv => enter [2]; unfold item
    refine position_visits (v := .object rules (some declared) allowUnknown) rfl rfl ?_
    refine .after (silent_of_here (runsOnly_read fun _ _ => rfl)) fun allowed _ => ?_
    refine .before ?_ fun _ _ => silent_of_here (unsupported_runs _ _ _)
    rw [properties_eq_each]
    refine .each hmem (.of_map _ hnodup) (item_visits s c _ _ _) fun e he hne => ?_
    refine item_silent (fun hname => hne ?_) s e.2 _ _
    -- a declaration is found by its name
    exact List.inj_on_of_nodup_map hnodup he hmem (Step.property.inj hname).symm
  | @element rules length c items i x hitem =>
    conv => enter [2]; unfold item
    refine position_visits (v := .array rules length (some c)) rfl rfl ?_
    have hown : Expects (fun place _ _ _ => place = path) length.computation? path
        (s.withItem (some (.array items)) old) := fun _ _ _ => rfl
    refine .after (silent_of_here (size_runs hown _ _)) fun _ _ => ?_
    refine .each (mem_indexed.mpr hitem : (i, x) ∈ indexed items) (indexed_nodup items)
      (item_visits s c _ _ _) fun e he hne => item_silent (fun hindex => hne ?_) s c _ _
    have hother : items[e.1]? = some e.2 := mem_indexed.mp he
    rw [← Step.element.inj hindex, hitem] at hother
    exact Prod.ext (Step.element.inj hindex).symm (Option.some.inj hother).symm
  | @entry rules size keys c fields k x hmem =>
    obtain ⟨hnodup, -⟩ := Json.uniqueKeys_object_iff.mp hx
    have hown (computation? : Constraint → Option Computation) :
        Expects (fun place _ _ _ => place = path) computation? path
          (s.withItem (some (.object fields)) old) := fun _ _ _ => rfl
    conv => enter [2]; unfold item
    refine position_visits (v := .hashtable rules size keys (some c)) rfl rfl ?_
    refine .after (silent_of_here (size_runs (hown _) _ _)) fun _ _ => ?_
    have hkey (k' : String) : (key keys path (s.withItem (some (.object fields)) old)
        k').computationsAt (path ++ [.entry k]) = [] :=
      silent_of_here (key_runs (fun _ _ => hown _) k')
    refine .each hmem (.of_map _ hnodup) (.after (hkey k) fun _ _ => item_visits s c _ _ _)
      fun e he hne => ?_
    have hitem : (item s (path ++ [.entry e.1]) (some e.2) (old.bind (·.field? e.1))
        c).computationsAt (path ++ [.entry k]) = [] :=
      item_silent (fun hk => hne (List.inj_on_of_nodup_map hnodup he hmem
        (Step.entry.inj hk).symm)) s c _ _
    -- the checks of the key and those of the value are both elsewhere
    cases hout : (key keys path (s.withItem (some (.object fields)) old) e.1).outcome with
    | ok _ => rw [computationsAt_bind_of_ok hout, hkey, hitem, List.nil_append]
    | error _ => rw [computationsAt_bind_of_error hout, hkey]

/-- Names are distinct one step down, too. -/
theorem Child.distinctNames (h : Child v x step c z) (hv : v.DistinctNames) :
    c.DistinctNames := by
  cases hv with
  | scalar => cases h
  | object _ hchildren =>
    cases h with
    | property hmem => exact hchildren _ rfl _ hmem
  | array hchild =>
    cases h
    exact hchild _ rfl
  | hashtable hchild =>
    cases h
    exact hchild _ rfl

/-! ## Visits of what is reached -/

/-- The walk from a validator visits the walks from all validators below it. -/
theorem Below.visits (h : Below v value rest w y) (hv : v.DistinctNames)
    (hvalue : ∀ x, value = some x → x.UniqueKeys) (s : Situation) (path : Path)
    (old : Option Json) :
    Visits (path ++ rest) (item s path value old v)
      (item s (path ++ rest) y (old.bind (·.at? rest)) w) := by
  induction h generalizing path old with
  | here =>
    rw [List.append_nil, Json.at?_nil]
    exact item_visits s _ path _ old
  | @step v c w x y z step rest hchild _ ih =>
    have hx := hvalue x rfl
    have hone := hchild.visits hv hx s path old
    have hrest := ih (hchild.distinctNames hv) (hchild.into?_eq hx).2 (path ++ [step])
      (old.bind (Step.into? · step))
    rw [Json.at?_cons, ← List.singleton_append, ← List.append_assoc]
    exact hone.trans hrest

/-- The walk over a document visits the walks from all validators that are reached. -/
theorem Reached.visits {declared : Properties} (h : Reached declared s.newDoc path w y)
    (hdeclared : declared.DistinctNames) (hkeys : s.newDoc.toJson.UniqueKeys)
    (allowUnknown : Bool) :
    Visits path (document declared allowUnknown s) (item s path y (s.counterpart path) w) := by
  obtain ⟨name, v, rest, hmem, rfl, hbelow⟩ := h
  obtain ⟨hnodup, hchildren⟩ := hdeclared
  obtain ⟨-, hfields⟩ := Json.uniqueKeys_object_iff.mp hkeys
  have hrest := hbelow.visits (hchildren _ hmem)
    (fun x hx => hfields _ (Entries.mem_of_get? hx)) s [.property name]
    ((s.oldDoc.map Document.toJson).bind (·.field? name))
  have hcounterpart : s.counterpart (.property name :: rest) =
      ((s.oldDoc.map Document.toJson).bind (·.field? name)).bind (·.at? rest) :=
    Json.at?_cons _ _ _
  rw [hcounterpart]
  have hdocument : Visits [.property name] (document declared allowUnknown s)
      (item s [.property name] (s.newDoc.get? name)
        ((s.oldDoc.map Document.toJson).bind (·.field? name)) v) := by
    unfold document
    refine .before ?_ fun _ _ => ?_
    · rw [properties_eq_each]
      refine .each hmem (.of_map _ hnodup) (item_visits s v _ _ _) fun e he hne => ?_
      have hother : Step.property name ≠ .property e.1 := fun hname =>
        hne (List.inj_on_of_nodup_map hnodup he hmem (Step.property.inj hname).symm)
      have hsilent (value old : Option Json) :
          (item s ([] ++ [.property e.1]) value old e.2).computationsAt
            ([] ++ [.property name]) = [] := item_silent hother s e.2 value old
      exact hsilent _ _
    · exact RunsOnly.silent (P := fun _ _ _ _ => False) (unsupported_runs _ _ _) nofun
  exact hdocument.trans hrest

/-- The checks of a validator are made at its position. -/
theorem item_eq_position (s : Situation) (path : Path) (value old : Option Json) (v : Validator) :
    ∃ content, item s path value old v =
      position v.dataType v.rules path (s.withItem value old) content := by
  cases v with
  | scalar rules type =>
    unfold item
    exact ⟨_, rfl⟩
  | object rules properties allowUnknown =>
    cases properties <;> unfold item <;> exact ⟨_, rfl⟩
  | array rules length elements =>
    cases elements <;> unfold item <;> exact ⟨_, rfl⟩
  | hashtable rules size keys values =>
    cases values <;> unfold item <;> exact ⟨_, rfl⟩

/-- A walk from a validator runs its custom validation first. -/
theorem head?_computations_item {f : Situation → Except ComputationError (List String)}
    (h : w.rules.customValidation = some (.computed f)) (s : Situation) (path : Path)
    (value old : Option Json) :
    (item s path value old w).computations.head? =
      some (path, .customValidation, s.withItem value old) := by
  obtain ⟨content, hposition⟩ := item_eq_position s path value old w
  have hcustom : [(path, .customValidation, s.withItem value old)] <+:
      (customValidation w.rules path (s.withItem value old)).computations := by
    unfold customValidation
    rw [h]
    exact computations_prefix_bind (Trace.read path .customValidation _ (.computed f)) _
  rw [hposition]
  unfold position
  obtain ⟨rest, hrest⟩ := hcustom.trans (computations_prefix_bind _ _)
  rw [← hrest]
  rfl

/-! ## Computations see their own position -/

/-- A walk over a document runs what is asked at the positions that are reached. -/
theorem document_runs (declared : Properties) (allowUnknown : Bool) (s : Situation) :
    RunsOnly (fun place c here run => ∃ w y, Reached declared s.newDoc place w y ∧
      w.Asks s y (s.counterpart place) c here run) (document declared allowUnknown s) := by
  unfold document
  refine RunsOnly.bind ?_ fun _ _ => unsupported_runs _ _ _
  rw [properties_eq_each]
  refine runsOnly_each fun e he => (item_runs s e.2 _ _ _).mono ?_
  rintro _ c here run ⟨rest, w, y, rfl, hbelow, hasks⟩
  refine ⟨w, y, ⟨e.1, e.2, rest, he, rfl, hbelow⟩, ?_⟩
  have hcounterpart : s.counterpart (.property e.1 :: rest) =
      ((s.oldDoc.map Document.toJson).bind (·.field? e.1)).bind (·.at? rest) :=
    Json.at?_cons _ _ _
  show w.Asks s y (s.counterpart (.property e.1 :: rest)) c here run
  rw [hcounterpart]
  exact hasks

/-- What computations are run in a walk over a document, and what they see. -/
structure SituatedComputations (declared : Properties) (allowUnknown : Bool) (s : Situation) :
    Prop where
  /-- A computation that is run is that of a validator that is reached, for a constraint
      that is due. It sees the write with the values that the new and the prior document
      have at its position. If it fails, the walk ends there with its failure. -/
  asked (before after : List Event) (path : Path) (c : Constraint) (here : Situation) :
    (document declared allowUnknown s).log = before ++ .computation path c here :: after →
      ∃ w run, Reached declared s.newDoc path w (s.newDoc.toJson.at? path) ∧
        w.Asks s (s.newDoc.toJson.at? path) (s.counterpart path) c here run ∧
        ∀ e, run here = .error e → after = [] ∧
          (document declared allowUnknown s).outcome = .error (.computationFailed e)
  /-- A walk that ends with the failure of a computation has run it last. -/
  failed (e : ComputationError) :
    (document declared allowUnknown s).outcome = .error (.computationFailed e) →
      ∃ before path c here w run, Reached declared s.newDoc path w (s.newDoc.toJson.at? path) ∧
        w.Asks s (s.newDoc.toJson.at? path) (s.counterpart path) c here run ∧
        run here = .error e ∧
        (document declared allowUnknown s).log = before ++ [.computation path c here]
  /-- At a position that is reached custom validation is run before all that is run there
      and below, unless the walk has ended before. -/
  customFirst (path : Path) (w : Validator) (value : Option Json)
      (f : Situation → Except ComputationError (List String)) :
    Reached declared s.newDoc path w value → w.rules.customValidation = some (.computed f) →
      ((document declared allowUnknown s).computationsAt path).head? =
          some (path, .customValidation, s.withItem value (s.counterpart path)) ∨
        (document declared allowUnknown s).computationsAt path = [] ∧
          ∃ e, (document declared allowUnknown s).outcome = .error e

/-- **Computations see their own position**, whatever slots are computed. -/
theorem computations_situated {declared : Properties} {s : Situation}
    (hdeclared : declared.DistinctNames) (hkeys : s.newDoc.toJson.UniqueKeys)
    (allowUnknown : Bool) : SituatedComputations declared allowUnknown s where
  asked before after path c here hsplit := by
    obtain ⟨run, ⟨w, y, hreached, hasks⟩, hfails⟩ :=
      Runs.of_split (document_runs declared allowUnknown s) hsplit
    have hy := hreached.at?_eq hkeys
    subst hy
    refine ⟨w, run, hreached, hasks, fun e he => ?_⟩
    obtain ⟨hafter, hfailure⟩ := hfails e he
    exact ⟨hafter, failure?_eq_some_iff.mp hfailure⟩
  failed e houtcome := by
    obtain ⟨before, path, c, here, run, hlog, ⟨w, y, hreached, hasks⟩, he⟩ :=
      Runs.of_failure (document_runs declared allowUnknown s) (failure?_eq_some_iff.mpr houtcome)
    have hy := hreached.at?_eq hkeys
    subst hy
    exact ⟨before, path, c, here, w, run, hreached, hasks, he, hlog⟩
  customFirst path w value f hreached hcustom := by
    cases hreached.visits hdeclared hkeys allowUnknown with
    | reached hrun _ =>
      rw [hrun]
      exact .inl (head?_computations_item hcustom s path value (s.counterpart path))
    | stopped e hnone hfails => exact .inr ⟨hnone, e, hfails⟩

/-- Readings of a meter may not fall below the prior ones. There is a custom validation of
    all of them together. -/
def meterProperties : Properties :=
  [("readings", .array { customValidation := some (.computed fun _ => .ok []) } {}
    (some (.scalar {} (.ordinal .integer { minimum := some (.computed fun here =>
      match here.oldValue with
      | some old => .ok old
      | none => .error ⟨"no prior reading"⟩) }))))]

/-- A write with one reading more than there were. -/
def metered : Situation where
  newDoc := ⟨[("readings", .array [.ofNat 5, .ofNat 7, .ofNat 9])], []⟩
  oldDoc := some ⟨[("readings", .array [.ofNat 4, .ofNat 7])], []⟩
  principal := {}
  database := none

/-- The third reading has no prior counterpart, so its bound cannot be computed, and that is
    how the walk ends. Before it, the bounds of the first two were computed from theirs, and
    before these the custom validation was run. -/
theorem computations_situated_meter :
    meterProperties.DistinctNames ∧ metered.newDoc.toJson.UniqueKeys ∧
      SituatedComputations meterProperties false metered ∧
      (document meterProperties false metered).outcome =
        .error (.computationFailed ⟨"no prior reading"⟩) ∧
      (document meterProperties false metered).computations.map
          (fun e => (e.1, e.2.1, e.2.2.value, e.2.2.oldValue)) =
        [([.property "readings"], .customValidation,
            some (.array [.ofNat 5, .ofNat 7, .ofNat 9]), some (.array [.ofNat 4, .ofNat 7])),
          ([.property "readings", .element 0], .range .minimum, some (.ofNat 5), some (.ofNat 4)),
          ([.property "readings", .element 1], .range .minimum, some (.ofNat 7), some (.ofNat 7)),
          ([.property "readings", .element 2], .range .minimum, some (.ofNat 9), none)] := by
  have hdistinct : meterProperties.DistinctNames := by
    refine ⟨List.nodup_singleton _, fun e he => ?_⟩
    cases List.mem_singleton.mp he
    refine .array fun element helement => ?_
    cases helement
    exact .scalar
  have hkeys : metered.newDoc.toJson.UniqueKeys :=
    ⟨List.nodup_singleton _, ⟨trivial, trivial, trivial, trivial⟩, trivial⟩
  exact ⟨hdistinct, hkeys, computations_situated hdistinct hkeys false, rfl, rfl⟩

end Walk

end WritePolicy
