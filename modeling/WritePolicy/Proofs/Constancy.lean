import WritePolicy.Proofs.Content
import WritePolicy.Proofs.History
import WritePolicy.Proofs.Immutability

/-! # Values that stay the same over a run

    Every write is compared with the revision before it, and with no other. That a
    frozen property of a document keeps its value over any number of revisions
    takes three things:

    * the definition stays the same: where all filters go by the `type` property,
      a live document is replaced only under the type that it names;
    * a frozen value stays frozen: what is set is not unset;
    * equality is transitive as every type understands it (`sameValue_trans`), so
      nothing drifts through revisions that are equal two by two.

    The step is a replacement (`accepted_unchanged`), and the induction goes back
    from the last write of the run to the revision that is compared with.
-/

namespace WritePolicy

/-! ## What a write does -/

namespace Request

variable {r : Request}

/-- A write removes exactly if its new document is deleted. -/
theorem operation_eq_remove_iff : r.operation = .remove ↔ r.proposed.Tombstone := by
  unfold operation
  rw [Operation.classify_eq_iff]
  generalize r.prior = prior
  constructor
  · intro h
    cases h with
    | remove htomb => exact htomb
  · exact fun htomb => .remove htomb

end Request

namespace Walk

/-! ## Frozen values -/

variable {type : DataType} {rules : CommonRules} {x y z : Option Json}

/-- A value that has not changed twice has not changed. -/
theorem Unchanged.trans (hxy : Unchanged type x y) (hyz : Unchanged type y z) :
    Unchanged type x z := by
  rcases hxy with ⟨hx, hy⟩ | ⟨a, b, ha, hb, hab⟩
  · rcases hyz with ⟨_, hz⟩ | ⟨b, _, hb, _, _⟩
    · exact .inl ⟨hx, hz⟩
    · rw [hy] at hb
      cases hb
  · rcases hyz with ⟨hy, _⟩ | ⟨b', c, hb', hc, hbc⟩
    · rw [hy] at hb
      cases hb
    · rw [hb] at hb'
      cases hb'
      exact .inr ⟨a, c, ha, hc, type.sameValue_trans hab hbc⟩

/-- A frozen value that has not changed is still frozen. -/
theorem Frozen.of_unchanged (h : Frozen rules y) (hxy : Unchanged type x y) :
    Frozen rules x := by
  rcases h with himmutable | ⟨hset, hy⟩
  · exact .inl himmutable
  · refine .inr ⟨hset, ?_⟩
    rcases hxy with ⟨_, hnone⟩ | ⟨a, _, ha, _, _⟩
    · exact absurd hnone hy
    · rw [ha]
      nofun

end Walk

open Walk

namespace Definitions

/-! ## One definition over a run -/

variable {definitions : Definitions} {options : Options} {docType docType' : String}
  {d d' : Definition} {r : Request} {a : Acceptance}

/-- Every definition is recognized by the `type` property. -/
def Simple (definitions : Definitions) : Prop :=
  ∀ e ∈ definitions, e.2.typeFilter = .simple

instance (filter : TypeFilter) : Decidable (filter = .simple) :=
  match filter with
  | .simple => isTrue rfl
  | .idPattern _ => isFalse nofun
  | .custom _ => isFalse nofun

instance (definitions : Definitions) : Decidable definitions.Simple :=
  inferInstanceAs (Decidable (∀ e ∈ definitions, e.2.typeFilter = .simple))

/-- A simple definition governs the pairs that name its type. -/
theorem Governs.governingType?_eq {new : Document} {old : Option Document}
    (h : definitions.Governs docType d new old) (hsimple : definitions.Simple) :
    governingType? new old = some docType := by
  have haccepts := h.accepts
  rw [hsimple _ h.mem] at haccepts
  exact eq_of_beq haccepts

/-- A live write that is accepted is governed, and accepted under the type that
    governs it. -/
theorem exists_governs_of_live (hstatic : definitions.Static)
    (haccepted : (definitions.decide options r).outcome = .ok a)
    (hlive : ¬ r.proposed.Tombstone) :
    ∃ docType d, definitions.Governs docType d r.proposed r.prior ∧
      a.docType = some docType := by
  rcases definitions.governs_or_ungoverned r.proposed r.prior with ⟨docType, d, hgov⟩ | hnone
  · exact ⟨docType, d, hgov, (hgov.accepts_of_accepted hstatic haccepted).2.1⟩
  · -- without a definition, only a deletion can be accepted
    exfalso
    rw [decide_of_ungoverned options hnone] at haccepted
    unfold Decision.ungoverned at haccepted
    split at haccepted
    · rename_i hallowed
      rw [Bool.and_eq_true, Bool.and_eq_true] at hallowed
      exact hlive (r.proposed.isDeleted_iff.mp hallowed.1.1)
    · cases haccepted

/-- A live document is replaced under the definition that governed it. -/
theorem Governs.of_replaced {old : Document} {prior : Option Document}
    (h : definitions.Governs docType d old prior)
    (h' : definitions.Governs docType' d' r.proposed r.prior)
    (hsimple : definitions.Simple) (hnodup : (Entries.keys definitions).Nodup)
    (hold : ¬ old.Tombstone) (hprior : r.prior = some old) : docType = docType' ∧ d = d' := by
  -- both pairs name the type of the document between them
  have htype : old.typeName? = some docType := by
    have hnamed := h.governingType?_eq hsimple
    rcases governingType?_of_live prior hold with hlive | hnone
    · rw [← hlive, hnamed]
    · rw [hnone] at hnamed
      cases hnamed
  have htype' : old.typeName? = some docType' := by
    have hnamed := h'.governingType?_eq hsimple
    rw [hprior] at hnamed
    rcases governingType?_of_prior r.proposed old with hold | hnone
    · rw [← hold, hnamed]
    · rw [hnone] at hnamed
      cases hnamed
  rw [htype] at htype'
  cases htype'
  exact ⟨rfl, h.eq_of_docType_eq h' hnodup⟩

/-! ## One replacement -/

/-- An accepted replacement leaves a frozen top-level property as it was. -/
theorem Governs.accepted_unchanged (h : definitions.Governs docType d r.proposed r.prior)
    (hstatic : definitions.Static) (haccepted : (definitions.decide options r).outcome = .ok a)
    (hlive : ¬ r.proposed.Tombstone) {old : Document} (hprior : r.prior = some old)
    {name : String} {v : Validator} (hmem : (name, v) ∈ d.properties)
    (hfrozen : Frozen v.rules (old.get? name)) :
    Unchanged v.dataType (r.proposed.get? name) (old.get? name) := by
  obtain ⟨haccepts, _⟩ := h.accepts_of_accepted hstatic haccepted
  have hfound : d.FindsNothing r.situation :=
    haccepts.content fun hremove => hlive (Request.operation_eq_remove_iff.mp hremove)
  obtain ⟨_, _, hconforms⟩ := hfound.conforms (hstatic _ h.mem)
  -- the top of a document is always enclosed
  have hdesc : Describes d.properties [.property name] v := ⟨name, v, [], hmem, rfl, .here⟩
  have hencl : Encloses (some r.proposed.toJson) [.property name] := ⟨_, rfl, trivial⟩
  have hat (doc : Document) : doc.toJson.at? [.property name] = doc.get? name :=
    Json.at?_nil _
  have hkept := hconforms.unchanged hprior hdesc hencl ((hat old).symm ▸ hfrozen)
  rw [hat old] at hkept
  exact hat r.proposed ▸ hkept

end Definitions

/-! ## Along a run -/

section Constancy

variable {definitions : Definitions} {options : Options} {docType : String} {d : Definition}
  {past later : List (Request × Acceptance)} {r r' : Request} {a a' : Acceptance}

/-- Every write of a run was accepted. -/
theorem Run.accepted_of_mem {writes : List (Request × Acceptance)} {w : Request × Acceptance}
    (h : Run definitions options writes) (hw : w ∈ writes) :
    (definitions.decide options w.1).outcome = .ok w.2 := by
  induction h with
  | start => cases hw
  | write _ _ haccepted ih =>
    rcases List.mem_cons.mp hw with rfl | hw
    · exact haccepted
    · exact ih hw

/-- A write leaves what was frozen in a base revision as it was there: it is
    governed by the definition, and its frozen values are those of the base. -/
structure KeepsFrozen (definitions : Definitions) (docType : String) (d : Definition)
    (base : Document) (r : Request) : Prop where
  governs : definitions.Governs docType d r.proposed r.prior
  unchanged : ∀ e ∈ d.properties, Frozen e.2.rules (base.get? e.1) →
    Unchanged e.2.dataType (r.proposed.get? e.1) (base.get? e.1)

/-- The next live write is governed by the same definition, and leaves what is
    frozen as it is. -/
theorem Run.next_keepsFrozen (h : Run definitions options ((r', a') :: (r, a) :: past))
    (hload : definitions.Loaded) (hsimple : definitions.Simple)
    (hlive : ¬ r.proposed.Tombstone) (hlive' : ¬ r'.proposed.Tombstone)
    (hgov : definitions.Governs docType d r.proposed r.prior) :
    KeepsFrozen definitions docType d r.proposed r' := by
  have hprior := h.prior_eq hlive
  obtain ⟨_, _, hgov', _⟩ :=
    Definitions.exists_governs_of_live hload.static h.accepted hlive'
  obtain ⟨rfl, rfl⟩ := hgov.of_replaced hgov' hsimple hload.nodup_keys hlive hprior
  exact ⟨hgov', fun e he hfrozen =>
    hgov'.accepted_unchanged hload.static h.accepted hlive' hprior he hfrozen⟩

/-- What a revision leaves as it was in the base, and the next write leaves as it
    was in that revision, is as it was in the base. -/
theorem KeepsFrozen.trans {base : Document}
    (h : KeepsFrozen definitions docType d base r)
    (h' : KeepsFrozen definitions docType d r.proposed r') :
    KeepsFrozen definitions docType d base r' where
  governs := h'.governs
  unchanged := by
    intro e he hfrozen
    have hfirst := h.unchanged e he hfrozen
    exact (h'.unchanged e he (hfrozen.of_unchanged hfirst)).trans hfirst

/-- All later revisions of a document that is not removed leave what was frozen in
    a revision as it was there. -/
theorem Run.later_keepsFrozen (h : Run definitions options (later ++ (r, a) :: past))
    (hload : definitions.Loaded) (hsimple : definitions.Simple)
    (hlive : ∀ w ∈ later ++ [(r, a)], ¬ w.1.proposed.Tombstone)
    (hgov : definitions.Governs docType d r.proposed r.prior) :
    ∀ w ∈ later, KeepsFrozen definitions docType d r.proposed w.1 := by
  -- the induction takes the last write off; what it replaced is the revision
  -- itself, or a later one
  induction later with
  | nil => nofun
  | cons last earlier ih =>
    have hlive' : ∀ w ∈ earlier ++ [(r, a)], ¬ w.1.proposed.Tombstone :=
      fun w hw => hlive w (List.mem_cons_of_mem _ hw)
    have hearlier := ih h.tail hlive'
    have hlast : KeepsFrozen definitions docType d r.proposed last.1 := by
      cases earlier with
      | nil =>
        exact h.next_keepsFrozen hload hsimple (hlive' _ List.mem_cons_self)
          (hlive _ List.mem_cons_self) hgov
      | cons before rest =>
        have hbefore := hearlier before List.mem_cons_self
        have hnext := h.next_keepsFrozen hload hsimple (hlive' _ List.mem_cons_self)
          (hlive _ List.mem_cons_self) hbefore.governs
        exact hbefore.trans hnext
    exact List.forall_mem_cons.mpr ⟨hlast, hearlier⟩

/-- Within a period in which one definition governs a live document, every revision
    is a base of those after it. -/
theorem Run.keepsFrozen_since {period after before : List (Request × Acceptance)}
    {w : Request × Acceptance} (h : Run definitions options (period ++ past))
    (hload : definitions.Loaded) (hsimple : definitions.Simple)
    (hlive : ∀ w ∈ period, ¬ w.1.proposed.Tombstone)
    (hgov : ∀ w ∈ period, definitions.Governs docType d w.1.proposed w.1.prior)
    (hsplit : period = after ++ w :: before) :
    ∀ w' ∈ after, KeepsFrozen definitions docType d w.1.proposed w'.1 := by
  subst hsplit
  rw [List.append_assoc, List.cons_append] at h
  refine h.later_keepsFrozen hload hsimple (fun w' hw' => hlive w' ?_)
    (hgov w (List.mem_append_right _ List.mem_cons_self))
  rcases List.mem_append.mp hw' with hw' | hw'
  · exact List.mem_append_left _ hw'
  · cases List.mem_singleton.mp hw'
    exact List.mem_append_right _ List.mem_cons_self

/-- While a document is not removed, its type stays the same, an immutable
    top-level property keeps the value with which the document was added, and one
    that is immutable when set keeps the value that any revision has set. -/
theorem immutable_properties_constant (hload : definitions.Loaded)
    (hsimple : definitions.Simple) (hrun : Run definitions options (later ++ (r, a) :: past))
    (hadd : r.operation = .add) (hkept : ∀ w ∈ later, w.1.operation ≠ .remove) :
    ∃ docType d, definitions.Governs docType d r.proposed r.prior ∧
      (∀ w ∈ later ++ [(r, a)], w.2.docType = some docType) ∧
      ∀ name v, (name, v) ∈ d.properties →
        (v.rules.immutable = .literal true → ∀ w ∈ later,
          Unchanged v.dataType (w.1.proposed.get? name) (r.proposed.get? name)) ∧
        (v.rules.immutableWhenSet = .literal true → ∀ after w before,
          later ++ [(r, a)] = after ++ w :: before → present (w.1.proposed.get? name) ≠ none →
          ∀ w' ∈ after,
            Unchanged v.dataType (w'.1.proposed.get? name) (w.1.proposed.get? name)) := by
  rw [← List.singleton_append, ← List.append_assoc] at hrun
  have hlive : ∀ w ∈ later ++ [(r, a)], ¬ w.1.proposed.Tombstone := by
    intro w hw htomb
    have hremove := Request.operation_eq_remove_iff.mpr htomb
    rcases List.mem_append.mp hw with hw | hw
    · exact hkept w hw hremove
    · cases List.mem_singleton.mp hw
      rw [hadd] at hremove
      cases hremove
  have haccepted : ∀ w ∈ later ++ [(r, a)], (definitions.decide options w.1).outcome = .ok w.2 :=
    fun w hw => hrun.accepted_of_mem (List.mem_append_left _ hw)
  have hadded : (r, a) ∈ later ++ [(r, a)] := List.mem_append_right _ List.mem_cons_self
  obtain ⟨docType, d, hgov, _⟩ :=
    Definitions.exists_governs_of_live hload.static (haccepted _ hadded) (hlive _ hadded)
  -- the definition that governs the addition governs the whole period
  have hgoverns : ∀ w ∈ later ++ [(r, a)],
      definitions.Governs docType d w.1.proposed w.1.prior := by
    intro w hw
    rcases List.mem_append.mp hw with hw | hw
    · rw [List.append_assoc] at hrun
      exact (hrun.later_keepsFrozen hload hsimple hlive hgov w hw).governs
    · cases List.mem_singleton.mp hw
      exact hgov
  refine ⟨docType, d, hgov, fun w hw => ?_, fun name v hmem => ⟨?_, ?_⟩⟩
  · exact ((hgoverns w hw).accepts_of_accepted hload.static (haccepted w hw)).2.1
  · intro himmutable w hw
    have hkeeps := hrun.keepsFrozen_since hload hsimple hlive hgoverns rfl w hw
    exact hkeeps.unchanged (name, v) hmem (.inl himmutable)
  · intro hset after w before hsplit hpresent w' hw'
    have hkeeps := hrun.keepsFrozen_since hload hsimple hlive hgoverns hsplit w' hw'
    exact hkeeps.unchanged (name, v) hmem (.inr ⟨hset, hpresent⟩)

end Constancy

/-- Log entries: the time of an entry may not change, nor its rank once it is set. -/
def entryText : String :=
  let property (type flag : String) : Json :=
    .object [("type", .string type), (flag, .bool true)]
  (Json.object [("entry", .object [
    ("channels", .string "desk"),
    ("propertyValidators", .object [
      ("type", .object [("type", .string "typeId")]),
      ("time", property "datetime" "immutable"),
      ("rank", property "integer" "immutableWhenSet")])])]).compact

/-- A revision of an entry. -/
def entryDocument (time : String) (rank : Json) : Document :=
  ⟨[("type", .string "entry"), ("time", .string time), ("rank", rank)], []⟩

/-- An entry without a rank. -/
def unrankedEntry : Document :=
  entryDocument "2016-07-19T19:24:38.920-0700" .null

/-- The entry gets a rank. Its time is written in UTC. -/
def rankedEntry : Document :=
  entryDocument "2016-07-20T02:24:38.92Z" (.ofNat 1)

/-- The rank is written as a float, and the time at another offset. -/
def rewrittenEntry : Document :=
  entryDocument "2016-07-20T04:24:38.920+02:00"
    (.number (.float ((Binary64.ofNat? 1).getD (.zero false))))

/-- The entry is added, ranked and rewritten. -/
def entryRun : List (Request × Acceptance) :=
  let accepted (operation : Operation) : Acceptance :=
    ⟨some "entry", operation, ["desk"], ["desk"]⟩
  [(deskWrite rewrittenEntry (some rankedEntry), accepted .replace),
    (deskWrite rankedEntry (some unrankedEntry), accepted .replace),
    (deskWrite unrankedEntry none, accepted .add)]

/-- The time stays what it was when the entry was added, and the rank what it was
    when it was set, although both are written differently in the end. -/
theorem immutable_properties_constant_entry :
    ∃ definitions d time rank, Definitions.parse .json entryText = .ok definitions ∧
      Run definitions {} entryRun ∧ definitions.Governs "entry" d unrankedEntry none ∧
      ("time", time) ∈ d.properties ∧ ("rank", rank) ∈ d.properties ∧
      Unchanged time.dataType (rewrittenEntry.get? "time") (unrankedEntry.get? "time") ∧
      Unchanged rank.dataType (rewrittenEntry.get? "rank") (rankedEntry.get? "rank") := by
  have hcompute : ((Definitions.parse .json entryText).toOption.bind fun definitions =>
      (definitions.identify unrankedEntry none).bind fun e =>
        (Entries.get? "time" e.2.properties).bind fun time =>
          (Entries.get? "rank" e.2.properties).map fun rank =>
            (e.1, decide definitions.Simple, time.rules.immutable.literal?,
              rank.rules.immutableWhenSet.literal?,
              decide (∀ w ∈ entryRun, (definitions.decide {} w.1).outcome.toOption = some w.2))) =
      some ("entry", true, some true, some true, true) := by
    have htext : entryText = Json.compact _ := rfl
    rw [htext, Definitions.parse_compact]
    decide +kernel
  obtain ⟨definitions, hload, hcompute⟩ := Option.bind_eq_some_iff.mp hcompute
  obtain ⟨⟨docType, d⟩, hidentify, hcompute⟩ := Option.bind_eq_some_iff.mp hcompute
  obtain ⟨time, htime, hcompute⟩ := Option.bind_eq_some_iff.mp hcompute
  obtain ⟨rank, hrank, hcompute⟩ := Option.map_eq_some_iff.mp hcompute
  simp only [Prod.mk.injEq, decide_eq_true_eq, Slot.literal?_eq_some] at hcompute
  obtain ⟨rfl, hsimple, himmutable, hset, haccepted⟩ := hcompute
  have hload := ok_of_toOption hload
  have hgov := Definitions.identify_eq_some_iff.mp hidentify
  have hrun : Run definitions {} entryRun :=
    .write (.write (.write .start rfl (ok_of_toOption (haccepted _ (.tail _ (.tail _ (.head _))))))
      rfl (ok_of_toOption (haccepted _ (.tail _ (.head _)))))
      rfl (ok_of_toOption (haccepted _ (.head _)))
  have htime := Entries.mem_of_get? htime
  have hrank := Entries.mem_of_get? hrank
  -- both later writes replace
  have hkept : ∀ w ∈ entryRun.take 2, w.1.operation ≠ .remove := by decide +kernel
  obtain ⟨_, d', hgov', _, hconstant⟩ :=
    @immutable_properties_constant definitions {} [] (entryRun.take 2) _ _ (.file hload) hsimple
      hrun rfl hkept
  obtain ⟨-, rfl⟩ := hgov.unique hgov'
  refine ⟨definitions, d, time, rank, hload, hrun, hgov, htime, hrank, ?_, ?_⟩
  · exact (hconstant _ _ htime).1 himmutable _ (.head _)
  · exact (hconstant _ _ hrank).2 hset (entryRun.take 1) _ _ rfl nofun _ (.head _)

end WritePolicy
