import WritePolicy.Proofs.Lifecycle
import WritePolicy.Proofs.OrderedEntries

/-! # The channels of an accepted write

    An acceptance tells of two lists of channels: those that authorize the operation,
    and all to which the document is assigned. Both are made from the five lists of the
    channel axis by appending what is new, list by list. Appending what is new keeps the
    first occurrences of the lists written one after the other
    (`appendNew_eraseDups`), so both are the first occurrences of a plain
    concatenation, and of these the second contains the first.

    The grants that authorize are those that the writer is held against. So a writer who
    is let in, and neither as one of all members nor by a role nor by name, holds a
    channel of the first list. A document that no definition governs has no grants: an
    administrator who may remove it is held against nothing
    (`removed_without_channel`).
-/

namespace WritePolicy

/-! ## Lists without repetitions -/

/-- To append what is new to first occurrences is to keep the first occurrences of
    both lists. -/
theorem appendNew_eraseDups (xs ys : List String) :
    appendNew xs.eraseDups ys = (xs ++ ys).eraseDups := by
  induction ys generalizing xs with
  | nil => simp [appendNew]
  | cons y rest ih =>
    have hstep : appendNew xs.eraseDups (y :: rest) =
        appendNew (if xs.eraseDups.contains y then xs.eraseDups else xs.eraseDups ++ [y]) rest := rfl
    have hnext : (if xs.eraseDups.contains y then xs.eraseDups else xs.eraseDups ++ [y]) =
        (xs ++ [y]).eraseDups := by
      rw [eraseDups_concat]
      by_cases h : y ∈ xs <;> simp [h, List.mem_eraseDups]
    rw [hstep, hnext, ih, List.append_assoc]
    rfl

theorem appendNew_nil (ys : List String) : appendNew [] ys = ys.eraseDups := by
  have h := appendNew_eraseDups [] ys
  simpa using h

namespace GrantSet

/-- The members for an operation are those of its own list and then those for all
    writes, each where it first occurs. -/
theorem forOperation_eq (g : GrantSet) (op : Operation) :
    g.forOperation op = (g.specific op ++ g.write).eraseDups := by
  unfold forOperation
  rw [appendNew_nil, appendNew_eraseDups]

/-- All members are those of the five lists, each where it first occurs. -/
theorem all_eq (g : GrantSet) :
    g.all = (g.view ++ g.add ++ g.replace ++ g.remove ++ g.write).eraseDups := by
  unfold all
  simp only [List.foldl_cons, List.foldl_nil]
  rw [appendNew_nil, appendNew_eraseDups, appendNew_eraseDups, appendNew_eraseDups,
    appendNew_eraseDups]

/-- Who may carry out an operation is a member of the axis. -/
theorem forOperation_subset_all (g : GrantSet) (op : Operation) : g.forOperation op ⊆ g.all := by
  intro member h
  rw [forOperation_eq, List.mem_eraseDups, List.mem_append] at h
  rw [all_eq, List.mem_eraseDups]
  cases op with
  | add => simp [specific] at h ⊢; tauto
  | replace => simp [specific] at h ⊢; tauto
  | remove => simp [specific] at h ⊢; tauto

end GrantSet

/-! ## Grants -/

/-- The writer is let in by something other than a channel: as one of all members, by a
    role or by name. -/
inductive Authorization.OpensOtherwise (a : Authorization) (op : Operation) (s : Situation) :
    Prop where
  | member : a.allMembers.resolve s = .ok true → s.principal.isAnonymous = false →
      OpensOtherwise a op s
  | role {slot : Slot GrantSet} {g : GrantSet} :
      a.roles = some slot → slot.resolve s = .ok g → g.Meets op s.principal.hasRole →
      OpensOtherwise a op s
  | user {slot : Slot GrantSet} {g : GrantSet} :
      a.users = some slot → slot.resolve s = .ok g → g.Meets op s.principal.isUser →
      OpensOtherwise a op s

/-- A slot that has a value resolves to it. -/
theorem Slot.resolve_of_value {α : Type} {slot : Slot α} {s : Situation} {a : α}
    (h : slot.value s = .ok a) : slot.resolve s = .ok a := by
  unfold value at h
  cases hout : slot.resolve s with
  | ok b =>
    rw [hout] at h
    cases h
    rfl
  | error e =>
    rw [hout] at h
    cases h

/-- A slot that may be unset has a value if it is set and resolves to that value. -/
theorem Slot.valueOf?_eq_some {α : Type} {slot : Option (Slot α)} {s : Situation} {a : α}
    (h : Slot.valueOf? slot s = .ok (some a)) : ∃ x, slot = some x ∧ x.resolve s = .ok a := by
  cases slot with
  | none => cases h
  | some x =>
    obtain ⟨b, hb, h⟩ := bind_eq_ok.mp h
    cases h
    exact ⟨x, rfl, resolve_of_value hb⟩

/-- The four parts that a grant is put together from. -/
theorem Authorization.exists_axes {a : Authorization} {op : Operation} {s : Situation}
    {g : AccessGrant} (h : a.grant op s = .ok g) :
    ∃ channels roles users allMembers,
      Slot.valueOf? a.channels s = .ok channels ∧ Slot.valueOf? a.roles s = .ok roles ∧
      Slot.valueOf? a.users s = .ok users ∧ a.allMembers.value s = .ok allMembers ∧
      ∀ op', a.grant op' s = .ok {
        operation := op'
        channels := channels.map (·.forOperation op')
        roles := roles.map (·.forOperation op')
        users := users.map (·.forOperation op')
        allMembers
        assignedChannels := (channels.map GrantSet.all).getD [] } := by
  obtain ⟨channels, hchannels, h⟩ := bind_eq_ok.mp h
  obtain ⟨roles, hroles, h⟩ := bind_eq_ok.mp h
  obtain ⟨users, husers, h⟩ := bind_eq_ok.mp h
  obtain ⟨allMembers, hall, -⟩ := bind_eq_ok.mp h
  refine ⟨channels, roles, users, allMembers, hchannels, hroles, husers, hall, fun op' => ?_⟩
  unfold grant
  rw [hchannels, hroles, husers, hall]
  rfl

/-- An axis that has a value meets a writer if that value does. -/
theorem AccessGrant.meets_value (axis : Option GrantSet) (op : Operation)
    (holds : String → Bool) :
    meets (axis.map (·.forOperation op)) holds = true ↔
      ∃ g, axis = some g ∧ g.Meets op holds := by
  cases axis with
  | none => simp [meets]
  | some g => simpa [meets] using g.any_forOperation op holds

/-! ## Accepted writes -/

/-- The channels that an acceptance tells of are those of the definition that governs
    the write. -/
structure Definition.AssignsChannels (d : Definition) (r : Request) (a : Acceptance) :
    Prop where
  /-- without a channel axis there are none -/
  unset : d.authorization.channels = none → a.requiredChannels = [] ∧ a.channels = []
  /-- the axis, as it stands for this write, tells both lists -/
  set : ∀ slot, d.authorization.channels = some slot → ∃ g, slot.resolve r.situation = .ok g ∧
    a.requiredChannels = (g.specific r.operation ++ g.write).eraseDups ∧
    a.channels = (g.view ++ g.add ++ g.replace ++ g.remove ++ g.write).eraseDups
  /-- the document is assigned to the same channels by all operations -/
  anyOperation : ∀ op, ∃ g, d.authorization.grant op r.situation = .ok g ∧
    g.assignedChannels = a.channels
  /-- a writer who is let in by nothing else holds a channel that is required -/
  held : ¬ d.authorization.OpensOtherwise r.operation r.situation →
    ∃ c ∈ a.requiredChannels, r.context.principal.hasChannel c = true

/-- What an acceptance tells of channels: both lists are free of repetitions, and what
    is required is assigned. A governed write has the channels of its definition, and one
    that no definition governs has none. -/
structure Definitions.ChannelsTold (definitions : Definitions) (options : Options) (r : Request)
    (a : Acceptance) : Prop where
  required_nodup : a.requiredChannels.Nodup
  nodup : a.channels.Nodup
  subset : a.requiredChannels ⊆ a.channels
  governed : ∀ docType, a.docType = some docType →
    ∃ d, definitions.Governs docType d r.proposed r.prior ∧ d.AssignsChannels r a
  removed : a.docType = none → a.requiredChannels = [] ∧ a.channels = [] ∧
    definitions.Ungoverned r.proposed r.prior ∧ r.proposed.isDeleted = true ∧
    r.context.principal.isAdmin = true ∧ options.allowAdminUnknownTypeDeletion = true

variable {definitions : Definitions} {options : Options} {docType : String} {d : Definition}
  {r : Request} {g : AccessGrant}

/-- A grant that admits the writer tells of the channels of its definition. -/
theorem Granted.assignsChannels (h : Granted d r g) :
    d.AssignsChannels r (.ofGrant docType g) := by
  obtain ⟨channels, roles, users, allMembers, hchannels, hroles, husers, hall, hgrant⟩ :=
    Authorization.exists_axes h.resolved
  -- the grant is the one that is put together for the operation of the write
  have hg := h.resolved.symm.trans (hgrant r.operation)
  cases hg
  constructor
  case unset =>
    intro hunset
    rw [hunset] at hchannels
    cases hchannels
    exact ⟨rfl, rfl⟩
  case set =>
    intro slot hslot
    rw [hslot] at hchannels
    obtain ⟨axis, haxis, hchannels⟩ := bind_eq_ok.mp hchannels
    cases hchannels
    exact ⟨axis, Slot.resolve_of_value haxis, axis.forOperation_eq r.operation, axis.all_eq⟩
  case anyOperation =>
    intro op
    exact ⟨_, hgrant op, rfl⟩
  case held =>
    intro hnot
    have hadmits := h.admits
    rw [AccessGrant.check_eq_none_iff] at hadmits
    rcases hadmits with ⟨hmembers, hknown⟩ | hmeets
    · have hmembers : allMembers = true := hmembers
      rw [hmembers] at hall
      exact absurd (.member (Slot.resolve_of_value hall) hknown) hnot
    -- one of the three axes meets the writer, and it is neither of the other two
    · unfold AccessGrant.meetsSome at hmeets
      rw [Bool.or_eq_true, Bool.or_eq_true, AccessGrant.meets_value roles,
        AccessGrant.meets_value users] at hmeets
      rcases hmeets with (hchannel | ⟨g, rfl, hrole⟩) | ⟨g, rfl, huser⟩
      · cases channels with
        | none => cases hchannel
        | some axis => exact List.any_eq_true.mp hchannel
      · obtain ⟨slot, hslot, hresolve⟩ := Slot.valueOf?_eq_some hroles
        exact absurd (.role hslot hresolve hrole) hnot
      · obtain ⟨slot, hslot, hresolve⟩ := Slot.valueOf?_eq_some husers
        exact absurd (.user hslot hresolve huser) hnot

/-- Channels that a definition assigns are free of repetitions, and what is required is
    assigned. -/
theorem Definition.AssignsChannels.lists {a : Acceptance} (h : d.AssignsChannels r a) :
    a.requiredChannels.Nodup ∧ a.channels.Nodup ∧ a.requiredChannels ⊆ a.channels := by
  cases hchannels : d.authorization.channels with
  | none =>
    obtain ⟨hrequired, hassigned⟩ := h.unset hchannels
    simp [hrequired, hassigned]
  | some slot =>
    obtain ⟨g, -, hrequired, hassigned⟩ := h.set slot hchannels
    have hsubset := g.forOperation_subset_all r.operation
    rw [g.forOperation_eq, g.all_eq] at hsubset
    rw [hrequired, hassigned]
    exact ⟨nodup_eraseDups _, nodup_eraseDups _, hsubset⟩

/-- **Channels of accepted writes.** A governed write is accepted by a grant that admits
    the writer; a write that no definition governs is the removal by an administrator. -/
theorem channels_of_accepted {a : Acceptance}
    (h : (definitions.decide options r).outcome = .ok a) :
    definitions.ChannelsTold options r a := by
  rcases definitions.governs_or_ungoverned r.proposed r.prior with ⟨docType, d, hgov⟩ | hnone
  · rw [Definitions.decide_of_governs options hgov] at h
    have hexit := Decision.governed_exit docType d r
    rw [h] at hexit
    generalize (Decision.governed docType d r).log = log at hexit
    cases hexit with
    | @accepted g hg _ =>
      have hassigns : d.AssignsChannels r (.ofGrant docType g) := hg.assignsChannels
      obtain ⟨hrequired, hassigned, hsubset⟩ := hassigns.lists
      refine ⟨hrequired, hassigned, hsubset, ?_, ?_⟩
      · intro name hname
        cases hname
        exact ⟨d, hgov, hassigns⟩
      · intro hname
        cases hname
  · rw [Definitions.decide_of_ungoverned options hnone] at h
    unfold Decision.ungoverned at h
    split at h
    · next hadmin =>
      cases h
      rw [Bool.and_eq_true, Bool.and_eq_true, and_assoc] at hadmin
      refine ⟨List.nodup_nil, List.nodup_nil, List.Subset.refl _, ?_, ?_⟩
      · intro name hname
        cases hname
      · intro _
        exact ⟨rfl, rfl, hnone, hadmin⟩
    · cases h

/-! ## Bulletins -/

/-- Bulletins are open to the channel of their board, which is computed; desks and
    boards occur more than once. -/
def bulletins : Definitions :=
  [("bulletin", {
    authorization := {
      channels := some (.computed fun s => .ok {
        view := ["public", "desk"]
        add := ["desk", "desk"]
        remove := ["archive"]
        write := ((s.newDoc.get? "board").bind Json.asString?).toList ++ ["desk"] })
      roles := some (.literal (.ofWriters ["editor"])) }
    allowUnknownProperties := .literal true })]

/-- A new bulletin for the north board. -/
def northBulletin : Request where
  newDoc := some ⟨[("type", .string "bulletin"), ("board", .string "north")], []⟩
  context := { principal := { name := some "ann", channels := ["north"] } }

/-- Ann is no editor; she is let in by the channel of the board. -/
theorem channels_of_accepted_bulletin :
    ∃ a, (bulletins.decide {} northBulletin).outcome = .ok a ∧
      a.requiredChannels = ["desk", "north"] ∧
      a.channels = ["public", "desk", "archive", "north"] ∧
      bulletins.ChannelsTold {} northBulletin a := by
  have hdecide : (bulletins.decide {} northBulletin).outcome.toOption = some {
      docType := some "bulletin", operation := .add, requiredChannels := ["desk", "north"],
      channels := ["public", "desk", "archive", "north"] } := by
    decide +kernel
  have houtcome := ok_of_toOption hdecide
  exact ⟨_, houtcome, rfl, rfl, channels_of_accepted houtcome⟩

/-! ## Removals by administrators -/

/-- Memos are open to the desk. Nobody is let in otherwise. -/
def deskMemos : Definitions :=
  [("memo", { authorization := { channels := some (.literal (.ofWriters ["desk"])) } })]

/-- An administrator without a channel, a role or a name removes a letter. -/
def letterRemoval : Request where
  newDoc := some .deletionMarker
  oldDoc := some ⟨[("_id", .string "l1"), ("type", .string "letter")], []⟩
  context := { principal := { admin := true } }

/-- Where administrators may remove what no definition governs, such a write is accepted,
    and the writer holds no channel that is required: there is none. Nothing else lets
    the writer in either. -/
theorem removed_without_channel :
    ∃ a, (deskMemos.decide Host.couchDb.options letterRemoval).outcome = .ok a ∧
      (∀ e ∈ deskMemos, ¬ e.2.authorization.OpensOtherwise letterRemoval.operation
        letterRemoval.situation) ∧
      ¬ ∃ c ∈ a.requiredChannels, letterRemoval.context.principal.hasChannel c = true := by
  have hdecide : (deskMemos.decide Host.couchDb.options letterRemoval).outcome.toOption = some {
      docType := none, operation := .remove, requiredChannels := [], channels := [] } := by
    decide +kernel
  refine ⟨_, ok_of_toOption hdecide, ?_, ?_⟩
  · intro e he hopens
    cases List.mem_singleton.mp he
    cases hopens with
    | member hmembers _ => cases hmembers
    | role hslot _ _ => cases hslot
    | user hslot _ _ => cases hslot
  · rintro ⟨c, hc, -⟩
    cases hc

end WritePolicy
