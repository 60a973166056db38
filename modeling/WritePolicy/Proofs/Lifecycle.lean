import WritePolicy.Proofs.Decision

/-! # Calls of actions

    A definition may have an action after each of three stages. The decision on a
    write goes through the stages in order, and it can end at an action or
    between two of them:

    * an action refuses the write;
    * the grants fail, or they do not admit the writer;
    * the report fails, or it is not empty.

    So what is called are the actions of an initial segment of the stages, as far
    as there are any, and the result of the decision tells which segment. Nothing
    is assumed of the definitions here: slots may be computed and may fail, and an
    action may be missing, pass or refuse.

    `Exit` lists the ends of a governed decision together with the calls up to
    them; the table of calls by result is read off it.
-/

namespace WritePolicy

/-! ## Calls -/

/-- The stages, in order. -/
def Stage.all : List Stage :=
  [.identified, .authorized, .validated]

/-- The stages that come before a stage. -/
def Stage.before : Stage → List Stage
  | .identified => []
  | .authorized => [.identified]
  | .validated => [.identified, .authorized]

/-- The stages before a stage and the stage itself begin the list of stages. -/
theorem Stage.before_append_prefix (stage : Stage) : stage.before ++ [stage] <+: Stage.all := by
  cases stage with
  | identified => exact ⟨[.authorized, .validated], rfl⟩
  | authorized => exact ⟨[.validated], rfl⟩
  | validated => exact ⟨[], rfl⟩

/-- The call of an action at a stage, where a grant is told of from authorization
    on. -/
def ActionCall.at (docType : String) (grant : Option AccessGrant) (s : Situation) :
    Stage → ActionCall
  | .identified => ⟨.identified, docType, none, s⟩
  | .authorized => ⟨.authorized, docType, grant, s⟩
  | .validated => ⟨.validated, docType, grant, s⟩

@[simp] theorem ActionCall.at_stage {docType : String} {grant : Option AccessGrant}
    {s : Situation} (stage : Stage) : (ActionCall.at docType grant s stage).stage = stage := by
  cases stage <;> rfl

@[simp] theorem ActionCall.at_docType {docType : String} {grant : Option AccessGrant}
    {s : Situation} (stage : Stage) : (ActionCall.at docType grant s stage).docType = docType := by
  cases stage <;> rfl

namespace Actions

variable {actions : Actions} {docType : String} {grant : Option AccessGrant} {s : Situation}

/-- There is an action for the stage of a call, and it returns the result. -/
def Returns (actions : Actions) (call : ActionCall) (result : Except String Unit) : Prop :=
  ∃ action, actions.at? call.stage = some action ∧ action call = result

/-- All actions that are called let the write pass. -/
def Pass (actions : Actions) (calls : List ActionCall) : Prop :=
  ∀ call ∈ calls, actions.Returns call (.ok ())

/-- The calls at some stages, as far as there are actions for them. -/
def calls (actions : Actions) (docType : String) (grant : Option AccessGrant) (s : Situation)
    (stages : List Stage) : List ActionCall :=
  (stages.filter fun stage => (actions.at? stage).isSome).map (.at docType grant s)

/-- The stages of the calls are some of the given ones. -/
theorem stages_calls_sublist (stages : List Stage) :
    ((actions.calls docType grant s stages).map ActionCall.stage).Sublist stages := by
  have hstages : (actions.calls docType grant s stages).map ActionCall.stage =
      stages.filter fun stage => (actions.at? stage).isSome := by
    unfold calls
    rw [List.map_map]
    exact (List.map_congr_left fun stage _ => ActionCall.at_stage stage).trans (List.map_id _)
  rw [hstages]
  exact List.filter_sublist

/-- A call has one result. -/
theorem Returns.unique {call : ActionCall} {result result' : Except String Unit}
    (h : actions.Returns call result) (h' : actions.Returns call result') : result = result' := by
  obtain ⟨action, haction, rfl⟩ := h
  obtain ⟨action', haction', rfl⟩ := h'
  rw [haction] at haction'
  cases haction'
  rfl

theorem calls_append (before after : List Stage) :
    actions.calls docType grant s (before ++ after) =
      actions.calls docType grant s before ++ actions.calls docType grant s after := by
  simp only [calls, List.filter_append, List.map_append]

/-- One stage is called if there is an action for it. -/
theorem calls_singleton (stage : Stage) : actions.calls docType grant s [stage] =
    if (actions.at? stage).isSome then [.at docType grant s stage] else [] := by
  unfold calls
  rw [List.filter_cons]
  split <;> rfl

/-- Up to identification, no grant is told of. -/
theorem calls_identified (grant grant' : Option AccessGrant) :
    actions.calls docType grant s [.identified] = actions.calls docType grant' s [.identified] := by
  rw [calls_singleton, calls_singleton]
  rfl

/-- A stage with an action is called. -/
theorem calls_of_returns {stage : Stage} {result : Except String Unit}
    (h : actions.Returns (.at docType grant s stage) result) :
    actions.calls docType grant s [stage] = [.at docType grant s stage] := by
  obtain ⟨action, haction, -⟩ := h
  rw [ActionCall.at_stage] at haction
  rw [calls_singleton, haction]
  rfl

theorem pass_nil : actions.Pass [] := by
  intro call hcall
  cases hcall

theorem pass_singleton {call : ActionCall} (h : actions.Returns call (.ok ())) :
    actions.Pass [call] := by
  intro call' hcall
  cases List.mem_singleton.mp hcall
  exact h

theorem Pass.append {before after : List ActionCall} (h : actions.Pass before)
    (h' : actions.Pass after) : actions.Pass (before ++ after) := by
  intro call hcall
  rcases List.mem_append.mp hcall with hcall | hcall
  · exact h call hcall
  · exact h' call hcall

end Actions

/-! ## Ends of a governed decision -/

/-- The grant that a definition gives to the writer of a request. -/
structure Granted (d : Definition) (r : Request) (g : AccessGrant) : Prop where
  resolved : d.authorization.grant r.operation r.situation = .ok g
  admits : g.check r.context.principal = none
  operation : g.operation = r.operation

/-- An acceptance tells of the grant. -/
def Acceptance.ofGrant (docType : String) (g : AccessGrant) : Acceptance where
  docType := some docType
  operation := g.operation
  requiredChannels := g.channels.getD []
  channels := g.assignedChannels

namespace Decision

/-- How a governed decision ends: what has been called, and with which result. -/
inductive Exit (docType : String) (d : Definition) (r : Request) :
    List ActionCall → Except Rejection Acceptance → Prop where
  /-- an action refuses the write; those before it have let it pass -/
  | refused {stage : Stage} {grant : Option AccessGrant} {message : String} :
      (stage ≠ .identified → ∃ g, grant = some g ∧ Granted d r g) →
      d.actions.Pass (d.actions.calls docType grant r.situation stage.before) →
      d.actions.Returns (.at docType grant r.situation stage) (.error message) →
      Exit docType d r
        (d.actions.calls docType grant r.situation stage.before ++
          [.at docType grant r.situation stage])
        (.error (.refused docType message))
  /-- the grants fail -/
  | ungranted {cause : Misconfiguration} :
      d.actions.Pass (d.actions.calls docType none r.situation [.identified]) →
      Exit docType d r (d.actions.calls docType none r.situation [.identified])
        (.error (.misconfigured cause))
  /-- the grants do not admit the writer, who has no identity -/
  | unauthorized {reason : DenialReason} :
      d.actions.Pass (d.actions.calls docType none r.situation [.identified]) →
      Exit docType d r (d.actions.calls docType none r.situation [.identified])
        (.error (.unauthorized reason))
  /-- the grants do not admit the writer, who has an identity -/
  | forbidden {reason : DenialReason} :
      d.actions.Pass (d.actions.calls docType none r.situation [.identified]) →
      Exit docType d r (d.actions.calls docType none r.situation [.identified])
        (.error (.forbidden reason))
  /-- the report fails -/
  | unreported {g : AccessGrant} {cause : Misconfiguration} :
      Granted d r g →
      d.actions.Pass (d.actions.calls docType (some g) r.situation [.identified, .authorized]) →
      Exit docType d r
        (d.actions.calls docType (some g) r.situation [.identified, .authorized])
        (.error (.misconfigured cause))
  /-- the report is not empty -/
  | invalid {g : AccessGrant} {report : List Violation} :
      Granted d r g →
      d.actions.Pass (d.actions.calls docType (some g) r.situation [.identified, .authorized]) →
      Exit docType d r
        (d.actions.calls docType (some g) r.situation [.identified, .authorized])
        (.error (.invalid docType report))
  /-- nothing is left to do -/
  | accepted {g : AccessGrant} :
      Granted d r g →
      d.actions.Pass (d.actions.calls docType (some g) r.situation Stage.all) →
      Exit docType d r (d.actions.calls docType (some g) r.situation Stage.all)
        (.ok (.ofGrant docType g))

variable {docType : String} {d : Definition} {r : Request} {g : AccessGrant}

/-- An action that is there is called, and the write passes or is refused. -/
theorem act_cases (actions : Actions) (docType : String) (grant : Option AccessGrant)
    (s : Situation) (stage : Stage) :
    (act actions (.at docType grant s stage) =
        ⟨actions.calls docType grant s [stage], .ok ()⟩ ∧
      actions.Pass (actions.calls docType grant s [stage])) ∨
      ∃ message, act actions (.at docType grant s stage) =
          ⟨[.at docType grant s stage], .error (.refused docType message)⟩ ∧
        actions.Returns (.at docType grant s stage) (.error message) := by
  unfold act
  rw [ActionCall.at_stage, ActionCall.at_docType, Actions.calls_singleton]
  cases haction : actions.at? stage with
  | none => exact .inl ⟨rfl, Actions.pass_nil⟩
  | some action =>
    have hreturns : actions.Returns (.at docType grant s stage)
        (action (.at docType grant s stage)) :=
      ⟨action, by rw [ActionCall.at_stage, haction], rfl⟩
    cases hresult : action (.at docType grant s stage) with
    | error message =>
      rw [hresult] at hreturns
      exact .inr ⟨message, by simp only [hresult]; rfl, hreturns⟩
    | ok _ =>
      rw [hresult] at hreturns
      exact .inl ⟨by simp only [hresult]; rfl, Actions.pass_singleton hreturns⟩

/-- What follows an action is carried out if the write passes. -/
theorem act_bind_cases {α : Type} (actions : Actions) (docType : String)
    (grant : Option AccessGrant) (s : Situation) (stage : Stage) (next : Decision α) :
    ((act actions (.at docType grant s stage) >>= fun _ => next) =
        ⟨actions.calls docType grant s [stage] ++ next.log, next.outcome⟩ ∧
      actions.Pass (actions.calls docType grant s [stage])) ∨
      ∃ message, (act actions (.at docType grant s stage) >>= fun _ => next) =
          ⟨[.at docType grant s stage], .error (.refused docType message)⟩ ∧
        actions.Returns (.at docType grant s stage) (.error message) := by
  rcases act_cases actions docType grant s stage with ⟨hact, hpass⟩ | ⟨message, hact, hrefused⟩
  · rw [hact]
    exact .inl ⟨rfl, hpass⟩
  · rw [hact]
    exact .inr ⟨message, rfl, hrefused⟩

/-! ### The stages -/

/-- What is left of a governed decision when the report is known. -/
def reported (docType : String) (d : Definition) (r : Request) (g : AccessGrant)
    (report : List Violation) : Decision Acceptance := do
  if !report.isEmpty then Logged.fail (.invalid docType report)
  act d.actions (.at docType (some g) r.situation .validated)
  return .ofGrant docType g

/-- What is left of a governed decision when the writer is admitted. -/
def admitted (docType : String) (d : Definition) (r : Request) (g : AccessGrant) :
    Decision Acceptance := do
  act d.actions (.at docType (some g) r.situation .authorized)
  reported docType d r g (← ofDefinition (d.violations r.operation r.situation))

/-- A governed decision is identification and authorization, then what is left. -/
theorem governed_eq (docType : String) (d : Definition) (r : Request) :
    governed docType d r = (do
      act d.actions (.at docType none r.situation .identified)
      let g ← ofDefinition (d.authorization.grant r.operation r.situation)
      authorize g r.context.principal
      admitted docType d r g) :=
  rfl

/-- With the report known, an action is left. -/
theorem reported_exit (hg : Granted d r g)
    (hpass : d.actions.Pass
      (d.actions.calls docType (some g) r.situation [.identified, .authorized]))
    (report : List Violation) :
    Exit docType d r
      (d.actions.calls docType (some g) r.situation [.identified, .authorized] ++
        (reported docType d r g report).log)
      (reported docType d r g report).outcome := by
  cases report with
  | cons v rest =>
    show Exit docType d r (_ ++ []) (.error (.invalid docType (v :: rest)))
    rw [List.append_nil]
    exact .invalid hg hpass
  | nil =>
    have hreported : reported docType d r g [] =
        act d.actions (.at docType (some g) r.situation .validated) >>= fun _ =>
          pure (Acceptance.ofGrant docType g) := rfl
    rw [hreported]
    rcases act_bind_cases d.actions docType (some g) r.situation .validated
      (pure (Acceptance.ofGrant docType g)) with ⟨hact, hvalidated⟩ | ⟨message, hact, hrefused⟩
    · rw [hact]
      have hall := hpass.append hvalidated
      rw [← Actions.calls_append] at hall
      show Exit docType d r (_ ++ (_ ++ [])) (.ok (.ofGrant docType g))
      rw [List.append_nil, ← Actions.calls_append]
      exact .accepted hg hall
    · rw [hact]
      exact .refused (fun _ => ⟨g, rfl, hg⟩) hpass hrefused

/-- With the writer admitted, an action and the report are left. -/
theorem admitted_exit (hg : Granted d r g)
    (hpass : d.actions.Pass (d.actions.calls docType (some g) r.situation [.identified])) :
    Exit docType d r
      (d.actions.calls docType (some g) r.situation [.identified] ++
        (admitted docType d r g).log)
      (admitted docType d r g).outcome := by
  unfold admitted
  rcases act_bind_cases d.actions docType (some g) r.situation .authorized
    (ofDefinition (d.violations r.operation r.situation) >>= reported docType d r g) with
    ⟨hact, hauthorized⟩ | ⟨message, hact, hrefused⟩
  · rw [hact]
    have hboth := hpass.append hauthorized
    rw [← Actions.calls_append] at hboth
    -- the log so far is that of both stages
    rw [← List.append_assoc, ← Actions.calls_append]
    cases hreport : d.violations r.operation r.situation with
    | error cause =>
      show Exit docType d r (_ ++ []) (.error (.misconfigured cause))
      rw [List.append_nil]
      exact .unreported hg hboth
    | ok report => exact reported_exit hg hboth report
  · rw [hact]
    exact .refused (fun _ => ⟨g, rfl, hg⟩) hpass hrefused

/-- The grant of a definition is one for the operation of the write. -/
theorem grant_operation {a : Authorization} {op : Operation} {s : Situation}
    (h : a.grant op s = .ok g) : g.operation = op := by
  -- after the three axes and the flag for members, the grant is put together
  obtain ⟨_, _, h⟩ := bind_eq_ok.mp h
  obtain ⟨_, _, h⟩ := bind_eq_ok.mp h
  obtain ⟨_, _, h⟩ := bind_eq_ok.mp h
  obtain ⟨_, _, h⟩ := bind_eq_ok.mp h
  cases h
  rfl

/-- A governed decision ends in one of the ways listed. -/
theorem governed_exit (docType : String) (d : Definition) (r : Request) :
    Exit docType d r (governed docType d r).log (governed docType d r).outcome := by
  rw [governed_eq]
  rcases act_bind_cases d.actions docType none r.situation .identified (do
      let g ← ofDefinition (d.authorization.grant r.operation r.situation)
      authorize g r.context.principal
      admitted docType d r g) with ⟨hact, hpass⟩ | ⟨message, hact, hrefused⟩
  · rw [hact]
    cases hgrant : d.authorization.grant r.operation r.situation with
    | error cause =>
      show Exit docType d r (_ ++ []) (.error (.misconfigured cause))
      rw [List.append_nil]
      exact .ungranted hpass
    | ok g =>
      show Exit docType d r (_ ++ (authorize g r.context.principal >>= fun _ =>
        admitted docType d r g).log) (authorize g r.context.principal >>= fun _ =>
        admitted docType d r g).outcome
      unfold authorize
      cases hcheck : g.check r.context.principal with
      | some reason =>
        show Exit docType d r (_ ++ []) (.error (if r.context.principal.isAnonymous then
          .unauthorized reason else .forbidden reason))
        rw [List.append_nil]
        split
        · exact .unauthorized hpass
        · exact .forbidden hpass
      | none =>
        -- from here on, calls tell of the grant
        rw [Actions.calls_identified none (some g)] at hpass ⊢
        exact admitted_exit ⟨hgrant, hcheck, grant_operation hgrant⟩ hpass
  · rw [hact]
    exact .refused (fun h => absurd rfl h) Actions.pass_nil hrefused

end Decision

/-! ## The table -/

/-- What is called, by the result of the decision. -/
structure ActionTable (definitions : Definitions) (r : Request) (log : List ActionCall)
    (outcome : Except Rejection Acceptance) : Prop where
  /-- The calls are those of an initial segment of the stages, of the actions of
      the definition that governs the write. -/
  segment : log = [] ∨ ∃ docType d grant stages,
    definitions.Governs docType d r.proposed r.prior ∧ stages <+: Stage.all ∧
      log = d.actions.calls docType grant r.situation stages
  /-- No stage is called twice. -/
  once : (log.map ActionCall.stage).Nodup
  unknownType : outcome = .error .unknownType → log = []
  /-- Administrators delete what no definition governs without a call. -/
  removed : ∀ a, outcome = .ok a → a.docType = none → log = []
  denied : ∀ reason,
    outcome = .error (.unauthorized reason) ∨ outcome = .error (.forbidden reason) →
    ∃ docType d, definitions.Governs docType d r.proposed r.prior ∧
      log = d.actions.calls docType none r.situation [.identified]
  invalid : ∀ docType report, outcome = .error (.invalid docType report) →
    ∃ d g, definitions.Governs docType d r.proposed r.prior ∧ Granted d r g ∧
      log = d.actions.calls docType (some g) r.situation [.identified, .authorized]
  /-- The calls tell of the grant of which the acceptance tells. -/
  accepted : ∀ a docType, outcome = .ok a → a.docType = some docType →
    ∃ d g, definitions.Governs docType d r.proposed r.prior ∧ Granted d r g ∧
      log = d.actions.calls docType (some g) r.situation Stage.all ∧ a = .ofGrant docType g
  /-- The last call returned the message, and all others let the write pass. -/
  refused : ∀ docType message, outcome = .error (.refused docType message) →
    ∃ d grant stage, definitions.Governs docType d r.proposed r.prior ∧
      (stage ≠ .identified → ∃ g, grant = some g ∧ Granted d r g) ∧
      log = d.actions.calls docType grant r.situation stage.before ++
        [.at docType grant r.situation stage] ∧
      d.actions.Pass (d.actions.calls docType grant r.situation stage.before) ∧
      d.actions.Returns (.at docType grant r.situation stage) (.error message)
  misconfigured : ∀ cause, outcome = .error (.misconfigured cause) →
    ∃ docType d, definitions.Governs docType d r.proposed r.prior ∧
      (log = d.actions.calls docType none r.situation [.identified] ∨ ∃ g, Granted d r g ∧
        log = d.actions.calls docType (some g) r.situation [.identified, .authorized])
  /-- No refusal is passed over. -/
  heard : ∀ docType d, definitions.Governs docType d r.proposed r.prior →
    ∀ call ∈ log, ∀ message, d.actions.Returns call (.error message) →
      outcome = .error (.refused docType message)

variable {definitions : Definitions} {docType : String} {d : Definition} {r : Request}
  {log : List ActionCall} {outcome : Except Rejection Acceptance}

/-- The calls up to an end are those of an initial segment. -/
theorem Decision.Exit.segment (h : Exit docType d r log outcome) :
    ∃ grant stages, stages <+: Stage.all ∧
      log = d.actions.calls docType grant r.situation stages := by
  cases h with
  | @refused stage grant _ _ _ hrefused =>
    refine ⟨grant, stage.before ++ [stage], stage.before_append_prefix, ?_⟩
    rw [Actions.calls_append, Actions.calls_of_returns hrefused]
  | ungranted _ => exact ⟨none, _, Stage.before_append_prefix .identified, rfl⟩
  | unauthorized _ => exact ⟨none, _, Stage.before_append_prefix .identified, rfl⟩
  | forbidden _ => exact ⟨none, _, Stage.before_append_prefix .identified, rfl⟩
  | @unreported g _ _ _ => exact ⟨some g, _, Stage.before_append_prefix .authorized, rfl⟩
  | @invalid g _ _ _ => exact ⟨some g, _, Stage.before_append_prefix .authorized, rfl⟩
  | @accepted g _ _ => exact ⟨some g, _, Stage.before_append_prefix .validated, rfl⟩

/-- An action that returns a message ends the decision with it. -/
theorem Decision.Exit.heard (h : Exit docType d r log outcome) {call : ActionCall}
    (hcall : call ∈ log) {message : String} (hreturns : d.actions.Returns call (.error message)) :
    outcome = .error (.refused docType message) := by
  -- a call that let the write pass returned no message
  have hpassed {calls : List ActionCall} (hpass : d.actions.Pass calls) : call ∉ calls := by
    intro hcall
    cases (hpass call hcall).unique hreturns
  cases h with
  | refused _ hpass hrefused =>
    rcases List.mem_append.mp hcall with hcall | hcall
    · exact absurd hcall (hpassed hpass)
    · cases List.mem_singleton.mp hcall
      cases hrefused.unique hreturns
      rfl
  | ungranted hpass => exact absurd hcall (hpassed hpass)
  | unauthorized hpass => exact absurd hcall (hpassed hpass)
  | forbidden hpass => exact absurd hcall (hpassed hpass)
  | unreported _ hpass => exact absurd hcall (hpassed hpass)
  | invalid _ hpass => exact absurd hcall (hpassed hpass)
  | accepted _ hpass => exact absurd hcall (hpassed hpass)

/-- The rows of a write that a definition governs. -/
theorem ActionTable.of_exit (hgov : definitions.Governs docType d r.proposed r.prior)
    (hexit : Decision.Exit docType d r log outcome) : ActionTable definitions r log outcome := by
  obtain ⟨grant, stages, hstages, hlog⟩ := hexit.segment
  constructor
  case segment => exact .inr ⟨docType, d, grant, stages, hgov, hstages, hlog⟩
  case once =>
    have hall : Stage.all.Nodup := by decide
    rw [hlog]
    exact hall.sublist ((Actions.stages_calls_sublist stages).trans hstages.sublist)
  case heard =>
    intro docType' d' hgov' call hcall message hreturns
    obtain ⟨rfl, rfl⟩ := hgov.unique hgov'
    exact hexit.heard hcall hreturns
  -- in each of the other rows, one or two ends have the result
  case unknownType =>
    intro h
    cases hexit <;> cases h
  case removed =>
    intro a h htype
    cases hexit <;> cases h
    cases htype
  case denied =>
    rintro reason (h | h)
    · cases hexit <;> cases h
      exact ⟨docType, d, hgov, rfl⟩
    · cases hexit <;> cases h
      exact ⟨docType, d, hgov, rfl⟩
  case invalid =>
    intro docType' report h
    cases hexit <;> cases h
    case invalid g hg _ => exact ⟨d, g, hgov, hg, rfl⟩
  case accepted =>
    intro a docType' h htype
    cases hexit <;> cases h
    case accepted g hg _ =>
      cases htype
      exact ⟨d, g, hgov, hg, rfl, rfl⟩
  case refused =>
    intro docType' message h
    cases hexit <;> cases h
    case refused stage grant hg hpass hrefused =>
      exact ⟨d, grant, stage, hgov, hg, rfl, hpass, hrefused⟩
  case misconfigured =>
    intro cause h
    cases hexit <;> cases h
    case ungranted => exact ⟨docType, d, hgov, .inl rfl⟩
    case unreported g hg _ => exact ⟨docType, d, hgov, .inr ⟨g, hg, rfl⟩⟩

/-- The rows of a write that no definition governs. -/
theorem ActionTable.of_ungoverned (hnone : definitions.Ungoverned r.proposed r.prior)
    (options : Options) :
    ActionTable definitions r (Decision.ungoverned options r).log
      (Decision.ungoverned options r).outcome := by
  have hlog : (Decision.ungoverned options r).log = [] := by
    unfold Decision.ungoverned
    split <;> rfl
  have houtcome : (Decision.ungoverned options r).outcome = .error .unknownType ∨
      ∃ a, (Decision.ungoverned options r).outcome = .ok a ∧ a.docType = none := by
    unfold Decision.ungoverned
    split
    · exact .inr ⟨_, rfl, rfl⟩
    · exact .inl rfl
  rw [hlog]
  generalize (Decision.ungoverned options r).outcome = outcome at houtcome
  constructor
  case segment => exact .inl rfl
  case once => exact List.nodup_nil
  case unknownType => exact fun _ => rfl
  case removed => exact fun _ _ _ => rfl
  case heard => exact fun docType d hgov => absurd hnone hgov.not_ungoverned
  -- the other results are not those of an ungoverned write
  case accepted =>
    rintro a docType rfl htype
    rcases houtcome with h | ⟨a, h, hnone⟩
    · cases h
    · cases h
      rw [hnone] at htype
      cases htype
  case denied =>
    rintro reason (rfl | rfl) <;> rcases houtcome with h | ⟨a, h, _⟩ <;> cases h
  case invalid =>
    rintro docType report rfl
    rcases houtcome with h | ⟨a, h, _⟩ <;> cases h
  case refused =>
    rintro docType message rfl
    rcases houtcome with h | ⟨a, h, _⟩ <;> cases h
  case misconfigured =>
    rintro cause rfl
    rcases houtcome with h | ⟨a, h, _⟩ <;> cases h

/-- What is called is an initial segment of the actions of the definition that
    governs the write, and the result of the decision tells which. -/
theorem action_calls_by_result (definitions : Definitions) (options : Options) (r : Request) :
    ActionTable definitions r (definitions.decide options r).log
      (definitions.decide options r).outcome := by
  rcases definitions.governs_or_ungoverned r.proposed r.prior with ⟨docType, d, hgov⟩ | hnone
  · rw [Definitions.decide_of_governs options hgov]
    exact .of_exit hgov (Decision.governed_exit docType d r)
  · rw [Definitions.decide_of_ungoverned options hnone]
    exact .of_ungoverned hnone options

/-- Notes that an action refuses once the writer is authorized. -/
def guardedNotes : Definitions :=
  [("note", {
    typeFilter := .simple
    authorization := { channels := some (.literal (.ofWriters ["desk"])) }
    actions := {
      onIdentified := some fun _ => .ok ()
      onAuthorized := some fun call => .error ("no notes of " ++ call.docType) } })]

/-- A writer of the desk hears the refusal, any other the denial; the second action
    is called for the first writer only. -/
example :
    let write (channel : String) : Request :=
      { newDoc := some ⟨[("type", .string "note")], []⟩
        context := { principal := { name := some "ann", channels := [channel] } } }
    let stages (channel : String) :=
      (guardedNotes.decide {} (write channel)).log.map ActionCall.stage
    stages "desk" = [.identified, .authorized] ∧ stages "porch" = [.identified] := by
  decide +kernel

end WritePolicy
