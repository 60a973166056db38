import WritePolicy.Proofs.Arguments
import WritePolicy.Proofs.Printing
import WritePolicy.Proofs.Representation
import WritePolicy.Proofs.RejectionReport
import WritePolicy.Proofs.Robustness

/-! # Checking a write on the command line

    The program that is asked to check a write reads up to three files, and what it does
    is a function of the arguments and of the texts (`Agrees`). It fails exactly if a text
    is not what it should be: that a definition turns out to be broken during the write
    cannot happen, since nothing that is loaded is computed and every bound has been looked
    at. Otherwise it prints what the decision is (`Tells`), and what is printed can be read
    back (`parse?_report`): reports have no numbers, distinct keys and little depth.
-/

namespace WritePolicy

/-! ## What reports tell -/

/-- What the report on an outcome tells. Only invalid documents have errors, of which the
    message is made. -/
inductive Tells : Except Rejection Acceptance → Json → Prop where
  | accepted (a : Acceptance) :
      Tells (.ok a) (.object [
        ("accepted", .bool true),
        ("docType", match a.docType with | some name => .string name | none => .null),
        ("operation", .string a.operation.name),
        ("requiredChannels", .array (a.requiredChannels.map .string)),
        ("channels", .array (a.channels.map .string))])
  | invalid {docType : String} {violations : List Violation} {errors : List String} :
      errors = violations.map Violation.message → errors ≠ [] →
      Tells (.error (.invalid docType violations)) (.object [
        ("accepted", .bool false),
        ("signal", .string "forbidden"),
        ("message", .string ("Invalid " ++ docType ++ " document: " ++
          String.intercalate "; " errors)),
        ("errors", .array (errors.map .string))])
  | rejected {r : Rejection} : (∀ docType violations, r ≠ .invalid docType violations) →
      Tells (.error r) (.object [
        ("accepted", .bool false),
        ("signal", .string r.signal.name),
        ("message", .string r.message)])

/-- A report tells what the outcome is, as invalid documents have violations. -/
theorem tells_report {outcome : Except Rejection Acceptance}
    (h : ∀ docType violations, outcome = .error (.invalid docType violations) → violations ≠ []) :
    Tells outcome (report outcome) := by
  match outcome with
  | .ok a =>
    have hreport : report (.ok a) = .object [
        ("accepted", .bool true),
        ("docType", match a.docType with | some name => .string name | none => .null),
        ("operation", .string a.operation.name),
        ("requiredChannels", .array (a.requiredChannels.map .string)),
        ("channels", .array (a.channels.map .string))] := by
      obtain ⟨docType, operation, required, channels⟩ := a
      cases docType <;> rfl
    rw [hreport]
    exact .accepted a
  | .error (.invalid docType []) => exact absurd rfl (h docType [] rfl)
  | .error (.invalid docType (v :: rest)) =>
    have herrors : (v :: rest).map Violation.message ≠ [] := List.cons_ne_nil _ _
    exact .invalid rfl herrors
  | .error .unknownType => exact .rejected nofun
  | .error (.unauthorized _) => exact .rejected nofun
  | .error (.forbidden _) => exact .rejected nofun
  | .error (.refused _ _) => exact .rejected nofun
  | .error (.misconfigured _) => exact .rejected nofun

namespace Json

/-- A value of the kind that reports have in their fields. -/
structure Plain (v : Json) : Prop where
  numberless : v.Numberless
  unique : v.UniqueKeys
  depth_le : v.depth ≤ 2

theorem plain_bool (b : Bool) : (bool b).Plain :=
  ⟨trivial, trivial, Nat.le_succ 1⟩

theorem plain_string (s : String) : (string s).Plain :=
  ⟨trivial, trivial, Nat.le_succ 1⟩

theorem plain_null : null.Plain :=
  ⟨trivial, trivial, Nat.le_succ 1⟩

theorem plain_ofStrings (members : List String) : (ofStrings members).Plain := by
  have hitems : NumberlessItems (members.map string) ∧ UniqueKeysItems (members.map string) ∧
      depthItems (members.map string) ≤ 1 := by
    induction members with
    | nil => exact ⟨trivial, trivial, Nat.zero_le 1⟩
    | cons member rest ih =>
      obtain ⟨hnumberless, hunique, hdepth⟩ := ih
      exact ⟨⟨trivial, hnumberless⟩, ⟨trivial, hunique⟩, Nat.max_le.mpr ⟨Nat.le_refl 1, hdepth⟩⟩
  obtain ⟨hnumberless, hunique, hdepth⟩ := hitems
  exact ⟨hnumberless, hunique, Nat.succ_le_succ hdepth⟩

/-- An object of such values with distinct keys is read back after it was printed. -/
theorem parse?_pretty_object {fields : Entries Json} (hnodup : (Entries.keys fields).Nodup)
    (hfields : ∀ e ∈ fields, e.2.Plain) {after : String} (hafter : Blank after.toList) :
    parse? ((object fields).pretty ++ after) = some (object fields) := by
  have hbelow : NumberlessFields fields ∧ UniqueKeysFields fields ∧ depthFields fields ≤ 2 := by
    clear hnodup
    induction fields with
    | nil => exact ⟨trivial, trivial, Nat.zero_le 2⟩
    | cons e rest ih =>
      obtain ⟨hfirst, hrest⟩ := List.forall_mem_cons.mp hfields
      obtain ⟨hnumberless, hunique, hdepth⟩ := ih hrest
      exact ⟨⟨hfirst.numberless, hnumberless⟩, ⟨hfirst.unique, hunique⟩,
        Nat.max_le.mpr ⟨hfirst.depth_le, hdepth⟩⟩
  obtain ⟨hnumberless, hunique, hdepth⟩ := hbelow
  have hnumberless : (object fields).Numberless := hnumberless
  have hunique : (object fields).UniqueKeys := ⟨hnodup, hunique⟩
  have hdepth : (object fields).depth ≤ depthLimit := (Nat.succ_le_succ hdepth).trans (by decide)
  exact parse?_pretty hnumberless hunique hdepth hafter

end Json

/-- A report is read back after it was printed on lines of its own. -/
theorem parse?_report (outcome : Except Rejection Acceptance) :
    Json.parse? ((report outcome).pretty ++ "\n") = some (report outcome) := by
  have hafter : Json.Blank "\n".toList := by
    intro c hc
    cases List.mem_singleton.mp (show c ∈ ['\n'] from hc)
    rfl
  cases outcome with
  | ok a =>
    have hnodup : (Entries.keys (("accepted", Json.bool true) :: a.fields)).Nodup := by
      show (["accepted", "docType", "operation", "requiredChannels", "channels"] :
        List String).Nodup
      decide
    refine Json.parse?_pretty_object hnodup ?_ hafter
    have hdocType : ((a.docType.map Json.string).getD .null).Plain := by
      cases a.docType with
      | none => exact Json.plain_null
      | some name => exact Json.plain_string name
    simp [Acceptance.fields, hdocType, Json.plain_bool, Json.plain_string, Json.plain_ofStrings]
  | error r =>
    refine Json.parse?_pretty_object ?_ ?_ hafter
    · unfold Rejection.fields
      split
      · show (["accepted", "signal", "message"] : List String).Nodup
        decide
      · show (["accepted", "signal", "message", "errors"] : List String).Nodup
        decide
    · unfold Rejection.fields
      split <;> simp [Json.plain_bool, Json.plain_string, Json.plain_ofStrings]

namespace CommandLine

/-! ## What is read -/

/-- The texts of the files that a check names. -/
structure Texts where
  definitions : String
  newDoc : Option String
  oldDoc : Option String

/-- All files that arguments name can be read, and these are their texts. -/
structure CheckArguments.Reads (a : CheckArguments) (files : Files) (texts : Texts) : Prop where
  definitions : files a.definitions = some texts.definitions
  newDoc : Option.Rel (fun file text => files file = some text) a.newDoc texts.newDoc
  oldDoc : Option.Rel (fun file text => files file = some text) a.oldDoc texts.oldDoc

/-- Some text is not what it should be: the definitions cannot be loaded, or what is given
    as a document is none. -/
inductive Texts.Unusable (texts : Texts) (format : Format) : Prop where
  | definitions : (∀ definitions, Definitions.parse format texts.definitions ≠ .ok definitions) →
      Unusable texts format
  | newDoc {text : String} : texts.newDoc = some text → (∀ doc, Document.parse text ≠ .ok doc) →
      Unusable texts format
  | oldDoc {text : String} : texts.oldDoc = some text → (∀ doc, Document.parse text ≠ .ok doc) →
      Unusable texts format

/-- The texts denote a definition set and documents. -/
structure Texts.Denote (texts : Texts) (format : Format) (definitions : Definitions)
    (newDoc oldDoc : Option Document) : Prop where
  definitions : Definitions.parse format texts.definitions = .ok definitions
  newDoc : Option.Rel (fun text doc => Document.parse text = .ok doc) texts.newDoc newDoc
  oldDoc : Option.Rel (fun text doc => Document.parse text = .ok doc) texts.oldDoc oldDoc

variable {files : Files} {a : CheckArguments} {texts : Texts} {format : Format}

/-- A text that may be missing denotes a document, or it is there and denotes none. -/
theorem rel_or_not (text : Option String) :
    (∃ doc, Option.Rel (fun text doc => Document.parse text = .ok doc) text doc) ∨
      ∃ x, text = some x ∧ ∀ doc, Document.parse x ≠ .ok doc := by
  cases text with
  | none => exact .inl ⟨none, .none⟩
  | some x =>
    cases hparse : Document.parse x with
    | ok doc => exact .inl ⟨some doc, .some hparse⟩
    | error e =>
      refine .inr ⟨x, rfl, fun doc h => ?_⟩
      rw [hparse] at h
      cases h

theorem denote_or_unusable (texts : Texts) (format : Format) :
    (∃ definitions newDoc oldDoc, texts.Denote format definitions newDoc oldDoc) ∨
      texts.Unusable format := by
  cases hparse : Definitions.parse format texts.definitions with
  | error e =>
    refine .inr (.definitions fun definitions h => ?_)
    rw [hparse] at h
    cases h
  | ok definitions =>
    rcases rel_or_not texts.newDoc with ⟨newDoc, hnew⟩ | ⟨text, htext, hnone⟩
    · rcases rel_or_not texts.oldDoc with ⟨oldDoc, hold⟩ | ⟨text, htext, hnone⟩
      · exact .inl ⟨definitions, newDoc, oldDoc, hparse, hnew, hold⟩
      · exact .inr (.oldDoc htext hnone)
    · exact .inr (.newDoc htext hnone)

/-- Texts that denote something are usable. -/
theorem Texts.Denote.not_unusable {definitions : Definitions} {newDoc oldDoc : Option Document}
    (h : texts.Denote format definitions newDoc oldDoc) : ¬ texts.Unusable format := by
  have hdoc {text : Option String} {doc : Option Document} {x : String}
      (hrel : Option.Rel (fun text doc => Document.parse text = .ok doc) text doc)
      (htext : text = some x) : ∃ doc, Document.parse x = .ok doc := by
    cases hrel with
    | none => cases htext
    | some hparse =>
      cases htext
      exact ⟨_, hparse⟩
  intro hunusable
  cases hunusable with
  | definitions hnone => exact hnone definitions h.definitions
  | newDoc htext hnone =>
    obtain ⟨doc, hparse⟩ := hdoc h.newDoc htext
    exact hnone doc hparse
  | oldDoc htext hnone =>
    obtain ⟨doc, hparse⟩ := hdoc h.oldDoc htext
    exact hnone doc hparse

theorem mapError_eq_ok {ε ε' α : Type} {x : Except ε α} {f : ε → ε'} {v : α} :
    x.mapError f = .ok v ↔ x = .ok v := by
  cases x <;> simp [Except.mapError]

/-- The document in a file that is read. -/
theorem loadDocument?_eq_ok_iff {file text : Option String} {doc : Option Document}
    (hread : Option.Rel (fun file text => files file = some text) file text) :
    loadDocument? files file = .ok doc ↔
      Option.Rel (fun text doc => Document.parse text = .ok doc) text doc := by
  cases hread with
  | none =>
    constructor
    · intro h
      cases h
      exact .none
    · intro h
      cases h
      rfl
  | @some file text hread =>
    have hload {found : Document} :
        loadDocument files file = .ok found ↔ Document.parse text = .ok found := by
      unfold loadDocument
      rw [hread]
      exact mapError_eq_ok
    constructor
    · intro h
      obtain ⟨found, hfound, h⟩ := bind_eq_ok.mp h
      cases h
      exact .some (hload.mp hfound)
    · intro h
      cases h with
      | some hparse => exact bind_eq_ok.mpr ⟨_, hload.mpr hparse, rfl⟩

theorem loadDefinitions_eq_ok_iff {definitions : Definitions}
    (hread : files a.definitions = some texts.definitions) :
    loadDefinitions files a.definitions = .ok definitions ↔
      Definitions.parse (.ofPath a.definitions) texts.definitions = .ok definitions := by
  unfold loadDefinitions
  rw [hread]
  exact mapError_eq_ok

/-! ## The decision -/

/-- Texts that denote a write are checked by deciding it. -/
theorem check_eq_ok {definitions : Definitions} {newDoc oldDoc : Option Document}
    (hreads : a.Reads files texts)
    (h : texts.Denote (.ofPath a.definitions) definitions newDoc oldDoc) :
    check files a =
      .ok (definitions.decide a.host.options ⟨newDoc, oldDoc, a.context⟩).outcome := by
  have hdefinitions := (loadDefinitions_eq_ok_iff hreads.definitions).mpr h.definitions
  have hnew := (loadDocument?_eq_ok_iff hreads.newDoc).mpr h.newDoc
  have hold := (loadDocument?_eq_ok_iff hreads.oldDoc).mpr h.oldDoc
  -- what was loaded is not found to be broken
  have hnever := ((Definitions.parse_static h.definitions).outcome_ne a.host.options
    ⟨newDoc, oldDoc, a.context⟩).1
  refine bind_eq_ok.mpr ⟨definitions, hdefinitions, ?_⟩
  refine bind_eq_ok.mpr ⟨newDoc, hnew, ?_⟩
  refine bind_eq_ok.mpr ⟨oldDoc, hold, ?_⟩
  dsimp only
  split
  · next cause heq => exact absurd heq (hnever cause)
  · rfl

/-- Nothing is decided if a text is not what it should be. -/
theorem check_eq_error (hreads : a.Reads files texts)
    (h : texts.Unusable (.ofPath a.definitions)) : ∃ failure, check files a = .error failure := by
  cases hcheck : check files a with
  | error failure => exact ⟨failure, rfl⟩
  | ok outcome =>
    obtain ⟨definitions, hdefinitions, hcheck⟩ := bind_eq_ok.mp hcheck
    obtain ⟨newDoc, hnew, hcheck⟩ := bind_eq_ok.mp hcheck
    obtain ⟨oldDoc, hold, -⟩ := bind_eq_ok.mp hcheck
    have hdenote : texts.Denote (.ofPath a.definitions) definitions newDoc oldDoc :=
      ⟨(loadDefinitions_eq_ok_iff hreads.definitions).mp hdefinitions,
        (loadDocument?_eq_ok_iff hreads.newDoc).mp hnew,
        (loadDocument?_eq_ok_iff hreads.oldDoc).mp hold⟩
    exact absurd h hdenote.not_unusable

/-- The request is the one that flags and documents describe. -/
structure CheckArguments.Describes (a : CheckArguments) (newDoc oldDoc : Option Document)
    (r : Request) : Prop where
  newDoc : r.newDoc = newDoc
  oldDoc : r.oldDoc = oldDoc
  name : r.context.principal.name = a.user
  role (role : String) : r.context.principal.hasRole role = true ↔ role ∈ a.roles
  channel (channel : String) : r.context.principal.hasChannel channel = true ↔ channel ∈ a.channels
  admin : r.context.principal.admin = a.admin
  database : r.context.database = a.database

theorem CheckArguments.describes (a : CheckArguments) (newDoc oldDoc : Option Document) :
    a.Describes newDoc oldDoc ⟨newDoc, oldDoc, a.context⟩ where
  newDoc := rfl
  oldDoc := rfl
  name := rfl
  role _ := List.contains_iff_mem.trans StringSet.mem_ofList
  channel _ := List.contains_iff_mem.trans StringSet.mem_ofList
  admin := rfl
  database := rfl

/-! ## The run -/

/-- What a run that checks a write has to do with the decision on it. -/
structure Agrees (a : CheckArguments) (texts : Texts) (result : Result) : Prop where
  failed_iff : result.exitCode = 2 ↔ texts.Unusable (.ofPath a.definitions)
  silent : result.exitCode = 2 → result.output = ""
  decided {definitions : Definitions} {newDoc oldDoc : Option Document} :
    texts.Denote (.ofPath a.definitions) definitions newDoc oldDoc →
      ∃ r, a.Describes newDoc oldDoc r ∧
        ((∃ accepted, (definitions.decide a.host.options r).outcome = .ok accepted) ↔
          result.exitCode = 0) ∧
        ((∃ rejected, (definitions.decide a.host.options r).outcome = .error rejected) ↔
          result.exitCode = 1) ∧
        ∃ json, Tells (definitions.decide a.host.options r).outcome json ∧
          result.output = json.pretty ++ "\n" ∧ Json.parse? result.output = some json

variable {args : List String}

/-- A run that could decide prints a report on the decision. -/
theorem run_of_check_eq_ok {outcome : Except Rejection Acceptance}
    (hargs : parse? args = some (.check a)) (h : check files a = .ok outcome) :
    run files args = ⟨if outcome.toBool then 0 else 1, (report outcome).pretty ++ "\n"⟩ := by
  have hlines : ofLines [(report outcome).pretty] = (report outcome).pretty ++ "\n" := by
    simp [ofLines]
  unfold run
  rw [hargs]
  simp only [Command.run, h]
  rw [← hlines]
  rfl

/-- A run that could not decide prints nothing. -/
theorem run_of_check_eq_error {failure : Failure} (hargs : parse? args = some (.check a))
    (h : check files a = .error failure) : run files args = failed := by
  unfold run
  rw [hargs]
  simp only [Command.run, h]
  rfl

/-- The exit code tells whether the write is accepted. -/
theorem exitCode_cases (outcome : Except Rejection Acceptance) :
    (if outcome.toBool then 0 else 1) ≠ 2 ∧
      ((∃ accepted, outcome = .ok accepted) ↔ (if outcome.toBool then 0 else 1) = 0) ∧
      ((∃ rejected, outcome = .error rejected) ↔ (if outcome.toBool then 0 else 1) = 1) := by
  cases outcome with
  | ok accepted => simp [Except.toBool]
  | error rejected => simp [Except.toBool]

/-- Whoever is not accepted is told of violations only if there are some. -/
theorem tells_decision (definitions : Definitions) (options : Options) (r : Request) :
    Tells (definitions.decide options r).outcome (report (definitions.decide options r).outcome) :=
  tells_report fun _ _ h =>
    have ⟨_, _, _, hne⟩ := Definitions.governs_of_invalid h
    hne

/-- **A check agrees with the decision.** Whatever is to be checked, some arguments ask for
    it, and if the files can be read, the run that they lead to decides just that write. -/
theorem check_agrees (a : CheckArguments) (hreads : a.Reads files texts) :
    (∃ args, parse? args = some (.check a)) ∧
      ∀ args, parse? args = some (.check a) → Agrees a texts (run files args) := by
  refine ⟨⟨a.toArgs, parse?_toArgs a⟩, fun args hargs => ?_⟩
  have hrun {definitions : Definitions} {newDoc oldDoc : Option Document}
      (hdenote : texts.Denote (.ofPath a.definitions) definitions newDoc oldDoc) :=
    run_of_check_eq_ok hargs (check_eq_ok hreads hdenote)
  have hends : ((run files args).exitCode ≠ 2 ∧ ¬ texts.Unusable (.ofPath a.definitions)) ∨
      (run files args = failed ∧ texts.Unusable (.ofPath a.definitions)) := by
    rcases denote_or_unusable texts (.ofPath a.definitions) with ⟨_, _, _, hdenote⟩ | hunusable
    · rw [hrun hdenote]
      exact .inl ⟨(exitCode_cases _).1, hdenote.not_unusable⟩
    · obtain ⟨failure, hcheck⟩ := check_eq_error hreads hunusable
      exact .inr ⟨run_of_check_eq_error hargs hcheck, hunusable⟩
  refine ⟨?_, ?_, fun {definitions newDoc oldDoc} hdenote => ?_⟩
  · rcases hends with ⟨hcode, husable⟩ | ⟨hfailed, hunusable⟩
    · exact iff_of_false hcode husable
    · exact iff_of_true (congrArg Result.exitCode hfailed) hunusable
  · intro hcode
    rcases hends with ⟨hne, -⟩ | ⟨hfailed, -⟩
    · exact absurd hcode hne
    · exact congrArg Result.output hfailed
  · obtain ⟨-, haccepted, hrejected⟩ :=
      exitCode_cases (definitions.decide a.host.options ⟨newDoc, oldDoc, a.context⟩).outcome
    rw [hrun hdenote]
    exact ⟨_, a.describes newDoc oldDoc, haccepted, hrejected, _, tells_decision _ _ _, rfl,
      parse?_report _⟩

/-! ## A memo -/

/-- Memos are for those at the desk and have a title. This one has none, but a page. -/
def memoTexts : Texts where
  definitions := "\x7b\"memo\": \x7b\"channels\": \"desk\", \"propertyValidators\": " ++
    "\x7b\"type\": \x7b\"type\": \"typeId\"\x7d, " ++
    "\"title\": \x7b\"type\": \"string\", \"required\": true\x7d\x7d\x7d\x7d"
  newDoc := some "\x7b\"type\": \"memo\", \"page\": 1\x7d"
  oldDoc := none

def memoFiles : Files := fun file =>
  if file = "memos.json" then some memoTexts.definitions
  else if file = "memo.json" then memoTexts.newDoc
  else none

def memoCheck : CheckArguments where
  definitions := "memos.json"
  newDoc := some "memo.json"
  channels := ["desk"]

/-- Values are attached or not, and log output is asked for in between. -/
def memoArgs : List String :=
  ["check", "--definitions", "memos.json", "-v", "--channel=desk", "--new", "memo.json"]

/-- What is printed lists what is wrong with the memo. -/
theorem check_agrees_memo :
    memoCheck.Reads memoFiles memoTexts ∧ parse? memoArgs = some (.check memoCheck) ∧
      run memoFiles memoArgs = ⟨1, "\x7b\n  \"accepted\": false,\n  \"signal\": \"forbidden\",\n" ++
          "  \"message\": \"Invalid memo document: property \\\"title\\\" is required; " ++
          "property \\\"page\\\" is not supported\",\n" ++
          "  \"errors\": [\n    \"property \\\"title\\\" is required\",\n" ++
          "    \"property \\\"page\\\" is not supported\"\n  ]\n\x7d\n"⟩ ∧
      Agrees memoCheck memoTexts (run memoFiles memoArgs) := by
  have hreads : memoCheck.Reads memoFiles memoTexts := ⟨rfl, .some rfl, .none⟩
  have hargs : parse? memoArgs = some (.check memoCheck) := by decide
  exact ⟨hreads, hargs, by decide +kernel, (check_agrees memoCheck hreads).2 _ hargs⟩

end CommandLine

end WritePolicy
