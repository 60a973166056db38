import WritePolicy.DefinitionFile.Format
import WritePolicy.Report

/-! # The command line

    Two commands: `check` decides one write, which is described by flags and
    files, and `inspect` lists the types of a definition file. Running a command
    is a function of its arguments and of the contents of files, so that only
    reading and printing are left to the program.

    The exit code is 0 for success and accepted writes, 1 for rejected writes
    and 2 for arguments that describe no command and for files that are not
    what they should be.
-/

namespace WritePolicy.CommandLine

/-! ## Commands -/

/-- A write to check. -/
structure CheckArguments where
  definitions : String
  newDoc : Option String := none
  oldDoc : Option String := none
  user : Option String := none
  roles : List String := []
  channels : List String := []
  admin : Bool := false
  database : Option String := none
  host : Host := .syncGateway
  deriving DecidableEq, Repr

/-- What the program is asked to do. -/
inductive Command where
  | version
  | check (arguments : CheckArguments)
  | inspect (definitions : String)
  deriving DecidableEq, Repr

/-- The files that a command reads. -/
def Command.files : Command → List String
  | version => []
  | check a => a.definitions :: (a.newDoc.toList ++ a.oldDoc.toList)
  | inspect definitions => [definitions]

/-! ## Arguments -/

/-- How often an option may be given, and whether it has a value. -/
inductive Arity where
  | flag | once | many
  deriving DecidableEq, Repr

/-- The options of a command by name. -/
abbrev OptionTable := List (String × Arity)

/-- The options that were given, in order. A flag has no value. -/
abbrev Given := List (String × Option String)

/-- The options of `check`. -/
def checkOptions : OptionTable :=
  [("definitions", .once), ("new", .once), ("old", .once), ("user", .once), ("role", .many),
    ("channel", .many), ("admin", .flag), ("database", .once), ("host", .once)]

/-- The options of `inspect`. -/
def inspectOptions : OptionTable :=
  [("definitions", .once)]

/-- An argument is no option and can be the value of one. -/
def isValue (s : String) : Bool :=
  s == "-" || s.toList.head? != some '-'

/-- The argument turns on more log output; this is allowed anywhere and any
    number of times. -/
def isVerbosity (s : String) : Bool :=
  s == "--verbose" || match s.toList with
    | '-' :: 'v' :: more => more.all (· == 'v')
    | _ => false

/-- The argument asks for the version, perhaps after more log output. -/
def isVersionFlag (s : String) : Bool :=
  s == "--version" || match s.toList with
    | '-' :: cs => (cs.dropWhile (· == 'v')).head? == some 'V'
    | _ => false

/-- The name and the attached value of a long option. -/
def splitOption? (s : String) : Option (String × Option String) :=
  match s.toList with
  | '-' :: '-' :: cs =>
    let name := String.ofList (cs.takeWhile (· != '='))
    match cs.dropWhile (· != '=') with
    | [] => some (name, none)
    | _ :: value => some (name, some (String.ofList value))
  | _ => none

/-- An option that is given again must allow it. -/
def addOption? (options : OptionTable) (given : Given) (name : String) (value : Option String) :
    Option Given :=
  if Entries.get? name options == some .many || !Entries.contains name given then
    some (given ++ [(name, value)])
  else none

/-- What an option does to the options that were given: a flag has no value, all
    others need one, either attached or as the next argument. Returns also the
    arguments that are left. -/
def takeOption? (options : OptionTable) (given : Given) (name : String) (attached : Option String)
    (rest : List String) : Option (Given × List String) := do
  match ← Entries.get? name options, attached, rest with
  | .flag, none, rest => return (← addOption? options given name none, rest)
  | .flag, some _, _ => none
  | _, some v, rest => return (← addOption? options given name (some v), rest)
  | _, none, v :: rest =>
    if isValue v then return (← addOption? options given name (some v), rest) else none
  | _, none, [] => none

/-- The options in a list of arguments, where a number bounds how many there
    are; none if there are other options or other arguments. Two dashes may end
    the list. -/
def readWithin? (options : OptionTable) : Nat → Given → List String → Option Given
  | _, given, [] => some given
  | _, given, ["--"] => some given
  | 0, _, _ => none
  | bound + 1, given, s :: rest =>
    if isVerbosity s then readWithin? options bound given rest
    else do
      let (name, attached) ← splitOption? s
      let (given, rest) ← takeOption? options given name attached rest
      readWithin? options bound given rest

/-- The options in a list of arguments. -/
def readOptions? (options : OptionTable) (args : List String) : Option Given :=
  readWithin? options args.length [] args

/-- The values of an option. -/
def valuesOf (given : Given) (name : String) : List String :=
  given.filterMap fun g => if g.1 = name then g.2 else none

/-- The value of an option. -/
def valueOf? (given : Given) (name : String) : Option String :=
  (valuesOf given name).head?

/-- The arguments of `check`. -/
def checkArguments? (args : List String) : Option CheckArguments := do
  let given ← readOptions? checkOptions args
  let definitions ← valueOf? given "definitions"
  let host ← match valueOf? given "host" with
    | none => some .syncGateway
    | some name => Host.ofName? name
  return {
    definitions, host
    newDoc := valueOf? given "new"
    oldDoc := valueOf? given "old"
    user := valueOf? given "user"
    roles := valuesOf given "role"
    channels := valuesOf given "channel"
    admin := Entries.contains "admin" given
    database := valueOf? given "database" }

/-- The command that arguments describe. -/
def parse? : List String → Option Command
  | [] => none
  | s :: rest =>
    if isVerbosity s then parse? rest
    else if isVersionFlag s then some .version
    else match s with
      | "check" => (checkArguments? rest).map .check
      | "inspect" => do
        let given ← readOptions? inspectOptions rest
        return .inspect (← valueOf? given "definitions")
      | _ => none

/-! ## Checking -/

/-- Why a write cannot be decided. -/
inductive Failure where
  | unreadableDefinitions (file : String)
  | invalidDefinitions (file : String) (error : DefinitionError)
  | unreadableDocument (file : String)
  | invalidDocument (file : String) (error : DocumentError)
  | misconfigured (cause : Misconfiguration)

/-- The wording of a failure. -/
def Failure.message : Failure → String
  | unreadableDefinitions file | invalidDefinitions file _ =>
    "failed to load definitions from " ++ file
  | unreadableDocument file => "cannot read " ++ file
  | invalidDocument file _ => "invalid document in " ++ file
  | misconfigured _ => "document definitions are misconfigured"

/-- The contents of files; nothing for those that cannot be read. -/
abbrev Files := String → Option String

/-- The definitions in a file. -/
def loadDefinitions (files : Files) (file : String) : Except Failure Definitions :=
  match files file with
  | none => .error (.unreadableDefinitions file)
  | some text =>
    (Definitions.parse (.ofPath file) text).mapError (.invalidDefinitions file)

/-- The document in a file. -/
def loadDocument (files : Files) (file : String) : Except Failure Document :=
  match files file with
  | none => .error (.unreadableDocument file)
  | some text => (Document.parse text).mapError (.invalidDocument file)

/-- The document in a file that may not be named. -/
def loadDocument? (files : Files) : Option String → Except Failure (Option Document)
  | none => .ok none
  | some file => do return some (← loadDocument files file)

/-- The writer that flags describe. -/
def CheckArguments.context (a : CheckArguments) : WriteContext :=
  { principal := {
      name := a.user, roles := .ofList a.roles, channels := .ofList a.channels, admin := a.admin }
    database := a.database }

/-- The decision on the write that arguments describe. Definitions are read
    first, then the new and the prior document. -/
def check (files : Files) (a : CheckArguments) :
    Except Failure (Except Rejection Acceptance) := do
  let definitions ← loadDefinitions files a.definitions
  let newDoc ← loadDocument? files a.newDoc
  let oldDoc ← loadDocument? files a.oldDoc
  let decision := definitions.decide a.host.options { newDoc, oldDoc, context := a.context }
  match decision.outcome with
  | .error (.misconfigured cause) => .error (.misconfigured cause)
  | outcome => .ok outcome

/-! ## Running -/

/-- What a run prints and how it ends. -/
structure Result where
  exitCode : Nat
  output : String
  deriving DecidableEq, Repr

/-- What the program says of itself. -/
def versionText : String := "docguard 0.1.0"

/-- A text of lines, each of which ends with a line feed. -/
def ofLines (lines : List String) : String :=
  String.join (lines.map (· ++ "\n"))

/-- A command carried out. -/
def Command.run (files : Files) : Command → Except Failure Result
  | version => .ok ⟨0, ofLines [versionText]⟩
  | check a => do
    let outcome ← CommandLine.check files a
    return ⟨if outcome.toBool then 0 else 1, ofLines [(report outcome).pretty]⟩
  | inspect file => do
    let definitions ← loadDefinitions files file
    return ⟨0, ofLines (("Document types: " ++ toString definitions.length)
      :: definitions.summary.map ("  " ++ ·))⟩

/-- A run that could not do what it was asked for. -/
def failed : Result := ⟨2, ""⟩

/-- The program as a function of its arguments and of the contents of files. -/
def run (files : Files) (args : List String) : Result :=
  match parse? args with
  | none => failed
  | some command => (command.run files).toOption.getD failed

end WritePolicy.CommandLine
