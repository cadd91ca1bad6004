import Runbook.Run.Pipeline
import Runbook.Settings.Basic
import Runbook.Action.Discovery
import Runbook.CommandLine.Parse
import Runbook.Command.Registry
import Runbook.Command.Manifest

/-!
# What the program does

One call of the program: what it works with, and what the words of its command line make it do.
-/

namespace Runbook

/-!
## Sessions

A session is one call of the program: the directory it works in, the root of its commands, and its
settings. What it does ends well or with a `SessionError`, and is noted on the way.
-/

/-- What is outside of the program: the environment, the host, who answers questions, and what
processes do. -/
structure Surroundings where
  environment : Environment
  host : Host
  prompter : Prompter
  system : System

/-- The directory the program works in, the root of its commands, and its settings. -/
structure Session where
  workDirectory : String
  commandsRoot : String
  settings : Settings
  deriving DecidableEq, Repr, Inhabited

/-- Why a call of the program fails. -/
inductive SessionError where
  | usage (e : UsageError)
  | settings (e : SettingsError)
  | unset (e : UnsetVariable)
  | invalidName (kind name : String)
  | reservedName (name subname : String)
  | taken (path : String)
  | uncreatable (path : String) (fault : FileFault)
  | unwritable (path : String) (fault : FileFault)
  | search (e : SearchError)
  | context (e : FactError)
  | run (e : RunError)
  deriving DecidableEq, Repr

namespace SessionError

def message : SessionError → String
  | .usage e => e.message
  | .settings e => e.message
  | .unset e => e.message
  | .invalidName kind name => s!"Invalid {kind} name '{name}'. Use letters, digits, '-' or '_'."
  | .reservedName name subname => s!"'{name} {subname}' uses a reserved name."
  | .taken path => s!"'{path}' already exists."
  | .uncreatable path _ => s!"Failed to create '{path}'"
  | .unwritable path _ => s!"Failed to write '{path}'"
  | .search e => e.message
  | .context _ => "Could not build the evaluation context"
  | .run e => e.message

/-- The errors behind an error, the nearest first. -/
def causes : SessionError → List String
  | .settings e => e.causes
  | .uncreatable _ fault => [fault.message]
  | .unwritable _ fault => [fault.message]
  | .search e => e.causes
  | .context e => e.message :: e.fault.causes
  | .run e => e.causes
  | _ => []

end SessionError

namespace Session

def of
    (env : Environment)
    (workDirectory : String)
    (settings : Settings) :
    Except UnsetVariable Session :=
  (PathTemplate.resolve env workDirectory settings.commandsDirectory).map fun root =>
    ⟨workDirectory, root, settings⟩

def open_
    (env : Environment)
    (workDirectory : String)
    (d : Disk) :
    Disk × Except SessionError Session :=
  let (d', loaded) := Settings.load env workDirectory d
  match loaded with
  | .error e => (d', .error (.settings e))
  | .ok settings => (d', (of env workDirectory settings).mapError .unset)

def setting
    (s : Session)
    (around : Surroundings)
    (rolesDirectory actionDirectory : String) :
    Setting :=
  { workDirectory := s.workDirectory
    actionDirectory := actionDirectory
    rolesDirectory := rolesDirectory
    environment := around.environment
    deadline := s.settings.deadlineSeconds * 1000
    system := around.system }

/-- Who answers the questions of a session. -/
def prompter
    (s : Session)
    (around : Surroundings) :
    Prompter :=
  if s.settings.interactive then around.prompter else .refusing

end Session

/-- What a session has reached: the disk, what is under way on it, and the notes taken so far, the
newest first. -/
structure Desk where
  disk : Disk
  jobs : Jobs
  notes : List Note
  deriving Inhabited

abbrev SessionM (α : Type) := ExceptT SessionError (StateM Desk) α

namespace SessionM

def say (text : String) : SessionM Unit :=
  modify fun s => { s with notes := .line text :: s.notes }

def warnAll (warnings : List Warning) : SessionM Unit :=
  modify fun s => { s with notes := (warnings.map Note.warning).reverse ++ s.notes }

/-- A result, or the error it stands for. -/
def lift
    {ε α : Type}
    (wrap : ε → SessionError) :
    Except ε α → SessionM α
  | .ok a => pure a
  | .error e => throw (wrap e)

/-- Changes the disk as far as possible. -/
def onDisk
    (wrap : FileFault → SessionError)
    (change : Disk → Disk × Except FileFault Unit) :
    SessionM Unit := do
  let (d, done) := change (← get).disk
  modify fun s => { s with disk := d }
  lift wrap done

end SessionM

/-!
## Dispatching

The words of a command line select a management command or a unit of the user's commands. A unit is
run on its action files, with the values given for its options.
-/

open SessionM

namespace Session

def listCommands
    (s : Session)
    (tree : CommandTree)
    (showPaths : Bool) :
    SessionM Unit := do
  say ""
  say s!"Commands under {s.commandsRoot}"
  for line in (Text.splitOn '\n' (outline s.commandsRoot showPaths tree).toList).dropLast do
    say (String.ofList line)

/-- Writes the files of a new sub-command into its directory. -/
def writeScaffold (directory : String) : List (String × String) → SessionM Unit
  | [] => pure ()
  | (name, content) :: rest => do
      let path := Path.join directory name
      onDisk (.unwritable path) fun d => d.overwrite path (.text content)
      say s!"→ create {path}"
      writeScaffold directory rest

/-- Creates a command with one sub-command. -/
def newCommand
    (s : Session)
    (name subname : String) :
    SessionM Unit := do
  if !Scaffold.isFitName name then throw (.invalidName "command" name)
  if !Scaffold.isFitName subname then throw (.invalidName "sub-command" subname)
  if Scaffold.isReserved name subname then throw (.reservedName name subname)
  let directory := Path.join (Path.join s.commandsRoot name) subname
  if (← get).disk.exists? directory then throw (.taken directory)
  onDisk (.uncreatable directory) fun d => d.provideDirectory directory
  writeScaffold directory Scaffold.files
  say ""
  say s!"✔ Try it with: crank {name} {subname} --name you"

/-- Runs the action files of a unit with values for its options. -/
def runUnit
    (s : Session)
    (around : Surroundings)
    (unit : Invocable)
    (values : Dict String) :
    SessionM Unit := do
  let (files, malformed) ← lift .search (findActionFiles (← get).disk unit.path)
  warnAll (malformed.map .malformedActions)
  let roles ← lift .unset
    (PathTemplate.resolve around.environment s.workDirectory s.settings.rolesDirectory)
  let setting := s.setting around roles s.workDirectory
  let (warnings, built) := buildContext around.host setting (← get).disk values
    [.host, .projectModel, .roleVariables]
  warnAll warnings
  let context ← lift .context built
  say s!"→ run {unit.command.name} {unit.subcommand.name}"
  let desk ← get
  let world : World := ⟨desk.disk, desk.jobs, context, [], s.prompter around, desk.notes⟩
  let (result, reached) := (runAll setting files).run.run world
  set (⟨reached.disk, reached.jobs, reached.notes⟩ : Desk)
  let summary ← lift .run result
  say ""
  say (s!"✔ {summary.files} file(s), {summary.executed} action(s) applied, "
    ++ s!"{summary.skipped} skipped.")

def perform
    (s : Session)
    (around : Surroundings)
    (tree : CommandTree)
    (units : List Invocable)
    (line : ParsedLine) :
    SessionM Unit :=
  match line.path with
  | [name, subname] =>
      if name = reservedNamespace then
        if subname = "list" then
          s.listCommands tree (Dict.has line.values "paths")
        else
          s.newCommand ((Dict.get? line.values "name").getD "")
            ((Dict.get? line.values "sub").getD "")
      else
        match findUnit? units name subname with
        | some unit => s.runUnit around unit line.values
        | none => pure ()
  | _ => pure ()

/-- Understands the words of a command line and does what they ask for. -/
def dispatch
    (s : Session)
    (around : Surroundings)
    (words : List String) :
    SessionM Unit := do
  let (tree, scanWarnings) := scanOrEmpty (← get).disk s.commandsRoot
  let (units, unitWarnings) := register tree
  warnAll (scanWarnings ++ unitWarnings)
  let line ← lift .usage (parseLine (programForm units) words)
  s.perform around tree units line

end Session

/-- How the program ends: its exit code and what it writes. -/
structure ProgramEnd where
  code : Nat
  output : String
  errors : String
  deriving DecidableEq, Repr, Inhabited

/-- The line that tells the version of the program. -/
def versionLine : String := "crank 0.1.0\n"

/-- What is written when a session fails. A cause that the error already tells is left out. -/
def SessionError.report (e : SessionError) : String :=
  let told := e.causes.filter fun c => !Text.occursInString c e.message
  s!"\nError: {e.message}\n" ++ String.join (told.map fun c => s!"  caused by: {c}\n")

/-- The lines shown among notes, in the order they were taken. -/
def shownLines (notes : List Note) : List String :=
  notes.reverse.filterMap fun
    | .line text => some text
    | .warning _ => none

/-- The warnings among notes, in the order they were taken. -/
def warningsAmong (notes : List Note) : List Warning :=
  notes.reverse.filterMap fun
    | .line _ => none
    | .warning w => some w

def programEnd
    (notes : List Note)
    (result : Except SessionError Unit) :
    ProgramEnd :=
  let shown := String.join ((shownLines notes).map (· ++ "\n"))
  match result with
  | .ok () => ⟨0, shown, ""⟩
  | .error (.usage .displayVersion) => ⟨0, shown ++ versionLine, ""⟩
  | .error (.usage .displayHelp) => ⟨0, shown ++ UsageError.displayHelp.message ++ "\n", ""⟩
  | .error (.usage e) => ⟨2, shown, s!"error: {e.message}\n"⟩
  | .error e => ⟨1, shown, e.report⟩

def runProgram
    (around : Surroundings)
    (workDirectory : String)
    (words : List String)
    (d : Disk)
    (jobs : Jobs) :
    Desk × ProgramEnd :=
  let (opened, session) := Session.open_ around.environment workDirectory d
  match session with
  | .error e => (⟨opened, jobs, []⟩, programEnd [] (.error e))
  | .ok s =>
      let (result, desk) := (s.dispatch around words).run.run ⟨opened, jobs, []⟩
      (desk, programEnd desk.notes result)

end Runbook
