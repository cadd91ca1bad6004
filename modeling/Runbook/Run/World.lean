import Runbook.Pom.Entry
import Runbook.Process.Basic
import Runbook.Role.Store
import Runbook.Template
import Runbook.Json.Query
import Runbook.Action.Basic

/-!
# The state of a run

Actions work on a `World`: the disk and what is under way on it, the context, the queue of entries for the
project model, the prompter that answers questions, and the notes taken on the way. A failing action
keeps the state it has reached, so that nothing applied before is lost from view.
-/

namespace Runbook

/-- Who answers questions: nobody, a list of answers, or a person at a terminal. -/
inductive Prompter where
  | refusing
  | scripted (answers asked : List String)
  | terminal
  deriving DecidableEq, Repr, Inhabited

/-- Why a question stays without an answer. -/
inductive PromptError where
  | noTerminal
  | refused (label : String)
  | noChoices (label : String)
  deriving DecidableEq, Repr, Inhabited

def PromptError.message : PromptError → String
  | .noTerminal => "User Interface Error: IO error: not a terminal"
  | .refused label =>
      s!"'{label}' needs an answer, but prompting is disabled. Pass it as an option instead."
  | .noChoices label => s!"'{label}' offers no choices to select from."

/-- Something that deserves attention but does not stop anything. -/
inductive Warning where
  | invalidManifest (path : String)
  | malformedActions (path : String)
  | reservedOption (name command subcommand : String)
  | unknownDataType (name command subcommand dataType : String)
  | reservedCommand (path : String)
  | reservedSubcommand (command subcommand path : String)
  | overridden (name : String) (before after : Json)
  | notProjectModel
  | notJson (line : String)
  | foreignAnswer (answer question : String)
  | unwritten (reason : String)
  deriving Repr, Inhabited

def Warning.message : Warning → String
  | .invalidManifest path => s!"Ignoring invalid manifest '{path}'"
  | .malformedActions path => s!"Ignoring malformed action file '{path}'"
  | .reservedOption name command subcommand =>
      s!"Option '{name}' of '{command} {subcommand}' is reserved and was ignored."
  | .unknownDataType name command subcommand dataType =>
      s!"Option '{name}' of '{command} {subcommand}' has unknown dataType '{dataType}' "
        ++ "and was ignored."
  | .reservedCommand path => s!"Command directory '{path}' uses a reserved name and was ignored."
  | .reservedSubcommand command subcommand path =>
      s!"Sub-command '{command} {subcommand}' at '{path}' is reserved or defined twice "
        ++ "and was ignored."
  | .overridden name before after =>
      s!"Stored variable '{name}' overrides the value given for this run "
        ++ "(" ++ before.print ++ " -> " ++ after.print ++ ")."
  | .notProjectModel => "'maven-model' is not a project model"
  | .notJson line => s!"Output of '{line}' is not JSON"
  | .foreignAnswer answer question =>
      s!"'{answer}' is not one of the choices declared for '{question}'."
  | .unwritten reason => s!"Pending descriptor changes were not written: {reason}"

/-- What is noted on the way: a line that is shown, or a warning. -/
inductive Note where
  | line (text : String)
  | warning (w : Warning)
  deriving Repr, Inhabited

/-- The state of a run. The newest note comes first; the entries of the queue stand in the order in
which they were asked for. -/
structure World where
  disk : Disk
  jobs : Jobs
  context : Context
  queue : List Pom.Entry
  prompter : Prompter
  notes : List Note
  deriving Inhabited

/-- What stays the same during an action: the directories it works in, the environment, the deadline
of processes in milliseconds, and what processes do. -/
structure Setting where
  workDirectory : String
  actionDirectory : String
  rolesDirectory : String
  environment : Environment
  deadline : Nat
  system : System

/-- The file that holds the project model. -/
def Setting.pomPath (s : Setting) : String :=
  Path.join s.workDirectory "pom.xml"

def Setting.store (s : Setting) : RoleStore :=
  ⟨s.rolesDirectory⟩

/-- A path as messages show it. -/
def Setting.shown
    (s : Setting)
    (path : String) :
    String :=
  Path.shownFrom s.workDirectory path

/-- Whether an action changed anything. -/
inductive Outcome where
  | applied
  | skipped
  deriving DecidableEq, Repr, Inhabited

/-- Why the project model cannot be changed. -/
inductive PatchError where
  | unreadable (path : String) (fault : FileFault)
  | noProject (path : String)
  deriving DecidableEq, Repr, Inhabited

namespace PatchError

def message : PatchError → String
  | .unreadable path fault => s!"Failed to read build descriptor '{path}': {fault.message}"
  | .noProject path => s!"Build descriptor '{path}' has no <project> root element."

def causes : PatchError → List String
  | .unreadable _ fault => [fault.message]
  | .noProject _ => []

end PatchError

/-- Why a run stops. -/
inductive RunError where
  | noActions
  | unsatisfied (file artifact : String)
  | template (e : TemplateError)
  | patch (e : PatchError)
  | entry (e : Pom.EntryError)
  | unwritable (path : String) (fault : FileFault)
  | unreadable (path : String) (fault : FileFault)
  | execution (e : ExecError)
  | questionType (name kind : String)
  | store (e : StoreError)
  | prompt (e : PromptError)
  | query (e : QueryError)
  | invalidAction (kind reason : String)
  | unset (e : UnsetVariable)
  deriving DecidableEq, Repr

namespace RunError

def message : RunError → String
  | .noActions => "No action files found for this command."
  | .unsatisfied file artifact =>
      s!"'{file}' requires the dependency '{artifact}', which the project does not declare."
  | .template e => s!"Template Error: {e.message}"
  | .patch e => s!"Build Descriptor Error: {e.message}"
  | .entry e => s!"Invalid build descriptor entry: {e.message}"
  | .unwritable path fault => s!"Failed to write '{path}': {fault.message}"
  | .unreadable path fault => s!"Failed to read '{path}': {fault.message}"
  | .execution e => s!"Execution Error: {e.message}"
  | .questionType name kind => s!"Question '{name}' has unsupported type '{kind}'."
  | .store e => s!"Variable Store Error: {e.message}"
  | .prompt e => e.message
  | .query e => e.message
  | .invalidAction kind reason => s!"Invalid '{kind}' action: {reason}"
  | .unset e => e.message

/-- The errors behind an error, the nearest first. -/
def causes : RunError → List String
  | .template e => [e.message]
  | .patch e => e.message :: e.causes
  | .entry e => [e.message]
  | .unwritable _ fault => [fault.message]
  | .unreadable _ fault => [fault.message]
  | .execution e => e.message :: e.causes
  | .store e => e.message :: e.causes
  | .prompt e => [e.message]
  | .query e => [e.message]
  | .unset e => [e.message]
  | _ => []

end RunError

/-- A step of a run: it changes the state, and ends with a result or an error. -/
abbrev Run (α : Type) := ExceptT RunError (StateM World) α

namespace Run

def note (n : Note) : Run Unit :=
  modify fun w => { w with notes := n :: w.notes }

/-- Shows a line. -/
def say (text : String) : Run Unit :=
  note (.line text)

/-- Shows that something was done. -/
def announce (kind detail : String) : Run Unit :=
  say s!"→ {kind} {detail}"

def remark (text : String) : Run Unit :=
  say s!"  {text}"

def warn (w : Warning) : Run Unit :=
  note (.warning w)

/-- A result, or the error it stands for. -/
def lift
    {ε α : Type}
    (wrap : ε → RunError) :
    Except ε α → Run α
  | .ok a => pure a
  | .error e => throw (wrap e)

def setValue (key : String) (value : Json) : Run Unit :=
  modify fun w => { w with context := Dict.insert w.context key value }

/-- Changes the disk as far as possible. -/
def onDisk
    {ε α : Type}
    (wrap : ε → RunError)
    (change : Disk → Disk × Except ε α) :
    Run α := do
  let (d, result) := change (← get).disk
  modify fun w => { w with disk := d }
  lift wrap result

/-- Runs a command line as far as possible. -/
def execute
    (system : System)
    (request : ExecRequest) :
    Run ExecOutcome := do
  let w ← get
  let done := request.execute system w.disk w.jobs
  set { w with disk := done.disk, jobs := done.jobs }
  lift .execution done.result

def readText (path : String) : Run String := do
  lift (.unreadable path) ((← get).disk.readText path)

def replaceFile (path text : String) : Run Unit :=
  onDisk (.unwritable path) fun d => d.replace path (.text text)

/-- A template rendered against the context. -/
def render (template : String) : Run String := do
  lift .template (Template.render (← get).context template)

/-- A template rendered against the context, if there is one. -/
def render? : Option String → Run (Option String)
  | none => pure none
  | some template => do return some (← render template)

/-- A path template rendered against the context and resolved against the working directory. -/
def resolve
    (s : Setting)
    (template : String) :
    Run String := do
  let rendered ← render template
  lift .unset (PathTemplate.resolve s.environment s.workDirectory rendered)

/-- A path template resolved, if there is one. -/
def resolve?
    (s : Setting) :
    Option String → Run (Option String)
  | none => pure none
  | some template => do return some (← resolve s template)

end Run

end Runbook
