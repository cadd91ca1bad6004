import Runbook.Json.Basic
import Runbook.Pom.Entry

/-!
# Actions

An action is one step of a command: it writes a file, changes one, queues an entry of the project
model, runs a command line, or asks for values and keeps them. An action file is a list of actions
with the artifact they all depend on.
-/

namespace Runbook

/-- Writes a file from a text or from a template file. -/
structure Generate where
  text : Option String
  template : Option String
  target : String
  overwrite : Bool
  deriving DecidableEq, Repr, Inhabited

/-- Puts a text into a file, after or before a place, unless a text is already there. -/
structure Inject where
  target : String
  text : String
  after : Option String
  before : Option String
  skip : Option String
  deriving DecidableEq, Repr, Inhabited

/-- Runs a command line, given as text or as a file that holds it. What it writes goes to files, and
to the context. -/
structure Exec where
  command : Option String
  commandFile : Option String
  directory : Option String
  output : Option String
  errors : Option String
  query : Option String
  deriving DecidableEq, Repr, Inhabited

/-- A question for one value. -/
structure Question where
  name : String
  label : Option String
  kind : String
  choices : Dict String
  multiple : Bool
  default : Option String
  deriving DecidableEq, Repr, Inhabited

/-- Asks questions and keeps the answers, and fixed values, in the store of a role. -/
structure Vars where
  questions : List Question
  data : Dict String
  role : Option String
  deriving DecidableEq, Repr, Inhabited

/-- One step of an action file. -/
inductive Action where
  | generate (payload : Generate)
  | inject (payload : Inject)
  | entry (kind : Pom.EntryKind) (text : String)
  | exec (payload : Exec)
  | vars (payload : Vars)
  deriving DecidableEq, Repr, Inhabited

/-- The key that names the queueing of an entry in an action file. -/
def Pom.EntryKind.actionName : Pom.EntryKind → String
  | .dependency => "injectMavenDependency"
  | .managed => "injectMavenDependencyManagement"
  | .repository => "injectMavenRepository"
  | .plugin => "injectMavenBuildPlugin"

namespace Action

/-- The key that names an action in an action file. -/
def name : Action → String
  | .generate _ => "generate"
  | .inject _ => "inject"
  | .entry kind _ => kind.actionName
  | .exec _ => "exec"
  | .vars _ => "vars"

/-- Whether an action only queues a change of the project model. -/
def isQueued : Action → Bool
  | .entry _ _ => true
  | _ => false

end Action

/-- Why an entry of an action file is no action. -/
inductive ActionError where
  | malformed
  | noKind
  | severalKinds (names : List String)
  | invalid (name reason : String)
  deriving DecidableEq, Repr

def ActionError.message : ActionError → String
  | .malformed => "the document does not have the shape of an action file"
  | .noKind => "An action must declare exactly one kind, but none was found."
  | .severalKinds names =>
      "An action must declare exactly one kind, but found several: "
        ++ ", ".intercalate names ++ "."
  | .invalid name reason => s!"Invalid '{name}' action: {reason}"

namespace Action

/-- Checks what the fields of an action must agree on. -/
def validate (a : Action) : Except ActionError Unit :=
  let invalid (reason : String) : Except ActionError Unit := .error (.invalid a.name reason)
  match a with
  | .generate g =>
      match g.text, g.template with
      | some _, some _ => invalid "'text' and 'from' are mutually exclusive"
      | none, none => invalid "one of 'text' or 'from' is required"
      | _, _ => .ok ()
  | .inject i =>
      if i.after.isSome && i.before.isSome then
        invalid "'after' and 'before' are mutually exclusive"
      else
        .ok ()
  | .exec e =>
      match e.command, e.commandFile with
      | some _, some _ => invalid "'command' and 'commandFile' are mutually exclusive"
      | none, none => invalid "one of 'command' or 'commandFile' is required"
      | _, _ => .ok ()
  | _ => .ok ()

/-- The one action declared among those of an entry. -/
def single (found : List Action) : Except ActionError Action :=
  match found with
  | [] => .error .noKind
  | [a] => a.validate.map fun _ => a
  | several => .error (.severalKinds (several.map name))

end Action

/-- The actions of one file, all subject to the presence of an artifact if one is named. -/
structure ActionFile where
  artifact : Option String
  actions : List Action
  deriving DecidableEq, Repr, Inhabited

end Runbook
