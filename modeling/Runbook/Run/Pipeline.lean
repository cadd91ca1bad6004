import Runbook.Run.Actions
import Runbook.Text.Kebab

/-!
# Running action files

A run gathers facts, then goes through the action files in their order.
-/

namespace Runbook

/-!
## The facts a run starts from

The context of a run starts with the values given on the command line. Sources of facts are then
asked in turn, and each may replace what is there: the host, the project model, and the variables
of the default role.
-/

/-- Where facts come from. -/
inductive FactSource where
  | host
  | projectModel
  | roleVariables
  deriving DecidableEq, Repr, Inhabited

def FactSource.name : FactSource → String
  | .host => "system"
  | .projectModel => "maven"
  | .roleVariables => "role-vars"

/-- Why a source has no facts. -/
inductive FactFault where
  | unreadable (path : String) (fault : FileFault)
  | noProject (path : String)
  | store (e : StoreError)
  deriving DecidableEq, Repr, Inhabited

/-- A source that failed. -/
structure FactError where
  source : FactSource
  fault : FactFault
  deriving DecidableEq, Repr, Inhabited

def FactError.message (e : FactError) : String :=
  s!"Populator '{e.source.name}' failed"

/-- The errors behind a failed source. -/
def FactFault.causes : FactFault → List String
  | .unreadable path fault =>
      [s!"Failed to read build descriptor '{path}': {fault.message}", fault.message]
  | .noProject path => [s!"'{path}' has no <project> root element."]
  | .store e => e.message :: e.causes

/-- Facts about the host. -/
structure Host where
  system : String
  architecture : String
  deriving DecidableEq, Repr, Inhabited

/-- The project model of a file. -/
def loadModel
    (d : Disk)
    (path : String) :
    Except FactFault Pom.Model :=
  match d.readText path with
  | .error e => .error (.unreadable path e)
  | .ok text =>
      match Pom.Model.parse? text.toList with
      | none => .error (.noProject path)
      | some m => .ok m

def modelFacts (m : Pom.Model) : List (String × Json) :=
  let flat : List (String × Option String) :=
    [ ("artifact-id", m.artifactId), ("group-id", m.groupId), ("project-version", m.version),
      ("java-version", m.javaVersion?) ]
  flat.filterMap (fun (key, value) => value.map fun v => (key, Json.string v))
    ++ [(modelKey, m.toJson)]

def FactSource.facts
    (host : Host)
    (s : Setting)
    (d : Disk) :
    FactSource → Except FactFault (List (String × Json))
  | .host =>
      .ok [ ("os-name", .string host.system), ("os-arch", .string host.architecture),
        ("working-dir", .string s.workDirectory) ]
  | .projectModel =>
      if d.isFile s.pomPath then (loadModel d s.pomPath).map modelFacts else .ok []
  | .roleVariables =>
      match s.store.load d "" with
      | .error e => .error (.store e)
      | .ok vars => .ok (vars.map fun (key, value) => (key, .string value))

/-- Enters facts into a context. Variables of a role that replace something else are reported. -/
def enterFacts
    (source : FactSource) :
    Context → List (String × Json) → Context × List Warning
  | c, [] => (c, [])
  | c, (key, value) :: rest =>
      let (entered, warnings) := enterFacts source (Dict.insert c key value) rest
      match source, Dict.get? c key with
      | .roleVariables, some before =>
          if before.print = value.print then (entered, warnings)
          else (entered, .overridden key before value :: warnings)
      | _, _ => (entered, warnings)

def askSources
    (host : Host)
    (s : Setting)
    (d : Disk) :
    Context → List FactSource → List Warning × Except FactError Context
  | c, [] => ([], .ok c)
  | c, source :: rest =>
      match source.facts host s d with
      | .error e => ([], .error ⟨source, e⟩)
      | .ok facts =>
          let (entered, warnings) := enterFacts source c facts
          let (more, result) := askSources host s d entered rest
          (warnings ++ more, result)

/-- The values of options under the names that the context has for them. -/
def optionFacts (values : Dict String) : Context :=
  Dict.ofList (values.map fun (name, value) => (Text.kebabCase name, .string value))

def buildContext
    (host : Host)
    (s : Setting)
    (d : Disk)
    (values : Dict String)
    (sources : List FactSource) :
    List Warning × Except FactError Context :=
  askSources host s d (optionFacts values) sources

/-!
## Actions and files

Files run in the order they are given, actions in the order they are declared, each of them on what
the ones before it left. Queued entries are written before anything that could look at the project
model, and at the end. The first error ends the run; what was queued before it is still written.
-/

open Run

/-- What a run did. -/
structure Summary where
  files : Nat
  executed : Nat
  skipped : Nat
  deriving DecidableEq, Repr, Inhabited

namespace Summary

/-- A run that did nothing. -/
def zero : Summary :=
  ⟨0, 0, 0⟩

def count
    (r : Summary) :
    Outcome → Summary
  | .applied => { r with executed := r.executed + 1 }
  | .skipped => { r with skipped := r.skipped + 1 }

end Summary

/-- An action without the writing of queued entries. -/
def Action.perform
    (a : Action)
    (s : Setting) :
    Run Outcome :=
  match a with
  | .generate g => g.run s
  | .inject i => i.run s
  | .entry kind text => enqueue kind text s
  | .exec x => x.run s
  | .vars v => v.run s

/-- An action. Anything but the queueing of entries finds the queue written. -/
def Action.run
    (a : Action)
    (s : Setting) :
    Run Outcome := do
  if !a.isQueued then
    let _ ← flush s
  a.perform s

/-- An action of a file. When it fails, the entries queued before are written; when that fails too,
there is a warning. -/
def Action.runOrSettle
    (a : Action)
    (s : Setting) :
    Run Outcome :=
  tryCatch (a.run s) fun e => do
    tryCatch (do let _ ← flush s) fun f => warn (.unwritten f.message)
    throw e

def runActions
    (s : Setting) :
    Summary → List Action → Run Summary
  | r, [] => pure r
  | r, a :: rest => do
      let outcome ← a.runOrSettle s
      runActions s (r.count outcome) rest

/-- Lets a file go on only if the project depends on its artifact. -/
def checkArtifact
    (s : Setting)
    (shown : String) :
    Option String → Run Unit
  | none => pure ()
  | some template => do
      let _ ← flush s
      let artifact ← render template
      let model ← contextModel?
      if !(model.any fun m => m.hasDependency artifact) then
        throw (.unsatisfied shown artifact)

def Setting.forFile
    (s : Setting)
    (path : String) :
    Setting :=
  { s with actionDirectory := (Path.parent? path).getD s.workDirectory }

def runFile
    (s : Setting)
    (r : Summary)
    (path : String)
    (f : ActionFile) :
    Run Summary := do
  let shown := s.shown path
  checkArtifact s shown f.artifact
  let started := { r with files := r.files + 1 }
  if f.actions.isEmpty then
    say s!"'{shown}' declares no actions."
    return started
  runActions (s.forFile path) started f.actions

/-- Action files in the order given, and what is left in the queue at the end. -/
def runFiles
    (s : Setting) :
    Summary → List (String × ActionFile) → Run Summary
  | r, [] => do
      let _ ← flush s
      return r
  | r, (path, f) :: rest => do
      let next ← runFile s r path f
      runFiles s next rest

/-- Runs action files; there must be one at least. -/
def runAll
    (s : Setting)
    (files : List (String × ActionFile)) :
    Run Summary :=
  match files with
  | [] => throw .noActions
  | _ => do
      modify fun w => { w with queue := [] }
      runFiles s .zero files

end Runbook
