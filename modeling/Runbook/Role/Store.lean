import Runbook.Files.Disk
import Runbook.Yaml.Writer

/-!
# The store of role variables

Each role has its variables in a file of its own below the directory of the store. The role without
name is the default role. An update reads the file, sets one variable and writes the file again.
-/

namespace Runbook

/-- Why the store refuses. -/
inductive StoreError where
  | file (path : String) (fault : FileFault)
  | malformed (path : String)
  | invalidRole (role : String)
  deriving DecidableEq, Repr, Inhabited

namespace StoreError

def message : StoreError → String
  | .file path fault => s!"Filesystem Error on '{path}': {fault.message}"
  | .malformed path => s!"Role file '{path}' is not a valid YAML map"
  | .invalidRole role => s!"Invalid role name '{role}'. Use letters, digits, '-' or '_'."

def causes : StoreError → List String
  | .file _ fault => [fault.message]
  | _ => []

end StoreError

/-- The store below a directory. -/
structure RoleStore where
  directory : String
  deriving DecidableEq, Repr, Inhabited

namespace RoleStore

/-- The characters of role names. -/
def isRoleChar (c : Char) : Bool :=
  c.isAlphanum || c = '-' || c = '_'

def file
    (s : RoleStore)
    (role : String) :
    Except StoreError String :=
  if role.isEmpty then .ok (Path.join s.directory "vars.yaml")
  else if role.toList.all isRoleChar then
    .ok (Path.join s.directory ("vars-" ++ role ++ ".yaml"))
  else .error (.invalidRole role)

/-- The variables in a file; a file that does not exist holds none. -/
def readFile
    (d : Disk)
    (path : String) :
    Except StoreError (Dict String) :=
  if d.exists? path then
    match d.readText path with
    | .error e => .error (.file path e)
    | .ok text =>
        match Yaml.parseDict? text with
        | some vars => .ok vars
        | none => .error (.malformed path)
  else
    .ok []

def load
    (s : RoleStore)
    (d : Disk)
    (role : String) :
    Except StoreError (Dict String) :=
  (s.file role).bind (readFile d)

/-- Writes the variables of a file below the directory of the store. What was made or written before a fault
stays. -/
def writeFile
    (s : RoleStore)
    (d : Disk)
    (path : String)
    (vars : Dict String) :
    Disk × Except StoreError Unit :=
  match d.provideDirectory s.directory with
  | (made, .error e) => (made, .error (.file s.directory e))
  | (made, .ok ()) =>
      match made.overwrite path (.text (Yaml.printDict vars)) with
      | (left, .error e) => (left, .error (.file path e))
      | (written, .ok ()) => (written, .ok ())

/-- Sets one variable of a role. -/
def update
    (s : RoleStore)
    (d : Disk)
    (role key value : String) :
    Disk × Except StoreError Unit :=
  match s.file role with
  | .error e => (d, .error e)
  | .ok path =>
      match readFile d path with
      | .error e => (d, .error e)
      | .ok vars => s.writeFile d path (Dict.insert vars key value)

end RoleStore

end Runbook
