import Runbook.Action.FrontMatter
import Runbook.Action.Reading
import Runbook.Command.Manifest
import Runbook.Files.Disk

/-!
# Finding action files

All files below a directory are looked at, in the order of their names whatever order they are listed
in, except hidden ones, the manifest of the directory itself, and backups. A file counts when its text,
or the front matter of its text, is a mapping with actions. One that has actions but is no action file
otherwise is reported. The action files are kept in the order of their paths, each path once.
-/

namespace Runbook

/-- The ends of the names of backups. -/
def backupSuffixes : List String :=
  ["~", ".bak", ".orig", ".swp", ".tmp"]

/-- Why a search fails: the directory to be searched cannot be looked at, or two action files have one
path. -/
inductive SearchError where
  | walk (path : String) (fault : FileFault)
  | duplicate (path : String)
  deriving DecidableEq, Repr, Inhabited

namespace SearchError

/-- What the operating system says. -/
def walkMessage
    (path : String)
    (fault : FileFault) :
    String :=
  s!"IO error for operation on {path}: {fault.message}"

def message : SearchError → String
  | .walk path fault => s!"Could not walk '{path}': {walkMessage path fault}"
  | .duplicate path => s!"Two action files resolve to the same path '{path}'."

def causes : SearchError → List String
  | .walk path fault => [walkMessage path fault, fault.message]
  | .duplicate _ => []

end SearchError

/-- A file found: its path, how many directories below the start it lies, and its content. -/
structure FoundFile where
  path : String
  depth : Nat
  content : Content
  deriving Repr, Inhabited

namespace FoundFile

mutual

/-- The files of a tree that are not hidden, in the order of its entries. Links are not followed. -/
def inTree
    (path : String)
    (depth : Nat) :
    FileTree → List FoundFile
  | .file c _ => [⟨path, depth, c⟩]
  | .directory es => inEntries path (depth + 1) es
  | .link _ => []
  | .device _ => []

/-- The files below entries of a directory. -/
def inEntries
    (path : String)
    (depth : Nat) :
    List (String × FileTree) → List FoundFile
  | [] => []
  | (name, t) :: rest =>
      if name.toList.head? = some '.' then inEntries path depth rest
      else inTree (Path.join path name) depth t ++ inEntries path depth rest

end

/-- Whether a file may hold actions. -/
def isCandidate (f : FoundFile) : Bool :=
  let name := (Path.fileName? f.path).getD ""
  !(f.depth = 1 && manifestNames.contains name)
    && !(backupSuffixes.any fun suffix => name.endsWith suffix)

end FoundFile

/-- What the text of a file is as an action file. -/
inductive Recognition where
  | actions (f : ActionFile)
  | malformed
  | other
  deriving DecidableEq, Repr, Inhabited

def hasActions (v : Yaml.Value) : Bool :=
  match v.untagged with
  | .mapping entries => entries.any fun e =>
      match e.1 with
      | .string s => s = "actions"
      | _ => false
  | _ => false

def recognise (text : String) : Recognition :=
  let document := (FrontMatter.extract? text.toList).getD text.toList
  match Yaml.Value.parse? (String.ofList document) with
  | none => .other
  | some v =>
      if hasActions v then
        match ActionFile.ofValue v with
        | .ok f => .actions f
        | .error _ => .malformed
      else
        .other

/-- What a file is as an action file; only texts can be one. -/
def FoundFile.recognised (f : FoundFile) : Recognition :=
  match f.content with
  | .text s => recognise s
  | .bytes _ => .other

/-- Action files by their paths, in the order of the paths. -/
abbrev ActionFiles := List (String × ActionFile)

namespace ActionFiles

def has
    (files : ActionFiles)
    (path : String) :
    Bool :=
  files.any fun e => Path.components e.1 = Path.components path

/-- Enters an action file in the place of its path. -/
def insert
    (files : ActionFiles)
    (path : String)
    (a : ActionFile) :
    ActionFiles :=
  match files with
  | [] => [(path, a)]
  | e :: rest =>
      if Path.precedes path e.1 then (path, a) :: e :: rest else e :: insert rest path a

end ActionFiles

/-- Looks at one more file: the action files and the paths of malformed ones so far, and this one. -/
def FoundFile.enter
    (found : ActionFiles × List String)
    (f : FoundFile) :
    Except SearchError (ActionFiles × List String) :=
  if f.isCandidate then
    match f.recognised with
    | .actions a =>
        if found.1.has f.path then .error (.duplicate f.path)
        else .ok (found.1.insert f.path a, found.2)
    | .malformed => .ok (found.1, found.2 ++ [f.path])
    | .other => .ok found
  else
    .ok found

/-- The action files among files, and the paths of those that are malformed. -/
def actionFilesAmong (files : List FoundFile) : Except SearchError (ActionFiles × List String) :=
  files.foldlM FoundFile.enter ([], [])

/-- The action files below a path, in the order of their paths, and the paths of those that are
malformed. A path that is a link leads to a directory or to none of them. -/
def findActionFiles
    (d : Disk)
    (path : String) :
    Except SearchError (ActionFiles × List String) :=
  match d.tree? path, d.locateEntry path with
  | .error e, _ => .error (.walk path e)
  | .ok (.file _ _), .ok (.found _ (.link _)) => .ok ([], [])
  | .ok t, _ => actionFilesAmong (FoundFile.inTree path 0 t.ordered)

end Runbook
