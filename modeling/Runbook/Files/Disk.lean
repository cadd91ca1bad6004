import Runbook.Files.Path
import Runbook.Files.Tree

/-!
# The disk and its edits

Reading and writing by path, and the steps that make one tree out of another one.
-/

namespace Runbook

/-!
## The disk

Reading and writing by path. A path is followed from the root, part by part: an empty part or a
point stays, two points go back, and each part needs a directory to be looked up in. A symbolic link
is replaced by its target, unless it ends the path and the link itself is meant. What goes wrong is
told in the words of the operating system.
-/

/-- Why the disk or the machine refuses. -/
inductive FileFault where
  | notPermitted
  | noEntry
  | noProcess
  | notRunnable
  | badDescriptor
  | noChild
  | denied
  | busy
  | taken
  | notDirectory
  | isDirectory
  | invalid
  | noRoom
  | illegalSeek
  | brokenPipe
  | nameTooLong
  | notEmpty
  | tooManyLinks
  | nulInName
  | nulInCall
  | noMemory
  | notText
  | noWholeTree
  deriving DecidableEq, Repr, Inhabited

/-- What is wrong, in words. -/
def FileFault.reason : FileFault → String
  | .notPermitted => "Operation not permitted"
  | .noEntry => "No such file or directory"
  | .noProcess => "No such process"
  | .notRunnable => "Exec format error"
  | .badDescriptor => "Bad file descriptor"
  | .noChild => "No child processes"
  | .denied => "Permission denied"
  | .busy => "Device or resource busy"
  | .taken => "File exists"
  | .notDirectory => "Not a directory"
  | .isDirectory => "Is a directory"
  | .invalid => "Invalid argument"
  | .noRoom => "No space left on device"
  | .illegalSeek => "Illegal seek"
  | .brokenPipe => "Broken pipe"
  | .nameTooLong => "File name too long"
  | .notEmpty => "Directory not empty"
  | .tooManyLinks => "Too many levels of symbolic links"
  | .nulInName => "file name contained an unexpected NUL byte"
  | .nulInCall => "nul byte found in provided data"
  | .noMemory => "out of memory"
  | .notText => "stream did not contain valid UTF-8"
  | .noWholeTree => "failed to create whole tree"

/-- The number that the operating system has for a fault, if it is one of its own. -/
def FileFault.number? : FileFault → Option Nat
  | .notPermitted => some 1
  | .noEntry => some 2
  | .noProcess => some 3
  | .notRunnable => some 8
  | .badDescriptor => some 9
  | .noChild => some 10
  | .denied => some 13
  | .busy => some 16
  | .taken => some 17
  | .notDirectory => some 20
  | .isDirectory => some 21
  | .invalid => some 22
  | .noRoom => some 28
  | .illegalSeek => some 29
  | .brokenPipe => some 32
  | .nameTooLong => some 36
  | .notEmpty => some 39
  | .tooManyLinks => some 40
  | _ => none

def FileFault.message (fault : FileFault) : String :=
  match fault.number? with
  | some n => s!"{fault.reason} (os error {n})"
  | none => fault.reason

/-- All files, below the root. -/
abbrev Disk := FileTree

/-- Where a path leads: to something, or to a name not in use yet, which the path may mark as a
directory by a slash at its end. -/
inductive Spot where
  | found (place : Place) (tree : FileTree)
  | free (parent : Place) (name : String) (slash : Bool)
  deriving Repr, Inhabited

namespace Disk

/-- How many bytes a path may have, the zero at its end included. -/
def maxPath : Nat := 4096

/-- How many bytes a name may have. -/
def maxName : Nat := 255

/-- How many links may be followed on one way. -/
def maxLinks : Nat := 40

/-- Where a target leads from a place on: back to the root if it starts with a slash. -/
def turn
    (at_ : Place)
    (target : List Char) :
    Place :=
  if target.head? = some '/' then [] else at_

/-- Follows parts of a path from a place. A link at the end of the path counts as itself unless
`final` is set; `links` is the number of links that may still be followed. -/
def follow
    (d : Disk)
    (final : Bool)
    (links : Nat)
    (at_ : Place)
    (parts : List (List Char)) :
    Except FileFault Spot :=
  match parts with
  | [] =>
      match d.get? at_ with
      | some t => .ok (.found at_ t)
      | none => .error .noEntry
  | part :: rest =>
      match d.get? at_ with
      | none => .error .noEntry
      | some (.directory es) =>
          if part.isEmpty || part = ['.'] then follow d final links at_ rest
          else if part = ['.', '.'] then follow d final links at_.dropLast rest
          else
            let name := String.ofList part
            if maxName < name.utf8ByteSize then .error .nameTooLong
            else
              match Dict.get? es name with
              | some (.link target) =>
                  if !final && rest.isEmpty then .ok (.found (at_ ++ [name]) (.link target))
                  else
                    match links with
                    | 0 => .error .tooManyLinks
                    | left + 1 =>
                        follow d final left (turn at_ target.toList)
                          (Text.splitOn '/' target.toList ++ rest)
              | some _ => follow d final links (at_ ++ [name]) rest
              | none =>
                  if rest.all List.isEmpty then .ok (.free at_ name (!rest.isEmpty))
                  else .error .noEntry
      | some _ => .error .notDirectory
  termination_by (links, parts.length)

/-- Where a path leads from a place on. A link at its end is followed if `final` is set. -/
def locateFrom
    (d : Disk)
    (at_ : Place)
    (final : Bool)
    (path : String) :
    Except FileFault Spot :=
  let s := path.toList
  if s.contains '\x00' then .error .nulInName
  else if s.isEmpty then .error .noEntry
  else if maxPath ≤ path.utf8ByteSize then .error .nameTooLong
  else follow d final maxLinks (turn at_ s) (Text.splitOn '/' s)

/-- Where a path leads, through all links. -/
def locate
    (d : Disk)
    (path : String) :
    Except FileFault Spot :=
  locateFrom d [] true path

/-- Where a path leads, up to a link at its end. -/
def locateEntry
    (d : Disk)
    (path : String) :
    Except FileFault Spot :=
  locateFrom d [] false path

/-- A path without the slashes at its end; slashes alone stay. -/
def bare (path : String) : String :=
  let s := (path.toList.reverse.dropWhile (· = '/')).reverse
  if s.isEmpty then path else String.ofList s

/-- Whether a path marks its last name as that of a directory by a slash. -/
def isSlashed (path : String) : Bool :=
  bare path ≠ path

def tree?
    (d : Disk)
    (path : String) :
    Except FileFault FileTree :=
  match locate d path with
  | .error e => .error e
  | .ok (.found _ t) => .ok t
  | .ok (.free _ _ _) => .error .noEntry

/-- Whether a path leads to something. -/
def exists?
    (d : Disk)
    (path : String) :
    Bool :=
  match tree? d path with
  | .ok _ => true
  | .error _ => false

def isFile
    (d : Disk)
    (path : String) :
    Bool :=
  match tree? d path with
  | .ok t => t.isFile
  | .error _ => false

def isDirectory
    (d : Disk)
    (path : String) :
    Bool :=
  match tree? d path with
  | .ok t => t.isDirectory
  | .error _ => false

/-- What the file at a path holds. A device that gives zeros without end is never read to its end. -/
def read
    (d : Disk)
    (path : String) :
    Except FileFault Content :=
  match tree? d path with
  | .error e => .error e
  | .ok (.file c _) => .ok c
  | .ok (.device .null) => .ok (.text "")
  | .ok (.device _) => .error .noMemory
  | .ok (.directory _) => .error .isDirectory
  | .ok (.link _) => .error .tooManyLinks

def readText
    (d : Disk)
    (path : String) :
    Except FileFault String :=
  match read d path with
  | .error e => .error e
  | .ok (.text s) => .ok s
  | .ok (.bytes _) => .error .notText

/-- The entries of the directory at a path, in the order of their names. -/
def list
    (d : Disk)
    (path : String) :
    Except FileFault (Dict FileTree) :=
  match tree? d path with
  | .error e => .error e
  | .ok (.directory es) => .ok es
  | .ok _ => .error .notDirectory

/-- Writes the file at a path, in a directory that exists. A file that is there keeps its traits, and holds
the front of the content if there is no room for all of it. What is marked as a directory is no file,
whatever is there, be it marked by the path or by a link. -/
def overwrite
    (d : Disk)
    (path : String)
    (c : Content) :
    Disk × Except FileFault Unit :=
  if isSlashed path then
    match locateEntry d (bare path) with
    | .error e => (d, .error e)
    | .ok _ => (d, .error .isDirectory)
  else
    match locate d path with
    | .error e => (d, .error e)
    | .ok (.found _ (.directory _)) => (d, .error .isDirectory)
    | .ok (.found place t) =>
        match t.room? with
        | none => (d.store place c, .ok ())
        | some n =>
            if c.size ≤ n then (d.store place c, .ok ())
            else (d.store place (c.cut n), .error .noRoom)
    | .ok (.free parent name slash) =>
        if slash then (d, .error .isDirectory) else (d.store (parent ++ [name]) c, .ok ())

/-- The disk that a change leaves when it goes well. -/
def ifDone (r : Disk × Except FileFault Unit) : Except FileFault Disk :=
  r.2.map fun _ => r.1

def write
    (d : Disk)
    (path : String)
    (c : Content) :
    Except FileFault Disk :=
  ifDone (d.overwrite path c)

/-- Creates one directory, in one that exists. -/
def makeDirectory
    (d : Disk)
    (path : String) :
    Except FileFault Disk :=
  match locateEntry d (bare path) with
  | .error e => .error e
  | .ok (.found _ _) => .error .taken
  | .ok (.free parent name _) => .ok (d.put (parent ++ [name]) (.directory []))

/-- What is left where a directory was to be created: a directory that is there is as good. -/
def settleDirectory
    (d : Disk)
    (path : String) :
    Except FileFault Disk → Disk × Except FileFault Unit
  | .ok made => (made, .ok ())
  | .error e => (d, if isDirectory d path then .ok () else .error e)

/-- Creates a directory and those around it, as far as they are missing. What was created before a fault
stays. -/
def makeDirectories : Nat → Disk → String → Disk × Except FileFault Unit
  | 0, d, _ => (d, .error .noWholeTree)
  | fuel + 1, d, path =>
      match makeDirectory d path with
      | .error .noEntry =>
          match Path.parent? path with
          | none => (d, .error .noWholeTree)
          | some parent =>
              match makeDirectories fuel d parent with
              | (around, .error e) => (around, .error e)
              | (around, .ok ()) => settleDirectory around path (makeDirectory around path)
      | made => settleDirectory d path made

/-- Makes sure that a directory exists, as far as possible. -/
def provideDirectory
    (d : Disk)
    (path : String) :
    Disk × Except FileFault Unit :=
  if path.isEmpty then (d, .ok ()) else makeDirectories (path.length + 1) d path

/-- The disk with a directory that has been made sure of. -/
def ensureDirectory
    (d : Disk)
    (path : String) :
    Except FileFault Disk :=
  ifDone (d.provideDirectory path)

/-- How a path ends that names no entry of a directory. -/
def endsUnnamed (path : String) : Bool :=
  match ((Text.splitOn '/' path.toList).filter fun p => !p.isEmpty).getLast? with
  | none => true
  | some last => last = ['.'] || last = ['.', '.']

/-- Moves a new file into place at a path, where a file or a link may be but no directory. -/
def moveInto
    (d : Disk)
    (path : String)
    (c : Content) :
    Except FileFault Disk :=
  if endsUnnamed path then
    .error .busy
  else
    match locateEntry d (bare path) with
    | .error e => .error e
    | .ok (.found place t) =>
        if isSlashed path then .error .notDirectory
        else if t.isDirectory then .error .isDirectory
        else .ok (d.put place (.file c .secluded))
    | .ok (.free parent name _) =>
        if isSlashed path then .error .notDirectory
        else .ok (d.put (parent ++ [name]) (.file c .secluded))

/-- Replaces the file at a path as a whole: the directory around it is made first, then the new file, for
which there is room, is moved into place. What was created before a fault stays. -/
def replace
    (d : Disk)
    (path : String)
    (c : Content) :
    Disk × Except FileFault Unit :=
  match provideDirectory d ((Path.parent? path).getD ".") with
  | (made, .error e) => (made, .error e)
  | (made, .ok ()) =>
      match moveInto made path c with
      | .error e => (made, .error e)
      | .ok written => (written, .ok ())

end Disk

/-!
## Edits

The steps that make one tree out of another one: a directory is there before anything is written
into it, and what is gone is removed.
-/

/-- A step on the disk. A link and a device cannot be made by one. -/
inductive Edit where
  | write (path : String) (content : Content)
  | permit (path : String) (mode : Nat)
  | makeDirectory (path : String)
  | removeFile (path : String)
  | removeDirectory (path : String)
  deriving DecidableEq, Repr, Inhabited

/-- The steps that remove a tree. -/
def Edit.removal
    (path : String) :
    FileTree → List Edit
  | .directory _ => [.removeDirectory path]
  | _ => [.removeFile path]

/-- The steps that make a file out of a new one or out of one with given content and traits. -/
def Edit.file
    (path : String)
    (before : Option (Content × Traits))
    (c : Content)
    (traits : Traits) :
    List Edit :=
  let (old, mode) := match before with
    | some (content, known) => (some content, known.mode)
    | none => (none, Traits.plain.mode)
  (if old = some c then [] else [.write path c])
    ++ (if mode = traits.mode then [] else [.permit path traits.mode])

/-- The steps that remove the entries of a directory that are not kept. -/
def Edit.removals
    (path : String)
    (before after : Dict FileTree) :
    List Edit :=
  before.flatMap fun (name, t) =>
    if Dict.has after name then [] else Edit.removal (Path.join path name) t

namespace FileTree

mutual

/-- The steps that make a tree at a path out of what is there before. -/
def edits
    (path : String)
    (before : Option FileTree) :
    FileTree → List Edit
  | .file c traits =>
      match before with
      | some (.file old known) => Edit.file path (some (old, known)) c traits
      | some t => Edit.removal path t ++ Edit.file path none c traits
      | none => Edit.file path none c traits
  | .directory es =>
      match before with
      | some (.directory old) => Edit.removals path old es ++ entryEdits path old es
      | some _ => .removeFile path :: .makeDirectory path :: entryEdits path [] es
      | none => .makeDirectory path :: entryEdits path [] es
  | .link _ => []
  | .device _ => []

/-- The steps that make the entries of a directory. -/
def entryEdits
    (path : String)
    (before : Dict FileTree) :
    List (String × FileTree) → List Edit
  | [] => []
  | (name, t) :: rest =>
      edits (Path.join path name) (Dict.get? before name) t ++ entryEdits path before rest

end

end FileTree

/-- A disk with a tree at a path, in directories that are made for it. -/
def Disk.mount
    (d : Disk)
    (path : String)
    (t : FileTree) :
    Disk :=
  match d.ensureDirectory path with
  | .error _ => d
  | .ok made =>
      match made.locate path with
      | .ok (.found place _) => made.put place t
      | _ => made

end Runbook
