import Runbook.Machine.Answer

/-!
# Entries of directories

Calls that look at the entries of directories or change them: what an entry is, and making, removing,
moving and naming files.
-/

namespace Runbook
namespace Machine

mutual

/-- How many names the file with a number has. -/
def countTwins (twin : Nat) : FileTree → Nat
  | .file _ traits => if traits.twin = some twin then 1 else 0
  | .directory es => countTwinsAmong twin es
  | .link _ => 0
  | .device _ => 0

/-- How many names the file with a number has among entries. -/
def countTwinsAmong (twin : Nat) : List (String × FileTree) → Nat
  | [] => 0
  | (_, t) :: rest => countTwins twin t + countTwinsAmong twin rest

end

def statusAt
    (m : Machine)
    (place : Place) :
    FileTree → FileStatus
  | .file c traits =>
      { kind := .file
        size := (Octets.ofContent c).size
        mode := traits.mode
        names := match traits.twin with
          | some twin => countTwins twin m.disk
          | none => 1
        identity := match traits.twin with
          | some twin => ([], twin + 1)
          | none => (place, 0) }
  | .link target => ⟨.link, target.utf8ByteSize, 0o777, 1, (place, 0)⟩
  | .device _ => ⟨.device, 0, 0o666, 1, (place, 0)⟩
  | .directory es =>
      ⟨.directory, 4096, 0o755, 2 + (es.filter fun e => e.2.isDirectory).length, (place, 0)⟩

def statusOfFile
    (m : Machine)
    (f : OpenFile) :
    FileStatus :=
  match f.source with
  | .file place =>
      match m.disk.get? place with
      | some t => statusAt m place t
      | none => ⟨.file, 0, 0o644, 0, (place, 0)⟩
  | .nameless c => ⟨.file, (Octets.ofContent c).size, 0o644, 0, ([], 0)⟩
  | .directory place => ⟨.directory, 4096, 0o755, 2, (place, 0)⟩
  | .device _ => ⟨.device, 0, 0o666, 1, ([], 0)⟩
  | .pipe n => ⟨.pipe, 0, 0o600, 1, ([], n)⟩
  | .captured n => ⟨.pipe, 0, 0o600, 1, ([], n)⟩

/-- What is known of what a descriptor stands for. -/
def statusOfDescriptor
    (m : Machine)
    (p : Process)
    (descriptor : Nat) :
    Except FileFault FileStatus :=
  match (p.file? descriptor).bind m.file? with
  | some f => .ok (statusOfFile m f)
  | none => .error .badDescriptor

/-- What is known of what a path leads to. -/
def statusOfPath
    (m : Machine)
    (p : Process)
    (path : Octets)
    (final : Bool) :
    Except FileFault FileStatus :=
  match descriptorNamed? path with
  | some d => if final then statusOfDescriptor m p d else .ok ⟨.link, 64, 0o777, 1, ([], 0)⟩
  | none =>
      match spot m p final path with
      | .error e => .error e
      | .ok (.found place t) => .ok (statusAt m place t)
      | .ok (.free _ _ _) => .error .noEntry

def namesIn
    (m : Machine)
    (p : Process)
    (path : Octets) :
    Except FileFault (List Octets) :=
  match spot m p true path with
  | .error e => .error e
  | .ok (.found _ (.directory es)) => .ok (es.map fun e => Octets.ofText e.1)
  | .ok (.found _ _) => .error .notDirectory
  | .ok (.free _ _ _) => .error .noEntry

/-- The free name that a path leads to; a slash may mark it as that of a directory if that is what it is
to be. -/
def freeSpot
    (m : Machine)
    (p : Process)
    (path : Octets)
    (isForDirectory : Bool) :
    Except FileFault Place :=
  let (name, slashed) := trimmed path
  match spot m p false name with
  | .error e => .error e
  | .ok (.found _ _) => .error .taken
  | .ok (.free parent name _) =>
      if slashed && !isForDirectory then .error .noEntry else .ok (parent ++ [name])

def makeDirectory
    (m : Machine)
    (p : Process)
    (path : Octets) :
    Except FileFault Machine :=
  (freeSpot m p path true).map fun place => m.onDisk (m.disk.put place (.directory []))

/-- The last part of a path that says something. -/
def lastPart (path : Octets) : Octets :=
  (((Octets.splitOn '/' path).filter fun part => !part.isEmpty).getLast?).getD []

/-- Where a path leads whose last name is taken as it is, though a slash may follow it; what such a slash
follows has to be a directory. -/
def entrySpot
    (m : Machine)
    (p : Process)
    (path : Octets) :
    Except FileFault Spot :=
  let (name, slashed) := trimmed path
  if !slashed then spot m p false path
  else
    match spot m p false name with
    | .ok (.found _ (.link _)) => .error .notDirectory
    | _ => spot m p false path

def removeDirectory
    (m : Machine)
    (p : Process)
    (path : Octets) :
    Except FileFault Machine :=
  match entrySpot m p path with
  | .error e => .error e
  | .ok (.free _ _ _) => .error .noEntry
  | .ok (.found place (.directory es)) =>
      if lastPart path = ['.'] then .error .invalid
      else if !es.isEmpty || lastPart path = ['.', '.'] then .error .notEmpty
      else if place.isEmpty then .error .busy
      else .ok (m.onDisk (m.disk.erase place))
  | .ok (.found _ _) => .error .notDirectory

def removeFile
    (m : Machine)
    (p : Process)
    (path : Octets) :
    Except FileFault Machine :=
  match entrySpot m p path with
  | .error e => .error e
  | .ok (.free _ _ _) => .error .noEntry
  | .ok (.found _ (.directory _)) => .error .isDirectory
  | .ok (.found place _) =>
      let n := m.detach place
      .ok (n.onDisk (n.disk.erase place))

def mayReplace
    (new old : FileTree) :
    Except FileFault Unit :=
  match new, old with
  | .directory _, .directory [] => .ok ()
  | .directory _, .directory _ => .error .notEmpty
  | .directory _, _ => .error .notDirectory
  | _, .directory _ => .error .isDirectory
  | _, _ => .ok ()

/-- Whether two trees are names of one file. -/
def areTwins : FileTree → FileTree → Bool
  | .file _ a, .file _ b => a.twin.isSome && a.twin = b.twin
  | _, _ => false

def moveTree
    (m : Machine)
    (source target : Place)
    (t : FileTree) :
    Machine :=
  let kept := m.detach target
  let moved := kept.relocate source target
  moved.onDisk ((moved.disk.erase source).put target t)

def rename
    (m : Machine)
    (p : Process)
    (source target : Octets) :
    Except FileFault Machine :=
  let isUnnamed (path : Octets) : Bool := lastPart path = ['.'] || lastPart path = ['.', '.']
  match entrySpot m p source with
  | .error e => .error e
  | .ok (.free _ _ _) => .error .noEntry
  | .ok (.found from_ t) =>
      let (name, slashed) := trimmed target
      if isUnnamed source || isUnnamed target || from_.isEmpty then .error .busy
      else
        match spot m p false name with
        | .error e => .error e
        | .ok (.found to_ old) =>
            if slashed && !t.isDirectory then .error .notDirectory
            else if to_ = from_ || areTwins t old then .ok m
            else if isBelow from_ to_ then .error .invalid
            else (mayReplace t old).map fun _ => moveTree m from_ to_ t
        | .ok (.free parent name _) =>
            if slashed && !t.isDirectory then .error .notDirectory
            else if isBelow from_ (parent ++ [name]) then .error .invalid
            else .ok (moveTree m from_ (parent ++ [name]) t)

/-- Makes a symbolic link. -/
def symlink
    (m : Machine)
    (p : Process)
    (content path : Octets) :
    Except FileFault Machine :=
  if content.isEmpty then .error .noEntry
  else
    (freeSpot m p path false).map fun place =>
      m.onDisk (m.disk.put place (.link (Octets.toText content)))

/-- Gives a file one more name. -/
def hardLink
    (m : Machine)
    (p : Process)
    (source path : Octets) :
    Except FileFault Machine :=
  match spot m p false source, freeSpot m p path false with
  | .error e, _ => .error e
  | .ok (.free _ _ _), _ => .error .noEntry
  | .ok (.found _ (.directory _)), _ => .error .notPermitted
  | _, .error e => .error e
  | .ok (.found from_ (.file c traits)), .ok to_ =>
      let number := m.jobs.nextFile
      let shared : FileTree := .file c { traits with twin := some (traits.twin.getD number) }
      let n : Machine := { m with jobs := { m.jobs with nextFile := number + 1 } }
      .ok (n.onDisk ((n.disk.put from_ shared).put to_ shared))
  | .ok (.found _ t), .ok to_ => .ok (m.onDisk (m.disk.put to_ t))

/-- What a symbolic link says. -/
def targetOf
    (m : Machine)
    (p : Process)
    (path : Octets) :
    Except FileFault Octets :=
  match spot m p false path with
  | .error e => .error e
  | .ok (.found _ (.link target)) => .ok (Octets.ofText target)
  | .ok (.found _ _) => .error .invalid
  | .ok (.free _ _ _) => .error .noEntry

/-- Sets the permission bits of a file; of a directory they are not kept. -/
def permit
    (m : Machine)
    (p : Process)
    (path : Octets)
    (mode : Nat) :
    Except FileFault Machine :=
  match spot m p true path with
  | .error e => .error e
  | .ok (.free _ _ _) => .error .noEntry
  | .ok (.found place (.file c traits)) =>
      .ok (m.onDisk (m.disk.put place (.file c { traits with mode := mode })))
  | .ok (.found _ _) => .ok m

def directoryAt
    (m : Machine)
    (p : Process)
    (path : Octets) :
    Except FileFault Place :=
  match spot m p true path with
  | .error e => .error e
  | .ok (.found place (.directory _)) => .ok place
  | .ok (.found _ _) => .error .notDirectory
  | .ok (.free _ _ _) => .error .noEntry

/-- What the file at a path holds, if it may be run. -/
def imageAt
    (m : Machine)
    (p : Process)
    (path : Octets) :
    Except FileFault Octets :=
  match spot m p true path with
  | .error e => .error e
  | .ok (.free _ _ _) => .error .noEntry
  | .ok (.found _ (.file c traits)) =>
      if traits.isExecutable then .ok (Octets.ofBytes (Octets.ofContent c).toList)
      else .error .denied
  | .ok (.found _ _) => .error .denied

def pathOf (place : Place) : Octets :=
  match place with
  | [] => ['/']
  | names => names.flatMap fun name => '/' :: Octets.ofText name

end Machine
end Runbook
