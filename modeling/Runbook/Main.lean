import Runbook.CommandLine.Dispatch
import Runbook.Files.Disk
import Runbook.Process.Toolbox

/-!
# The command line

What the program needs of the disk is read into trees, the program runs on them, and what it changed
is written back.
-/

namespace Runbook

/-- How deep directories are followed. -/
def readingDepth : Nat := 64

def readTree : Nat → String → IO FileTree
  | 0, _ => return .directory []
  | fuel + 1, path => do
      let place ← IO.FS.realPath path
      if ← place.isDir then
        let mut entries : Dict FileTree := []
        for entry in ← place.readDir do
          let t ← readTree fuel (Path.join path entry.fileName)
          entries := Dict.insert entries entry.fileName t
        return .directory entries
      else
        return .file (.ofBytes (← IO.FS.readBinFile path).toList) .plain

/-- Reads what is at a path into a disk, unless the disk has it or there is nothing. -/
def mountFrom
    (d : Disk)
    (path : String) :
    IO Disk := do
  if d.exists? path then
    return d
  try
    return d.mount path (← readTree readingDepth path)
  catch _ =>
    return d

/-- The variables of the environment, from their text: each ends with a null character. -/
def environmentOf (text : List Char) : Environment :=
  Dict.ofList ((Text.splitOn '\x00' text).filterMap fun entry =>
    let name := entry.takeWhile (· ≠ '=')
    match entry.drop name.length with
    | [] => none
    | _ :: value => some (String.ofList name, String.ofList value))

/-- Three permission bits. -/
def accessOf (bits : Nat) : IO.AccessRight :=
  ⟨bits &&& 4 ≠ 0, bits &&& 2 ≠ 0, bits &&& 1 ≠ 0⟩

/-- Does one step on the disk. -/
def Edit.perform : Edit → IO Unit
  | .permit path mode =>
      IO.setAccessRights path ⟨accessOf (mode / 64), accessOf (mode / 8), accessOf mode⟩
  | .write path content => IO.FS.writeBinFile path ⟨content.toBytes.toArray⟩
  | .makeDirectory path => IO.FS.createDirAll path
  | .removeFile path => IO.FS.removeFile path
  | .removeDirectory path => IO.FS.removeDirAll path

/-- The directories outside of the working directory that a session looks into. -/
def outsideDirectories
    (env : Environment)
    (s : Session) :
    List String :=
  let roles := PathTemplate.resolve env s.workDirectory s.settings.rolesDirectory
  s.commandsRoot :: (match roles with
    | .ok path => [path]
    | .error _ => [])

/-- The part of the disk that the program works on. -/
def readDisk
    (env : Environment)
    (workDirectory : String) :
    IO Disk := do
  let work ← mountFrom (.directory []) workDirectory
  let configured ← match Settings.directory? env with
    | some path => mountFrom work (Path.join workDirectory path)
    | none => pure work
  match (Session.open_ env workDirectory configured).2 with
  | .ok s => (outsideDirectories env s).foldlM mountFrom configured
  | .error _ => return configured

/-- Runs the program with words in the current directory. -/
def runHere (words : List String) : IO UInt32 := do
  let environment := environmentOf
    (Utf8.decodeLossy (← IO.FS.readBinFile "/proc/self/environ").toList)
  let workDirectory := (← IO.currentDir).toString
  let before := Toolbox.equip (← readDisk environment workDirectory)
  let around : Surroundings :=
    ⟨environment, ⟨"linux", "x86_64"⟩, .refusing, Toolbox.system environment⟩
  let (desk, ending) := runProgram around workDirectory words before .none
  for edit in FileTree.edits "/" (some before) desk.disk do
    edit.perform
  IO.print ending.output
  IO.eprint ending.errors
  return ending.code.toUInt32

end Runbook

/-- Runs the program with the words of the command line. -/
def main (words : List String) : IO UInt32 :=
  Runbook.runHere words
