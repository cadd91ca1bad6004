import Runbook.Tool.Input
import Runbook.Tool.Target

/-!
# Removing and moving files

The tools that remove files, directories, and directories with all that is in them, and the tool that
gives files and directories other names, and puts them into other directories.
-/

namespace Runbook
namespace Tool

namespace Removal

/-- How deep directories are gone through. -/
def depth : Nat := 1000

/-- How files are removed. -/
structure Style where
  recursive : Bool
  directories : Bool
  force : Bool
  asks : Bool
  verbose : Bool
  deriving DecidableEq, Repr, Inhabited

/-- Complains that something cannot be removed. -/
def complainOf
    (path : Octets)
    (e : FileFault) :
    Work Unit :=
  Work.complain ("cannot remove ".toList ++ Quoting.shellAlways path ++ ": ".toList
    ++ e.reason.toList)

/-- What a file is called in questions. -/
def kindName (s : FileStatus) : String :=
  match s.kind with
  | .file => if s.size = 0 then "regular empty file" else "regular file"
  | .directory => "directory"
  | .link => "symbolic link"
  | .device => "character special file"
  | .pipe => "fifo"

/-- Asks a question and reads the answer. -/
def confirm (question : Octets) : Work Bool := do
  Work.flush
  let name := (← get).name
  Work.act (Act.complain (name ++ ": ".toList ++ question ++ "? ".toList))
  match ← Work.ask (.readLine 0) with
  | .ok (c :: _) => return c = 'y' || c = 'Y'
  | _ => return false

/-- Whether something may be done, by the answer to a question if one is to be asked. -/
def Style.allows
    (style : Style)
    (question : Octets) :
    Work Bool := do
  if style.asks then confirm question else return true

/-- Removes a file, or a directory with all that is in it. The result tells whether it is gone. -/
def remove
    (style : Style) :
    Nat → Octets → Work Bool
  | 0, _ => return false
  | depth + 1, path => do
      match ← Work.ask (.status path false) with
      | .error e => do
          if style.force && Launch.isMissing e then return true
          complainOf path e
          return false
      | .ok s => do
          let quoted := Quoting.shellAlways path
          if s.kind = .directory then
            if !style.recursive && !style.directories then do
              complainOf path .isDirectory
              return false
            else do
              let names : List Octets ← match ← Work.ask (.list path) with
                | .ok names => pure names
                | .error _ => pure []
              if !style.recursive && !names.isEmpty then
                complainOf path .notEmpty
                return false
              if !names.isEmpty then
                if !(← style.allows ("descend into directory ".toList ++ quoted)) then return false
              let emptied ← names.foldlM
                (fun (all : Bool) name => do
                  return (← remove style depth (PathText.join path name)) && all)
                true
              if !emptied then return false
              if !(← style.allows ("remove directory ".toList ++ quoted)) then return false
              match ← Work.ask (.removeDirectory path) with
              | .ok () => do
                  if style.verbose then Work.say ("removed directory ".toList ++ quoted ++ ['\n'])
                  return true
              | .error e => do
                  complainOf path e
                  return false
          else do
            let question := "remove ".toList ++ (kindName s).toList ++ ' ' :: quoted
            if !(← style.allows question) then return false
            match ← Work.ask (.remove path) with
            | .ok () => do
                if style.verbose then Work.say ("removed ".toList ++ quoted ++ ['\n'])
                return true
            | .error e => do
                complainOf path e
                return false

/-- Whether a path ends in a point or two. -/
def isUnnamed (path : Octets) : Bool :=
  let last := PathText.last path
  last = ['.'] || last = ['.', '.']

/-- The options of the tool that removes files. -/
def forms : List OptionForm :=
  [ flag "r" ["recursive"], flag "R" [], flag "d" ["dir"], flag "f" ["force"], flag "i" [],
    flag "I" [], ⟨"interactive", ["interactive"], .maybe⟩, flag "v" ["verbose"],
    flag "one" ["one-file-system"], flag "noroot" ["no-preserve-root"],
    ⟨"root", ["preserve-root"], .maybe⟩ ]

end Removal

/-- Removes files. -/
def rm : Tool :=
  simple 1 fun words => do
    let a ← Work.arguments Removal.forms 1 words
    let style : Removal.Style :=
      { recursive := a.has "r" || a.has "R"
        directories := a.has "d"
        force := a.last? ["f", "i", "I"] = some "f"
        asks := a.last? ["f", "i", "I"] = some "i"
        verbose := a.has "v" }
    if a.operands.isEmpty then
      if style.force then Work.giveUp 0 else Work.missingOperand 1 none
    let many := decide (3 < a.operands.length)
    if a.last? ["f", "i", "I"] = some "I" && (style.recursive || many) then
      let count := Octets.ofNat a.operands.length ++
        (if a.operands.length = 1 then " argument".toList else " arguments".toList)
      let question := "remove ".toList ++ count ++
        (if style.recursive then " recursively".toList else [])
      if !(← Removal.confirm question) then Work.giveUp 0
    Work.forAll
      (fun path => do
        let isRoot := !path.isEmpty && path.all (· = '/')
        if style.recursive && isRoot then
          Work.complain "it is dangerous to operate recursively on '/'".toList
          Work.warn "use --no-preserve-root to override this failsafe".toList
        else if Removal.isUnnamed path && (style.recursive || style.directories) then
          Work.complain ("refusing to remove '.' or '..' directory: skipping ".toList
            ++ Quoting.shellAlways path)
        else
          let _ ← Removal.remove style Removal.depth path)
      a.operands

/-- Removes one file. -/
def unlink : Tool :=
  simple 1 fun words => do
    let a ← Work.arguments [] 1 words
    match a.operands with
    | [] => Work.missingOperand 1 none
    | _ :: extra :: _ => Work.extraOperand 1 extra
    | [path] =>
        match ← Work.ask (.remove path) with
        | .ok () => pure ()
        | .error e =>
            Work.fail 1 ("cannot unlink ".toList ++ Quoting.shellAlways path ++ ": ".toList
              ++ e.reason.toList)

/-- Removes a directory, and then those above it if asked. -/
def removeUpwards
    (a : Arguments) :
    Nat → Octets → Work Unit
  | 0, _ => pure ()
  | fuel + 1, path => do
      if a.has "v" then
        Work.say ((← get).name ++ ": removing directory, ".toList ++ Quoting.shellAlways path
          ++ ['\n'])
      match ← Work.ask (.removeDirectory path) with
      | .error e =>
          if !(a.has "ignore" && e = .notEmpty) then
            Work.complain ("failed to remove ".toList ++ Quoting.shellAlways path ++ ": ".toList
              ++ e.reason.toList)
      | .ok () =>
          let parent := PathText.parent path
          if a.has "p" && parent ≠ ['.'] && parent ≠ ['/'] then removeUpwards a fuel parent

/-- Removes empty directories. -/
def rmdir : Tool :=
  simple 1 fun words => do
    let a ← Work.arguments
      [ flag "p" ["parents"], flag "v" ["verbose"],
        flag "ignore" ["ignore-fail-on-non-empty"] ] 1 words
    if a.operands.isEmpty then Work.missingOperand 1 none
    Work.forAll (fun path => removeUpwards a (path.length + 1) path) a.operands

/-! ## Moving files -/

namespace Moving

/-- What is done about a target that is there already. -/
inductive Replacing where
  | always
  | afterAsking
  | never
  | ifOlder
  deriving DecidableEq, Repr, Inhabited

/-- How files are moved. -/
structure Style where
  replacing : Replacing
  verbose : Bool
  backup : Backup
  deriving DecidableEq, Repr, Inhabited

def complainAt
    (words : String)
    (path : Octets)
    (e : FileFault) :
    Work Unit :=
  Work.complain (words.toList ++ ' ' :: Quoting.shellAlways path ++ ": ".toList ++ e.reason.toList)

def isSame
    (style : Style)
    (source target : Octets)
    (s t : FileStatus) :
    Work Bool := do
  let same := s.identity = t.identity
  if s.kind = .link && t.kind = .link then return same
  let isOneName := PathText.last source = PathText.last target &&
    (← Work.act (Act.statusAt? (PathText.parent source))).map FileStatus.identity
      = (← Work.act (Act.statusAt? (PathText.parent target))).map FileStatus.identity
  if style.backup.style ≠ .off then return same && isOneName
  if t.kind = .link then return false
  if s.kind ≠ .link && !same then return false
  match ← Work.act (Act.statusAt? source), ← Work.act (Act.statusAt? target) with
  | some a, some b => return a.identity = b.identity
  | _, _ => return false

def tell
    (style : Style)
    (source target : Octets)
    (kept : Option Octets) :
    Work Unit := do
  if style.verbose then
    Work.say ("renamed ".toList ++ Quoting.shellAlways source ++ " -> ".toList
      ++ Quoting.shellAlways target ++ Backup.told kept ++ ['\n'])

/-- Renames, and complains if that is not possible. -/
def rename
    (style : Style)
    (source target : Octets)
    (kept : Option Octets) :
    Work Unit := do
  match ← Work.ask (.rename source target) with
  | .ok () => tell style source target kept
  | .error .invalid =>
      Work.complain ("cannot move ".toList ++ Quoting.shellAlways source
        ++ " to a subdirectory of itself, ".toList ++ Quoting.shellAlways target)
  | .error e =>
      if e = .notEmpty || e = .taken || e = .isDirectory then complainAt "cannot overwrite" target e
      else
        Work.complain ("cannot move ".toList ++ Quoting.shellAlways source ++ " to ".toList
          ++ Quoting.shellAlways target ++ ": ".toList ++ e.reason.toList)

/-- The files that were moved to a name that was given to the tool, by these names. -/
abbrev Log := List (Octets × (Place × Nat))

def replace
    (style : Style)
    (log : Log)
    (source target : Octets)
    (s t : FileStatus) :
    Work Unit := do
  if style.replacing ≠ .never then
    if ← isSame style source target s t then
      Work.complain (Quoting.shellAlways source ++ " and ".toList ++ Quoting.shellAlways target
        ++ " are the same file".toList)
      return
  let sIsDirectory := decide (s.kind = .directory)
  let tIsDirectory := decide (t.kind = .directory)
  match style.replacing with
  | .always => pure ()
  | .ifOlder => if !sIsDirectory then return
  | .never => do
      Work.complain ("not replacing ".toList ++ Quoting.shellAlways target)
      return
  | .afterAsking =>
      if !(← Removal.confirm ("overwrite ".toList ++ Quoting.shellAlways target)) then
        Work.setStatus 1
        return
  if !tIsDirectory && style.backup.style = .off && log.contains (target, t.identity) then
    Work.complain ("will not overwrite just-created ".toList ++ Quoting.shellAlways target
      ++ " with ".toList ++ Quoting.shellAlways source)
  else if style.backup.style ≠ .off then
    match ← style.backup.keep target with
    | .ok kept => rename style source target kept
    | .error e => complainAt "cannot backup" target e
  else if sIsDirectory && !tIsDirectory then
    Work.complain ("cannot overwrite non-directory ".toList ++ Quoting.shellAlways target
      ++ " with directory ".toList ++ Quoting.shellAlways source)
  else if !sIsDirectory && tIsDirectory then
    Work.complain ("cannot overwrite directory ".toList ++ Quoting.shellAlways target
      ++ " with non-directory".toList)
  else rename style source target none

/-- Moves one file or directory. -/
def move
    (style : Style)
    (log : Log)
    (pair : Octets × Octets) :
    Work Log := do
  let (source, target) := pair
  match ← Work.ask (.status source false) with
  | .error e => complainAt "cannot stat" source e
  | .ok s =>
      match ← Work.ask (.status target false) with
      | .error e =>
          if e = .noEntry then rename style source target none
          else complainAt "cannot stat" target e
      | .ok t => replace style log source target s t
  match ← Work.act (Act.entryAt? target) with
  | some t => return (target, t.identity) :: log
  | none => return log

/-- The options of the tool that moves files. -/
def forms : List OptionForm :=
  Backup.forms ++ Delivery.forms ++
    [ flag "f" ["force"], flag "i" ["interactive"], flag "n" ["no-clobber"], flag "u" [],
      ⟨"update", ["update"], .maybe⟩, flag "v" ["verbose"], flag "Z" ["context"],
      flag "strip" ["strip-trailing-slashes"], flag "nocopy" ["no-copy"], flag "debug" ["debug"] ]

/-- What the options say about targets that are there. -/
def replacingOf (a : Arguments) : Work Replacing := do
  match a.last? ["f", "i", "n", "u", "update"] with
  | some "i" => return .afterAsking
  | some "n" => return .never
  | some "u" => return .ifOlder
  | some "update" =>
      let word := (a.value? "update").getD []
      if word.isEmpty then return .ifOlder
      match ← Work.choice "--update" [["all"], ["none"], ["older"]] word with
      | "none" => return .ifOlder
      | "older" => return .ifOlder
      | _ => return .always
  | _ => return .always

end Moving

def mv : Tool :=
  simple 1 fun words => do
    let a ← Work.arguments Moving.forms 1 words
    let backup ← Backup.read a
    let style : Moving.Style :=
      { replacing := ← Moving.replacingOf a, verbose := a.has "v" || a.has "debug", backup := backup }
    let trimmed (path : Octets) : Octets :=
      if a.has "strip" && !(path.all (· = '/')) then PathText.withoutSlashes path else path
    let d ← Delivery.read { a with operands := a.operands.map trimmed }
    let _ ← Work.foldAll (Moving.move style) [] d.pairs

end Tool
end Runbook
