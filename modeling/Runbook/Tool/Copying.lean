import Runbook.Tool.Making
import Runbook.Tool.Moving
import Runbook.Tool.Linking
import Runbook.Tool.Target

/-!
# Copying files

The tools that copy files, directories with all that is in them, and files that are to be put where
they are used.
-/

namespace Runbook
namespace Tool

/-- Which links are followed to what they lead to. -/
inductive Following where
  | none
  | named
  | all
  deriving DecidableEq, Repr, Inhabited

/-- What is done about a target that is there already. -/
inductive Overwriting where
  | always
  | afterAsking
  | never
  | ifOlder
  deriving DecidableEq, Repr, Inhabited

/-- What is made of a file. -/
inductive CopyForm where
  | content
  | hardLink
  | symbolicLink
  | nothing
  deriving DecidableEq, Repr, Inhabited

/-- How files are copied. `mode` is set on every copy. -/
structure CopyStyle where
  recursive : Bool
  following : Following
  overwriting : Overwriting
  force : Bool
  removesFirst : Bool
  form : CopyForm
  keepsMode : Bool
  keepsTwins : Bool
  verbose : Bool
  mode : Option Nat
  backup : Backup
  deriving DecidableEq, Repr, Inhabited

abbrev FileIdentity := Place × Nat

/-- What was copied so far: the sources that were named, the files and the directories that were made,
and the copies of files with several names. -/
structure CopyLog where
  sources : List (Octets × FileIdentity)
  made : List (Octets × FileIdentity)
  directories : List FileIdentity
  twins : List (FileIdentity × Octets)
  deriving Inhabited

namespace Copying

/-- Complains about something with a path. -/
def complainAt
    (words : String)
    (path : Octets)
    (e : FileFault) :
    Work Unit :=
  Work.complain (words.toList ++ ' ' :: Quoting.shellAlways path ++ ": ".toList ++ e.reason.toList)

/-- Whether a source and the target that is there are different enough. -/
def mayOverwrite
    (style : CopyStyle)
    (source target : Octets)
    (s t : FileStatus) :
    Work Bool := do
  let same := s.identity = t.identity
  if style.following = .none && s.kind = .link && t.kind = .link then return !same
  if style.following ≠ .none && !same then return true
  match ← Work.act (Act.entryAt? source), ← Work.act (Act.entryAt? target) with
  | some sl, some tl => do
      let sameEntry := sl.identity = tl.identity
      if style.following ≠ .none && sl.kind = .link && tl.kind = .link && style.removesFirst then
        return true
      let isOneName := PathText.last source = PathText.last target &&
        (← Work.act (Act.statusAt? (PathText.parent source))).map FileStatus.identity
          = (← Work.act (Act.statusAt? (PathText.parent target))).map FileStatus.identity
      if style.backup.style ≠ .off then
        if !sameEntry then
          return !(style.following ≠ .none && sl.kind = .link && tl.kind ≠ .link)
        else return !isOneName
      if style.removesFirst then
        if tl.kind = .link then return true
        if sameEntry && 1 < tl.names && !isOneName then return true
      if sl.kind ≠ .link && tl.kind ≠ .link && !sameEntry then return true
      if style.form = .symbolicLink && tl.kind = .link then return true
      if style.following = .none then
        match ← Work.act (Act.statusAt? source), ← Work.act (Act.statusAt? target) with
        | some a, some b => return a.identity ≠ b.identity
        | _, _ => return true
      return false
  | _, _ => return true

/-- Tells that something was copied. -/
def tell
    (style : CopyStyle)
    (source target : Octets)
    (kept : Option Octets) :
    Work Unit := do
  if style.verbose then
    Work.say (Quoting.shellAlways source ++ " -> ".toList ++ Quoting.shellAlways target
      ++ Backup.told kept ++ ['\n'])

/-- Removes a target that is to be made anew. -/
def removeFirst
    (style : CopyStyle)
    (target : Octets) :
    Work Unit := do
  match ← Work.ask (.remove target) with
  | .ok () =>
      if style.verbose then Work.say ("removed ".toList ++ Quoting.shellAlways target ++ ['\n'])
  | .error e => complainAt "cannot remove" target e

/-- Copies from one open file to another. -/
def transfer
    (source target : Nat)
    (sourcePath targetPath : Octets) :
    Work Unit := do
  let result ← Work.foldPieces
    (fun (goesOn : Bool) piece => do
      if !goesOn then return false
      match ← Work.ask (.write target piece) with
      | .ok () => return true
      | .error e => do
          complainAt "error writing" targetPath e
          return false)
    true (Reader.of source)
  match result with
  | .ok _ => pure ()
  | .error e => complainAt "error reading" sourcePath e

/-- Copies what a file holds. -/
def copyContent
    (style : CopyStyle)
    (source target : Octets)
    (isNew : Bool)
    (s : FileStatus) :
    Work Bool := do
  match ← Work.ask (.openFile source .reading) with
  | .error e => do
      Work.complain ("cannot open ".toList ++ Quoting.shellAlways source ++ " for reading: ".toList
        ++ e.reason.toList)
      return false
  | .ok input => do
      let mode : OpenMode :=
        if isNew then .fresh
        else if style.form = .nothing then { OpenMode.writing with create := false, truncate := false }
        else { OpenMode.writing with create := false }
      let opened ← Work.ask (.openFile target mode)
      let result ← match opened with
        | .error e => do
            let isLink := ((← Work.act (Act.entryAt? target)).map FileStatus.kind) = some .link
            if isNew && e = .taken && isLink then
              Work.complain ("not writing through dangling symlink ".toList
                ++ Quoting.shellAlways target)
            else
              let shown : FileFault :=
                if e = .isDirectory && target.getLast? = some '/' then .notDirectory else e
              complainAt "cannot create regular file" target shown
            pure false
        | .ok output => do
            if style.form ≠ .nothing then transfer input output source target
            let _ ← Work.ask (.close output)
            let mask : Nat ← Work.ask (.mask none)
            match style.mode with
            | some m => do
                let _ ← Work.ask (.permit target m)
            | none =>
                if style.keepsMode then
                  let _ ← Work.ask (.permit target s.mode)
                else if isNew then
                  let _ ← Work.ask (.permit target (Mode.without (s.mode &&& 0o777) mask))
            pure true
      let _ ← Work.ask (.close input)
      return result

/-- Makes a symbolic link as a copy. -/
def copyAsLink
    (source target : Octets) :
    Work Bool := do
  let isHere := (PathText.parent target) = ['.']
  if source.head? ≠ some '/' && !isHere then
    Work.complain (Quoting.shellBeforeColon target
      ++ ": can make relative symbolic links only in current directory".toList)
    return false
  match ← Work.ask (.symlink source target) with
  | .ok () => return true
  | .error e => do
      Work.complain ("cannot create symbolic link ".toList ++ Quoting.shellAlways target
        ++ " to ".toList ++ Quoting.shellAlways source ++ ": ".toList ++ e.reason.toList)
      return false

/-- Gives a file another name as a copy. -/
def copyAsTwin
    (source target : Octets) :
    Work Bool := do
  match ← Work.ask (.hardLink source target) with
  | .ok () => return true
  | .error e => do
      Work.complain ("cannot create hard link ".toList ++ Quoting.shellAlways target
        ++ " to ".toList ++ Quoting.shellAlways source ++ ": ".toList ++ e.reason.toList)
      return false

def copyLink
    (source target : Octets) :
    Work Bool := do
  match ← Work.ask (.targetOf source) with
  | .error e => do
      complainAt "cannot read symbolic link" source e
      return false
  | .ok content =>
      match ← Work.ask (.symlink content target) with
      | .ok () => return true
      | .error e => do
          complainAt "cannot create symbolic link" target e
          return false

/-- What becomes of a target that is there: whether copying goes on, whether the name is free then, and
the backup that was made. -/
structure Way where
  goesOn : Bool
  isFree : Bool
  kept : Option Octets
  deriving Repr, Inhabited

def Way.none : Way := ⟨false, false, .none⟩

def clearWay
    (style : CopyStyle)
    (log : CopyLog)
    (top : Bool)
    (source target : Octets)
    (s : FileStatus) :
    Work Way := do
  let asEntry := s.kind = .directory || s.kind = .link || style.form = .symbolicLink
    || style.form = .hardLink || style.backup.style ≠ .off || style.removesFirst
  match ← Work.ask (.status target (!asEntry)) with
  | .error e =>
      if e = .noEntry then return ⟨true, true, none⟩
      else do
        complainAt "cannot stat" target e
        return .none
  | .ok t => do
      if style.form = .hardLink && s.identity = t.identity then return .none
      if style.overwriting ≠ .never && !(← mayOverwrite style source target s t) then
        Work.complain (Quoting.shellAlways source ++ " and ".toList ++ Quoting.shellAlways target
          ++ " are the same file".toList)
        return .none
      let sIsDirectory := decide (s.kind = .directory)
      let tIsDirectory := decide (t.kind = .directory)
      if !sIsDirectory then
        match style.overwriting with
        | .always => pure ()
        | .never => return .none
        | .ifOlder => return .none
        | .afterAsking =>
            if !(← Removal.confirm ("overwrite ".toList ++ Quoting.shellAlways target)) then
              Work.setStatus 1
              return .none
      if sIsDirectory && !tIsDirectory then
        Work.complain ("cannot overwrite non-directory ".toList ++ Quoting.shellAlways target
          ++ " with directory ".toList ++ Quoting.shellAlways source)
        return .none
      if !tIsDirectory && top && style.backup.style = .off && log.made.contains (target, t.identity) then
        Work.complain ("will not overwrite just-created ".toList ++ Quoting.shellAlways target
          ++ " with ".toList ++ Quoting.shellAlways source)
        return .none
      if !sIsDirectory && tIsDirectory then
        Work.complain ("cannot overwrite directory ".toList ++ Quoting.shellAlways target
          ++ " with non-directory".toList)
        return .none
      if style.backup.style ≠ .off && !tIsDirectory then
        match ← style.backup.keep target with
        | .ok kept => return ⟨true, true, kept⟩
        | .error e => do
            complainAt "cannot backup" target e
            return .none
      let replaces := (style.keepsTwins && 1 < t.names)
        || (style.following = .none && s.kind ≠ .file)
        || (style.force && (style.form = .symbolicLink || style.form = .hardLink))
      if !tIsDirectory && (style.removesFirst || replaces) then
        removeFirst style target
        return ⟨true, true, none⟩
      return ⟨true, false, none⟩

/-- Records what was made at a path. -/
def CopyLog.withMade
    (log : CopyLog)
    (target : Octets) :
    Work CopyLog := do
  match ← Work.act (Act.entryAt? target) with
  | some t => return { log with made := (target, t.identity) :: log.made }
  | none => return log

/-- Copies one file, or a directory with all that is in it. `named` is the source and the target this
started from. -/
def copy
    (style : CopyStyle)
    (named : Octets × Octets) :
    Nat → CopyLog → Bool → Octets → Octets → Work CopyLog
  | 0, log, _, _, _ => return log
  | depth + 1, log, top, source, target => do
      let follows := style.following = .all || (style.following = .named && top)
      match ← Work.ask (.status source follows) with
      | .error e => do
          complainAt "cannot stat" source e
          return log
      | .ok s => do
          let isDirectory := decide (s.kind = .directory)
          if isDirectory && !style.recursive then
            Work.complain ((if style.mode.isSome then "omitting directory ".toList
              else "-r not specified; omitting directory ".toList) ++ Quoting.shellAlways source)
            return log
          if top && style.backup.style = .off && log.sources.contains (source, s.identity) then
            Work.warn ("warning: source ".toList
              ++ (if isDirectory then "directory ".toList else "file ".toList)
              ++ Quoting.shellAlways source ++ " specified more than once".toList)
            return log
          let log := if top then { log with sources := (source, s.identity) :: log.sources } else log
          let way ← clearWay style log top source target s
          if !way.goesOn then return log
          if isDirectory then
            if log.directories.contains s.identity then
              Work.complain ("cannot copy a directory, ".toList ++ Quoting.shellAlways named.1
                ++ ", into itself, ".toList ++ Quoting.shellAlways named.2)
              return log
            if way.isFree then
              match ← Work.ask (.makeDirectory target) with
              | .error e => do
                  complainAt "cannot create directory" target e
                  return log
              | .ok () => tell style source target none
            let log ← match ← Work.act (Act.entryAt? target) with
              | some t =>
                  if way.isFree || top then
                    pure { log with directories := t.identity :: log.directories }
                  else pure log
              | none => pure log
            match ← Work.ask (.list source) with
            | .error e => do
                complainAt "cannot access" source e
                return log
            | .ok names =>
                Work.foldAll
                  (fun log name =>
                    copy style named depth log false (PathText.join source name)
                      (PathText.join target name))
                  log names
          else do
            tell style source target way.kept
            let earlier := if style.keepsTwins && 1 < s.names then log.twins.lookup s.identity else none
            let done ← match style.form, earlier with
              | _, some path => copyAsTwin path target
              | .symbolicLink, none => copyAsLink source target
              | .hardLink, none => copyAsTwin source target
              | _, none =>
                  if s.kind = .link then copyLink source target
                  else copyContent style source target way.isFree s
            if !done then return log
            let log := { log with twins := (s.identity, target) :: log.twins }
            if top then CopyLog.withMade log target else return log

/-- How deep directories are gone through. -/
def depth : Nat := 1000

/-- Copies all pairs of a source and a target. -/
def copyAll
    (style : CopyStyle)
    (pairs : List (Octets × Octets)) :
    Work Unit := do
  let _ ← Work.foldAll (fun log p => copy style p depth log true p.1 p.2) default pairs

/-! ## Whole paths -/

/-- Makes the directories that lead to a target, like those that lead to the source. The result tells
whether that worked. -/
def makeLeads
    (verbose : Bool)
    (directory : Octets) :
    List Octets → Work Bool
  | [] => return true
  | lead :: rest => do
      match ← Work.ask (.status lead true) with
      | .error e => do
          complainAt "failed to get attributes of" lead e
          return false
      | .ok _ => do
          let target := PathText.join directory lead
          if !(← Work.act (Act.isDirectory target)) then
            match ← Work.ask (.makeDirectory target) with
            | .ok () =>
                if verbose then Work.say (lead ++ " -> ".toList ++ target ++ ['\n'])
            | .error e => do
                complainAt "cannot make directory" target e
                return false
          makeLeads verbose directory rest

/-- Copies a file to the same path below a directory. -/
def copyBelow
    (style : CopyStyle)
    (directory : Octets)
    (log : CopyLog)
    (source : Octets) :
    Work CopyLog := do
  let path := PathText.withoutSlashes source
  let target := PathText.join directory (path.dropWhile (· = '/'))
  let above := PathText.parent path
  let leadsTo := if above = ['.'] then [] else leads (path.length + 1) [] above
  if ← makeLeads style.verbose directory leadsTo then
    copy style (source, target) depth log true source target
  else return log

/-! ## Options -/

/-- The options of the tool that copies. -/
def forms : List OptionForm :=
  Backup.forms ++ Delivery.forms ++
    [ flag "a" ["archive"], flag "attributes" ["attributes-only"], flag "copy" ["copy-contents"],
      flag "d" [], flag "f" ["force"], flag "i" ["interactive"], flag "H" [],
      flag "l" ["link"], flag "L" ["dereference"], flag "n" ["no-clobber"],
      flag "P" ["no-dereference"], flag "p" [], ⟨"preserve", ["preserve"], .maybe⟩,
      valued "nopreserve" ["no-preserve"], flag "parents" ["parents"], flag "R" ["recursive"],
      flag "r" [], ⟨"reflink", ["reflink"], .maybe⟩, flag "remove" ["remove-destination"],
      valued "sparse" ["sparse"], flag "strip" ["strip-trailing-slashes"],
      flag "s" ["symbolic-link"], ⟨"update", ["update"], .maybe⟩, flag "u" [], flag "v" ["verbose"],
      flag "x" ["one-file-system"], flag "Z" [], flag "debug" ["debug"] ]

/-- What an option says about targets that are there. -/
def updateOf (word : Octets) : Work Overwriting := do
  if word.isEmpty then return .ifOlder
  match ← Work.choice "--update" [["all"], ["none"], ["older"]] word with
  | "all" => return .always
  | "none" => return .never
  | _ => return .ifOlder

/-- What the options say about targets that are there. -/
def overwritingOf (a : Arguments) : Work Overwriting := do
  match a.last? ["n", "i", "u", "update"] with
  | some "n" => return .never
  | some "i" => return .afterAsking
  | some "u" => return .ifOlder
  | some _ => updateOf ((a.value? "update").getD [])
  | none => return .always

def styleOf (a : Arguments) : Work CopyStyle := do
  let backup ← Backup.read a
  match a.value? "sparse" with
  | some word =>
      let _ ← Work.choice "--sparse" [["never"], ["auto"], ["always"]] word
  | none => pure ()
  let recursive := a.has "r" || a.has "R" || a.has "a"
  let following : Following := match a.last? ["a", "d", "L", "P", "H"] with
    | some "L" => .all
    | some "H" => .named
    | some _ => .none
    | none => if recursive then .none else .all
  let attributes := (a.values "preserve").flatMap (Octets.splitOn ',')
  let keeps (name : String) : Bool :=
    attributes.any fun w => w = name.toList || w = "all".toList
  return {
    recursive := recursive
    following := if a.has "l" && following = .all && !a.has "L" && !recursive then .none else following
    overwriting := ← overwritingOf a
    force := a.has "f"
    removesFirst := a.has "remove"
    form :=
      if a.has "s" then .symbolicLink else if a.has "l" then .hardLink
      else if a.has "attributes" then .nothing else .content
    keepsMode := a.has "a" || a.has "p" || keeps "mode" || (a.values "preserve").contains []
    keepsTwins := a.has "a" || a.has "d" || keeps "links"
    verbose := a.has "v" || a.has "debug"
    mode := none
    backup := backup }

end Copying

/-- Copies files. -/
def cp : Tool :=
  simple 1 fun words => do
    let a ← Work.arguments Copying.forms 1 words
    let style ← Copying.styleOf a
    if style.overwriting = .never && a.has "n" then
      Work.warn ("warning: behavior of -n is non-portable and may change in future; ".toList
        ++ "use --update=none instead".toList)
    let d ← Delivery.read a
    if a.has "parents" then
      match d.directory with
      | none =>
          Work.misuse 1 "with --parents, the destination must be a directory".toList
      | some directory =>
          let _ ← Work.foldAll (Copying.copyBelow style directory) default d.sources
    else
      let target (s : Octets) : Octets := match d.directory with
        | none => d.name
        | some directory =>
            if PathText.last s = ['.', '.'] then directory
            else PathText.join directory (PathText.last s)
      Copying.copyAll style (d.sources.map fun s => (s, target s))

/-! ## Installing -/

namespace Installing

/-- The options of the tool that puts files where they are used. -/
def forms : List OptionForm :=
  Backup.forms ++ Delivery.forms ++
    [ flag "c" [], flag "C" ["compare"], flag "d" ["directory"], flag "D" [],
      valued "g" ["group"], valued "m" ["mode"], valued "o" ["owner"],
      flag "p" ["preserve-timestamps"], flag "s" ["strip"], flag "v" ["verbose"] ]

/-- Makes directories as far as they are missing. -/
def makeDirectories
    (verbose : Bool) :
    List Octets → Work Bool
  | [] => return true
  | path :: rest => do
      if ← Work.act (Act.isDirectory path) then makeDirectories verbose rest
      else
        match ← Work.ask (.makeDirectory path) with
        | .ok () => do
            if verbose then
              Work.say ("install: creating directory ".toList ++ Quoting.shellAlways path ++ ['\n'])
            makeDirectories verbose rest
        | .error e => do
            let shown : FileFault :=
              if e = .taken && !rest.isEmpty then .notDirectory else e
            Copying.complainAt "cannot create directory" path shown
            return false

/-- Makes all directories that lead to a path, and that at the path itself. -/
def makePath
    (verbose : Bool)
    (path : Octets) :
    Work Bool :=
  makeDirectories verbose (leads (path.length + 1) [] path)

end Installing

/-- Puts files where they are used. -/
def install : Tool :=
  simple 1 fun words => do
    let a ← Work.arguments Installing.forms 1 words
    let backup ← Backup.read a
    let mask : Nat ← Work.ask (.mask none)
    let mode ← match a.value? "m" with
      | none => pure 0o755
      | some word =>
          match Mode.read? word with
          | some changes => pure (Mode.apply mask false 0 changes)
          | none => Work.fail 1 ("invalid mode ".toList ++ Quoting.plain word)
    if a.has "d" then
      if a.operands.isEmpty then Work.misuse 1 "missing file operand".toList
      Work.forAll
        (fun path => do
          let _ ← Installing.makePath (a.has "v") path)
        a.operands
    else
      match a.value? "t" with
      | some directory =>
          if a.has "D" then
            if !(← Installing.makePath (a.has "v") directory) then Work.giveUp 1
          match ← Delivery.directoryFault? directory with
          | some e =>
              if !a.operands.isEmpty && !a.has "T" then Delivery.failAt "failed to access" directory e
          | none => pure ()
      | none => pure ()
      let d ← Delivery.read a
      let style : CopyStyle :=
        { recursive := false
          following := .all
          overwriting := .always
          force := true
          removesFirst := true
          form := .content
          keepsMode := false
          keepsTwins := false
          verbose := a.has "v"
          mode := some mode
          backup := backup }
      if a.has "D" && d.directory.isNone then
        let above := PathText.parent d.name
        if above ≠ ['.'] then
          if !(← Installing.makePath (a.has "v") above) then Work.giveUp 1
      Copying.copyAll style d.pairs

end Tool
end Runbook
