import Runbook.Tool.Input
import Runbook.Tool.Moving
import Runbook.Tool.Target

/-!
# Links and resolved paths

The tools that show a path without links, points and doubled slashes, and those that give files further
names and make links to paths.
-/

namespace Runbook
namespace Tool

/-- How much of a path has to be there. -/
inductive Presence where
  | whole
  | allButLast
  | nothing
  deriving DecidableEq, Repr, Inhabited

namespace Resolution

def pathOf (names : List Octets) : Octets :=
  if names.isEmpty then ['/'] else names.reverse.flatMap fun name => '/' :: name

/-- The names of a path that starts at the root, the last one first. -/
def namesOf (path : Octets) : List Octets :=
  ((Octets.splitOn '/' path).filter fun name => !name.isEmpty).reverse

/-- Follows parts of a path from names on. Links are left alone if `physical` is not set; `links` is
how many of them may still be followed. -/
def follow
    (need : Presence)
    (physical : Bool) :
    Nat → Nat → List Octets → List Octets → Work (Except FileFault (List Octets))
  | 0, _, _, _ => return .error .tooManyLinks
  | _, _, done, [] => return .ok done
  | fuel + 1, links, done, part :: rest => do
      if part.isEmpty || part = ['.'] then follow need physical fuel links done rest
      else if part = ['.', '.'] then follow need physical fuel links (done.drop 1) rest
      else
        let here := part :: done
        match ← Work.ask (.status (pathOf here) (!physical)) with
        | .error e =>
            let isLast := rest.all List.isEmpty
            if need = .nothing || (need = .allButLast && e = .noEntry && isLast) then
              follow need physical fuel links here rest
            else return .error e
        | .ok s =>
            if s.kind = .link then
              match ← Work.ask (.targetOf (pathOf here)), links with
              | .error e, _ => return .error e
              | .ok _, 0 => return .error .tooManyLinks
              | .ok target, left + 1 =>
                  let start := if target.head? = some '/' then [] else done
                  follow need physical fuel left start (Octets.splitOn '/' target ++ rest)
            else if s.kind ≠ .directory && !rest.isEmpty && need ≠ .nothing then
              return .error .notDirectory
            else follow need physical fuel links here rest

/-- A path from the root on, of which links are resolved if `physical` is set. -/
def resolve
    (need : Presence)
    (physical : Bool)
    (path : Octets) :
    Work (Except FileFault Octets) := do
  if path.isEmpty then return .error .noEntry
  let start ← if path.head? = some '/' then pure [] else namesOf <$> Work.ask .here
  let parts := Octets.splitOn '/' path
  return (← follow need physical (100 * (path.length + 1000)) Disk.maxLinks start parts).map pathOf

/-- How one gets from a directory to a path, both from the root on. -/
def relativeTo (directory path : Octets) : Octets :=
  let a := (namesOf directory).reverse
  let b := (namesOf path).reverse
  let common := ((List.zip a b).takeWhile fun p => p.1 = p.2).length
  let steps := List.replicate (a.length - common) ['.', '.'] ++ b.drop common
  if steps.isEmpty then ['.'] else Octets.intercalate ['/'] steps

/-- Whether a path is at or below a directory, both from the root on. -/
def isWithin (directory path : Octets) : Bool :=
  (namesOf directory).reverse.isPrefixOf (namesOf path).reverse

end Resolution

/-! ## Showing paths -/

/-- The options of the tool that shows resolved paths. -/
def realpathForms : List OptionForm :=
  [ flag "e" ["canonicalize-existing"], flag "m" ["canonicalize-missing"], flag "L" ["logical"],
    flag "P" ["physical"], flag "q" ["quiet"], valued "to" ["relative-to"],
    valued "base" ["relative-base"], flag "s" ["strip", "no-symlinks"], flag "z" ["zero"] ]

/-- A path as it is shown: from a directory on, unless it is not below a base. -/
def shownFrom
    (base? to? : Option Octets)
    (path : Octets) :
    Octets :=
  match base?, to? with
  | none, none => path
  | none, some to_ => Resolution.relativeTo to_ path
  | some base, to? =>
      let to_ := to?.getD base
      if Resolution.isWithin base path && Resolution.isWithin base to_ then
        Resolution.relativeTo to_ path
      else path

/-- Shows resolved paths. -/
def realpath : Tool :=
  simple 1 fun words => do
    let a ← Work.arguments realpathForms 1 words
    if a.operands.isEmpty then Work.missingOperand 1 none
    let need : Presence := match a.last? ["e", "m"] with
      | some "e" => .whole
      | some _ => .nothing
      | none => .allButLast
    let physical := a.last? ["s", "P", "L"] != some "s"
    let complain (path : Octets) (e : FileFault) : Octets :=
      Quoting.shellBeforeColon path ++ ": ".toList ++ e.reason.toList
    let directory (key : String) : Work (Option Octets) := do
      match a.value? key with
      | none => return none
      | some path =>
          let found ← Work.orFail 1 (complain path) (← Resolution.resolve need physical path)
          if need = .whole && !(← Work.act (Act.isDirectory found)) then
            Work.fail 1 (complain path .notDirectory)
          return some found
    let to? ← directory "to"
    let base? ← directory "base"
    Work.forAll
      (fun path => do
        match ← Resolution.resolve need physical path with
        | .ok found => Work.say (shownFrom base? to? found ++ nameEnd a)
        | .error e =>
            if a.has "q" then Work.setStatus 1
            else Work.complain (complain path e))
      a.operands

/-- Shows what links say, or resolved paths. -/
def readlink : Tool :=
  simple 1 fun words => do
    let a ← Work.arguments
      [ flag "f" ["canonicalize"], flag "e" ["canonicalize-existing"],
        flag "m" ["canonicalize-missing"], flag "n" ["no-newline"], flag "q" ["quiet"],
        flag "s" ["silent"], flag "v" ["verbose"], flag "z" ["zero"] ] 1 words
    if a.operands.isEmpty then Work.missingOperand 1 none
    let several := decide (1 < a.operands.length)
    if a.has "n" && several then
      Work.warn "ignoring --no-newline with multiple arguments".toList
    let stop := if a.has "n" && !several then [] else nameEnd a
    Work.forAll
      (fun path => do
        let result ← match a.last? ["f", "e", "m"] with
          | some "f" => Resolution.resolve .allButLast true path
          | some "e" => Resolution.resolve .whole true path
          | some _ => Resolution.resolve .nothing true path
          | none => Work.ask (.targetOf path)
        match result with
        | .ok found => Work.say (found ++ stop)
        | .error e =>
            if a.last? ["v", "q", "s"] = some "v" then Work.complainOf path e
            else Work.setStatus 1)
      a.operands

/-! ## Making links -/

namespace Linking

/-- How links are made. -/
structure Style where
  symbolic : Bool
  relative : Bool
  force : Bool
  asks : Bool
  follows : Bool
  verbose : Bool
  backup : Backup
  deriving DecidableEq, Repr, Inhabited

/-- The words for a link that cannot be made. -/
def failure
    (style : Style)
    (source target : Octets)
    (e : FileFault) :
    Octets :=
  let kind : String := if style.symbolic then "symbolic link" else "hard link"
  let lead := "failed to create ".toList ++ kind.toList ++ ' ' :: Quoting.shellAlways target
  let both : Octets :=
    if style.symbolic then
      if source.isEmpty || e = .nameTooLong then " -> ".toList ++ Quoting.shellAlways source else []
    else if e = .taken || e = .noRoom then []
    else " => ".toList ++ Quoting.shellAlways source
  lead ++ both ++ ": ".toList ++ e.reason.toList

/-- Complains about a link, without a fault of the machine. -/
def refuse (message : Octets) : Work Unit :=
  Work.complain message

/-- What a link to a path says when it is to lead there from where it is. -/
def relativeSource (source target : Octets) : Work Octets := do
  let directory ← Resolution.resolve .nothing true (PathText.parent target)
  let path ← Resolution.resolve .nothing true source
  match directory, path with
  | .ok d, .ok p => return Resolution.relativeTo d p
  | _, _ => return source

def isLinkable
    (style : Style)
    (source : Octets) :
    Work Bool := do
  if style.symbolic then return true
  match ← Work.ask (.status source style.follows) with
  | .error e => do
      Work.complain ("failed to access ".toList ++ Quoting.shellAlways source ++ ": ".toList
        ++ e.reason.toList)
      return false
  | .ok s =>
      if s.kind = .directory then do
        refuse (Quoting.shellBeforeColon source ++ ": hard link not allowed for directory".toList)
        return false
      else return true

def isSameEntry
    (style : Style)
    (source target : Octets) :
    Work Bool := do
  match ← Work.act (if style.symbolic then Act.statusAt? source else Act.entryAt? source),
      ← Work.act (Act.entryAt? target) with
  | some s, some t =>
      if s.identity ≠ t.identity then return false
      else if s.names = 1 then return true
      else
        let above (path : Octets) : Work (Option FileStatus) :=
          Work.act (Act.statusAt? (PathText.parent path))
        return PathText.last source = PathText.last target &&
          (← above source).map FileStatus.identity = (← above target).map FileStatus.identity
  | _, _ => return false

/-- Makes room for a link. The result tells whether to go on, and which backup was made. -/
def makeRoom
    (style : Style)
    (source target : Octets) :
    Work (Bool × Option Octets) := do
  if !(style.force || style.asks || style.backup.style ≠ .off) then return (true, none)
  match ← Work.act (Act.entryAt? target) with
  | none => return (true, none)
  | some s =>
      if s.kind = .directory then do
        refuse (Quoting.shellBeforeColon target ++ ": cannot overwrite directory".toList)
        return (false, none)
      else if ← isSameEntry style source target then do
        refuse (Quoting.shellAlways source ++ " and ".toList ++ Quoting.shellAlways target
          ++ " are the same file".toList)
        return (false, none)
      else do
        if style.asks then
          if !(← Removal.confirm ("replace ".toList ++ Quoting.shellAlways target)) then
            Work.setStatus 1
            return (false, none)
        match ← style.backup.keep target with
        | .ok (some path) => return (true, some path)
        | .ok none => do
            if style.force || style.asks then
              let _ ← Work.ask (.remove target)
            return (true, none)
        | .error e => do
            Work.complain ("cannot backup ".toList ++ Quoting.shellAlways target ++ ": ".toList
              ++ e.reason.toList)
            return (false, none)

def make
    (style : Style)
    (pair : Octets × Octets) :
    Work Unit := do
  let (given, target) := pair
  if !(← isLinkable style given) then return
  let (goesOn, kept) ← makeRoom style given target
  if !goesOn then return
  let source ← if style.relative then relativeSource given target else pure given
  let result ←
    if style.symbolic then Work.ask (.symlink source target)
    else do
      let path ← if style.follows then do
          match ← Resolution.resolve .whole true source with
          | .ok p => pure p
          | .error _ => pure source
        else pure source
      Work.ask (.hardLink path target)
  match result with
  | .error e => Work.complain (failure style source target e)
  | .ok () =>
      if style.verbose then
        let backup := match kept with
          | none => []
          | some path => Quoting.shellAlways path ++ " ~ ".toList
        let arrow : String := if style.symbolic then " -> " else " => "
        Work.say (backup ++ Quoting.shellAlways target ++ arrow.toList ++ Quoting.shellAlways source
          ++ ['\n'])

/-- The options of the tool that makes links. -/
def forms : List OptionForm :=
  Backup.forms ++ Delivery.forms ++
    [ flag "d" ["directory"], flag "F" [], flag "f" ["force"], flag "i" ["interactive"],
      flag "L" ["logical"], flag "n" ["no-dereference"], flag "P" ["physical"],
      flag "r" ["relative"], flag "s" ["symbolic"], flag "v" ["verbose"] ]

def entersDirectory
    (a : Arguments)
    (target : Octets) :
    Work Bool := do
  let entry ← Work.act (Act.entryAt? target)
  if a.has "n" && (entry.map FileStatus.kind) = some .link then return false
  Work.act (Act.isDirectory target)

def pairs (a : Arguments) : Work (List (Octets × Octets)) := do
  let files := a.operands
  let into (directory : Octets) (sources : List Octets) : List (Octets × Octets) :=
    sources.map fun s => (s, PathText.join directory (PathText.last s))
  match files with
  | [] => Work.misuse 1 "missing file operand".toList
  | [one] =>
      match a.value? "t" with
      | some directory => finish into directory
      | none =>
          if a.has "T" then
            Work.misuse 1
              ("missing destination file operand after ".toList ++ Quoting.shellAlways one)
          else return into ['.'] files
  | first :: second :: rest =>
      match a.value? "t" with
      | some directory => finish into directory
      | none =>
          if a.has "T" then
            match rest with
            | extra :: _ => Work.misuse 1 ("extra operand ".toList ++ Quoting.shellAlways extra)
            | [] => return [(first, second)]
          else
            let last := files.getLastD []
            if ← entersDirectory a last then return into last files.dropLast
            else if rest.isEmpty then return [(first, second)]
            else
              match ← Delivery.directoryFault? last with
              | some e => Delivery.failAt "target" last e
              | none => Delivery.failAt "target" last .notDirectory
where
  /-- Puts all files into a directory that was named by an option. -/
  finish
      (into : Octets → List Octets → List (Octets × Octets))
      (directory : Octets) :
      Work (List (Octets × Octets)) := do
    if a.has "T" then
      Work.failText 1 "cannot combine --target-directory and --no-target-directory"
    match ← Work.ask (.status directory true) with
    | .error e => Delivery.failAt "failed to access" directory e
    | .ok s =>
        if s.kind = .directory then return into directory a.operands
        else
          Work.fail 1 ("target ".toList ++ Quoting.shellAlways directory
            ++ " is not a directory".toList)

end Linking

def ln : Tool :=
  simple 1 fun words => do
    let a ← Work.arguments Linking.forms 1 words
    let backup ← Backup.read a
    if a.has "r" && !a.has "s" && !a.operands.isEmpty then
      Work.failText 1 "cannot do --relative without --symbolic"
    let style : Linking.Style :=
      { symbolic := a.has "s"
        relative := a.has "r"
        force := a.last? ["f", "i"] = some "f"
        asks := a.last? ["f", "i"] = some "i"
        follows := a.last? ["L", "P"] = some "L"
        verbose := a.has "v"
        backup := backup }
    Work.forAll (Linking.make style) (← Linking.pairs a)

/-- Gives a file another name. -/
def link : Tool :=
  simple 1 fun words => do
    let a ← Work.arguments [] 1 words
    match a.operands with
    | [] => Work.missingOperand 1 none
    | [one] => Work.missingOperand 1 (some one)
    | _ :: _ :: extra :: _ => Work.extraOperand 1 extra
    | [source, target] =>
        match ← Work.ask (.hardLink source target) with
        | .ok () => pure ()
        | .error e =>
            Work.fail 1 ("cannot create link ".toList ++ Quoting.shellAlways target ++ " to ".toList
              ++ Quoting.shellAlways source ++ ": ".toList ++ e.reason.toList)

end Tool
end Runbook
