import Runbook.Tool.Options

/-!
# Names and targets

The parts of a path, and how tools that copy, move and link find out where to.
-/

namespace Runbook
namespace Tool

/-!
## The parts of paths

The tools that show the last name of a path or what leads to it, and the directory that a process
works in.
-/

namespace PathText

def withoutSlashes (path : Octets) : Octets :=
  (path.reverse.dropWhile (· = '/')).reverse

/-- The last name of a path; of a path of slashes only, one of them. -/
def last (path : Octets) : Octets :=
  let s := withoutSlashes path
  if s.isEmpty then path.take 1 else (s.reverse.takeWhile (· ≠ '/')).reverse

/-- What leads to the last name of a path. -/
def parent (path : Octets) : Octets :=
  let s := withoutSlashes path
  let lead := s.take (s.length - (s.reverse.takeWhile (· ≠ '/')).length)
  let trimmed := withoutSlashes lead
  if !trimmed.isEmpty then trimmed
  else if path.head? = some '/' then ['/']
  else ['.']

def join (directory name : Octets) : Octets :=
  if directory.getLast? = some '/' then directory ++ name else directory ++ '/' :: name

def withoutEnding (ending name : Octets) : Octets :=
  if ending.isEmpty || name.length ≤ ending.length then name
  else if ending.isSuffixOf name then name.take (name.length - ending.length)
  else name

end PathText

def nameEnd (a : Arguments) : Octets :=
  if a.has "z" then ['\x00'] else ['\n']

/-- Shows the last names of paths. -/
def basename : Tool :=
  simple 1 fun words => do
    let a ← Work.leadingArguments
      [flag "a" ["multiple"], valued "s" ["suffix"], flag "z" ["zero"]] 1 words
    let many := a.has "a" || a.has "s"
    let shown (ending path : Octets) : Work Unit :=
      Work.say (PathText.withoutEnding ending (PathText.last path) ++ nameEnd a)
    match a.operands with
    | [] => Work.missingOperand 1 none
    | path :: rest =>
        if many then
          Work.forAll (shown ((a.value? "s").getD [])) a.operands
        else
          match rest with
          | _ :: extra :: _ => Work.extraOperand 1 extra
          | _ => shown (rest.headD []) path

/-- Shows what leads to the last names of paths. -/
def dirname : Tool :=
  simple 1 fun words => do
    let a ← Work.leadingArguments [flag "z" ["zero"]] 1 words
    if a.operands.isEmpty then Work.missingOperand 1 none
    Work.forAll (fun path => Work.say (PathText.parent path ++ nameEnd a)) a.operands

/-- Shows the working directory. -/
def pwd : Tool :=
  fun _ start => Work.perform start.name 1 do
    let a ← Work.arguments [flag "L" ["logical"], flag "P" ["physical"]] 1 start.arguments
    if !a.operands.isEmpty then Work.warn "ignoring non-option arguments".toList
    let given := (start.environment.lookup "PWD".toList).getD []
    let isRight : Bool ←
      if a.last? ["L", "P"] = some "L" && given.head? = some '/' then
        Work.act do
          match ← Act.statusAt? given, ← Act.statusAt? ['.'] with
          | some s, some t => return s.identity = t.identity
          | _, _ => return false
      else pure false
    if isRight then Work.sayLine given else Work.sayLine (← Work.ask .here)

/-!
## Targets

The tools that copy, move and link files agree on how the target is named: a directory that is named
by an option or last, or else a name that is to be used. A file that is in the way may be kept as a
backup.
-/

/-! ### Choices by name -/

/-- Finds what a word stands for among names, of which the start is enough if it stands for one thing
only. Each group of names stands for its first one. -/
def chooseAmong
    (groups : List (List String))
    (word : Octets) :
    Except String String :=
  let starts (names : List String) : Bool := names.any fun n => word.isPrefixOf n.toList
  match groups.find? fun names => names.any fun n => n.toList = word with
  | some names => .ok (names.headD "")
  | none =>
      match groups.filter starts with
      | [names] => .ok (names.headD "")
      | [] => .error "invalid"
      | _ => .error "ambiguous"

namespace Work

/-- What a word of an option stands for, or a complaint that shows all choices. -/
def choice
    (option : String)
    (groups : List (List String))
    (word : Octets) :
    Work String := do
  match chooseAmong groups word with
  | .ok name => return name
  | .error wrong => do
      warn (wrong.toList ++ " argument ".toList ++ Quoting.plain word ++ " for ".toList
        ++ Quoting.plain option.toList)
      act (Act.complain ("Valid arguments are:\n".toList ++ groups.flatMap fun names =>
        "  - ".toList
          ++ Octets.intercalate ", ".toList (names.map fun n => Quoting.plain n.toList) ++ ['\n']))
      hint
      giveUp 1

end Work

/-! ### Backups -/

/-- How backups are named. -/
inductive BackupStyle where
  | off
  | simple
  | numbered
  | existing
  deriving DecidableEq, Repr, Inhabited

/-- Whether and how files that are in the way are kept. -/
structure Backup where
  style : BackupStyle
  ending : Octets
  deriving DecidableEq, Repr, Inhabited

namespace Backup

def styles : List (List String) :=
  [["none", "off"], ["simple", "never"], ["existing", "nil"], ["numbered", "t"]]

def styleOf : String → BackupStyle
  | "none" => .off
  | "simple" => .simple
  | "numbered" => .numbered
  | _ => .existing

/-- The options that ask for backups. -/
def forms : List OptionForm :=
  [flag "b" [], ⟨"backup", ["backup"], .maybe⟩, valued "S" ["suffix"]]

/-- Reads the options that ask for backups. -/
def read (a : Arguments) : Work Backup := do
  let ending := (a.value? "S").getD ['~']
  if !(a.has "b" || a.has "backup" || a.has "S") then return ⟨.off, ending⟩
  match a.value? "backup" with
  | none => return ⟨.existing, ending⟩
  | some [] => return ⟨.existing, ending⟩
  | some word => return ⟨styleOf (← Work.choice "backup type" styles word), ending⟩

/-- The number of a numbered backup of a name. -/
def numberOf?
    (name entry : Octets) :
    Option Nat :=
  match Text.dropPrefix? (name ++ ".~".toList) entry with
  | none => none
  | some rest => (Text.dropSuffix? ['~'] rest).bind fun s => (String.ofList s).toNat?

/-- The name of the backup of a file. -/
def pathFor
    (b : Backup)
    (path : Octets) :
    Work Octets := do
  let simpleName := path ++ b.ending
  if b.style = .simple then return simpleName
  let names : List Octets ← match ← Work.ask (.list (PathText.parent path)) with
    | .ok names => pure names
    | .error _ => pure []
  let highest := (names.filterMap (numberOf? (PathText.last path))).foldl max 0
  if b.style = .existing && highest = 0 then return simpleName
  return path ++ ".~".toList ++ Octets.ofNat (highest + 1) ++ ['~']

/-- Moves a file out of the way. The result is the name of the backup. -/
def keep
    (b : Backup)
    (path : Octets) :
    Work (Except FileFault (Option Octets)) := do
  if b.style = .off then return .ok none
  let target ← b.pathFor path
  match ← Work.ask (.rename path target) with
  | .ok () => return .ok (some target)
  | .error e => return .error e

/-- What is told about a backup. -/
def told : Option Octets → Octets
  | none => []
  | some path => " (backup: ".toList ++ Quoting.shellAlways path ++ [')']

end Backup

/-! ### Where to -/

/-- What a tool works on: pairs of a source and the name it gets, or sources that are put into a
directory. -/
structure Delivery where
  sources : List Octets
  directory : Option Octets
  name : Octets
  deriving DecidableEq, Repr, Inhabited

namespace Delivery

/-- The options that say what the target is. -/
def forms : List OptionForm :=
  [valued "t" ["target-directory"], flag "T" ["no-target-directory"]]

/-- Sources and the names they get. -/
def pairs (d : Delivery) : List (Octets × Octets) :=
  match d.directory with
  | none => d.sources.map fun s => (s, d.name)
  | some directory => d.sources.map fun s => (s, PathText.join directory (PathText.last s))

/-- What is said about options that exclude each other. -/
def bothGiven : String :=
  "cannot combine --target-directory (-t) and --no-target-directory (-T)"

/-- The fault of a path that should lead to a directory. -/
def directoryFault? (path : Octets) : Work (Option FileFault) := do
  match ← Work.ask (.status path true) with
  | .error e => return some e
  | .ok s => return if s.kind = .directory then none else some .notDirectory

/-- Complains about a target that is no directory. -/
def failAt
    {α : Type}
    (words : String)
    (path : Octets)
    (e : FileFault) :
    Work α :=
  Work.fail 1 (words.toList ++ ' ' :: Quoting.shellAlways path ++ ": ".toList ++ e.reason.toList)

/-- Finds out what is to be put where. -/
def read (a : Arguments) : Work Delivery := do
  let files := a.operands
  match a.value? "t", files with
  | none, [] => Work.misuse 1 "missing file operand".toList
  | some _, [] => Work.misuse 1 "missing file operand".toList
  | none, [one] =>
      Work.misuse 1 ("missing destination file operand after ".toList ++ Quoting.shellAlways one)
  | some directory, _ => do
      if a.has "T" then Work.failText 1 bothGiven
      match ← directoryFault? directory with
      | some e => failAt "target directory" directory e
      | none => return ⟨files, some directory, []⟩
  | none, _ => do
      let last := files.getLastD []
      if a.has "T" then
        match files.drop 2 with
        | extra :: _ =>
            Work.misuse 1 ("extra operand ".toList ++ Quoting.shellAlways extra)
        | [] => return ⟨files.dropLast, none, last⟩
      else
        match ← directoryFault? last with
        | none => return ⟨files.dropLast, some last, []⟩
        | some e =>
            if 2 < files.length then failAt "target" last e
            else return ⟨files.dropLast, none, last⟩

end Delivery

end Tool
end Runbook
