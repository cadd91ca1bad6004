import Runbook.Command.Manifest
import Runbook.Files.Disk
import Runbook.Run.World
import Runbook.Command.OptionKind

/-!
# Commands below a root

How a command root is scanned, how the commands found are shown, and which of them can be run.
-/

namespace Runbook

/-!
## Scanning a command root

Every directory below a command root that is not hidden is a command, and every such directory
below that is a sub-command. Each is described by its manifest; one that cannot be read, or that is
refused, is reported and does as much as none.
-/

/-- A command found on the disk: the name of its directory, its path and its description. -/
structure ScannedCommand where
  directory : String
  path : String
  command : Command
  deriving DecidableEq, Repr, Inhabited

/-- Whether a command comes before another one: by the name of its directory, then by its path. -/
def ScannedCommand.precedes (c other : ScannedCommand) : Bool :=
  c.directory < other.directory ||
    (c.directory = other.directory && Path.precedes c.path other.path)

/-- Commands with their sub-commands, each in the order of the names of their directories. -/
abbrev CommandTree := List (ScannedCommand × List ScannedCommand)

/-- Puts a command with its sub-commands in its place. A command of the same directory stays, with the
new sub-commands. -/
def CommandTree.insert
    (tree : CommandTree)
    (command : ScannedCommand)
    (below : List ScannedCommand) :
    CommandTree :=
  match tree with
  | [] => [(command, below)]
  | (c, subs) :: rest =>
      if c.precedes command then (c, subs) :: CommandTree.insert rest command below
      else if command.precedes c then (command, below) :: (c, subs) :: rest
      else (c, below) :: rest

def CommandTree.ofList (found : List (ScannedCommand × List ScannedCommand)) : CommandTree :=
  found.foldl (fun tree f => tree.insert f.1 f.2) []

/-- A command root that cannot be listed. -/
structure ScanError where
  path : String
  fault : FileFault
  deriving DecidableEq, Repr, Inhabited

def ScanError.message (e : ScanError) : String :=
  s!"Could not list command directory '{e.path}': {e.fault.message}"

/-- The names of the directories in a directory that are not hidden, in their order. -/
def subdirectories
    (d : Disk)
    (path : String)
    (entries : Dict FileTree) :
    List String :=
  ((Dict.ofList entries).map Prod.fst).filter fun name =>
    !(name.toList.head? = some '.') && d.isDirectory (Path.join path name)

/-- The file in a directory that describes it. -/
def manifestIn?
    (d : Disk)
    (path : String) :
    Option (String × Content) :=
  manifestNames.findSome? fun name =>
    match d.tree? (Path.join path name) with
    | .ok (.file c _) => some (name, c)
    | _ => none

/-- The command that the content of a manifest describes, if it is fit for use. -/
def usableCommand?
    (directory : String)
    (content : Content) :
    Option Command :=
  match content with
  | .bytes _ => none
  | .text s =>
      match Command.ofManifest? directory s with
      | none => none
      | some c =>
          match c.validate with
          | .ok () => some c
          | .error _ => none

/-- The command of a directory, and a warning if its manifest is not fit for use. -/
def loadCommand
    (d : Disk)
    (path directory : String) :
    Command × List Warning :=
  match manifestIn? d path with
  | none => (.ofDirectory directory, [])
  | some (name, content) =>
      match usableCommand? directory content with
      | some c => (c, [])
      | none => (.ofDirectory directory, [.invalidManifest (Path.join path name)])

def scanDirectory
    (d : Disk)
    (parent name : String) :
    ScannedCommand × List Warning :=
  let path := Path.join parent name
  let (command, warnings) := loadCommand d path name
  (⟨name, path, command⟩, warnings)

def scanDirectories
    (d : Disk)
    (parent : String)
    (names : List String) :
    List ScannedCommand × List Warning :=
  let scanned := names.map (scanDirectory d parent)
  (scanned.map Prod.fst, scanned.flatMap Prod.snd)

def scanCommand
    (d : Disk)
    (root name : String) :
    (ScannedCommand × List ScannedCommand) × List Warning :=
  let (command, own) := scanDirectory d root name
  let names := match d.list command.path with
    | .ok entries => subdirectories d command.path entries
    | .error _ => []
  let (below, theirs) := scanDirectories d command.path names
  ((command, below), own ++ theirs)

def scan
    (d : Disk)
    (root : String) :
    Except ScanError (CommandTree × List Warning) :=
  match d.list root with
  | .error e => .error ⟨root, e⟩
  | .ok entries =>
      let scanned := (subdirectories d root entries).map (scanCommand d root)
      .ok (.ofList (scanned.map Prod.fst), scanned.flatMap Prod.snd)

/-- All commands below a root; there are none below one that cannot be listed. -/
def scanOrEmpty
    (d : Disk)
    (root : String) :
    CommandTree × List Warning :=
  match scan d root with
  | .ok found => found
  | .error _ => ([], [])

/-!
## The outline of a command tree

A line for each command and sub-command, with the lines of a tree in front, its description, its
path if wanted, and its flags.
-/

def outlineLine
    (root : String)
    (showPaths : Bool)
    (lead : String)
    (isLast : Bool)
    (c : ScannedCommand) :
    String :=
  let connector := if isLast then "└─" else "├─"
  let path := if showPaths then " [" ++ Path.shownFrom root c.path ++ "]" else ""
  let flags :=
    if c.command.options.isEmpty then ""
    else " " ++ " ".intercalate (c.command.options.map fun o => "--" ++ o.flag)
  lead ++ connector ++ c.command.name ++ " " ++ c.command.description ++ path ++ flags ++ "\n"

/-- The lines of commands that stand on one level; `below` gives the lines under one of them. -/
def outlineLevel
    {α : Type}
    (line : Bool → α → String)
    (below : Bool → α → String) :
    List α → String
  | [] => ""
  | [c] => line true c ++ below true c
  | c :: rest => line false c ++ below false c ++ outlineLevel line below rest

/-- The outline of a command tree; an empty one says how to start. -/
def outline
    (root : String)
    (showPaths : Bool)
    (tree : CommandTree) :
    String :=
  match tree with
  | [] =>
      "No commands found under '" ++ root
        ++ "'. Use 'crank command new <name>' to create one.\n"
  | _ =>
      outlineLevel (fun isLast c => outlineLine root showPaths "" isLast c.1)
        (fun isLast c =>
          outlineLevel (outlineLine root showPaths (if isLast then "   " else "│  "))
            (fun _ _ => "") c.2)
        tree

/-!
## Runnable commands

Scanned commands become units that can be run, one for each pair of a command and a sub-command.
Reserved names and pairs that are taken are left out with a warning. The options of a unit are those
of the sub-command and then those of the command, as far as their type is known, their flag is not
reserved, and no option before them has it.
-/

/-- An option whose type is known. -/
structure BoundOption where
  option : CommandOption
  kind : OptionKind
  deriving DecidableEq, Repr

def BoundOption.flag (b : BoundOption) : String :=
  b.option.flag

/-- A command with a sub-command that can be run: the directory of its actions and its options. -/
structure Invocable where
  command : Command
  subcommand : Command
  path : String
  options : List BoundOption
  deriving DecidableEq, Repr

/-- The names a unit is called by. -/
def Invocable.names (u : Invocable) : String × String :=
  (u.command.name, u.subcommand.name)

/-- What becomes of a declared option. -/
inductive Binding where
  | bound (b : BoundOption)
  | reserved
  | unknownType
  deriving DecidableEq, Repr

/-- What becomes of an option, whatever is declared before it. -/
def CommandOption.binding (o : CommandOption) : Binding :=
  if isReservedFlag o.flag then .reserved
  else
    match OptionKind.ofDataType? o.dataType with
    | none => .unknownType
    | some kind => .bound ⟨o, kind⟩

/-- The options that are bound, without those whose flag is taken. -/
def boundOptions
    (taken : List String) :
    List CommandOption → List BoundOption
  | [] => []
  | o :: rest =>
      match o.binding with
      | .bound b =>
          if taken.contains b.flag then boundOptions taken rest
          else b :: boundOptions (b.flag :: taken) rest
      | _ => boundOptions taken rest

/-- The warning about an option that is left out. -/
def CommandOption.warning?
    (command subcommand : String)
    (o : CommandOption) :
    Option Warning :=
  match o.binding with
  | .bound _ => none
  | .reserved => some (.reservedOption o.name command subcommand)
  | .unknownType => some (.unknownDataType o.name command subcommand o.dataType)

/-- The unit of a command and a sub-command. -/
def Invocable.of
    (command subcommand : ScannedCommand) :
    Invocable × List Warning :=
  let declared := subcommand.command.options ++ command.command.options
  ( ⟨command.command, subcommand.command, subcommand.path, boundOptions [] declared⟩,
    declared.filterMap
      (CommandOption.warning? command.command.name subcommand.command.name) )

/-- The units of one command; `taken` holds the names of the units before them. -/
def registerBelow
    (command : ScannedCommand)
    (taken : List (String × String)) :
    List ScannedCommand → List Invocable × List Warning
  | [] => ([], [])
  | sub :: rest =>
      let names := (command.command.name, sub.command.name)
      if sub.command.name = "help" || taken.contains names then
        let (units, warnings) := registerBelow command taken rest
        (units, .reservedSubcommand names.1 names.2 sub.path :: warnings)
      else
        let (unit, own) := Invocable.of command sub
        let (units, warnings) := registerBelow command (names :: taken) rest
        (unit :: units, own ++ warnings)

/-- The units of all commands after some units. -/
def registerAfter
    (taken : List (String × String)) :
    CommandTree → List Invocable × List Warning
  | [] => ([], [])
  | (command, subs) :: rest =>
      if isReservedName command.command.name || isReservedName command.directory then
        let (units, warnings) := registerAfter taken rest
        (units, .reservedCommand command.path :: warnings)
      else
        let (units, warnings) := registerBelow command taken subs
        let (more, others) := registerAfter (units.map Invocable.names ++ taken) rest
        (units ++ more, warnings ++ others)

def register (tree : CommandTree) : List Invocable × List Warning :=
  registerAfter [] tree

/-- The unit that is called by two names. -/
def findUnit?
    (units : List Invocable)
    (command subcommand : String) :
    Option Invocable :=
  units.find? fun u => u.names = (command, subcommand)

end Runbook
