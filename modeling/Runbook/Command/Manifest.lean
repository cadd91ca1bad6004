import Runbook.Command.OptionKind
import Runbook.Json.Basic
import Runbook.Text.Kebab
import Runbook.Yaml.Value

/-!
# Describing commands

What describes a command, and what a new command starts with.
-/

namespace Runbook

/-!
## Command manifests

A manifest describes a command or sub-command: its name, what it is for, and its options. Each option
becomes one flag, named by the option's name in kebab case, so no two options may share a flag.
-/

/-- The names of the file that holds a manifest, the preferred one first. -/
def manifestNames : List String :=
  ["command.yaml", "command.yml"]

/-- An option of a command. -/
structure CommandOption where
  name : String
  label : Option String
  description : Option String
  dataType : String
  default : Option String
  required : Bool
  inputType : Option String
  choices : Dict String
  deriving DecidableEq, Repr, Inhabited

/-- The flag of an option, which is also its name in the context. -/
def CommandOption.flag (o : CommandOption) : String :=
  Text.kebabCase o.name

/-- A command or sub-command. -/
structure Command where
  name : String
  description : String
  options : List CommandOption
  deriving DecidableEq, Repr, Inhabited

/-- Why a manifest is refused although it can be read. -/
inductive ManifestError where
  | emptyName (position : Nat)
  | sharedFlag (first second flag : String)
  deriving DecidableEq, Repr

def ManifestError.message : ManifestError → String
  | .emptyName position => s!"Option at position {position} has an empty name."
  | .sharedFlag first second flag =>
      s!"Options '{first}' and '{second}' map to the same flag '--{flag}'."

namespace CommandOption

open Yaml

/-- The text of a scalar of any type; null has none. -/
def readScalar (n : Node) : Reading (Option String) := do
  let value ← Value.ofNode n
  Reading.ofOption value.scalarText?

/-- The values to choose from, with their descriptions; a value without one describes itself by
nothing. -/
def readChoices (n : Node) : Reading (Dict String) := do
  let choices ← Node.optional
    (fun m => do
      let fields ← m.fields
      fields.mapM fun f => do
        let text ← readScalar f.2
        return (f.1, text.getD ""))
    n
  return Dict.ofList (choices.getD [])

/-- A default may be any scalar; its text counts. -/
def readDefault (n : Node) : Reading (Option String) :=
  Option.join <$> Node.optional readScalar n

def ofNode (n : Node) : Reading CommandOption := do
  let fields ← n.fields
  let name ← Node.field fields "name" Node.text
  let label ← Node.fieldOr fields "paramLabel" none (Node.optional Node.text)
  let description ← Node.fieldOr fields "description" none (Node.optional Node.text)
  let dataType ← Node.fieldOr fields "dataType" "string" Node.text
  let default ← Node.fieldOr fields "defaultValue" none readDefault
  let required ← Node.fieldOr fields "required" false Node.truth
  let inputType ← Node.fieldOr fields "inputType" none (Node.optional Node.text)
  let choices ← Node.fieldOr fields "choices" [] readChoices
  let named ← Reading.ofOption name
  return ⟨named, label, description, dataType, default, required, inputType, choices⟩

end CommandOption

namespace Command

open Yaml

/-- What a directory is described by when it says nothing itself. -/
def defaultDescription (directory : String) : String :=
  directory ++ " commands"

def ofDirectory (directory : String) : Command :=
  ⟨directory, defaultDescription directory, []⟩

/-- The command with blank fields filled from the name of its directory. -/
def fillDefaults
    (c : Command)
    (directory : String) :
    Command :=
  { c with
    name := if (Text.trimString c.name).isEmpty then directory else c.name
    description :=
      if (Text.trimString c.description).isEmpty then defaultDescription directory
      else c.description }

/-- The first option that spoils a manifest, with those before it: one without name, or one whose
flag is taken. -/
def firstFault?
    (seen : List CommandOption) :
    List CommandOption → Option ManifestError
  | [] => none
  | o :: rest =>
      if (Text.trimString o.name).isEmpty then
        some (.emptyName seen.length)
      else
        match seen.find? fun p => p.flag = o.flag with
        | some first => some (.sharedFlag first.name o.name o.flag)
        | none => firstFault? (seen ++ [o]) rest

/-- Checks that all options have names, and flags of their own. -/
def validate (c : Command) : Except ManifestError Unit :=
  match firstFault? [] c.options with
  | some e => .error e
  | none => .ok ()

def ofNode (n : Node) : Reading Command := do
  let fields ← n.fields
  let name ← Node.fieldOr fields "name" "" Node.text
  let description ← Node.fieldOr fields "description" "" Node.text
  let options ← Node.fieldOr fields "options" [] fun m => do
    let items ← m.items
    items.mapM CommandOption.ofNode
  return ⟨name, description, options⟩

/-- The command that a manifest in a directory describes, blank fields filled; a manifest without
content leaves all to the directory. `none` for a text that is no manifest. -/
def ofManifest?
    (directory : String)
    (manifest : String) :
    Option Command :=
  (Node.read? (Node.optional ofNode) manifest.toList).map fun c =>
    (c.getD (ofDirectory directory)).fillDefaults directory

end Command

/-!
## New commands

A new command has one sub-command, with a manifest and one file of actions that greets someone.
-/

namespace Scaffold

/-- Whether a name is fit for the directory of a new command. -/
def isFitName (name : String) : Bool :=
  !name.isEmpty && name.toList.all fun c => c.isAlphanum || c = '-' || c = '_'

/-- The manifest of a new sub-command. -/
def manifest : String :=
  "description: Says hello\noptions:\n  - name: name\n    description: Who to greet\n"
    ++ "    defaultValue: world\n"

/-- The actions of a new sub-command. -/
def actions : String :=
  "actions:\n  - generate:\n      to: hello.txt\n      text: \"Hello \x7b\x7bname\x7d\x7d\"\n"

/-- The files of a new sub-command. -/
def files : List (String × String) :=
  [("command.yaml", manifest), ("hello.yaml", actions)]

/-- Whether a command and its sub-command have names that are taken by the program. -/
def isReserved (name subname : String) : Bool :=
  isReservedName name || subname = "help"

end Scaffold

end Runbook
