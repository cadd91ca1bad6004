import Runbook.Action.Basic
import Runbook.Yaml.Value

/-!
# Reading action files

An action file is a mapping of strict shape: only known fields, each at most once and of the right
type. The first fault in the order of the document decides.
-/

namespace Runbook

open Yaml

namespace Action

/-- The fields of a record; `none` for a field not known, or given twice. -/
def fieldsIn?
    (known : List String)
    (v : Value) :
    Option (List (String × Value)) :=
  match v.entries? with
  | none => none
  | some entries =>
      match entries.mapM fun e => e.1.string?.map fun key => (key, e.2) with
      | none => none
      | some fields =>
          let names := fields.map Prod.fst
          if names.all known.contains && names.eraseDups.length = names.length then some fields
          else none

def fieldOr?
    {α : Type}
    (fields : List (String × Value))
    (key : String)
    (default : α)
    (read : Value → Option α) :
    Option α :=
  match fields.lookup key with
  | none => some default
  | some v => read v

def required?
    {α : Type}
    (fields : List (String × Value))
    (key : String)
    (read : Value → Option α) :
    Option α :=
  (fields.lookup key).bind read

/-- A text that may be null or left out. -/
def optionalText?
    (fields : List (String × Value))
    (key : String) :
    Option (Option String) :=
  fieldOr? fields key none (Value.optional? Value.string?)

/-- Texts of scalars by name. -/
def scalarFields? (v : Value) : Option (Dict String) :=
  let read : Value → Option (Dict String) := fun m =>
    match m.entries? with
    | none => none
    | some entries =>
        let texts : Option (List (String × String)) := entries.mapM fun (key, value) =>
          key.string?.bind fun k => value.scalarText?.map fun text => (k, text.getD "")
        texts.map Dict.ofList
  (Value.optional? read v).map fun d => d.getD []

/-- Writing a file. -/
def readGenerate? (v : Value) : Option Generate := do
  let fields ← fieldsIn? ["text", "from", "to", "overwrite"] v
  return {
    text := ← optionalText? fields "text"
    template := ← optionalText? fields "from"
    target := ← required? fields "to" Value.string?
    overwrite := ← fieldOr? fields "overwrite" false Value.bool? }

/-- Changing a file. -/
def readInject? (v : Value) : Option Inject := do
  let fields ← fieldsIn? ["to", "text", "after", "before", "skip"] v
  return {
    target := ← required? fields "to" Value.string?
    text := ← required? fields "text" Value.string?
    after := ← optionalText? fields "after"
    before := ← optionalText? fields "before"
    skip := ← optionalText? fields "skip" }

def entryText? (v : Value) : Option String :=
  (fieldsIn? ["text"] v).bind fun fields => required? fields "text" Value.string?

/-- Running a command line. -/
def readExec? (v : Value) : Option Exec := do
  let fields ← fieldsIn? ["command", "commandFile", "dir", "to", "errto", "jsonPath"] v
  return {
    command := ← optionalText? fields "command"
    commandFile := ← optionalText? fields "commandFile"
    directory := ← optionalText? fields "dir"
    output := ← optionalText? fields "to"
    errors := ← optionalText? fields "errto"
    query := ← optionalText? fields "jsonPath" }

/-- The choices of a question, and whether several may be taken. -/
def readQuestionOptions? (v : Value) : Option (Dict String × Bool) := do
  let fields ← fieldsIn? ["choices", "multiple"] v
  let choices ← fieldOr? fields "choices" [] scalarFields?
  let multiple ← fieldOr? fields "multiple" false Value.bool?
  return (choices, multiple)

def readQuestion? (v : Value) : Option Question := do
  let fields ← fieldsIn? ["name", "label", "type", "options", "defaultValue"] v
  let options ← fieldOr? fields "options" ([], false) readQuestionOptions?
  return {
    name := ← required? fields "name" Value.string?
    label := ← optionalText? fields "label"
    kind := ← fieldOr? fields "type" "input" Value.string?
    choices := options.1
    multiple := options.2
    default := ← fieldOr? fields "defaultValue" none Value.scalarText? }

def readVars? (v : Value) : Option Vars := do
  let fields ← fieldsIn? ["questions", "data", "role"] v
  return {
    questions := ← fieldOr? fields "questions" [] fun q =>
      q.items?.bind fun items => items.mapM readQuestion?
    data := ← fieldOr? fields "data" [] scalarFields?
    role := ← optionalText? fields "role" }

/-- One kind of action under its key, unless it is null or left out. -/
def readKind?
    (fields : List (String × Value))
    (key : String)
    (read : Value → Option Action) :
    Option (List Action) :=
  (fieldOr? fields key none (Value.optional? read)).map Option.toList

/-- The keys of an action, in the order in which several of them are named. -/
def names : List String :=
  ["generate", "inject"] ++
    [Pom.EntryKind.dependency, .managed, .repository, .plugin].map Pom.EntryKind.actionName ++
    ["exec", "vars"]

/-- All actions that one entry declares. -/
def readAll? (v : Value) : Option (List Action) := do
  let fields ← fieldsIn? names v
  let entry (kind : Pom.EntryKind) : Option (List Action) :=
    readKind? fields kind.actionName fun w => (entryText? w).map (.entry kind)
  return (← readKind? fields "generate" fun w => (readGenerate? w).map .generate)
    ++ (← readKind? fields "inject" fun w => (readInject? w).map .inject)
    ++ (← entry .dependency) ++ (← entry .managed) ++ (← entry .repository) ++ (← entry .plugin)
    ++ (← readKind? fields "exec" fun w => (readExec? w).map .exec)
    ++ (← readKind? fields "vars" fun w => (readVars? w).map .vars)

def ofValue (v : Value) : Except ActionError Action :=
  match readAll? v with
  | none => .error .malformed
  | some found => single found

end Action

namespace ActionFile

/-- The artifact that the actions of a file depend on. -/
def readConditional? (v : Value) : Option (Option String) :=
  Value.optional?
    (fun w => (Action.fieldsIn? ["artifactId"] w).bind fun fields =>
      Action.required? fields "artifactId" Value.string?)
    v

def readActions (v : Value) : Except ActionError (List Action) :=
  match v with
  | .null => .ok []
  | _ =>
      match v.items? with
      | none => .error .malformed
      | some items => items.mapM Action.ofValue

/-- The fields of an action file in the order they are written, none of them twice. -/
def readFields
    (artifact : Option (Option String))
    (actions : Option (List Action)) :
    List (Value × Value) → Except ActionError ActionFile
  | [] => .ok ⟨artifact.join, actions.getD []⟩
  | (key, v) :: rest =>
      match key.string?, artifact, actions with
      | some "conditional", none, _ =>
          match readConditional? v with
          | none => .error .malformed
          | some a => readFields (some a) actions rest
      | some "actions", _, none =>
          match readActions v with
          | .error e => .error e
          | .ok as => readFields artifact (some as) rest
      | _, _, _ => .error .malformed

def ofValue (v : Value) : Except ActionError ActionFile :=
  match v.entries? with
  | none => .error .malformed
  | some entries => readFields none none entries

/-- The action file that a text describes. -/
def parse (s : String) : Except ActionError ActionFile :=
  match Value.parse? s with
  | none => .error .malformed
  | some v => ofValue v

end ActionFile

end Runbook
