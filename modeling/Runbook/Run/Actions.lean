import Runbook.Json.Reader
import Runbook.Pom.Merge
import Runbook.Run.World
import Runbook.Text.Kebab
import Runbook.Text.Pieces

/-!
# Actions at work

What each kind of action does to the files, the queue of entries, the context and the roles.
-/

namespace Runbook

open Run

/-!
## Writing and changing files

`generate` writes a file that is not there yet. `inject` puts a block of text into a file that is
there, at the end or next to the first line that holds a marker, and only if the file does not hold
it already.
-/

/-- What is rendered into a new file: a text, or the content of a template file beside the actions. -/
def Generate.source
    (g : Generate)
    (s : Setting) :
    Run String := do
  match g.text, g.template with
  | some text, _ => return text
  | none, some template =>
      let name ← render template
      readText (Path.join s.actionDirectory name)
  | none, none => throw (.invalidAction "generate" "one of 'text' or 'from' is required")

/-- Writes a file. What is already there stays, unless it may be overwritten. -/
def Generate.run
    (g : Generate)
    (s : Setting) :
    Run Outcome := do
  let target ← resolve s g.target
  let shown := s.shown target
  if (← get).disk.exists? target && !g.overwrite then
    remark s!"'{shown}' already exists, skipping."
    return .skipped
  let template ← g.source s
  let content ← render template
  replaceFile target content
  announce "generate" shown
  return .applied

/-- Where a block goes: after or before the first line with a marker. -/
inductive Anchor where
  | after (marker : String)
  | before (marker : String)
  deriving DecidableEq, Repr

/-- The marker of an anchor; the end of a file needs none. -/
def Anchor.marker : Option Anchor → String
  | none => ""
  | some (.after m) => m
  | some (.before m) => m

namespace Inject

/-- A text that ends its last line. -/
def completed (s : List Char) : List Char :=
  if s.getLast? = some '\n' then s else s ++ ['\n']

/-- The lines of a file with a block beside the first line that holds a marker; `none` when no line
does. -/
def besideMarker
    (marker block : List Char)
    (isAfter : Bool) :
    List (List Char) → Option (List Char)
  | [] => none
  | line :: rest =>
      if Text.occursIn marker line then
        if isAfter then some (completed line ++ block ++ rest.flatten)
        else some (block ++ line ++ rest.flatten)
      else
        (besideMarker marker block isAfter rest).map (line ++ ·)

/-- A file with a text put in; `none` when the marker does not occur. -/
def insert
    (content text : List Char)
    (anchor : Option Anchor) :
    Option (List Char) :=
  let block := completed text
  match anchor with
  | none => some ((if content.isEmpty then [] else completed content) ++ block)
  | some (.after m) => besideMarker m.toList block true (Text.lineSegments content)
  | some (.before m) => besideMarker m.toList block false (Text.lineSegments content)

/-- The anchor of an action, with its marker rendered. -/
def anchor (i : Inject) : Run (Option Anchor) := do
  match i.after, i.before with
  | some _, some _ => throw (.invalidAction "inject" "'after' and 'before' are mutually exclusive")
  | some marker, none => return some (.after (← render marker))
  | none, some marker => return some (.before (← render marker))
  | none, none => return none

/-- Puts a text into a file. -/
def run
    (i : Inject)
    (s : Setting) :
    Run Outcome := do
  let target ← resolve s i.target
  let shown := s.shown target
  if !(← get).disk.isFile target then
    remark s!"'{shown}' does not exist, nothing to inject into."
    return .skipped
  let anchor ← i.anchor
  let content := (← readText target).toList
  let text := (← render i.text).toList
  if let some skip ← render? i.skip then
    if !skip.isEmpty && Text.occursIn skip.toList content then
      remark s!"'{shown}' already contains '{skip}', skipping."
      return .skipped
  let needle := Text.trimRight text
  if !needle.isEmpty && Text.occursIn needle content then
    remark s!"'{shown}' already contains the text, skipping."
    return .skipped
  match insert content text anchor with
  | none =>
      remark s!"Marker '{Anchor.marker anchor}' not found in '{shown}', skipping."
      return .skipped
  | some updated =>
      replaceFile target (String.ofList updated)
      announce "inject" shown
      return .applied

end Inject

/-!
## The queue of entries

Entries for the project model are collected in a queue and written together. Writing empties the
queue, and the context gets the model that results.
-/

/-- The name of the project model in the context. -/
def modelKey : String := "maven-model"

/-- The project model that a context holds. -/
def modelIn? (c : Context) : Option Pom.Model :=
  (Dict.get? c modelKey).bind Pom.Model.ofJson?

/-- The project model of the context; a value that is none is worth a warning. -/
def contextModel? : Run (Option Pom.Model) := do
  let c := (← get).context
  match Dict.get? c modelKey, modelIn? c with
  | some _, none => warn .notProjectModel
  | _, _ => pure ()
  return modelIn? c

/-- The text of a project model file with entries merged into it. -/
def patchedText
    (d : Disk)
    (path : String)
    (entries : List Pom.Entry) :
    Except PatchError String :=
  match d.readText path with
  | .error e => .error (.unreadable path e)
  | .ok text =>
      match Pom.merge text.toList entries with
      | none => .error (.noProject path)
      | some merged => .ok (String.ofList merged)

def takeQueue : Run (List Pom.Entry) := do
  let entries := (← get).queue
  modify fun w => { w with queue := [] }
  return entries

/-- Writes entries into the file of the project model; whether that changed it. -/
def writeEntries
    (s : Setting)
    (entries : List Pom.Entry) :
    Run Bool := do
  let path := s.pomPath
  let before ← readText path
  let patched ← lift .patch (patchedText (← get).disk path entries)
  if patched = before then
    return false
  replaceFile path patched
  announce "patch" s!"{s.shown path} ({entries.length} entries)"
  match Pom.Model.parse? patched.toList with
  | some model => setValue modelKey model.toJson
  | none => pure ()
  return true

/-- Writes everything queued; the number of files changed. -/
def flush (s : Setting) : Run Nat := do
  let entries ← takeQueue
  if entries.isEmpty then
    return 0
  return if ← writeEntries s entries then 1 else 0

/-- Whether an entry of the same kind and key is queued. -/
def isQueued
    (queue : List Pom.Entry)
    (e : Pom.Entry) :
    Bool :=
  queue.any fun q => q.kind = e.kind && q.key = e.key

/-- Queues entries that are neither declared in the model nor queued; how many there were. -/
def enqueueAll
    (kind : Pom.EntryKind)
    (model : Option Pom.Model) :
    List Pom.Entry → Run Nat
  | [] => pure 0
  | e :: rest => do
      if model.any e.isDeclaredIn || isQueued (← get).queue e then
        remark s!"{kind.label} '{e.key}' already declared."
        enqueueAll kind model rest
      else
        modify fun w => { w with queue := w.queue ++ [e] }
        return (← enqueueAll kind model rest) + 1

/-- Queues the entries that a text describes. -/
def enqueue
    (kind : Pom.EntryKind)
    (text : String)
    (s : Setting) :
    Run Outcome := do
  if !(← get).disk.isFile s.pomPath then
    remark s!"No pom.xml in the working directory, skipping {kind.label}."
    return .skipped
  let rendered ← render text
  let entries ← lift .entry (Pom.Entry.parseAll kind rendered.toList)
  let model ← contextModel?
  let queued ← enqueueAll kind model entries
  return if 0 < queued then .applied else .skipped

/-!
## Running command lines

`exec` runs a command line and keeps the exit value, what was written, and what a query finds in it.
A command that fails is reported and noted; it stops nothing.
-/

namespace Exec

/-- The first line of a command file that is not blank. -/
def firstCommand? (content : String) : Option String :=
  ((Text.lines content.toList).map Text.trim).find? (fun l => !l.isEmpty) |>.map String.ofList

/-- The command line: given, or the first of a file beside the actions. -/
def commandLine
    (x : Exec)
    (s : Setting) :
    Run String := do
  match x.command, x.commandFile with
  | some command, _ => render command
  | none, some file =>
      let path := Path.join s.actionDirectory (← render file)
      let content ← readText path
      match firstCommand? content with
      | some line => render line
      | none => throw (.invalidAction "exec" s!"'{path}' contains no command")
  | none, none => throw (.invalidAction "exec" "one of 'command' or 'commandFile' is required")

/-- Keeps a captured stream, without blanks at its end. -/
def keepStream
    (key : String) :
    Option String → Run Unit
  | none => pure ()
  | some text => setValue key (.string (Text.trimStringRight text))

/-- Keeps what a query finds in the output of a command. -/
def keepFound
    (line path output : String) :
    Run Unit := do
  let query ← lift .query (Query.parse (← render path))
  match Json.parse? output with
  | some document => setValue "stdout-json-path" ((query.run document).getD .null)
  | none => warn (.notJson line)

/-- Runs a command line. -/
def run
    (x : Exec)
    (s : Setting) :
    Run Outcome := do
  let line ← x.commandLine s
  let directory := (← resolve? s x.directory).getD s.workDirectory
  let output ← resolve? s x.output
  let errors ← resolve? s x.errors
  announce "exec" line
  let request : ExecRequest := ⟨line, directory, output, errors, s.deadline⟩
  let outcome ← execute s.system request
  setValue "exit-value" (Json.ofInt outcome.exit)
  keepStream "stdout" outcome.output
  keepStream "stderr" outcome.errors
  match x.query, outcome.output with
  | some path, some text => if outcome.success then keepFound line path text
  | _, _ => pure ()
  if !outcome.success then
    remark s!"'{line}' exited with code {outcome.exit}."
  return .applied

end Exec
/-!
## Asking for values

`vars` answers questions, from the context where it knows the answer and else by prompting, and
keeps the answers and its fixed values in the store of a role and in the context.
-/

namespace Prompter

/-- The next scripted answer. Every label asked is recorded. -/
def nextAnswer
    (answers asked : List String)
    (label : String) :
    Prompter × Except PromptError String :=
  match answers with
  | [] => (.scripted [] (asked ++ [label]), .error (.refused label))
  | a :: rest => (.scripted rest (asked ++ [label]), .ok a)

/-- A free answer. Whoever is not at a terminal takes the default. -/
def input
    (p : Prompter)
    (label : String)
    (default : Option String) :
    Prompter × Except PromptError String :=
  match p, default with
  | .scripted answers asked, _ => nextAnswer answers asked label
  | .refusing, some d => (p, .ok d)
  | .refusing, none => (p, .error (.refused label))
  | .terminal, _ => (p, .error .noTerminal)

def select
    (p : Prompter)
    (label : String)
    (choices : Dict String)
    (default : Option String) :
    Prompter × Except PromptError String :=
  match p with
  | .terminal => if choices.isEmpty then (p, .error (.noChoices label)) else (p, .error .noTerminal)
  | _ => p.input label default

end Prompter

namespace Vars

/-- Lets the prompter answer. -/
def prompt (ask : Prompter → Prompter × Except PromptError String) : Run String := do
  let (p, answer) := ask (← get).prompter
  modify fun w => { w with prompter := p }
  lift .prompt answer

/-- Whether a question is of a kind that can be asked. -/
def isAskable (q : Question) : Bool :=
  q.kind = "input" || (q.kind = "dropdown" && !q.multiple)

/-- Refuses the first question that cannot be asked. -/
def checkQuestions : List Question → Run Unit
  | [] => pure ()
  | q :: rest =>
      if isAskable q then checkQuestions rest
      else throw (.questionType q.name (if q.multiple then q.kind ++ " (multiple)" else q.kind))

/-- The answer that a context knows, under the name of a question or under its flag. -/
def knownAnswer?
    (c : Context)
    (name : String) :
    Option String :=
  let value := match Dict.get? c name with
    | some v => some v
    | none => Dict.get? c (Text.kebabCase name)
  match value with
  | none => none
  | some .null => none
  | some v => some v.plainText

def ask (q : Question) : Run String := do
  let label ← match q.label with
    | some template => render template
    | none => pure q.name
  let default ← render? q.default
  if q.kind = "dropdown" then
    prompt fun p => p.select label q.choices default
  else
    prompt fun p => p.input label default

/-- Keeps a value in the store and in the context. -/
def keep
    (s : Setting)
    (role key value : String) :
    Run Unit := do
  onDisk .store fun d => s.store.update d role key value
  setValue key (.string value)

/-- Answers questions and keeps the answers. -/
def answerAll
    (s : Setting)
    (role : String) :
    List Question → Run Unit
  | [] => pure ()
  | q :: rest => do
      let answer ← match knownAnswer? (← get).context q.name with
        | some a => pure a
        | none => ask q
      if !q.choices.isEmpty && !Dict.has q.choices answer then
        warn (.foreignAnswer answer q.name)
      keep s role q.name answer
      answerAll s role rest

/-- Renders fixed values and keeps them. -/
def keepAll
    (s : Setting)
    (role : String) :
    Dict String → Run Unit
  | [] => pure ()
  | (key, template) :: rest => do
      let value ← render template
      keep s role key value
      keepAll s role rest

/-- Answers the questions and keeps the values of an action. -/
def run
    (v : Vars)
    (s : Setting) :
    Run Outcome := do
  checkQuestions v.questions
  let role := (← render? v.role).getD ""
  answerAll s role v.questions
  keepAll s role v.data
  let names := v.questions.map Question.name ++ v.data.map Prod.fst
  if names.isEmpty then
    return .skipped
  let scope := if role.isEmpty then "default role" else role
  let shown := Text.joinStrings ", " names
  announce "vars" s!"{shown} ({scope})"
  return .applied

end Vars

end Runbook
