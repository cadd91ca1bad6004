import Runbook.Files.Path
import Runbook.Machine.Basic
import Runbook.Text.Pieces

/-!
# Command lines and processes

A command line is cut into words, and the program they name is started.
-/

namespace Runbook

/-!
## Words of a command line

A command line is cut into words at blanks. A backslash takes the next character as it is, single
quotes take all characters up to the next one, double quotes let a backslash protect four characters
only. A number sign where a word could start begins a comment.
-/

/-- What the next character of a command line belongs to: nothing yet, a comment, or a word that has
been read up to there, outside of quotes or inside. -/
inductive WordState where
  | between
  | comment
  | word (soFar : List Char)
  | single (soFar : List Char)
  | double (soFar : List Char)
  deriving DecidableEq, Repr

def separatesWords (c : Char) : Bool :=
  c = ' ' || c = '\t' || c = '\n'

/-- The words of the rest of a command line; `none` when a quote is not closed or nothing follows a
backslash. Words read so far are held in reverse. -/
def wordsFrom : WordState → List Char → Option (List (List Char))
  | .between, [] => some []
  | .comment, [] => some []
  | .word w, [] => some [w.reverse]
  | .single _, [] => none
  | .double _, [] => none
  | .comment, c :: s => wordsFrom (if c = '\n' then .between else .comment) s
  | .single w, c :: s =>
      if c = '\'' then wordsFrom (.word w) s else wordsFrom (.single (c :: w)) s
  | .double w, '\\' :: c :: s =>
      if c = '\n' then wordsFrom (.double w) s
      else if c = '$' || c = '\x60' || c = '"' || c = '\\' then wordsFrom (.double (c :: w)) s
      else wordsFrom (.double (c :: '\\' :: w)) s
  | .double w, c :: s =>
      if c = '\\' then none
      else if c = '"' then wordsFrom (.word w) s
      else wordsFrom (.double (c :: w)) s
  | .word w, '\\' :: c :: s => wordsFrom (.word (if c = '\n' then w else c :: w)) s
  | .word w, c :: s =>
      if c = '\\' then none
      else if c = '"' then wordsFrom (.double w) s
      else if c = '\'' then wordsFrom (.single w) s
      else if separatesWords c then (wordsFrom .between s).map (w.reverse :: ·)
      else wordsFrom (.word (c :: w)) s
  | .between, '\\' :: c :: s => wordsFrom (.word (if c = '\n' then [] else [c])) s
  | .between, c :: s =>
      if c = '\\' then none
      else if c = '"' then wordsFrom (.double []) s
      else if c = '\'' then wordsFrom (.single []) s
      else if separatesWords c then wordsFrom .between s
      else if c = '#' then wordsFrom .comment s
      else wordsFrom (.word [c]) s

def commandWords? (line : String) : Option (List String) :=
  (wordsFrom .between line.toList).map fun ws => ws.map String.ofList

/-!
## Processes

Running a command line means starting one program and waiting for it, up to a deadline. What a
program does is a function of the disk it is started on and of what is still under way there: it is
given by a `System`, and everything that runs command lines works with any of them.
-/

/-- A program to start, with its arguments, the directory it starts in, and the files that its streams
go to. -/
structure ProcessCall where
  program : String
  arguments : List String
  directory : String
  output : Option String
  errors : Option String
  deriving DecidableEq, Repr, Inhabited

/-- How a process ended: by itself, with an exit code that is `-1` after a signal, or killed at the
deadline. -/
inductive ProcessEnd where
  | exited (code : Int)
  | overdue
  deriving DecidableEq, Repr, Inhabited

/-- What a process wrote to the streams that go to no file, the disk it left, and what is still under
way. -/
structure ProcessReport where
  ending : ProcessEnd
  output : List UInt8
  errors : List UInt8
  disk : Disk
  jobs : Jobs
  deriving Inhabited

/-- What programs do: from a deadline in milliseconds, the call, the disk and what is under way to a
report, or to the reason why the program cannot be started. -/
abbrev System := Nat → ProcessCall → Disk → Jobs → Except FileFault ProcessReport

/-- A command line to run: where, with the files its streams are to go to, and the deadline in
milliseconds. -/
structure ExecRequest where
  line : String
  directory : String
  output : Option String
  errors : Option String
  deadline : Nat
  deriving DecidableEq, Repr, Inhabited

/-- What is known of a finished process. A stream that went to a file is not captured. -/
structure ExecOutcome where
  exit : Int
  output : Option String
  errors : Option String
  deriving DecidableEq, Repr, Inhabited

/-- Whether a process ended well. -/
def ExecOutcome.success (o : ExecOutcome) : Bool :=
  o.exit = 0

/-- Why a command line was not run to its end. -/
inductive ExecError where
  | unparsable (line : String)
  | empty
  | failed (line : String) (fault : FileFault)
  | overdue (line : String) (seconds : Nat)
  | redirect (path : String) (fault : FileFault)
  deriving DecidableEq, Repr, Inhabited

namespace ExecError

def message : ExecError → String
  | .unparsable line => s!"Command could not be parsed: {line}"
  | .empty => "No command specified to run."
  | .failed line fault => s!"Command '{line}' could not be executed: {fault.message}"
  | .overdue line seconds =>
      s!"Command '{line}' did not finish within {seconds} seconds and was killed."
  | .redirect path fault => s!"Could not open redirection target '{path}': {fault.message}"

def causes : ExecError → List String
  | .redirect _ fault => [fault.message]
  | _ => []

end ExecError

/-- The exit code of a program that does not exist. -/
def exitNotFound : Int := 127

/-- Opens the file that a stream is to go to, empty, in a directory that is made for it. -/
def openRedirect
    (d : Disk) :
    Option String → Disk × Except ExecError Unit
  | none => (d, .ok ())
  | some path =>
      let made : Disk × Except FileFault Unit := match Path.parent? path with
        | none => (d, .ok ())
        | some parent => d.provideDirectory parent
      match made with
      | (d', .error e) => (d', .error (.redirect path e))
      | (d', .ok ()) =>
          match d'.overwrite path (.text "") with
          | (d'', .error e) => (d'', .error (.redirect path e))
          | (d'', .ok ()) => (d'', .ok ())

def captured
    (redirect : Option String)
    (bytes : List UInt8) :
    Option String :=
  match redirect with
  | some _ => none
  | none => some (String.ofList (Utf8.decodeLossy bytes))

/-- What is known of a program that does not exist: it counts as a process that says so and fails. -/
def notFoundOutcome
    (r : ExecRequest)
    (program : String) :
    ExecOutcome :=
  let complaint := s!"Cannot run program '{program}': {FileFault.noEntry.message}"
  { exit := exitNotFound
    output := captured r.output []
    errors := captured r.errors (Utf8.encode complaint.toList) }

/-- The disk and what is under way on it, with the result of a command line. -/
structure Executed where
  disk : Disk
  jobs : Jobs
  result : Except ExecError ExecOutcome
  deriving Inhabited

/-- Runs a program whose streams are open. -/
def ExecRequest.start
    (system : System)
    (r : ExecRequest)
    (line : String)
    (call : ProcessCall)
    (d : Disk)
    (jobs : Jobs) :
    Executed :=
  match system r.deadline call d jobs with
  | .error .noEntry => ⟨d, jobs, .ok (notFoundOutcome r call.program)⟩
  | .error fault => ⟨d, jobs, .error (.failed line fault)⟩
  | .ok report =>
      let result : Except ExecError ExecOutcome := match report.ending with
        | .overdue => .error (.overdue line (r.deadline / 1000))
        | .exited code =>
            .ok ⟨code, captured r.output report.output, captured r.errors report.errors⟩
      ⟨report.disk, report.jobs, result⟩

/-- Runs a command line to its end. -/
def ExecRequest.execute
    (system : System)
    (r : ExecRequest)
    (d : Disk)
    (jobs : Jobs) :
    Executed :=
  let line := Text.trimString r.line
  if line.isEmpty then
    ⟨d, jobs, .error .empty⟩
  else
    match commandWords? line with
    | none => ⟨d, jobs, .error (.unparsable line)⟩
    | some [] => ⟨d, jobs, .error .empty⟩
    | some (program :: arguments) =>
        match openRedirect d r.output with
        | (d₁, .error e) => ⟨d₁, jobs, .error e⟩
        | (d₁, .ok ()) =>
            match openRedirect d₁ r.errors with
            | (d₂, .error e) => ⟨d₂, jobs, .error e⟩
            | (d₂, .ok ()) =>
                let call : ProcessCall := ⟨program, arguments, r.directory, r.output, r.errors⟩
                r.start system line call d₂ jobs

end Runbook
