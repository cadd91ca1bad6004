import Runbook.Machine.Program
import Runbook.Machine.Scheduler
import Runbook.Process.Basic
import Runbook.Shell.Start
import Runbook.Tool.Blocks
import Runbook.Tool.Columns
import Runbook.Tool.Concatenation
import Runbook.Tool.Expression
import Runbook.Tool.Copying
import Runbook.Tool.Translate
import Runbook.Tool.Dating
import Runbook.Tool.Differing.Basic
import Runbook.Tool.Digest
import Runbook.Tool.Dump
import Runbook.Tool.Editing.Basic
import Runbook.Tool.Ends
import Runbook.Tool.Environment
import Runbook.Tool.Feeding
import Runbook.Tool.Finding.Basic
import Runbook.Tool.Identity
import Runbook.Tool.Linking
import Runbook.Tool.Listing
import Runbook.Tool.Making
import Runbook.Tool.Mode
import Runbook.Tool.Moving
import Runbook.Tool.Printing
import Runbook.Tool.Records.Basic
import Runbook.Tool.Searching
import Runbook.Tool.Sequence
import Runbook.Tool.Sorting.Basic
import Runbook.Tool.Tally
import Runbook.Tool.Target
import Runbook.Tool.Wrapping

/-!
# Processes and the toolbox

How a process is started and waited for, and the system in which the tools run.
-/

namespace Runbook

/-!
## Starting and waiting for a process

A process is started on the machine with its streams open. Whoever waits for it looks at it at regular
times, and kills it at the first look after the deadline. Streams that go to no file are read to their
end, which comes when no process has them open any more.
-/

namespace Machine

/-- How many microseconds pass between two looks at a running process. -/
def pollInterval : Nat := 25000

def nextLook (time : Nat) : Nat :=
  (time + pollInterval - 1) / pollInterval * pollInterval

/-- How many rounds a machine may go in one stretch. -/
def stretch : Nat := 1000000000

/-- How long streams are read at most once the process itself has ended. -/
def patience : Nat := 3600000000

/-- A program that is about to be started: what it is started with, and the numbers of the streams
that are captured. -/
structure Spawn where
  process : Nat
  output : Nat
  errors : Nat
  refusal : Nat
  deriving DecidableEq, Repr, Inhabited

/-- The open file that a stream goes to: a file from its start on, or a captured stream. -/
def streamFor
    (m : Machine)
    (number : Nat) :
    Option String → OpenFile
  | none => ⟨.captured number, 0, .appending⟩
  | some path =>
      let mode : OpenMode := { OpenMode.writing with create := false, truncate := false }
      match m.disk.locate path with
      | .ok (.found place (.file _ _)) => ⟨.file place, 0, mode⟩
      | .ok (.found _ (.device kind)) => ⟨.device kind, 0, mode⟩
      | _ => ⟨.device .null, 0, mode⟩

/-- What a process does first: it becomes the program, or it writes down why that is not possible. -/
def spawned
    (launcher : Launcher)
    (environment : Variables)
    (report : Nat)
    (call : ProcessCall) :
    Program :=
  Act.toProgram do
    let name := Octets.ofText call.program
    let start : Start := ⟨name, call.arguments.map Octets.ofText, environment⟩
    let fault ← Launch.run launcher name start
    let _ ← Act.writeTo report (Octets.ofNat ((fault.number?).getD 0))
    return exitRefused
where
  /-- The exit status of a process that became no program. -/
  exitRefused : Nat := 127

/-- The machine with a process that becomes a program, or why there is no directory to start it in. -/
def spawn
    (launcher : Launcher)
    (environment : Variables)
    (call : ProcessCall)
    (m : Machine) :
    Except FileFault (Machine × Spawn) :=
  match m.disk.locate call.directory with
  | .error e => .error e
  | .ok (.free _ _ _) => .error .noEntry
  | .ok (.found place (.directory _)) =>
      let number := m.jobs.nextFile
      let named : Machine := { m with jobs := { m.jobs with nextFile := number + 3 } }
      let (m₁, input) := named.addFile ⟨.device .null, 0, .reading⟩
      let (m₂, output) := m₁.addFile (streamFor m number call.output)
      let (m₃, errors) := m₂.addFile (streamFor m (number + 1) call.errors)
      let (m₄, refusal) := m₃.addFile ⟨.captured (number + 2), 0, .appending⟩
      let id := m.jobs.nextId
      let p : Process :=
        { id := id
          parent := 0
          program := spawned launcher environment firstPrivate call
          descriptors := [(0, input), (1, output), (2, errors), (firstPrivate, refusal)]
          directory := place
          mask := 0o022
          wake := none
          caught := []
          ignored := []
          pending := [] }
      let jobs := { m₄.jobs with nextId := id + 1, processes := m₄.jobs.processes ++ [p] }
      .ok ({ m₄ with jobs := jobs }, ⟨id, number, number + 1, number + 2⟩)
  | .ok (.found _ _) => .error .notDirectory

def endOf?
    (m : Machine)
    (id : Nat) :
    Option Ending :=
  (m.jobs.ended.find? fun e => e.id = id).map Ended.ending

def capture
    (m : Machine)
    (number : Nat) :
    Octets :=
  ((m.jobs.captures.lookup number).getD []).reverse.flatten

/-- Whether a process has a captured stream open. -/
def isCapturing
    (m : Machine)
    (number : Nat) :
    Bool :=
  m.anyOpen m.jobs.processes fun f => match f.source with
    | .captured n => n = number
    | _ => false

/-- Whether a process has become a program, or has ended. -/
def isStarted
    (s : Spawn)
    (m : Machine) :
    Bool :=
  !isCapturing m s.refusal

/-- The fault of a number of the operating system. -/
def faultOf (number : Nat) : FileFault :=
  ([.notPermitted, .noEntry, .notRunnable, .denied, .notDirectory, .isDirectory, .invalid,
    .nameTooLong, .tooManyLinks].find? fun e => FileFault.number? e = some number).getD .denied

/-- Why a process became no program, if it did not. -/
def refusal?
    (m : Machine)
    (s : Spawn) :
    Option FileFault :=
  match capture m s.refusal with
  | [] => none
  | digits => some (faultOf (((String.ofList digits).toNat?).getD 0))

/-- Forgets captured streams and the end of a process. -/
def cleared
    (m : Machine)
    (s : Spawn) :
    Machine :=
  let isOwn (n : Nat) : Bool := n = s.output || n = s.errors || n = s.refusal
  let jobs := { m.jobs with captures := m.jobs.captures.filter fun e => !isOwn e.1 }
  ({ m with jobs := jobs }).forget s.process

/-- What is reported of a process that ended, once its streams are read. -/
def reportEnd
    (m : Machine)
    (s : Spawn)
    (ending : Ending) :
    ProcessReport :=
  let look := nextLook m.jobs.clock
  let noticed := runUntil look (fun _ => false) stretch m
  let isRead (n : Machine) : Bool := !isCapturing n s.output && !isCapturing n s.errors
  let read := runUntil (noticed.jobs.clock + patience) isRead stretch noticed
  let left := cleared read s
  let code : Int := match ending with
    | .exited status => status
    | .signalled _ => -1
  { ending := .exited code
    output := Octets.toBytes (capture read s.output)
    errors := Octets.toBytes (capture read s.errors)
    disk := left.disk
    jobs := left.jobs }

/-- What is reported of a process that is killed at the deadline. -/
def reportOverdue
    (m : Machine)
    (s : Spawn) :
    ProcessReport :=
  let left := cleared (m.signal killSignal s.process) s
  ⟨.overdue, [], [], left.disk, left.jobs⟩

/-- Starts a program and waits for it, up to a deadline in milliseconds. -/
def runCall
    (launcher : Launcher)
    (environment : Variables)
    (deadline : Nat)
    (call : ProcessCall)
    (m : Machine) :
    Except FileFault ProcessReport :=
  match spawn launcher environment call m with
  | .error e => .error e
  | .ok (n, s) =>
      let start := nextLook n.jobs.clock
      let waiting : Machine := { n with jobs := { n.jobs with clock := start } }
      let started := runUntil (start + patience) (isStarted s) stretch waiting
      match refusal? started s with
      | some fault => .error fault
      | none =>
          let limit := start + nextLook (1000 * deadline)
          let isDone (k : Machine) : Bool := (endOf? k s.process).isSome
          let reached := runUntil limit isDone stretch started
          match endOf? reached s.process with
          | some ending => .ok (reportEnd reached s ending)
          | none => .ok (reportOverdue reached s)

/-- Whether a text has a character that no argument may have. -/
def hasNul (s : String) : Bool :=
  s.toList.contains '\x00'

/-- The system that programs make which a launcher starts. -/
def system
    (launcher : Launcher)
    (environment : Variables) :
    System := fun deadline call d jobs =>
  if hasNul call.program || hasNul call.directory || call.arguments.any hasNul then
    .error .nulInCall
  else runCall launcher environment deadline call ⟨d, jobs⟩

end Machine

/-!
## The toolbox

The shell and the tools, each a file that may be run in one directory of the disk, and the system in
which they run.
-/

namespace Toolbox

open Tool

/-- The shells, and the tools that start other programs. -/
def starters : List (String × Tool) :=
  [ ("sh", Shell.tool), ("dash", Shell.tool), ("env", env), ("nice", nice), ("nohup", nohup),
    ("setsid", setsid), ("timeout", timeout), ("xargs", xargs) ]

/-- The tools that write what follows from their words alone. -/
def writers : List (String × Tool) :=
  [ ("[", Condition.bracket), ("basename", basename), ("date", Dating.tool), ("dirname", dirname),
    ("echo", echo), ("expr", Expression.tool), ("factor", Factors.tool), ("false", false_),
    ("kill", kill), ("printenv", printenv), ("printf", Printf.tool), ("pwd", pwd),
    ("seq", Sequence.tool), ("sleep", sleep), ("test", Condition.tool), ("true", true_), ("yes", yes) ]

/-- The tools that tell about the user and the machine. -/
def tellers : List (String × Tool) :=
  [ ("arch", Identity.arch), ("groups", Identity.groups), ("hostname", Identity.hostname),
    ("id", Identity.id), ("logname", Identity.logname), ("nproc", Identity.nproc),
    ("sync", Identity.sync), ("tty", Identity.tty), ("uname", Identity.uname),
    ("users", Identity.users_), ("which", Identity.which), ("whoami", Identity.whoami) ]

/-- The tools that read texts. -/
def readers : List (String × Tool) :=
  [ ("awk", Records.tool), ("base32", Encoding.tool Encoding.base32),
    ("base64", Encoding.tool Encoding.base64), ("cat", cat), ("cksum", DigestTool.cksum),
    ("cmp", Differing.cmp), ("comm", comm), ("cut", Cut.tool), ("dd", Blocks.tool),
    ("diff", Differing.tool), ("egrep", Searching.tool .extended), ("expand", expand),
    ("fgrep", Searching.tool .fixed), ("fold", fold), ("grep", Searching.tool .basic),
    ("head", Ends.head), ("join", Join.tool), ("mawk", Records.tool), ("nl", Numbered.tool),
    ("od", Dump.tool), ("paste", paste), ("rev", rev), ("sed", Editing.tool),
    ("shuf", Shuffling.tool), ("sort", Sorting.tool), ("split", Splitting.tool),
    ("sum", DigestTool.sum), ("tac", tac), ("tail", Ends.tail), ("tee", tee), ("tr", Translate.tool),
    ("tsort", Precedence.tool), ("unexpand", unexpand), ("uniq", Unique.tool), ("wc", Tally.tool) ]
    ++ DigestTool.methods.map fun m => (m.1, DigestTool.tool m.2)

/-- The tools that show and change which files there are. -/
def keepers : List (String × Tool) :=
  [ ("chmod", chmod), ("cp", cp), ("find", find), ("install", install), ("link", link), ("ln", ln),
    ("ls", ls), ("mkdir", mkdir), ("mktemp", mktemp), ("mv", mv), ("readlink", readlink),
    ("realpath", realpath), ("rm", rm), ("rmdir", rmdir), ("stat", Status.tool), ("touch", touch),
    ("truncate", truncate), ("unlink", unlink) ]

def tools : List (String × Tool) :=
  starters ++ writers ++ tellers ++ readers ++ keepers

def tool? (name : Octets) : Option Tool :=
  tools.lookup (String.ofList name)

/-- How programs are started. -/
def launcher : Launcher :=
  Launch.launch tool? Launch.depth

def image (name : String) : FileTree :=
  .file (Launch.imageOf name) ⟨0o755, none, none⟩

/-- What every program expects to find at the root of a disk. -/
def furniture : Dict FileTree :=
  Dict.ofList
    [ ("bin", .link "usr/bin"),
      ("dev", .directory (Dict.ofList
        [("full", .device .full), ("null", .device .null), ("zero", .device .zero)])),
      ("tmp", .directory []),
      ("usr", .directory (Dict.ofList
        [("bin", .directory (Dict.ofList (tools.map fun t => (t.1, image t.1))))])) ]

/-- A disk with all that programs expect, next to what it has. -/
def equip (d : Disk) : Disk :=
  .directory (furniture.foldl
    (fun es e => if Dict.has es e.1 then es else Dict.insert es e.1 e.2) d.entries)

/-- The variables of an environment as programs see them. -/
def asVariables (environment : Environment) : Variables :=
  environment.map fun e => (Octets.ofText e.1, Octets.ofText e.2)

/-- The system of the shell and the tools. -/
def system (environment : Environment) : System :=
  Machine.system launcher (asVariables environment)

end Toolbox

end Runbook
