import Runbook.Shell.Parser
import Runbook.Shell.State

/-!
# Running texts and processes

A text is read line by line, and each line is run before the next one is read. A process of its own
is a second shell with the same state; its parent may wait until all processes of a job have ended.
-/

namespace Runbook
namespace Shell

namespace Eval

/-- Whether commands are being skipped. -/
def isSkipping : Eval Bool := do
  return (← get).skip ≠ .none

/-- Reads the commands of the next line. Documents that stand behind it are kept. -/
def readNext (script : Script) : Eval (Option Command × Script) := do
  match readLine.run script with
  | .error fault =>
      modify fun s => { s with line := fault.line }
      failText s!"Syntax error: {fault.message}"
  | .ok (c, after) =>
      modify fun s =>
        { s with
          documents := after.documents ++ s.documents
          nextDocument := after.nextDocument }
      return (c, { after with documents := [] })

def isAtEnd (script : Script) : Bool :=
  match script.pushed with
  | some .eof => true
  | _ => false

def isNothing : Command → Bool
  | .nothing => true
  | _ => false

/-- Runs the commands of a script, line by line, behind commands that ended with a status. -/
def runScript
    (runner : Runner)
    (last : Bool)
    (script : Script) :
    Eval Nat :=
  repeat_ 0 step Act.rounds (script, 0)
where
  /-- Runs one line. -/
  step (at_ : Script × Nat) : Eval ((Script × Nat) ⊕ Nat) := do
    match ← readNext at_.1 with
    | (none, _) => return .inr at_.2
    | (some c, after) =>
        let status ← runner false (last && isAtEnd after) c
        let status := if isNothing c then at_.2 else status
        if ← isSkipping then return .inr status else return .inl (after, status)

def runText
    (runner : Runner)
    (last : Bool)
    (text : Octets) :
    Eval Nat := do
  runScript runner last (Script.ofText text (← get).nextDocument)

/-! ## Traps -/

def noteSignals : Eval Unit := do
  let arrived ← ask .signals
  if !arrived.isEmpty then
    modify fun s => { s with pending := s.pending ++ arrived.filter fun n => !s.pending.contains n }

def runTrap
    (runner : Runner)
    (status : Nat)
    (signal : Nat) :
    Eval Unit := do
  match (← get).traps.lookup signal with
  | none => pure ()
  | some text =>
      let _ ← runText runner false text
      match (← get).skip with
      | .return_ true => pure ()
      | _ => setStatus status

/-- Runs the traps of signals that have arrived, the smallest first. -/
def runTraps (runner : Runner) : Eval Unit := do
  noteSignals
  let s ← get
  if s.pending.isEmpty then return
  let status := s.savedStatus.getD s.status
  let signals := (List.range 65).filter s.pending.contains
  set { s with savedStatus := some status, pending := [] }
  forAll
    (fun signal => do
      if ← isSkipping then modify fun t => { t with pending := t.pending ++ [signal] }
      else runTrap runner status signal)
    signals
  modify fun t => { t with savedStatus := s.savedStatus }

/-- Ends the process of a shell after it broke off or came to its end. -/
def finish
    (runner : Runner)
    (reason : Except Raise Unit) :
    Eval Nat := do
  let settle (r : Except Raise Unit) : Eval Unit := modify fun s =>
    match r, s.savedStatus with
    | .error .exit, some status => { s with status := status, savedStatus := none }
    | .ok (), some status => { s with status := status, savedStatus := none }
    | _, _ => { s with savedStatus := none }
  settle (match reason with
    | .ok () => .error .end_
    | r => r)
  let s ← get
  match s.traps.lookup 0 with
  | none => act (Act.exit s.status)
  | some text =>
      set
        { s with
          traps := s.traps.filter fun t => t.1 ≠ 0
          savedStatus := some s.status
          skip := .none }
      let r ← guarded (runText runner false text)
      settle (r.map fun _ => ())
      act (Act.exit (← get).status)

/-- What a process of a shell does: it runs to its end, whatever happens. -/
def toEnd
    (runner : Runner)
    (body : Eval Unit) :
    Eval Nat := do
  let r ← guarded body
  let s ← get
  let r : Except Raise Unit := match r, s.skip with
    | .ok (), .return_ false => .error .exit
    | r, _ => r
  finish runner r

def program
    (runner : Runner)
    (s : State)
    (body : Eval Unit) :
    Program :=
  Act.toProgram (do return ((← ((toEnd runner body).run s)).2.status))

/-! ## Jobs -/

def inCopy (s : State) : State :=
  { s with
    jobs := []
    traps := s.traps.filter fun t => t.2.isEmpty
    pending := [] }

/-- Starts a process that is a copy of this shell. -/
def fork
    (runner : Runner)
    (body : Eval Unit) :
    Eval Nat := do
  let s ← get
  let caught := (s.traps.filter fun t => !t.2.isEmpty && t.1 ≠ 0).map Prod.fst
  let child : Eval Unit := do
    forAll (fun signal => ask (.dispose signal .default)) caught
    body
  act (Act.fork (program runner (inCopy s) child))

/-- Lets a process that runs beside the shell read nothing, and not be interrupted. -/
def inBackground (first : Bool) : Eval Unit := do
  ask (.dispose 2 .ignore)
  ask (.dispose 3 .ignore)
  if first then
    let _ ← ask (.close 0)
    let _ ← ask (.openFile "/dev/null".toList .reading)

def nextJob (jobs : List Job) : Nat :=
  jobs.foldl (fun n j => max n (j.number + 1)) 1

def addJob
    (processes : List Nat)
    (background : Bool) :
    Eval Nat := do
  let number := nextJob (← get).jobs
  let job : Job := ⟨number, processes.map fun id => ⟨id, none⟩, background, false⟩
  modify fun s => { s with jobs := s.jobs ++ [job] }
  return number

/-- Whether all processes of a job have ended. -/
def isDone (j : Job) : Bool :=
  j.processes.all fun p => p.ending.isSome

def statusOf : Ending → Nat
  | .exited status => status
  | .signalled signal => 128 + signal

/-- The status of a job, which is that of its last process. -/
def jobStatus (j : Job) : Nat :=
  match j.processes.getLast? with
  | some p => (p.ending.map statusOf).getD 0
  | none => 0

def job? (number : Nat) : Eval (Option Job) := do
  return (← get).jobs.find? fun j => j.number = number

/-- What a signal is called that ended a process. -/
def signalText : Nat → String
  | 1 => "Hangup"
  | 3 => "Quit"
  | 4 => "Illegal instruction"
  | 5 => "Trace/breakpoint trap"
  | 6 => "Aborted"
  | 7 => "Bus error"
  | 8 => "Floating point exception"
  | 9 => "Killed"
  | 10 => "User defined signal 1"
  | 11 => "Segmentation fault"
  | 12 => "User defined signal 2"
  | 14 => "Alarm clock"
  | 15 => "Terminated"
  | 16 => "Stack fault"
  | 24 => "CPU time limit exceeded"
  | 25 => "File size limit exceeded"
  | 26 => "Virtual timer expired"
  | 27 => "Profiling timer expired"
  | 29 => "I/O possible"
  | 30 => "Power failure"
  | 31 => "Bad system call"
  | n => s!"Unknown signal {n}"

/-- Notes the end of a process, and says so if it belongs to the job that is waited for and was ended
by a signal. -/
def noteEnd
    (awaited : Option Nat)
    (id : Nat)
    (ending : Ending) :
    Eval Unit := do
  let s ← get
  let isMember (j : Job) : Bool := j.processes.any fun p => p.id = id && p.ending.isNone
  let note (j : Job) : Job :=
    { j with
      processes := j.processes.map fun p => if p.id = id then { p with ending := some ending } else p }
  set { s with jobs := s.jobs.map fun j => if isMember j then note j else j }
  match ending, s.jobs.find? isMember with
  | .signalled signal, some j =>
      if awaited = some j.number && signal ≠ 2 && signal ≠ 13 then
        act (Act.complain (Octets.ofText (signalText signal ++ "\n")))
  | _, _ => pure ()

/-- Waits for one process to end; `false` if there is none, or if a signal came in between. -/
def waitOne (awaited : Option Nat) : Eval Bool := do
  match ← ask (.wait none true) with
  | .ok (some (id, ending)) =>
      noteEnd awaited id ending
      return true
  | .ok none =>
      noteSignals
      return false
  | .error _ =>
      modify fun s =>
        let close (p : JobProcess) : JobProcess :=
          if p.ending.isSome then p else { p with ending := some (.exited 127) }
        { s with jobs := s.jobs.map fun j => { j with processes := j.processes.map close } }
      return false

/-- Waits until a job is done, and forgets it. -/
def waitJob (number : Nat) : Eval Nat :=
  repeat_ 0 step Act.rounds ()
where
  /-- Waits for one more process. -/
  step (_ : Unit) : Eval (Unit ⊕ Nat) := do
    match ← job? number with
    | none => return .inr 0
    | some j =>
        if isDone j then
          modify fun s => { s with jobs := s.jobs.filter fun k => k.number ≠ number }
          return .inr (jobStatus j)
        else
          let _ ← waitOne (some number)
          return .inl ()

/-- Runs something in a process of its own and waits for it. -/
def runApart
    (runner : Runner)
    (body : Eval Unit) :
    Eval Nat := do
  let id ← fork runner body
  waitJob (← addJob [id] false)

end Eval

end Shell
end Runbook
