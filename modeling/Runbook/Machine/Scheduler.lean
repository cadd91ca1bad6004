import Runbook.Machine.Entries
import Runbook.Machine.Basic

/-!
# Scheduling

The processes of a machine take turns. Each goes on until it has to wait or its turn is over; when
all of them wait, the clock moves on to the time at which the first one wakes up. Every call takes
some time, so no process can go on for ever before a given time.
-/

namespace Runbook
namespace Machine

def costOf : Call → Nat
  | .begin_ => 600
  | _ => 2

/-- How long it takes to start a process. -/
def forkCost : Nat := 150

/-- The time at which every machine begins: the first of January 2026, in microseconds. -/
def dawn : Nat := 1767225600000000

/-- Answers a call that waits for time to pass. -/
def serveSleep
    (m : Machine)
    (p : Process)
    (time : Nat) :
    Served Unit :=
  match p.wake with
  | none => .waits { p with wake := some (m.jobs.clock + time) }
  | some t =>
      if t ≤ m.jobs.clock || !p.pending.isEmpty then .done m { p with wake := none } ()
      else .waits p

/-- Answers a call that waits for a child to end. -/
def serveWait
    (m : Machine)
    (p : Process)
    (which : Option Nat)
    (hang : Bool) :
    Served (Except FileFault (Option (Nat × Ending))) :=
  match endedChild m p.id which with
  | (some e, _) => .done (m.forget e.id) p (.ok (some (e.id, e.ending)))
  | (none, false) => .done m p (.error .noChild)
  | (none, true) =>
      if hang && p.pending.isEmpty then .waits p else .done m p (.ok none)

/-- Answers a call that sends a signal. -/
def serveKill
    (m : Machine)
    (p : Process)
    (id number : Nat) :
    Served (Except FileFault Unit) :=
  if id = p.id then
    if number = 0 then .done m p (.ok ())
    else
      match told? number p with
      | some q => .done m q (.ok ())
      | none => .dies number
  else if (m.process? id).isSome then
    .done (if number = 0 then m else m.signal number id) p (.ok ())
  else if m.jobs.ended.any fun e => e.id = id then .done m p (.ok ())
  else .done m p (.error .noProcess)

/-- A process with another way to deal with a signal. -/
def disposed
    (p : Process)
    (number : Nat)
    (what : Disposition) :
    Process :=
  let caught := p.caught.filter (· ≠ number)
  let ignored := p.ignored.filter (· ≠ number)
  match what with
  | .default => { p with caught := caught, ignored := ignored }
  | .ignore => { p with caught := caught, ignored := number :: ignored }
  | .catch_ => { p with caught := number :: caught, ignored := ignored }

/-- How a process deals with a signal. -/
def dispositionOf
    (p : Process)
    (number : Nat) :
    Disposition :=
  if p.ignored.contains number then .ignore
  else if p.caught.contains number then .catch_
  else .default

/-- The descriptors from here on are not handed to a program that takes the place of another one. -/
def firstPrivate : Nat := 10

/-- A process that starts another program. -/
def begun (p : Process) : Process :=
  { p with
    caught := []
    pending := []
    descriptors := p.descriptors.filter fun e => e.1 < firstPrivate }

/-- A pipe with its two ends. -/
def serveOpenPipe
    (m : Machine)
    (p : Process) :
    Served (Nat × Nat) :=
  let number := m.jobs.nextFile
  let n : Machine := { m.setPipe number [] with
    jobs := { (m.setPipe number []).jobs with nextFile := number + 1 } }
  let (n, out) := n.addFile ⟨.pipe number, 0, .reading⟩
  let (n, into) := n.addFile ⟨.pipe number, 0, { OpenMode.appending with append := false }⟩
  let first := p.free
  let p := p.with_ first out
  let second := p.free
  .done n (p.with_ second into) (first, second)

/-- Lets a descriptor stand for what another one stands for. -/
def serveCopy
    (m : Machine)
    (p : Process)
    (source target : Nat) :
    Served (Except FileFault Unit) :=
  match p.file? source with
  | some number => .done m (p.with_ target number) (.ok ())
  | none => .done m p (.error .badDescriptor)

/-- Gives what a descriptor stands for a private descriptor too. -/
def serveSave
    (m : Machine)
    (p : Process)
    (descriptor : Nat) :
    Served (Except FileFault Nat) :=
  match p.file? descriptor with
  | some number =>
      let free := p.freeFrom (p.descriptors.length + 1) firstPrivate
      .done m (p.with_ free number) (.ok free)
  | none => .done m p (.error .badDescriptor)

/-- The path of the directory that a process works in. -/
def serveHere
    (m : Machine)
    (p : Process) :
    Octets :=
  match m.disk.get? p.directory with
  | some _ => pathOf p.directory
  | none => []

/-- Moves a file; the directory that the process works in may move with it. -/
def serveRename
    (m : Machine)
    (p : Process)
    (source target : Octets) :
    Served (Except FileFault Unit) :=
  match rename m p source target with
  | .error e => .done m p (.error e)
  | .ok n =>
      let directory := ((n.process? p.id).map Process.directory).getD p.directory
      .done n { p with directory := directory } (.ok ())

/-- Changes the directory that a process works in. -/
def serveEnter
    (m : Machine)
    (p : Process)
    (path : Octets) :
    Served (Except FileFault Unit) :=
  match directoryAt m p path with
  | .error e => .done m p (.error e)
  | .ok place => .done m { p with directory := place } (.ok ())

def serve
    (m : Machine)
    (p : Process) :
    (c : Call) → Served c.Answer
  | .read d count => readFrom m p d (some count)
  | .readLine d => readFrom m p d none
  | .write d data => writeTo m p d data
  | .openFile path mode => openAt m p path mode
  | .close d => closeOne m p d
  | .copy source target => serveCopy m p source target
  | .save d => serveSave m p d
  | .pipe => serveOpenPipe m p
  | .seekBack d count => onFile m p d (seekBack m count)
  | .truncate d size => onFile m p d (resize m size)
  | .status path final => .done m p (statusOfPath m p path final)
  | .statusOf d => .done m p (statusOfDescriptor m p d)
  | .list path => .done m p (namesIn m p path)
  | .makeDirectory path => changed m p (makeDirectory m p path)
  | .removeDirectory path => changed m p (removeDirectory m p path)
  | .remove path => changed m p (removeFile m p path)
  | .rename source target => serveRename m p source target
  | .symlink content path => changed m p (symlink m p content path)
  | .hardLink source path => changed m p (hardLink m p source path)
  | .targetOf path => .done m p (targetOf m p path)
  | .permit path mode => changed m p (permit m p path mode)
  | .enter path => serveEnter m p path
  | .here => .done m p (serveHere m p)
  | .image path => .done m p (imageAt m p path)
  | .begin_ => .done m (begun p) ()
  | .mask none => .done m p p.mask
  | .mask (some new) => .done m { p with mask := new } p.mask
  | .sleep time => serveSleep m p time
  | .clock => .done m p (dawn + m.jobs.clock)
  | .wait which hang => serveWait m p which hang
  | .kill id number => serveKill m p id number
  | .self => .done m p p.id
  | .parent => .done m p p.parent
  | .dispose number what => .done m (disposed p number what) ()
  | .disposition number => .done m p (dispositionOf p number)
  | .signals => .done m { p with pending := [] } p.pending

/-- The process that a program starts beside its own one. -/
def forked
    (m : Machine)
    (p : Process)
    (child : Program) :
    Machine × Nat :=
  let id := m.jobs.nextId
  let q := { p with id := id, parent := p.id, program := child, wake := none, pending := [] }
  ({ m with jobs := { m.jobs with nextId := id + 1, processes := m.jobs.processes ++ [q] } }, id)

def endsTurn : Call → Bool
  | .begin_ => true
  | _ => false

/-- Lets a process go on for so many calls, up to a given time. The flag says whether it got on at
all. -/
def go
    (limit : Nat)
    (m : Machine)
    (p : Process) :
    Nat → Bool → Machine × Bool
  | 0, moved => (m.setProcess p, moved)
  | fuel + 1, moved =>
      if limit ≤ m.jobs.clock then (m.setProcess p, moved)
      else
        match p.program with
        | .exit status => (m.end_ p (.exited (status % 256)), true)
        | .fork child next =>
            let (n, id) := forked m p child
            let q := { p with program := next id }
            go limit ((n.setProcess q).pass forkCost) q fuel true
        | .ask call next =>
            match serve m p call with
            | .waits q => (m.setProcess q, moved)
            | .dies number => (m.end_ p (.signalled number), true)
            | .done n q a =>
                let r := { q with program := next a }
                let after := (n.setProcess r).pass (costOf call)
                if endsTurn call then (after, true) else go limit after r fuel true

/-- How many calls a turn has. -/
def turnLength : Nat := 4000

/-- Gives each of some processes a turn, if it still runs. -/
def round
    (limit : Nat)
    (m : Machine) :
    List Nat → Bool → Machine × Bool
  | [], moved => (m, moved)
  | id :: rest, moved =>
      match m.process? id with
      | none => round limit m rest moved
      | some p =>
          let (n, got) := go limit m p turnLength false
          round limit n rest (moved || got)

/-- The time at which the first sleeping process wakes up. -/
def nextWake? (m : Machine) : Option Nat :=
  m.jobs.processes.foldl
    (fun least p =>
      match least, p.wake with
      | some a, some b => some (min a b)
      | none, some b => some b
      | a, none => a)
    none

/-- Lets a machine run until something is so, or until a given time. -/
def runUntil
    (limit : Nat)
    (isDone : Machine → Bool) :
    Nat → Machine → Machine
  | 0, m => m
  | fuel + 1, m =>
      if isDone m || limit ≤ m.jobs.clock then m
      else
        match round limit m (m.jobs.processes.map Process.id) false with
        | (n, true) => runUntil limit isDone fuel n
        | (n, false) =>
            let time := match nextWake? n with
              | some t => min (max t n.jobs.clock) limit
              | none => limit
            runUntil limit isDone fuel { n with jobs := { n.jobs with clock := time } }

end Machine
end Runbook
