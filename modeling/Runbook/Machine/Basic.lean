import Runbook.Machine.Program
import Runbook.Text.Octets

/-!
# The machine

A machine runs processes over one disk. It keeps the open files that descriptors stand for, the pipes
between processes, what was written to captured streams, the processes with what they still have to
do, those that ended and are not yet asked about, and a clock of microseconds. Signals have names, and
each does something to a process.
-/

namespace Runbook

/-- Where the bytes of an open file are. A file that lost its name keeps them itself. -/
inductive Source where
  | file (place : Place)
  | nameless (content : Content)
  | directory (place : Place)
  | device (kind : Device)
  | pipe (number : Nat)
  | captured (number : Nat)
  deriving Repr, Inhabited

/-- An open file, with the place where it is read or written next. -/
structure OpenFile where
  source : Source
  offset : Nat
  mode : OpenMode
  deriving Repr, Inhabited

/-- A running process. `wake` is the time it sleeps until. -/
structure Process where
  id : Nat
  parent : Nat
  program : Program
  descriptors : List (Nat × Nat)
  directory : Place
  mask : Nat
  wake : Option Nat
  caught : List Nat
  ignored : List Nat
  pending : List Nat
  deriving Inhabited

/-- A process that ended and was not asked about yet. -/
structure Ended where
  id : Nat
  parent : Nat
  ending : Ending
  deriving DecidableEq, Repr, Inhabited

/-- What is under way on a machine, the disk apart. -/
structure Jobs where
  clock : Nat
  nextId : Nat
  nextFile : Nat
  files : List (Nat × OpenFile)
  pipes : List (Nat × List Octets)
  captures : List (Nat × List Octets)
  processes : List Process
  ended : List Ended
  deriving Inhabited

/-- Nothing under way. -/
def Jobs.none : Jobs :=
  ⟨0, 100, 0, [], [], [], [], []⟩

/-- A disk and what is under way on it. -/
structure Machine where
  disk : Disk
  jobs : Jobs
  deriving Inhabited

namespace Process

/-- The number of the open file that a descriptor stands for. -/
def file?
    (p : Process)
    (descriptor : Nat) :
    Option Nat :=
  p.descriptors.lookup descriptor

/-- The process with a descriptor that stands for an open file. -/
def with_
    (p : Process)
    (descriptor number : Nat) :
    Process :=
  { p with
    descriptors := (descriptor, number) :: p.descriptors.filter fun e => e.1 ≠ descriptor }

def without
    (p : Process)
    (descriptor : Nat) :
    Process :=
  { p with descriptors := p.descriptors.filter fun e => e.1 ≠ descriptor }

/-- The smallest descriptor not in use that is not below another one. -/
def freeFrom
    (p : Process) :
    Nat → Nat → Nat
  | 0, least => least
  | fuel + 1, least =>
      if (p.file? least).isSome then freeFrom p fuel (least + 1) else least

/-- The smallest descriptor not in use. -/
def free (p : Process) : Nat :=
  p.freeFrom (p.descriptors.length + 1) 0

end Process

namespace Machine

/-- Changes an entry of a list of numbered things. -/
def setAt
    {α : Type}
    (number : Nat)
    (a : α)
    (entries : List (Nat × α)) :
    List (Nat × α) :=
  (number, a) :: entries.filter fun e => e.1 ≠ number

def file?
    (m : Machine)
    (number : Nat) :
    Option OpenFile :=
  m.jobs.files.lookup number

def setFile
    (m : Machine)
    (number : Nat)
    (f : OpenFile) :
    Machine :=
  { m with jobs := { m.jobs with files := setAt number f m.jobs.files } }

/-- The machine with one more open file, and its number. -/
def addFile
    (m : Machine)
    (f : OpenFile) :
    Machine × Nat :=
  let number := m.jobs.nextFile
  ({ m with jobs := { m.jobs with files := (number, f) :: m.jobs.files, nextFile := number + 1 } },
    number)

def pass
    (m : Machine)
    (time : Nat) :
    Machine :=
  { m with jobs := { m.jobs with clock := m.jobs.clock + time } }

def onDisk
    (m : Machine)
    (d : Disk) :
    Machine :=
  { m with disk := d }

def isPipeEnd
    (number : Nat)
    (writing : Bool)
    (f : OpenFile) :
    Bool :=
  match f.source with
  | .pipe n => n = number && (if writing then f.mode.writable else f.mode.readable)
  | _ => false

def anyOpen
    (m : Machine)
    (processes : List Process)
    (property : OpenFile → Bool) :
    Bool :=
  processes.any fun p => p.descriptors.any fun e => (m.file? e.2).any property

/-- Forgets open files that no process has, and pipes that no open file is an end of. -/
def tidy (m : Machine) : Machine :=
  let used := m.jobs.processes.flatMap fun p => p.descriptors.map Prod.snd
  let files := m.jobs.files.filter fun e => used.contains e.1
  let isUsed (number : Nat) : Bool := files.any fun e =>
    match e.2.source with
    | .pipe n => n = number
    | _ => false
  { m with
    jobs := { m.jobs with files := files, pipes := m.jobs.pipes.filter fun e => isUsed e.1 } }

def isBelow (above place : Place) : Bool :=
  above.isPrefixOf place

/-- Lets open files keep what they hold when what is at a place loses its name. -/
def detach
    (m : Machine)
    (place : Place) :
    Machine :=
  let keep (f : OpenFile) : OpenFile :=
    match f.source with
    | .file p =>
        if isBelow place p then
          match m.disk.get? p with
          | some (.file c _) => { f with source := .nameless c }
          | _ => { f with source := .nameless (.text "") }
        else f
    | _ => f
  { m with jobs := { m.jobs with files := m.jobs.files.map fun e => (e.1, keep e.2) } }

/-- Lets open files and working directories follow what is moved from one place to another. -/
def relocate
    (m : Machine)
    (source target : Place) :
    Machine :=
  let moved (p : Place) : Place :=
    if isBelow source p then target ++ p.drop source.length else p
  let follow (f : OpenFile) : OpenFile :=
    match f.source with
    | .file p => { f with source := .file (moved p) }
    | .directory p => { f with source := .directory (moved p) }
    | _ => f
  { m with
    jobs :=
      { m.jobs with
        files := m.jobs.files.map fun e => (e.1, follow e.2)
        processes := m.jobs.processes.map fun p => { p with directory := moved p.directory } } }

end Machine

/-!
## Names of signals

The names that signals go by, in the order of their numbers.
-/

namespace SignalName

/-- The names of the first signals, from the first one on. A signal without a name is written as its
number. -/
def first : List String :=
  [ "HUP", "INT", "QUIT", "ILL", "TRAP", "ABRT", "BUS", "FPE", "KILL", "USR1", "SEGV", "USR2",
    "PIPE", "ALRM", "TERM", "16", "CHLD", "CONT", "STOP", "TSTP", "TTIN", "TTOU", "URG", "XCPU",
    "XFSZ", "VTALRM", "PROF", "WINCH", "IO", "PWR", "SYS", "32", "33", "RTMIN" ]

/-- The names of all signals, from the first one on. -/
def all : List String :=
  first ++ (List.range 15).map (fun n => s!"RTMIN+{n + 1}") ++
    (List.range 14).map (fun n => s!"RTMAX-{14 - n}") ++ ["RTMAX"]

/-- How many signals there are. -/
def count : Nat := 65

/-- The name of a signal. -/
def of (number : Nat) : String :=
  (all[number - 1]?).getD (toString number)

/-- The signal of a name, in any case of letters. -/
def number? (name : Octets) : Option Nat :=
  let upper := String.ofList (name.map Char.toUpper)
  (all.findIdx? fun n => n = upper).map (· + 1)

end SignalName

/-!
## Signals and ends of processes

A signal ends a process unless the process ignores it or catches it; a few signals do nothing by
themselves. The end of a process is kept until its parent asks about it.
-/

namespace Machine

/-- The process that takes over those whose parent has ended. -/
def firstProcess : Nat := 1

/-- The signals that do nothing unless they are caught: a child ended, go on, urgent data, another
window size, and the stops, since nothing stops here. -/
def quietSignals : List Nat :=
  [17, 18, 19, 20, 21, 22, 23, 28]

/-- The signal that cannot be caught. -/
def killSignal : Nat := 9

def end_
    (m : Machine)
    (p : Process)
    (ending : Ending) :
    Machine :=
  let others := (m.jobs.processes.filter fun q => q.id ≠ p.id).map fun q =>
    if q.parent = p.id then { q with parent := firstProcess } else q
  let left := m.jobs.ended.filter fun e => e.parent ≠ p.id
  let isAwaited := p.parent = 0 || others.any fun q => q.id = p.parent
  let ended := if isAwaited then left ++ [⟨p.id, p.parent, ending⟩] else left
  tidy { m with jobs := { m.jobs with processes := others, ended := ended } }

/-- A process that is told of a signal it catches, or that passes one over; `none` if the signal ends
it. -/
def told?
    (signal : Nat)
    (p : Process) :
    Option Process :=
  if signal = killSignal then none
  else if p.ignored.contains signal then some p
  else if p.caught.contains signal then some { p with pending := p.pending ++ [signal] }
  else if quietSignals.contains signal then some p
  else none

def setProcess
    (m : Machine)
    (p : Process) :
    Machine :=
  { m with
    jobs := { m.jobs with processes := m.jobs.processes.map fun q => if q.id = p.id then p else q } }

/-- The running process with a number. -/
def process?
    (m : Machine)
    (id : Nat) :
    Option Process :=
  m.jobs.processes.find? fun p => p.id = id

/-- Sends a signal to a process. -/
def signal
    (m : Machine)
    (number : Nat)
    (id : Nat) :
    Machine :=
  match m.process? id with
  | none => m
  | some p =>
      match told? number p with
      | some q => m.setProcess q
      | none => m.end_ p (.signalled number)

/-- What is known of the children of a process: one that ended, if there is one to be told of, or
whether there is anything to wait for. -/
def endedChild
    (m : Machine)
    (parent : Nat)
    (which : Option Nat) :
    Option Ended × Bool :=
  let isMeant (id : Nat) : Bool := match which with
    | some n => n = id
    | none => true
  let found := m.jobs.ended.find? fun e => e.parent = parent && isMeant e.id
  let running := m.jobs.processes.any fun p => p.parent = parent && isMeant p.id
  (found, running)

/-- Forgets the end of a process. -/
def forget
    (m : Machine)
    (id : Nat) :
    Machine :=
  { m with jobs := { m.jobs with ended := m.jobs.ended.filter fun e => e.id ≠ id } }

end Machine
end Runbook
