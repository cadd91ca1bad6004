import Runbook.Files.Disk
import Runbook.Text.Octets

/-!
# Calls, programs, their questions and their start

What a running program may ask of the machine it runs on, what a process still has to do, and the
questions that programs ask about files. A file that may be run is a tool of the machine, which its
first bytes name, or a script, whose first line names the program that reads it. A program without a
slash in its name is looked for in the directories of the search path.
-/

namespace Runbook

/-!
## Calls

What a running program may ask of the machine it runs on, and the type of the answer to each
question. Descriptors are small numbers that stand for open files.
-/

/-- What an entry of a directory is. -/
inductive NodeKind where
  | file
  | directory
  | link
  | device
  | pipe
  deriving DecidableEq, Repr, Inhabited

/-- What can be known of a file without opening it. Two files are the same if they have the same
identity. -/
structure FileStatus where
  kind : NodeKind
  size : Nat
  mode : Nat
  names : Nat
  identity : Place × Nat
  deriving DecidableEq, Repr, Inhabited

/-- How a file is opened. -/
structure OpenMode where
  readable : Bool
  writable : Bool
  create : Bool
  truncate : Bool
  append : Bool
  exclusive : Bool
  deriving DecidableEq, Repr, Inhabited

namespace OpenMode

def reading : OpenMode :=
  ⟨true, false, false, false, false, false⟩

def writing : OpenMode :=
  ⟨false, true, true, true, false, false⟩

/-- For writing behind all that is there. -/
def appending : OpenMode :=
  ⟨false, true, true, false, true, false⟩

/-- For reading and writing. -/
def both : OpenMode :=
  ⟨true, true, true, false, false, false⟩

/-- For writing to a file that must not be there. -/
def fresh : OpenMode :=
  ⟨false, true, true, false, false, true⟩

end OpenMode

/-- How a process ended. -/
inductive Ending where
  | exited (status : Nat)
  | signalled (signal : Nat)
  deriving DecidableEq, Repr, Inhabited

/-- What a process does about a signal. -/
inductive Disposition where
  | default
  | ignore
  | catch_
  deriving DecidableEq, Repr, Inhabited

/-- What a program asks for. Times are in microseconds. -/
inductive Call where
  | read (descriptor count : Nat)
  | readLine (descriptor : Nat)
  | write (descriptor : Nat) (data : Octets)
  | openFile (path : Octets) (mode : OpenMode)
  | close (descriptor : Nat)
  | copy (source target : Nat)
  | save (descriptor : Nat)
  | pipe
  | seekBack (descriptor count : Nat)
  | truncate (descriptor size : Nat)
  | status (path : Octets) (final : Bool)
  | statusOf (descriptor : Nat)
  | list (path : Octets)
  | makeDirectory (path : Octets)
  | removeDirectory (path : Octets)
  | remove (path : Octets)
  | rename (source target : Octets)
  | symlink (content path : Octets)
  | hardLink (source path : Octets)
  | targetOf (path : Octets)
  | permit (path : Octets) (mode : Nat)
  | enter (path : Octets)
  | here
  | image (path : Octets)
  | begin_
  | mask (new : Option Nat)
  | sleep (time : Nat)
  | clock
  | wait (process : Option Nat) (hang : Bool)
  | kill (process signal : Nat)
  | self
  | parent
  | dispose (signal : Nat) (what : Disposition)
  | disposition (signal : Nat)
  | signals
  deriving Inhabited

def Call.Answer : Call → Type
  | .read _ _ => Except FileFault Octets
  | .readLine _ => Except FileFault Octets
  | .write _ _ => Except FileFault Unit
  | .openFile _ _ => Except FileFault Nat
  | .close _ => Except FileFault Unit
  | .copy _ _ => Except FileFault Unit
  | .save _ => Except FileFault Nat
  | .pipe => Nat × Nat
  | .seekBack _ _ => Except FileFault Unit
  | .truncate _ _ => Except FileFault Unit
  | .status _ _ => Except FileFault FileStatus
  | .statusOf _ => Except FileFault FileStatus
  | .list _ => Except FileFault (List Octets)
  | .makeDirectory _ => Except FileFault Unit
  | .removeDirectory _ => Except FileFault Unit
  | .remove _ => Except FileFault Unit
  | .rename _ _ => Except FileFault Unit
  | .symlink _ _ => Except FileFault Unit
  | .hardLink _ _ => Except FileFault Unit
  | .targetOf _ => Except FileFault Octets
  | .permit _ _ => Except FileFault Unit
  | .enter _ => Except FileFault Unit
  | .here => Octets
  | .image _ => Except FileFault Octets
  | .begin_ => Unit
  | .mask _ => Nat
  | .sleep _ => Unit
  | .clock => Nat
  | .wait _ _ => Except FileFault (Option (Nat × Ending))
  | .kill _ _ => Except FileFault Unit
  | .self => Nat
  | .parent => Nat
  | .dispose _ _ => Unit
  | .disposition _ => Disposition
  | .signals => List Nat

/-!
## Programs

A program is what a process still has to do: to end, or to ask the machine something and to go on
with the answer, or to start a second process that has the same files open. Programs are put
together from acts, which hand a result to what follows them.
-/

/-- What a process still has to do. -/
inductive Program where
  | exit (status : Nat)
  | ask (call : Call) (next : call.Answer → Program)
  | fork (child : Program) (next : Nat → Program)

instance : Inhabited Program :=
  ⟨.exit 0⟩

/-- A part of a program that leads to a result. -/
def Act (α : Type) : Type :=
  (α → Program) → Program

namespace Act

instance : Monad Act where
  pure a := fun next => next a
  bind first rest := fun next => first fun a => rest a next

instance {α : Type} [Inhabited α] : Inhabited (Act α) :=
  ⟨pure default⟩

def ask (call : Call) : Act call.Answer :=
  fun next => .ask call next

/-- Starts a second process and gives its number. -/
def fork (child : Program) : Act Nat :=
  fun next => .fork child next

/-- Ends the process, whatever was to follow. -/
def exit
    {α : Type}
    (status : Nat) :
    Act α :=
  fun _ => .exit status

/-- The program of an act that ends with an exit status. -/
def toProgram (act : Act Nat) : Program :=
  act .exit

/-- How often a loop may go round that reads a stream to its end. -/
def rounds : Nat := 100000000

/-- How many bytes are asked for at a time. -/
def chunk : Nat := 65536

/-- Writes to a descriptor; nothing to write asks for nothing. -/
def writeTo
    (descriptor : Nat)
    (data : Octets) :
    Act (Except FileFault Unit) :=
  if data.isEmpty then pure (.ok ()) else ask (.write descriptor data)

/-- Writes to the output. -/
def put (data : Octets) : Act Unit := do
  let _ ← writeTo 1 data

/-- Writes a text to the output. -/
def putText (text : String) : Act Unit :=
  put (Octets.ofText text)

/-- Writes to the stream of errors. -/
def complain (data : Octets) : Act Unit := do
  let _ ← writeTo 2 data

/-- Reads a descriptor to its end, behind chunks that are held in reverse. -/
def readRest
    (descriptor : Nat) :
    Nat → List Octets → Act (Except FileFault Octets)
  | 0, done => pure (.ok done.reverse.flatten)
  | fuel + 1, done => do
      match ← ask (.read descriptor chunk) with
      | .error e => return .error e
      | .ok [] => return .ok done.reverse.flatten
      | .ok data => readRest descriptor fuel (data :: done)

def readAll (descriptor : Nat) : Act (Except FileFault Octets) :=
  readRest descriptor rounds []

def readFile (path : Octets) : Act (Except FileFault Octets) := do
  match ← ask (.openFile path .reading) with
  | .error e => return .error e
  | .ok descriptor =>
      let data ← readAll descriptor
      let _ ← ask (.close descriptor)
      return data

/-- Lets a file at a path hold data. -/
def writeFile
    (path : Octets)
    (data : Octets) :
    Act (Except FileFault Unit) := do
  match ← ask (.openFile path .writing) with
  | .error e => return .error e
  | .ok descriptor =>
      let done ← writeTo descriptor data
      let _ ← ask (.close descriptor)
      return done

/-- What is known of the file at a path, through links. -/
def statusAt? (path : Octets) : Act (Option FileStatus) := do
  match ← ask (.status path true) with
  | .ok s => return some s
  | .error _ => return none

/-- What is known of the entry at a path, which may be a link. -/
def entryAt? (path : Octets) : Act (Option FileStatus) := do
  match ← ask (.status path false) with
  | .ok s => return some s
  | .error _ => return none

def isDirectory (path : Octets) : Act Bool := do
  return ((← statusAt? path).map FileStatus.kind) = some .directory

/-- Does something for each member of a list, in order. -/
def forAll
    {α : Type}
    (act : α → Act Unit) :
    List α → Act Unit
  | [] => pure ()
  | a :: rest => do
      act a
      forAll act rest

/-- Goes through a list with a value that changes on the way. -/
def foldAll
    {α β : Type}
    (act : β → α → Act β) :
    β → List α → Act β
  | b, [] => pure b
  | b, a :: rest => do foldAll act (← act b a) rest

/-- Repeats a step until it gives a result. -/
def repeat_
    {α β : Type}
    (limit : β)
    (step : α → Act (α ⊕ β)) :
    Nat → α → Act β
  | 0, _ => pure limit
  | fuel + 1, a => do
      match ← step a with
      | .inl next => repeat_ limit step fuel next
      | .inr result => return result

end Act

/-!
## Questions about files

What conditions ask about the file at a path: whether it is there, of what kind it is, and what may be
done with it.
-/

namespace Inquiry

def holds
    (letter : Char)
    (s : FileStatus) :
    Bool :=
  match letter with
  | 'e' => true
  | 'f' => s.kind = .file
  | 'd' => s.kind = .directory
  | 'h' => s.kind = .link
  | 'L' => s.kind = .link
  | 'p' => s.kind = .pipe
  | 'c' => s.kind = .device
  | 's' => 0 < s.size
  | 'r' => true
  | 'w' => true
  | 'x' => s.kind = .directory || s.mode &&& 0o111 ≠ 0
  | 'u' => s.mode &&& 0o4000 ≠ 0
  | 'g' => s.mode &&& 0o2000 ≠ 0
  | 'k' => s.mode &&& 0o1000 ≠ 0
  | 'O' => true
  | 'G' => true
  | _ => false

def letters : List Char :=
  "efdhLpcsrwxugkOGbSN".toList

def ask
    (letter : Char)
    (path : Octets) :
    Act Bool := do
  let isLink := letter = 'h' || letter = 'L'
  match ← Act.ask (.status path (!isLink)) with
  | .ok s => return holds letter s
  | .error _ => return false

/-- Whether two paths lead to one file. -/
def isSame (a b : Octets) : Act Bool := do
  match ← Act.statusAt? a, ← Act.statusAt? b with
  | some s, some t => return s.identity = t.identity
  | _, _ => return false

end Inquiry
end Runbook

/-! ## Starting programs -/

namespace Runbook

abbrev Variables := List (Octets × Octets)

/-- What a program is started with. -/
structure Start where
  name : Octets
  arguments : List Octets
  environment : Variables
  deriving Repr, Inhabited

/-- Puts the program at a path in the place of a process. An answer says why that is not possible. -/
abbrev Launcher := Octets → Start → Act FileFault

/-- What a tool does when it is started. Its result is the exit status. -/
abbrev Tool := Launcher → Start → Act Nat

namespace Launch

/-- The first bytes of a tool, before its name. -/
def mark : Octets :=
  '\x7f' :: "ELF".toList

/-- What a tool is stored as. -/
def imageOf (name : String) : Content :=
  .text (String.ofList (mark ++ name.toList))

/-- What makes a script out of a text. -/
def scriptMark : Octets :=
  "#!".toList

/-- Blanks of one line. -/
def isGap (c : Char) : Bool :=
  c = ' ' || c = '\t'

/-- The program that reads a script, and an argument for it, from the first line. -/
def interpreter? (image : Octets) : Option (Octets × List Octets) :=
  match Text.dropPrefix? scriptMark image with
  | none => none
  | some rest =>
      let line := (rest.takeWhile (· ≠ '\n')).dropWhile isGap
      let program := line.takeWhile fun c => !isGap c
      let behind := ((line.drop program.length).dropWhile isGap).reverse.dropWhile isGap
      if program.isEmpty then none
      else some (program, if behind.isEmpty then [] else [behind.reverse])

/-- Puts the program at a path in the place of a process, where scripts may be read by scripts only
so often. -/
def launch (tools : Octets → Option Tool) : Nat → Launcher
  | 0 => fun _ _ => pure .tooManyLinks
  | fuel + 1 => fun path start => do
      match ← Act.ask (.image path) with
      | .error e => return e
      | .ok image =>
          match Text.dropPrefix? mark image with
          | some name =>
              match tools name with
              | none => return .notRunnable
              | some tool =>
                  Act.ask .begin_
                  Act.exit (← tool (launch tools fuel) start)
          | none =>
              match interpreter? image with
              | none => return .notRunnable
              | some (program, more) =>
                  launch tools fuel program
                    { start with name := program, arguments := more ++ path :: start.arguments }

/-- How deep programs may start programs. -/
def depth : Nat := 10000

/-- Where programs are looked for when nothing else is said. -/
def standardPath : Octets :=
  "/usr/local/sbin:/usr/local/bin:/usr/sbin:/usr/bin:/sbin:/bin".toList

def searchPath (environment : Variables) : List Octets :=
  Octets.splitOn ':' ((environment.lookup "PATH".toList).getD standardPath)

/-- A name in a directory; the empty directory is the one a process works in. -/
def under (directory name : Octets) : Octets :=
  if directory.isEmpty then name else directory ++ '/' :: name

/-- Whether a fault says that there is no such program here, so that the search goes on. -/
def isMissing (e : FileFault) : Bool :=
  e = .noEntry || e = .notDirectory

/-- Tries the directories of the search path one after the other. -/
def trySearch
    (launcher : Launcher)
    (start : Start)
    (name : Octets)
    (worst : FileFault) :
    List Octets → Act FileFault
  | [] => pure worst
  | directory :: rest => do
      match ← launcher (under directory name) start with
      | .denied => trySearch launcher start name .denied rest
      | e => if isMissing e then trySearch launcher start name worst rest else return e

/-- Puts a program in the place of a process, found by the search path unless its name has a
slash. -/
def run
    (launcher : Launcher)
    (program : Octets)
    (start : Start) :
    Act FileFault :=
  if program.isEmpty then pure .noEntry
  else if program.contains '/' then launcher program start
  else if Disk.maxName < program.length then pure .nameTooLong
  else trySearch launcher start program .noEntry (searchPath start.environment)

end Launch

end Runbook
