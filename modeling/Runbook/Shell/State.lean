import Runbook.Machine.Program
import Runbook.Shell.Syntax

/-!
# The state of a shell

What a shell keeps while it runs: its variables and functions, the parameters of the script, the jobs
it has started, the traps that are set, and how the last command ended. A step of the shell changes
the state, asks the machine, and may break off.
-/

namespace Runbook
namespace Shell

/-- A variable. One without value is only marked. -/
structure Variable where
  value : Option Octets
  exported : Bool
  readonly : Bool
  deriving DecidableEq, Repr, Inhabited

/-- What the commands up to some outer one are skipped for. -/
inductive Skip where
  | none
  | break_ (loops : Nat)
  | continue_ (loops : Nat)
  | return_ (withStatus : Bool)
  deriving DecidableEq, Repr, Inhabited

/-- Why a shell breaks off: after a fault, because it is told to exit, or because it has come to its
end. -/
inductive Raise where
  | error
  | exit
  | end_
  deriving DecidableEq, Repr, Inhabited

/-- A process of a job, with its end once that is known. -/
structure JobProcess where
  id : Nat
  ending : Option Ending
  deriving DecidableEq, Repr, Inhabited

/-- A job: the processes of a pipeline or of another command, and the text of the command. -/
structure Job where
  number : Nat
  processes : List JobProcess
  background : Bool
  waited : Bool
  deriving DecidableEq, Repr, Inhabited

/-- A place in the parameters where options are read: the number of the next parameter, and how many
letters of it are done. -/
structure OptionPlace where
  index : Nat
  offset : Option Nat
  deriving DecidableEq, Repr, Inhabited

/-- The state of a shell. -/
structure State where
  name : Octets
  parameters : List Octets
  bindings : List (Octets × Variable)
  saved : List (List (Octets × Option Variable))
  functions : List (Octets × Command)
  aliases : List (Octets × Octets)
  hashed : List Octets
  documents : List Document
  nextDocument : Nat
  options : List Char
  status : Nat
  substituted : Nat
  savedStatus : Option Nat
  line : Nat
  speaker : Option Octets
  root : Nat
  lastBackground : Option Nat
  jobs : List Job
  traps : List (Nat × Octets)
  pending : List Nat
  skip : Skip
  loops : Nat
  calls : Nat
  optionPlace : OptionPlace
  directory : Octets
  deriving Inhabited

abbrev Eval (α : Type) := ExceptT Raise (StateT State Act) α

/-- How a command is run: whether its end is looked at, and whether nothing follows it in this
process. -/
abbrev Runner := Bool → Bool → Command → Eval Nat

/-- How deep commands may be inside of each other while they run. -/
def maxDepth : Nat := 1000000

namespace Eval

def ask (call : Call) : Eval call.Answer :=
  ExceptT.lift (liftM (m := Act) (n := StateT State Act) (Act.ask call))

/-- Does a part of a program. -/
def act
    {α : Type}
    (a : Act α) :
    Eval α :=
  ExceptT.lift (liftM (m := Act) (n := StateT State Act) a)

/-- Breaks off. -/
def raise
    {α : Type}
    (r : Raise) :
    Eval α :=
  throw r

/-- Sets the status of the last command. -/
def setStatus (status : Nat) : Eval Unit :=
  modify fun s => { s with status := status }

/-- Says something on the stream of errors, with the place in the script. -/
def warn (message : Octets) : Eval Unit := do
  let s ← get
  let speaker := match s.speaker with
    | some name => name ++ ": ".toList
    | none => []
  act (Act.complain
    (s.name ++ ": ".toList ++ Octets.ofNat s.line ++ ": ".toList ++ speaker ++ message ++ ['\n']))

/-- Says something on the stream of errors. -/
def warnText (message : String) : Eval Unit :=
  warn (Octets.ofText message)

/-- Breaks off with a complaint. -/
def fail
    {α : Type}
    (message : Octets) :
    Eval α := do
  setStatus 2
  warn message
  raise .error

/-- Breaks off with a complaint. -/
def failText
    {α : Type}
    (message : String) :
    Eval α :=
  fail (Octets.ofText message)

/-- Does something, and says whether it broke off with a fault. -/
def guarded
    {α : Type}
    (e : Eval α) :
    Eval (Except Raise α) :=
  fun s => do
    let (r, t) ← e.run s
    return (.ok r, t)

/-- Writes to the output. -/
def put (data : Octets) : Eval (Except FileFault Unit) :=
  act (Act.writeTo 1 data)

/-- Does something for each member of a list, in order. -/
def forAll
    {α : Type}
    (step : α → Eval Unit) :
    List α → Eval Unit
  | [] => pure ()
  | a :: rest => do
      step a
      forAll step rest

/-- The results of a step for each member of a list, in order. -/
def forEach
    {α β : Type}
    (step : α → Eval β) :
    List α → Eval (List β)
  | [] => pure []
  | a :: rest => do
      let b ← step a
      return b :: (← forEach step rest)

/-- Repeats a step until it gives a result. -/
def repeat_
    {α β : Type}
    (limit : β)
    (step : α → Eval (α ⊕ β)) :
    Nat → α → Eval β
  | 0, _ => pure limit
  | fuel + 1, a => do
      match ← step a with
      | .inl next => repeat_ limit step fuel next
      | .inr result => return result

end Eval

/-- What a fault is called when a file cannot be opened. -/
def openReason : FileFault → String
  | .noEntry => "No such file"
  | .notDirectory => "No such file"
  | e => e.reason

/-- What a fault is called when a file cannot be made. -/
def createReason : FileFault → String
  | .noEntry => "Directory nonexistent"
  | .notDirectory => "Directory nonexistent"
  | e => e.reason

/-- What a fault is called when a program cannot be started. -/
def startReason : FileFault → String
  | .noEntry => "not found"
  | .notDirectory => "not found"
  | e => e.reason

namespace State

def value?
    (s : State)
    (name : Octets) :
    Option Octets :=
  (s.bindings.lookup name).bind Variable.value

/-- The value of a variable, empty if it has none. -/
def valueOr
    (s : State)
    (name : String)
    (other : Octets) :
    Octets :=
  (s.value? name.toList).getD other

def has
    (s : State)
    (option : Char) :
    Bool :=
  s.options.contains option

def put
    (s : State)
    (name : Octets)
    (v : Variable) :
    State :=
  if s.bindings.any fun e => e.1 = name then
    { s with bindings := s.bindings.map fun e => if e.1 = name then (name, v) else e }
  else { s with bindings := s.bindings ++ [(name, v)] }

/-- The state without a variable. -/
def drop
    (s : State)
    (name : Octets) :
    State :=
  { s with bindings := s.bindings.filter fun e => e.1 ≠ name }

/-- The characters that separate fields. -/
def separators (s : State) : Option Octets :=
  s.value? "IFS".toList

/-- The variables that are handed to programs. -/
def environment (s : State) : Variables :=
  s.bindings.filterMap fun e =>
    if e.2.exported then e.2.value.map fun v => (e.1, v) else none

def path (s : State) : Octets :=
  s.valueOr "PATH" Launch.standardPath

def function?
    (s : State)
    (name : Octets) :
    Option Command :=
  s.functions.lookup name

/-- Whether a trap is set for something that can happen. -/
def hasTraps (s : State) : Bool :=
  s.traps.any fun t => !t.2.isEmpty

end State

namespace Eval

/-- Sets a variable to a value. -/
def assign
    (name value : Octets)
    (exported : Bool) :
    Eval Unit := do
  let s ← get
  let old := (s.bindings.lookup name).getD ⟨none, false, false⟩
  if old.readonly then
    fail (name ++ ": is read only".toList)
  else
    let v : Variable := ⟨some value, old.exported || exported || s.has 'a', false⟩
    set (s.put name v)
    if name = "OPTIND".toList then
      let place : OptionPlace := ⟨((String.ofList value).toNat?).getD 1, none⟩
      modify fun t => { t with optionPlace := place }

/-- Removes a variable. -/
def unset (name : Octets) : Eval Unit := do
  let s ← get
  match s.bindings.lookup name with
  | some v =>
      if v.readonly then fail (name ++ ": is read only".toList)
      else set (s.drop name)
  | none => pure ()

/-- Lets a variable have its present value again when the function or command ends. -/
def makeLocal (name : Octets) : Eval Unit :=
  modify fun s =>
    match s.saved with
    | [] => s
    | frame :: rest =>
        if frame.any fun e => e.1 = name then s
        else { s with saved := ((name, s.bindings.lookup name) :: frame) :: rest }

/-- Begins to note the values that variables have. -/
def pushFrame : Eval Unit :=
  modify fun s => { s with saved := [] :: s.saved }

/-- Gives variables back the values that were noted, until so many notes are left. -/
def popFrames (depth : Nat) : Eval Unit :=
  modify fun s =>
    let count := s.saved.length - depth
    let restore (t : State) (e : Octets × Option Variable) : State :=
      match e.2 with
      | some v => t.put e.1 v
      | none => t.drop e.1
    (s.saved.take count).foldl (fun t frame => frame.foldl restore t)
      { s with saved := s.saved.drop count }

/-- A whole number of digits that a word must be. -/
def number (word : Octets) : Eval Nat :=
  match (String.ofList word).toNat?, word.all Char.isDigit with
  | some n, true =>
      if n < Nat.pow 2 31 then pure n else fail ("Illegal number: ".toList ++ word)
  | _, _ => fail ("Illegal number: ".toList ++ word)

end Eval

end Shell
end Runbook
