import Runbook.Machine.Basic
import Runbook.Shell.Builtin.Basic

/-!
# Built-in commands for scripts and jobs

What changes the flow of a script, and what deals with the processes it has started.
-/

namespace Runbook
namespace Shell
namespace Builtin

/-!
## Built-in commands for the flow of a script

Leaving loops, functions and the shell itself, running texts and scripts, and setting traps.
-/

/-- Does nothing, well. -/
def succeed (special : Bool) : Builtin :=
  ⟨special, false, fun _ _ => return 0⟩

def failing : Builtin :=
  plain fun _ => return 1

/-- Skips commands up to the end of a loop. -/
def leaveLoop (skip : Nat → Skip) : Builtin :=
  special_ fun arguments => do
    let count ← match arguments with
      | [] => pure 1
      | a :: _ => do
          let n ← Eval.number a
          if n = 0 then Eval.fail ("Illegal number: ".toList ++ a)
          pure n
    let n := min count (← get).loops
    if 0 < n then modify fun s => { s with skip := skip n }
    return 0

/-- Skips commands up to the end of a function or a script. -/
def return_ : Builtin :=
  special_ fun arguments => do
    match arguments with
    | a :: _ =>
        let status ← Eval.number a
        modify fun s => { s with skip := .return_ true }
        return status
    | [] =>
        modify fun s => { s with skip := .return_ false }
        return (← get).status

def exit : Builtin :=
  special_ fun arguments => do
    match arguments with
    | a :: _ =>
        let status ← Eval.number a
        modify fun s => { s with savedStatus := some status }
    | [] => pure ()
    Eval.raise .exit

/-- Runs its arguments as a text. -/
def eval : Builtin :=
  ⟨true, false, fun runner arguments =>
    Eval.runText runner false (Octets.intercalate [' '] arguments)⟩

def scriptPath (name : Octets) : Eval Octets := do
  if name.contains '/' then return name
  else
    let under := (Octets.splitOn ':' (← get).path).map fun d => Launch.under d name
    match ← firstFile under with
    | some path => return path
    | none => Eval.fail (name ++ ": not found".toList)
where
  /-- The first of some paths that leads to a file. -/
  firstFile : List Octets → Eval (Option Octets)
    | [] => return none
    | path :: rest => do
        match ← Eval.act (Act.statusAt? path) with
        | some s => if s.kind = .file then return some path else firstFile rest
        | none => firstFile rest

/-- Runs a script in this shell. -/
def dot : Builtin :=
  ⟨true, false, fun runner arguments => do
    match (← options "" arguments).2 with
    | [] => return 0
    | name :: _ =>
        let path ← scriptPath name
        match ← Eval.act (Act.readFile path) with
        | .error e =>
            Eval.fail ("cannot open ".toList ++ path ++ ": ".toList ++ (openReason e).toList)
        | .ok text =>
            modify fun s => { s with speaker := some path }
            let status ← Eval.runText runner false text
            modify fun s =>
              match s.skip with
              | .return_ _ => { s with skip := .none }
              | _ => s
            return status⟩

/-- The signal that a word names: by number or by name, from a given one on. -/
def signal?
    (least : Nat)
    (word : Octets) :
    Option Nat :=
  if !word.isEmpty && word.all Char.isDigit then
    ((String.ofList word).toNat?).bind fun n => if n < SignalName.count then some n else none
  else if least = 0 && word.map Char.toUpper = "EXIT".toList then some 0
  else SignalName.number? word

/-- Sets what is done about a signal; `none` takes the trap back. -/
def setTrap
    (action : Option Octets)
    (signal : Nat) :
    Eval Unit := do
  modify fun s =>
    let others := s.traps.filter fun t => t.1 ≠ signal
    { s with traps := match action with
      | some text => (signal, text) :: others
      | none => others }
  if signal ≠ 0 then
    let what : Disposition := match action with
      | none => .default
      | some [] => .ignore
      | some _ => .catch_
    Eval.ask (.dispose signal what)

/-- Sets traps for signals, as far as their names are known. -/
def setTraps (action : Option Octets) : List Octets → Eval Nat
  | [] => return 0
  | word :: rest => do
      match signal? 0 word with
      | some signal =>
          setTrap action signal
          setTraps action rest
      | none =>
          Eval.act (Act.complain ("trap: ".toList ++ word ++ ": bad trap\n".toList))
          return 1

/-- The traps as commands that set them. -/
def trapLines (s : State) : Octets :=
  (List.range SignalName.count).flatMap fun n =>
    match s.traps.lookup n with
    | some text =>
        let name := if n = 0 then "EXIT" else SignalName.of n
        "trap -- ".toList ++ quoted text ++ ' ' :: name.toList ++ ['\n']
    | none => []

/-- Sets traps, or shows them. -/
def trap : Builtin :=
  special_ fun arguments => do
    match (← options "" arguments).2 with
    | [] => show_ (trapLines (← get))
    | [word] => setTraps none [word]
    | first :: rest =>
        let isNumber := !first.isEmpty && first.all Char.isDigit && (signal? 0 first).isSome
        if isNumber then setTraps none (first :: rest)
        else setTraps (if first = ['-'] then none else some first) rest

/-- The time that the shell and its children have used, which is not measured. -/
def times : Builtin :=
  special_ fun _ => do
    let line := "0m0.000000s 0m0.000000s\n".toList
    show_ (line ++ line)

/-!
## Built-in commands for jobs

Waiting for jobs, showing them, and sending signals to processes.
-/

/-- The job that a word behind a percent sign names. -/
def jobNamed (word : Octets) : Eval Job := do
  let s ← get
  let latest := s.jobs.filter Job.background
  let found := match word.drop 1 with
    | [] => latest.getLast?
    | ['%'] => latest.getLast?
    | ['+'] => latest.getLast?
    | ['-'] => latest.dropLast.getLast?
    | digits => ((String.ofList digits).toNat?).bind fun n => s.jobs.find? fun j => j.number = n
  match found with
  | some j => return j
  | none => Eval.fail ("No such job: ".toList ++ word)

/-- Waits until something is done, unless a trap has to run first; then the status of the signal is
given. -/
def waitUntil
    (isDone : Eval Bool)
    (awaited : Option Nat) :
    Eval (Option Nat) :=
  Eval.repeat_ none step Act.rounds ()
where
  /-- Waits for one more process. -/
  step (_ : Unit) : Eval (Unit ⊕ Option Nat) := do
    if ← isDone then return .inr none
    else
      let _ ← Eval.waitOne awaited
      match (← get).pending.head? with
      | some signal => return .inr (some (128 + signal))
      | none => return .inl ()

def markWaited (number : Nat) : Eval Unit :=
  modify fun s =>
    { s with jobs := s.jobs.map fun j => if j.number = number then { j with waited := true } else j }

/-- Waits for one process or job, and gives its status. -/
def waitFor (word : Octets) : Eval (Except Nat Nat) := do
  let found ←
    if word.head? = some '%' then some <$> jobNamed word
    else do
      let id ← Eval.number word
      pure ((← get).jobs.find? fun j => (j.processes.getLast?).any fun p => p.id = id)
  match found with
  | none => return .ok 127
  | some j =>
      let isDone : Eval Bool := do return ((← Eval.job? j.number).map Eval.isDone).getD true
      match ← waitUntil isDone (some j.number) with
      | some status => return .error status
      | none =>
          markWaited j.number
          return .ok (((← Eval.job? j.number).map Eval.jobStatus).getD 127)

/-- Waits for several processes or jobs, and gives the status of the last one. -/
def waitForAll : Nat → List Octets → Eval Nat
  | status, [] => return status
  | _, word :: rest => do
      match ← waitFor word with
      | .ok status => waitForAll status rest
      | .error status => return status

def wait : Builtin :=
  plain fun arguments => do
    match (← options "" arguments).2 with
    | [] =>
        let isDone : Eval Bool := do return (← get).jobs.all Eval.isDone
        return (← waitUntil isDone none).getD 0
    | words => waitForAll 127 words

def jobLine
    (withIds idsOnly : Bool)
    (current previous : Option Nat)
    (j : Job) :
    Octets :=
  let id := Octets.ofNat ((j.processes.head?.map JobProcess.id).getD 0)
  if idsOnly then id ++ ['\n']
  else
    let sign :=
      if current = some j.number then '+' else if previous = some j.number then '-' else ' '
    let front := '[' :: Octets.ofNat j.number ++ [']', ' ', sign, ' '] ++
      (if withIds then id ++ [' '] else [])
    let state : Octets :=
      if !Eval.isDone j then "Running".toList
      else
        match j.processes.getLast?.bind JobProcess.ending with
        | some (.exited 0) => "Done".toList
        | some (.exited n) => "Done(".toList ++ Octets.ofNat n ++ [')']
        | some (.signalled n) => (Eval.signalText n).toList
        | none => []
    Octets.padRight 33 (front ++ state) ++ ['\n']

/-- Shows the jobs, the latest first. -/
def jobs : Builtin :=
  plain fun arguments => do
    let (found, _) ← options "lp" arguments
    let listed := ((← get).jobs.filter fun j => j.background && !j.waited).reverse
    let number (n : Nat) : Option Nat := (listed[n]?).map Job.number
    let lines := listed.flatMap
      (jobLine (given 'l' found) (given 'p' found) (number 0) (number 1))
    modify fun s => { s with jobs := s.jobs.filter fun j => !Eval.isDone j }
    show_ lines

/-- Puts a job where it cannot be put without control over the terminal. -/
def foreground : Builtin :=
  plain fun _ => Eval.failText "No current job"

/-- How the command that sends signals is used. -/
def killUsage : String :=
  "Usage: kill [-s sigspec | -signum | -sigspec] [pid | job]... or\nkill -l [exitstatus]"

/-- Shows names of signals. -/
def signalList : List Octets → Eval Nat
  | [] => show_ ("0\n".toList ++ SignalName.all.flatMap fun n => n.toList ++ ['\n'])
  | word :: _ => do
      let n ← Eval.number word
      let signal := if 128 < n then n - 128 else n
      if 0 < signal && signal < SignalName.count then showLine (SignalName.of signal).toList
      else Eval.fail ("invalid signal number or exit status: ".toList ++ word)

def sendTo (signal : Nat) : Nat → List Octets → Eval Nat
  | status, [] => return status
  | status, word :: rest => do
      let target ←
        if word.head? = some '%' then do
          let _ ← jobNamed word
          pure none
        else if word.head? = some '-' then do
          let _ ← Eval.number (word.drop 1)
          pure none
        else some <$> Eval.number word
      let sent ← match target with
        | some id => Eval.ask (.kill id signal)
        | none => pure (.error .noProcess)
      match sent with
      | .ok () => sendTo signal status rest
      | .error e =>
          Eval.warnText (e.reason ++ "\n")
          sendTo signal 1 rest

/-- Sends signals, or shows their names. -/
def kill : Builtin :=
  plain fun arguments => do
    let direct := match arguments with
      | ('-' :: name) :: _ => signal? 1 name
      | _ => none
    let (isList, signal, words) ←
      match direct, arguments with
      | _, [] => Eval.failText killUsage
      | some n, _ => pure (false, some n, arguments.drop 1)
      | none, _ => do
          let (found, words) ← options "ls:" arguments
          match found.lookup 's' with
          | some name =>
              match signal? 1 name with
              | some n => pure (given 'l' found, some n, words)
              | none => Eval.fail ("invalid signal number or name: ".toList ++ name)
          | none => pure (given 'l' found, none, words)
    if isList then
      if signal.isSome then Eval.failText killUsage else signalList words
    else if words.isEmpty then Eval.failText killUsage
    else sendTo (signal.getD 15) 0 words

end Builtin
end Shell
end Runbook
