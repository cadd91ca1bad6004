import Runbook.Format.Field
import Runbook.Machine.Basic
import Runbook.Number.Reading
import Runbook.Tool.Options

/-!
# Variables, programs and time

The tools that show the variables a program is started with, and those that start another program:
with other variables, in another directory, or for a limited time. Tools that wait and that send
signals stand beside the latter.
-/

namespace Runbook
namespace Tool

/-- Sets a variable, in its place or behind all others. -/
def setVariable
    (name value : Octets) :
    Variables → Variables
  | [] => [(name, value)]
  | (n, v) :: rest =>
      if n = name then (name, value) :: rest else (n, v) :: setVariable name value rest

/-- Shows variables. -/
def printenv : Tool :=
  fun _ start => Work.perform start.name 2 do
    let a ← Work.leadingArguments [flag "z" ["null"], flag "0" []] 2 start.arguments
    let stop : Octets := if a.has "z" || a.has "0" then ['\x00'] else ['\n']
    if a.operands.isEmpty then
      Work.forAll (fun e => Work.say (e.1 ++ '=' :: e.2 ++ stop)) start.environment
    else
      Work.forAll
        (fun name => do
          match start.environment.lookup name with
          | some value => Work.say (value ++ stop)
          | none => Work.setStatus 1)
        a.operands

namespace Starting

/-- The exit status for a program that cannot be started. -/
def statusFor (e : FileFault) : Nat :=
  if Launch.isMissing e then 127 else 126

def become
    (launcher : Launcher)
    (environment : Variables)
    (shown : Octets → Octets)
    (program : Octets)
    (arguments : List Octets) :
    Work Unit := do
  Work.flush
  let fault ← Work.act (Launch.run launcher program ⟨program, arguments, environment⟩)
  Work.fail (statusFor fault) (shown program ++ ": ".toList ++ fault.reason.toList)

/-- The words for a program that cannot be started. -/
def failedToRun (program : Octets) : Octets :=
  "failed to run command ".toList ++ Quoting.shellAlways program

/-- How a process ended, as an exit status. -/
def statusOf : Ending → Nat
  | .exited status => status
  | .signalled signal => 128 + signal

/-- Starts a program as a second process. -/
def fork
    (launcher : Launcher)
    (environment : Variables)
    (shown : Octets → Octets)
    (program : Octets)
    (arguments : List Octets) :
    Work Nat := do
  Work.flush
  let name := (← get).name
  Work.act (Act.fork (Act.toProgram (Work.perform name 125
    (become launcher environment shown program arguments))))

/-- Looks for a program in directories, and tells why it cannot be started. -/
def searchFault
    (program : Octets)
    (worst : FileFault) :
    List Octets → Work (Option FileFault)
  | [] => return some worst
  | directory :: rest => do
      match ← Work.ask (.image (Launch.under directory program)) with
      | .ok _ => return none
      | .error .denied => searchFault program .denied rest
      | .error e => if Launch.isMissing e then searchFault program worst rest else return some e

/-- Tells why a program cannot be started, before that is tried. -/
def fault?
    (environment : Variables)
    (program : Octets) :
    Work (Option FileFault) := do
  if program.isEmpty then return some .noEntry
  else if program.contains '/' then
    match ← Work.ask (.image program) with
    | .ok _ => return none
    | .error e => return some e
  else searchFault program .noEntry (Launch.searchPath environment)

def endOf (process : Nat) : Act Ending := do
  match ← Act.ask (.wait (some process) true) with
  | .ok (some (_, ending)) => return ending
  | _ => return .exited 127

def wait (process : Nat) : Work Ending :=
  Work.act (endOf process)

def becomeShell
    (launcher : Launcher)
    (environment : Variables)
    (command : Octets) :
    Act Nat := do
  let _ ← launcher "/bin/sh".toList ⟨"sh".toList, ["-c".toList, command], environment⟩
  return 127

/-- Starts a command of the shell with one of its streams at an end of a pipe; the other end is closed in
it. -/
def forkShell
    (launcher : Launcher)
    (environment : Variables)
    (stream inner outer : Nat)
    (command : Octets) :
    Act Nat := do
  let child : Act Nat := do
    let _ ← Act.ask (.copy inner stream)
    let _ ← Act.ask (.close inner)
    let _ ← Act.ask (.close outer)
    becomeShell launcher environment command
  Act.fork (Act.toProgram child)

def shellOutput
    (launcher : Launcher)
    (environment : Variables)
    (command : Octets) :
    Work (Octets × Ending) := do
  let ends : Nat × Nat ← Work.ask .pipe
  let process ← Work.act (forkShell launcher environment 1 ends.2 ends.1 command)
  let _ ← Work.ask (.close ends.2)
  let data ← Work.act (Act.readAll ends.1)
  let _ ← Work.ask (.close ends.1)
  let ending ← wait process
  match data with
  | .ok text => return (text, ending)
  | .error _ => return ([], ending)

end Starting

/-- How a variable is written in front of a program: its name and its value. -/
def assignment? (word : Octets) : Option (Octets × Octets) :=
  let name := word.takeWhile (· ≠ '=')
  if name.length < word.length then some (name, word.drop (name.length + 1)) else none

/-- Takes the assignments from the front of words. -/
def takeAssignments : Variables → List Octets → Variables × List Octets
  | environment, word :: rest =>
      match assignment? word with
      | some (name, value) => takeAssignments (setVariable name value environment) rest
      | none => (environment, word :: rest)
  | environment, [] => (environment, [])

/-- Cuts a text into words at blanks; quotes keep them together. -/
def cutWords : Nat → Option Octets → Octets → List Octets
  | 0, word, _ => word.toList.map List.reverse
  | _, word, [] => word.toList.map List.reverse
  | fuel + 1, word, c :: s =>
      let before := word.getD []
      if c = '\'' || c = '"' then
        let inside := s.takeWhile (· ≠ c)
        cutWords fuel (some (inside.reverse ++ before)) (s.drop (inside.length + 1))
      else if c = '\\' then
        match s with
        | d :: rest => cutWords fuel (some (d :: before)) rest
        | [] => cutWords fuel (some before) []
      else if isGap c then word.toList.map List.reverse ++ cutWords fuel none s
      else cutWords fuel (some (c :: before)) s
where
  /-- Whether a character stands between words. -/
  isGap (c : Char) : Bool :=
    c = ' ' || ('\t' ≤ c && c ≤ '\r')

/-- Replaces options that hold several words by these words. -/
def splitStrings : Nat → List Octets → List Octets
  | 0, words => words
  | _, [] => []
  | fuel + 1, word :: rest =>
      if word = "-S".toList then
        match rest with
        | text :: more => cutWords (text.length + 1) none text ++ more
        | [] => [word]
      else
        match Text.dropPrefix? "-S".toList word, Text.dropPrefix? "--split-string=".toList word with
        | some text, _ => cutWords (text.length + 1) none text ++ rest
        | none, some text => cutWords (text.length + 1) none text ++ rest
        | none, none =>
            if word.head? = some '-' && word.length ≠ 1 && word ≠ "--".toList then
              word :: splitStrings fuel rest
            else word :: rest

/-- Starts a program with other variables, or shows the variables. -/
def env : Tool :=
  fun launcher start => Work.perform start.name 125 do
    let words := splitStrings (start.arguments.length + 1) start.arguments
    let a ← Work.leadingArguments
      [ flag "i" ["ignore-environment"], flag "0" ["null"], valued "u" ["unset"],
        valued "C" ["chdir"], flag "v" ["debug"] ] 125 words
    let (cleared, operands) := match a.operands with
      | ['-'] :: rest => (true, rest)
      | w => (a.has "i", w)
    let base := if cleared then [] else start.environment
    Work.forAll
      (fun name => do
        if name.isEmpty || name.contains '=' then
          Work.fail 125 ("cannot unset ".toList ++ Quoting.plain name
            ++ ": Invalid argument".toList))
      (a.values "u")
    let kept := base.filter fun e => !(a.values "u").contains e.1
    let (environment, rest) := takeAssignments kept operands
    match a.value? "C" with
    | none => pure ()
    | some directory => do
        if rest.isEmpty then
          Work.misuse 125 "must specify command with --chdir (-C)".toList
        match ← Work.ask (.enter directory) with
        | .ok () => pure ()
        | .error e =>
            Work.fail 125 ("cannot change directory to ".toList ++ Quoting.shellAlways directory
              ++ ": ".toList ++ e.reason.toList)
    match rest with
    | [] =>
        let stop : Octets := if a.has "0" then ['\x00'] else ['\n']
        Work.forAll (fun e => Work.say (e.1 ++ '=' :: e.2 ++ stop)) environment
    | program :: arguments => do
        if a.has "0" then
          Work.misuse 125 "cannot specify --null (-0) with command".toList
        Starting.become launcher environment Quoting.shellAlways program arguments

/-- Starts a program, with a priority that means nothing here. -/
def nice : Tool :=
  fun launcher start => Work.perform start.name 125 do
    let a ← Work.leadingArguments [valued "n" ["adjustment"]] 125 start.arguments
    match a.operands with
    | [] => Work.sayText "0\n"
    | program :: arguments =>
        Starting.become launcher start.environment Quoting.plain program arguments

/-- Starts a program that is not ended by a hang-up. -/
def nohup : Tool :=
  fun launcher start => Work.perform start.name 125 do
    let a ← Work.leadingArguments [] 125 start.arguments
    match a.operands with
    | [] => Work.missingOperand 125 none
    | program :: arguments => do
        Work.ask (.dispose 1 .ignore)
        Starting.become launcher start.environment Starting.failedToRun program arguments

/-- Starts a program in a session of its own, which is no different here. -/
def setsid : Tool :=
  fun launcher start => Work.perform start.name 1 do
    let a ← Work.leadingArguments (flags "cfw") 1 start.arguments
    match a.operands with
    | [] => Work.misuse 1 "no command specified".toList
    | program :: arguments =>
        if a.has "f" then
          let _ ← Starting.fork launcher start.environment failedToExecute program arguments
        else Starting.become launcher start.environment failedToExecute program arguments
where
  /-- The words for a program that cannot be started. -/
  failedToExecute (program : Octets) : Octets :=
    "failed to execute ".toList ++ program

/-!
## Waiting

The tools that let time pass, that end a program when its time is over, and that send signals.
-/

/-- How many microseconds a text stands for: a number of seconds, or of what a letter behind it says;
`none` inside for all time. -/
def duration? (s : Octets) : Option (Option Nat) :=
  match leadingFloat? .extended s with
  | none => none
  | some (x, rest) =>
      let unit? : Option Nat := match rest with
        | [] => some 1
        | ['s'] => some 1
        | ['m'] => some 60
        | ['h'] => some 3600
        | ['d'] => some 86400
        | _ => none
      match unit?, x with
      | some unit, .finite negative mantissa exponent =>
          let (num, den) := Binary.magnitude mantissa exponent
          if negative && mantissa ≠ 0 then none
          else some (some ((num * unit * 1000000 + den - 1) / den))
      | some _, .infinite false => some none
      | _, _ => none

def forEver : Nat := Nat.pow 10 15

/-- Lets time pass. -/
def sleep : Tool :=
  simple 1 fun words => do
    let a ← Work.arguments [] 1 words
    if a.operands.isEmpty then Work.missingOperand 1 none
    let read (total : Option Nat) (word : Octets) : Work (Option Nat) := do
      match duration? word with
      | some t => return total.bind fun n => t.map (n + ·)
      | none => do
          Work.complain ("invalid time interval ".toList ++ Quoting.plain word)
          return total
    let total ← Work.foldAll read (some 0) a.operands
    if (← get).status ≠ 0 then
      Work.hint
      Work.giveUp 1
    Work.ask (.sleep (total.getD forEver))

/-- The signal that a word names, by its name or its number. -/
def signal? (word : Octets) : Option Nat :=
  if !word.isEmpty && word.all Char.isDigit then
    (digitsIn? 10 word).bind fun n => if n < SignalName.count then some n else none
  else
    let upper := word.map Char.toUpper
    let bare := (Text.dropPrefix? "SIG".toList upper).getD upper
    if bare = "EXIT".toList then some 0 else SignalName.number? bare

/-- The options of the tool that limits time. -/
def timeoutForms : List OptionForm :=
  [ valued "s" ["signal"], valued "k" ["kill-after"], flag "p" ["preserve-status"],
    flag "f" ["foreground"], flag "v" ["verbose"] ]

/-- The process that waits and then sends a signal, and a second one after some more time. -/
def alarm
    (process signal time : Nat)
    (after : Option Nat) :
    Program :=
  Act.toProgram do
    Act.ask (.sleep time)
    let _ ← Act.ask (.kill process signal)
    match after with
    | none => return 0
    | some more => do
        Act.ask (.sleep more)
        let _ ← Act.ask (.kill process 9)
        return 0

/-- Starts a program and ends it when its time is over. -/
def timeout : Tool :=
  fun launcher start => Work.perform start.name 125 do
    let a ← Work.leadingArguments timeoutForms 125 start.arguments
    let time (word : Octets) : Work (Option Nat) := do
      match duration? word with
      | some t => return t
      | none => Work.misuse 125 ("invalid time interval ".toList ++ Quoting.plain word)
    let signal : Nat ← match a.value? "s" with
      | none => pure 15
      | some word =>
          match signal? word with
          | some n => pure n
          | none => Work.misuse 125 (Quoting.plain word ++ ": invalid signal".toList)
    let after : Option Nat ← match a.value? "k" with
      | none => pure none
      | some word => time word
    match a.operands with
    | [] => do
        Work.hint
        Work.giveUp 125
    | [_] => do
        Work.hint
        Work.giveUp 125
    | word :: program :: arguments => do
        let limit ← time word
        let begun : Nat ← Work.ask .clock
        let child ← Starting.fork launcher start.environment Starting.failedToRun program arguments
        match limit with
        | none => Work.setStatus (Starting.statusOf (← Starting.wait child))
        | some 0 => Work.setStatus (Starting.statusOf (← Starting.wait child))
        | some t => do
            let guard ← Work.act (Act.fork (alarm child signal t after))
            let ending ← Starting.wait child
            let ended : Nat ← Work.ask .clock
            let _ ← Work.ask (.kill guard 9)
            let _ ← Starting.wait guard
            let isOver := begun + t ≤ ended
            match ending with
            | .exited status =>
                Work.setStatus (if isOver && !a.has "p" then 124 else status)
            | .signalled n =>
                if n = 9 && isOver && !a.has "f" then dieBy 9
                else if isOver && n ≠ 9 && !a.has "p" then Work.setStatus 124
                else
                  if !isOver then dieBy n
                  Work.setStatus (128 + n)
where
  /-- Ends by a signal, like the program that was started. -/
  dieBy (signal : Nat) : Work Unit := do
    Work.ask (.dispose signal .default)
    let self : Nat ← Work.ask .self
    let _ ← Work.ask (.kill self signal)

/-- Shows the names of signals, or of some of them. -/
def listSignals (words : List Octets) : Work Unit := do
  if words.isEmpty then
    Work.forAll (fun n => Work.sayLine (SignalName.of (n + 1)).toList) (List.range 64)
  else
    Work.forAll
      (fun word => do
        match signal? word with
        | some n =>
            if word.all Char.isDigit then Work.sayLine (SignalName.of n).toList
            else Work.sayLine (Octets.ofNat n)
        | none => Work.complain ("unknown signal name ".toList ++ word))
      words

/-- Sends a signal to processes. -/
def kill : Tool :=
  simple 1 fun words => do
    let (signal, rest) : Nat × List Octets ← match words with
      | ['-', 's'] :: name :: rest =>
          match signal? name with
          | some n => pure (n, rest)
          | none => Work.fail 1 ("unknown signal name ".toList ++ name)
      | ['-', 'l'] :: rest => do
          listSignals rest
          Work.giveUp (← get).status
      | ['-', '-'] :: rest => pure (15, rest)
      | ('-' :: name) :: rest =>
          match signal? name with
          | some n => pure (n, rest)
          | none => Work.fail 1 ("unknown signal name ".toList ++ name)
      | rest => pure (15, rest)
    if rest.isEmpty then Work.failText 1 "not enough arguments"
    Work.forAll
      (fun word => do
        match digitsIn? 10 word with
        | none => Work.complain ("failed to parse argument: ".toList ++ Quoting.plain word)
        | some id => do
            match ← Work.ask (.kill id signal) with
            | .ok () => pure ()
            | .error e =>
                Work.complain ('(' :: word ++ "): ".toList ++ e.reason.toList))
      rest

end Tool
end Runbook
