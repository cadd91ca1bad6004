import Runbook.Tool.Calendar
import Runbook.Tool.Environment
import Runbook.Tool.Records.Lexer
import Runbook.Tool.Records.Memory

/-!
# Streams and functions

The streams of a program at work, and the functions that every program has.
-/

namespace Runbook
namespace Tool
namespace Records

/-!
## The streams of a program at work

What is printed is held back for a while, and is written before a command is started. Streams have the
name of their file or command, and stay open until they are closed by it. Records come from the files
that are named behind the program, and where there are none from the standard input.
-/

namespace Run

/-! ### Writing -/

def outputName : Octets :=
  "/dev/stdout".toList

def errorName : Octets :=
  "/dev/stderr".toList

def inputName : Octets :=
  "/dev/stdin".toList

/-- How much is held back. -/
def holding : Nat := 4096

/-- Writes what a stream holds back. -/
def pour (s : Sink) : Run (Except FileFault Sink) := do
  match ← act (Act.writeTo s.descriptor s.held.reverse.flatten) with
  | .ok () => return .ok { s with held := [], size := 0 }
  | .error e => return .error e

/-- Writes what a stream holds back, or fails. -/
def flushed
    (host : Host)
    (s : Sink) :
    Run Sink := do
  match ← pour s with
  | .ok t => return t
  | .error e => fail host ("write failure (".toList ++ e.reason.toList ++ [')'])

/-- Writes what all streams hold back. -/
def flushAll (host : Host) : Run Unit := do
  let out ← flushed host (← get).output
  modify fun m => { m with output := out }
  let sinks ← (← get).sinks.mapM (flushed host)
  modify fun m => { m with sinks := sinks }

/-- A stream with more to write. -/
def added (data : Octets) (s : Sink) : Sink :=
  { s with held := data :: s.held, size := s.size + data.length }

/-- Writes to the output. -/
def say (host : Host) (data : Octets) : Run Unit := do
  modify fun m => { m with output := added data m.output }
  if holding ≤ (← get).output.size then
    let out ← flushed host (← get).output
    modify fun m => { m with output := out }

def closeDescriptor (d : Nat) : Run Unit := do
  let _ ← ask (.close d)

/-- A private descriptor in the place of another one, so that other programs do not get it. -/
def hidden (d : Nat) : Run Nat := do
  match ← ask (.save d) with
  | .ok found => do
      closeDescriptor d
      return found
  | .error _ => return d

/-- Starts a command that is written to. -/
def openCommand
    (host : Host)
    (name : Octets) :
    Run Sink := do
  flushAll host
  let ends : Nat × Nat ← ask .pipe
  let process ← act (Starting.forkShell host.launcher host.environment 0 ends.1 ends.2 name)
  closeDescriptor ends.1
  return ⟨name, true, ← hidden ends.2, some process, [], 0⟩

def openFile
    (host : Host)
    (d : Direction)
    (name : Octets) :
    Run Sink := do
  let mode := if d = .behind then OpenMode.appending else OpenMode.writing
  match ← ask (.openFile name mode) with
  | .ok number => return ⟨name, false, number, none, [], 0⟩
  | .error e =>
      fail host ("cannot open \"".toList ++ name ++ "\" for output (".toList ++ e.reason.toList
        ++ [')'])

/-- Writes to a file or a command, which is opened if it was not. The one used last comes first. -/
def sayTo
    (host : Host)
    (d : Direction)
    (name data : Octets) :
    Run Unit := do
  let isCommand := d = .command
  if !isCommand && name = outputName then say host data
  else if !isCommand && name = errorName then
    let _ ← act (Act.writeTo 2 data)
  else
    let isMeant : Sink → Bool := fun s => s.name = name && s.isCommand = isCommand
    let sink ← match (← get).sinks.find? isMeant with
      | some s => pure s
      | none => if isCommand then openCommand host name else openFile host d name
    let more := added data sink
    let next ← if holding ≤ more.size then flushed host more else pure more
    modify fun m => { m with sinks := next :: m.sinks.filter fun s => !isMeant s }

def endNumber : Ending → Nat
  | .exited status => status
  | .signalled signal => 256 + signal

/-- Complains that a stream could not be written to its end, and breaks off. -/
def failToClose
    {α : Type}
    (host : Host)
    (name : Octets)
    (e : FileFault) :
    Run α :=
  fail host ("close failed on file \"".toList ++ name ++ "\" (".toList ++ e.reason.toList ++ [')'])

/-- Closes a stream that was written to, and tells how its command ended. -/
def closeSink
    (host : Host)
    (s : Sink) :
    Run Nat := do
  match ← pour s with
  | .ok _ => pure ()
  | .error e => failToClose host s.name e
  closeDescriptor s.descriptor
  match s.process with
  | some p => return endNumber (← act (Starting.endOf p))
  | none => return 0

/-! ### Reading -/

/-- How many bytes are asked for at a time. -/
def piece : Nat := 4096

def recordFrom
    (host : Host) :
    Nat → Feed → Run (Option Octets × Feed)
  | 0, f => return (none, f)
  | fuel + 1, f => do
      match (← get).ending.take? f.ended f.ahead with
      | some (row, rest) => return (some row, { f with ahead := rest })
      | none =>
          if f.ended then return (none, { f with ahead := [] })
          else
            match ← ask (.read f.descriptor piece) with
            | .ok data =>
                recordFrom host fuel
                  { f with ahead := f.ahead ++ data, ended := data.isEmpty }
            | .error e => fail host ("read error (".toList ++ e.reason.toList ++ [')'])

/-- A stream of which nothing was read. -/
def newFeed
    (name : Octets)
    (descriptor : Nat)
    (process : Option Nat) :
    Feed :=
  ⟨name, descriptor, process, [], false⟩

/-- Closes a stream that was read from, and tells how its command ended. -/
def closeFeed (f : Feed) : Run Nat := do
  if f.descriptor ≠ 0 then closeDescriptor f.descriptor
  match f.process with
  | some p => return endNumber (← act (Starting.endOf p))
  | none => return 0

/-- Starts a command that is read from. -/
def openSource
    (host : Host)
    (name : Octets) :
    Run Feed := do
  flushAll host
  let ends : Nat × Nat ← ask .pipe
  let process ← act (Starting.forkShell host.launcher host.environment 1 ends.2 ends.1 name)
  closeDescriptor ends.2
  return newFeed name (← hidden ends.1) (some process)

/-- Whether a name stands for the standard input. -/
def isStandard (name : Octets) : Bool :=
  name = ['-'] || name = inputName

/-- Takes the next record of a file or a command, which is opened if it was not; nothing if that is not
possible. -/
def recordOf
    (host : Host)
    (isCommand : Bool)
    (name : Octets) :
    Run (Option (Option Octets)) := do
  let isMeant : Feed → Bool := fun f => f.name = name && f.process.isSome = isCommand
  let sharesMain : Bool := !isCommand && isStandard name
    && (← get).main.any fun f => f.descriptor = 0
  if sharesMain then
    match (← get).main with
    | none => return none
    | some f => do
        let (row, after) ← recordFrom host Act.rounds f
        modify fun m => { m with main := some after }
        return some row
  else
    let found : Option Feed ← match (← get).feeds.find? isMeant with
      | some f => pure (some f)
      | none =>
          if isCommand then pure (some (← openSource host name))
          else if isStandard name then pure (some (newFeed name 0 none))
          else
            match ← ask (.openFile name .reading) with
            | .ok d => pure (some (newFeed name d none))
            | .error _ => pure none
    match found with
    | none => return none
    | some f => do
        let (row, after) ← recordFrom host Act.rounds f
        modify fun m => { m with feeds := after :: m.feeds.filter fun g => !isMeant g }
        return some row

/-- Closes all streams of a name, and tells how the last one ended; nothing if there is none. -/
def closeAll
    (host : Host)
    (name : Octets) :
    Run (Option Nat) := do
  if name = outputName then
    let out ← flushed host (← get).output
    modify fun m => { m with output := out }
    return some 0
  else
    let m ← get
    set
      { m with
        sinks := m.sinks.filter fun s => s.name ≠ name
        feeds := m.feeds.filter fun f => f.name ≠ name }
    let sinks ← (m.sinks.filter fun s => s.name = name).mapM (closeSink host)
    let feeds ← (m.feeds.filter fun f => f.name = name).mapM closeFeed
    return (sinks ++ feeds).getLast?

/-- Runs a command and tells how it ended. -/
def system
    (host : Host)
    (command : Octets) :
    Run Nat := do
  flushAll host
  let child := Act.toProgram (Starting.becomeShell host.launcher host.environment command)
  let process ← act (Act.fork child)
  return endNumber (← act (Starting.endOf process))

/-! ### The files of the program -/

/-- A word that gives a value to a name: the name and the value. -/
def assignment? (word : Octets) : Option (Octets × Octets) :=
  let name := word.takeWhile Parse.isInName
  match name, word.drop name.length with
  | c :: _, '=' :: value => if Parse.startsName c then some (name, value) else none
  | _, _ => none

/-- Whether a word has a meaning in every program, so that it cannot be the name of a value. -/
def isReserved (name : Octets) : Bool :=
  let text := String.ofList name
  (keywords.lookup text).isSome || Builtin.all.any fun f => f.signature.1 = text

/-- Whether a name stands for something else than a value. -/
def isOther (p : Program) (name : Octets) : Bool :=
  isReserved name || p.functions.any (fun f => f.name = name) || p.names.contains (name, .array)

/-- Gives a name a value from outside. Names that the program does not use are passed over. -/
def assign
    (host : Host)
    (p : Program)
    (name value : Octets) :
    Run Unit := do
  let v := Value.input (Parse.unescape (value.length + 1) value)
  if isOther p name then
    fault host ("cannot command line assign to ".toList ++ name
      ++ "\n\ttype clash or keyword".toList)
  match settings.lookup (String.ofList name) with
  | some s => setSetting host s v
  | none =>
      match p.names.findIdx? fun e => e.1 = name with
      | some i => setName (.shared i) v
      | none => pure ()

/-- A number in a variable, one more than before. -/
def increase (n : Name) : Run Unit := do
  let v ← valueOf n
  setName n (.number (v.toNumber.add (Binary.ofNat 1)))

/-- Begins to read a file that is named behind the program. -/
def beginFile
    (name : Octets)
    (descriptor : Nat) :
    Run Unit := do
  setName fileName (.input name)
  setName fileRecordNumber (.ofNat 0)
  modify fun m =>
    { m with main := some (newFeed name descriptor none), anyFile := true, takenInFile := 0 }

/-- Goes on to the next file that is named behind the program, where words may give values to names. Tells
whether there is one. -/
def nextFile
    (host : Host)
    (p : Program) :
    Nat → Run Bool
  | 0 => return false
  | fuel + 1 => do
      let m ← get
      let count := clamp (← valueOf wordCount).toNumber
      if count ≤ (m.place : Int) then
        if m.anyFile then return false
        else
          beginFile ['-'] 0
          return true
      else
        set { m with place := m.place + 1 }
        let index ← tableOf words
        let word ← onTable index fun t =>
          let (cell, after) := t.cell? false (.number m.place)
          (cell.map after.value, after)
        let text ← textOf (word.getD .unset)
        if text.isEmpty then nextFile host p fuel
        else
          match assignment? text with
          | some (name, value) => do
              assign host p name value
              nextFile host p fuel
          | none =>
              if isStandard text then
                beginFile text 0
                return true
              else
                match ← ask (.openFile text .reading) with
                | .ok d => do
                    beginFile text d
                    return true
                | .error e =>
                    fail host ("cannot open \"".toList ++ text ++ "\" (".toList ++ e.reason.toList
                      ++ [')'])

/-- Ends the reading of the file at hand. -/
def leaveFile : Run Unit := do
  match (← get).main with
  | none => pure ()
  | some f => do
      let _ ← closeFeed f
      modify fun m => { m with main := none }

/-- Takes the next record of the files of the program; nothing at their end. -/
def nextRecord
    (host : Host)
    (p : Program) :
    Nat → Run (Option Octets)
  | 0 => return none
  | fuel + 1 => do
      match (← get).main with
      | none =>
          if ← nextFile host p Act.rounds then nextRecord host p fuel else return none
      | some f => do
          let (row, after) ← recordFrom host Act.rounds f
          modify fun m => { m with main := some after }
          match row with
          | some text => do
              increase recordNumber
              increase fileRecordNumber
              modify fun m => { m with taken := m.taken + 1, takenInFile := m.takenInFile + 1 }
              return some text
          | none => do
              leaveFile
              nextRecord host p fuel

end Run

/-!
## The functions of every program

What the functions do that every program has: with texts, numbers, streams and times.
-/

/-! ### Texts -/

/-- Where a text occurs in another one, counted from one; zero if it does not. -/
def placeFrom (part : Octets) : Nat → Octets → Nat
  | n, s =>
      if part.isPrefixOf s then n
      else
        match s with
        | [] => 0
        | _ :: rest => placeFrom part (n + 1) rest

/-- A part of a text from a place on, which is counted from one. In front of the text as much more is
taken as is missing. The numbers are short ones of the machine. -/
def partOf
    (s : Octets)
    (start : Binary)
    (length : Option Binary) :
    Octets :=
  let wanted := match length with
    | some x => short (clamp x)
    | none => s.length
  let offset := short (short (clamp start) - 1)
  let count := if offset < 0 then short (wanted - (offset + 1)) else wanted
  (s.drop offset.toNat).take count.toNat

/-! ### Times -/

/-- The whole numbers of a text. -/
def numbersIn (s : Octets) : List Int :=
  (wordsFrom (s.length + 1) [] s).filterMap fun w => (String.ofList w).toInt?

/-- The seconds of the moment that a text writes as a year, a month, a day, and a time; -1 if it writes
none. -/
def secondsOf (s : Octets) : Int :=
  match numbersIn s with
  | year :: month :: day :: hour :: minute :: second :: _ =>
      Calendar.dayNumber year month day * Calendar.daySeconds + hour * 3600 + minute * 60 + second
  | _ => -1

/-- The format of times that is used unless another one is given. -/
def timeFormat : Octets :=
  "%c".toList

namespace Run

/-- The time in seconds. -/
def now : Run Nat := do
  let t : Nat ← ask .clock
  return t / 1000000

/-! ### Chance -/

def nextChance (state : Nat) : Nat :=
  (state * 6364136223846793005 + 1442695040888963407) % Nat.pow 2 64

/-- A number between zero and one. -/
def random : Run Binary := do
  let next := nextChance (← get).chance
  modify fun m => { m with chance := next }
  return FloatFormat.double.round false (next / Nat.pow 2 11) (Nat.pow 2 53)

/-- Sets the seed, and gives the one before. Chance takes its own way. -/
def seed (x : Binary) : Run Binary := do
  let m ← get
  set { m with seed := x }
  return m.seed

/-! ### Calls -/

/-- The result of a function that every program has. -/
def library
    (host : Host)
    (f : Builtin)
    (values : List Value) :
    Run Value := do
  match f, values with
  | .length, [] => return .ofNat (← textOf (← get).zero).length
  | .length, v :: _ => return .ofNat (← textOf v).length
  | .index, s :: t :: _ => return .ofNat (placeFrom (← textOf t) 1 (← textOf s))
  | .substr, [s, start] => return .text (partOf (← textOf s) start.toNumber none)
  | .substr, s :: start :: length :: _ =>
      return .text (partOf (← textOf s) start.toNumber (some length.toNumber))
  | .sprintf, template :: rest => do
      let format ← textOf template
      let number := formatOf (← get).textFormat
      match formatValues (Value.toText number) format (rest.map Value.asInput) with
      | (text, none) => return .text text
      | (_, some e) => formatFault "sprintf" format e
  | .sin, x :: _ => return .number (Binary.apply Float.sin x.toNumber)
  | .cos, x :: _ => return .number (Binary.apply Float.cos x.toNumber)
  | .atan2, y :: x :: _ => return .number (Binary.applyBoth Float.atan2 y.toNumber x.toNumber)
  | .exp, x :: _ => return .number (Binary.apply Float.exp x.toNumber)
  | .log, x :: _ => return .number (Binary.apply Float.log x.toNumber)
  | .sqrt, x :: _ => return .number (Binary.apply Float.sqrt x.toNumber)
  | .int, x :: _ => return .number x.toNumber.truncate
  | .rand, _ => return .number (← random)
  | .srand, [] => return .number (← seed (Binary.ofNat (← now)))
  | .srand, x :: _ => return .number (← seed x.toNumber)
  | .close, s :: _ => do
      match ← closeAll host (← textOf s) with
      | some n => return .ofNat n
      | none => return .ofInt (-1)
  | .system, s :: _ => return .ofNat (← system host (← textOf s))
  | .toUpper, s :: _ => return .text ((← textOf s).map Char.toUpper)
  | .toLower, s :: _ => return .text ((← textOf s).map Char.toLower)
  | .flush, [] => do
      flushAll host
      return .ofNat 0
  | .flush, s :: _ => do
      let name ← textOf s
      let isKnown := name.isEmpty || name = outputName || name = errorName
        || (← get).sinks.any fun k => k.name = name
      if isKnown then
        flushAll host
        return .ofNat 0
      else return .ofInt (-1)
  | .makeTime, s :: _ => return .ofInt (secondsOf (← textOf s))
  | .formatTime, _ => do
      let given ← textOf (values.headD .unset)
      let time ← match values with
        | _ :: t :: _ => pure (clamp t.toNumber)
        | _ => pure ((← now) : Int)
      let format := if given.isEmpty then timeFormat else given
      return .text (Calendar.format (Moment.ofSeconds time) 0 format)
  | .systemTime, _ => return .ofNat (← now)
  | _, _ => return .unset
where
  /-- Breaks off because of a format and its values. -/
  formatFault {α : Type} (what : String) (format : Octets) (e : FormatFault) : Run α :=
    fault host (formatMessage what format e)
  /-- What is said about a format and its values. -/
  formatMessage (what : String) (format : Octets) : FormatFault → Octets
    | .missing =>
        "not enough arguments passed to ".toList ++ what.toList ++ "(\"".toList ++ format
          ++ "\")".toList
    | .improper n =>
        "improper conversion(number ".toList ++ Octets.ofNat n ++ ") in ".toList ++ what.toList
          ++ "(\"".toList ++ format ++ "\")".toList

/-- What is said about the format of something that is printed. -/
def printfMessage (format : Octets) (e : FormatFault) : Octets :=
  library.formatMessage "printf" format e

end Run

end Records
end Tool
end Runbook
