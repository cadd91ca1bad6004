import Runbook.Machine.Program
import Runbook.Tool.Records.Pattern
import Runbook.Tool.Records.Value

/-!
# The memory of a program at work

What a program for records keeps while it works: the values of its names, the record at hand with its
fields, the settings, and the streams it has opened.
-/

namespace Runbook
namespace Tool
namespace Records

/-- What a name of the function at hand stands for: a value, or an array by its number. -/
inductive Cell where
  | value (v : Value)
  | table (index : Nat)
  deriving Inhabited

/-- A stream that is written to: its name, whether it is a command, its descriptor, the process of the
command, and what is held back, the newest first. -/
structure Sink where
  name : Octets
  isCommand : Bool
  descriptor : Nat
  process : Option Nat
  held : List Octets
  size : Nat
  deriving Inhabited

/-- A stream that records are read from: its name, its descriptor, the process if it is a command, what
was read and not taken yet, and whether its end was seen. -/
structure Feed where
  name : Octets
  descriptor : Nat
  process : Option Nat
  ahead : Octets
  ended : Bool
  deriving Inhabited

/-- The memory: the values and arrays of names, those of the function at hand, the record and its fields,
the value that was given to their number, the settings with what they mean, which ranges of rules are
open, the seed and the state of chance, the exit status, the streams, the first of which is the output,
the place of the next word that names a file, whether any did, how many records were taken in all and
from the file at hand, how many steps were counted, and how many values wait in the calls at hand. -/
structure Memory where
  shared : Array Value
  tables : Array Table
  own : Array Cell
  zero : Value
  fields : Array Value
  count : Option Value
  fieldSeparator : Value
  splitting : Separator
  recordSeparator : Value
  ending : RecordEnd
  printFormat : Value
  textFormat : Value
  open_ : Array Bool
  seed : Binary
  chance : Nat
  status : Nat
  output : Sink
  sinks : List Sink
  feeds : List Feed
  main : Option Feed
  place : Nat
  anyFile : Bool
  taken : Nat
  takenInFile : Nat
  ticks : Nat
  waiting : Nat
  deriving Inhabited

/-- Why the work breaks off: for the next record, for the next file, for good, behind the value of a
function, or at a fault. -/
inductive Halt where
  | next
  | nextFile
  | exit
  | return_ (v : Value)
  | fault (status : Nat)
  deriving Inhabited

/-- What a program works with: the name it is started by, how programs are started, and the variables
that are handed to them. -/
structure Host where
  name : Octets
  launcher : Launcher
  environment : Variables

/-- A step of the work. -/
abbrev Run := ExceptT Halt (StateT Memory Act)

namespace Run

/-- Does something on the machine. -/
def act
    {α : Type}
    (a : Act α) :
    Run α :=
  ExceptT.lift (StateT.lift a)

def ask (call : Call) : Run call.Answer :=
  act (Act.ask call)

/-! ## Texts -/

/-- The format that a setting stands for; a number stands for the standard one. -/
def formatOf : Value → Octets
  | .text s => s
  | .input s => s
  | _ => standardFormat

def textOf (v : Value) : Run Octets := do
  match v with
  | .number x => return numberText (formatOf (← get).textFormat) x
  | .unset => return []
  | .text s => return s
  | .input s => return s

def printedText (v : Value) : Run Octets := do
  match v with
  | .number x => return numberText (formatOf (← get).printFormat) x
  | .unset => return []
  | .text s => return s
  | .input s => return s

/-! ## Faults -/

/-- The value of a name of the whole program. -/
def sharedValue (n : Name) : Run Value := do
  match n with
  | .shared i => return (← get).shared[i]?.getD .unset
  | .own _ => return .unset

/-- Complains about a fault, and breaks off. -/
def fail
    {α : Type}
    (host : Host)
    (message : Octets) :
    Run α := do
  act (Act.complain (host.name ++ ": ".toList ++ message ++ ['\n']))
  throw (.fault 2)

/-- Complains about a fault in the program, with where it stands, and breaks off. -/
def fault
    {α : Type}
    (host : Host)
    (message : Octets) :
    Run α := do
  let file ← textOf (← sharedValue fileName)
  let m ← get
  fail host ("run time error: ".toList ++ message ++ "\n\tFILENAME=\"".toList ++ file ++ "\" FNR=".toList
    ++ Octets.ofNat m.takenInFile ++ " NR=".toList ++ Octets.ofNat m.taken)

/-- What is computed as a pattern, or a fault. -/
def patternOf
    (host : Host)
    (s : Octets) :
    Run Regex := do
  match Pattern.read s with
  | .ok r => return r
  | .error message => fault host (Pattern.complaint message s)

/-- What is computed as a separator, or a fault. -/
def separatorOf
    (host : Host)
    (s : Octets) :
    Run Separator := do
  match Pattern.separator s with
  | .ok found => return found
  | .error message => fault host (Pattern.complaint message s)

/-- What ends a record by the text of a setting, or a fault. -/
def endingOf
    (host : Host)
    (s : Octets) :
    Run RecordEnd := do
  match s with
  | [] => return .paragraphs
  | [c] => return .char c
  | _ => return .pattern (← patternOf host s)

/-! ## Records and fields -/

/-- A record takes the place of the one at hand. -/
def setRecord (v : Value) : Run Unit := do
  let s ← textOf v
  let m ← get
  let parts := (m.splitting.split s).map Value.input
  set { m with zero := v, fields := parts.toArray, count := none }

/-- The record is put together from its fields. -/
def rebuild : Run Unit := do
  let sep ← textOf (← sharedValue outputFieldSeparator)
  let texts ← (← get).fields.toList.mapM textOf
  modify fun m => { m with zero := .input (Octets.intercalate sep texts) }

/-- The greatest number of fields that there is room for. -/
def maxFields : Nat := Nat.pow 2 22

/-- Makes it so many fields, of which new ones are empty. -/
def resize
    (host : Host)
    (count : Nat) :
    Run Unit := do
  if maxFields < count then fault host "out of memory".toList
  modify fun m =>
    { m with
      fields := if count ≤ m.fields.size then m.fields.extract 0 count
        else m.fields ++ Array.replicate (count - m.fields.size) (.text []) }

/-- The number of a field, which must not be negative. -/
def fieldNumber
    (host : Host)
    (v : Value) :
    Run Nat := do
  let x := v.toNumber
  let isNegative : Bool := match x with
    | .nan _ => true
    | .infinite negative => negative
    | .finite negative _ _ => negative && !x.isZero
  if isNegative then
    fault host ("negative field index $".toList
      ++ (formatValues (fun _ => []) standardFormat [.number x]).1)
  else return (short (clamp x)).toNat

def field (n : Nat) : Run Value := do
  let m ← get
  if n = 0 then return m.zero else return m.fields[n - 1]?.getD (.text [])

def setField
    (host : Host)
    (n : Nat)
    (v : Value) :
    Run Unit := do
  if n = 0 then setRecord v
  else
    if (← get).fields.size < n then
      resize host n
      modify fun m => { m with count := none }
    modify fun m => { m with fields := m.fields.setIfInBounds (n - 1) v }
    rebuild

/-! ## Settings -/

def setting (s : Setting) : Run Value := do
  let m ← get
  match s with
  | .count => return m.count.getD (.ofNat m.fields.size)
  | .fieldSeparator => return m.fieldSeparator
  | .recordSeparator => return m.recordSeparator
  | .printFormat => return m.printFormat
  | .textFormat => return m.textFormat

def setSetting
    (host : Host)
    (s : Setting)
    (v : Value) :
    Run Unit := do
  let text ← textOf v
  match s with
  | .count => do
      let n := short (clamp v.toNumber)
      if n < 0 then fault host "negative value assigned to NF".toList
      resize host n.toNat
      modify fun m => { m with count := some v }
      rebuild
  | .fieldSeparator => do
      let found ← separatorOf host text
      modify fun m => { m with fieldSeparator := v, splitting := found }
  | .recordSeparator => do
      let found ← endingOf host text
      modify fun m => { m with recordSeparator := v, ending := found }
  | .printFormat => do
      if !isNumberFormat text then fault host ("illegal format assigned to OFMT: ".toList ++ text)
      modify fun m => { m with printFormat := v }
  | .textFormat => do
      if !isNumberFormat text then
        fault host ("illegal format assigned to CONVFMT: ".toList ++ text)
      modify fun m => { m with textFormat := v }

/-! ## Names -/

/-- What a variable holds. -/
def valueOf (n : Name) : Run Value := do
  let m ← get
  match n with
  | .shared i => return m.shared[i]?.getD .unset
  | .own i =>
      match m.own[i]? with
      | some (.value v) => return v
      | _ => return .unset

def setName (n : Name) (v : Value) : Run Unit :=
  modify fun m =>
    match n with
    | .shared i => { m with shared := m.shared.setIfInBounds i v }
    | .own i => { m with own := m.own.setIfInBounds i (.value v) }

/-- The number of the array that a name stands for. -/
def tableOf (n : Name) : Run Nat := do
  match n with
  | .shared i => return i
  | .own i =>
      match (← get).own[i]? with
      | some (.table index) => return index
      | _ => return 0

/-- Does something with an array. -/
def onTable
    {α : Type}
    (index : Nat)
    (f : Table → α × Table) :
    Run α := do
  modifyGet fun m =>
    let t := m.tables[index]?.getD .empty
    let rest := { m with tables := m.tables.setIfInBounds index .empty }
    let (a, after) := f t
    (a, { rest with tables := rest.tables.setIfInBounds index after })

def keyOf (v : Value) : Run Key := do
  match v with
  | .number x =>
      if x.isWhole then
        let n := (x.toInt?).getD 0
        if n = clamp x then return .number n
      return .text (← textOf v)
  | _ => return .text (← textOf v)

/-- The key that several values stand for, with a separator between them. -/
def keyOfAll (values : List Value) : Run Key := do
  match values with
  | [v] => keyOf v
  | _ => do
      let sep ← textOf (← sharedValue indexSeparator)
      return .text (Octets.intercalate sep (← values.mapM textOf))

end Run

end Records
end Tool
end Runbook
