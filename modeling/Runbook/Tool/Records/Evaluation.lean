import Runbook.Tool.Records.Streams

/-!
# Programs for records at work

Expressions and statements are carried out by cases. How a function is called is a parameter here, and
is settled at the end by the depth to which functions may call each other. Values that wait until others
are computed are counted, because there is room for only so many of them.
-/

namespace Runbook
namespace Tool
namespace Records

/-- What a program works with, and how its functions are called: with how many values waiting, and with
what is handed over. -/
structure Within where
  host : Host
  program : Program
  call : Nat → Nat → List Cell → Run Value

/-- A place that was found: a variable, a setting, a field by its number, or a cell of an array. -/
inductive Target where
  | variable (n : Name)
  | setting (s : Setting)
  | field (n : Nat)
  | cell (table cell : Nat)
  deriving DecidableEq, Repr, Inhabited

/-- How a statement ends: as usual, or in front of the end of a loop or of one of its rounds. -/
inductive Flow where
  | normal
  | break_
  | continue_
  deriving DecidableEq, Repr, Inhabited

namespace Run

/-! ## Places -/

/-- What a place holds. -/
def load (t : Target) : Run Value := do
  match t with
  | .variable n => valueOf n
  | .setting s => setting s
  | .field n => field n
  | .cell table cell => return ((← get).tables[table]?.getD .empty).value cell

def store (host : Host) (t : Target) (v : Value) : Run Unit :=
  match t with
  | .variable n => setName n v
  | .setting s => setSetting host s v
  | .field n => setField host n v
  | .cell table cell => onTable table fun found => ((), found.setValue cell v)

def cellOf (array : Name) (key : Key) : Run Target := do
  let table ← tableOf array
  let found ← onTable table fun t => t.cell? true key
  return .cell table (found.getD 0)

def hasKey (array : Name) (key : Key) : Run Bool := do
  let table ← tableOf array
  let found ← onTable table fun t => t.cell? false key
  return found.isSome

/-! ## Time -/

/-- How many rounds of loops and calls take their time together. -/
def batch : Nat := 32

/-- Lets a round of a loop or a call take some time. -/
def tick : Run Unit := do
  let m ← get
  if batch ≤ m.ticks then
    set { m with ticks := 0 }
    ask (.sleep (2 * batch))
  else set { m with ticks := m.ticks + 1 }

/-- Repeats a part of a program until it is told to stop. -/
def rounds (step : Run Bool) : Nat → Run Unit
  | 0 => pure ()
  | fuel + 1 => do
      tick
      if ← step then rounds step fuel

/-- Does a part of a program for each of some keys, until a round breaks the loop. -/
def forKeys (step : Octets → Run Flow) : List Octets → Run Unit
  | [] => pure ()
  | key :: rest => do
      tick
      match ← step key with
      | .break_ => pure ()
      | _ => forKeys step rest

/-! ## Operations -/

/-- The result of an operation with numbers. -/
def compute : Arithmetic → Binary → Binary → Binary
  | .add, x, y => x.add y
  | .sub, x, y => x.sub y
  | .mul, x, y => x.mul y
  | .div, x, y => x.div y
  | .rem, x, y => x.remainder y
  | .pow, x, y => x.pow y

/-- Whether an order is as wanted. -/
def fits : Relation → Ordering → Bool
  | .less, o => o = .lt
  | .atMost, o => o ≠ .gt
  | .equal, o => o = .eq
  | .different, o => o ≠ .eq
  | .greater, o => o = .gt
  | .atLeast, o => o ≠ .lt

/-- Whether a pattern occurs in a text. -/
def occurs (r : Regex) (s : Octets) : Bool :=
  Regex.occurs r (Regex.subject false s)

/-- Looks for a match, and notes where it is. -/
def search (r : Regex) (s : Octets) : Run Value := do
  let (start, length) : Int × Int := match Regex.search? r (Regex.subject false s) 0 with
    | some (a, b, _) => ((a : Int) + 1, (b : Int) - a)
    | none => (0, -1)
  setName matchStart (.ofInt start)
  setName matchLength (.ofInt length)
  return .ofInt start

/-- Changes a place by one. The result is its number before or behind that. -/
def change
    (host : Host)
    (t : Target)
    (up before : Bool) :
    Run Value := do
  let x := (← load t).toNumber
  let y := if up then x.add (Binary.ofNat 1) else x.sub (Binary.ofNat 1)
  store host t (.number y)
  return .number (if before then y else x)

/-- Takes a record into a place or in the place of the one at hand. The result is one if there was one,
zero at the end, and -1 if the stream cannot be read. -/
def receive
    (host : Host)
    (into : Option Target)
    (row : Option (Option Octets)) :
    Run Value := do
  match row with
  | none => return .ofInt (-1)
  | some none => return .ofNat 0
  | some (some s) => do
      match into with
      | some t => store host t (.input s)
      | none => setRecord (.input s)
      return .ofNat 1

end Run

open Run

mutual

/-- The place that an expression for one stands for, with so many values waiting. -/
def locate (w : Within) (n : Nat) : Place → Run Target
  | .variable name => return .variable name
  | .setting s => return .setting s
  | .field index => do return .field (← fieldNumber w.host (← evaluate w n index))
  | .element array index => do
      let key ← keyOfAll (← evaluateAll w n index)
      cellOf array key

/-- The pattern of what is looked for. -/
def matcher (w : Within) (n : Nat) : Matcher → Run Regex
  | .fixed r => return r
  | .computed e => do patternOf w.host (← textOf (← evaluate w n e))

def splitter (w : Within) (n : Nat) : Splitter → Run Separator
  | .fixed s => return s
  | .computed e => do separatorOf w.host (← textOf (← evaluate w n e))

def evaluateAll (w : Within) (n : Nat) : List Expr → Run (List Value)
  | [] => return []
  | e :: rest => do
      let v ← evaluate w n e
      return v :: (← evaluateAll w (n + 1) rest)

/-- What is handed to a function whose names are used in some ways. -/
def handed (w : Within) (n : Nat) : List Argument → List Kind → Run (List Cell)
  | [], _ => return []
  | .value e :: rest, kinds => do
      let v ← evaluate w n e
      return .value v :: (← handed w (n + 1) rest (kinds.drop 1))
  | .name name :: rest, kinds => do
      let cell : Cell ←
        if kinds.head? = some .array then pure (.table (← tableOf name))
        else pure (.value (← valueOf name))
      return cell :: (← handed w (n + 1) rest (kinds.drop 1))

/-- The place that an expression for one stands for, if there is one. -/
def locateSome (w : Within) (n : Nat) : Option Place → Run (Option Target)
  | none => return none
  | some p => do return some (← locate w n p)

/-- The value of an expression, with so many values waiting. -/
def evaluate (w : Within) (n : Nat) : Expr → Run Value
  | .number x => return .number x
  | .text s => return .text s
  | .pattern r => do return .ofBool (occurs r (← textOf (← get).zero))
  | .read p => do load (← locate w n p)
  | .assign p none e => do
      let t ← locate w n p
      let v ← evaluate w (n + 1) e
      store w.host t v
      return v
  | .assign p (some op) e => do
      let t ← locate w n p
      let y ← evaluate w (n + 1) e
      let v := Value.number (compute op (← load t).toNumber y.toNumber)
      store w.host t v
      return v
  | .step p up before => do change w.host (← locate w n p) up before
  | .not_ e => do return .ofBool (!(← evaluate w n e).holds)
  | .negate e => do return .number (← evaluate w n e).toNumber.negate
  | .plain e => do return .number (← evaluate w n e).toNumber
  | .arithmetic op a b => do
      let x ← evaluate w n a
      let y ← evaluate w (n + 1) b
      return .number (compute op x.toNumber y.toNumber)
  | .join a b => do
      let x ← evaluate w n a
      let y ← evaluate w (n + 1) b
      let s ← textOf x
      return .text (s ++ (← textOf y))
  | .compare r a b => do
      let x ← evaluate w n a
      let y ← evaluate w (n + 1) b
      let format := formatOf (← get).textFormat
      return .ofBool (fits r (Value.compare format x y))
  | .matches_ wanted e m => do
      let x ← evaluate w n e
      let r ← matcher w (n + 1) m
      return .ofBool (occurs r (← textOf x) = wanted)
  | .and_ a b => do
      if (← evaluate w n a).holds then return .ofBool (← evaluate w n b).holds
      else return .ofNat 0
  | .or_ a b => do
      if (← evaluate w n a).holds then return .ofNat 1
      else return .ofBool (← evaluate w n b).holds
  | .choose c a b => do
      if (← evaluate w n c).holds then evaluate w n a else evaluate w n b
  | .member array index => do
      let key ← keyOfAll (← evaluateAll w n index)
      return .ofBool (← hasKey array key)
  | .call f arguments => do
      let kinds := (w.program.functions[f]?).elim [] Function.kinds
      let cells ← handed w n arguments kinds
      w.call n f cells
  | .builtin f arguments => do library w.host f (← evaluateAll w n arguments)
  | .sizeOf_ name => do
      let kind : Kind ← match name with
        | .shared i => pure ((w.program.names[i]?).elim .unknown Prod.snd)
        | .own i =>
            match (← get).own[i]? with
            | some (.table _) => pure .array
            | _ => pure .variable
      if kind = .array then
        let index ← tableOf name
        return .ofNat ((← get).tables[index]?.getD .empty).size
      else return .ofNat (← textOf (← valueOf name)).length
  | .split e array s => do
      let text ← textOf (← evaluate w n e)
      let separator ← splitterOrSetting w (n + 2) s
      let parts := (separator.split text).map Value.input
      let index ← tableOf array
      onTable index fun _ => ((), Table.ofParts parts)
      return .ofNat parts.length
  | .find e m => do
      let text ← textOf (← evaluate w n e)
      search (← matcher w (n + 1) m) text
  | .substitute all m by_ p => do
      let r ← matcher w n m
      let replacement ← textOf (← evaluate w (n + 1) by_)
      let t ← locate w (n + 2) p
      let (text, count) := replaceMatches r all replacement (← textOf (← load t))
      if 0 < count then store w.host t (.text text)
      return .ofNat count
  | .getline .main into => do
      let target ← locateSome w n into
      let row ← nextRecord w.host w.program Act.rounds
      receive w.host target (some row)
  | .getline (.file e) into => do
      let target ← locateSome w n into
      let name ← textOf (← evaluate w (n + 1) e)
      receive w.host target (← recordOf w.host false name)
  | .getline (.command e) into => do
      let name ← textOf (← evaluate w n e)
      let target ← locateSome w (n + 1) into
      receive w.host target (← recordOf w.host true name)

def splitterOrSetting (w : Within) (n : Nat) : Option Splitter → Run Separator
  | some s => splitter w n s
  | none => do return (← get).splitting

end

/-! ## Statements -/

/-- What is printed: the record, or values with what is put between them. -/
def printedRow (values : List Value) : Run Octets := do
  let behind ← textOf (← sharedValue outputRecordSeparator)
  let row ← match values with
    | [] => printedText (← get).zero
    | _ => do
        let sep ← textOf (← sharedValue outputFieldSeparator)
        pure (Octets.intercalate sep (← values.mapM printedText))
  return row ++ behind

/-- Prints to where something is directed to. -/
def deliver
    (w : Within)
    (count : Nat)
    (data : Octets) :
    Option (Direction × Expr) → Run Unit
  | none => say w.host data
  | some (d, e) => do
      let name ← textOf (← evaluate w (count + 1) e)
      sayTo w.host d name data

def printByFormat
    (w : Within)
    (values : List Value)
    (to_ : Option (Direction × Expr)) :
    Run Unit := do
  let format ← textOf (values.headD .unset)
  let number := formatOf (← get).textFormat
  let (text, wrong) := formatValues (Value.toText number) format (values.drop 1)
  deliver w values.length text to_
  match wrong with
  | none => pure ()
  | some e => fault w.host (printfMessage format e)

def evaluateSome (w : Within) : Option Expr → Run (Option Value)
  | none => return none
  | some e => do return some (← evaluate w 0 e)

mutual

def execute (w : Within) : Statement → Run Flow
  | .nothing => return .normal
  | .evaluate e => do
      let _ ← evaluate w 0 e
      return .normal
  | .print values to_ => do
      let row ← printedRow (← evaluateAll w 0 values)
      deliver w values.length row to_
      return .normal
  | .printf values to_ => do
      printByFormat w (← evaluateAll w 0 values) to_
      return .normal
  | .block body => executeAll w body
  | .if_ c yes no => do
      if (← evaluate w 0 c).holds then execute w yes else execute w no
  | .while_ c body => do
      let step : Run Bool := do
        if (← evaluate w 0 c).holds then return (← execute w body) ≠ .break_ else return false
      rounds step Act.rounds
      return .normal
  | .doWhile body c => do
      let step : Run Bool := do
        if (← execute w body) = .break_ then return false
        return (← evaluate w 0 c).holds
      rounds step Act.rounds
      return .normal
  | .for_ first c next body => do
      let _ ← evaluateSome w first
      let step : Run Bool := do
        let goesOn := match ← evaluateSome w c with
          | some v => v.holds
          | none => true
        if !goesOn then return false
        if (← execute w body) = .break_ then return false
        let _ ← evaluateSome w next
        return true
      rounds step Act.rounds
      return .normal
  | .forIn key array body => do
      let index ← tableOf array
      let keys ← onTable index Table.keys
      forKeys
        (fun k => do
          setName key (.text k)
          execute w body)
        keys
      return .normal
  | .break_ => return .break_
  | .continue_ => return .continue_
  | .next => throw .next
  | .nextFile => throw .nextFile
  | .exit status => do
      match ← evaluateSome w status with
      | some v => modify fun m => { m with status := ((clamp v.toNumber) % 256).toNat }
      | none => pure ()
      throw .exit
  | .return_ value => do
      throw (.return_ ((← evaluateSome w value).getD .unset))
  | .delete array index => do
      let key ← keyOfAll (← evaluateAll w 0 index)
      let table ← tableOf array
      onTable table fun t => ((), t.erase key)
      return .normal
  | .clear array => do
      let table ← tableOf array
      onTable table fun _ => ((), .empty)
      return .normal

/-- Carries out statements one after the other. -/
def executeAll (w : Within) : List Statement → Run Flow
  | [] => return .normal
  | s :: rest => do
      match ← execute w s with
      | .normal => executeAll w rest
      | flow => return flow

end

/-! ## Functions -/

/-- How many values may wait. -/
def room : Nat := 1006

/-- The names of a function, of which the first have what is handed over, and others nothing. The arrays
that nothing is handed over for are new. -/
def frameFrom : List Kind → List Cell → Run (List Cell)
  | [], _ => return []
  | _ :: kinds, c :: cells => do return c :: (← frameFrom kinds cells)
  | .array :: kinds, [] => do
      let m ← get
      set { m with tables := m.tables.push .empty }
      return .table m.tables.size :: (← frameFrom kinds [])
  | _ :: kinds, [] => do return .value .unset :: (← frameFrom kinds [])

/-- Carries out a function, with so many values waiting. -/
def invoke
    (w : Within)
    (n f : Nat)
    (cells : List Cell) :
    Run Value := do
  tick
  match w.program.functions[f]? with
  | none => return .unset
  | some function => do
      let m ← get
      let waiting := m.waiting + n + function.kinds.length
      if room < waiting then fail w.host "program limit exceeded: eval stack size=1024".toList
      let frame ← frameFrom function.kinds cells
      modify fun s => { s with own := frame.toArray, waiting := waiting }
      let body : Run Value := do
        let _ ← executeAll w function.body
        return .unset
      let result ← tryCatch body fun h =>
        match h with
        | .return_ v => return v
        | other => throw other
      modify fun s =>
        { s with
          own := m.own
          waiting := m.waiting
          tables := s.tables.extract 0 m.tables.size }
      return result

/-- The signal for a process that has run out of room. -/
def noRoom : Nat := 11

/-- What a program works with when its functions may call each other so deep. -/
def withinOf
    (host : Host)
    (program : Program) :
    Nat → Within
  | 0 =>
      ⟨host, program, fun _ _ _ => do
        let self : Nat ← ask .self
        let _ ← ask (.kill self noRoom)
        throw (.fault 2)⟩
  | depth + 1 => ⟨host, program, invoke (withinOf host program depth)⟩

/-! ## Rules -/

/-- The record with what is put behind it. -/
def printRecord (w : Within) : Run Unit := do
  say w.host (← printedRow [])

/-- Carries out the statements of a rule. -/
def carryOut (w : Within) : Option (List Statement) → Run Unit
  | none => printRecord w
  | some body => do
      let _ ← executeAll w body

/-- Applies a rule to the record at hand. The number of the rule tells which range it is. -/
def applyRule (w : Within) (number : Nat) (r : Rule) : Run Unit := do
  match r.condition with
  | .always => carryOut w r.body
  | .when_ e => do
      if (← evaluate w 0 e).holds then carryOut w r.body
  | .range first last => do
      let isOpen := (← get).open_[number]?.getD false
      let begins ← if isOpen then pure true else pure (← evaluate w 0 first).holds
      if begins then
        let ends := (← evaluate w 0 last).holds
        modify fun m => { m with open_ := m.open_.setIfInBounds number (!ends) }
        carryOut w r.body

/-- Applies rules to the record at hand, in order. -/
def applyRules (w : Within) : Nat → List Rule → Run Unit
  | _, [] => pure ()
  | number, r :: rest => do
      applyRule w number r
      applyRules w (number + 1) rest

/-- A state that is not inside of a function. -/
def outside (m : Memory) : Memory :=
  { m with own := #[], waiting := 0 }

/-- Takes a record and applies the rules to it. Tells whether there was one. -/
def round (w : Within) : Run Bool := do
  match ← nextRecord w.host w.program Act.rounds with
  | none => return false
  | some s => do
      setRecord (.input s)
      tryCatch (applyRules w 0 w.program.rules) fun h => do
        let count := w.program.names.size
        modify fun m => { outside m with tables := m.tables.extract 0 count }
        match h with
        | .next => pure ()
        | .nextFile => leaveFile
        | other => throw other
      return true

/-- Carries out statements, up to where they are told to exit. Tells whether they were not. -/
def untilExit (body : Run Unit) : Run Bool := do
  let all : Run Bool := do
    body
    return true
  tryCatch all fun h =>
    match h with
    | .exit => do
        modify outside
        return false
    | other => throw other

/-- Carries out a program: what comes first, the rules for each record, and what comes last, which is
carried out also behind an exit. -/
def perform (w : Within) : Run Unit := do
  let p := w.program
  let first : Run Unit := do
    let _ ← executeAll w p.first
  let records : Run Unit := do
    if !p.rules.isEmpty || p.hasLast then rounds (round w) Act.rounds
  let last : Run Unit := do
    let _ ← executeAll w p.last
  let goesOn ← untilExit do
    first
    records
  let _ := goesOn
  let _ ← untilExit last

end Records
end Tool
end Runbook
