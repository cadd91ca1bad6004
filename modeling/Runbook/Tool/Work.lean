import Runbook.Format.Field
import Runbook.Machine.Program

/-!
# Quoting and the work of tools

What all tools have in common: how they write, and how they complain.
-/

namespace Runbook
namespace Tool

/-!
## Quoted names

Messages show names between quotes, so that one sees where they begin and end. There are two ways:
in the manner of the shell, where a name could be copied into a command, and with a backslash in front
of whatever is not plain.
-/

namespace Quoting

/-- Whether a character shows by itself. -/
def isPrintable (c : Char) : Bool :=
  ' ' ≤ c && c ≤ '~'

/-- The letter that stands for a control character behind a backslash. -/
def controlLetter? : Char → Option Char
  | '\x07' => some 'a'
  | '\x08' => some 'b'
  | '\x0c' => some 'f'
  | '\n' => some 'n'
  | '\r' => some 'r'
  | '\t' => some 't'
  | '\x0b' => some 'v'
  | _ => none

/-- The code of a character in three octal digits. -/
def octalCode (c : Char) : Octets :=
  Octets.padLeft 3 '0' (Nat.toDigits 8 c.toNat)

/-- A character that does not show, behind a backslash. -/
def escaped (c : Char) : Octets :=
  match controlLetter? c with
  | some letter => ['\\', letter]
  | none => '\\' :: octalCode c

/-- Whether the shell gives a character a meaning of its own at a place of a word. -/
def isSpecial
    (first : Bool)
    (c : Char) :
    Bool :=
  !isPrintable c || " !\"$&'()*;<=>?[\\^\x60|".toList.contains c || (first && (c = '#' || c = '~'))

/-- Whether a name means itself in the shell. -/
def isPlain (name : Octets) : Bool :=
  match name with
  | [] => false
  | ['\x7b'] => false
  | ['\x7d'] => false
  | c :: s => !isSpecial true c && s.all fun d => !isSpecial false d

/-- Whether a character may stand between double quotes. -/
def isMild (c : Char) : Bool :=
  c.isAlphanum || " '%+,-./:]_#~@".toList.contains c

/-- A name between single quotes; `inside` tells whether the quotes for escapes are open. -/
def shellBody : Bool → Octets → Octets
  | _, [] => ['\'']
  | inside, c :: s =>
      if c = '\'' then
        (if inside then "''".toList else []) ++ "'\\''".toList ++ shellBody false s
      else if isPrintable c then
        (if inside then "''".toList else []) ++ c :: shellBody false s
      else
        (if inside then [] else "'$'".toList) ++ escaped c ++ shellBody true s

def shellAlways (name : Octets) : Octets :=
  if name.contains '\'' && name.all isMild then '"' :: name ++ ['"']
  else '\'' :: shellBody false name

/-- A name in quotes of the shell if it needs any. -/
def shell (name : Octets) : Octets :=
  if isPlain name then name else shellAlways name

/-- A name in quotes of the shell if a message that has a colon behind it needs any. -/
def shellBeforeColon (name : Octets) : Octets :=
  if isPlain name && !name.contains ':' then name else shellAlways name

/-- A name in quotes, with backslashes before what is not plain. -/
def plain (name : Octets) : Octets :=
  '\'' :: name.flatMap (fun c =>
    if c = '\'' || c = '\\' then ['\\', c]
    else if isPrintable c then [c]
    else escaped c) ++ ['\'']

end Quoting

/-!
## The work of tools

A tool writes to its output, complains about what goes wrong and goes on, or gives up. What it
writes is held back until there is a good deal of it, or until there is something to complain about.
-/

/-- What a tool keeps while it works: the name it was started by, its exit status so far, the status
for output that cannot be written, and the output held back, the newest first. -/
structure Bench where
  name : Octets
  status : Nat
  failure : Nat
  held : List Octets
  size : Nat
  deriving Inhabited

/-- The work of a tool, which may give up with an exit status. -/
abbrev Work := ExceptT Nat (StateT Bench Act)

namespace Work

/-- How much output is held back. -/
def holding : Nat := 4096

/-- Does something on the machine. -/
def act
    {α : Type}
    (a : Act α) :
    Work α :=
  ExceptT.lift (StateT.lift a)

def ask (call : Call) : Work call.Answer :=
  act (Act.ask call)

def giveUp
    {α : Type}
    (status : Nat) :
    Work α :=
  throw status

def setStatus (status : Nat) : Work Unit :=
  modify fun b => { b with status := status }

/-- Writes a line to the stream of errors, behind the name of the tool. -/
def grumble (message : Octets) : Work Unit := do
  act (Act.complain ((← get).name ++ ": ".toList ++ message ++ ['\n']))

/-- Writes what is held back. -/
def flush : Work Unit := do
  let b ← get
  if b.size = 0 then return
  set { b with held := [], size := 0 }
  match ← act (Act.writeTo 1 b.held.reverse.flatten) with
  | .ok () => pure ()
  | .error e => do
      grumble ("write error: ".toList ++ e.reason.toList)
      giveUp b.failure

/-- Writes to the output. -/
def say (data : Octets) : Work Unit := do
  if data.isEmpty then return
  modify fun b => { b with held := data :: b.held, size := b.size + data.length }
  if holding ≤ (← get).size then flush

/-- Writes a text to the output. -/
def sayText (text : String) : Work Unit :=
  say text.toList

/-- Writes a line to the output. -/
def sayLine (line : Octets) : Work Unit :=
  say (line ++ ['\n'])

/-- Complains, behind all output. -/
def warn (message : Octets) : Work Unit := do
  flush
  grumble message

/-- Complains about something that makes the tool fail in the end. -/
def complain (message : Octets) : Work Unit := do
  warn message
  setStatus (max 1 (← get).status)

def fail
    {α : Type}
    (status : Nat)
    (message : Octets) :
    Work α := do
  warn message
  giveUp status

def failText
    {α : Type}
    (status : Nat)
    (message : String) :
    Work α :=
  fail status message.toList

/-- Where to find out how a tool is used. -/
def hint : Work Unit := do
  let name := (← get).name
  act (Act.complain ("Try '".toList ++ name ++ " --help' for more information.\n".toList))

/-- Complains about how the tool is used, and gives up. -/
def misuse
    {α : Type}
    (status : Nat)
    (message : Octets) :
    Work α := do
  warn message
  hint
  giveUp status

/-- Complains about how the tool is used, with the name of the tool in front of the hint too, and gives
up. -/
def refuse
    {α : Type}
    (status : Nat)
    (message : Octets) :
    Work α := do
  warn message
  let name := (← get).name
  grumble ("Try '".toList ++ name ++ " --help' for more information.".toList)
  giveUp status

/-- Complains that there is no operand, or none behind another one. -/
def missingOperand
    {α : Type}
    (status : Nat)
    (last : Option Octets) :
    Work α :=
  misuse status (match last with
    | none => "missing operand".toList
    | some word => "missing operand after ".toList ++ Quoting.plain word)

/-- Complains about an operand too many. -/
def extraOperand
    {α : Type}
    (status : Nat)
    (word : Octets) :
    Work α :=
  misuse status ("extra operand ".toList ++ Quoting.plain word)

/-- A result, or a complaint about its fault that ends the work. -/
def orFail
    {α : Type}
    (status : Nat)
    (message : FileFault → Octets) :
    Except FileFault α → Work α
  | .ok a => pure a
  | .error e => fail status (message e)

/-- Does something for each member of a list, in order. -/
def forAll
    {α : Type}
    (body : α → Work Unit) :
    List α → Work Unit
  | [] => pure ()
  | a :: rest => do
      body a
      forAll body rest

/-- Goes through a list with a value that changes on the way. -/
def foldAll
    {α β : Type}
    (body : β → α → Work β) :
    β → List α → Work β
  | b, [] => pure b
  | b, a :: rest => do foldAll body (← body b a) rest

/-- Repeats a step until it gives a result. -/
def repeat_
    {α β : Type}
    (limit : β)
    (step : α → Work (α ⊕ β)) :
    Nat → α → Work β
  | 0, _ => pure limit
  | fuel + 1, a => do
      match ← step a with
      | .inl next => repeat_ limit step fuel next
      | .inr result => return result

/-- Does the work of a tool to its end, and gives the exit status. -/
def perform
    (name : Octets)
    (failure : Nat)
    (body : Work Unit) :
    Act Nat := do
  let (result, b) ← StateT.run (ExceptT.run body) ⟨name, 0, failure, [], 0⟩
  let (last, after) ← StateT.run (ExceptT.run flush) b
  match last, result with
  | .error status, _ => return status
  | .ok (), .error status => return status
  | .ok (), .ok () => return after.status

end Work

/-- A tool that works without starting programs. Output that cannot be written makes it end with a
status. -/
def simple
    (failure : Nat)
    (body : List Octets → Work Unit) :
    Tool :=
  fun _ start => Work.perform start.name failure (body start.arguments)

end Tool
end Runbook
