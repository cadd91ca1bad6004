import Runbook.Text.Octets
import Runbook.Tool.Records.Evaluation
import Runbook.Tool.Records.Statements
import Runbook.Tool.Target

/-!
# Starting programs for records

What a program for records is started with, and how it is carried out.
-/

namespace Runbook
namespace Tool
namespace Records

/-!
## What a program for records is started with

The words in front of a program say where it is found, what separates the fields, and which names have a
value from the start. Words that ask for nothing of the kind are passed over or refused.
-/

/-- What a word in front of a program asks for: a file with a part of the program, a file with all of
it, a separator, a value for a name, to be told how the tool is used, to pass over what means nothing,
or to give up with a complaint. -/
inductive Request where
  | program (file : Octets)
  | whole (file : Octets)
  | separator (text : Octets)
  | assignment (word : Octets)
  | usage
  | passOver (option : Octets)
  | refuse (complaint : Octets)
  deriving DecidableEq, Repr, Inhabited

/-- What an option with a name of several letters does. -/
inductive Extra where
  | nothing
  | number
  | file
  | usage
  deriving DecidableEq, Repr, Inhabited

namespace Request

/-- The options with names of several letters, which may be written behind a letter. -/
def extras : List (String × Extra) :=
  [ ("exec", .file), ("help", .usage), ("interactive", .nothing), ("posix", .nothing),
    ("random", .number), ("sprintf", .number), ("traditional", .nothing), ("usage", .usage) ]

/-- The options with names of several letters, which are written behind two signs. -/
def longExtras : List (String × Extra) :=
  extras ++ [("lint", .nothing), ("lint-old", .nothing), ("non-decimal-data", .nothing),
    ("re-interval", .nothing)]

/-- The options whose names begin with a text, or the one whose name it is. -/
def candidates (table : List (String × Extra)) (name : Octets) : List (String × Extra) :=
  match table.find? fun e => e.1.toList = name with
  | some e => [e]
  | none => if name.isEmpty then [] else table.filter fun e => name.isPrefixOf e.1.toList

/-- Whether a text is a number for an option. -/
def isNumeral (s : Octets) : Bool :=
  let digits := match s with
    | '-' :: rest => rest
    | '+' :: rest => rest
    | _ => s
  !digits.isEmpty && digits.all Char.isDigit

/-- What an option asks for, as it is written with its value, where words follow. The words that are
left come with it, and whether options may follow. -/
def ofExtra
    (kind : Extra)
    (written : Octets)
    (value : Option Octets)
    (rest : List Octets) :
    List Request × List Octets × Bool :=
  match kind, value with
  | .usage, _ => ([.usage], rest, false)
  | .nothing, none => ([], rest, true)
  | .nothing, some _ =>
      ([.refuse ("unexpected option value \"".toList ++ written ++ ['"'])], rest, false)
  | .number, some (c :: v) => (numeral (c :: v), rest, true)
  | .number, _ =>
      match rest with
      | v :: more => (numeral v, more, true)
      | [] => ([], [], true)
  | .file, some (c :: v) => ([.whole (c :: v)], rest, false)
  | .file, _ =>
      match rest with
      | v :: more => ([.whole v], more, false)
      | [] => ([], [], false)
where
  /-- What a number asks for. -/
  numeral (v : Octets) : List Request :=
    if isNumeral v then [] else [.refuse ("invalid numeric option: \"".toList ++ v ++ ['"'])]

/-- The name in front of an equals sign, and the value behind it. -/
def nameAndValue (text : Octets) : Octets × Option Octets :=
  let name := text.takeWhile (· ≠ '=')
  (name, if name.length < text.length then some (text.drop (name.length + 1)) else none)

/-- What options ask for that are written behind a letter, with commas between them. -/
def ofList : Nat → Octets → List Octets → List Request × List Octets × Bool
  | 0, _, rest => ([], rest, true)
  | _, [], rest => ([], rest, true)
  | fuel + 1, text, rest =>
      let first := text.takeWhile (· ≠ ',')
      let others := text.drop (first.length + 1)
      let (name, value) := nameAndValue first
      let (asked, left, goesOn) := match candidates extras name with
        | (_, kind) :: _ => ofExtra kind first value rest
        | [] => ([.passOver text], rest, true)
      if goesOn then
        let (more, last, still) := ofList fuel others left
        (asked ++ more, last, still)
      else (asked, left, false)

/-- What an option asks for that is written behind two signs. -/
def ofLong
    (text : Octets)
    (rest : List Octets) :
    List Request × List Octets × Bool :=
  let (name, value) := nameAndValue text
  match candidates longExtras name with
  | [] => ([.refuse ("not an option: --".toList ++ text)], rest, false)
  | [(_, kind)] => ofExtra kind text value rest
  | (a, _) :: (b, _) :: _ =>
      ([.refuse ("ambiguous long option: \"--".toList ++ text ++ "\" (--".toList ++ a.toList
        ++ " vs --".toList ++ b.toList ++ [')'])], rest, false)

def ofValue? (letter : Char) (value : Octets) : Option Request :=
  match letter with
  | 'F' => some (.separator value)
  | 'f' => some (.program value)
  | 'v' => some (.assignment value)
  | _ => none

/-- What the words in front of a program ask for, and the words that are left. -/
def readAll : Nat → List Octets → List Request × List Octets
  | 0, words => ([], words)
  | _, [] => ([], [])
  | fuel + 1, word :: rest =>
      let continued (found : List Request × List Octets × Bool) : List Request × List Octets :=
        if found.2.2 then
          let (more, last) := readAll fuel found.2.1
          (found.1 ++ more, last)
        else (found.1, found.2.1)
      match word with
      | ['-', '-'] => ([], rest)
      | '-' :: '-' :: text => continued (ofLong text rest)
      | '-' :: letter :: text =>
          if letter = 'W' || (ofValue? letter []).isSome then
            match text, rest with
            | [], [] =>
                ([.refuse ("option -".toList ++ letter :: " lacks argument".toList)], [])
            | [], value :: more => continued (ofLetter letter value more)
            | _ :: _, _ => continued (ofLetter letter text rest)
          else ([.refuse ("not an option: ".toList ++ word)], rest)
      | _ => ([], word :: rest)
where
  /-- What an option with a value asks for, where words follow. -/
  ofLetter (letter : Char) (value : Octets) (rest : List Octets) :
      List Request × List Octets × Bool :=
    match ofValue? letter value with
    | some request => ([request], rest, true)
    | none => ofList (value.length + 1) value rest

end Request

def usageText : String :=
  "Usage: mawk [Options] [Program] [file ...]\n\nProgram:\n"
    ++ "    The -f option value is the name of a file containing program text.\n"
    ++ "    If no -f option is given, a \"--\" ends option processing; the following\n"
    ++ "    parameters are the program text.\n\nOptions:\n"
    ++ "    -f program-file  Program  text is read from file instead of from the\n"
    ++ "                     command-line.  Multiple -f options are accepted.\n"
    ++ "    -F value         sets the field separator, FS, to value.\n"
    ++ "    -v var=value     assigns value to program variable var.\n"
    ++ "    --               unambiguous end of options.\n\n"
    ++ "    Implementation-specific options are prefixed with \"-W\".  They can be\n"
    ++ "    abbreviated:\n\n"
    ++ "    -W version       show version information and exit.\n"
    ++ "    -W compat        pre-POSIX 2001.\n"
    ++ "    -W dump          show assembler-like listing of program and exit.\n"
    ++ "    -W help          show this message and exit.\n"
    ++ "    -W interactive   set unbuffered output, line-buffered input.\n"
    ++ "    -W exec file     use file as program as well as last option.\n"
    ++ "    -W posix         stricter POSIX checking.\n"
    ++ "    -W random=number set initial random seed.\n"
    ++ "    -W sprintf=number adjust size of sprintf buffer.\n"
    ++ "    -W usage         show this message and exit.\n"

/-!
## The tool for records

The tool reads a program, from its words or from files, and carries it out. What the program has written
is delivered at the end, first to the commands that it started.
-/

/-- A program of which nothing is known but the names that every program has. -/
def Program.blank : Program :=
  ⟨[], [], [], false, false, #[], (givenNames.map fun e => (e.1.toList, e.2)).toArray⟩

/-- The memory in front of all work. -/
def Memory.start (seed : Nat) : Memory :=
  { shared := #[.ofNat 0, .ofNat 0, .text [], .text [' '], .text ['\n'], .text ['\x1c'],
      .ofNat 0, .ofInt (-1), .unset, .unset, .unset]
    tables := Program.blank.names.map fun _ => .empty
    own := #[]
    zero := .text []
    fields := #[]
    count := none
    fieldSeparator := .text [' ']
    splitting := .gaps
    recordSeparator := .text ['\n']
    ending := .char '\n'
    printFormat := .text standardFormat
    textFormat := .text standardFormat
    open_ := #[]
    seed := Binary.ofNat seed
    chance := seed
    status := 0
    output := ⟨Run.outputName, false, 1, none, [], 0⟩
    sinks := []
    feeds := []
    main := none
    place := 1
    anyFile := false
    taken := 0
    takenInFile := 0
    ticks := 0
    waiting := 0 }

namespace Run

/-! ### Before the program -/

/-- A program that is about to be read: what is known of it, the files that hold it, and whether there
were faults. -/
structure Draft where
  known : Program
  files : List Octets
  faulty : Bool
  deriving Inhabited

/-- Does something with a separator from outside; a pattern that cannot be read is noted. -/
def separated
    (host : Host)
    (text : Octets)
    (d : Draft)
    (body : Run Unit) :
    Run Draft := do
  match Pattern.separator text with
  | .ok _ => do
      body
      return d
  | .error message => do
      act (Act.complain (host.name ++ ": line 0: ".toList ++ Pattern.complaint message text ++ ['\n']))
      return { d with faulty := true }

/-- The name of what separates fields. -/
def separatorName : Octets :=
  "FS".toList

/-- Gives a value to a name of the program, which is known from then on. -/
def preset
    (host : Host)
    (d : Draft)
    (name value : Octets) :
    Run Draft := do
  let isGiven := (settings.lookup (String.ofList name)).isSome
    || d.known.names.any fun e => e.1 = name
  let known := if isGiven || isReserved name then d.known
    else { d.known with names := d.known.names.push (name, .variable) }
  modify fun m =>
    { m with
      shared := m.shared ++ Array.replicate (known.names.size - m.shared.size) .unset
      tables := m.tables ++ Array.replicate (known.names.size - m.tables.size) .empty }
  let next := { d with known := known }
  if name = separatorName || name = "RS".toList then
    separated host (Parse.unescape (value.length + 1) value) next (assign host known name value)
  else do
    assign host known name value
    return next

/-- Does what a word in front of the program asks for. -/
def prepare
    (host : Host)
    (d : Draft)
    (r : Request) :
    Run Draft := do
  match r with
  | .program file => return { d with files := d.files ++ [file] }
  | .whole file =>
      if d.files.isEmpty then return { d with files := [file] }
      else fail host "-W exec is incompatible with -f".toList
  | .separator text => preset host d separatorName text
  | .assignment word =>
      match assignment? word with
      | some (name, value) => preset host d name value
      | none => fail host ("improper assignment: -v ".toList ++ word)
  | .usage => do
      say host usageText.toList
      throw .exit
  | .passOver option => do
      act (Act.complain (host.name ++ ": vacuous option: -W \"".toList ++ option ++ "\"\n".toList))
      return d
  | .refuse complaint => fail host complaint

def programIn
    (host : Host)
    (file : Octets) :
    Run (Octets × Octets) := do
  let data ← if isStandard file then act (Act.readAll 0)
    else do
      match ← ask (.openFile file .reading) with
      | .error e =>
          fail host ("cannot open \"".toList ++ file ++ "\" (".toList ++ e.reason.toList ++ [')'])
      | .ok d => do
          let data ← act (Act.readAll d)
          closeDescriptor d
          pure data
  match data with
  | .ok text => return (file, text ++ ['\n'])
  | .error e => fail host ("read error (".toList ++ e.reason.toList ++ [')'])

def tableFrom (entries : List (Key × Value)) : Table :=
  entries.foldl
    (fun t e => match t.cell? true e.1 with
      | (some cell, u) => u.setValue cell e.2
      | (none, u) => u)
    .empty

/-- Makes room for the names of a program, and hands it its variables and its words. -/
def equip
    (host : Host)
    (p : Program)
    (operands : List Octets) :
    Run Unit := do
  let own : Key × Value := (.number 0, .text host.name)
  let numbers := (List.range operands.length).map fun (i : Nat) => Key.number ((i : Int) + 1)
  modify fun m =>
    let tables := m.tables ++ Array.replicate (p.names.size - m.tables.size) .empty
    { m with
      shared := m.shared ++ Array.replicate (p.names.size - m.shared.size) .unset
      tables := (tables.setIfInBounds 9
        (tableFrom (host.environment.map fun e => (.text e.1, .input e.2)))).setIfInBounds 10
        (tableFrom (own :: numbers.zip (operands.map Value.input)))
      open_ := Array.replicate p.rules.length false }
  setName wordCount (.ofNat (operands.length + 1))

/-- Reads the program that words tell of, and carries it out. -/
def start
    (host : Host)
    (depth : Nat)
    (arguments : List Octets) :
    Run Unit := do
  if arguments.isEmpty then
    act (Act.complain usageText.toList)
    throw .exit
  let (requests, rest) := Request.readAll (arguments.length + 1) arguments
  let d ← requests.foldlM (prepare host) ⟨.blank, [], false⟩
  let (texts, operands) ← match d.files, rest with
    | [], text :: operands => pure ([([], text ++ ['\n'])], operands)
    | files, operands => pure (← files.mapM (programIn host), operands)
  if texts.isEmpty || (d.files.isEmpty && rest.head? = some ['-']) then throw .exit
  match Program.read d.known.names texts with
  | .error messages => do
      messages.forM fun message =>
        act (Act.complain (host.name ++ ": ".toList ++ message ++ ['\n']))
      throw (.fault 2)
  | .ok p => do
      if d.faulty then throw (.fault 2)
      equip host p operands
      perform (withinOf host p depth)

/-! ### Behind the program -/

/-- Delivers what the program has written: to its commands, which are waited for, to the output, and to
its files. -/
def finish (host : Host) : Run Unit := do
  let m ← get
  set { m with sinks := [] }
  (m.sinks.filter Sink.isCommand).forM fun s => do
    let _ ← closeSink host s
  match ← pour (← get).output with
  | .ok out => modify fun s => { s with output := out }
  | .error e => failToClose host outputName e
  (m.sinks.filter fun s => !s.isCommand).forM fun s => do
    let _ ← closeSink host s

/-- The exit status of some work, which is another one at a fault. -/
def statusAfter
    (body : Run Unit)
    (usual : Run Nat) :
    Run Nat := do
  let all : Run Nat := do
    body
    usual
  tryCatch all fun h =>
    match h with
    | .fault status => return status
    | _ => usual

end Run

/-- How deep functions may call each other. -/
def callDepth : Nat := 10000

/-- The tool that carries out programs for records. -/
def tool : Tool :=
  fun launcher start => do
    let host : Host := ⟨PathText.last start.name, launcher, start.environment⟩
    let clock : Nat ← Act.ask .clock
    let work : Run Nat := do
      let status ← Run.statusAfter (Run.start host callDepth start.arguments)
        do return (← get).status
      Run.statusAfter (Run.finish host) (pure status)
    let (result, _) ← StateT.run (ExceptT.run work) (Memory.start (clock / 1000000))
    match result with
    | .ok status => return status
    | .error _ => return 2

end Records
end Tool
end Runbook
