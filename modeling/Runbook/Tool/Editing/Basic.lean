import Runbook.Tool.Editing.Cycle
import Runbook.Tool.Editing.Reading
import Runbook.Tool.Environment
import Runbook.Tool.Input
import Runbook.Tool.Making

/-!
# Editing lines

The tool that edits the lines of files by a script, and shows them or puts them in the place of the
files.
-/

namespace Runbook
namespace Tool
namespace Editing

/-! ## The state of the work -/

/-- How files are edited: each by itself, and in its place, where the name of a backup has a pattern. -/
structure Setting where
  manner : Manner
  separate : Bool
  inPlace : Bool
  backup : Octets
  unheld : Bool
  launcher : Launcher
  environment : Variables

/-- A file that is edited in its place: its path, the path of what it becomes, and the descriptor of
that. -/
structure Exchange where
  path : Octets
  fresh : Octets
  descriptor : Nat
  deriving DecidableEq, Repr, Inhabited

/-- The work under way: the editor, the file that is read and those that follow, whether a file was read
before, the file that is edited in its place, the descriptors of the files that are written, and the
files that single lines are read from. -/
structure Session where
  editor : Editor
  reader : Option Reader
  files : List Octets
  begun : Bool
  exchange : Option Exchange
  sinks : List (Octets × Nat)
  sources : List (Octets × Option Reader)
  deriving Inhabited

/-! ## Output -/

/-- Complains, ahead of the output that is held back, and gives up. -/
def stop
    {α : Type}
    (status : Nat)
    (message : Octets) :
    Work α := do
  Work.grumble message
  Work.giveUp status

/-- Holds output back. -/
def hold (data : Octets) : Work Unit :=
  modify fun b => { b with held := data :: b.held, size := b.size + data.length }

/-- Writes output that is held back. -/
def pour : Work Unit := do
  let b ← get
  set { b with held := [], size := 0 }
  match ← Work.act (Act.writeTo 1 b.held.reverse.flatten) with
  | .ok () => pure ()
  | .error e => stop 4 ("couldn't flush stdout: ".toList ++ e.reason.toList)

/-- Writes a text to where it belongs. -/
def putOut
    (s : Session)
    (piece : Sink × Octets) :
    Work Unit := do
  let descriptor := match piece.1, s.exchange with
    | .main, some x => x.descriptor
    | .main, none => 1
    | .file path, _ => (s.sinks.lookup path).getD 1
  if descriptor = 1 then hold piece.2
  else
    match ← Work.act (Act.writeTo descriptor piece.2) with
    | .ok () => pure ()
    | .error e =>
        let name := match piece.1 with
          | .main => "stdout".toList
          | .file path => path
        let unit : Octets := if piece.2.length = 1 then " item to ".toList else " items to ".toList
        stop 4 ("couldn't write ".toList ++ Octets.ofNat piece.2.length ++ unit ++ name
          ++ ": ".toList ++ e.reason.toList)

/-- Delivers what the editor wrote. -/
def deliver
    (setting : Setting)
    (s : Session) :
    Work Session := do
  Work.forAll (putOut s) s.editor.said.reverse
  if setting.unheld || Work.holding ≤ (← get).size then pour
  return { s with editor := { s.editor with said := [] } }

/-! ## Input -/

/-- The name of a backup: a pattern with the name of the file in the place of each star, or behind the
name. -/
def backupPath
    (pattern path : Octets) :
    Octets :=
  let base := PathText.last path
  let name := if pattern.contains '*' then pattern.flatMap fun c => if c = '*' then base else [c]
    else base ++ pattern
  if name.contains '/' then name
  else path.take (path.length - base.length) ++ name

/-- Begins to edit a file in its place. -/
def beginExchange
    (path : Octets)
    (mode : Nat) :
    Work Exchange := do
  let directory := path.take (path.length - (PathText.last path).length)
  let clock : Nat ← Work.ask .clock
  let self : Nat ← Work.ask .self
  let fresh := (if directory.isEmpty then "./".toList else directory)
    ++ fillTemplate (clock + 7919 * self) "sedXXXXXX".toList
  match ← Work.ask (.openFile fresh .fresh) with
  | .ok d => do
      let _ ← Work.ask (.permit fresh mode)
      return ⟨path, fresh, d⟩
  | .error e =>
      stop 4 ("couldn't open temporary file ".toList ++ fresh ++ ": ".toList ++ e.reason.toList)

/-- Ends the work on a file: what it becomes is put in its place. -/
def endFile
    (setting : Setting)
    (s : Session) :
    Work Session := do
  let s ← deliver setting s
  match s.reader with
  | some r => Work.closeInput r.descriptor
  | none => pure ()
  match s.exchange with
  | none => return { s with reader := none }
  | some x => do
      let _ ← Work.ask (.close x.descriptor)
      if !setting.backup.isEmpty then
        let kept := backupPath setting.backup x.path
        match ← Work.ask (.rename x.path kept) with
        | .ok () => pure ()
        | .error e =>
            stop 4 ("cannot rename ".toList ++ x.path ++ ": ".toList ++ e.reason.toList)
      match ← Work.ask (.rename x.fresh x.path) with
      | .ok () => pure ()
      | .error e =>
          stop 4 ("cannot rename ".toList ++ x.fresh ++ ": ".toList ++ e.reason.toList)
      let editor := { s.editor with open_ := s.editor.open_.filter (· ≠ .main) }
      return { s with reader := none, exchange := none, editor := editor }

/-- Complains about a file that cannot be read. -/
def complainUnread
    (path : Octets)
    (e : FileFault) :
    Work Unit := do
  Work.grumble ("can't read ".toList ++ path ++ ": ".toList ++ e.reason.toList)
  Work.setStatus 2

def atFile
    (script : Script)
    (setting : Setting)
    (name : Octets)
    (descriptor : Nat)
    (exchange : Option Exchange)
    (s : Session) :
    Session :=
  let named := { s.editor with name := name }
  { s with
    reader := some (Reader.of descriptor)
    exchange := exchange
    begun := true
    editor := if setting.separate && s.begun then named.restart script else named }

/-- Begins to read a file, if that is possible. -/
def openNext
    (script : Script)
    (setting : Setting)
    (path : Octets)
    (s : Session) :
    Work Session := do
  if path = Work.dash && !setting.inPlace then
    return atFile script setting path 0 none s
  else if setting.inPlace then
    match ← Work.ask (.status path true) with
    | .error e => do
        complainUnread path e
        return s
    | .ok status => do
        if status.kind ≠ .file then
          stop 4 ("couldn't edit ".toList ++ path ++ ": not a regular file".toList)
        match ← Work.ask (.openFile path .reading) with
        | .error e => do
            complainUnread path e
            return s
        | .ok d => return atFile script setting path d (some (← beginExchange path status.mode)) s
  else
    match ← Work.ask (.openFile path .reading) with
    | .error e => do
        complainUnread path e
        return s
    | .ok d => return atFile script setting path d none s

/-- The next line of the files, if there is one. -/
def nextRow
    (script : Script)
    (setting : Setting) :
    Nat → Session → Work (Option (Octets × Bool) × Session)
  | 0, s => return (none, s)
  | fuel + 1, s => do
      match s.reader with
      | none =>
          match s.files with
          | [] => return (none, s)
          | path :: rest =>
              nextRow script setting fuel (← openNext script setting path { s with files := rest })
      | some r =>
          match ← r.row setting.manner.stop with
          | .error e =>
              stop 4 ("read error on ".toList ++ s.editor.name ++ ": ".toList
                ++ e.reason.toList)
          | .ok ([], _) => nextRow script setting fuel (← endFile setting s)
          | .ok (row, after) =>
              return (some (cutRow setting.manner.stop row), { s with reader := some after })

/-- Whether one of some files holds anything. -/
def anyHolds : List Octets → Work Bool
  | [] => return false
  | path :: rest => do
      match ← Work.ask (.openFile path .reading) with
      | .error _ => anyHolds rest
      | .ok d => do
          let data ← Work.ask (.read d 1)
          let _ ← Work.ask (.close d)
          match data with
          | .ok (_ :: _) => return true
          | _ => anyHolds rest

/-- Whether no line follows the one at hand. -/
def isLastLine
    (setting : Setting)
    (s : Session) :
    Work (Bool × Session) := do
  let others : Work Bool := do
    if setting.separate then return true else return !(← anyHolds s.files)
  match s.reader with
  | none => return (← others, s)
  | some r =>
      match ← r.next with
      | .error _ => return (← others, s)
      | .ok ([], after) => return (← others, { s with reader := some after })
      | .ok (data, after) =>
          return (false, { s with reader := some { after with ahead := data } })

/-! ## Answers -/

/-- Writes what was added for the end of the cycle. -/
def writeAdditions
    (setting : Setting)
    (s : Session) :
    Work Session := do
  let editor ← Work.foldAll
    (fun (e : Editor) a => do
      match a with
      | .text t => return e.write setting.manner .main t true
      | .file path =>
          let data ← if path = "/dev/stdin".toList then Work.act (Act.readAll 0)
            else Work.act (Act.readFile path)
          return e.write setting.manner .main (data.toOption.getD []) true)
    { s.editor with additions := [] } s.editor.additions.reverse
  return { s with editor := editor }

/-- Takes the next line, alone or behind what is at hand; the work ends if there is none. -/
def takeNext
    (script : Script)
    (setting : Setting)
    (more : Bool)
    (s : Session) :
    Work (Option Session) := do
  let s ← deliver setting (← writeAdditions setting s)
  let (row?, s) ← nextRow script setting (2 * s.files.length + 4) s
  match row? with
  | none => return none
  | some (text, ended) =>
      return some { s with editor := s.editor.take setting.manner more text ended }

/-- Ends the work early: what was read of the input and not used is given back. -/
def endEarly
    (setting : Setting)
    (s : Session) :
    Work Session := do
  match s.reader with
  | some r => if r.descriptor = 0 then r.giveBack
  | none => pure ()
  endFile setting s

/-- A line of a file that single lines are read from. -/
def lineOf
    (setting : Setting)
    (path : Octets)
    (s : Session) :
    Work Session := do
  let reader? ← match s.sources.lookup path with
    | some r => pure r
    | none =>
        match ← Work.ask (.openFile path .reading) with
        | .ok d => pure (some (Reader.of d))
        | .error _ => pure none
  let keep (r : Option Reader) (s : Session) : Session :=
    { s with sources := (path, r) :: s.sources.filter fun e => e.1 ≠ path }
  match reader? with
  | none => return keep none s
  | some r =>
      match ← r.row setting.manner.stop with
      | .ok (c :: row, after) =>
          return keep (some after) { s with editor := s.editor.add (.text (c :: row)) }
      | .ok (_, after) => return keep (some after) s
      | .error _ => return keep none s

/-- Puts what a command writes in the place of the line. -/
def becomeOutput
    (setting : Setting)
    (print : Bool)
    (file : Option Octets)
    (s : Session) :
    Work Session := do
  let (output, _) ← Starting.shellOutput setting.launcher setting.environment s.editor.here.text
  let text := if output.getLast? = some setting.manner.stop then output.dropLast else output
  let e := { s.editor with here := ⟨text, s.editor.here.ended⟩ }
  let shown := if print then e.show_ setting.manner .main else e
  return { s with editor := match file with
    | some path => shown.show_ setting.manner (.file path)
    | none => shown }

/-- How many steps are made in one stretch. -/
def stretch : Nat := 100000

/-- Goes on with the work until it ends. -/
def turn
    (script : Script)
    (setting : Setting)
    (noPattern : Octets)
    (s : Session) :
    Work (Session ⊕ (Session × Option Nat)) := do
  let (e, request) := s.editor.proceed setting.manner script stretch
  let s ← deliver setting { s with editor := e }
  match request with
  | .whetherLast => do
      let (last, s) ← isLastLine setting s
      return .inl { s with editor := { s.editor with last := some last } }
  | .newCycle => do
      match ← takeNext script setting false s with
      | none => return .inr ({ s with editor := { s.editor with additions := [] } }, none)
      | some s => return .inl { s with editor := { s.editor with place := 0 } }
  | .restart => do
      let s ← writeAdditions setting s
      return .inl { s with editor := { s.editor with place := 0 } }
  | .line more => do
      let (last, s) ← isLastLine setting s
      if last then return .inl { s with editor := { s.editor with place := script.steps.size } }
      else
        let shown := if more then s.editor else s.editor.showAtEnd setting.manner
        match ← takeNext script setting more { s with editor := shown } with
        | none => return .inr (s, none)
        | some s => return .inl s
  | .quit status => return .inr (← endEarly setting (← writeAdditions setting s), some status)
  | .run command => do
      let (output, _) ← Starting.shellOutput setting.launcher setting.environment command
      let e := if output.isEmpty then s.editor else s.editor.write setting.manner .main output true
      return .inl { s with editor := e }
  | .become print file => return .inl (← becomeOutput setting print file s)
  | .lineOf path => return .inl (← lineOf setting path s)
  | .noPattern => do
      Work.grumble noPattern
      return .inr (s, some 1)
  | .rest => do
      Work.ask (.sleep 1000000)
      return .inl s

/-! ## The tool -/

def forms : List OptionForm :=
  [ flag "n" ["quiet", "silent"], flag "debug" ["debug"], valued "e" ["expression"],
    valued "f" ["file"], flag "follow" ["follow-symlinks"], ⟨"i", ["in-place"], .maybe⟩,
    valued "l" ["line-length"], flag "posix" ["posix"], flag "E" ["regexp-extended"],
    flag "r" [], flag "s" ["separate"], flag "sandbox" ["sandbox"], flag "u" ["unbuffered"],
    flag "z" ["null-data", "zero-terminated"], flag "b" ["binary"] ]

def usageText : String :=
  "Usage: sed [OPTION]... \x7bscript-only-if-no-other-script\x7d [input-file]...\n\n"
    ++ "  -n, --quiet, --silent\n"
    ++ "                 suppress automatic printing of pattern space\n"
    ++ "      --debug\n"
    ++ "                 annotate program execution\n"
    ++ "  -e script, --expression=script\n"
    ++ "                 add the script to the commands to be executed\n"
    ++ "  -f script-file, --file=script-file\n"
    ++ "                 add the contents of script-file to the commands to be executed\n"
    ++ "  --follow-symlinks\n"
    ++ "                 follow symlinks when processing in place\n"
    ++ "  -i[SUFFIX], --in-place[=SUFFIX]\n"
    ++ "                 edit files in place (makes backup if SUFFIX supplied)\n"
    ++ "  -l N, --line-length=N\n"
    ++ "                 specify the desired line-wrap length for the \x60l' command\n"
    ++ "  --posix\n"
    ++ "                 disable all GNU extensions.\n"
    ++ "  -E, -r, --regexp-extended\n"
    ++ "                 use extended regular expressions in the script\n"
    ++ "                 (for portability use POSIX -E).\n"
    ++ "  -s, --separate\n"
    ++ "                 consider files as separate rather than as a single,\n"
    ++ "                 continuous long stream.\n"
    ++ "      --sandbox\n"
    ++ "                 operate in sandbox mode (disable e/r/w commands).\n"
    ++ "  -u, --unbuffered\n"
    ++ "                 load minimal amounts of data from the input files and flush\n"
    ++ "                 the output buffers more often\n"
    ++ "  -z, --null-data\n"
    ++ "                 separate lines by NUL characters\n"
    ++ "      --help     display this help and exit\n"
    ++ "      --version  output version information and exit\n\n"
    ++ "If no -e, --expression, -f, or --file option is given, then the first\n"
    ++ "non-option argument is taken as the sed script to interpret.  All\n"
    ++ "remaining arguments are names of input files; if no input files are\n"
    ++ "specified, then the standard input is read.\n\n"

/-- Shows how the tool is used, and gives up. -/
def usage {α : Type} : Work α := do
  Work.act (Act.complain usageText.toList)
  Work.giveUp 1

def arguments (words : List Octets) : Work Arguments :=
  match Options.readWords forms false (words.length + 1) ⟨[], []⟩ words with
  | .ok a => pure a
  | .error e => do
      Work.grumble e.message
      usage

/-- Complains that a file cannot be opened, and gives up. -/
def failToOpen
    {α : Type}
    (path : Octets)
    (e : FileFault) :
    Work α :=
  stop 4 ("couldn't open file ".toList ++ path ++ ": ".toList ++ e.reason.toList)

/-- The parts of the script that options give, in their order; an option holds for the parts behind
it. -/
def givenParts (a : Arguments) : Work (List (Reading × Origin × Octets)) := do
  let (_, _, parts) ← Work.foldAll
    (fun (so_far : Reading × Nat × List (Reading × Origin × Octets)) (g : Given) => do
      let (reading, count, done) := so_far
      match g.key with
      | "E" => return ({ reading with extended := true }, count, done)
      | "r" => return ({ reading with extended := true }, count, done)
      | "sandbox" => return ({ reading with sandboxed := true }, count, done)
      | "e" => return (reading, count + 1, done ++ [(reading, .expression (count + 1), g.value)])
      | "f" =>
          match ← Work.readWhole g.value with
          | .ok data => return (reading, count, done ++ [(reading, .file g.value, data)])
          | .error e => failToOpen g.value e
      | _ => return so_far)
    (⟨false, false⟩, 0, []) a.options
  return parts

/-- Opens a file that a script writes. -/
def openSink (path : Octets) : Work (Octets × Nat) := do
  if path = "/dev/stdout".toList then return (path, 1)
  else if path = "/dev/stderr".toList then return (path, 2)
  else
    match ← Work.ask (.openFile path .writing) with
    | .ok d => return (path, d)
    | .error e => failToOpen path e

/-- The words for an expression that is left out where none was used before. -/
def noPatternMessage : List (Reading × Origin × Octets) → Octets
  | parts =>
      match parts.getLast? with
      | some (_, .file name, source) =>
          "file ".toList ++ name ++ " line ".toList ++ Octets.ofNat (source.count '\n' + 1)
            ++ ": no previous regular expression".toList
      | some (_, .expression n, _) =>
          "-e expression #".toList ++ Octets.ofNat n
            ++ ", char 0: no previous regular expression".toList
      | none => []

/-- Edits lines by a script. -/
def tool : Tool :=
  fun launcher start => Work.perform "sed".toList 4 do
    let a ← arguments start.arguments
    let given ← givenParts a
    let reading : Reading := ⟨a.has "E" || a.has "r", a.has "sandbox"⟩
    let (parts, files) ←
      if a.has "e" || a.has "f" then pure (given, a.operands)
      else
        match a.operands with
        | [] => usage
        | script :: rest => pure ([(reading, Origin.expression 1, script)], rest)
    let (result, script) := Script.read parts
    let sinks ← Work.foldAll (fun done path => do return done ++ [← openSink path]) [] script.files
    match result with
    | .error e => stop (if e.fault = .regex .bareClass then 4 else 1) e.message
    | .ok () => pure ()
    match script.missingLabel? with
    | some label => stop 4 ("can't find label for jump to \x60".toList ++ label ++ ['\''])
    | none => pure ()
    if a.has "i" && files.isEmpty then Work.failText 4 "no input files"
    let setting : Setting :=
      { manner :=
          { quiet := a.has "n" || script.quiet
            stop := if a.has "z" then '\x00' else '\n'
            width := match a.value? "l" with
              | some w => ((String.ofList (w.takeWhile Char.isDigit)).toNat?).getD 0
              | none => 70 }
        separate := a.has "s" || a.has "i"
        inPlace := a.has "i"
        backup := (a.value? "i").getD []
        unheld := a.has "u"
        launcher := launcher
        environment := start.environment }
    let session : Session :=
      { editor := { Editor.start script with place := script.steps.size }
        reader := none
        files := Work.inputs files
        begun := false
        exchange := none
        sinks := sinks
        sources := [] }
    match ← takeNext script setting false session with
    | none => pure ()
    | some first => do
        let begun := { first with editor := { first.editor with place := 0 } }
        let (last, status) ← Work.repeat_ (begun, none)
          (turn script setting (noPatternMessage parts)) Act.rounds begun
        let _ ← deliver setting last
        pour
        match status with
        | some n => Work.setStatus n
        | none => pure ()

end Editing
end Tool
end Runbook
