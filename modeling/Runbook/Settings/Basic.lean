import Runbook.Files.Disk
import Runbook.Files.Path
import Runbook.Number.Reading
import Runbook.Text.Pieces

/-!
# Settings and their documents

The form of documents of settings, and what settings mean.
-/

namespace Runbook

/-!
## Settings documents

A document of settings is a list of lines `key = value`, in TOML. Values are strings in any of the
four notations, whole numbers and truth values; nothing else has a place in settings, so tables and
all other values are refused like any fault of form.
-/

/-- The value of a setting. -/
inductive SettingValue where
  | string (s : String)
  | number (n : Int)
  | truth (b : Bool)
  deriving DecidableEq, Repr, Inhabited

namespace SettingsDocument

/-- The characters that a document must not hold. -/
def isControl (c : Char) : Bool :=
  (c < ' ' && c ≠ '\t') || c = '\x7f'

/-- A text without the blanks of a line at its start. -/
def skipGap (s : List Char) : List Char :=
  s.dropWhile fun c => c = ' ' || c = '\t'

/-- The text after the end of a line, which a line feed or the end of the text is. -/
def pastLineEnd? : List Char → Option (List Char)
  | [] => some []
  | '\n' :: s => some s
  | '\r' :: '\n' :: s => some s
  | _ => none

/-- The text after a comment, if there is one. -/
def skipComment? (s : List Char) : Option (List Char) :=
  match s with
  | '#' :: t =>
      let body := t.takeWhile fun c => c ≠ '\n'
      let rest := t.dropWhile fun c => c ≠ '\n'
      let ends := body.getLast? = some '\r' && !rest.isEmpty
      let shown := if ends then body.dropLast else body
      if shown.any isControl then none else some rest
  | _ => some s

/-- The text after the rest of a line that holds nothing but blanks and a comment. -/
def finishLine? (s : List Char) : Option (List Char) :=
  (skipComment? (skipGap s)).bind pastLineEnd?

/-- A character written by `n` digits of base sixteen, and the text after them. -/
def codeChar?
    (n : Nat)
    (s : List Char) :
    Option (Char × List Char) :=
  let digits := s.take n
  if digits.length < n then
    none
  else
    match digitsIn? 16 digits with
    | some code =>
        if (0xd800 ≤ code && code ≤ 0xdfff) || 0x10ffff < code then none
        else some (Char.ofNat code, s.drop n)
    | none => none

/-- The character of an escape after its backslash, and the text after it. -/
def escape? : List Char → Option (Char × List Char)
  | 'b' :: s => some ('\x08', s)
  | 't' :: s => some ('\t', s)
  | 'n' :: s => some ('\n', s)
  | 'f' :: s => some ('\x0c', s)
  | 'r' :: s => some ('\r', s)
  | 'e' :: s => some ('\x1b', s)
  | '"' :: s => some ('"', s)
  | '\\' :: s => some ('\\', s)
  | 'x' :: s => codeChar? 2 s
  | 'u' :: s => codeChar? 4 s
  | 'U' :: s => codeChar? 8 s
  | _ => none

/-- A string of one line after its opening mark, and the text after its closing one. -/
def basicString? : Nat → List Char → Option (List Char × List Char)
  | 0, _ => none
  | _, [] => none
  | _ + 1, '"' :: s => some ([], s)
  | fuel + 1, '\\' :: s =>
      match escape? s with
      | none => none
      | some (c, rest) => (basicString? fuel rest).map fun p => (c :: p.1, p.2)
  | fuel + 1, c :: s =>
      if isControl c then none else (basicString? fuel s).map fun p => (c :: p.1, p.2)

/-- A literal string of one line after its opening mark, and the text after its closing one. -/
def literalString? : List Char → Option (List Char × List Char)
  | [] => none
  | '\'' :: s => some ([], s)
  | c :: s => if isControl c then none else (literalString? s).map fun p => (c :: p.1, p.2)

/-- The marks at the end of a string of several lines: three close it, one or two before them belong
to it. -/
def closing?
    (mark : Char)
    (s : List Char) :
    Option (List Char × List Char) :=
  let marks := (s.takeWhile (· = mark)).length
  if marks < 3 then none
  else
    let kept := min (marks - 3) 2
    some (List.replicate kept mark, s.drop (kept + 3))

/-- The text after a backslash at the end of a line: blanks and further line ends are passed. -/
def pastContinuation? (s : List Char) : Option (List Char) :=
  match pastLineEnd? (skipGap s) with
  | some (c :: rest) => some ((c :: rest).dropWhile fun d => " \t\r\n".toList.contains d)
  | _ => none

/-- A string of several lines after its opening marks, and the text after its closing ones. The ends
of lines stay as they are written. -/
def longString?
    (mark : Char) :
    Nat → List Char → Option (List Char × List Char)
  | 0, _ => none
  | _, [] => none
  | fuel + 1, c :: s =>
      match closing? mark (c :: s) with
      | some p => some p
      | none =>
          if c = '\\' && mark = '"' then
            match escape? s with
            | some (d, rest) => (longString? mark fuel rest).map fun p => (d :: p.1, p.2)
            | none =>
                match pastContinuation? s with
                | some rest => longString? mark fuel rest
                | none => none
          else if isControl c && c ≠ '\n' && (c ≠ '\r' || s.head? ≠ some '\n') then none
          else (longString? mark fuel s).map fun p => (c :: p.1, p.2)

/-- A string of several lines without the line feed that may follow its opening marks. -/
def longBody? (mark : Char) (s : List Char) : Option (List Char × List Char) :=
  let body := match s with
    | '\n' :: t => t
    | '\r' :: '\n' :: t => t
    | t => t
  longString? mark (body.length + 1) body

/-- A string in any notation, and the text after it. -/
def string? : List Char → Option (List Char × List Char)
  | '"' :: '"' :: '"' :: s => longBody? '"' s
  | '\'' :: '\'' :: '\'' :: s => longBody? '\'' s
  | '"' :: s => basicString? (s.length + 1) s
  | '\'' :: s => literalString? s
  | _ => none

/-- Digits without the underscores that stand between them; `none` when one stands elsewhere. -/
def plainDigits? (s : List Char) : Option (List Char) :=
  match s, s.getLast? with
  | '_' :: _, _ => none
  | _, some '_' => none
  | _, _ =>
      let doubled := (s.zip (s.drop 1)).any fun p => p.1 = '_' && p.2 = '_'
      if doubled then none else some (s.filter (· ≠ '_'))

/-- The number that digits of a base stand for. -/
def numberIn?
    (base : Nat)
    (s : List Char) :
    Option Int :=
  ((plainDigits? s).bind (digitsIn? base)).map Int.ofNat

/-- A whole number: decimal with a sign and without zeros in front, or in another base. -/
def number? (s : List Char) : Option Int :=
  let decimal (t : List Char) : Option Int :=
    if t.head? = some '0' && 1 < t.length then none else numberIn? 10 t
  match s with
  | '0' :: 'x' :: t => numberIn? 16 t
  | '0' :: 'o' :: t => numberIn? 8 t
  | '0' :: 'b' :: t => numberIn? 2 t
  | '-' :: t => (decimal t).map fun n => -n
  | '+' :: t => decimal t
  | t => decimal t

/-- A value and the text after it. -/
def value? (s : List Char) : Option (SettingValue × List Char) :=
  match string? s with
  | some (t, rest) => some (.string (String.ofList t), rest)
  | none =>
      let isWordChar (c : Char) : Bool := c.isAlphanum || c = '_' || c = '+' || c = '-'
      let word := s.takeWhile isWordChar
      let rest := s.dropWhile isWordChar
      if word = "true".toList then some (.truth true, rest)
      else if word = "false".toList then some (.truth false, rest)
      else (number? word).map fun n => (.number n, rest)

/-- A key, bare or quoted on one line, and the text after it. -/
def key? (s : List Char) : Option (String × List Char) :=
  match s with
  | '"' :: t => (basicString? (t.length + 1) t).map fun p => (String.ofList p.1, p.2)
  | '\'' :: t => (literalString? t).map fun p => (String.ofList p.1, p.2)
  | _ =>
      let isKeyChar (c : Char) : Bool := c.isAlphanum || c = '_' || c = '-'
      let name := s.takeWhile isKeyChar
      if name.isEmpty then none else some (String.ofList name, s.dropWhile isKeyChar)

/-- One setting and the text after its line. -/
def setting? (s : List Char) : Option ((String × SettingValue) × List Char) :=
  match key? s with
  | none => none
  | some (key, afterKey) =>
      match skipGap afterKey with
      | '=' :: rest =>
          match value? (skipGap rest) with
          | none => none
          | some (value, afterValue) => (finishLine? afterValue).map fun t => ((key, value), t)
      | _ => none

/-- The settings of a document in the order they are written. -/
def settings? : Nat → List Char → Option (List (String × SettingValue))
  | 0, _ => none
  | fuel + 1, s =>
      match skipGap s with
      | [] => some []
      | c :: t =>
          if c = '#' || c = '\n' || c = '\r' then
            (finishLine? (c :: t)).bind (settings? fuel)
          else
            match setting? (c :: t) with
            | none => none
            | some (entry, rest) => (settings? fuel rest).map (entry :: ·)

def parse? (text : String) : Option (List (String × SettingValue)) :=
  let s := match text.toList with
    | '\ufeff' :: rest => rest
    | all => all
  (settings? (s.length + 1) s).bind fun entries =>
    let keys := entries.map Prod.fst
    if keys.eraseDups.length = keys.length then some entries else none

end SettingsDocument

/-!
## Settings

Where commands and roles are kept, how long a process may take, and whether questions may be asked.
Settings are read from a file, which is written with defaults when there is none; the environment
may name another command root.
-/

/-- The settings of the program. -/
structure Settings where
  commandsDirectory : String
  rolesDirectory : String
  deadlineSeconds : Nat
  interactive : Bool
  deriving DecidableEq, Repr, Inhabited

/-- Why there are no settings. -/
inductive SettingsError where
  | file (fault : FileFault)
  | directory (path : String) (fault : FileFault)
  | noDirectory
  | malformed
  deriving DecidableEq, Repr, Inhabited

namespace SettingsError

def message : SettingsError → String
  | .file fault => s!"Filesystem Error: {fault.message}"
  | .directory path fault => s!"Could not create config directory at '{path}': {fault.message}"
  | .noDirectory => "Could not find system config directory."
  | .malformed => "Failed to parse config.toml"

def causes : SettingsError → List String
  | .file fault => [fault.message]
  | .directory path fault => [message (.directory path fault), fault.message]
  | .noDirectory => [message .noDirectory]
  | .malformed => []

end SettingsError

namespace Settings

/-- The settings of who says nothing. -/
def standard : Settings :=
  ⟨".crank/commands", ".crank/roles/vars", 300, true⟩

/-- The document of settings whose paths need no escapes. -/
def document (s : Settings) : String :=
  s!"commands_dir = \"{s.commandsDirectory}\"\nroles_dir = \"{s.rolesDirectory}\"\n"
    ++ s!"exec_timeout_secs = {s.deadlineSeconds}\ninteractive = {s.interactive}\n"

/-- Enters one setting; `none` for a name that is not known or a value of another type. -/
def set?
    (s : Settings)
    (entry : String × SettingValue) :
    Option Settings :=
  match entry with
  | ("commands_dir", .string v) => some { s with commandsDirectory := v }
  | ("roles_dir", .string v) => some { s with rolesDirectory := v }
  | ("exec_timeout_secs", .number n) =>
      if 0 ≤ n && n < Nat.pow 2 64 then some { s with deadlineSeconds := n.toNat } else none
  | ("interactive", .truth b) => some { s with interactive := b }
  | _ => none

/-- The settings of a document; what it leaves out is as usual. -/
def parse? (text : String) : Option Settings :=
  (SettingsDocument.parse? text).bind fun entries => entries.foldlM set? standard

/-- Writes the standard settings to a file. -/
def create
    (d : Disk)
    (path : String) :
    Disk × Except SettingsError Settings :=
  match d.provideDirectory ((Path.parent? path).getD "") with
  | (made, .error e) => (made, .error (.file e))
  | (made, .ok ()) =>
      match made.overwrite path (.text standard.document) with
      | (left, .error e) => (left, .error (.file e))
      | (written, .ok ()) => (written, .ok standard)

/-- Reads settings from a file, which is created if there is none. -/
def loadOrCreate
    (d : Disk)
    (path : String) :
    Disk × Except SettingsError Settings :=
  if d.exists? path then
    match d.readText path with
    | .error e => (d, .error (.file e))
    | .ok text =>
        match parse? text with
        | some s => (d, .ok s)
        | none => (d, .error .malformed)
  else
    create d path

/-- Another command root, if the environment names one. -/
def overridden
    (s : Settings)
    (env : Environment) :
    Settings :=
  match Dict.get? env "CRANK_COMMANDS_DIR" with
  | some directory =>
      if (Text.trimString directory).isEmpty then s else { s with commandsDirectory := directory }
  | none => s

def directory? (env : Environment) : Option String :=
  match (Dict.get? env "CRANK_CONFIG_DIR").filter fun s => !s.isEmpty with
  | some directory => some directory
  | none =>
      let base := match (Dict.get? env "XDG_CONFIG_HOME").filter Path.isAbsolute with
        | some directory => some directory
        | none => env.home?.map fun home => Path.join home ".config"
      base.map fun b => Path.join b "crank"

/-- The settings for a working directory. Their own directory is made if it is missing. -/
def load
    (env : Environment)
    (workDirectory : String)
    (d : Disk) :
    Disk × Except SettingsError Settings :=
  match directory? env with
  | none => (d, .error .noDirectory)
  | some shown =>
      let directory := Path.join workDirectory shown
      let made : Disk × Except FileFault Unit :=
        if d.exists? directory then (d, .ok ()) else d.provideDirectory directory
      match made with
      | (d', .error e) => (d', .error (.directory shown e))
      | (d', .ok ()) =>
          let (d'', result) := loadOrCreate d' (Path.join directory "config.toml")
          (d'', result.map fun s => s.overridden env)

end Settings

end Runbook
