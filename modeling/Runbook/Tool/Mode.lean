import Runbook.Number.Reading
import Runbook.Tool.Options

/-!
# Permission bits

Permissions are written as an octal number, or as changes: for whom, whether they are added, taken away
or set, and which ones.
-/

namespace Runbook
namespace Tool

/-- What is done with permissions. -/
inductive ModeAction where
  | add
  | remove
  | set
  deriving DecidableEq, Repr, Inhabited

/-- Which permissions a change is about: listed ones, with running where anyone may run the file if
`maybeRun` is set, or those that someone has. -/
inductive ModeBits where
  | listed (bits : Nat) (maybeRun : Bool)
  | those (mask : Nat)
  deriving DecidableEq, Repr, Inhabited

/-- A change of permissions. Nobody is named if `who` is zero. -/
structure ModeChange where
  who : Nat
  action : ModeAction
  bits : ModeBits
  deriving DecidableEq, Repr, Inhabited

namespace Mode

/-- All bits that can be changed. -/
def all : Nat := 0o7777

/-- The bits of a letter that names someone. -/
def who? (c : Char) : Option Nat :=
  match c with
  | 'u' => some 0o4700
  | 'g' => some 0o2070
  | 'o' => some 0o1007
  | 'a' => some all
  | _ => none

/-- The bits of a letter that names a permission. -/
def bits? (c : Char) : Option Nat :=
  match c with
  | 'r' => some 0o444
  | 'w' => some 0o222
  | 'x' => some 0o111
  | 'X' => some 0
  | 's' => some 0o6000
  | 't' => some 0o1000
  | _ => none

def action? (c : Char) : Option ModeAction :=
  match c with
  | '+' => some .add
  | '-' => some .remove
  | '=' => some .set
  | _ => none

/-- Reads the changes that follow the letters for someone. -/
def readActions
    (who : Nat) :
    Nat → Octets → Option (List ModeChange)
  | 0, _ => none
  | _, [] => some []
  | fuel + 1, c :: s =>
      match action? c with
      | none => none
      | some action =>
          let digits := s.takeWhile fun d => '0' ≤ d && d ≤ '7'
          if !digits.isEmpty then
            match digitsIn? 8 digits with
            | some n =>
                if n ≤ all && s.length = digits.length then
                  some [⟨if who = 0 then all else who, action, .listed n false⟩]
                else none
            | none => none
          else
            match s.head?.bind fun d => if d = 'a' then none else who? d with
            | some mask =>
                (readActions who fuel (s.drop 1)).map (⟨who, action, .those (mask &&& 0o777)⟩ :: ·)
            | none =>
                let letters := s.takeWhile fun d => (bits? d).isSome
                let bits := letters.foldl (fun b d => b ||| (bits? d).getD 0) 0
                (readActions who fuel (s.drop letters.length)).map
                  (⟨who, action, .listed bits (letters.contains 'X')⟩ :: ·)

def readClause (s : Octets) : Option (List ModeChange) :=
  let people := s.takeWhile fun c => (who? c).isSome
  let who := people.foldl (fun w c => w ||| (who? c).getD 0) 0
  let rest := s.drop people.length
  if rest.isEmpty then none else readActions who (rest.length + 1) rest

def read? (s : Octets) : Option (List ModeChange) :=
  if !s.isEmpty && s.all fun c => '0' ≤ c && c ≤ '7' then
    (digitsIn? 8 s).bind fun n =>
      if n ≤ all then some [⟨all, .set, .listed n false⟩] else none
  else ((Octets.splitOn ',' s).mapM readClause).map List.flatten

/-- The bits that stay when others are taken away. -/
def without (bits other : Nat) : Nat :=
  bits &&& (all ^^^ (other &&& all))

/-- Permissions after a change. -/
def change
    (mask : Nat)
    (isDirectory : Bool)
    (mode : Nat)
    (c : ModeChange) :
    Nat :=
  let value := match c.bits with
    | .listed bits maybeRun =>
        if maybeRun && (mode &&& 0o111 ≠ 0 || isDirectory) then bits ||| 0o111 else bits
    | .those who =>
        let own := mode &&& who
        (if own &&& 0o444 ≠ 0 then 0o444 else 0) ||| (if own &&& 0o222 ≠ 0 then 0o222 else 0)
          ||| (if own &&& 0o111 ≠ 0 then 0o111 else 0)
  let chosen := if c.who ≠ 0 then value &&& c.who else without value mask
  match c.action with
  | .add => mode ||| chosen
  | .remove => without mode chosen
  | .set => (if c.who ≠ 0 then without mode c.who else 0) ||| chosen

/-- Permissions after changes. -/
def apply
    (mask : Nat)
    (isDirectory : Bool)
    (mode : Nat)
    (changes : List ModeChange) :
    Nat :=
  changes.foldl (change mask isDirectory) mode

/-- Three permissions in letters; the last one is special if a bit for it is set. -/
def letters
    (bits : Nat)
    (special : Bool)
    (low high : Char) :
    Octets :=
  let runs := bits &&& 1 ≠ 0
  [ if bits &&& 4 ≠ 0 then 'r' else '-', if bits &&& 2 ≠ 0 then 'w' else '-',
    if special then (if runs then low else high) else if runs then 'x' else '-' ]

/-- Permissions in letters. -/
def text (mode : Nat) : Octets :=
  letters (mode / 64 % 8) (mode &&& 0o4000 ≠ 0) 's' 'S'
    ++ letters (mode / 8 % 8) (mode &&& 0o2000 ≠ 0) 's' 'S'
    ++ letters (mode % 8) (mode &&& 0o1000 ≠ 0) 't' 'T'

/-- Permissions as an octal number of four digits. -/
def digits (mode : Nat) : Octets :=
  Octets.padLeft 4 '0' (Nat.toDigits 8 mode)

end Mode

namespace Work

/-- The permissions that a word stands for, or a complaint about it. -/
def modeChanges (word : Octets) : Work (List ModeChange) :=
  match Mode.read? word with
  | some changes => pure changes
  | none => misuse 1 ("invalid mode: ".toList ++ Quoting.plain word)

end Work

/-! ## Changing permissions -/

/-- Whether a word that starts with a dash stands for permissions. -/
def isModeWord : Octets → Bool
  | '-' :: c :: _ => "rwxXstugoa,+=01234567".toList.contains c
  | _ => false

/-- How deep directories are gone through. -/
def treeDepth : Nat := 1000

/-- Shows what became of the permissions of a file. -/
def sayModeChange
    (a : Arguments)
    (path : Octets)
    (old new : Nat) :
    Work Unit := do
  if a.has "v" || (a.has "c" && old ≠ new) then
    let shown (m : Nat) : Octets := Mode.digits m ++ " (".toList ++ Mode.text m ++ [')']
    if old = new then
      Work.say ("mode of ".toList ++ Quoting.shellAlways path ++ " retained as ".toList ++ shown old
        ++ ['\n'])
    else
      Work.say ("mode of ".toList ++ Quoting.shellAlways path ++ " changed from ".toList ++ shown old
        ++ " to ".toList ++ shown new ++ ['\n'])

/-- Changes the permissions of a file, and of what is below it. -/
def changeMode
    (a : Arguments)
    (mask : Nat)
    (changes : List ModeChange) :
    Nat → Octets → Work Unit
  | 0, _ => pure ()
  | depth + 1, path => do
      match ← Work.ask (.status path true) with
      | .error e =>
          if (← Work.act (Act.entryAt? path)).isSome then
            if !a.has "f" then
              Work.warn ("cannot operate on dangling symlink ".toList ++ Quoting.shellAlways path)
            Work.setStatus 1
          else do
            if !a.has "f" then
              Work.warn ("cannot access ".toList ++ Quoting.shellAlways path ++ ": ".toList
                ++ e.reason.toList)
            Work.setStatus 1
      | .ok s => do
          let isDirectory := s.kind = .directory
          let new := Mode.apply mask isDirectory s.mode changes
          let _ ← Work.ask (.permit path new)
          sayModeChange a path s.mode new
          if a.has "R" && isDirectory then
            match ← Work.ask (.list path) with
            | .error _ => pure ()
            | .ok names =>
                Work.forAll
                  (fun name => do
                    let inner := path ++ '/' :: name
                    match ← Work.act (Act.entryAt? inner) with
                    | some t =>
                        if t.kind ≠ .link then changeMode a mask changes depth inner
                    | none => pure ())
                  names

/-- Changes permissions. -/
def chmod : Tool :=
  simple 1 fun words => do
    let hidden := words.map fun w => if isModeWord w then '\x00' :: w else w
    let a ← Work.arguments
      [ flag "R" ["recursive"], flag "v" ["verbose"], flag "c" ["changes"],
        flag "f" ["silent", "quiet"], valued "reference" ["reference"] ] 1 hidden
    let operands := a.operands.map fun w => if w.head? = some '\x00' then w.drop 1 else w
    let (given, files) : List Octets × List Octets := match a.value? "reference" with
      | some _ => ([], operands)
      | none => (operands.take 1, operands.drop 1)
    let mask : Nat ← Work.ask (.mask none)
    match a.value? "reference", given, files with
    | none, [], _ => Work.missingOperand 1 none
    | none, word :: _, [] => Work.missingOperand 1 (some word)
    | some _, _, [] => Work.missingOperand 1 none
    | some path, _, _ =>
        match ← Work.act (Act.statusAt? path) with
        | some s =>
            Work.forAll (changeMode a mask [⟨Mode.all, .set, .listed s.mode false⟩] treeDepth) files
        | none =>
            Work.fail 1 ("failed to get attributes of ".toList ++ Quoting.shellAlways path
              ++ ": No such file or directory".toList)
    | none, word :: _, _ => do
        let changes ← Work.modeChanges word
        Work.forAll (changeMode a mask changes treeDepth) files

end Tool
end Runbook
