import Runbook.Shell.Expansion

/-!
# Commands of the shell itself

A built-in command works on the state of the shell. A fault in a special one ends the shell.
-/

namespace Runbook
namespace Shell

/-- A built-in command. One that `assigns` takes words as assignments. -/
structure Builtin where
  special : Bool
  assigns : Bool
  run : Runner → List Octets → Eval Nat

namespace Builtin

/-- A built-in command that needs nothing but its arguments. -/
def plain (run : List Octets → Eval Nat) : Builtin :=
  ⟨false, false, fun _ arguments => run arguments⟩

/-- A special built-in command that needs nothing but its arguments. -/
def special_ (run : List Octets → Eval Nat) : Builtin :=
  ⟨true, false, fun _ arguments => run arguments⟩

/-- Writes the output of a built-in command. -/
def show_ (data : Octets) : Eval Nat := do
  match ← Eval.put data with
  | .ok () => return 0
  | .error _ => do
      let name := (← get).speaker.getD []
      Eval.warn (name ++ ": I/O error".toList)
      return 1

/-- Writes a text and the end of the line. -/
def showLine (line : Octets) : Eval Nat :=
  show_ (line ++ ['\n'])

/-- Reads options: letters behind a dash, where a colon in `allowed` says that a value belongs to the
letter before it. -/
def readOptions
    (allowed : Octets) :
    Nat → List (Char × Octets) → Octets → List Octets →
      Eval (List (Char × Octets) × List Octets)
  | 0, done, _, arguments => return (done.reverse, arguments)
  | fuel + 1, done, c :: letters, arguments => do
      match allowed.dropWhile (· ≠ c) with
      | _ :: ':' :: _ =>
          match letters, arguments with
          | _ :: _, _ => readOptions allowed fuel ((c, letters) :: done) [] arguments
          | [], value :: rest => readOptions allowed fuel ((c, value) :: done) [] rest
          | [], [] => Eval.fail ("No arg for -".toList ++ c :: " option".toList)
      | _ :: _ =>
          if c = ':' then Eval.fail ("Illegal option -".toList ++ [c])
          else readOptions allowed fuel ((c, []) :: done) letters arguments
      | [] => Eval.fail ("Illegal option -".toList ++ [c])
  | fuel + 1, done, [], arguments =>
      match arguments with
      | ['-', '-'] :: rest => return (done.reverse, rest)
      | ('-' :: c :: letters) :: rest => readOptions allowed fuel done (c :: letters) rest
      | rest => return (done.reverse, rest)

/-- The options of a built-in command, and the arguments behind them. -/
def options
    (allowed : String)
    (arguments : List Octets) :
    Eval (List (Char × Octets) × List Octets) :=
  readOptions allowed.toList (arguments.flatten.length + 2 * arguments.length + 2) []
    [] arguments

/-- Whether an option is among those read. -/
def given
    (letter : Char)
    (found : List (Char × Octets)) :
    Bool :=
  found.any fun e => e.1 = letter

/-- A text in single quotes, so that the shell reads it as it stands. -/
def quoted (s : Octets) : Octets :=
  let row := s.takeWhile (· ≠ '\'')
  '\'' :: row ++ ['\''] ++ more (s.length + 1) (s.drop row.length)
where
  /-- The rest of a text, from a single quote on. -/
  more : Nat → Octets → Octets
    | 0, _ => []
    | _, [] => []
    | fuel + 1, s =>
        let marks := s.takeWhile (· = '\'')
        let rest := s.drop marks.length
        let row := rest.takeWhile (· ≠ '\'')
        '"' :: marks ++ ['"'] ++
          (if row.isEmpty then [] else '\'' :: row ++ ['\'']) ++
          more fuel (rest.drop row.length)

end Builtin

/-!
## Directories

The directory that the shell works in, by the names it was entered by, and the permissions that new
files do not get.
-/

namespace Builtin

/-- The path that leads from a directory along another path, without points, two points taken back by
name. -/
def follow (directory path : Octets) : Octets :=
  let parts := (Octets.splitOn '/' path).filter fun p => !p.isEmpty
  let start := if path.head? = some '/' then [] else
    ((Octets.splitOn '/' directory).filter fun p => !p.isEmpty).reverse
  let step (names : List Octets) (part : Octets) : List Octets :=
    if part = ['.'] then names
    else if part = ['.', '.'] then names.drop 1
    else part :: names
  match (parts.foldl step start).reverse with
  | [] => ['/']
  | names => names.flatMap fun n => '/' :: n

/-- Enters a directory, and notes where the shell is and was. -/
def enter
    (physical : Bool)
    (path : Octets) :
    Eval Bool := do
  let old := (← get).directory
  let target := if physical then path else follow old path
  match ← Eval.ask (.enter target) with
  | .error _ => return false
  | .ok () =>
      let new ← if physical then Eval.ask .here else pure target
      Eval.assign "OLDPWD".toList old true
      modify fun s => { s with directory := new }
      Eval.assign "PWD".toList new true
      return true

/-- Whether a path is looked for from the working directory only. -/
def isFixed (path : Octets) : Bool :=
  path.head? = some '/' || (Octets.splitOn '/' path).head?.any fun p => p = ['.'] || p = ['.', '.']

/-- The first directory of a search path that has a directory of a name, and whether it is another one
than the working directory. -/
def searched (name : Octets) : List Octets → Eval (Option (Octets × Bool))
  | [] => return none
  | d :: rest => do
      let path := Launch.under d name
      if ← Eval.act (Act.isDirectory path) then return some (path, !d.isEmpty)
      else searched name rest

/-- Changes the working directory. -/
def cd : Builtin :=
  plain fun arguments => do
    let (found, words) ← options "LP" arguments
    let physical := (found.getLast?).any fun e => e.1 = 'P'
    let s ← get
    let back := words.head? = some ['-']
    let target := match words with
      | [] => s.valueOr "HOME" []
      | w :: _ => if back then s.valueOr "OLDPWD" [] else w
    let (path, shown) : Octets × Bool ←
      if isFixed target then pure (target, back)
      else do
        let name := if target.isEmpty then ['.'] else target
        match s.value? "CDPATH".toList with
        | none => pure (name, back)
        | some directories =>
            match ← searched name (Octets.splitOn ':' directories) with
            | some (path, elsewhere) => pure (path, back || elsewhere)
            | none => pure (target, back)
    if ← enter physical path then
      if shown then showLine (← get).directory else return 0
    else Eval.fail ("can't cd to ".toList ++ target)

/-- Shows the working directory. -/
def pwd : Builtin :=
  plain fun arguments => do
    let (found, _) ← options "LP" arguments
    if (found.getLast?).any fun e => e.1 = 'P' then showLine (← Eval.ask .here)
    else showLine (← get).directory

/-- The letters for three permission bits. -/
def modeLetters (bits : Nat) : Octets :=
  (if bits &&& 4 ≠ 0 then ['r'] else []) ++ (if bits &&& 2 ≠ 0 then ['w'] else []) ++
    (if bits &&& 1 ≠ 0 then ['x'] else [])

/-- The permission bits that letters stand for. -/
def modeBits? (letters : Octets) : Option Nat :=
  letters.foldl
    (fun bits c =>
      match bits, c with
      | some b, 'r' => some (b ||| 0o444)
      | some b, 'w' => some (b ||| 0o222)
      | some b, 'x' => some (b ||| 0o111)
      | some b, 'X' => some (b ||| 0o111)
      | _, _ => none)
    (some 0)

/-- Changes permissions as a clause says: for whom, how, and which ones. -/
def applyClause?
    (mode : Nat)
    (clause : Octets) :
    Option Nat :=
  let who := clause.takeWhile fun c => "ugoa".toList.contains c
  let mask : Nat := who.foldl
    (fun m c => m ||| (match c with
      | 'u' => 0o700
      | 'g' => 0o070
      | 'o' => 0o007
      | _ => 0o777))
    (if who.isEmpty then 0o777 else 0)
  match clause.drop who.length with
  | operator :: letters =>
      (modeBits? letters).bind fun bits =>
        let chosen := bits &&& mask
        match operator with
        | '+' => some (mode ||| chosen)
        | '-' => some (mode &&& (0o777 ^^^ chosen))
        | '=' => some ((mode &&& (0o777 ^^^ mask)) ||| chosen)
        | _ => none
  | [] => none

/-- Shows or sets the permissions that new files do not get. -/
def umask : Builtin :=
  plain fun arguments => do
    let (found, words) ← options "S" arguments
    let mask : Nat ← Eval.ask (.mask none)
    match words with
    | [] =>
        if given 'S' found then
          let mode := 0o777 ^^^ mask
          showLine ("u=".toList ++ modeLetters (mode / 64) ++ ",g=".toList ++
            modeLetters (mode / 8 % 8) ++ ",o=".toList ++ modeLetters (mode % 8))
        else showLine (Octets.padLeft 4 '0' (Nat.toDigits 8 mask))
    | w :: _ =>
        if w.head?.any Char.isDigit then
          match w.all fun c => '0' ≤ c && c ≤ '7' with
          | true =>
              let bits := w.foldl (fun n c => n * 8 + (c.toNat - 48)) 0
              let _ ← Eval.ask (.mask (some (bits % 512)))
              return 0
          | false => Eval.fail ("Illegal number: ".toList ++ w)
        else
          let changed := (Octets.splitOn ',' w).foldl
            (fun mode clause => mode.bind fun m => applyClause? m clause) (some (0o777 ^^^ mask))
          match changed with
          | some mode =>
              let _ ← Eval.ask (.mask (some (0o777 ^^^ mode)))
              return 0
          | none => Eval.fail ("Illegal mode: ".toList ++ w)

end Builtin

end Shell
end Runbook
