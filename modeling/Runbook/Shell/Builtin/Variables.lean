import Runbook.Shell.Builtin.Basic

/-!
# Built-in commands for variables and input

What sets the variables of the shell: assignments, options, and lines that are read.
-/

namespace Runbook
namespace Shell
namespace Builtin

/-!
## Built-in commands for variables

Marking, setting, showing and removing variables, and the options and parameters of the shell.
-/

def nameAndValue (word : Octets) : Octets × Option Octets :=
  let name := word.takeWhile (· ≠ '=')
  match word.drop name.length with
  | [] => (name, none)
  | _ :: value => (name, some value)

/-- Breaks off if a word is no name. -/
def needName (name : Octets) : Eval Unit := do
  if !isName name then Eval.fail (name ++ ": bad variable name".toList)

def markVariable
    (name : Octets)
    (mark : Variable → Variable) :
    Eval Unit :=
  modify fun s => s.put name (mark ((s.bindings.lookup name).getD ⟨none, false, false⟩))

/-- Variables with a mark in the order of their names, each as a line that sets it. -/
def markedLines
    (front : String)
    (isMarked : Variable → Bool)
    (s : State) :
    Octets :=
  let shown (e : Octets × Variable) : Octets :=
    let value : Octets := match e.2.value with
      | some v => '=' :: quoted v
      | none => []
    front.toList ++ e.1 ++ value ++ ['\n']
  let marked := s.bindings.filter fun e => isMarked e.2
  (marked.mergeSort fun a b => Octets.le a.1 b.1).flatMap shown

/-- Marks variables, which may be set as well, or shows those with the mark. -/
def marking
    (front : String)
    (isMarked : Variable → Bool)
    (mark : Variable → Variable) :
    Builtin :=
  ⟨true, true, fun _ arguments => do
    let (found, words) ← options "p" arguments
    if words.isEmpty || given 'p' found then
      show_ (markedLines front isMarked (← get))
    else
      Eval.forAll
        (fun word => do
          let (name, value) := nameAndValue word
          needName name
          match value with
          | some v => Eval.assign name v false
          | none => pure ()
          markVariable name mark)
        words
      return 0⟩

/-- Hands variables to the programs that are started. -/
def export_ : Builtin :=
  marking "export " Variable.exported fun v => { v with exported := true }

/-- Keeps variables from being changed. -/
def readonly_ : Builtin :=
  marking "readonly " Variable.readonly fun v => { v with readonly := true }

/-- Lets variables have their values only in a function. -/
def local_ : Builtin :=
  ⟨true, true, fun _ words => do
    if (← get).calls = 0 then Eval.failText "not in a function"
    Eval.forAll
      (fun word => do
        let (name, value) := nameAndValue word
        needName name
        Eval.makeLocal name
        match value with
        | some v => Eval.assign name v false
        | none => pure ())
      words
    return 0⟩

/-- Removes variables or functions. -/
def unset : Builtin :=
  special_ fun arguments => do
    let (found, names) ← options "vf" arguments
    let functions := (found.getLast?).any fun e => e.1 = 'f'
    Eval.forAll
      (fun name => do
        if functions then
          modify fun s => { s with functions := s.functions.filter fun e => e.1 ≠ name }
        else
          needName name
          Eval.unset name)
      names
    return 0

/-- Drops parameters from the front. -/
def shift : Builtin :=
  special_ fun arguments => do
    let count ← match arguments with
      | [] => pure 1
      | a :: _ => Eval.number a
    let s ← get
    if s.parameters.length < count then Eval.failText "can't shift that many"
    set { s with parameters := s.parameters.drop count, optionPlace := ⟨1, none⟩ }
    return 0

/-- The options of the shell: their letters and names. -/
def settings : List (Char × String) :=
  [ ('e', "errexit"), ('f', "noglob"), ('I', "ignoreeof"), ('i', "interactive"), ('m', "monitor"),
    ('n', "noexec"), ('s', "stdin"), ('x', "xtrace"), ('v', "verbose"), ('V', "vi"),
    ('E', "emacs"), ('C', "noclobber"), ('a', "allexport"), ('b', "notify"), ('u', "nounset"),
    ('p', "privileged"), ('L', "nolog"), ('D', "debug") ]

def setOption
    (on : Bool)
    (letter : Char) :
    Eval Unit :=
  modify fun s =>
    let others := s.options.filter (· ≠ letter)
    { s with options := if on then letter :: others else others }

/-- Shows all options, as a table or as commands that set them. -/
def settingsText
    (asTable : Bool)
    (s : State) :
    Octets :=
  let line (e : Char × String) : Octets :=
    if asTable then
      Octets.padRight 16 e.2.toList ++ (if s.has e.1 then "on" else "off").toList ++ ['\n']
    else (if s.has e.1 then "set -o " else "set +o ").toList ++ e.2.toList ++ ['\n']
  (if asTable then "Current option settings\n".toList else []) ++ settings.flatMap line

/-- Reads the letters of an argument that sets options. `none` stands for the letter that takes its
option from the next argument. -/
def setLetters
    (on : Bool) :
    Octets → Eval Bool
  | [] => return false
  | 'o' :: _ => return true
  | c :: rest => do
      if settings.any fun e => e.1 = c && c ≠ 'L' && c ≠ 'D' then
        setOption on c
        setLetters on rest
      else Eval.fail ("Illegal option ".toList ++ [if on then '-' else '+', c])

def setNamed
    (on : Bool)
    (name : Option Octets) :
    Eval Unit := do
  match name with
  | none =>
      let _ ← show_ (settingsText on (← get))
  | some n =>
      match settings.find? fun e => e.2.toList = n with
      | some e => setOption on e.1
      | none => Eval.fail ("Illegal option ".toList ++ [if on then '-' else '+', 'o', ' '] ++ n)

/-- Sets options from arguments, and gives back the parameters if there are any. -/
def setFrom : Nat → List Octets → Eval (Option (List Octets))
  | 0, _ => return none
  | fuel + 1, arguments => do
      match arguments with
      | [] => return none
      | ['-', '-'] :: rest => return some rest
      | ['-'] :: rest => do
          setOption false 'x'
          setOption false 'v'
          return if rest.isEmpty then none else some rest
      | ['+'] :: rest => setFrom fuel rest
      | (sign :: letters) :: rest =>
          if sign = '-' || sign = '+' then
            let on := sign = '-'
            if ← setLetters on letters then
              setNamed on rest.head?
              setFrom fuel (rest.drop 1)
            else setFrom fuel rest
          else return some arguments
      | [] :: _ => return some arguments

/-- Sets options and parameters, or shows all variables. -/
def set_ : Builtin :=
  special_ fun arguments => do
    if arguments.isEmpty then
      show_ (markedLines "" (fun v => v.value.isSome) (← get))
    else
      match ← setFrom (arguments.length + 1) arguments with
      | none => return 0
      | some parameters =>
          modify fun s => { s with parameters := parameters, optionPlace := ⟨1, none⟩ }
          return 0

/-- Names that stand for words. -/
def alias_ : Builtin :=
  ⟨false, true, fun _ words => do
    let line (e : Octets × Octets) : Octets := e.1 ++ '=' :: quoted e.2 ++ ['\n']
    if words.isEmpty then show_ ((← get).aliases.flatMap line)
    else
      let statuses ← Eval.forEach
        (fun word => do
          match nameAndValue word with
          | (name, some value) =>
              modify fun s =>
                { s with aliases := s.aliases.filter (fun e => e.1 ≠ name) ++ [(name, value)] }
              return 0
          | (name, none) =>
              match (← get).aliases.lookup name with
              | some value => show_ (line (name, value))
              | none =>
                  Eval.act (Act.complain ("alias: ".toList ++ name ++ " not found\n".toList))
                  return 1)
        words
      return statuses.foldl max 0⟩

/-- Forgets names that stand for words. -/
def unalias : Builtin :=
  plain fun arguments => do
    let (found, names) ← options "a" arguments
    if given 'a' found then
      modify fun s => { s with aliases := [] }
      return 0
    else
      let statuses ← Eval.forEach
        (fun name => do
          let s ← get
          if s.aliases.any fun e => e.1 = name then
            set { s with aliases := s.aliases.filter fun e => e.1 ≠ name }
            return 0
          else
            Eval.act (Act.complain ("unalias: ".toList ++ name ++ " not found\n".toList))
            return 1)
        names
      return statuses.foldl max 0

/-!
## Built-in input

Reading a line into variables, and reading options from parameters.
-/

/-- What has been read of a line: the pieces in reverse, the cells of the current one in reverse, and
whether a backslash came last. -/
structure LineSoFar where
  pieces : List Piece
  current : List Cell
  afterBackslash : Bool
  deriving Inhabited

namespace LineSoFar

/-- Ends the current piece, which may be cut. -/
def close (l : LineSoFar) : List Piece :=
  ⟨l.current.reverse, .separators⟩ :: l.pieces

/-- Takes a character. With `raw`, a backslash is one like any other. -/
def take
    (raw : Bool)
    (l : LineSoFar)
    (c : Char) :
    LineSoFar :=
  if c = '\x00' then l
  else if l.afterBackslash then
    if c = '\n' then { l with afterBackslash := false }
    else ⟨⟨[.char c true], .nowhere⟩ :: l.close, [], false⟩
  else if c = '\\' && !raw then { l with afterBackslash := true }
  else { l with current := .char c false :: l.current }

end LineSoFar

/-- Reads a line, which goes on behind a backslash at its end, and whether the end of the line was
found. -/
def readPieces
    (raw : Bool) :
    Nat → LineSoFar → Eval (List Piece × Bool)
  | 0, l => return (l.close.reverse, false)
  | fuel + 1, l => do
      match ← Eval.ask (.readLine 0) with
      | .error _ => return (l.close.reverse, false)
      | .ok data =>
          let complete := data.getLast? = some '\n'
          let before := (if complete then data.dropLast else data).foldl (LineSoFar.take raw) l
          if !complete then return (before.close.reverse, false)
          else if before.afterBackslash then
            readPieces raw fuel (before.take raw '\n')
          else return (before.close.reverse, true)

/-- Sets variables to fields, and those left over to nothing. -/
def setFields : List Octets → List (List Cell) → Eval Unit
  | [], _ => pure ()
  | name :: names, fields => do
      Eval.assign name (Cell.chars (fields.headD [])) false
      setFields names (fields.drop 1)

def read : Builtin :=
  plain fun arguments => do
    let (found, names) ← options "p:r" arguments
    if names.isEmpty then Eval.failText "arg count"
    let (pieces, complete) ← readPieces (given 'r' found) Act.rounds ⟨[], [], false⟩
    let separators := (← get).separators.getD Fields.blanks
    Eval.forAll needName names
    setFields names (Fields.split separators (some names.length) pieces)
    return if complete then 0 else 1

/-- What reading an option finds: the letter, the value of the variable for arguments, a complaint, and
the place where reading goes on; `none` at the end of the options. -/
structure OptionFound where
  letter : Char
  argument : Option Octets
  complaint : Option String
  place : OptionPlace

/-- Reads the letter of an option in a word, of which something is left. -/
def optionIn
    (allowed : Octets)
    (words : List Octets)
    (index : Nat)
    (offset : Nat)
    (c : Char)
    (rest : Octets) :
    OptionFound :=
  let silent := allowed.head? = some ':'
  let next : OptionPlace :=
    ⟨index, if rest.isEmpty then none else some (offset + 1)⟩
  match allowed.dropWhile (· ≠ c) with
  | _ :: more =>
      if c = ':' then unknown silent next c
      else if more.head? ≠ some ':' then ⟨c, some [], none, next⟩
      else if !rest.isEmpty then ⟨c, some rest, none, ⟨index, none⟩⟩
      else
        match words[index - 1]? with
        | some word => ⟨c, some word, none, ⟨index + 1, none⟩⟩
        | none =>
            if silent then ⟨':', some [c], none, ⟨index, none⟩⟩
            else ⟨'?', none, some s!"No arg for -{c} option\n", ⟨index, none⟩⟩
  | [] => unknown silent next c
where
  /-- What is found when a letter is not allowed. -/
  unknown (silent : Bool) (next : OptionPlace) (c : Char) : OptionFound :=
    if silent then ⟨'?', some [c], none, next⟩
    else ⟨'?', none, some s!"Illegal option -{c}\n", next⟩

/-- Reads the next option; the number says at which word reading ends. -/
def nextOption
    (allowed : Octets)
    (words : List Octets)
    (place : OptionPlace) :
    OptionFound ⊕ Nat :=
  let index := place.index
  let left : Octets := match place.offset with
    | some n => if index ≤ 1 then [] else ((words[index - 2]?).getD []).drop n
    | none => []
  match left, place.offset with
  | c :: rest, some n => .inl (optionIn allowed words index n c rest)
  | _, _ =>
      match words[index - 1]? with
      | some ['-', '-'] => .inr (index + 1)
      | some ('-' :: c :: rest) => .inl (optionIn allowed words (index + 1) 1 c rest)
      | _ => .inr index

/-- Reads the next option into a variable. -/
def getopts : Builtin :=
  plain fun arguments => do
    match arguments with
    | allowed :: name :: given =>
        let s ← get
        let words := if given.isEmpty then s.parameters else given
        let start : OptionPlace :=
          if words.length + 1 < s.optionPlace.index then ⟨1, none⟩ else s.optionPlace
        let (letter, place, status) ←
          match nextOption allowed words start with
          | .inr index => pure ('?', (⟨index, none⟩ : OptionPlace), 1)
          | .inl found => do
              match found.complaint with
              | some text => Eval.act (Act.complain (Octets.ofText text))
              | none => pure ()
              match found.argument with
              | some value => Eval.assign "OPTARG".toList value false
              | none => Eval.unset "OPTARG".toList
              pure (found.letter, found.place, 0)
        Eval.assign "OPTIND".toList (Octets.ofNat place.index) false
        Eval.assign name [letter] false
        modify fun t => { t with optionPlace := place }
        return status
    | _ => Eval.failText "Usage: getopts optstring var [arg...]"

end Builtin
end Shell
end Runbook
