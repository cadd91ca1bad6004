import Runbook.Shell.Pattern
import Runbook.Shell.Arithmetic
import Runbook.Shell.Running

/-!
# Expansion of words

How the parts of a word are replaced, and how the result is cut into fields.
-/

namespace Runbook
namespace Shell

/-!
## Fields

What replaces the parts of a word is cut into fields at separators. Only what comes from parameters
and commands outside of quotes is cut there. Of separators that are blanks, a row counts as one;
each other separator ends a field.
-/

/-- A character that a word is replaced by, or the mark of quotes, which keeps a word from
vanishing. -/
inductive Cell where
  | char (c : Char) (quoted : Bool)
  | mark
  deriving DecidableEq, Repr, Inhabited

/-- Where a piece may be cut: nowhere, at separators, or only where one parameter ends and the next
one begins. -/
inductive Cut where
  | nowhere
  | separators
  | parameters
  deriving DecidableEq, Repr, Inhabited

/-- A piece of what a word is replaced by. -/
structure Piece where
  cells : List Cell
  cut : Cut
  deriving DecidableEq, Repr, Inhabited

namespace Cell

/-- The cells of a row of bytes. -/
def ofOctets
    (quoted : Bool)
    (s : Octets) :
    List Cell :=
  s.map fun c => .char c quoted

def chars (cells : List Cell) : Octets :=
  cells.filterMap fun x =>
    match x with
    | .char c _ => some c
    | .mark => none

def pattern (cells : List Cell) : Pattern :=
  cells.filterMap fun x =>
    match x with
    | .char c quoted => some (c, quoted)
    | .mark => none

end Cell

namespace Fields

/-- The separators when nothing else is said. -/
def blanks : Octets :=
  " \t\n".toList

/-- What stands between two parameters. -/
def between : Char := '\x00'

/-- How far the cutting has come: the fields so far in reverse, the current one in reverse, what
would be dropped at its end, whether the last separator was a blank, and how many more fields may
begin. -/
structure Progress where
  fields : List (List Cell)
  current : List Cell
  tail : Option (List Cell)
  afterBlank : Bool
  left : Option Nat
  deriving Repr, Inhabited

namespace Progress

/-- Nothing cut yet. -/
def start (limit : Option Nat) : Progress :=
  ⟨[], [], none, false, limit⟩

/-- Adds a cell to the current field. -/
def keep
    (p : Progress)
    (x : Cell) :
    Progress :=
  match p.tail with
  | none => { p with current := x :: p.current }
  | some t => { p with tail := some (x :: t) }

/-- Counts what would be dropped to the current field after all. -/
def settle (p : Progress) : Progress :=
  { p with current := (p.tail.getD []) ++ p.current, tail := none }

/-- Ends the current field. -/
def emit (p : Progress) : Progress :=
  { p with fields := p.current.reverse :: p.fields, current := [] }

end Progress

/-- What a cell is among separators: no separator, a blank one, or another one. -/
def kindOf
    (separators : Octets) :
    Cell → Bool × Bool
  | .mark => (false, false)
  | .char c _ =>
      let isSeparator := c = between || separators.contains c
      (isSeparator, isSeparator && (c = between || blanks.contains c))

/-- Passes a cell of the last field that may begin, which is cut only at its end. -/
def passLast
    (p : Progress)
    (x : Cell)
    (isSeparator isBlank : Bool) :
    Progress :=
  if isBlank then
    match p.tail with
    | none => { p with tail := some [x] }
    | some _ => p.keep x
  else if isSeparator && p.afterBlank then { p.keep x with afterBlank := false }
  else { p.settle.keep x with afterBlank := false }

/-- Passes a cell of a piece that may be cut. -/
def pass
    (separators : Octets)
    (noBlanks : Bool)
    (p : Progress)
    (x : Cell) :
    Progress :=
  let (isSeparator, isBlank) := kindOf separators x
  if p.left = some 0 then passLast p x isSeparator isBlank
  else if p.afterBlank then
    if isBlank then { p with current := [] }
    else if isSeparator then { p with current := [], afterBlank := false }
    else { p with current := [x], afterBlank := false }
  else if isSeparator then
    let afterBlank := if noBlanks then p.afterBlank else isBlank
    if p.current.isEmpty && afterBlank then { p with afterBlank := false }
    else
      match p.left with
      | some 1 => { p with left := some 0, tail := some [x], afterBlank := afterBlank }
      | left => { p.emit with left := left.map (· - 1), afterBlank := afterBlank }
  else { p.keep x with afterBlank := false }

/-- Passes the pieces of a word. The flag says whether the piece before was cut between parameters
only. -/
def passAll
    (separators : Octets) :
    Bool → Progress → List Piece → Progress × Bool
  | after, p, [] => (p, after)
  | after, p, piece :: rest =>
      match piece.cut with
      | .nowhere => passAll separators after (piece.cells.foldl Progress.keep p) rest
      | cut =>
          let only := cut = .parameters
          let q := piece.cells.foldl (pass (if only then [] else separators) (after || only))
            { p with afterBlank := false }
          passAll separators only q rest

/-- The fields of a word; with a limit, the last one takes all that is left. -/
def split
    (separators : Octets)
    (limit : Option Nat)
    (pieces : List Piece) :
    List (List Cell) :=
  let (p, only) := passAll separators false (.start limit) pieces
  let last := p.current.reverse
  (if only || !last.isEmpty then last :: p.fields else p.fields).reverse

end Fields

/-!
## Expansion

The parts of a word are replaced: a tilde by a home directory, parameters by their values, commands by
their output, expressions by their numbers. The result is cut into fields, and a field that is a
pattern is replaced by the paths that match it.
-/

/-- Where a tilde stands for a home directory: nowhere, at the start of a word, or also behind the
colons of a value. -/
inductive Tilde where
  | none
  | start
  | value
  deriving DecidableEq, Repr, Inhabited

/-- How a word is expanded: whether fields are cut, whether it belongs to a parameter that is cut
itself, and where tildes count. -/
structure Manner where
  cuts : Bool
  inner : Bool
  tilde : Tilde
  deriving DecidableEq, Repr, Inhabited

namespace Eval

/-! ## Tildes -/

/-- The home directory of a user; the user without name is the one at work. -/
def home? (user : Octets) : Eval (Option Octets) := do
  if user.isEmpty then return (← get).value? "HOME".toList
  else if user = "root".toList then return some "/root".toList
  else return none

/-- The cells of a text in which tildes count. `whole` says that the text ends where the word ends,
`fresh` that a tilde counts at once. -/
def tildes
    (tilde : Tilde)
    (whole : Bool) :
    Nat → Bool → List Cell → Octets → Eval (List Cell)
  | 0, _, done, _ => return done.reverse
  | _, _, done, [] => return done.reverse
  | fuel + 1, fresh, done, c :: s => do
      let again := tilde = .value && c = ':'
      if c = '~' && fresh then
        let user := s.takeWhile fun d => d ≠ '/' && !(tilde = .value && d = ':')
        let rest := s.drop user.length
        let found ← if rest.isEmpty && !whole then pure none else home? user
        match found with
        | some directory =>
            tildes tilde whole fuel false ((Cell.ofOctets true directory).reverse ++ done) rest
        | none => tildes tilde whole fuel false (.char c false :: done) s
      else tildes tilde whole fuel again (.char c false :: done) s

/-! ## Parameters -/

/-- The letters of the options that are set. -/
def optionLetters (s : State) : Octets :=
  "ubaCEVvxsnmiIfe".toList.filter s.options.contains

/-- The parameters in a row. -/
def joined
    (separator : Option Char)
    (s : State) :
    Octets :=
  match separator with
  | some c => Octets.intercalate [c] s.parameters
  | none => s.parameters.flatten

/-- What stands between parameters that are replaced together. -/
def separatorOf
    (s : State)
    (each : Bool)
    (quoted cuts : Bool) :
    Option Char :=
  if each && quoted && cuts then some Fields.between
  else
    match s.separators with
    | none => some ' '
    | some separators => if cuts && !quoted then some Fields.between else separators.head?

def parameter?
    (name : Octets)
    (quoted cuts : Bool) :
    Eval (Option Octets) := do
  let s ← get
  match name with
  | ['@'] => return some (joined (separatorOf s true quoted cuts) s)
  | ['*'] => return some (joined (separatorOf s false quoted cuts) s)
  | ['#'] => return some (Octets.ofNat s.parameters.length)
  | ['?'] => return some (Octets.ofNat s.status)
  | ['$'] => return some (Octets.ofNat s.root)
  | ['!'] => return s.lastBackground.map Octets.ofNat
  | ['-'] => return some (optionLetters s)
  | c :: _ =>
      if c.isDigit then
        match (String.ofList name).toNat? with
        | some 0 => return some s.name
        | some n => return s.parameters[n - 1]?
        | none => return none
      else return s.value? name
  | [] => failText "Bad substitution"

/-- Sets a parameter that must be a variable. -/
def assignParameter (name value : Octets) : Eval Unit := do
  if isName name then assign name value false
  else fail (name ++ ": bad variable name".toList)

/-- Breaks off because a parameter has no value. -/
def missing
    {α : Type}
    (name message : Octets) :
    Eval α :=
  fail (name ++ ": ".toList ++ message)

/-! ## Expressions -/

/-- The value of an expression. -/
def arithmetic (text : Octets) : Eval Octets := do
  let complain {α : Type} (message : String) : Eval α :=
    fail ("arithmetic expression: ".toList ++ Octets.ofText message ++ ": \"".toList ++ text ++ ['"'])
  match Arith.parse text with
  | .error message => complain message
  | .ok e =>
      let value (name : Octets) : Eval Int := do
        match Arith.valueOf? (((← get).value? name).getD []) with
        | some n => return n
        | none => fail ("Illegal number: ".toList ++ ((← get).value? name).getD [])
      let n ← e.eval value
        (fun name n => assign name (Octets.ofInt n) false) (complain "division by zero")
      return Octets.ofInt n

/-! ## Commands -/

/-- Reads a descriptor to its end. -/
def drain (descriptor : Nat) : Eval Octets := do
  match ← act (Act.readAll descriptor) with
  | .ok data => return data
  | .error _ => return []

/-- Lets the output go to a descriptor, which is closed then. -/
def redirectOutput (descriptor : Nat) : Eval Unit := do
  if descriptor ≠ 1 then
    let _ ← ask (.copy descriptor 1)
    let _ ← ask (.close descriptor)

/-- The output of a command, without line ends behind it. -/
def outputOf
    (runner : Runner)
    (body : Command) :
    Eval Octets := do
  if isNothing body then return []
  let (out, into) ← ask .pipe
  let id ← fork runner do
    let _ ← ask (.close out)
    redirectOutput into
    let _ ← runner false true body
  let job ← addJob [id] false
  let _ ← ask (.close into)
  let data ← drain out
  let _ ← ask (.close out)
  let status ← waitJob job
  modify fun s => { s with substituted := status }
  let kept := data.filter (· ≠ '\x00')
  return (kept.reverse.dropWhile (· = '\n')).reverse

/-! ## Words -/

/-- What a value is replaced by: outside of quotes it may be cut, and so may parameters that are
replaced each by itself. -/
def pieceOf
    (m : Manner)
    (quoted : Bool)
    (each : Bool)
    (value : Octets) :
    List Piece :=
  let cut : Cut :=
    if !m.cuts then .nowhere
    else if !quoted then .separators
    else if each then .parameters
    else .nowhere
  [⟨Cell.ofOctets quoted value, cut⟩]

def charsOf (pieces : List Piece) : Octets :=
  pieces.flatMap fun p => Cell.chars p.cells

def patternOf (pieces : List Piece) : Pattern :=
  pieces.flatMap fun p => Cell.pattern p.cells

/-- Whether the quotes around all parameters end behind them, so that no parameters leave no word. -/
def isBareEach : List Part → Bool
  | .quoted [] :: .parameter true ['@'] .plain _ _ :: rest =>
      match rest with
      | .parameter true _ _ _ _ :: _ => false
      | .command true _ :: _ => false
      | .arithmetic true _ :: _ => false
      | _ => true
  | _ => false

/-- What a complaint about a parameter without value says. -/
def missingText
    (emptyCounts : Bool)
    (isPlain : Bool)
    (word : Octets) :
    Octets :=
  if !isPlain then word
  else if emptyCounts then "parameter not set or null".toList
  else "parameter not set".toList

mutual

/-- The pieces that a part is replaced by. `first` and `whole` say that the part stands at the start
of the word and that nothing follows it. -/
def expandPart
    (runner : Runner)
    (m : Manner)
    (first whole : Bool) :
    Part → Eval (List Piece)
  | .text s => do
      let cells ←
        if m.tilde = .none then pure (Cell.ofOctets false s)
        else tildes m.tilde whole (s.length + 1) first [] s
      return [⟨cells, if m.cuts && m.inner then .separators else .nowhere⟩]
  | .quoted s => return [⟨if s.isEmpty then [.mark] else Cell.ofOctets true s, .nowhere⟩]
  | .command quoted body => do
      return pieceOf m quoted false (← outputOf runner body)
  | .arithmetic quoted parts => do
      let text ← expandParts runner ⟨false, false, .none⟩ true parts
      return pieceOf m quoted false (← arithmetic (charsOf text))
  | .parameter quoted name use emptyCounts word => do
      if use = .bad then failText "Bad substitution"
      let s ← get
      let found ← parameter? name quoted m.cuts
      let isEach := name = ['@'] && !s.parameters.isEmpty
      let counted := if emptyCounts && found = some [] then none else found
      let inner : Manner := { m with inner := true, tilde := .start }
      let apart : Manner := ⟨false, false, .start⟩
      let demanded : Eval Octets := do
        match counted with
        | some v => return v
        | none =>
            if s.has 'u' && name ≠ ['*'] && name ≠ ['@'] then
              missing name "parameter not set".toList
            else return []
      match use, counted with
      | .default, some v => return pieceOf m quoted isEach v
      | .default, none => expandParts runner inner true word
      | .alternative, some _ => expandParts runner inner true word
      | .alternative, none => return []
      | .assign, some v => return pieceOf m quoted isEach v
      | .assign, none => do
          assignParameter name (charsOf (← expandParts runner apart true word))
          return pieceOf m quoted isEach ((← parameter? name quoted m.cuts).getD [])
      | .demand, some v => return pieceOf m quoted isEach v
      | .demand, none => do
          let text := charsOf (← expandParts runner apart true word)
          missing name (missingText emptyCounts word.isEmpty text)
      | .length, _ => do
          return pieceOf m quoted false (Octets.ofNat (← demanded).length)
      | .cutEnd longest, _ => do
          let v ← demanded
          let p := patternOf (← expandParts runner apart true word)
          return pieceOf m quoted isEach (Pattern.cutEnd longest p v)
      | .cutStart longest, _ => do
          let v ← demanded
          let p := patternOf (← expandParts runner apart true word)
          return pieceOf m quoted isEach (Pattern.cutStart longest p v)
      | _, _ => return pieceOf m quoted isEach (← demanded)

/-- The pieces that the parts of a word are replaced by. -/
def expandParts
    (runner : Runner)
    (m : Manner)
    (first : Bool) :
    List Part → Eval (List Piece)
  | [] => return []
  | part :: rest => do
      let isDropped := isBareEach (part :: rest)
      let pieces ← expandPart runner m first rest.isEmpty part
      let more ← expandParts runner m false rest
      return if isDropped then more else pieces ++ more

end

def expandText
    (runner : Runner)
    (tilde : Tilde)
    (w : Word) :
    Eval Octets := do
  return charsOf (← expandParts runner ⟨false, false, tilde⟩ true w)

def expandPattern
    (runner : Runner)
    (w : Word) :
    Eval Pattern := do
  return patternOf (← expandParts runner ⟨false, false, .start⟩ true w)

/-! ## Paths -/

/-- A part of a pattern between slashes, and the slashes behind it. -/
structure Segment where
  pattern : Pattern
  slashes : Octets
  deriving Inhabited

/-- The parts of a pattern between slashes. -/
def segments : Nat → Pattern → List Segment
  | 0, _ => []
  | _, [] => []
  | fuel + 1, p =>
      let name := p.takeWhile fun e => e.1 ≠ '/'
      let rest := p.drop name.length
      let slashes := rest.takeWhile fun e => e.1 = '/'
      ⟨name, Pattern.chars slashes⟩ :: segments fuel (rest.drop slashes.length)

/-- The names in a directory that a pattern matches. A point at the start is matched by itself
only. -/
def matchingNames
    (directory : Octets)
    (p : Pattern) :
    Eval (List Octets) := do
  match ← ask (.list (if directory.isEmpty then ['.'] else directory)) with
  | .error _ => return []
  | .ok names =>
      let hidden := p.head?.any fun e => e.1 = '.'
      let all := (if hidden then [['.'], ['.', '.']] else []) ++ names
      return (all.filter fun n => (n.head? ≠ some '.' || hidden) && Pattern.isMatch p n)

/-- The paths behind a given one that the parts of a pattern match. -/
def pathsFrom : List Segment → Octets → Eval (List Octets)
  | [], path => do
      match ← ask (.status path false) with
      | .ok _ => return [path]
      | .error _ => return []
  | segment :: rest, path => do
      if Pattern.isSpecial segment.pattern then
        let names ← matchingNames path segment.pattern
        if rest.isEmpty && segment.slashes.isEmpty then return names.map (path ++ ·)
        else
          return (← forEach (fun n => pathsFrom rest (path ++ n ++ segment.slashes)) names).flatten
      else
        pathsFrom rest (path ++ Pattern.chars segment.pattern ++ segment.slashes)

/-- A field as words: the paths it matches in their order, or itself. -/
def wordsOf (field : List Cell) : Eval (List Octets) := do
  let p := Cell.pattern field
  if !(← get).has 'f' && Pattern.isSpecial p then
    match ← pathsFrom (segments (p.length + 1) p) [] with
    | [] => return [Cell.chars field]
    | paths => return paths.mergeSort Octets.le
  else return [Cell.chars field]

def expandWord
    (runner : Runner)
    (w : Word) :
    Eval (List Octets) := do
  let pieces ← expandParts runner ⟨true, false, .start⟩ true w
  let separators := (← get).separators.getD Fields.blanks
  return (← forEach wordsOf (Fields.split separators none pieces)).flatten

def expandWords
    (runner : Runner)
    (ws : List Word) :
    Eval (List Octets) := do
  return (← forEach (expandWord runner) ws).flatten

end Eval

end Shell
end Runbook
