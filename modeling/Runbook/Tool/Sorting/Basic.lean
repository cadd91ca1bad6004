import Runbook.Tool.Input
import Runbook.Tool.Options
import Runbook.Tool.Sorting.Key
import Runbook.Tool.Target

/-!
# The tool that sorts

What is asked of sorting, and the tool that sorts.
-/

namespace Runbook
namespace Tool
namespace Sorting

/-!
## What is asked of sorting

Options name the keys, the way in which they are compared where they do not say it themselves, and
what is done with the lines. They are read in their order, so that the first one that is wrong is
complained about.
-/

/-! ### Keys -/

/-- The way of comparing with what a letter asks for; at the start or the end of a key. -/
def withLetter?
    (isStart isEnd : Bool)
    (o : Ordering_)
    (c : Char) :
    Option Ordering_ :=
  let by_ (order : Order) : Option Ordering_ := some { o with orders := order :: o.orders }
  match c with
  | 'b' =>
      some { o with skipsStart := o.skipsStart || isStart, skipsEnd := o.skipsEnd || isEnd }
  | 'd' => some { o with dictionary := true }
  | 'f' => some { o with folds := true }
  | 'g' => by_ .float
  | 'h' => by_ .human
  | 'i' => some { o with printable := true }
  | 'M' => by_ .month
  | 'n' => by_ .number
  | 'r' => some { o with reverse := true }
  | 'V' => by_ .version
  | 'R' => by_ .random
  | _ => none

/-- Reads letters, and gives what is left behind them. -/
def readLetters
    (isStart isEnd : Bool) :
    Ordering_ → Octets → Ordering_ × Octets
  | o, [] => (o, [])
  | o, c :: s =>
      match withLetter? isStart isEnd o c with
      | some o' => readLetters isStart isEnd o' s
      | none => (o, c :: s)

/-- Complains about the text of a key. -/
def badKey
    {α : Type}
    (reason : String)
    (word : Octets) :
    Work α :=
  Work.fail 2 (reason.toList ++ ": invalid field specification ".toList ++ Quoting.plain word)

/-- Reads a number of a key. -/
def readCount
    (reason : String)
    (s : Octets) :
    Work (Nat × Octets) := do
  let t := s.dropWhile fun c => c = ' ' || ('\t' ≤ c && c ≤ '\r')
  let u := match t with
    | '+' :: rest => rest
    | _ => t
  let digits := u.takeWhile Char.isDigit
  match digitsIn? 10 digits with
  | some n => return (n, u.drop digits.length)
  | none =>
      Work.fail 2 (reason.toList ++ ": invalid count at start of ".toList ++ Quoting.plain s)

def readKey (word : Octets) : Work Key := do
  let (field, s) ← readCount "invalid number at field start" word
  if field = 0 then badKey "field number is zero" word
  let (place, s) ← match s with
    | '.' :: t => do
        let (n, rest) ← readCount "invalid number after '.'" t
        if n = 0 then badKey "character offset is zero" word
        pure (n - 1, rest)
    | t => pure (0, t)
  let (o, s) := readLetters true false .plain s
  match s with
  | [] => return ⟨⟨field - 1, place⟩, none, o⟩
  | ',' :: t => do
      let (last, t) ← readCount "invalid number after ','" t
      if last = 0 then badKey "field number is zero" word
      let (stop, t) ← match t with
        | '.' :: u => readCount "invalid number after '.'" u
        | u => pure (0, u)
      let (o, t) := readLetters false true o t
      if !t.isEmpty then badKey "stray character in field spec" word
      return ⟨⟨field - 1, place⟩, some ⟨last - 1, stop⟩, o⟩
  | _ => badKey "stray character in field spec" word

/-! ### Options -/

def forms : List OptionForm :=
  [ flag "b" ["ignore-leading-blanks"], flag "d" ["dictionary-order"], flag "f" ["ignore-case"],
    flag "g" ["general-numeric-sort"], flag "h" ["human-numeric-sort"],
    flag "i" ["ignore-nonprinting"], flag "M" ["month-sort"], flag "n" ["numeric-sort"],
    flag "R" ["random-sort"], flag "r" ["reverse"], flag "V" ["version-sort"],
    flag "c" [], flag "C" [], ⟨"check", ["check"], .maybe⟩, valued "k" ["key"],
    flag "m" ["merge"], valued "o" ["output"], flag "s" ["stable"], valued "S" ["buffer-size"],
    valued "t" ["field-separator"], valued "T" ["temporary-directory"], flag "u" ["unique"],
    flag "z" ["zero-terminated"], valued "sort" ["sort"], valued "parallel" ["parallel"],
    valued "batch-size" ["batch-size"], valued "random-source" ["random-source"],
    valued "compress-program" ["compress-program"], ⟨"y", [], .maybe⟩, flag "debug" ["debug"] ]

/-- What is asked for. -/
structure Request where
  keys : List Key
  ordering : Ordering_
  separator : Option Char
  unique : Bool
  stable : Bool
  merges : Bool
  check : Option Char
  target : Option Octets
  stop : Char
  deriving Repr, Inhabited

/-- What is asked for without options. -/
def Request.plain : Request :=
  ⟨[], .plain, none, false, false, false, none, none, '\n'⟩

/-- Complains about options that do not go together. -/
def incompatible
    {α : Type}
    (letters : Octets) :
    Work α :=
  Work.fail 2 ("options '-".toList ++ letters ++ "' are incompatible".toList)

/-- Asks for a check, quiet or not. -/
def Request.checking
    (r : Request)
    (letter : Char) :
    Work Request :=
  if r.check.any (· ≠ letter) then incompatible "cC".toList
  else return { r with check := some letter }

/-- The character that separates fields. -/
def separatorOf (word : Octets) : Work Char := do
  match word with
  | [c] => return c
  | [] => Work.failText 2 "empty tab"
  | ['\\', '0'] => return '\x00'
  | _ => Work.fail 2 ("multi-character tab ".toList ++ Quoting.plain word)

/-- Finds out whether a word is a size, which may be a share of the memory. -/
def checkSize (word : Octets) : Work Unit := do
  let digits := word.takeWhile Char.isDigit
  let unit := word.drop digits.length
  if digits.isEmpty then
    Work.fail 2 ("invalid -S argument ".toList ++ Quoting.plain word)
  let isKnown := match unit with
    | [] => true
    | [c] => "bEgGkKmMPQRtTYZ%".toList.contains c
    | _ => false
  if !isKnown then
    Work.fail 2 ("invalid suffix in -S argument ".toList ++ Quoting.plain word)

def checkNumber
    (option : String)
    (word : Octets) :
    Work Nat := do
  match digitsIn? 10 word with
  | some n => return n
  | none =>
      Work.fail 2 (("invalid --" ++ option ++ " argument ").toList ++ Quoting.plain word)

def letterOf (name : String) : Char :=
  if name = "human-numeric" then 'h'
  else if name = "month" then 'M'
  else if name = "numeric" then 'n'
  else if name = "random" then 'R'
  else if name = "version" then 'V'
  else 'g'

def Request.take
    (r : Request)
    (g : Given) :
    Work Request := do
  let byLetter (c : Char) : Request :=
    { r with ordering := (withLetter? true true r.ordering c).getD r.ordering }
  match g.key with
  | "c" => r.checking 'c'
  | "C" => r.checking 'C'
  | "check" => do
      if g.value.isEmpty then r.checking 'c'
      else
        let name ← Work.choice "--check" [["quiet", "silent"], ["diagnose-first"]] g.value
        r.checking (if name = "quiet" then 'C' else 'c')
  | "k" => return { r with keys := r.keys ++ [← readKey g.value] }
  | "m" => return { r with merges := true }
  | "o" => do
      if r.target.any (· ≠ g.value) then Work.failText 2 "multiple output files specified"
      return { r with target := some g.value }
  | "s" => return { r with stable := true }
  | "S" => do
      checkSize g.value
      return r
  | "t" => do
      let c ← separatorOf g.value
      if r.separator.any (· ≠ c) then Work.failText 2 "incompatible tabs"
      return { r with separator := some c }
  | "u" => return { r with unique := true }
  | "z" => return { r with stop := '\x00' }
  | "sort" => do
      let name ← Work.choice "--sort" [["general-numeric"], ["human-numeric"], ["month"],
        ["numeric"], ["random"], ["version"]] g.value
      return byLetter (letterOf name)
  | "parallel" => do
      if (← checkNumber "parallel" g.value) = 0 then
        Work.failText 2 "number in parallel must be nonzero"
      return r
  | "batch-size" => do
      if (← checkNumber "batch-size" g.value) < 2 then
        Work.warn ("invalid --batch-size argument ".toList ++ Quoting.plain g.value)
        Work.failText 2 "minimum --batch-size argument is '2'"
      return r
  | key => return if key.length = 1 then byLetter (key.toList.headD ' ') else r

/-- The keys that lines are compared by: the whole line if none is named. A key that says nothing of
how it is compared is compared as all options together ask for. -/
def Request.allKeys (r : Request) : List Key :=
  if r.keys.isEmpty then [⟨⟨0, 0⟩, none, r.ordering⟩]
  else r.keys.map fun k => if k.ordering = .plain then { k with ordering := r.ordering } else k

/-! ### The older notation of keys -/

/-- A place in the older notation, which counts from zero: a number of fields, a number of bytes, and
letters. -/
def oldPlace? (s : Octets) : Option (Nat × Nat × Octets) :=
  let digits := s.takeWhile Char.isDigit
  match digitsIn? 10 digits, s.drop digits.length with
  | some field, '.' :: t =>
      let more := t.takeWhile Char.isDigit
      (digitsIn? 10 more).map fun place => (field, place, t.drop more.length)
  | some field, t => some (field, 0, t)
  | none, _ => none

/-- A key whose start, and perhaps end, is told in the older notation. -/
def keyWord
    (start : Nat × Nat × Octets)
    (stop : Option (Nat × Nat × Octets)) :
    Octets :=
  let number := Octets.ofNat
  let tail : Octets := match stop with
    | none => []
    | some (field, 0, letters) => ',' :: number (max 1 field) ++ letters
    | some (field, place, letters) => ',' :: number (field + 1) ++ '.' :: number place ++ letters
  "-k".toList ++ number (start.1 + 1) ++ '.' :: number (start.2.1 + 1) ++ start.2.2 ++ tail

/-- Whether the next word is the value of an option at the end of a word. -/
def wantsValue (word : Octets) : Bool :=
  match word with
  | '-' :: '-' :: body =>
      match Options.readName forms body [] with
      | .error (.nameNeedsValue _) => true
      | _ => false
  | '-' :: letters =>
      match Options.readLetters forms letters [] with
      | .error (.letterNeedsValue _) => true
      | _ => false
  | _ => false

/-- The start of a key in the older notation: a plus sign, a place and letters. -/
def oldStart? (word : Octets) : Option (Nat × Nat × Octets) :=
  match word with
  | '+' :: s => (oldPlace? s).filter fun place => (readLetters true false .plain place.2.2).2.isEmpty
  | _ => none

/-- The end of a key in the older notation: a dash and a place. -/
def oldStop? (word : Octets) : Option (Nat × Nat × Octets) :=
  match word with
  | '-' :: s => oldPlace? s
  | _ => none

/-- The words with keys of the older notation written as options. -/
def withKeyOptions : List Octets → List Octets
  | [] => []
  | [word] =>
      match oldStart? word with
      | some start => [keyWord start none]
      | none => [word]
  | word :: next :: rest =>
      if word = "--".toList then word :: next :: rest
      else if wantsValue word then word :: next :: withKeyOptions rest
      else
        match oldStart? word, oldStop? next with
        | some start, some stop => keyWord start (some stop) :: withKeyOptions rest
        | some start, none => keyWord start none :: withKeyOptions (next :: rest)
        | none, _ => word :: withKeyOptions (next :: rest)

/-!
## Sorting

The tool that writes the lines of all files in order, finds out whether they are in order, or merges
files that are.
-/

/-- How lines are sorted. -/
structure Plan where
  keys : List Key
  separator : Option Char
  unique : Bool
  stable : Bool
  reverse : Bool
  stop : Char
  deriving Repr, Inhabited

/-- The order of two lines by their keys. -/
def Plan.compareKeys (p : Plan) (a b : Octets) : List Key → Ordering
  | [] => .eq
  | k :: rest =>
      match k.ordering.compare (k.part p.separator a) (k.part p.separator b) with
      | .eq => compareKeys p a b rest
      | o => o

/-- The order of two lines. -/
def Plan.compare
    (p : Plan)
    (a b : Octets) :
    Ordering :=
  match p.compareKeys a b p.keys with
  | .eq =>
      if p.unique || p.stable then .eq
      else if p.reverse then (Octets.compare a b).swap
      else Octets.compare a b
  | o => o

/-- Leaves out lines that are the same as the one before. -/
def Plan.withoutTwins (p : Plan) : List Octets → List Octets
  | a :: b :: rest =>
      if p.compare a b = .eq then withoutTwins p (a :: rest) else a :: withoutTwins p (b :: rest)
  | lines => lines
  termination_by lines => lines.length

def Plan.sorted
    (p : Plan)
    (lines : List Octets) :
    List Octets :=
  let sorted := lines.mergeSort fun a b => p.compare a b != .gt
  if p.unique then p.withoutTwins sorted else sorted

/-- Lines of several files that are in order each. -/
def Plan.merged
    (p : Plan)
    (files : List (List Octets)) :
    List Octets :=
  let all := files.foldl (fun done f => List.merge done f fun a b => p.compare a b != .gt) []
  if p.unique then p.withoutTwins all else all

/-- The number of the first line that is not in order, and the line. -/
def Plan.disorder? (p : Plan) : Nat → List Octets → Option (Nat × Octets)
  | n, a :: b :: rest =>
      let isWrong := match p.compare a b with
        | .gt => true
        | .eq => p.unique
        | .lt => false
      if isWrong then some (n + 1, b) else disorder? p (n + 1) (b :: rest)
  | _, _ => none

def Request.plan (r : Request) : Plan :=
  { keys := r.allKeys
    separator := r.separator
    unique := r.unique
    stable := r.stable
    reverse := r.ordering.reverse
    stop := r.stop }

def readLines
    (p : Plan)
    (path : Octets) :
    Work (List Octets) := do
  let name := Quoting.shellBeforeColon path
  match ← Work.openInput path with
  | .error e => Work.fail 2 ("open failed: ".toList ++ name ++ ": ".toList ++ e.reason.toList)
  | .ok d => do
      match ← Work.act (Act.readAll d) with
      | .error e => Work.fail 2 ("read failed: ".toList ++ name ++ ": ".toList ++ e.reason.toList)
      | .ok data => do
          Work.closeInput d
          return Octets.linesBy p.stop data

/-- Finds out whether a file is in order. -/
def check
    (p : Plan)
    (quiet : Bool)
    (path : Octets) :
    Work Unit := do
  match p.disorder? 1 (← readLines p path) with
  | none => pure ()
  | some (n, line) => do
      if !quiet then
        Work.warn (Quoting.shellBeforeColon path ++ ':' :: Octets.ofNat n ++ ": disorder: ".toList
          ++ line)
      Work.setStatus 1

def checkInput (path : Octets) : Work Unit := do
  if path ≠ Work.dash then
    match ← Work.ask (.status path true) with
    | .ok _ => pure ()
    | .error e =>
        Work.fail 2 ("cannot read: ".toList ++ Quoting.shellBeforeColon path ++ ": ".toList
          ++ e.reason.toList)

/-- Lets the output go to a file, which keeps what it holds until there is something to write. -/
def redirect (path : Octets) : Work Unit := do
  match ← Work.ask (.openFile path ⟨false, true, true, false, false, false⟩) with
  | .error e =>
      Work.fail 2 ("open failed: ".toList ++ Quoting.shellBeforeColon path ++ ": ".toList
        ++ e.reason.toList)
  | .ok d => do
      let _ ← Work.ask (.copy d 1)
      let _ ← Work.ask (.close d)

def tool : Tool :=
  simple 2 fun words => do
    let a ← Work.arguments forms 2 (withKeyOptions words)
    let r ← Work.foldAll Request.take .plain a.options
    match r.allKeys.findSome? fun k => k.ordering.clash? with
    | some letters => incompatible letters
    | none => pure ()
    let p := r.plan
    match r.check with
    | some letter => do
        match a.operands.drop 1 with
        | extra :: _ => Work.fail 2 ("extra operand ".toList ++ Quoting.plain extra
            ++ " not allowed with -".toList ++ [letter])
        | [] => pure ()
        if r.target.isSome then incompatible [letter, 'o']
        check p (letter = 'C') (a.operands.headD Work.dash)
    | none => do
        let files := Work.inputs a.operands
        Work.forAll checkInput files
        match r.target with
        | some path => redirect path
        | none => pure ()
        let inputs ← files.mapM (readLines p)
        if r.target.isSome then
          let _ ← Work.ask (.truncate 1 0)
        let lines := if r.merges then p.merged inputs else p.sorted inputs.flatten
        Work.forAll (fun line => Work.say (line ++ [p.stop])) lines

end Sorting
end Tool
end Runbook
