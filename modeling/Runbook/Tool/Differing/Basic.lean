import Runbook.Shell.Pattern
import Runbook.Tool.Calendar
import Runbook.Tool.Differing.Layout
import Runbook.Tool.Input
import Runbook.Tool.Options
import Runbook.Tool.Target

/-!
# Comparing files

The tools that show in what bytes and in what lines files differ, and which files there are in one
directory only.
-/

namespace Runbook
namespace Tool
namespace Differing

/-!
## Bytes

The tool that tells where two files differ for the first time, or all bytes in which they differ.
-/

/-- Reads the words of a tool that compares files. -/
def arguments
    (forms : List OptionForm)
    (words : List Octets) :
    Work Arguments :=
  match Options.readWords forms false (words.length + 1) ⟨[], []⟩ words with
  | .ok a => pure a
  | .error e => Work.refuse 2 e.message

/-- Complains that no operand follows a word. -/
def missing
    {α : Type}
    (word : Octets) :
    Work α :=
  Work.refuse 2 ("missing operand after ".toList ++ Quoting.plain word)

/-- Complains about an operand too many. -/
def tooMany
    {α : Type}
    (word : Octets) :
    Work α :=
  Work.refuse 2 ("extra operand ".toList ++ Quoting.plain word)

/-- How bytes are compared: all of them, without a word, with their characters, and how many. -/
structure ByteStyle where
  all : Bool
  silent : Bool
  chars : Bool
  most : Option Nat
  deriving DecidableEq, Repr, Inhabited

/-- A byte as a character that shows. -/
def visible (c : Char) : Octets :=
  let n := c.toNat
  let low (m : Nat) : Octets :=
    if m < 32 then ['^', Char.ofNat (m + 64)] else if m = 127 then "^?".toList else [Char.ofNat m]
  if n < 128 then low n else "M-".toList ++ low (n - 128)

/-- A byte in octal digits. -/
def octal (c : Char) : Octets :=
  Octets.padLeft 3 ' ' (Nat.toDigits 8 c.toNat)

/-- Two bytes that differ, with their characters if these are asked for. -/
def twoBytes
    (style : ByteStyle)
    (a b : Char) :
    Octets :=
  if style.chars then
    let first := visible a
    octal a ++ ' ' :: (if style.all then Octets.padRight 4 first else first) ++ ' ' :: octal b
      ++ ' ' :: visible b
  else octal a ++ ' ' :: octal b

/-- What a comparison comes to: the bytes that differ with their places, the last one first, how many
bytes and lines were gone through, whether the last one ended a line, and what is left of either file. -/
structure ByteReport where
  differing : List (Nat × Nat × Char × Char)
  count : Nat
  lines : Nat
  atStart : Bool
  first : Octets
  second : Octets
  deriving Repr, Inhabited

/-- Goes through the bytes of two files, up to the first difference unless all are asked for. -/
def compareBytes
    (all : Bool) :
    Octets → Octets → ByteReport → ByteReport
  | a :: s, b :: t, r =>
      let next : ByteReport :=
        { r with
          count := r.count + 1
          lines := if a = '\n' then r.lines + 1 else r.lines
          atStart := a = '\n' }
      if a = b then compareBytes all s t next
      else
        let found := (r.count + 1, r.lines + 1, a, b) :: r.differing
        if all then compareBytes all s t { next with differing := found }
        else { next with differing := found, first := a :: s, second := b :: t }
  | s, t, r => { r with first := s, second := t }

/-- Two numbers, of which a word may give the second one behind a colon. -/
def twoAmounts
    (option : String)
    (word : Octets) :
    Work (Nat × Nat) := do
  let first := word.takeWhile (· ≠ ':')
  let second := if first.length < word.length then word.drop (first.length + 1) else first
  match amount? first, amount? second with
  | some a, some b => return (a, b)
  | _, _ =>
      Work.refuse 2 ("invalid --".toList ++ option.toList ++ " value '".toList ++ word ++ ['\''])
where
  /-- A number with a unit. -/
  amount? (w : Octets) : Option Nat :=
    if (w.head?).any Char.isDigit then (Amount.read w).toOption else none

def cmp : Tool :=
  fun _ start => Work.perform "cmp".toList 2 do
    let a ← arguments
      [ flag "b" ["print-bytes"], valued "i" ["ignore-initial"], flag "l" ["verbose"],
        valued "n" ["bytes"], flag "s" ["quiet", "silent"] ] start.arguments
    let skips ← match a.value? "i" with
      | some w => twoAmounts "ignore-initial" w
      | none => pure (0, 0)
    let most ← match a.value? "n" with
      | some w => pure (some (← twoAmounts "bytes" w).1)
      | none => pure none
    if a.has "l" && a.has "s" then Work.refuse 2 "options -l and -s are incompatible".toList
    let style : ByteStyle := ⟨a.has "l", a.has "s", a.has "b", most⟩
    let (p, q, more) ← match a.operands with
      | [] => missing ((start.arguments.getLast?).getD "cmp".toList)
      | [p] => pure (p, Work.dash, [])
      | p :: q :: more => pure (p, q, more)
    let (m, n) ← match more with
      | [] => pure skips
      | [x] => do pure ((← twoAmounts "ignore-initial" x).1, skips.2)
      | [x, y] => do
          pure ((← twoAmounts "ignore-initial" x).1, (← twoAmounts "ignore-initial" y).1)
      | _ :: _ :: extra :: _ => tooMany extra
    match ← statusOf p, ← statusOf q with
    | some s, some t =>
        if s.identity = t.identity && s.kind = .file && m = n then Work.giveUp 0
    | _, _ => pure ()
    let first ← holdings style p
    let second ← holdings style q
    let limit (s : Octets) : Octets := match most with
      | some k => s.take k
      | none => s
    let x := limit (first.drop m)
    let y := limit (second.drop n)
    let r := compareBytes style.all x y ⟨[], 0, 0, true, [], []⟩
    report style p q x y r
where
  /-- What is known of a file. -/
  statusOf (path : Octets) : Work (Option FileStatus) := do
    if path = Work.dash then return (← Work.ask (.statusOf 0)).toOption
    else Work.act (Act.statusAt? path)
  /-- All of a file, or a complaint. -/
  holdings (style : ByteStyle) (path : Octets) : Work Octets := do
    match ← Work.readWhole path with
    | .ok data => return data
    | .error e =>
        if style.silent then Work.giveUp 2
        else Work.fail 2 (path ++ ": ".toList ++ e.reason.toList)
  /-- Tells about what was found, and sets the exit status. -/
  report (style : ByteStyle) (p q x y : Octets) (r : ByteReport) : Work Unit := do
    let width := (Octets.ofNat (min x.length y.length)).length
    match r.differing.reverse with
    | [] => pure ()
    | (place, line, c, d) :: others => do
        Work.setStatus 1
        if style.all then
          Work.forAll
            (fun (e : Nat × Nat × Char × Char) =>
              Work.say (Octets.padLeft width ' ' (Octets.ofNat e.1) ++ ' '
                :: twoBytes style e.2.2.1 e.2.2.2 ++ ['\n']))
            ((place, line, c, d) :: others)
        else if !style.silent then
          let unit := if style.chars then "byte" else "char"
          Work.say (p ++ ' ' :: q ++ " differ: ".toList ++ unit.toList ++ ' ' :: Octets.ofNat place
            ++ ", line ".toList ++ Octets.ofNat line
            ++ (if style.chars then " is ".toList ++ twoBytes style c d else []) ++ ['\n'])
          Work.giveUp 1
    if r.first.isEmpty != r.second.isEmpty && (style.all || r.differing.isEmpty) then
      Work.setStatus 1
      if !style.silent then
        let shorter := if r.first.isEmpty then p else q
        let place : Octets :=
          if r.count = 0 then " which is empty".toList
          else
            " after byte ".toList ++ Octets.ofNat r.count
              ++ if style.all then []
                else if r.atStart then ", line ".toList ++ Octets.ofNat r.lines
                else ", in line ".toList ++ Octets.ofNat (r.lines + 1)
        Work.warn ("EOF on ".toList ++ shorter ++ place)

/-!
## Lines

The tool that shows in what lines files differ, and which files there are in one directory only.
-/

/-- How differences are shown. -/
inductive Form where
  | normal
  | unified (context : Nat)
  | context (context : Nat)
  | editing
  | forward
  | counted
  | sides
  | brief
  deriving DecidableEq, Repr, Inhabited

/-- How files are compared and shown. -/
structure Style where
  form : Form
  measure : Measure
  look : Look
  sides : SideStyle
  labels : List Octets
  recursive : Bool
  newFiles : Bool
  newSecond : Bool
  tellsSame : Bool
  texts : Bool
  minimal : Bool
  horizon : Nat
  excluded : List Octets
  start : Option Octets
  command : Octets
  deriving Repr, Inhabited

/-- What one of two names stands for. -/
inductive Found where
  | absent
  | input (s : FileStatus)
  | entry (s : FileStatus)
  deriving Repr, Inhabited

def Found.status? : Found → Option FileStatus
  | .absent => none
  | .input s => some s
  | .entry s => some s

def Found.isDirectory (f : Found) : Bool :=
  f.status?.any fun s => decide (s.kind = .directory)

def kindName (s : FileStatus) : Octets :=
  match s.kind with
  | .directory => "directory".toList
  | .file => if s.size = 0 then "regular empty file".toList else "regular file".toList
  | .link => "symbolic link".toList
  | .device => "character special file".toList
  | .pipe => "fifo".toList

def complainAt
    (path : Octets)
    (e : FileFault) :
    Work Unit :=
  Work.warn (path ++ ": ".toList ++ e.reason.toList)

/-- What a file holds, in lines. -/
def Side.of
    (measure : Measure)
    (name : Octets)
    (label : Option Octets)
    (time : Nat)
    (data : Octets) :
    Side :=
  let strip (s : Octets) : Octets :=
    if measure.stripReturns && s.getLast? = some '\r' then s.dropLast else s
  ⟨name, label, time, ((Octets.lines data).map strip).toArray, Octets.isWhole data⟩

/-- The heading of a file above hunks. -/
def fileHeading
    (mark : Octets)
    (isUnified : Bool)
    (s : Side) :
    Octets :=
  match s.label with
  | some label => mark ++ ' ' :: label ++ ['\n']
  | none =>
      let moment := Moment.ofSeconds (s.time / 1000000)
      let pattern := if isUnified then "%Y-%m-%d %H:%M:%S.%N %z" else "%a %b %e %T %Y"
      mark ++ ' ' :: s.name ++ '\t'
        :: Calendar.format moment (s.time % 1000000 * 1000) pattern.toList ++ ['\n']

/-- The headings above hunks. -/
def headings
    (form : Form)
    (a b : Side) :
    Octets :=
  match form with
  | .unified _ => fileHeading "---".toList true a ++ fileHeading "+++".toList true b
  | .context _ => fileHeading "***".toList false a ++ fileHeading "---".toList false b
  | _ => []

/-- How many lines around changes are shown. -/
def Form.around : Form → Nat
  | .unified n => n
  | .context n => n
  | _ => 0

/-- Whether a last line counts as ended though it is not. -/
def Form.completes : Form → Bool
  | .editing => true
  | .forward => true
  | _ => false

/-- All differences between two files. -/
def shown
    (style : Style)
    (a b : Side)
    (all : List Change) :
    Octets :=
  let counts := style.measure.counts a b
  let inHunks (n : Nat) (show_ : List Change → Octets) : Octets :=
    ((hunksFrom n counts all []).filter fun hunk => hunk.any counts).flatMap show_
  match style.form with
  | .normal => (all.filter counts).flatMap (normal style.look a b)
  | .unified n => inHunks n (unified style.look n a b)
  | .context n => inHunks n (context_ style.look n a b)
  | .editing => (all.filter counts).reverse.flatMap (editing b)
  | .forward => (all.filter counts).flatMap (forward b)
  | .counted => (all.filter counts).flatMap (counted b)
  | .sides => sideBySide style.look style.sides a b 0 0 (all.filter counts)
  | .brief => []

/-- Complains about a last line without its end where that cannot be shown. -/
def complainOfEnds
    (style : Style)
    (sides : List Side) :
    Work Bool := do
  let open_ := if style.form.completes then sides.filter fun s => !s.ended else []
  Work.forAll (fun s => Work.warn (s.name ++ ": No newline at end of file\n".toList)) open_
  return !open_.isEmpty

/-- Compares what two files hold. The result is the exit status. -/
def compareData
    (style : Style)
    (inside : Bool)
    (a b : Octets × Octets) :
    Work Nat := do
  let clock : Nat ← Work.ask .clock
  let isBinary := !style.texts && (a.2.contains '\x00' || b.2.contains '\x00')
  let side (index : Nat) (file : Octets × Octets) : Side :=
    Side.of style.measure file.1 style.labels[index]? clock file.2
  let x := side 0 a
  let y := side 1 b
  let names : Octets := x.label.getD a.1 ++ " and ".toList ++ y.label.getD b.1
  let differ (kind : String) : Work Nat := do
    Work.say (kind.toList ++ " ".toList ++ names ++ " differ\n".toList)
    return 1
  if isBinary then
    if a.2 = b.2 then return 0
    else if style.form = .brief then differ "Files" else differ "Binary files"
  else
    let all :=
      changesOf style.measure style.form.completes style.minimal (max style.horizon style.form.around)
        x y
    let differs := all.any (style.measure.counts x y)
    if style.form = .brief then
      if differs then differ "Files" else return 0
    else
      if differs || style.form = .sides then
        let lead : Octets := if inside then style.command ++ ' ' :: Quoting.shell a.1 ++ ' '
          :: Quoting.shell b.1 ++ ['\n'] else []
        Work.say (lead ++ headings style.form x y ++ shown style x y all)
      let open_ ← if a.2 = b.2 then pure false else complainOfEnds style [x, y]
      return if open_ then 2 else if differs then 1 else 0

/-- Whether files that are one and the same need not be read. -/
def Style.skipsSame (style : Style) : Bool :=
  style.form ≠ .sides

/-- What a name stands for. -/
def find
    (path : Octets) :
    Work (Except FileFault Found) := do
  if path = Work.dash then
    match ← Work.ask (.statusOf 0) with
    | .ok s => return .ok (.input s)
    | .error e => return .error e
  else
    match ← Work.ask (.status path true) with
    | .ok s => return .ok (.entry s)
    | .error e => return .error e

def holds
    (path : Octets) :
    Found → Work (Except FileFault Octets)
  | .absent => return .ok []
  | .input _ => Work.act (Act.readAll 0)
  | .entry _ => Work.act (Act.readFile path)

/-- The names in two lists in their order, each with whether it is in the first and in the second one. -/
def mergeNames : Nat → List Octets → List Octets → List (Octets × Bool × Bool)
  | 0, _, _ => []
  | _, [], b => b.map fun n => (n, false, true)
  | _, a, [] => a.map fun n => (n, true, false)
  | fuel + 1, x :: a, y :: b =>
      match Octets.compare x y with
      | .lt => (x, true, false) :: mergeNames fuel a (y :: b)
      | .gt => (y, false, true) :: mergeNames fuel (x :: a) b
      | .eq => (x, true, true) :: mergeNames fuel a b

/-- The names in a directory that take part. -/
def namesIn
    (style : Style)
    (inside : Bool)
    (path : Octets)
    (f : Found) :
    Work (Option (List Octets)) := do
  if !f.isDirectory then return some []
  else
    match ← Work.ask (.list path) with
    | .error e => do
        complainAt path e
        return none
    | .ok names =>
        let taken := names.filter fun n =>
          !(style.excluded.any fun p => Glob.isMatch false p n)
            && (inside || style.start.all fun s => Octets.le s n)
        return some (taken.mergeSort Octets.le)

/-- Shows that something is in one directory only. -/
def sayOnly
    (directory name : Octets) :
    Work Nat := do
  Work.say ("Only in ".toList ++ directory ++ ": ".toList ++ name ++ ['\n'])
  return 1

/-- Compares two files or directories that were found. -/
def compareFound
    (style : Style) :
    Nat → Bool → Octets × Found → Octets × Found → Work Nat
  | 0, _, _, _ => return 2
  | depth + 1, inside, (p, f), (q, g) => do
      let isTree := f.isDirectory || g.isDirectory
      let oneAbsent := f.status?.isNone || g.status?.isNone
      if isTree && (oneAbsent || (f.isDirectory && g.isDirectory)) then
        if inside && !style.recursive then
          if oneAbsent then
            let path := if f.status?.isSome then p else q
            sayOnly (PathText.parent path) (PathText.last path)
          else do
            Work.say ("Common subdirectories: ".toList ++ p ++ " and ".toList ++ q ++ ['\n'])
            return 0
        else
          match ← namesIn style inside p f, ← namesIn style inside q g with
          | some a, some b =>
              Work.foldAll
                (fun (worst : Nat) (e : Octets × Bool × Bool) => do
                  let (name, inFirst, inSecond) := e
                  let status ← do
                    if !((inFirst && inSecond) || style.newFiles || (style.newSecond && inSecond)) then
                      sayOnly (if inFirst then p else q) name
                    else
                      let x := PathText.join p name
                      let y := PathText.join q name
                      let first ← if inFirst then find x else pure (.ok .absent)
                      let second ← if inSecond then find y else pure (.ok .absent)
                      match first, second with
                      | .ok h, .ok k => compareFound style depth true (x, h) (y, k)
                      | h, k => do
                          complainBoth x y h k
                          return 2
                  return max worst status)
                0 (mergeNames (a.length + b.length + 1) a b)
          | _, _ => return 2
      else
        match f.status?, g.status? with
        | some s, some t =>
            let isFile (u : FileStatus) : Bool := u.kind ≠ .directory
            if s.kind ≠ t.kind && (inside || isTree) && (!isFile s || !isFile t || inside) then
              Work.say ("File ".toList ++ p ++ " is a ".toList ++ kindName s ++ " while file ".toList
                ++ q ++ " is a ".toList ++ kindName t ++ ['\n'])
              return 1
            else if s.identity = t.identity && s.kind = .file && style.skipsSame then tellSame p q
            else contents inside p q f g
        | _, _ => contents inside p q f g
where
  /-- Complains about files that were not found. -/
  complainBoth (x y : Octets) (h k : Except FileFault Found) : Work Unit := do
    match h with
    | .error e => complainAt x e
    | .ok _ => pure ()
    match k with
    | .error e => complainAt y e
    | .ok _ => pure ()
  /-- Shows that two files are the same, if that is asked for. -/
  tellSame (p q : Octets) : Work Nat := do
    if style.tellsSame then
      Work.say ("Files ".toList ++ p ++ " and ".toList ++ q ++ " are identical\n".toList)
    return 0
  /-- Compares what two files hold. -/
  contents (inside : Bool) (p q : Octets) (f g : Found) : Work Nat := do
    let a ← holds p f
    let b ← match f, g, a with
      | .input _, .input _, .ok data => pure (.ok data)
      | _, _, _ => holds q g
    match a, b with
    | .ok x, .ok y => do
        let status ← compareData style inside (p, x) (q, y)
        if status = 0 then tellSame p q else return status
    | x, y => do
        match x with
        | .error e => complainAt p e
        | .ok _ => pure ()
        match y with
        | .error e => complainAt q e
        | .ok _ => pure ()
        return 2

/-- How deep directories are gone through. -/
def depth : Nat := 1000

def compareNames
    (style : Style)
    (p q : Octets) :
    Work Nat := do
  let first ← find p
  let second ← find q
  let missing (r : Except FileFault Found) : Bool := match r with
    | .error .noEntry => true
    | _ => false
  let one : Except FileFault Found := match first with
    | .error .noEntry => if (style.newFiles || style.newSecond) && !missing second then .ok .absent else first
    | _ => first
  let other : Except FileFault Found := match second with
    | .error .noEntry => if style.newFiles && !missing first then .ok .absent else second
    | _ => second
  match one, other with
  | .ok f, .ok g =>
      if f.isDirectory && !g.isDirectory && g.status?.isSome then
        if q = Work.dash then notWithDirectory
        else inside (PathText.join p (PathText.last q), none) (q, some g)
      else if g.isDirectory && !f.isDirectory && f.status?.isSome then
        if p = Work.dash then notWithDirectory
        else inside (p, some f) (PathText.join q (PathText.last p), none)
      else compareFound style depth false (p, f) (q, g)
  | x, y => do
      compareFound.complainBoth p q x y
      return 2
where
  /-- Complains about a directory and the standard input. -/
  notWithDirectory : Work Nat := do
    Work.warn "cannot compare '-' to a directory".toList
    return 2
  /-- Compares a file with the one of its name in a directory. -/
  inside (a b : Octets × Option Found) : Work Nat := do
    let look (e : Octets × Option Found) : Work (Except FileFault Found) :=
      match e.2 with
      | some f => return .ok f
      | none => find e.1
    match ← look a, ← look b with
    | .ok f, .ok g => compareFound style depth false (a.1, f) (b.1, g)
    | x, y => do
        compareFound.complainBoth a.1 b.1 x y
        return 2

/-! ### Options -/

def forms : List OptionForm :=
  flags "0123456789"
    ++ [ flag "a" ["text"], flag "b" ["ignore-space-change"], flag "B" ["ignore-blank-lines"],
      flag "c" [], ⟨"context", ["context"], .maybe⟩, valued "C" [], flag "d" ["minimal"],
      flag "e" ["ed"], flag "E" ["ignore-tab-expansion"], flag "f" ["forward-ed"],
      valued "F" ["show-function-line"], flag "h" [], flag "H" ["speed-large-files"],
      flag "i" ["ignore-case"], valued "I" ["ignore-matching-lines"], flag "l" ["paginate"],
      valued "L" ["label"], flag "n" ["rcs"], flag "N" ["new-file"], flag "p" ["show-c-function"],
      flag "P" ["unidirectional-new-file"], flag "q" ["brief"], flag "r" ["recursive"],
      flag "s" ["report-identical-files"], valued "S" ["starting-file"], flag "t" ["expand-tabs"],
      flag "T" ["initial-tab"], flag "u" [], ⟨"unified", ["unified"], .maybe⟩, valued "U" [],
      flag "w" ["ignore-all-space"], valued "W" ["width"], valued "x" ["exclude"],
      valued "X" ["exclude-from"], flag "y" ["side-by-side"], flag "Z" ["ignore-trailing-space"],
      flag "normal" ["normal"], flag "left" ["left-column"],
      flag "suppress" ["suppress-common-lines"], flag "strip" ["strip-trailing-cr"],
      valued "tabsize" ["tabsize"], flag "blankEmpty" ["suppress-blank-empty"],
      valued "horizon" ["horizon-lines"], valued "from" ["from-file"], valued "to" ["to-file"],
      ⟨"color", ["color"], .maybe⟩, flag "noLinks" ["no-dereference"],
      flag "foldNames" ["ignore-file-name-case"] ]

/-- The words of a command line that are options. -/
def optionWords : Nat → List Octets → List Octets
  | 0, _ => []
  | _, [] => []
  | fuel + 1, word :: rest =>
      let consumed (r : Except OptionFault (List Given × List Octets)) : List Octets :=
        match r with
        | .ok (_, more) => word :: rest.take (rest.length - more.length) ++ optionWords fuel more
        | .error _ => []
      match word with
      | ['-', '-'] => [word]
      | '-' :: '-' :: body => consumed (Options.readName forms body rest)
      | '-' :: c :: s => consumed (Options.readLetters forms (c :: s) rest)
      | _ => optionWords fuel rest

/-- A number of lines that an option gives. -/
def lineCount
    (what : String)
    (word : Octets) :
    Work Nat := do
  match (if word.isEmpty || !(word.all Char.isDigit) then none else (String.ofList word).toNat?) with
  | some n => return n
  | none =>
      Work.refuse 2 ("invalid ".toList ++ what.toList ++ " '".toList ++ word ++ ['\''])

/-- The way to show differences that an option asks for. -/
def formOf? (g : Given) : Work (Option Form) := do
  match g.key with
  | "normal" => return some .normal
  | "u" => return some (.unified 3)
  | "U" => return some (.unified (← lineCount "context length" g.value))
  | "unified" =>
      return some (.unified (← if g.value.isEmpty then pure 3 else lineCount "context length" g.value))
  | "c" => return some (.context 3)
  | "C" => return some (.context (← lineCount "context length" g.value))
  | "context" =>
      return some (.context (← if g.value.isEmpty then pure 3 else lineCount "context length" g.value))
  | "e" => return some .editing
  | "f" => return some .forward
  | "n" => return some .counted
  | "y" => return some .sides
  | _ => return none

/-- Whether two ways to show differences go together. -/
def Form.agrees : Form → Form → Bool
  | .unified _, .unified _ => true
  | .context _, .context _ => true
  | a, b => a = b

/-- Two ways to show differences as one. -/
def Form.joined : Form → Form → Form
  | .unified a, .unified b => .unified (max a b)
  | .context a, .context b => .context (max a b)
  | _, b => b

/-- The way to show differences that options ask for. -/
def formOf (a : Arguments) : Work Form := do
  let chosen ← Work.foldAll
    (fun (so_far : Option Form) g => do
      match so_far, ← formOf? g with
      | f, none => return f
      | none, some f => return some f
      | some e, some f =>
          if e.agrees f then return some (e.joined f)
          else Work.refuse 2 "conflicting output style options".toList)
    none a.options
  let digits := (a.options.map Given.key).filter fun k => k.length = 1 && k.all Char.isDigit
  let number := (String.join digits).toNat?
  let withNumber : Form → Form
    | .unified n => .unified (number.getD n)
    | .context n => .context (number.getD n)
    | f => f
  let usual : Form := if a.has "p" || a.has "F" then .context 3 else .normal
  let form := withNumber (chosen.getD usual)
  return if a.has "q" then .brief else form

def patternOf (word : Octets) : Work Regex := do
  match Regex.parse .searchBasic word with
  | .ok (r, _) => return r
  | .error e => Work.fail 2 (word ++ ": ".toList ++ e.message.toList)

/-- The lines that start a function in the usual notation of programs. -/
def functionStart : Regex :=
  .seq (.edge .lineStart) (.set ⟨false, [('A', 'Z'), ('a', 'z'), ('$', '$'), ('_', '_')]⟩)

/-- The name patterns of options and of files. -/
def excludedOf (a : Arguments) : Work (List Octets) := do
  let fromFiles ← Work.foldAll
    (fun (done : List Octets) path => do
      match ← Work.readWhole path with
      | .ok data => return done ++ Octets.lines data
      | .error e => Work.fail 2 (path ++ ": ".toList ++ e.reason.toList))
    [] (a.values "X")
  return a.values "x" ++ fromFiles

/-- The way to compare and to show that options ask for. -/
def styleOf
    (a : Arguments)
    (words : List Octets) :
    Work Style := do
  let form ← formOf a
  let width ← match a.value? "W" with
    | some w => do
        let n ← lineCount "width" w
        if n = 0 then Work.refuse 2 ("invalid width '".toList ++ w ++ ['\'']) else pure n
    | none => pure 130
  let tabSize ← match a.value? "tabsize" with
    | some w => lineCount "tabsize" w
    | none => pure 8
  let horizon ← match a.value? "horizon" with
    | some w => lineCount "horizon length" w
    | none => pure 0
  let matching ← Work.foldAll (fun done w => do return done ++ [← patternOf w]) [] (a.values "I")
  let function ← match a.value? "F" with
    | some w => pure (some (← patternOf w))
    | none => pure (if a.has "p" then some functionStart else none)
  if 2 < (a.values "L").length then Work.failText 2 "too many file label options"
  let look : Look :=
    { tab := a.has "T"
      expand := a.has "t"
      tabSize := max 1 tabSize
      function := function
      suppressBlank := a.has "blankEmpty" }
  let spaces : Spaces :=
    if a.has "w" then .nothing
    else if a.has "b" then .asOne
    else if a.has "Z" then .notAtEnd
    else if a.has "E" then .tabsAsBlanks
    else .all
  return {
    form := form
    measure :=
      { foldCase := a.has "i"
        tabsAsBlanks := a.has "E"
        spaces := spaces
        skipBlank := a.has "B"
        skipMatching := matching
        stripReturns := a.has "strip" }
    look := look
    sides := ⟨Halves.of look width, a.has "left", a.has "suppress"⟩
    labels := a.values "L"
    recursive := a.has "r"
    newFiles := a.has "N"
    newSecond := a.has "P"
    tellsSame := a.has "s"
    texts := a.has "a"
    minimal := a.has "d"
    horizon := horizon
    excluded := ← excludedOf a
    start := a.value? "S"
    command := Octets.intercalate [' ']
      ("diff".toList :: (optionWords (words.length + 1) words).map Quoting.shell) }

/-- Compares files. -/
def tool : Tool :=
  fun _ start => Work.perform "diff".toList 2 do
    let a ← arguments forms start.arguments
    let style ← styleOf a start.arguments
    let pairs : List (Octets × Octets) ←
      match a.value? "from", a.value? "to" with
      | some _, some _ => Work.failText 2 "--from-file and --to-file both specified"
      | some p, none => pure (a.operands.map fun q => (p, q))
      | none, some q => pure (a.operands.map fun p => (p, q))
      | none, none =>
          match a.operands with
          | [p, q] => pure [(p, q)]
          | [] => missing ((start.arguments.getLast?).getD "diff".toList)
          | [p] => missing p
          | _ :: _ :: extra :: _ => tooMany extra
    let status ← Work.foldAll
      (fun (worst : Nat) (e : Octets × Octets) => do return max worst (← compareNames style e.1 e.2))
      0 pairs
    Work.setStatus status

end Differing
end Tool
end Runbook
