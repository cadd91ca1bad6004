import Runbook.Tool.Options
import Runbook.Tool.Digest
import Runbook.Tool.Input

/-!
# Parts of files

The tools that write one part of a file, or all parts to files of their own.
-/

namespace Runbook
namespace Tool

/-!
## The first and the last part of files

Parts are counted in lines or in bytes, from the start of a file or from its end.
-/

namespace Ends

/-- What is counted. -/
inductive Measure where
  | lines
  | bytes
  deriving DecidableEq, Repr, Inhabited

/-- A part of a file: so many lines or bytes, counted from the end that is not the usual one if
`other` is set. -/
structure Portion where
  unit : Measure
  count : Nat
  other : Bool
  deriving DecidableEq, Repr, Inhabited

/-- When the name of a file is written above it. -/
inductive Headers where
  | several
  | always
  | never
  deriving DecidableEq, Repr, Inhabited

/-- The name of a file in headers and messages. -/
def shownName (path : Octets) : Octets :=
  if path = Work.dash then "standard input".toList else path

/-- Reads the number of lines or bytes that an option gives. -/
def readCount
    (unit : Measure)
    (word : Octets) :
    Work Nat :=
  Work.amount
    (match unit with
      | .lines => "invalid number of lines"
      | .bytes => "invalid number of bytes")
    word

/-- Reads a portion behind a sign that tells from which end it is counted. -/
def readPortion
    (sign : Char)
    (unit : Measure)
    (word : Octets) :
    Work Portion := do
  match word with
  | c :: rest =>
      if c = sign then return ⟨unit, ← readCount unit rest, true⟩
      else if c = '-' && sign = '+' then return ⟨unit, ← readCount unit rest, false⟩
      else return ⟨unit, ← readCount unit word, false⟩
  | [] => return ⟨unit, ← readCount unit word, false⟩

/-- A file of which nothing was written yet has its name above it. -/
def sayHeader
    (shows isFirst : Bool)
    (path : Octets) :
    Work Unit := do
  if shows then
    if !isFirst then Work.say ['\n']
    Work.say ("==> ".toList ++ shownName path ++ " <==\n".toList)

/-- Opens files one after the other and lets each be shown under its header. -/
def showFiles
    (headers : Headers)
    (operands : List Octets)
    (body : Octets → Nat → Work Unit) :
    Work Unit := do
  let files := Work.inputs operands
  let shows := match headers with
    | .always => true
    | .never => false
    | .several => decide (1 < files.length)
  let _ ← Work.foldAll
    (fun isFirst path => do
      match ← Work.openInput path with
      | .error e => do
          Work.complain ("cannot open ".toList ++ Quoting.shellAlways path
            ++ " for reading: ".toList ++ e.reason.toList)
          return isFirst
      | .ok d => do
          sayHeader shows isFirst path
          body path d
          Work.closeInput d
          return false)
    true files

def complainOfReading
    (path : Octets)
    (e : FileFault) :
    Work Unit :=
  Work.complain ("error reading ".toList ++ Quoting.shellAlways (shownName path)
    ++ ": ".toList ++ e.reason.toList)

/-- When headers are written, from the options. -/
def headersOf (a : Arguments) : Headers :=
  match a.last? ["q", "v"] with
  | some "q" => .never
  | some "v" => .always
  | _ => .several

/-! ### The first part -/

/-- Writes so many rows from the front of a file. -/
def sayRows
    (stop : Char)
    (count : Nat)
    (r : Reader) :
    Work (Except FileFault Reader) := do
  if count = 0 then return .ok r
  let step (left : Nat) (text : Octets) (ended : Bool) : Work (Nat × Bool) := do
    Work.say (if ended then text ++ [stop] else text)
    return (left - 1, 1 < left)
  return (← Work.foldRows stop step count r).map Prod.snd

/-- Writes so many bytes from the front of a file. -/
def sayBytes : Nat → Nat → Reader → Work (Except FileFault Reader)
  | 0, _, r => return .ok r
  | _, 0, r => return .ok r
  | fuel + 1, count, r => do
      match ← r.next with
      | .error e => return .error e
      | .ok (data, after) =>
          if data.isEmpty then return .ok after
          else if count < data.length then do
            Work.say (data.take count)
            return .ok { after with ahead := data.drop count }
          else do
            Work.say data
            sayBytes fuel (count - data.length) after

/-- Writes the rows of a file but for so many at its end. -/
def sayAllButRows
    (stop : Char)
    (count : Nat)
    (r : Reader) :
    Work (Except FileFault Unit) := do
  let step (held : List Octets) (text : Octets) (ended : Bool) : Work (List Octets × Bool) := do
    let row := if ended then text ++ [stop] else text
    if held.length < count then return (held ++ [row], true)
    else
      match held with
      | [] => do
          Work.say row
          return ([], true)
      | oldest :: rest => do
          Work.say oldest
          return (rest ++ [row], true)
  return (← Work.foldRows stop step [] r).map fun _ => ()

/-- Writes the bytes of a file but for so many at its end. -/
def sayAllButBytes
    (count : Nat)
    (d : Nat) :
    Work (Except FileFault Unit) := do
  match ← Work.act (Act.readAll d) with
  | .error e => return .error e
  | .ok data => do
      Work.say (data.take (data.length - count))
      return .ok ()

/-- Writes the first part of a file. -/
def sayFirst
    (stop : Char)
    (p : Portion)
    (d : Nat) :
    Work (Except FileFault Unit) := do
  match p.unit, p.other with
  | .lines, true => sayAllButRows stop p.count (Reader.of d)
  | .bytes, true => sayAllButBytes p.count d
  | .lines, false =>
      match ← sayRows stop p.count (Reader.of d) with
      | .error e => return .error e
      | .ok r => do
          r.giveBack
          return .ok ()
  | .bytes, false =>
      match ← sayBytes Act.rounds p.count (Reader.of d) with
      | .error e => return .error e
      | .ok r => do
          r.giveBack
          return .ok ()

/-- The options of both tools. -/
def forms : List OptionForm :=
  [ valued "n" ["lines"], valued "c" ["bytes"], flag "q" ["quiet", "silent"],
    flag "v" ["verbose"], flag "z" ["zero-terminated"] ]

/-- What the first word stands for if it is a dash with a number. -/
def oldStyle : List Octets → List Octets
  | ('-' :: c :: s) :: rest =>
      if !c.isDigit then ('-' :: c :: s) :: rest
      else
        let digits := (c :: s).takeWhile Char.isDigit
        let letters := (c :: s).drop digits.length
        let unit := letters.foldl
          (fun (u : Octets) l => match l with
            | 'c' => "-c".toList
            | 'b' => "-c".toList
            | 'l' => "-n".toList
            | _ => u)
          "-n".toList
        let factor := letters.filter fun l => "bkm".toList.contains l
        let more := (letters.filter fun l => "qvz".toList.contains l).map fun l => ['-', l]
        if letters.all fun l => "cblkmqvz".toList.contains l then
          unit :: (digits ++ factor) :: more ++ rest
        else ('-' :: c :: s) :: rest
  | words => words

/-- The portion that the options ask for. -/
def portionOf
    (sign : Char)
    (a : Arguments) :
    Work Portion := do
  let given := a.options.filter fun g => g.key = "n" || g.key = "c"
  Work.foldAll
    (fun _ g => readPortion sign (if g.key = "n" then .lines else .bytes) g.value)
    ⟨.lines, 10, false⟩ given

/-- Complains about a first word with a letter that no number may have behind it. -/
def checkOldStyle : List Octets → Work Unit
  | ('-' :: c :: s) :: _ =>
      if c.isDigit then
        match (s.dropWhile Char.isDigit).find? fun l => !"cblkmqvz".toList.contains l with
        | some l => Work.misuse 1 ("invalid trailing option -- ".toList ++ [l])
        | none => pure ()
      else pure ()
  | _ => pure ()

/-- Writes the first part of files. -/
def head : Tool :=
  simple 1 fun words => do
    checkOldStyle words
    let a ← Work.arguments forms 1 (oldStyle words)
    let p ← portionOf '-' a
    let stop : Char := if a.has "z" then '\x00' else '\n'
    showFiles (headersOf a) a.operands fun path d => do
      match ← sayFirst stop p d with
      | .ok () => pure ()
      | .error e => complainOfReading path e

/-! ### The last part -/

def rowsOf
    (stop : Char)
    (data : Octets) :
    List Octets :=
  let parts := Octets.splitOn stop data
  let whole := parts.dropLast.map (· ++ [stop])
  match parts.getLast? with
  | some [] => whole
  | some rest => whole ++ [rest]
  | none => whole

def lastPart
    (stop : Char)
    (p : Portion)
    (data : Octets) :
    Octets :=
  match p.unit, p.other with
  | .lines, false =>
      let rows := rowsOf stop data
      (rows.drop (rows.length - p.count)).flatten
  | .lines, true => ((rowsOf stop data).drop (p.count - 1)).flatten
  | .bytes, false => data.drop (data.length - p.count)
  | .bytes, true => data.drop (p.count - 1)

/-- What the first word stands for if it is a sign with a number. -/
def oldTailStyle : List Octets → List Octets
  | (c :: s) :: rest =>
      let digits := s.takeWhile Char.isDigit
      let letters := s.drop digits.length
      let isOld := (c = '+' || (c = '-' && !digits.isEmpty)) && rest.length ≤ 1 &&
        (letters = [] || letters = ['l'] || letters = ['c'] || letters = ['b'] ||
          letters = ['f'] || letters = ['l', 'f'] || letters = ['c', 'f']) &&
        !(c = '+' && digits.isEmpty && letters.isEmpty)
      if !isOld then (c :: s) :: rest
      else
        let unit : Octets := if letters.contains 'c' || letters.contains 'b' then "-c".toList
          else "-n".toList
        let number := (if digits.isEmpty then "10".toList else digits)
          ++ (if letters.contains 'b' then ['b'] else [])
        let signed := if c = '+' then '+' :: number else number
        unit :: signed :: (if letters.contains 'f' then [['-', 'f']] else []) ++ rest
  | words => words

/-- Waits for what is written to a file later on. -/
def follow (d : Nat) : Work Unit :=
  Work.repeat_ ()
    (fun _ => do
      match ← Work.ask (.read d Reader.piece) with
      | .ok data => do
          Work.say data
          Work.flush
          if data.isEmpty then Work.ask (.sleep 100000)
          return .inl ()
      | .error _ => return .inr ())
    Act.rounds ()

/-- Writes the last part of files. -/
def tail : Tool :=
  simple 1 fun words => do
    let given := oldTailStyle words
    match given.find? fun w => w.head? = some '-' && ((w.drop 1).head?.any Char.isDigit) with
    | some w =>
        if !(given.takeWhile (· ≠ w)).contains "--".toList &&
            !(["-n".toList, "-c".toList].contains
              (((given.takeWhile (· ≠ w)).getLast?).getD [])) then
          Work.fail 1 ("option used in invalid context -- ".toList ++ (w.drop 1).take 1)
    | none => pure ()
    let a ← Work.arguments
      (forms ++ [flag "f" ["follow"], flag "F" [], valued "s" ["sleep-interval"],
        valued "pid" ["pid"], flag "retry" ["retry"]])
      1 given
    let p ← portionOf '+' a
    let stop : Char := if a.has "z" then '\x00' else '\n'
    let follows := a.has "f" || a.has "F"
    showFiles (headersOf a) a.operands fun path d => do
      match ← Work.act (Act.readAll d) with
      | .error e => complainOfReading path e
      | .ok data => do
          Work.say (lastPart stop p data)
          if follows then
            match ← Work.ask (.statusOf d) with
            | .ok s =>
                if s.kind = .file then
                  Work.flush
                  follow d
            | .error _ => pure ()

end Ends

/-!
## Splitting files

The tool that writes the parts of a file to files of their own, whose names end in letters or digits
that count up.
-/

namespace Splitting

/-- The ending of a number, of so many letters of an alphabet; none if it has no room. -/
def ending?
    (alphabet : Octets)
    (length n : Nat) :
    Option Octets :=
  let base := alphabet.length
  if Nat.pow base length ≤ n then none
  else
    some ((List.range length).map fun i =>
      (alphabet[n / Nat.pow base (length - 1 - i) % base]?).getD 'a')

/-- The ending of a number where endings become longer when they have no room: the last letter of the
alphabet at the front leads to longer ones. -/
def growing
    (alphabet : Octets) :
    Nat → Nat → Nat → Octets → Octets
  | 0, _, _, lead => lead
  | fuel + 1, length, n, lead =>
      let base := alphabet.length
      let room := (base - 1) * Nat.pow base (length - 1)
      if n < room then lead ++ (ending? alphabet length n).getD []
      else growing alphabet fuel (length + 1) (n - room) (lead ++ alphabet.getLast?.toList)

def letters : Octets :=
  "abcdefghijklmnopqrstuvwxyz".toList

/-- Parts of so many lines. -/
def linesOf
    (count : Nat)
    (data : Octets) :
    List Octets :=
  let rows := Ends.rowsOf '\n' data
  (Digest.chunks count (rows.length + 1) rows).map List.flatten

/-- Parts of nearly the same size. -/
def shares
    (count : Nat)
    (data : Octets) :
    List Octets :=
  let size := data.length / count
  let extra := data.length % count
  (List.range count).map fun i =>
    let start := i * size + min i extra
    (data.drop start).take (size + if i < extra then 1 else 0)

def forms : List OptionForm :=
  [ valued "a" ["suffix-length"], valued "b" ["bytes"], flag "d" [], flag "x" [],
    valued "l" ["lines"], valued "n" ["number"], valued "extra" ["additional-suffix"],
    ⟨"numeric", ["numeric-suffixes"], .maybe⟩, flag "verbose" ["verbose"],
    flag "e" ["elide-empty-files"] ]

/-- Splits a file. -/
def tool : Tool :=
  simple 1 fun words => do
    let words := match words with
      | ('-' :: c :: s) :: rest =>
          if (c :: s).all Char.isDigit then "-l".toList :: (c :: s) :: rest else words
      | _ => words
    let a ← Work.arguments forms 1 words
    match a.operands.drop 2 with
    | extra :: _ => Work.extraOperand 1 extra
    | [] => pure ()
    let source := a.operands.headD Work.dash
    let lead := ((a.operands.drop 1).head?).getD ['x']
    let data ← match ← Work.readWhole source with
      | .ok data => pure data
      | .error e =>
          Work.fail 1 ("cannot open ".toList ++ Quoting.shellAlways source
            ++ " for reading: ".toList ++ e.reason.toList)
    let positive (what : String) (word : Octets) : Work Nat := do
      let n ← Work.amount s!"invalid number of {what}" word
      if n = 0 then
        Work.fail 1 ((s!"invalid number of {what}: ").toList ++ Quoting.plain word)
      else return n
    let parts ← match a.value? "b", a.value? "l", a.value? "n" with
      | some word, _, _ => do
          let size ← positive "bytes" word
          pure (Digest.chunks size (data.length + 1) data)
      | none, some word, _ => do pure (linesOf (← positive "lines" word) data)
      | none, none, some word => do pure (shares (← positive "chunks" word) data)
      | none, none, none => pure (linesOf 1000 data)
    let alphabet : Octets :=
      if a.has "x" then "0123456789abcdef".toList
      else if a.has "d" || a.has "numeric" then "0123456789".toList
      else letters
    let first := ((a.value? "numeric").bind (digitsIn? 10)).getD 0
    let more := (a.value? "extra").getD []
    Work.forAll
      (fun (e : Octets × Nat) => do
        let ending ← match a.value? "a" with
          | none => pure (growing alphabet 20 2 (e.2 + first) [])
          | some word => do
              match ending? alphabet (← Work.amount "invalid suffix length" word) (e.2 + first) with
              | some s => pure s
              | none => Work.failText 1 "output file suffixes exhausted"
        let path := lead ++ ending ++ more
        if a.has "verbose" then
          Work.say ("creating file ".toList ++ Quoting.shellAlways path ++ ['\n'])
        match ← Work.act (Act.writeFile path e.1) with
        | .ok () => pure ()
        | .error fault => Work.fail 1 (Quoting.shellBeforeColon path ++ ": ".toList
            ++ fault.reason.toList))
      parts.zipIdx

end Splitting
end Tool
end Runbook
