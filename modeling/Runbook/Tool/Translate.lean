import Runbook.Format.Field
import Runbook.Number.Reading
import Runbook.Regex.Basic
import Runbook.Tool.Input
import Runbook.Tool.Options
import Runbook.Tool.Work

/-!
# Parts of lines and changed characters

The tools that keep parts of lines, and that replace or leave out characters.
-/

namespace Runbook
namespace Tool

/-!
## Lists of ranges

Lists that choose fields or characters by their numbers: single numbers, and ranges that may be open
on one side, with commas or blanks between them.
-/

/-- Numbers from a first one to a last one, or all from the first one on. -/
structure Range where
  first : Nat
  last : Option Nat
  deriving DecidableEq, Repr, Inhabited

/-- Whether a number lies in a range. -/
def Range.has
    (r : Range)
    (n : Nat) :
    Bool :=
  r.first ≤ n && r.last.all fun last => decide (n ≤ last)

namespace Ranges

/-- What the numbers of a list count. -/
inductive Counted where
  | fields
  | places
  deriving DecidableEq, Repr, Inhabited

/-- The complaint that a number is zero. -/
def Counted.fromOne : Counted → String
  | .fields => "fields are numbered from 1"
  | .places => "byte/character positions are numbered from 1"

/-- The complaint that a word is no range. -/
def Counted.malformed
    (c : Counted)
    (word : Octets) :
    Octets :=
  match c with
  | .fields => "invalid field value ".toList ++ Quoting.plain word
  | .places => "invalid byte/character position ".toList ++ Quoting.plain word

/-- The complaint that a number is too large. -/
def Counted.tooLarge
    (c : Counted)
    (digits : Octets) :
    Octets :=
  (match c with
    | .fields => "field number ".toList
    | .places => "byte/character offset ".toList) ++ Quoting.plain digits ++ " is too large".toList

def readRange
    (c : Counted)
    (word rest : Octets) :
    Work Range := do
  let number (digits : Octets) : Work Nat := do
    let n := (digitsIn? 10 digits).getD 0
    if Nat.pow 2 64 - 1 ≤ n then Work.misuse 1 (c.tooLarge digits) else return n
  let first := word.takeWhile Char.isDigit
  match word.drop first.length with
  | [] => do
      if first.isEmpty then Work.misuse 1 (Counted.fromOne c).toList
      let n ← number first
      if n = 0 then Work.misuse 1 (Counted.fromOne c).toList
      return ⟨n, some n⟩
  | '-' :: s => do
      let last := s.takeWhile Char.isDigit
      match s.drop last.length with
      | [] => do
          let low ← if first.isEmpty then pure 1 else number first
          if low = 0 then Work.misuse 1 (Counted.fromOne c).toList
          if last.isEmpty then
            if first.isEmpty then Work.misuse 1 "invalid range with no endpoint: -".toList
            return ⟨low, none⟩
          else do
            let high ← number last
            if high < low then Work.misuse 1 "invalid decreasing range".toList
            return ⟨low, some high⟩
      | '-' :: _ =>
          Work.misuse 1 (match c with
            | .fields => "invalid field range".toList
            | .places => "invalid byte or character range".toList)
      | left => Work.misuse 1 (c.malformed (left ++ rest))
  | left => Work.misuse 1 (c.malformed (left ++ rest))

def readList
    (c : Counted) :
    Nat → Octets → Work (List Range)
  | 0, _ => return []
  | fuel + 1, s => do
      let isGap (d : Char) : Bool := d = ',' || d = ' ' || d = '\t'
      let word := s.takeWhile fun d => !isGap d
      let rest := s.drop word.length
      let r ← readRange c word rest
      match rest with
      | [] => return [r]
      | _ :: more => return r :: (← readList c fuel more)

end Ranges

/-!
## Parts of lines

The tool that keeps some bytes or some fields of each line.
-/

namespace Cut

/-- What is kept of a line, how its fields are separated, and what is written between them. -/
structure Choice where
  counted : Ranges.Counted
  ranges : List Range
  complement : Bool
  separator : Char
  between : Option Octets
  onlySeparated : Bool
  deriving Repr, Inhabited

/-- Whether the part of a number is kept. -/
def Choice.keeps
    (c : Choice)
    (n : Nat) :
    Bool :=
  (c.ranges.any fun r => r.has n) != c.complement

/-- Whether a range begins at a number, so that a separator stands before it. -/
def Choice.begins
    (c : Choice)
    (n : Nat) :
    Bool :=
  if c.complement then c.keeps n && !c.keeps (n - 1)
  else
    (c.ranges.any fun r => r.first = n) &&
      !(c.ranges.any fun r => r.first < n && r.has n)

/-- The kept bytes of a line from a number on. -/
def bytesFrom
    (c : Choice) :
    Nat → Bool → Octets → Octets
  | _, _, [] => []
  | n, any, b :: s =>
      if c.keeps n then
        let lead := match c.between with
          | some t => if any && c.begins n then t else []
          | none => []
        lead ++ b :: bytesFrom c (n + 1) true s
      else bytesFrom c (n + 1) any s

/-- What is written for a line; nothing at all for some lines without a separator. -/
def Choice.line?
    (c : Choice)
    (text : Octets) :
    Option Octets :=
  match c.counted with
  | .places => some (bytesFrom c 1 false text)
  | .fields =>
      if !text.contains c.separator then if c.onlySeparated then none else some text
      else
        let fields := Octets.splitOn c.separator text
        let kept := (fields.zipIdx 1).filter fun f => c.keeps f.2
        some (Octets.intercalate (c.between.getD [c.separator]) (kept.map Prod.fst))

def forms : List OptionForm :=
  [ valued "b" ["bytes"], valued "c" ["characters"], valued "f" ["fields"],
    valued "d" ["delimiter"], flag "n" [], flag "s" ["only-delimited"],
    valued "output-delimiter" ["output-delimiter"], flag "complement" ["complement"],
    flag "z" ["zero-terminated"] ]

/-- The choice that options ask for. -/
def choiceOf (a : Arguments) : Work Choice := do
  let lists := a.options.filter fun g => g.key = "b" || g.key = "c" || g.key = "f"
  let separator : Option Char ← match a.value? "d" with
    | none => pure none
    | some [] => pure (some '\x00')
    | some [c] => pure (some c)
    | some _ => Work.misuse 1 "the delimiter must be a single character".toList
  match lists with
  | [] => Work.misuse 1 "you must specify a list of bytes, characters, or fields".toList
  | _ :: _ :: _ => Work.misuse 1 "only one list may be specified".toList
  | [g] => do
      let counted : Ranges.Counted := if g.key = "f" then .fields else .places
      if counted = .places && separator.isSome then
        Work.misuse 1
          "an input delimiter may be specified only when operating on fields".toList
      if counted = .places && a.has "s" then
        Work.misuse 1
          "suppressing non-delimited lines makes sense\n\tonly when operating on fields".toList
      let ranges ← Ranges.readList counted (g.value.length + 1) g.value
      let between := (a.value? "output-delimiter").map fun t => if t.isEmpty then ['\x00'] else t
      return ⟨counted, ranges, a.has "complement", separator.getD '\t', between, a.has "s"⟩

/-- Keeps parts of lines. -/
def tool : Tool :=
  simple 1 fun words => do
    let a ← Work.arguments forms 1 words
    let c ← choiceOf a
    let stop : Char := if a.has "z" then '\x00' else '\n'
    let step (_ : Unit) (text : Octets) (_ : Bool) : Work (Unit × Bool) := do
      match c.line? text with
      | some kept => Work.say (kept ++ [stop])
      | none => pure ()
      return ((), true)
    Work.foldFiles stop step () (Work.inputs a.operands)

end Cut

/-!
## Changing characters

The tool that replaces characters by others, leaves some out, or writes rows of one character once
only. Characters are listed one by one, by ranges and by classes.
-/

namespace Translate

/-- A part of a list of characters. A character repeated zero times fills the list up. -/
inductive Part where
  | chars (cs : List Char)
  | class_ (name : String)
  | repeat_ (c : Char) (count : Nat)
  deriving DecidableEq, Repr, Inhabited

def allBytes : List Char :=
  (List.range 256).map Char.ofNat

/-- The characters of a class, in their order. -/
def classChars (name : String) : List Char :=
  match CharSet.named? name with
  | some ranges => allBytes.filter fun c => (⟨false, ranges⟩ : CharSet).has c
  | none => []

/-- The characters of a part, where repeated ones are filled up to a length. -/
def Part.members
    (fill : Nat) :
    Part → List Char
  | .chars cs => cs
  | .class_ name => classChars name
  | .repeat_ c count => List.replicate (if count = 0 then fill else count) c

/-- A character of a list, which may be escaped; `true` tells that it was. -/
structure Mark where
  char : Char
  escaped : Bool
  deriving DecidableEq, Repr, Inhabited

/-- The octal code at the front of a text that still fits a byte, and what follows it. -/
def octal (s : Octets) : Char × Octets :=
  let digits := (s.take 3).takeWhile fun c => '0' ≤ c && c ≤ '7'
  let value := (digitsIn? 8 digits).getD 0
  if value < 256 then (Char.ofNat value, s.drop digits.length)
  else (Char.ofNat ((digitsIn? 8 (digits.take 2)).getD 0), s.drop 2)

/-- Reads the escapes of a list. -/
def unescape : Nat → Octets → Work (List Mark)
  | 0, _ => return []
  | _, [] => return []
  | fuel + 1, '\\' :: s =>
      match s with
      | [] => do
          Work.warn "warning: an unescaped backslash at end of string is not portable".toList
          return [⟨'\\', false⟩]
      | c :: rest => do
          if '0' ≤ c && c ≤ '7' then
            let (d, after) := octal s
            return ⟨d, true⟩ :: (← unescape fuel after)
          else
            match if c = 'e' then none else Format.control? c with
            | some d => return ⟨d, true⟩ :: (← unescape fuel rest)
            | none => return ⟨c, true⟩ :: (← unescape fuel rest)
  | fuel + 1, c :: s => do return ⟨c, false⟩ :: (← unescape fuel s)

/-- Whether a mark is a character that was not escaped. -/
def isBare
    (c : Char)
    (m : Mark) :
    Bool :=
  m.char = c && !m.escaped

/-- The marks up to a mark and a closing bracket, and what follows them. -/
def upTo?
    (c : Char) :
    List Mark → List Mark → Option (List Mark × List Mark)
  | done, a :: b :: rest =>
      if isBare c a && isBare ']' b then some (done.reverse, rest) else upTo? c (a :: done) (b :: rest)
  | _, _ => none

/-- A character as complaints show it. -/
def shownChar (c : Char) : Octets :=
  if Quoting.isPrintable c then [c] else '\\' :: Quoting.octalCode c

/-- The number of repetitions behind a star, in base eight behind a zero. -/
def count? (digits : Octets) : Option Nat :=
  match digits with
  | [] => some 0
  | '0' :: _ => digitsIn? 8 digits
  | _ => digitsIn? 10 digits

/-- Reads what stands in brackets, if that has a meaning. -/
def bracketed?
    (marks : List Mark) :
    Work (Option (Part × List Mark)) := do
  match marks with
  | a :: rest =>
      if isBare ':' a then
        match upTo? ':' [] rest with
        | none => return none
        | some (name, after) =>
            let name := String.ofList (name.map Mark.char)
            if (CharSet.named? name).isSome then return some (.class_ name, after)
            else wrongClass name
      else if isBare '=' a then
        match upTo? '=' [] rest with
        | none => return none
        | some ([m], after) => return some (.chars [m.char], after)
        | some ([], _) =>
            Work.fail 1 "missing equivalence class character '[==]'".toList
        | some (ms, _) =>
            Work.fail 1 ((ms.map Mark.char)
              ++ ": equivalence class operand must be a single character".toList)
      else
        match rest with
        | star :: more =>
            if !isBare '*' star then return none
            else
              let digits := more.takeWhile fun m => !isBare ']' m
              match more.drop digits.length with
              | [] => return none
              | _ :: after =>
                  if digits.any (·.escaped) then return none
                  else
                    match count? (digits.map Mark.char) with
                    | some n => return some (.repeat_ a.char n, after)
                    | none =>
                        if digits.all fun m => m.char.isDigit then return none
                        else
                          Work.fail 1 ("invalid repeat count ".toList
                            ++ Quoting.plain (digits.map Mark.char)
                            ++ " in [c*n] construct".toList)
        | [] => return none
  | [] => return none
where
  /-- Complains about a class that is none. -/
  wrongClass (name : String) : Work (Option (Part × List Mark)) :=
    if name.isEmpty then Work.failText 1 "missing character class name '[::]'"
    else Work.fail 1 ("invalid character class ".toList ++ Quoting.plain name.toList)

def parts : Nat → List Mark → Work (List Part)
  | 0, _ => return []
  | _, [] => return []
  | fuel + 1, a :: rest => do
      let found ← if isBare '[' a then bracketed? rest else pure none
      match found with
      | some (p, after) => return p :: (← parts fuel after)
      | none =>
          match rest with
          | dash :: b :: after =>
              if isBare '-' dash then
                if b.char < a.char then
                  Work.fail 1 ("range-endpoints of '".toList ++ shownChar a.char ++ '-' ::
                    shownChar b.char ++ "' are in reverse collating sequence order".toList)
                else
                  let row := (List.range (b.char.toNat - a.char.toNat + 1)).map fun i =>
                    Char.ofNat (a.char.toNat + i)
                  return .chars row :: (← parts fuel after)
              else return .chars [a.char] :: (← parts fuel rest)
          | _ => return .chars [a.char] :: (← parts fuel rest)

def readList (s : Octets) : Work (List Part) := do
  let marks ← unescape (s.length + 1) s
  parts (marks.length + 1) marks

/-- The characters of a list whose repeated character fills it up to a length. -/
def expand
    (length : Nat)
    (list : List Part) :
    List Char :=
  let fixed := (list.flatMap fun p => p.members 0).length
  list.flatMap fun p => p.members (length - fixed)

/-- What a character becomes by two lists of the same length; the last pair counts. -/
def pairUp
    (source target : List Char) :
    Array Char :=
  (source.zip target).foldl (fun table e => table.set! e.1.toNat e.2) allBytes.toArray

/-- Leaves out characters that repeat the one before and belong to a set; the character before the
text is given. -/
def squeeze
    (set : Array Bool) :
    Option Char → Octets → Octets
  | _, [] => []
  | before, c :: s =>
      if before = some c && set.getD c.toNat false then squeeze set before s
      else c :: squeeze set (some c) s

/-- A set of characters as a table. -/
def tableOf (cs : List Char) : Array Bool :=
  cs.foldl (fun table c => table.set! c.toNat true) (Array.replicate 256 false)

/-- What is done: characters are left out, replaced, and written once only. -/
structure Change where
  deletes : Array Bool
  becomes : Array Char
  squeezes : Array Bool
  deriving Inhabited

/-- The change of a piece of text behind a character. -/
def Change.apply
    (c : Change)
    (before : Option Char)
    (s : Octets) :
    Octets :=
  squeeze c.squeezes before
    ((s.filter fun d => !c.deletes.getD d.toNat false).map fun d => c.becomes.getD d.toNat d)

/-- The pairs of characters that two lists make, where classes of letters stand for each other. -/
def translation
    (cut complement : Bool)
    (first second : List Part) :
    Work (List Char × List Char) := do
  let listed := expand 0 first
  let source := if complement then allBytes.filter fun c => !listed.contains c else listed
  let isCase (p : Part) : Bool := p = .class_ "upper" || p = .class_ "lower"
  let isOther (p : Part) : Bool := match p with
    | .class_ _ => !isCase p
    | _ => false
  if second.any isOther then
    Work.failText 1
      ("when translating, the only character classes that may appear in\n"
        ++ "string2 are 'upper' and 'lower'")
  let target := expand source.length second
  if second.any isCase && !complement then
    let startOf (before : List Part) : Nat := (expand 0 before).length
    let starts := (second.zipIdx.filter fun e => isCase e.1).map fun e =>
      startOf (second.take e.2)
    let starts₁ := (first.zipIdx.filter fun e => isCase e.1).map fun e =>
      startOf (first.take e.2)
    if !starts.all starts₁.contains then
      Work.failText 1 "misaligned [:upper:] and/or [:lower:] construct"
  if target.isEmpty && !cut then
    Work.failText 1 "when not truncating set1, string2 must be non-empty"
  let filled :=
    if cut then target
    else target ++ List.replicate (source.length - target.length) ((target.getLast?).getD ' ')
  return (source, filled)

def forms : List OptionForm :=
  [ flag "c" ["complement"], flag "C" [], flag "d" ["delete"], flag "s" ["squeeze-repeats"],
    flag "t" ["truncate-set1"] ]

/-- The change that the words ask for. -/
def changeOf (a : Arguments) : Work Change := do
  let complement := a.has "c" || a.has "C"
  let deletes := a.has "d"
  let squeezes := a.has "s"
  let isTranslating := a.operands.length = 2 && !deletes
  let least := if deletes = squeezes then 2 else 1
  let most := if deletes && !squeezes then 1 else 2
  match a.operands.drop most with
  | extra :: _ => do
      Work.warn ("extra operand ".toList ++ Quoting.plain extra)
      if a.operands.length = 2 then
        Work.act (Act.complain
          "Only one string may be given when deleting without squeezing repeats.\n".toList)
      Work.hint
      Work.giveUp 1
  | [] => pure ()
  if a.operands.length < least then
    match a.operands.getLast? with
    | none => Work.missingOperand 1 none
    | some word => do
        Work.warn ("missing operand after ".toList ++ Quoting.plain word)
        Work.act (Act.complain (if squeezes then
          "Two strings must be given when both deleting and squeezing repeats.\n".toList
          else "Two strings must be given when translating.\n".toList))
        Work.hint
        Work.giveUp 1
  let first ← readList (a.operands.headD [])
  let listed := expand 0 first
  let chosen := if complement then allBytes.filter fun c => !listed.contains c else listed
  if first.any isRepeat then
    Work.failText 1 "the [c*] repeat construct may not appear in string1"
  let second ← match a.operands.drop 1 with
    | word :: _ => do pure (some (← readList word))
    | [] => pure none
  match second with
  | some parts =>
      if isTranslating then
        let (source, target) ← translation (a.has "t") complement first parts
        return ⟨tableOf [], pairUp source target, tableOf (if squeezes then target else [])⟩
      else
        return ⟨tableOf chosen, allBytes.toArray, tableOf (expand 0 parts)⟩
  | none =>
      return ⟨tableOf (if deletes then chosen else []), allBytes.toArray,
        tableOf (if squeezes then chosen else [])⟩
where
  /-- Whether a part repeats a character to fill a list up. -/
  isRepeat : Part → Bool
    | .repeat_ _ 0 => true
    | _ => false

/-- Changes characters. -/
def tool : Tool :=
  simple 1 fun words => do
    let a ← Work.leadingArguments forms 1 words
    let change ← changeOf a
    let step (before : Option Char) (data : Octets) : Work (Option Char) := do
      let out := change.apply before data
      Work.say out
      return match out.getLast? with
        | some c => some c
        | none => before
    match ← Work.foldPieces step none (Reader.of 0) with
    | .ok _ => pure ()
    | .error e => Work.complain ("read error: ".toList ++ e.reason.toList)

end Translate
end Tool
end Runbook
