import Runbook.Tool.Input
import Runbook.Tool.Options
import Runbook.Tool.Target

/-!
# Counting lines

The tool that counts the lines, words and bytes of files, and the tool that finds neighbouring lines
that are the same.
-/

namespace Runbook
namespace Tool

/-! ## Counting -/

namespace Tally

/-- What was counted. -/
structure Counts where
  lines : Nat
  words : Nat
  bytes : Nat
  longest : Nat
  deriving DecidableEq, Repr, Inhabited

/-- The counts of two texts one after the other. -/
def Counts.add (a b : Counts) : Counts :=
  ⟨a.lines + b.lines, a.words + b.words, a.bytes + b.bytes, max a.longest b.longest⟩

/-- Counting under way: the counts so far, whether a word has begun, and the width of the line. -/
structure Progress where
  counts : Counts
  inWord : Bool
  column : Nat
  deriving Inhabited

/-- Counts one character. -/
def Progress.step
    (p : Progress)
    (c : Char) :
    Progress :=
  let isSpace := c = ' ' || ('\t' ≤ c && c ≤ '\r')
  let begins := Quoting.isPrintable c && !isSpace && !p.inWord
  let ends := c = '\n' || c = '\r' || c = '\x0c'
  let column :=
    if ends then 0
    else if c = '\t' then (p.column / 8 + 1) * 8
    else if Quoting.isPrintable c then p.column + 1
    else p.column
  { counts :=
      { lines := if c = '\n' then p.counts.lines + 1 else p.counts.lines
        words := if begins then p.counts.words + 1 else p.counts.words
        bytes := p.counts.bytes + 1
        longest := max p.counts.longest column }
    inWord := !isSpace && (p.inWord || begins)
    column := column }

/-- Which counts are shown. -/
structure Shown where
  lines : Bool
  words : Bool
  chars : Bool
  bytes : Bool
  longest : Bool
  deriving DecidableEq, Repr, Inhabited

def Shown.count (s : Shown) : Nat :=
  ([s.lines, s.words, s.chars, s.bytes, s.longest].filter id).length

/-- A line with counts, right-aligned, and the name they belong to. -/
def line
    (s : Shown)
    (width : Nat)
    (c : Counts)
    (name : Option Octets) :
    Octets :=
  let column (shows : Bool) (n : Nat) : List Octets :=
    if shows then [Octets.padLeft width ' ' (Octets.ofNat n)] else []
  let columns := column s.lines c.lines ++ column s.words c.words ++ column s.chars c.bytes
    ++ column s.bytes c.bytes ++ column s.longest c.longest
  Octets.intercalate [' '] columns ++ (match name with
    | some n => ' ' :: n
    | none => []) ++ ['\n']

def forms : List OptionForm :=
  [ flag "c" ["bytes"], flag "m" ["chars"], flag "l" ["lines"], flag "w" ["words"],
    flag "L" ["max-line-length"], valued "files0-from" ["files0-from"],
    valued "total" ["total"] ]

/-- What is known of a file that is to be counted. -/
def statusOf (path : Octets) : Work (Option FileStatus) := do
  let found ← if path = Work.dash then Work.ask (.statusOf 0) else Work.ask (.status path true)
  match found with
  | .ok s => return some s
  | .error _ => return none

/-- How wide the numbers are, from the sizes of the files. -/
def numberWidth
    (s : Shown)
    (files : List Octets) :
    Work Nat := do
  if files.length = 1 && s.count = 1 then return 1
  let found := (← files.mapM statusOf).filterMap id
  let total := ((found.filter fun f => f.kind = .file).map FileStatus.size).foldl Nat.add 0
  let least := if found.all fun f => f.kind = .file then 1 else 7
  return max (Octets.ofNat total).length least

/-- Counts the bytes of an open file; a fault does not undo what was counted before. -/
def countFile (d : Nat) : Work (Counts × Option FileFault) :=
  Work.repeat_ (default, none)
    (fun (at_ : Progress × Reader) => do
      match ← at_.2.next with
      | .error e => return .inr (at_.1.counts, some e)
      | .ok (data, after) =>
          if data.isEmpty then return .inr (at_.1.counts, none)
          else return .inl (data.foldl Progress.step at_.1, after))
    Act.rounds (⟨⟨0, 0, 0, 0⟩, false, 0⟩, Reader.of d)

/-- Counts lines, words and bytes. -/
def tool : Tool :=
  simple 1 fun words => do
    let a ← Work.arguments forms 1 words
    let any := a.has "c" || a.has "m" || a.has "l" || a.has "w" || a.has "L"
    let shown : Shown :=
      if any then ⟨a.has "l", a.has "w", a.has "m", a.has "c", a.has "L"⟩
      else ⟨true, true, false, true, false⟩
    let files := Work.inputs a.operands
    let width ← numberWidth shown files
    let total ← Work.foldAll
      (fun (total : Counts) path => do
        match ← Work.openInput path with
        | .error e => do
            Work.complainOf path e
            return total
        | .ok d => do
            let (c, fault) ← countFile d
            match fault with
            | some e => Work.complainOf path e
            | none => pure ()
            Work.say (line shown width c (if a.operands.isEmpty then none else some path))
            Work.closeInput d
            return total.add c)
      ⟨0, 0, 0, 0⟩ files
    if 1 < files.length then Work.say (line shown width total (some "total".toList))

end Tally

/-!
## Repeated lines

The tool that writes neighbouring lines that are the same once only, or that tells groups of such
lines from each other.
-/

namespace Unique

/-- Where empty lines stand that tell groups from each other. -/
inductive Spacing where
  | none
  | before
  | after
  | between
  | around
  deriving DecidableEq, Repr, Inhabited

/-- How lines are compared and which are written. Lines that stand alone are written if `single` is
set; the first line of a group stands for it if `first` is set; if `later` is set the lines of a group
are all written, where that of the last one hangs on `first`. -/
structure Choice where
  counts : Bool
  single : Bool
  first : Bool
  later : Bool
  groups : Bool
  spacing : Spacing
  foldsCase : Bool
  fields : Nat
  skipped : Nat
  width : Option Nat
  stop : Char
  deriving Repr, Inhabited

/-- Whether a character stands between fields. -/
def isGap (c : Char) : Bool :=
  c = ' ' || c = '\t' || c = '\n'

/-- What follows so many fields. -/
def dropFields : Nat → Octets → Octets
  | 0, s => s
  | n + 1, s => if s.isEmpty then s else dropFields n ((s.dropWhile isGap).dropWhile fun c => !isGap c)

def Choice.key
    (c : Choice)
    (line : Octets) :
    Octets :=
  let rest := (dropFields c.fields line).drop c.skipped
  let cut := match c.width with
    | some w => rest.take w
    | none => rest
  if c.foldsCase then cut.map Char.toUpper else cut

/-- The lines that are written of a group of lines that are the same. -/
def Choice.shown
    (c : Choice)
    (group : List Octets) :
    List Octets :=
  if c.groups then group
  else if group.length ≤ 1 then if c.single then group else []
  else if c.later then if c.first then group else group.dropLast
  else if c.first then group.take 1
  else []

/-- Writes a group; `isFirst` tells that no group stands before it. -/
def Choice.sayGroup
    (c : Choice)
    (isFirst : Bool)
    (group : List Octets) :
    Work Unit := do
  let isSpaced := c.groups || (c.later && decide (1 < group.length))
  if isSpaced then
    let needsSpace := match c.spacing with
      | .none => false
      | .before => true
      | .around => true
      | .after => !isFirst
      | .between => !isFirst
    if needsSpace then Work.say [c.stop]
  let count : Octets :=
    if c.counts then Octets.padLeft 7 ' ' (Octets.ofNat group.length) ++ [' '] else []
  Work.forAll (fun line => Work.say (count ++ line ++ [c.stop])) (c.shown group)

/-- A group that is being read, and whether there was one before that spaces tell from it. -/
structure Reading where
  group : List Octets
  isFirst : Bool
  deriving Repr, Inhabited

def Choice.take
    (c : Choice)
    (at_ : Reading)
    (line : Octets) :
    Work Reading := do
  match at_.group with
  | [] => return { at_ with group := [line] }
  | first :: _ =>
      if c.key first = c.key line then return { at_ with group := at_.group ++ [line] }
      else do
        c.sayGroup at_.isFirst at_.group
        let counts := c.groups || decide (1 < at_.group.length)
        return ⟨[line], at_.isFirst && !counts⟩

/-- Ends the last group. -/
def Choice.finish
    (c : Choice)
    (at_ : Reading) :
    Work Unit := do
  if !at_.group.isEmpty then
    c.sayGroup at_.isFirst at_.group
    if c.groups && (c.spacing = .after || c.spacing = .around) then Work.say [c.stop]

def forms : List OptionForm :=
  [ flag "c" ["count"], flag "d" ["repeated"], ⟨"D", [], .nothing⟩,
    ⟨"all-repeated", ["all-repeated"], .maybe⟩, flag "u" ["unique"], flag "i" ["ignore-case"],
    valued "f" ["skip-fields"], valued "s" ["skip-chars"], valued "w" ["check-chars"],
    flag "z" ["zero-terminated"], ⟨"group", ["group"], .maybe⟩ ] ++ flags "0123456789"

def numberOf
    (a : Arguments)
    (key what : String) :
    Work (Option Nat) := do
  match a.value? key with
  | none => return none
  | some word =>
      if !word.isEmpty && word.all Char.isDigit then return digitsIn? 10 word
      else Work.fail 1 (word ++ ": invalid number of ".toList ++ what.toList)

/-- The number of fields to skip: the last one that an option gives, or the digits among the options
behind it. -/
def fieldsOf (a : Arguments) : Work Nat := do
  let given ← numberOf a "f" "fields to skip"
  let digits := ((a.options.reverse.takeWhile fun g => g.key ≠ "f").filterMap fun g =>
    g.key.toList.head?.filter Char.isDigit).reverse
  if digits.isEmpty then return given.getD 0
  else return (digitsIn? 10 digits).getD 0

/-- The number of characters to skip that a word with a plus sign gives. -/
def plusNumber? (word : Octets) : Option Nat :=
  match word with
  | '+' :: digits => if digits.all Char.isDigit then digitsIn? 10 digits else none
  | _ => none

/-- How the options tell groups from each other. -/
def spacingOf (a : Arguments) : Work Spacing := do
  match a.value? "group", (a.options.reverse.find? fun g => g.key = "D" || g.key = "all-repeated") with
  | some [], _ => return .between
  | some word, _ => do
      let name ← Work.choice "--group" [["prepend"], ["append"], ["separate"], ["both"]] word
      return if name = "prepend" then .before
        else if name = "append" then .after
        else if name = "separate" then .between
        else .around
  | none, some g => do
      if g.value.isEmpty then return .none
      let name ← Work.choice "--all-repeated" [["none"], ["prepend"], ["separate"]] g.value
      return if name = "prepend" then .before
        else if name = "separate" then .between
        else .none
  | none, none => return .none

/-- What the options ask for. -/
def choiceOf (a : Arguments) : Work Choice := do
  let fields ← fieldsOf a
  let skipped ← numberOf a "s" "bytes to skip"
  let width ← numberOf a "w" "bytes to compare"
  let spacing ← spacingOf a
  let later := a.has "D" || a.has "all-repeated"
  let groups := a.has "group"
  if groups && (a.has "c" || a.has "d" || a.has "u" || later) then
    Work.misuse 1 "--group is mutually exclusive with -c/-d/-D/-u".toList
  if a.has "c" && later then
    Work.misuse 1 "printing all duplicated lines and repeat counts is meaningless".toList
  return {
    counts := a.has "c"
    single := !a.has "d" && !later
    first := !a.has "u"
    later := later
    groups := groups
    spacing := spacing
    foldsCase := a.has "i"
    fields := fields
    skipped := skipped.getD 0
    width := width
    stop := if a.has "z" then '\x00' else '\n' }

/-- Writes repeated lines once. -/
def tool : Tool :=
  simple 1 fun words => do
    let a ← Work.arguments forms 1 words
    let front := words.takeWhile (· ≠ "--".toList)
    let isPlus (word : Octets) : Bool := (plusNumber? word).isSome && front.contains word
    let operands := a.operands.filter fun word => !isPlus word
    match operands.drop 2 with
    | extra :: _ => Work.extraOperand 1 extra
    | [] => pure ()
    let c ← choiceOf a
    let c := match (a.operands.filter isPlus).getLast? with
      | some word => { c with skipped := (plusNumber? word).getD c.skipped }
      | none => c
    let source := operands.headD Work.dash
    let opened ← Work.openInput source
    let d ← Work.orFail 1
      (fun e => Quoting.shellBeforeColon source ++ ": ".toList ++ e.reason.toList) opened
    match operands.drop 1 with
    | target :: _ =>
        if target ≠ Work.dash then
          match ← Work.ask (.openFile target .writing) with
          | .error e =>
              Work.fail 1 (Quoting.shellBeforeColon target ++ ": ".toList ++ e.reason.toList)
          | .ok t => do
              let _ ← Work.ask (.copy t 1)
              let _ ← Work.ask (.close t)
    | [] => pure ()
    let step (at_ : Reading) (line : Octets) (_ : Bool) : Work (Reading × Bool) := do
      return (← c.take at_ line, true)
    match ← Work.foldRows c.stop step ⟨[], true⟩ (Reader.of d) with
    | .ok (at_, _) => c.finish at_
    | .error e =>
        Work.fail 1 ("error reading ".toList ++ Quoting.shellAlways source ++ ": ".toList
          ++ e.reason.toList)

end Unique

end Tool
end Runbook
