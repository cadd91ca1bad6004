import Runbook.Tool.Editing.Script

/-!
# The cycle of an editor

What an editor does to one line at a time.
-/

namespace Runbook
namespace Tool
namespace Editing

/-!
## Replacing matches

What a line becomes when matches in it are replaced, and how a line is shown so that one sees all of its
characters.
-/

/-! ### Letters -/

/-- A character with its case changed. -/
def LetterCase.apply
    (case_ : LetterCase)
    (c : Char) :
    Char :=
  match case_ with
  | .asIs => c
  | .upper => c.toUpper
  | .lower => c.toLower

/-- A text with its letters changed. -/
def CaseChange.apply
    (change : CaseChange) :
    Octets → Octets
  | [] => []
  | c :: s => change.first.apply c :: s.map change.all.apply

/-- Whether the first letter is changed in another way than the others. -/
def CaseChange.isSpecial (change : CaseChange) : Bool :=
  change.first ≠ change.all

/-! ### One match -/

def groupText
    (t : Regex.Subject)
    (start stop : Nat)
    (groups : Regex.Groups)
    (number : Nat) :
    Octets :=
  if number = 0 then t.slice start stop
  else
    match groups.lookup number with
    | some (from_, to_) => t.slice from_ to_
    | none => []

/-- What stands in the place of a match. A change for the first letter waits until there is a letter:
`waiting` holds it. -/
def fillParts
    (textOf : Nat → Octets) :
    Option LetterCase → List Part → Octets
  | _, [] => []
  | waiting, p :: rest =>
      let change : CaseChange :=
        if p.change.isSpecial then p.change else ⟨p.change.all, waiting.getD p.change.all⟩
      let shown := change.apply p.text
      let after : CaseChange := if p.text.isEmpty then change else ⟨change.all, change.all⟩
      match p.group with
      | none => shown ++ fillParts textOf none rest
      | some n =>
          let found := textOf n
          let kept := if found.isEmpty && p.change.isSpecial && after.isSpecial then some after.first
            else none
          shown ++ after.apply found ++ fillParts textOf kept rest

/-! ### All matches -/

/-- Replaces matches from a place on. `count` is the number of matches so far, and `behind` the end of
the last one if it was not empty: no empty match is looked at there. The result is reversed piece by
piece, and tells whether there was a replacement. -/
def replaceFrom
    (r : Regex)
    (t : Regex.Subject)
    (s : Substitution) :
    Nat → Nat → Nat → Option Nat → List Octets → Bool → List Octets × Bool
  | 0, _, _, _, done, replaced => (done, replaced)
  | fuel + 1, start, count, behind, done, replaced =>
      let size := t.chars.size
      match Regex.search? r t start with
      | none => (t.slice start size :: done, replaced)
      | some (from_, to_, groups) =>
          let lead := t.slice start from_
          if from_ = to_ && behind = some from_ then
            replaceFrom r t s fuel (from_ + 1) count none (t.slice from_ (from_ + 1) :: lead :: done)
              replaced
          else
            let isMeant := s.which ≤ count + 1
            let text := if isMeant then fillParts (groupText t from_ to_ groups) none s.parts
              else t.slice from_ to_
            if isMeant && !s.all then (t.slice to_ size :: text :: lead :: done, true)
            else if from_ = to_ then
              replaceFrom r t s fuel (from_ + 1) (count + 1) none
                (t.slice from_ (from_ + 1) :: text :: lead :: done) (replaced || isMeant)
            else
              replaceFrom r t s fuel to_ (count + 1) (some to_) (text :: lead :: done)
                (replaced || isMeant)

/-- The text that a pattern is looked for in; `byLines` tells whether line feeds end lines. -/
def Pattern.subject
    (p : Pattern)
    (byLines : Bool)
    (text : Octets) :
    Regex.Subject :=
  { Regex.subject p.foldCase text with multiline := p.multiline && byLines }

def Pattern.occurs
    (p : Pattern)
    (byLines : Bool)
    (text : Octets) :
    Bool :=
  Regex.occurs p.regex (p.subject byLines text)

/-- A text with matches replaced, if there are such matches. -/
def Substitution.result?
    (s : Substitution)
    (p : Pattern)
    (byLines : Bool)
    (text : Octets) :
    Option Octets :=
  let (pieces, replaced) :=
    replaceFrom p.regex (p.subject byLines text) s (2 * text.length + 3) 0 0 none [] false
  if replaced then some pieces.reverse.flatten else none

/-! ### Lines in full -/

def shownChar (c : Char) : Octets :=
  match c with
  | '\\' => "\\\\".toList
  | '\x07' => "\\a".toList
  | '\x08' => "\\b".toList
  | '\x0c' => "\\f".toList
  | '\n' => "\\n".toList
  | '\r' => "\\r".toList
  | '\t' => "\\t".toList
  | '\x0b' => "\\v".toList
  | _ =>
      if ' ' ≤ c && c ≤ '~' then [c]
      else '\\' :: Octets.padLeft 3 '0' (Nat.toDigits 8 c.toNat)

/-- A line with all of its characters shown, cut into rows of some width, which is 0 for no limit. -/
def shownLine
    (width : Nat)
    (text : Octets) :
    Octets :=
  let add (so_far : Nat × List Octets) (c : Char) : Nat × List Octets :=
    let shown := shownChar c
    if 0 < width && width - 1 < so_far.1 + shown.length then
      (shown.length, shown :: "\\\n".toList :: so_far.2)
    else (so_far.1 + shown.length, shown :: so_far.2)
  (text.foldl add (0, [])).2.reverse.flatten ++ "$\n".toList

/-!
## The cycle

An editor holds one line at a time and carries out the steps of a script on it. It goes on by itself
until it needs something from outside: the next line, a file, or a program.
-/

/-- How lines are edited: whether they are not shown at the end of the cycle, the character that ends a
line, and the width of lines that are shown in full. -/
structure Manner where
  quiet : Bool
  stop : Char
  width : Nat
  deriving DecidableEq, Repr, Inhabited

/-- Whether lines end with line feeds. -/
def Manner.byLines (m : Manner) : Bool :=
  m.stop = '\n'

/-- Where something is written to. -/
inductive Sink where
  | main
  | file (path : Octets)
  deriving DecidableEq, Repr, Inhabited

/-- Where a range of lines stands: not begun, begun with the number of its last line if that is known,
or ended. -/
inductive RangeState where
  | before
  | within (last : Option Nat)
  | behind
  deriving DecidableEq, Repr, Inhabited

/-- What is written at the end of the cycle: a text, or what a file holds. -/
inductive Addition where
  | text (t : Octets)
  | file (path : Octets)
  deriving DecidableEq, Repr, Inhabited

/-- A text, and whether its last line is ended. -/
structure Held where
  text : Octets
  ended : Bool
  deriving DecidableEq, Repr, Inhabited

/-- An editor at work: the line at hand and the one that is kept, the number of the line, whether it is
the last one if that is known, whether something was replaced in it, the pattern used last, the ranges
of the steps, the additions for the end of the cycle, the last one first, the next step, what was
written and not delivered yet, the newest first, where the last line is not ended, and the name of the
file. -/
structure Editor where
  here : Held
  kept : Held
  line : Nat
  last : Option Bool
  replaced : Bool
  used : Option Pattern
  ranges : Array RangeState
  additions : List Addition
  place : Nat
  said : List (Sink × Octets)
  open_ : List Sink
  name : Octets
  deriving Inhabited

/-- What an editor needs. -/
inductive Request where
  | whetherLast
  | newCycle
  | restart
  | line (more : Bool)
  | quit (status : Nat)
  | run (command : Octets)
  | become (print : Bool) (file : Option Octets)
  | lineOf (path : Octets)
  | noPattern
  | rest
  deriving DecidableEq, Repr, Inhabited

/-- The ranges of a script before the first line. -/
def Script.ranges (s : Script) : Array RangeState :=
  s.steps.map fun step => if step.selection.startsOpen then .within none else .before

/-- An editor before the first line. -/
def Editor.start (s : Script) : Editor :=
  ⟨⟨[], true⟩, ⟨[], true⟩, 0, none, false, none, s.ranges, [], 0, [], [], Octets.ofText "-"⟩

namespace Editor

/-! ### Writing -/

/-- Writes a text, behind the end of the last line if that is missing. `whole` tells whether the text ends
its last line. -/
def write
    (m : Manner)
    (sink : Sink)
    (text : Octets)
    (whole : Bool)
    (e : Editor) :
    Editor :=
  let lead : Octets := if e.open_.contains sink then [m.stop] else []
  let others := e.open_.filter (· ≠ sink)
  { e with
    said := (sink, lead ++ text) :: e.said
    open_ := if whole then others else sink :: others }

def writeHeld
    (m : Manner)
    (sink : Sink)
    (h : Held)
    (e : Editor) :
    Editor :=
  e.write m sink (if h.ended then h.text ++ [m.stop] else h.text) h.ended

/-- Writes the line at hand. -/
def show_
    (m : Manner)
    (sink : Sink)
    (e : Editor) :
    Editor :=
  e.writeHeld m sink e.here

/-- Writes the line at hand up to its first line feed. -/
def showFirst
    (m : Manner)
    (sink : Sink)
    (e : Editor) :
    Editor :=
  if e.here.text.contains m.stop then
    e.writeHeld m sink ⟨e.here.text.takeWhile (· ≠ m.stop), true⟩
  else e.show_ m sink

def showAtEnd
    (m : Manner)
    (e : Editor) :
    Editor :=
  if m.quiet then e else e.show_ m .main

/-! ### Selecting -/

/-- The pattern that an expression stands for, which is the one used last if it is empty. -/
def pattern?
    (p : Option Pattern)
    (e : Editor) :
    Option (Pattern × Editor) :=
  match p, e.used with
  | some q, _ => some (q, { e with used := some q })
  | none, some q => some (q, e)
  | none, none => none

/-- Whether an address selects the line; nothing if no pattern was used before. -/
def isAt
    (m : Manner)
    (a : Address)
    (e : Editor) :
    Option (Bool × Editor) :=
  match a with
  | .line n => some (e.line = n, e)
  | .every first step => some (decide (first ≤ e.line) && (e.line - first) % step = 0, e)
  | .last => some (e.last.getD false, e)
  | .matching p => (e.pattern? p).map fun found => (found.1.occurs m.byLines e.here.text, found.2)

def setRange
    (index : Nat)
    (state : RangeState)
    (e : Editor) :
    Editor :=
  { e with ranges := e.ranges.setIfInBounds index state }

/-- Begins a range at the line, where the number of its last line is known. -/
def beginCounted
    (index last : Nat)
    (e : Editor) :
    Editor :=
  e.setRange index (if e.line < last then .within (some last) else .behind)

def begin_
    (index : Nat)
    (last : RangeEnd)
    (e : Editor) :
    Editor :=
  match last with
  | .at_ (.line n) => e.beginCounted index n
  | .at_ _ => e.setRange index (.within none)
  | .further n => e.beginCounted index (e.line + n)
  | .multiple 0 => e.setRange index .behind
  | .multiple n => e.beginCounted index ((e.line / n + 1) * n)

/-- Whether a range begins at the line. One that starts at a line by its number does so later too, if that
line was passed unseen, as long as its end was not passed as well. -/
def begins
    (m : Manner)
    (index : Nat)
    (first : Address)
    (last : RangeEnd)
    (e : Editor) :
    Option (Bool × Editor) :=
  match first, last with
  | .line n, .at_ (.line most) =>
      if e.ranges[index]? = some .behind || e.line < n then some (e.line = n, e)
      else some (decide (e.line ≤ most) || e.line = n, e)
  | .line n, _ =>
      if e.ranges[index]? = some .behind then some (false, e) else some (decide (n ≤ e.line), e)
  | _, _ => e.isAt m first

/-- Whether the line is in a range. A line behind the number that ends a range is not, but the first one
behind a range of so many lines is, if its end was passed unseen. -/
def inRange
    (m : Manner)
    (index : Nat)
    (first : Address)
    (last : RangeEnd)
    (e : Editor) :
    Option (Bool × Editor) :=
  match e.ranges[index]?.getD .before with
  | .within (some n) =>
      let after := if n ≤ e.line then e.setRange index .behind else e
      match last with
      | .at_ _ => some (decide (e.line ≤ n), after)
      | _ => some (true, after)
  | .within none =>
      match last with
      | .at_ a => do
          let (isEnd, after) ← e.isAt m a
          return (true, if isEnd then after.setRange index .behind else after)
      | _ => some (true, e)
  | _ => do
      let (starts, after) ← e.begins m index first last
      return (starts, if starts then after.begin_ index last else after)

/-- Whether a step is for the line. -/
def isSelected
    (m : Manner)
    (index : Nat)
    (s : Selection)
    (e : Editor) :
    Option (Bool × Editor) := do
  let (found, after) ← match s.first, s.last with
    | none, _ => some (true, e)
    | some a, none => e.isAt m a
    | some a, some b => e.inRange m index a b
  return (found != s.negated, after)

/-- Whether a range of a step goes on behind the line. -/
def isWithin
    (index : Nat)
    (e : Editor) :
    Bool :=
  match e.ranges[index]? with
  | some (.within _) => true
  | _ => false

/-! ### Commands -/

/-- Two texts with a line feed between them. -/
def joined
    (m : Manner)
    (a b : Octets) :
    Octets :=
  a ++ m.stop :: b

/-- Adds something to the end of the cycle. -/
def add
    (a : Addition)
    (e : Editor) :
    Editor :=
  { e with additions := a :: e.additions }

/-- What an editor does next: it goes on, or it needs something. -/
abbrev Outcome := Editor × Option Request

/-- Replaces matches in the line. -/
def substitute
    (m : Manner)
    (s : Substitution)
    (e : Editor) :
    Outcome :=
  match e.pattern? s.pattern with
  | none => (e, some .noPattern)
  | some (p, found) =>
      match s.result? p m.byLines e.here.text with
      | none => (found, none)
      | some text =>
          let after := { found with here := ⟨text, e.here.ended⟩, replaced := true }
          if s.runs then (after, some (.become s.print s.file))
          else
            let shown := if s.print then after.show_ m .main else after
            (match s.file with
              | some path => shown.show_ m (.file path)
              | none => shown, none)

/-- Carries out a command on the line. -/
def carryOut
    (m : Manner)
    (script : Script)
    (index : Nat)
    (c : Command)
    (e : Editor) :
    Outcome :=
  let jump (label : Octets) (e : Editor) : Editor := { e with place := script.target label }
  match c with
  | .open_ _ => (e, none)
  | .close => (e, none)
  | .mark => (e, none)
  | .append t => (e.add (.text t), none)
  | .insert t => (e.write m .main t true, none)
  | .change t => (if e.isWithin index then e else e.write m .main t true, some .newCycle)
  | .jump label => (jump label e, none)
  | .jumpIf true label =>
      (if e.replaced then jump label { e with replaced := false } else e, none)
  | .jumpIf false label =>
      (if e.replaced then { e with replaced := false } else jump label e, none)
  | .delete => (e, some .newCycle)
  | .deleteFirst =>
      if e.here.text.contains m.stop then
        let rest := (e.here.text.dropWhile (· ≠ m.stop)).drop 1
        ({ e with here := { e.here with text := rest } }, some .restart)
      else (e, some .newCycle)
  | .run [] => (e, some (.become false none))
  | .run command => (e, some (.run command))
  | .sayName => (e.write m .main (e.name ++ ['\n']) true, none)
  | .sayNumber => (e.write m .main (Octets.ofNat e.line ++ ['\n']) true, none)
  | .take => ({ e with here := e.kept }, none)
  | .takeMore => ({ e with here := ⟨joined m e.here.text e.kept.text, e.kept.ended⟩ }, none)
  | .keep => ({ e with kept := e.here }, none)
  | .keepMore => ({ e with kept := ⟨joined m e.kept.text e.here.text, e.here.ended⟩ }, none)
  | .exchange => ({ e with here := e.kept, kept := e.here }, none)
  | .list width => (e.write m .main (shownLine (width.getD m.width) e.here.text) true, none)
  | .next => (e, some (.line false))
  | .nextMore => (e, some (.line true))
  | .print => (e.show_ m .main, none)
  | .printFirst => (e.showFirst m .main, none)
  | .quit true status => ({ e with additions := [] }, some (.quit status))
  | .quit false status => (e.showAtEnd m, some (.quit status))
  | .readFile path => (e.add (.file path), none)
  | .readLine path => (e, some (.lineOf path))
  | .substitute s => e.substitute m s
  | .write path => (e.show_ m (.file path), none)
  | .writeFirst path => (e.showFirst m (.file path), none)
  | .translate pairs =>
      let text := e.here.text.map fun c => (pairs.lookup c).getD c
      ({ e with here := { e.here with text := text } }, none)
  | .clear => ({ e with here := { e.here with text := [] } }, none)

/-- Carries out the next step. At the end of the script the line is shown. -/
def step
    (m : Manner)
    (script : Script)
    (e : Editor) :
    Outcome :=
  match script.steps[e.place]? with
  | none => (e.showAtEnd m, some .newCycle)
  | some s =>
      if s.selection.asksLast && e.last.isNone then (e, some .whetherLast)
      else
        match e.isSelected m e.place s.selection with
        | none => (e, some .noPattern)
        | some (selected, after) =>
            let next := { after with place := e.place + 1 }
            if selected then next.carryOut m script e.place s.command
            else
              match s.command with
              | .open_ behind => ({ next with place := behind }, none)
              | _ => (next, none)

/-- Goes on until something is needed, or for a limited number of steps. -/
def proceed
    (m : Manner)
    (script : Script) :
    Nat → Editor → Editor × Request
  | 0, e => (e, .rest)
  | fuel + 1, e =>
      match e.step m script with
      | (after, some request) => (after, request)
      | (after, none) => proceed m script fuel after

/-! ### Answers -/

/-- The editor with a new line at hand, or with one more. -/
def take
    (m : Manner)
    (more : Bool)
    (text : Octets)
    (ended : Bool)
    (e : Editor) :
    Editor :=
  { e with
    here := ⟨if more then joined m e.here.text text else text, ended⟩
    line := e.line + 1
    last := none
    replaced := false }

/-- The editor at the first line of a file that is edited by itself: nothing is kept from the file
before. -/
def restart
    (script : Script)
    (e : Editor) :
    Editor :=
  { e with line := 0, kept := ⟨[], true⟩, ranges := script.ranges }

end Editor
end Editing
end Tool
end Runbook
