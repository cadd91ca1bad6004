import Runbook.Tool.Editing.Script
import Runbook.Tool.Sorting.Key

/-!
# Reading editing scripts

A script is read character by character from one or several origins. A text that is to be put in may
go on in the next origin if its last line ends with a backslash.
-/

namespace Runbook
namespace Tool
namespace Editing

/-! ## Characters written by escapes -/

/-- The number that digits write in a base, of which there may be only so many, and what follows them. -/
def escapedNumber
    (base : Nat) :
    Nat → Option Nat → Octets → Option Nat × Octets
  | 0, n, s => (n, s)
  | _, n, [] => (n, [])
  | most + 1, n, c :: s =>
      match digitIn? base c with
      | some d => escapedNumber base most (some (n.getD 0 * base + d)) s
      | none => (n, c :: s)
where
  /-- What a digit stands for. -/
  digitIn? (base : Nat) (c : Char) : Option Nat :=
    let v :=
      if '0' ≤ c && c ≤ '9' then c.toNat - 48
      else if 'a' ≤ c && c ≤ 'f' then c.toNat - 87
      else if 'A' ≤ c && c ≤ 'F' then c.toNat - 55
      else base
    if v < base then some v else none

/-- The character that an escape stands for, by what follows its backslash. -/
def escape? (c : Char) (s : Octets) : Option (Char × Octets) :=
  let byNumber (base most : Nat) : Option (Char × Octets) :=
    match escapedNumber base most none s with
    | (some n, rest) => some (Char.ofNat (n % 256), rest)
    | (none, rest) => some (c, rest)
  match c with
  | 'a' => some ('\x07', s)
  | 'f' => some ('\x0c', s)
  | 'n' => some ('\n', s)
  | 'r' => some ('\r', s)
  | 't' => some ('\t', s)
  | 'v' => some ('\x0b', s)
  | 'd' => byNumber 10 3
  | 'o' => byNumber 8 3
  | 'x' => byNumber 16 2
  | 'c' =>
      match s with
      | d :: rest => some (Char.ofNat (d.toUpper.toNat ^^^ 64), rest)
      | [] => none
  | _ => none

/-- The text of an expression, with characters in the place of their escapes. -/
def expandPattern : Nat → Octets → Octets
  | 0, s => s
  | _, [] => []
  | fuel + 1, '\\' :: c :: s =>
      match escape? c s with
      | some (d, rest) => d :: expandPattern fuel rest
      | none => '\\' :: c :: expandPattern fuel s
  | fuel + 1, c :: s => c :: expandPattern fuel s

/-- A text without the backslashes of its escapes. -/
def expandText : Nat → Octets → Octets
  | 0, s => s
  | _, [] => []
  | fuel + 1, '\\' :: c :: s =>
      match escape? c s with
      | some (d, rest) => d :: expandText fuel rest
      | none => c :: expandText fuel s
  | fuel + 1, c :: s => c :: expandText fuel s

/-! ## Replacements -/

/-- The parts of a replacement, after those already read, which are held in reverse. The text of the
part at hand is held in reverse too, with the change of letters for it, and the one that comes back
behind it. -/
def replacementFrom : Nat → List Part → Octets → CaseChange → LetterCase → Octets → List Part
  | 0, done, _, _, _, _ => done.reverse
  | _, done, text, now, _, [] => (⟨text.reverse, none, now⟩ :: done).reverse
  | fuel + 1, done, text, now, back, '\\' :: c :: s =>
      let closed (group : Option Nat) : List Part := ⟨text.reverse, group, now⟩ :: done
      let plain (case_ : LetterCase) : CaseChange := ⟨case_, case_⟩
      match c with
      | 'L' => replacementFrom fuel (closed none) [] (plain .lower) .lower s
      | 'U' => replacementFrom fuel (closed none) [] (plain .upper) .upper s
      | 'E' => replacementFrom fuel (closed none) [] (plain .asIs) .asIs s
      | 'l' => replacementFrom fuel (closed none) [] ⟨back, .lower⟩ back s
      | 'u' => replacementFrom fuel (closed none) [] ⟨back, .upper⟩ back s
      | _ =>
          if c.isDigit then
            replacementFrom fuel (closed (some (c.toNat - 48))) [] (plain back) back s
          else
            let (d, rest) := (escape? c s).getD (c, s)
            replacementFrom fuel (closed none) [d] (plain back) back rest
  | fuel + 1, done, text, now, back, '&' :: s =>
      replacementFrom fuel (⟨text.reverse, some 0, now⟩ :: done) [] ⟨back, back⟩ back s
  | fuel + 1, done, text, now, back, c :: s =>
      replacementFrom fuel done (c :: text) now back s

def replacement (s : Octets) : List Part :=
  replacementFrom (s.length + 1) [] [] ⟨.asIs, .asIs⟩ .asIs s

/-- The greatest number of a group that parts refer to. -/
def greatestGroup (parts : List Part) : Nat :=
  parts.foldl (fun n p => max n (p.group.getD 0)) 0

/-! ## Delimited texts -/

/-- The members of a set in brackets up to the closing one, behind what was read, which is held in
reverse. -/
def copyMembers : Nat → Octets → Octets → Octets × Octets
  | 0, done, s => (done, s)
  | _, done, [] => (done, [])
  | fuel + 1, done, '[' :: m :: s =>
      if m = ':' || m = '.' || m = '=' then
        match closing? m (s.length + 1) [] s with
        | some (inside, rest) => copyMembers fuel (inside ++ m :: '[' :: done) rest
        | none => copyMembers fuel ('[' :: done) (m :: s)
      else copyMembers fuel ('[' :: done) (m :: s)
  | fuel + 1, done, c :: s =>
      if c = ']' then (c :: done, s)
      else if c = '\n' then (done, c :: s)
      else copyMembers fuel (c :: done) s
where
  /-- The text up to a mark and a closing bracket. -/
  closing? (m : Char) : Nat → Octets → Octets → Option (Octets × Octets)
    | 0, _, _ => none
    | _, _, [] => none
    | _, _, '\n' :: _ => none
    | fuel + 1, done, c :: s =>
        if c = m && s.head? = some ']' then some (']' :: c :: done, s.drop 1)
        else closing? m fuel (c :: done) s

/-- A set in brackets, behind what was read, which is held in reverse. -/
def copySet (done s : Octets) : Octets × Octets :=
  let (d₁, s₁) := match s with
    | '^' :: rest => ('^' :: done, rest)
    | _ => (done, s)
  let (d₂, s₂) := match s₁ with
    | ']' :: rest => (']' :: d₁, rest)
    | _ => (d₁, s₁)
  copyMembers (s₂.length + 1) d₂ s₂

/-- The text up to a mark, behind what was read, which is held in reverse; what follows it; and whether
the mark is there. In an expression, the mark stands for itself between brackets. -/
def delimited
    (mark : Char)
    (isPattern : Bool) :
    Nat → Octets → Octets → Octets × Octets × Bool
  | 0, done, s => (done.reverse, s, false)
  | _, done, [] => (done.reverse, [], false)
  | fuel + 1, done, c :: s =>
      if c = '\n' then (done.reverse, c :: s, false)
      else if c = mark then (done.reverse, s, true)
      else if c = '\\' then
        match s with
        | [] => (done.reverse, [], false)
        | d :: rest =>
            if d = mark then
              delimited mark isPattern fuel (if !isPattern && d = '&' then d :: c :: done else d :: done)
                rest
            else if isPattern && d = 'n' then delimited mark isPattern fuel ('\n' :: done) rest
            else if d = '\n' then delimited mark isPattern fuel (d :: done) rest
            else delimited mark isPattern fuel (d :: c :: done) rest
      else if isPattern && c = '[' then
        let (copied, rest) := copySet (c :: done) s
        delimited mark isPattern fuel copied rest
      else delimited mark isPattern fuel (c :: done) s

/-- A character between the marks of a translation. -/
def translated : Nat → Octets → Octets
  | 0, s => s
  | _, [] => []
  | fuel + 1, '\\' :: '\\' :: s => '\\' :: translated fuel s
  | fuel + 1, '\\' :: c :: s =>
      match escape? c s with
      | some (d, rest) => d :: translated fuel rest
      | none => c :: translated fuel s
  | fuel + 1, c :: s => c :: translated fuel s

/-! ## The desk -/

/-- How scripts are read: in the extended notation of expressions, and without commands that reach
beyond the lines. -/
structure Reading where
  extended : Bool
  sandboxed : Bool
  deriving DecidableEq, Repr, Inhabited

/-- A script that is being read: where it comes from, what is left of that, how many characters were
taken and how many lines were begun. Of what was read it keeps the steps, the blocks that are open with
the places where they started, the labels, the text that goes on in the next origin with the step it
belongs to, and the files to write. -/
structure Desk where
  reading : Reading
  origin : Origin
  rest : Octets
  taken : Nat
  line : Nat
  steps : Array Step
  blocks : List (Nat × Origin × Nat)
  labels : List (Octets × Nat)
  pending : Option (Nat × Octets)
  files : List Octets
  quiet : Bool
  fresh : Bool
  deriving Inhabited

/-- A part of the reading of a script. -/
abbrev Scan := ExceptT ScriptError (StateM Desk)

namespace Scan

def fail
    {α : Type}
    (fault : ScriptFault) :
    Scan α := do
  let d ← get
  throw ⟨fault, d.origin, match d.origin with
    | .expression _ => d.taken
    | .file _ => d.line⟩

def take : Scan (Option Char) := do
  let d ← get
  match d.rest with
  | [] => return none
  | c :: s => do
      set { d with rest := s, taken := d.taken + 1, line := if c = '\n' then d.line + 1 else d.line }
      return some c

/-- Puts a character back. -/
def back : Option Char → Scan Unit
  | none => pure ()
  | some c =>
      modify fun d =>
        { d with
          rest := c :: d.rest
          taken := d.taken - 1
          line := if c = '\n' then d.line - 1 else d.line }

/-- Goes on to what is left. -/
def advance (rest : Octets) : Scan Unit :=
  modify fun d =>
    let passed := d.rest.take (d.rest.length - rest.length)
    { d with
      rest := rest
      taken := d.taken + passed.length
      line := d.line + passed.count '\n' }

/-- Takes all characters in front that have a property. -/
def takeAll (property : Char → Bool) : Scan Octets := do
  let front := (← get).rest.takeWhile property
  advance ((← get).rest.drop front.length)
  return front

def isBlank (c : Char) : Bool :=
  c = ' ' || c = '\t'

/-- Whether a character is white space. -/
def isSpace (c : Char) : Bool :=
  c = ' ' || ('\t' ≤ c && c ≤ '\r')

/-- Takes the next character that is no blank. -/
def takeNonBlank : Scan (Option Char) := do
  let _ ← takeAll isBlank
  take

/-- The number that starts with a character that was taken; it is 0 if that is no digit. -/
def number (c : Option Char) : Scan Nat := do
  back c
  let digits ← takeAll Char.isDigit
  return ((String.ofList digits).toNat?).getD 0

def endOfCommand : Scan Unit := do
  match ← takeNonBlank with
  | none => pure ()
  | some c =>
      if c = '\x7d' || c = '#' then back (some c)
      else if c ≠ '\n' && c ≠ ';' then fail .extra

def label : Scan Octets := do
  let _ ← takeAll isBlank
  takeAll fun c => !isSpace c && c ≠ ';' && c ≠ '\x7d'

/-- The name of a file, up to the end of the line. -/
def path : Scan Octets := do
  let _ ← takeAll isBlank
  let name ← takeAll (· ≠ '\n')
  let _ ← take
  if name.isEmpty then fail .noFile else return name

/-- The name of a file that is written. -/
def outputPath : Scan Octets := do
  let name ← path
  modify fun d => if d.files.contains name then d else { d with files := d.files ++ [name] }
  return name

def upTo
    (mark : Char)
    (isPattern : Bool) :
    Scan (Option Octets) := do
  let rest := (← get).rest
  let (text, after, closed) := delimited mark isPattern (rest.length + 1) [] rest
  advance after
  return if closed then some text else none

/-- An expression that matches no line feed except where it names it. -/
def withinLine : Regex → Regex
  | .any => .set ⟨true, [('\n', '\n')]⟩
  | .set s => .set (if s.negated then { s with ranges := ('\n', '\n') :: s.ranges } else s)
  | .group n r => .group n (withinLine r)
  | .seq a b => .seq (withinLine a) (withinLine b)
  | .alt a b => .alt (withinLine a) (withinLine b)
  | .rep r least most => .rep (withinLine r) least most
  | r => r

def pattern
    (text : Octets)
    (foldCase multiline : Bool) :
    Scan (Option Pattern) := do
  if text.isEmpty then
    if foldCase || multiline then fail .modifiedEmpty else return none
  else
    let style := if (← get).reading.extended then RegexStyle.editExtended else RegexStyle.editBasic
    match Regex.parse style (expandPattern (text.length + 1) text) with
    | .ok (r, groups) =>
        return some ⟨if multiline then withinLine r else r, groups, foldCase, multiline⟩
    | .error e => fail (.regex e)

/-! ## Addresses -/

/-- The letters behind an expression that selects lines. -/
def addressFlags : Nat → Bool → Bool → Scan (Bool × Bool)
  | 0, foldCase, multiline => return (foldCase, multiline)
  | fuel + 1, foldCase, multiline => do
      match ← takeNonBlank with
      | some 'I' => addressFlags fuel true multiline
      | some 'M' => addressFlags fuel foldCase true
      | c => do
          back c
          return (foldCase, multiline)

/-- Reads an address that starts with a character, if there is one. -/
def address? (c : Option Char) : Scan (Option RangeEnd) := do
  match c with
  | some '$' => return some (.at_ .last)
  | some '+' => return some (.further (← number (← takeNonBlank)))
  | some '~' => return some (.multiple (← number (← takeNonBlank)))
  | some '/' => matching '/'
  | some '\\' =>
      match ← take with
      | some mark => matching mark
      | none => fail .openAddress
  | some d =>
      if !d.isDigit then return none
      else
        let first ← number c
        match ← takeNonBlank with
        | some '~' => do
            let step ← number (← takeNonBlank)
            return some (.at_ (if step = 0 then .line first else .every first step))
        | e => do
            back e
            return some (.at_ (.line first))
  | none => return none
where
  /-- Reads an expression up to a mark. -/
  matching (mark : Char) : Scan (Option RangeEnd) := do
    match ← upTo mark true with
    | none => fail .openAddress
    | some text => do
        let (foldCase, multiline) ← addressFlags ((← get).rest.length + 1) false false
        return some (.at_ (.matching (← pattern text foldCase multiline)))

/-- Whether a range may start before the first line. -/
def mayStartAtZero : Option RangeEnd → Bool
  | some (.at_ (.matching _)) => true
  | _ => false

/-- Reads the addresses in front of a command, and the first character of the command. -/
def selection (c : Option Char) : Scan (Selection × Option Char) := do
  let (first, last, next) ← match ← address? c with
    | none => pure (none, none, c)
    | some (.at_ a) => do
        match ← takeNonBlank with
        | some ',' => do
            match ← address? (← takeNonBlank) with
            | none => fail .unexpectedComma
            | some e => pure (some a, some e, ← takeNonBlank)
        | d => pure (some a, none, d)
    | some _ => fail .relativeFirst
  match first with
  | some (.line 0) => if !mayStartAtZero last then fail .lineZero
  | _ => pure ()
  if next = some '!' then
    match ← takeNonBlank with
    | some '!' => fail .manyNegations
    | d => return (⟨first, last, true⟩, d)
  else return (⟨first, last, false⟩, next)

/-! ## Texts -/

/-- Gives a step the text it puts in. -/
def setText
    (index : Nat)
    (raw : Octets) :
    Scan Unit :=
  modify fun d =>
    let text := expandText (raw.length + 1) raw
    let filled (c : Command) : Command := match c with
      | .append _ => .append text
      | .insert _ => .insert text
      | .change _ => .change text
      | .run _ => .run text
      | other => other
    let set_ (s : Step) : Step := { s with command := filled s.command }
    { d with pending := none, steps := d.steps.modify index set_ }

/-- Reads the lines of a text, behind what was read, which is held in reverse. -/
def textLines
    (index : Nat) :
    Nat → Octets → Scan Unit
  | 0, done => setText index done.reverse
  | fuel + 1, done => do
      match ← take with
      | none => setText index ('\n' :: done).reverse
      | some '\n' => setText index ('\n' :: done).reverse
      | some '\\' => do
          match ← take with
          | none => modify fun d => { d with pending := some (index, '\n' :: done) }
          | some c => textLines index fuel (c :: '\\' :: done)
      | some c => textLines index fuel (c :: done)

/-- Reads a text for a step, behind what was read of it in another origin. -/
def textFor
    (index : Nat)
    (before : Octets) :
    Scan Unit := do
  textLines index ((← get).rest.length + 1) before

/-- Reads the text of a step that was just added; `c` is its first character. -/
def text (c : Option Char) : Scan Unit := do
  let index := (← get).steps.size - 1
  match c with
  | none => fail .noText
  | some '\\' => do
      match ← take with
      | none => modify fun d => { d with pending := some (index, []) }
      | some '\n' => textFor index []
      | some '\\' => do
          back (some '\\')
          textFor index []
      | some d => textFor index [d]
  | some '\n' => do
      back c
      textFor index []
  | some d => do
      back (some d)
      textFor index []

/-! ## Commands -/

/-- The letters behind a substitution. -/
structure Flags where
  which : Nat
  all : Bool
  print : Bool
  runs : Bool
  foldCase : Bool
  multiline : Bool
  file : Option Octets
  deriving DecidableEq, Repr, Inhabited

/-- Forbids a command that reaches beyond the lines. -/
def requireFreedom : Scan Unit := do
  if (← get).reading.sandboxed then fail .sandboxed

/-- Reads the letters behind a substitution. -/
def flags : Nat → Flags → Scan Flags
  | 0, f => return f
  | fuel + 1, f => do
      match ← take with
      | none => return f
      | some c =>
          match c with
          | '\n' => return f
          | ';' => return f
          | '\x7d' => do
              back (some c)
              return f
          | '#' => do
              back (some c)
              return f
          | 'i' => flags fuel { f with foldCase := true }
          | 'I' => flags fuel { f with foldCase := true }
          | 'm' => flags fuel { f with multiline := true }
          | 'M' => flags fuel { f with multiline := true }
          | 'e' => do
              requireFreedom
              flags fuel { f with runs := true }
          | 'p' => if f.print then fail .manyPrints else flags fuel { f with print := true }
          | 'g' => if f.all then fail .manyGlobals else flags fuel { f with all := true }
          | 'w' => do
              requireFreedom
              return { f with file := some (← outputPath) }
          | _ =>
              if isBlank c then flags fuel f
              else if c.isDigit then
                if f.which ≠ 0 then fail .manyNumbers
                else
                  let n ← number (some c)
                  if n = 0 then fail .zeroNumber else flags fuel { f with which := n }
              else fail .unknownFlag

def substitution : Scan Command := do
  match ← take with
  | none => fail .openSubstitution
  | some mark => do
      match ← upTo mark true with
      | none => fail .openSubstitution
      | some text => do
          match ← upTo mark false with
          | none => fail .openSubstitution
          | some new => do
              let parts := replacement new
              let f ← flags ((← get).rest.length + 2) ⟨0, false, false, false, false, false, none⟩
              let p ← pattern text f.foldCase f.multiline
              let greatest := greatestGroup parts
              if p.any fun q => decide (q.groups < greatest) then fail (.badReference greatest)
              return .substitute ⟨p, parts, f.which, f.all, f.runs, f.print, f.file⟩

def translation : Scan Command := do
  match ← take with
  | none => fail .openTranslation
  | some mark => do
      match ← upTo mark false with
      | none => fail .openTranslation
      | some source => do
          match ← upTo mark false with
          | none => fail .openTranslation
          | some target => do
              let a := translated (source.length + 1) source
              let b := translated (target.length + 1) target
              if a.length ≠ b.length then fail .unequalLengths
              endOfCommand
              return .translate (a.zip b)

def add
    (s : Selection)
    (c : Command) :
    Scan Unit :=
  modify fun d => { d with steps := d.steps.push ⟨s, c⟩ }

/-- Adds a step that has nothing behind its letter. -/
def addPlain
    (s : Selection)
    (c : Command) :
    Scan Unit := do
  endOfCommand
  add s c

/-- The number behind a letter. -/
def count? : Scan (Option Nat) := do
  let c ← takeNonBlank
  let n? ← if c.any Char.isDigit then (do return some (← number c))
    else do
      back c
      pure none
  endOfCommand
  return n?

/-- Passes a comment. At the very start, the letter behind the mark may keep lines from being shown. -/
def comment : Scan Unit := do
  let isFirst := (← get).fresh && (← get).taken = 1
  let body ← takeAll (· ≠ '\n')
  let _ ← take
  if isFirst && body.head? = some 'n' then modify fun d => { d with quiet := true }

/-- Requires that a command has at most one address. -/
def requireOne (s : Selection) : Scan Unit := do
  if s.last.isSome then fail .oneAddress

def closeBlock (s : Selection) : Scan Unit := do
  match (← get).blocks with
  | [] => fail .closeBlock
  | (index, _) :: others => do
      if s.first.isSome then fail .closeAddress
      endOfCommand
      modify fun d =>
        let here := d.steps.size
        { d with
          blocks := others
          steps := (d.steps.modify index fun b => { b with command := .open_ here }).push
            ⟨s, .close⟩ }

def command
    (s : Selection)
    (c : Char) :
    Scan Unit := do
  match c with
  | '#' => if s.first.isSome then fail .commentAddress else comment
  | ':' => do
      if s.first.isSome then fail .labelAddress
      let name ← label
      if name.isEmpty then fail .noLabel
      modify fun d => { d with labels := (name, d.steps.size) :: d.labels }
      add s .mark
  | '\x7b' => do
      let d ← get
      set { d with blocks := (d.steps.size, d.origin, d.line) :: d.blocks }
      add s (.open_ 0)
  | '\x7d' => closeBlock s
  | '=' => addPlain s .sayNumber
  | 'a' => withText (.append [])
  | 'i' => withText (.insert [])
  | 'c' => withText (.change [])
  | 'b' => do add s (.jump (← label))
  | 't' => do add s (.jumpIf true (← label))
  | 'T' => do add s (.jumpIf false (← label))
  | 'd' => addPlain s .delete
  | 'D' => addPlain s .deleteFirst
  | 'e' => do
      requireFreedom
      match ← takeNonBlank with
      | none => add s (.run [])
      | some '\n' => add s (.run [])
      | d => do
          add s (.run [])
          text d
  | 'F' => addPlain s .sayName
  | 'g' => addPlain s .take
  | 'G' => addPlain s .takeMore
  | 'h' => addPlain s .keep
  | 'H' => addPlain s .keepMore
  | 'x' => addPlain s .exchange
  | 'l' => do add s (.list (← count?))
  | 'n' => addPlain s .next
  | 'N' => addPlain s .nextMore
  | 'p' => addPlain s .print
  | 'P' => addPlain s .printFirst
  | 'q' => do
      requireOne s
      add s (.quit false ((← count?).getD 0))
  | 'Q' => do
      requireOne s
      add s (.quit true ((← count?).getD 0))
  | 'r' => do
      requireFreedom
      add s (.readFile (← path))
  | 'R' => do
      requireFreedom
      add s (.readLine (← path))
  | 's' => do add s (← substitution)
  | 'v' => do
      let wanted ← label
      if VersionOrder.compare wanted "4.9".toList = .gt then fail .newerVersion
  | 'w' => do
      requireFreedom
      add s (.write (← outputPath))
  | 'W' => do
      requireFreedom
      add s (.writeFirst (← outputPath))
  | 'y' => do add s (← translation)
  | 'z' => addPlain s .clear
  | _ => fail (.unknownCommand c)
where
  /-- Adds a command that puts in a text. -/
  withText (empty_ : Command) : Scan Unit := do
    let d ← takeNonBlank
    if d.isNone then fail .noText
    add s empty_
    text d

/-- Reads the next step; there is none at the end. -/
def step : Scan Bool := do
  let _ ← takeAll fun c => isSpace c || c = ';'
  match ← take with
  | none => return false
  | c => do
      let (s, next) ← selection c
      match next with
      | none => fail .noCommand
      | some d => do
          command s d
          return true

def steps : Nat → Scan Unit
  | 0 => pure ()
  | fuel + 1 => do
      if ← step then steps fuel

def part
    (reading : Reading)
    (origin : Origin)
    (source : Octets) :
    Scan Unit := do
  modify fun d =>
    { d with reading := reading, origin := origin, rest := source, taken := 0, line := 1 }
  match (← get).pending with
  | some (index, before) => textFor index before
  | none => pure ()
  steps (source.length + 1)
  modify fun d => { d with fresh := false }

/-- Ends the reading: a text that was to go on is all there is, and no block may be open. -/
def finish : Scan Unit := do
  match (← get).pending with
  | some (index, before) => setText index before.reverse
  | none => pure ()
  match (← get).blocks with
  | [] => pure ()
  | (_, origin, line) :: _ =>
      throw ⟨.openBlock, origin, match origin with
        | .expression _ => 0
        | .file _ => line⟩

end Scan

/-- The desk before anything was read. -/
def Desk.empty : Desk :=
  ⟨⟨false, false⟩, .expression 0, [], 0, 0, #[], [], [], none, [], false, true⟩

def Desk.script (d : Desk) : Script :=
  ⟨d.steps, d.labels, d.files, d.quiet⟩

/-- Reads a script from its parts. The files to write are known even if there is a fault. -/
def Script.read (parts : List (Reading × Origin × Octets)) : Except ScriptError Unit × Script :=
  let body : Scan Unit := do
    parts.forM fun p => Scan.part p.1 p.2.1 p.2.2
    Scan.finish
  let (result, d) := (ExceptT.run body).run Desk.empty
  (result, d.script)

end Editing
end Tool
end Runbook
