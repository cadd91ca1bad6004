import Runbook.Number.Reading
import Runbook.Regex.Matching
import Runbook.Tool.Input
import Runbook.Tool.Options

/-!
# The layout of lines

The tools that break long lines, that write tabs as blanks or blanks as tabs, and that write numbers
before lines.
-/

namespace Runbook
namespace Tool

/-! ## Breaking lines -/

/-- The column behind a character. -/
def columnAfter
    (bytes : Bool)
    (column : Nat)
    (c : Char) :
    Nat :=
  if bytes then column + 1
  else
    match c with
    | '\x08' => column - 1
    | '\r' => 0
    | '\t' => (column / 8 + 1) * 8
    | _ => column + 1

def columnBehind
    (bytes : Bool)
    (s : Octets) :
    Nat :=
  s.foldl (columnAfter bytes) 0

/-- The pieces of a line of at most some width; `row` is the piece begun, in reverse. -/
def breakLine
    (bytes atBlanks : Bool)
    (width : Nat) :
    Nat → Octets → Octets → List Octets
  | 0, row, _ => [row.reverse]
  | _, row, [] => if row.isEmpty then [] else [row.reverse]
  | fuel + 1, row, c :: s =>
      let column := columnBehind bytes row.reverse
      if width < columnAfter bytes column c && !row.isEmpty then
        let tail := row.takeWhile fun d => !(d = ' ' || d = '\t')
        if atBlanks && tail.length < row.length then
          (row.drop tail.length).reverse :: breakLine bytes atBlanks width fuel tail (c :: s)
        else row.reverse :: breakLine bytes atBlanks width fuel [] (c :: s)
      else breakLine bytes atBlanks width fuel (c :: row) s

/-- Breaks lines that are too long. -/
def fold : Tool :=
  simple 1 fun words => do
    let words := match words with
      | ('-' :: c :: s) :: rest =>
          if (c :: s).all Char.isDigit then "-w".toList :: (c :: s) :: rest else words
      | _ => words
    let a ← Work.arguments
      [flag "b" ["bytes"], flag "s" ["spaces"], valued "w" ["width"]] 1 words
    let width ← match a.value? "w" with
      | none => pure 80
      | some word =>
          match digitsIn? 10 word with
          | some n =>
              if n = 0 then
                Work.fail 1 ("invalid number of columns: ".toList ++ Quoting.plain word
                  ++ ": Numerical result out of range".toList)
              else pure n
          | none => Work.fail 1 ("invalid number of columns: ".toList ++ Quoting.plain word)
    let step (_ : Unit) (text : Octets) (ended : Bool) : Work (Unit × Bool) := do
      let pieces := breakLine (a.has "b") (a.has "s") width (2 * text.length + 2) [] text
      Work.say (Octets.intercalate ['\n'] pieces ++ if ended then ['\n'] else [])
      return ((), true)
    Work.foldFiles '\n' step () (Work.inputs a.operands)

/-! ## Tabs -/

/-- Where tabs lead: to multiples of a number, or to listed columns. -/
inductive TabStops where
  | every (n : Nat)
  | listed (columns : List Nat)
  deriving DecidableEq, Repr, Inhabited

/-- The next tab stop behind a column. -/
def TabStops.next? : TabStops → Nat → Option Nat
  | .every n, column => some ((column / n + 1) * n)
  | .listed columns, column => columns.find? fun c => column < c

def readTabs (word : Octets) : Work TabStops := do
  let items := ((Octets.splitOn ',' (word.map fun c => if c = ' ' || c = '\t' then ',' else c)).filter
    fun s => !s.isEmpty)
  let columns ← items.mapM fun item => do
    match digitsIn? 10 item with
    | some n => return n
    | none =>
        Work.fail 1 ("tab size contains invalid character(s): ".toList
          ++ Quoting.plain (item.dropWhile Char.isDigit))
  if columns.contains 0 then Work.failText 1 "tab size cannot be 0"
  match columns with
  | [] => return .every 8
  | [n] => return .every n
  | _ =>
      if (columns.zip (columns.drop 1)).any fun e => decide (e.2 ≤ e.1) then
        Work.failText 1 "tab sizes must be ascending"
      else return .listed columns

/-- A line with blanks for tabs; only those at its start if `initial` is set. -/
def expandTabs
    (stops : TabStops)
    (initial : Bool) :
    Nat → Bool → Octets → Octets
  | _, _, [] => []
  | column, leading, c :: s =>
      let stays := leading || !initial
      if c = '\t' && stays then
        let next := (stops.next? column).getD (column + 1)
        List.replicate (next - column) ' ' ++ expandTabs stops initial next leading s
      else
        let column' := if c = '\x08' then column - 1 else column + 1
        c :: expandTabs stops initial column' (leading && c = ' ') s

/-- The options for tab stops, where a number alone may stand behind the dash. -/
def tabWords : List Octets → List Octets
  | ('-' :: c :: s) :: rest =>
      if c.isDigit && (c :: s).all fun d => d.isDigit || d = ',' then
        "-t".toList :: (c :: s) :: rest
      else ('-' :: c :: s) :: rest
  | words => words

/-- Writes blanks for tabs. -/
def expand : Tool :=
  simple 1 fun words => do
    let a ← Work.arguments [flag "i" ["initial"], valued "t" ["tabs"]] 1 (tabWords words)
    let stops ← match a.value? "t" with
      | some word => readTabs word
      | none => pure (.every 8)
    let step (_ : Unit) (text : Octets) (ended : Bool) : Work (Unit × Bool) := do
      Work.say (expandTabs stops (a.has "i") 0 true text ++ if ended then ['\n'] else [])
      return ((), true)
    Work.foldFiles '\n' step () (Work.inputs a.operands)

/-- Blanks that lead from one column to another, with tabs as far as they go. -/
def blanksTo
    (stops : TabStops) :
    Nat → Nat → Nat → Octets
  | 0, _, _ => []
  | fuel + 1, from_, to_ =>
      match stops.next? from_ with
      | some next =>
          if next ≤ to_ && from_ < next then '\t' :: blanksTo stops fuel next to_
          else List.replicate (to_ - from_) ' '
      | none => List.replicate (to_ - from_) ' '

/-- A line with tabs for blanks; behind its start only if `all` is set. `blanks` tells how many
characters were held back and from which column on. -/
def packTabs
    (stops : TabStops)
    (all : Bool) :
    Nat → Bool → Octets → Octets → Octets
  | _, _, held, [] => held.reverse
  | column, leading, held, c :: s =>
      let packs := leading || all
      if packs && (c = ' ' || c = '\t') then
        let next := if c = '\t' then (stops.next? column).getD (column + 1) else column + 1
        let atStop := stops.next? (next - 1) = some next
        let isLone := held.isEmpty && c = ' ' && !(s.head? = some ' ' || s.head? = some '\t')
        if c = '\t' || (atStop && !(isLone && !leading)) then
          '\t' :: packTabs stops all next leading [] s
        else packTabs stops all next leading (c :: held) s
      else
        held.reverse ++ c :: packTabs stops all (if c = '\x08' then column - 1 else column + 1)
          false [] s

/-- Writes tabs for blanks. -/
def unexpand : Tool :=
  simple 1 fun words => do
    let a ← Work.arguments
      [flag "a" ["all"], flag "first" ["first-only"], valued "t" ["tabs"]] 1 (tabWords words)
    let stops ← match a.value? "t" with
      | some word => readTabs word
      | none => pure (.every 8)
    let all := (a.has "a" || a.has "t") && !a.has "first"
    let step (_ : Unit) (text : Octets) (ended : Bool) : Work (Unit × Bool) := do
      Work.say (packTabs stops all 0 true [] text ++ if ended then ['\n'] else [])
      return ((), true)
    Work.foldFiles '\n' step () (Work.inputs a.operands)

/-!
## Numbered lines

The tool that writes numbers before the lines of a text. A text may have pages of a header, a body and
a footer, each behind a line of marks.
-/

namespace Numbered

/-- Which lines are numbered. -/
inductive Which where
  | all
  | filled
  | none
  | matching (r : Regex)
  deriving Repr, Inhabited

def Which.has
    (w : Which)
    (line : Octets) :
    Bool :=
  match w with
  | .all => true
  | .filled => !line.isEmpty
  | .none => false
  | .matching r => r.occurs (Regex.subject false line)

/-- A part of a page. -/
inductive Section where
  | header
  | body
  | footer
  deriving DecidableEq, Repr, Inhabited

/-- How lines are numbered. -/
structure Style where
  header : Which
  body : Which
  footer : Which
  first : Int
  step : Int
  join : Nat
  separator : Octets
  width : Nat
  left : Bool
  zeros : Bool
  keeps : Bool
  marks : Octets
  deriving Repr, Inhabited

/-- Where in a text the work is. -/
structure Place where
  section_ : Section
  number : Int
  empties : Nat
  deriving Repr, Inhabited

/-- The lines that are numbered in a part. -/
def Style.which
    (s : Style)
    (section_ : Section) :
    Which :=
  match section_ with
  | .header => s.header
  | .body => s.body
  | .footer => s.footer

/-- A number as it stands before a line. -/
def Style.number
    (s : Style)
    (n : Int) :
    Octets :=
  let text := Octets.ofInt n
  if s.left then Octets.padRight s.width text
  else if s.zeros then
    if n < 0 then '-' :: Octets.padLeft (s.width - 1) '0' (Octets.ofNat n.natAbs)
    else Octets.padLeft s.width '0' text
  else Octets.padLeft s.width ' ' text

/-- The part of a page that a line of marks begins. -/
def Style.section?
    (s : Style)
    (line : Octets) :
    Option Section :=
  if s.marks.isEmpty then .none
  else if line = s.marks ++ s.marks ++ s.marks then some .header
  else if line = s.marks ++ s.marks then some .body
  else if line = s.marks then some .footer
  else .none

/-- A line as it is written, and the place behind it. -/
def Style.line
    (s : Style)
    (at_ : Place)
    (line : Octets) :
    Octets × Place :=
  match s.section? line with
  | some section_ =>
      let restarts := !s.keeps && (section_ = .header)
      (['\n'], ⟨section_, if restarts then s.first else at_.number, 0⟩)
  | .none =>
      let w := s.which at_.section_
      let empties := if line.isEmpty then at_.empties + 1 else 0
      let isDue := match w with
        | .all => !line.isEmpty || s.join ≤ empties
        | _ => w.has line
      if isDue then
        (s.number at_.number ++ s.separator ++ line ++ ['\n'],
          ⟨at_.section_, at_.number + s.step, 0⟩)
      else
        (List.replicate (s.width + s.separator.length) ' ' ++ line ++ ['\n'],
          { at_ with empties := empties })

/-- Which lines a word asks for. -/
def readWhich
    (what : String)
    (word : Octets) :
    Work Which := do
  match word with
  | 'a' :: _ => return .all
  | 't' :: _ => return .filled
  | 'n' :: _ => return .none
  | 'p' :: pattern =>
      match Regex.parse .basic pattern with
      | .ok (r, _) => return .matching r
      | .error e => Work.failText 1 e.message
  | _ =>
      Work.misuse 1 ("invalid ".toList ++ what.toList ++ " numbering style: ".toList
        ++ Quoting.plain word)

def forms : List OptionForm :=
  [ valued "b" ["body-numbering"], valued "h" ["header-numbering"],
    valued "f" ["footer-numbering"], valued "v" ["starting-line-number"],
    valued "i" ["line-increment"], flag "p" ["no-renumber"], valued "l" ["join-blank-lines"],
    valued "s" ["number-separator"], valued "w" ["number-width"], valued "n" ["number-format"],
    valued "d" ["section-delimiter"] ]

def numberOf
    (a : Arguments)
    (key what : String)
    (least default : Int) :
    Work Int := do
  match a.value? key with
  | none => return default
  | some word =>
      let wrong {α : Type} : Work α :=
        Work.fail 1 ("invalid ".toList ++ what.toList ++ ": ".toList ++ Quoting.plain word)
      match leadingDecimal? word with
      | some (n, []) =>
          if n < least then do
            Work.fail 1 ("invalid ".toList ++ what.toList ++ ": ".toList ++ Quoting.plain word
              ++ ": Numerical result out of range".toList)
          else return n
      | _ => wrong

/-- The style that options ask for. -/
def styleOf (a : Arguments) : Work Style := do
  let which (key what : String) (default : Which) : Work Which := do
    match a.value? key with
    | none => return default
    | some word => readWhich what word
  let format ← match a.value? "n" with
    | none => pure "rn"
    | some word =>
        let name := String.ofList word
        if name = "ln" || name = "rn" || name = "rz" then pure name
        else Work.misuse 1 ("invalid line numbering format: ".toList ++ Quoting.plain word)
  return {
    header := ← which "h" "header" .none
    body := ← which "b" "body" .filled
    footer := ← which "f" "footer" .none
    first := ← numberOf a "v" "starting line number" (-(Nat.pow 2 63 : Int)) 1
    step := ← numberOf a "i" "line number increment" (-(Nat.pow 2 63 : Int)) 1
    join := (← numberOf a "l" "line number of blank lines" 1 1).toNat
    separator := (a.value? "s").getD ['\t']
    width := (← numberOf a "w" "line number field width" 1 6).toNat
    left := format = "ln"
    zeros := format = "rz"
    keeps := a.has "p"
    marks := match a.value? "d" with
      | some [c] => [c, ':']
      | some word => word
      | none => "\\:".toList }

/-- Numbers lines. -/
def tool : Tool :=
  simple 1 fun words => do
    let a ← Work.arguments forms 1 words
    let style ← styleOf a
    let step (at_ : Place) (text : Octets) (_ : Bool) : Work (Place × Bool) := do
      let (shown, next) := style.line at_ text
      Work.say shown
      return (next, true)
    let _ ← Work.foldFiles '\n' step ⟨.body, style.first, 0⟩ (Work.inputs a.operands)

end Numbered

end Tool
end Runbook
