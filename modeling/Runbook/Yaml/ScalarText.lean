import Runbook.Yaml.Property
import Runbook.Number.Reading

/-!
# The text of YAML scalars

Plain, quoted and block scalars, each read from a cursor. Lines are folded as YAML prescribes: one
break between two words counts as a space, further breaks are kept.
-/

namespace Runbook
namespace Yaml

/-- What stands between two words of a plain or quoted scalar: blanks of one line, or a first break
and those after it. -/
structure Gap where
  blanks : List Char
  broken : Bool
  firstBreak : List Char
  moreBreaks : List Char
  deriving Repr, Inhabited

namespace Gap

def none : Gap :=
  ⟨[], false, [], []⟩

/-- The gap that an escaped break starts. -/
def escaped : Gap :=
  ⟨[], true, [], []⟩

def text (g : Gap) : List Char :=
  if !g.broken then g.blanks
  else if g.firstBreak = ['\n'] then
    if g.moreBreaks.isEmpty then [' '] else g.moreBreaks
  else g.firstBreak ++ g.moreBreaks

/-- Reads blanks and breaks. A tab left of `margin` on a line of its own is refused. -/
def read
    (margin : Nat) :
    Nat → Gap → Cursor → Option (Gap × Cursor)
  | 0, _, _ => .none
  | fuel + 1, g, c =>
      match c.rest with
      | ch :: _ =>
          if isGap ch then
            if g.broken && c.column < margin && ch = '\t' then .none
            else if g.broken then read margin fuel g (c.advance 1)
            else read margin fuel { g with blanks := g.blanks ++ [ch] } (c.advance 1)
          else if isBreak ch then
            let (kept, next) := c.takeBreak
            if g.broken then
              read margin fuel { g with moreBreaks := g.moreBreaks ++ kept } next
            else
              read margin fuel ⟨[], true, kept, g.moreBreaks⟩ next
          else
            some (g, c)
      | [] => some (g, c)

end Gap

/-! ## Plain scalars -/

/-- The characters that end a plain scalar inside brackets. -/
def isFlowIndicator (c : Char) : Bool :=
  c = ',' || c = '[' || c = ']' || c = '\x7b' || c = '\x7d'

/-- The next word of a plain scalar; a colon with nothing attached ends it. -/
def plainWord
    (inFlow : Bool) :
    List Char → Option (List Char)
  | [] => some []
  | c :: s =>
      if isGap c || isBreak c then some []
      else if inFlow && c = ':' && s.head?.any (fun d => isFlowIndicator d || d = '?') then none
      else if c = ':' && endsWord s then some []
      else if inFlow && isFlowIndicator c then some []
      else (plainWord inFlow s).map (c :: ·)

/-- A plain scalar from its next word on: its text, whether it ended on a later line than its last
word, and where. Outside brackets its lines stay right of `margin`. -/
def readPlain
    (inFlow : Bool)
    (margin : Nat) :
    Nat → Gap → List Char → Cursor → Option (List Char × Bool × Cursor)
  | 0, _, _, _ => none
  | fuel + 1, g, text, c =>
      if c.atDocumentMark || c.sees (· = '#') then
        some (text, g.broken, c)
      else
        match plainWord inFlow c.rest with
        | none => none
        | some word =>
            let afterWord := c.advance word.length
            let joined := if word.isEmpty then text else text ++ g.text ++ word
            let pending := if word.isEmpty then g else Gap.none
            if afterWord.sees fun ch => isGap ch || isBreak ch then
              match Gap.read margin (afterWord.rest.length + 1) pending afterWord with
              | none => none
              | some (gap, next) =>
                  if !inFlow && next.column < margin then some (joined, gap.broken, next)
                  else readPlain inFlow margin fuel gap joined next
            else
              some (joined, pending.broken, afterWord)

/-! ## Quoted scalars -/

/-- The character written by `n` digits of base sixteen, and the text after them. -/
def hexEscape?
    (n : Nat)
    (s : List Char) :
    Option (Char × List Char) :=
  let digits := s.take n
  if digits.length < n then
    none
  else
    match digitsIn? 16 digits with
    | some code =>
        if (0xd800 ≤ code && code ≤ 0xdfff) || 0x10ffff < code then none
        else some (Char.ofNat code, s.drop n)
    | none => none

/-- The character of an escape after its backslash, and the text after it. -/
def escapeChar? : List Char → Option (Char × List Char)
  | '0' :: s => some ('\x00', s)
  | 'a' :: s => some ('\x07', s)
  | 'b' :: s => some ('\x08', s)
  | 't' :: s => some ('\t', s)
  | '\t' :: s => some ('\t', s)
  | 'n' :: s => some ('\n', s)
  | 'v' :: s => some ('\x0b', s)
  | 'f' :: s => some ('\x0c', s)
  | 'r' :: s => some ('\r', s)
  | 'e' :: s => some ('\x1b', s)
  | ' ' :: s => some (' ', s)
  | '"' :: s => some ('"', s)
  | '/' :: s => some ('/', s)
  | '\\' :: s => some ('\\', s)
  | 'N' :: s => some ('\u0085', s)
  | '_' :: s => some ('\u00a0', s)
  | 'L' :: s => some ('\u2028', s)
  | 'P' :: s => some ('\u2029', s)
  | 'x' :: s => hexEscape? 2 s
  | 'u' :: s => hexEscape? 4 s
  | 'U' :: s => hexEscape? 8 s
  | _ => none

/-- The next word of a quoted scalar and the text from its end on: a blank, a break, an escaped
break, the closing mark or the end of the stream. -/
def quotedWord
    (mark : Char) :
    Nat → List Char → Option (List Char × List Char)
  | 0, _ => none
  | _, [] => some ([], [])
  | fuel + 1, c :: s =>
      if isGap c || isBreak c then some ([], c :: s)
      else if c = mark then
        match mark, s with
        | '\'', '\'' :: t => (quotedWord mark fuel t).map fun p => ('\'' :: p.1, p.2)
        | _, _ => some ([], c :: s)
      else if mark = '"' && c = '\\' then
        if s.head?.any isBreak then some ([], c :: s)
        else
          match escapeChar? s with
          | none => none
          | some (ch, t) => (quotedWord mark fuel t).map fun p => (ch :: p.1, p.2)
      else
        (quotedWord mark fuel s).map fun p => (c :: p.1, p.2)

/-- A quoted scalar after its opening mark: its text and the place after its closing mark. -/
def readQuoted
    (mark : Char) :
    Nat → List Char → Cursor → Option (List Char × Cursor)
  | 0, _, _ => none
  | fuel + 1, text, c =>
      if c.atDocumentMark || c.rest.isEmpty then
        none
      else
        match quotedWord mark (c.rest.length + 1) c.rest with
        | none => none
        | some (word, rest) =>
            let afterWord := c.advance (c.rest.length - rest.length)
            let start : Gap × Cursor := match rest with
              | '\\' :: _ => (Gap.escaped, (afterWord.advance 1).takeBreak.2)
              | _ => (Gap.none, afterWord)
            if start.2.sees (· = mark) then
              some (text ++ word, start.2.advance 1)
            else
              match Gap.read 0 (start.2.rest.length + 1) start.1 start.2 with
              | none => none
              | some (gap, next) => readQuoted mark fuel (text ++ word ++ gap.text) next

/-! ## Block scalars -/

/-- What becomes of the breaks at the end of a block scalar. -/
inductive Chomping where
  | strip
  | clip
  | keep
  deriving DecidableEq, Repr, Inhabited

/-- The sign that stands for a way of chomping. -/
def Chomping.ofChar? : Char → Option Chomping
  | '+' => some .keep
  | '-' => some .strip
  | _ => none

/-- The hints after the indicator of a block scalar: chomping and an indentation from one to nine,
in either order. -/
def blockHints (s : List Char) : Option (Chomping × Nat × Nat) :=
  match s with
  | [] => some (.clip, 0, 0)
  | c :: t =>
      match Chomping.ofChar? c with
      | some chomping =>
          match t with
          | d :: _ =>
              if !isDigit d then some (chomping, 0, 1)
              else if d = '0' then none
              else some (chomping, d.toNat - 48, 2)
          | [] => some (chomping, 0, 1)
      | none =>
          if !isDigit c then some (.clip, 0, 0)
          else if c = '0' then none
          else
            match t.head?.bind Chomping.ofChar? with
            | some chomping => some (chomping, c.toNat - 48, 2)
            | none => some (.clip, c.toNat - 48, 1)

/-- Passes indentation and empty lines: their breaks, the widest indentation met and the place
reached. An indentation of zero means that it is not known yet. -/
def readBlockBreaks
    (indent : Nat) :
    Nat → Nat → List Char → Cursor → Option (List Char × Nat × Cursor)
  | 0, _, _, _ => none
  | fuel + 1, widest, breaks, c =>
      let spaces := (c.rest.takeWhile (· = ' ')).length
      let passed := if indent = 0 then spaces else min spaces (indent - c.column)
      let next := c.advance passed
      let widest := max widest next.column
      if (indent = 0 || next.column < indent) && next.sees (· = '\t') then
        none
      else if next.sees isBreak then
        let (kept, after) := next.takeBreak
        readBlockBreaks indent fuel widest (breaks ++ kept) after
      else
        some (breaks, widest, next)

/-- The lines of a block scalar being read: the text so far, the break that ended the last line,
the breaks of empty lines after it, and whether it started with a blank. -/
structure BlockLines where
  text : List Char
  lineBreak : List Char
  emptyLines : List Char
  startedBlank : Bool
  deriving Repr, Inhabited

/-- The text up to the line that starts here. In a folded scalar a break between two lines that
start with no blank is folded. -/
def BlockLines.joined
    (b : BlockLines)
    (folded startsBlank : Bool) :
    List Char :=
  if folded && b.lineBreak = ['\n'] && !b.startedBlank && !startsBlank then
    b.text ++ (if b.emptyLines.isEmpty then [' '] else []) ++ b.emptyLines
  else
    b.text ++ b.lineBreak ++ b.emptyLines

/-- Reads the lines of a block scalar while they reach its indentation. -/
def readBlockLines
    (folded : Bool)
    (indent : Nat) :
    Nat → BlockLines → Cursor → Option (BlockLines × Cursor)
  | 0, _, _ => none
  | fuel + 1, b, c =>
      if c.column ≠ indent || c.rest.isEmpty then
        some (b, c)
      else
        let startsBlank := c.sees isGap
        let (line, lineEnd) := c.takeWhile fun ch => !isBreak ch
        let (lineBreak, next) := lineEnd.takeBreak
        match readBlockBreaks indent (next.rest.length + 1) 0 [] next with
        | none => none
        | some (emptyLines, _, after) =>
            let text := b.joined folded startsBlank ++ line
            readBlockLines folded indent fuel ⟨text, lineBreak, emptyLines, startsBlank⟩ after

/-- A block scalar after its indicator: its text and the place after it. `level` is the column right
of the indentation of the enclosing block. -/
def readBlock
    (folded : Bool)
    (level : Nat)
    (c : Cursor) :
    Option (List Char × Cursor) :=
  match blockHints c.rest with
  | none => none
  | some (chomping, increment, width) =>
      let header := ((c.advance width).dropWhile isGap).dropComment
      if !header.atLineEnd then
        none
      else
        let start := header.takeBreak.2
        let given := if increment = 0 then 0 else (level - 1) + increment
        match readBlockBreaks given (start.rest.length + 1) 0 [] start with
        | none => none
        | some (emptyLines, widest, first) =>
            let indent := if given = 0 then max (max widest level) 1 else given
            match readBlockLines folded indent (first.rest.length + 1)
              ⟨[], [], emptyLines, false⟩ first with
            | none => none
            | some (b, last) =>
                let text := match chomping with
                  | .strip => b.text
                  | .clip => b.text ++ b.lineBreak
                  | .keep => b.text ++ b.lineBreak ++ b.emptyLines
                some (text, last)

end Yaml
end Runbook
