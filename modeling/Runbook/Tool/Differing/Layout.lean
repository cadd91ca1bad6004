import Runbook.Regex.Matching
import Runbook.Tool.Differing.Changes

/-!
# Showing differences

The changes between two files in the usual notations: as commands for lines, with lines around them, as
commands for an editor, or side by side.
-/

namespace Runbook
namespace Tool
namespace Differing

/-- A file that is compared: the name it is shown by, when it was changed, its lines without their ends,
and whether the last one has its end. -/
structure Side where
  name : Octets
  label : Option Octets
  time : Nat
  lines : Array Octets
  ended : Bool
  deriving Repr, Inhabited

/-- What white space counts for. -/
inductive Spaces where
  | all
  | tabsAsBlanks
  | notAtEnd
  | asOne
  | nothing
  deriving DecidableEq, Repr, Inhabited

/-- What lines are compared by. -/
structure Measure where
  foldCase : Bool
  tabsAsBlanks : Bool
  spaces : Spaces
  skipBlank : Bool
  skipMatching : List Regex
  stripReturns : Bool
  deriving Repr, Inhabited

/-- How lines are shown. -/
structure Look where
  tab : Bool
  expand : Bool
  tabSize : Nat
  function : Option Regex
  suppressBlank : Bool
  deriving Repr, Inhabited

/-! ## Lines -/

/-- Whether a character is white space. -/
def isSpace (c : Char) : Bool :=
  c = ' ' || ('\t' ≤ c && c ≤ '\r')

/-- A line with blanks in the place of its tabs, from a column on. -/
def expandTabs (size : Nat) : Nat → Octets → Octets
  | _, [] => []
  | column, '\t' :: s =>
      let n := size - column % size
      List.replicate n ' ' ++ expandTabs size (column + n) s
  | _, '\r' :: s => '\r' :: expandTabs size 0 s
  | column, '\x08' :: s => '\x08' :: expandTabs size (column - 1) s
  | column, c :: s => c :: expandTabs size (column + 1) s

/-- A line with one blank for each stretch of white space. -/
def joinSpaces : Octets → Octets
  | [] => []
  | c :: s =>
      let rest := joinSpaces s
      if isSpace c then (if rest.head? = some ' ' then rest else ' ' :: rest) else c :: rest

/-- A line without white space at its end. -/
def withoutEnd (s : Octets) : Octets :=
  (s.reverse.dropWhile isSpace).reverse

/-- What counts of a line. -/
def Measure.essence
    (m : Measure)
    (s : Octets) :
    Octets :=
  let plain := if m.tabsAsBlanks then expandTabs 8 0 s else s
  let spaced := match m.spaces with
    | .all => plain
    | .tabsAsBlanks => plain
    | .notAtEnd => withoutEnd plain
    | .asOne => withoutEnd (joinSpaces plain)
    | .nothing => plain.filter fun c => !isSpace c
  if m.foldCase then spaced.map Char.toLower else spaced

/-- Whether white space at the end of lines does not count. -/
def Measure.dropsEnds (m : Measure) : Bool :=
  match m.spaces with
  | .all => false
  | .tabsAsBlanks => false
  | _ => true

/-- Whether a line does not count if all lines of a change are like it. -/
def Measure.skips
    (m : Measure)
    (s : Octets) :
    Bool :=
  let isBlank :=
    if !m.skipBlank then false
    else
      match m.spaces with
      | .all => s.isEmpty
      | .tabsAsBlanks => s.isEmpty
      | _ => s.all isSpace
  isBlank || m.skipMatching.any fun r => Regex.occurs r (Regex.subject false s)

/-- What counts of each line of a file. A line without its end counts as another one than that with its
end, unless ends do not count. -/
def Side.keys
    (m : Measure)
    (complete : Bool)
    (s : Side) :
    Array (Octets × Bool) :=
  s.lines.mapIdx fun i line =>
    (m.essence line, complete || m.dropsEnds || s.ended || i + 1 ≠ s.lines.size)

/-- How many lines two lists have in common at their start. -/
def commonFront (equal : Nat → Bool) : Nat → Nat → Nat
  | 0, i => i
  | fuel + 1, i => if equal i then commonFront equal fuel (i + 1) else i

/-- The changes between two files. Lines that are the same at the start and at the end of the files are
not looked at, apart from some next to the others. -/
def changesOf
    (m : Measure)
    (complete minimal : Bool)
    (horizon : Nat)
    (a b : Side) :
    List Change :=
  let exact_ : Measure := ⟨false, false, .all, false, [], false⟩
  let plainA := a.keys exact_ complete
  let plainB := b.keys exact_ complete
  let least := min a.lines.size b.lines.size
  let front := commonFront (fun i => plainA[i]? = plainB[i]?) least 0 - horizon
  let sameEnd := complete || a.ended = b.ended
  let back :=
    if !sameEnd then 0
    else
      commonFront
        (fun i => plainA[plainA.size - 1 - i]? = plainB[plainB.size - 1 - i]?) (least - front) 0
        - horizon
  let inner (s : Side) : Array (Octets × Bool) :=
    (s.keys m complete).extract front (s.lines.size - back)
  let (xs, ys) := classify (inner a) (inner b)
  (changes minimal xs ys).map fun c => { c with left := c.left + front, right := c.right + front }

def Measure.counts
    (m : Measure)
    (a b : Side)
    (c : Change) :
    Bool :=
  if !m.skipBlank && m.skipMatching.isEmpty then true
  else
    !((a.lines.extract c.left (c.left + c.removed)).all m.skips
      && (b.lines.extract c.right (c.right + c.added)).all m.skips)

/-! ## Pieces of output -/

/-- The words below a last line without its end. -/
def noEnd : Octets :=
  "\n\\ No newline at end of file\n".toList

/-- A line of a file as it is shown. -/
def Look.text
    (look : Look)
    (s : Octets) :
    Octets :=
  if look.expand then expandTabs look.tabSize 0 s else s

/-- A line of a file behind a mark. -/
def Look.line
    (look : Look)
    (mark : Octets)
    (s : Side)
    (i : Nat) :
    Octets :=
  let text := s.lines.getD i []
  let gap : Octets := if mark.isEmpty then [] else if look.tab then ['\t'] else [' ']
  let lead := if look.suppressBlank && text.isEmpty && mark ≠ [] then
      (mark.reverse.dropWhile (· = ' ')).reverse
    else mark ++ gap
  let isLast := i + 1 = s.lines.size && !s.ended
  lead ++ look.text text ++ if isLast then noEnd else ['\n']

/-- The numbers of some lines, from the first to the last one. -/
def range
    (separator : Octets)
    (start count : Nat) :
    Octets :=
  if count ≤ 1 then Octets.ofNat (start + count)
  else Octets.ofNat (start + 1) ++ separator ++ Octets.ofNat (start + count)

/-! ## As commands for lines -/

def Change.letter (c : Change) : Char :=
  if c.added = 0 then 'd' else if c.removed = 0 then 'a' else 'c'

/-- The lines of a side between two places behind a mark. -/
def Look.lines
    (look : Look)
    (mark : Octets)
    (s : Side)
    (start count : Nat) :
    Octets :=
  (List.range count).flatMap fun i => look.line mark s (start + i)

/-- A change as a command for lines. -/
def normal
    (look : Look)
    (a b : Side)
    (c : Change) :
    Octets :=
  range [','] c.left c.removed ++ c.letter :: range [','] c.right c.added ++ '\n'
    :: look.lines ['<'] a c.left c.removed
    ++ (if c.removed ≠ 0 && c.added ≠ 0 then "---\n".toList else [])
    ++ look.lines ['>'] b c.right c.added

/-! ## As commands for an editor -/

/-- Lines that are put in by an editor; a dot alone would end them. -/
def putIn
    (b : Side)
    (letter : Char) :
    Bool → List Nat → Octets
  | isOpen, [] => if isOpen then ".\n".toList else []
  | isOpen, i :: rest =>
      let text := b.lines.getD i []
      let start : Octets := if isOpen then [] else [letter, '\n']
      if text = ['.'] then start ++ "..\n.\ns/.//\n".toList ++ putIn b letter false rest
      else start ++ text ++ '\n' :: putIn b letter true rest

/-- A change as a command for an editor. -/
def editing
    (b : Side)
    (c : Change) :
    Octets :=
  let lead := range [','] c.left c.removed ++ [c.letter, '\n']
  if c.added = 0 then lead
  else lead ++ putIn b 'a' true ((List.range c.added).map (c.right + ·))

/-- A change as a command for an editor that goes forward. -/
def forward
    (b : Side)
    (c : Change) :
    Octets :=
  let lead := c.letter :: range [' '] c.left c.removed ++ ['\n']
  if c.added = 0 then lead
  else lead ++ (List.range c.added).flatMap (fun i => b.lines.getD (c.right + i) [] ++ ['\n'])
    ++ ".\n".toList

/-- A change as commands that name how many lines they are for. -/
def counted
    (b : Side)
    (c : Change) :
    Octets :=
  let removal : Octets :=
    if c.removed = 0 then []
    else 'd' :: Octets.ofNat (c.left + 1) ++ ' ' :: Octets.ofNat c.removed ++ ['\n']
  let addition : Octets :=
    if c.added = 0 then []
    else
      'a' :: Octets.ofNat (c.left + c.removed) ++ ' ' :: Octets.ofNat c.added ++ '\n'
        :: (List.range c.added).flatMap fun i =>
          let isLast := c.right + i + 1 = b.lines.size && !b.ended
          b.lines.getD (c.right + i) [] ++ if isLast then [] else ['\n']
  removal ++ addition

/-! ## With lines around -/

/-- Puts changes together that are close to each other; `tight` tells whether a change does not count, so
that fewer lines lie between. -/
def hunksFrom
    (context : Nat)
    (counts : Change → Bool) :
    List Change → List Change → List (List Change)
  | [], done => if done.isEmpty then [] else [done.reverse]
  | c :: rest, [] => hunksFrom context counts rest [c]
  | c :: rest, last :: done =>
      let near := if counts last && counts c then 2 * context + 1 else context
      if c.left - (last.left + last.removed) < near then
        hunksFrom context counts rest (c :: last :: done)
      else (last :: done).reverse :: hunksFrom context counts rest [c]

/-- The part of a file that a hunk shows: the first line and how many there are. -/
structure Extent where
  start : Nat
  count : Nat
  deriving DecidableEq, Repr, Inhabited

/-- The lines between two places with lines around them. -/
def extent (context size start stop : Nat) : Extent :=
  let first := start - context
  let last := min size (stop + context)
  ⟨first, last - first⟩

/-- The parts of both files that a hunk shows. -/
def extents
    (context : Nat)
    (a b : Side)
    (hunk : List Change) :
    Extent × Extent :=
  let first := hunk.headD default
  let last := hunk.getLastD default
  (extent context a.lines.size first.left (last.left + last.removed),
    extent context b.lines.size first.right (last.right + last.added))

/-- The heading of the part that a hunk belongs to: the last line in front of it that a pattern matches. -/
def heading
    (look : Look)
    (a : Side)
    (start : Nat) :
    Octets :=
  match look.function with
  | none => []
  | some r =>
      let found := (List.range start).reverse.find? fun i =>
        Regex.occurs r (Regex.subject false (a.lines.getD i []))
      match found with
      | none => []
      | some i =>
          let text := ((a.lines.getD i []).dropWhile isSpace).take 40
          ' ' :: withoutEnd text

/-- The numbers of the lines of a hunk, as the first one and how many there are. -/
def unifiedRange (e : Extent) : Octets :=
  if e.count = 0 then Octets.ofNat e.start ++ ",0".toList
  else if e.count = 1 then Octets.ofNat (e.start + 1)
  else Octets.ofNat (e.start + 1) ++ ',' :: Octets.ofNat e.count

/-- The lines of a hunk, removed and added ones in their place. -/
def unifiedLines
    (look : Look)
    (a b : Side)
    (stop : Nat) :
    Nat → List Change → Octets
  | i, [] => shared i (stop - i)
  | i, c :: rest =>
      shared i (c.left - i) ++ marked '-' a c.left c.removed ++ marked '+' b c.right c.added
        ++ unifiedLines look a b stop (c.left + c.removed) rest
where
  /-- Lines behind a mark without a gap. -/
  marked (mark : Char) (s : Side) (start count : Nat) : Octets :=
    (List.range count).flatMap fun i =>
      mark :: (if look.tab then ['\t'] else []) ++ look.line [] s (start + i)
  /-- Lines that both files have. -/
  shared (start count : Nat) : Octets :=
    (List.range count).flatMap fun i =>
      let lead : Octets := if look.tab then ['\t'] else [' ']
      let isEmpty := (a.lines.getD (start + i) []).isEmpty
      (if look.suppressBlank && isEmpty then [] else lead) ++ look.line [] a (start + i)

/-- A hunk with removed and added lines in their place. -/
def unified
    (look : Look)
    (context : Nat)
    (a b : Side)
    (hunk : List Change) :
    Octets :=
  let (x, y) := extents context a b hunk
  "@@ -".toList ++ unifiedRange x ++ " +".toList ++ unifiedRange y ++ " @@".toList
    ++ heading look a x.start ++ '\n' :: unifiedLines look a b (x.start + x.count) x.start hunk

/-- The numbers of the lines of a hunk, as the first and the last one. -/
def contextRange (e : Extent) : Octets :=
  range [','] e.start e.count

/-- The lines of one file in a hunk, where a mark tells whether they are removed, added or changed. -/
def contextLines
    (look : Look)
    (s : Side)
    (e : Extent)
    (spans : List (Nat × Nat × Char)) :
    Octets :=
  (List.range e.count).flatMap fun k =>
    let i := e.start + k
    let mark := (spans.find? fun span => span.1 ≤ i && i < span.1 + span.2.1).map fun span => span.2.2
    look.line [mark.getD ' '] s i

/-- A hunk that shows the lines of both files one after the other. -/
def context_
    (look : Look)
    (context : Nat)
    (a b : Side)
    (hunk : List Change) :
    Octets :=
  let (x, y) := extents context a b hunk
  let before := hunk.map fun c => (c.left, c.removed, if c.added = 0 then '-' else '!')
  let after := hunk.map fun c => (c.right, c.added, if c.removed = 0 then '+' else '!')
  let old := if hunk.any fun c => c.removed ≠ 0 then contextLines look a x before else []
  let new := if hunk.any fun c => c.added ≠ 0 then contextLines look b y after else []
  "***************".toList ++ heading look a x.start ++ "\n*** ".toList ++ contextRange x
    ++ " ****\n".toList ++ old ++ "--- ".toList ++ contextRange y ++ " ----\n".toList ++ new

/-! ## Side by side -/

/-- The widths for two files side by side: of one half, and where the second one starts. -/
structure Halves where
  width : Nat
  second : Nat
  deriving DecidableEq, Repr, Inhabited

/-- The widths that fit into lines of a width. -/
def Halves.of
    (look : Look)
    (width : Nat) :
    Halves :=
  let t := if look.expand then 1 else look.tabSize
  let g := t + 3
  let odd := if width % 2 = 1 && g % 2 = 1 then 1 else 0
  let off := width / 2 + g / 2 + odd
  let aligned := off - off % t
  let half := min (aligned - 3) (width - aligned)
  ⟨half, if half = 0 then width else aligned⟩

/-- What leads from one column to another one. -/
def gapTo
    (look : Look) :
    Nat → Nat → Nat → Octets
  | 0, _, _ => []
  | fuel + 1, from_, to_ =>
      let next := from_ + look.tabSize - from_ % look.tabSize
      if !look.expand && next ≤ to_ then '\t' :: gapTo look fuel next to_
      else List.replicate (to_ - from_) ' '

/-- A line cut to a width: what is shown and the column it ends at. `inside` is the column in the line and
`column` the one that is shown. -/
def halfLine
    (look : Look)
    (indent width : Nat) :
    Nat → Nat → Octets → Octets × Nat
  | _, column, [] => ([], column)
  | inside, column, '\t' :: s =>
      let blanks := look.tabSize - inside % look.tabSize
      let stop := column + blanks
      let (shown, after) : Octets × Nat :=
        if inside ≠ column then ([], column)
        else if look.expand then
          (List.replicate (min width stop - column) ' ', max column (min width stop))
        else if stop < width then (['\t'], stop)
        else ([], column)
      let (rest, last) := halfLine look indent width (inside + blanks) after s
      (shown ++ rest, last)
  | _, _, '\r' :: s =>
      let (rest, last) := halfLine look indent width 0 0 s
      ('\r' :: gapTo look (indent + 1) 0 indent ++ rest, last)
  | inside, column, '\x08' :: s =>
      let before := inside - 1
      if inside = 0 || width ≤ before then halfLine look indent width before column s
      else if column ≤ before then
        let (rest, last) := halfLine look indent width before before s
        (List.replicate (before - column) ' ' ++ rest, last)
      else
        let (rest, last) := halfLine look indent width before before s
        ('\x08' :: rest, last)
  | inside, column, c :: s =>
      if ' ' ≤ c && c ≤ '~' then
        if inside < width then
          let (rest, last) := halfLine look indent width (inside + 1) (inside + 1) s
          (c :: rest, last)
        else halfLine look indent width (inside + 1) column s
      else
        let (rest, last) := halfLine look indent width inside column s
        (if inside < width then c :: rest else rest, last)

/-- A row with a line of one file, of the other one, or of both. -/
def sideRow
    (look : Look)
    (h : Halves)
    (mark : Char)
    (left right : Option (Side × Nat)) :
    Octets :=
  let isEnded (e : Side × Nat) : Bool := e.1.ended || e.2 + 1 ≠ e.1.lines.size
  let text (e : Side × Nat) : Octets := e.1.lines.getD e.2 []
  let leftEnded := left.any isEnded
  let rightEnded := right.any isEnded
  let (first, c₁) := match left with
    | some e => halfLine look 0 h.width 0 0 (text e)
    | none => ([], 0)
  let middle := (h.width + h.second - 1) / 2
  let shownMark := if mark = '|' && leftEnded != rightEnded then (if leftEnded then '/' else '\\')
    else mark
  let (sign, c₂) : Octets × Nat :=
    if mark = ' ' then ([], c₁)
    else (gapTo look (middle + 1) c₁ middle ++ [shownMark], middle + 1)
  let second : Octets := match right with
    | some e =>
        if (text e).isEmpty then []
        else gapTo look (h.second + 1) c₂ h.second ++ (halfLine look h.second h.width 0 0 (text e)).1
    | none => []
  first ++ sign ++ second ++ if leftEnded || rightEnded then ['\n'] else []

/-- How files are shown side by side. -/
structure SideStyle where
  halves : Halves
  leftColumn : Bool
  onlyChanges : Bool
  deriving DecidableEq, Repr, Inhabited

/-- Lines that both files have, from a place in each up to another one. -/
def sharedRows
    (look : Look)
    (style : SideStyle)
    (a b : Side)
    (i j i_end j_end : Nat) :
    Octets :=
  if style.onlyChanges then []
  else
    let both := if style.leftColumn then 0 else min (i_end - i) (j_end - j)
    let rows (count : Nat) (row : Nat → Octets) : Octets := (List.range count).flatMap row
    rows both (fun k => sideRow look style.halves ' ' (some (a, i + k)) (some (b, j + k)))
      ++ (if style.leftColumn then []
        else rows (j_end - j - both) fun k => sideRow look style.halves ')' none (some (b, j + both + k)))
      ++ rows (i_end - i - both) fun k => sideRow look style.halves '(' (some (a, i + both + k)) none

/-- Files side by side, from a place in each on. -/
def sideBySide
    (look : Look)
    (style : SideStyle)
    (a b : Side) :
    Nat → Nat → List Change → Octets
  | i, j, [] => sharedRows look style a b i j a.lines.size b.lines.size
  | i, j, c :: rest =>
      let both := min c.removed c.added
      let rows (count : Nat) (row : Nat → Octets) : Octets := (List.range count).flatMap row
      sharedRows look style a b i j c.left c.right
        ++ rows both (fun k =>
          sideRow look style.halves '|' (some (a, c.left + k)) (some (b, c.right + k)))
        ++ rows (c.added - both) (fun k =>
          sideRow look style.halves '>' none (some (b, c.right + both + k)))
        ++ rows (c.removed - both) (fun k =>
          sideRow look style.halves '<' (some (a, c.left + both + k)) none)
        ++ sideBySide look style a b (c.left + c.removed) (c.right + c.added) rest

end Differing
end Tool
end Runbook
