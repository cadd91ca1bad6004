import Std.Data.HashMap
import Runbook.Text.Octets

/-!
# Changes between two rows of lines

Which lines of one file are to be removed and which of another one are to be added, so that the first
becomes the second. Lines count by the classes they belong to: two lines of one class are the same.

Lines that the other file does not have are set aside first. The rest is compared from both ends at
once, until the two searches meet; that divides the task into two smaller ones. Runs of changes are then
moved so that they lie as far back as possible, or beside changes of the other file.
-/

namespace Runbook
namespace Tool
namespace Differing

/-- A place where the files differ: the first lines of the place, and how many lines are removed and
added there. -/
structure Change where
  left : Nat
  right : Nat
  removed : Nat
  added : Nat
  deriving DecidableEq, Repr, Inhabited

/-! ## Classes -/

/-- Gives each line the number of its class, by what counts of it. -/
def classify (left right : Array (Octets × Bool)) : Array Nat × Array Nat :=
  let start : Std.HashMap (String × Bool) Nat × Array Nat := (∅, #[])
  let add (so_far : Std.HashMap (String × Bool) Nat × Array Nat) (line : Octets × Bool) :
      Std.HashMap (String × Bool) Nat × Array Nat :=
    let key := (String.ofList line.1, line.2)
    match so_far.1[key]? with
    | some n => (so_far.1, so_far.2.push n)
    | none => (so_far.1.insert key so_far.1.size, so_far.2.push so_far.1.size)
  let (known, a) := left.foldl add start
  (a, (right.foldl add (known, #[])).2)

/-! ## Lines set aside -/

/-- Whether a line takes part in the comparison: it does, or it is set aside, or it is set aside as long
as those around it are. -/
inductive Part where
  | kept
  | aside
  | maybe
  deriving DecidableEq, Repr, Inhabited

/-- Doubles a number for each time that another one can be divided by four. -/
def doubled : Nat → Nat → Nat → Nat
  | 0, n, _ => n
  | fuel + 1, n, size => if size / 4 = 0 then n else doubled fuel (2 * n) (size / 4)

/-- How the lines of a file take part at first, by how often the other file has them. -/
def parts (counts : Nat → Nat) (classes : Array Nat) : List Part :=
  let many := doubled 64 5 (classes.size / 64)
  classes.toList.map fun c =>
    if counts c = 0 then .aside else if many < counts c then .maybe else .kept

/-- A line that is set aside only with others is kept. -/
def Part.settled : Part → Part
  | .maybe => .kept
  | p => p

/-- Keeps runs of doubtful lines that are too long. -/
def keepLongRuns (least : Nat) : Nat → List Part → List Part
  | 0, s => s
  | _, [] => []
  | fuel + 1, p :: s =>
      if p = .maybe then
        let run := (p :: s).takeWhile (· = .maybe)
        let shown := if least ≤ run.length then run.map Part.settled else run
        shown ++ keepLongRuns least fuel ((p :: s).drop run.length)
      else p :: keepLongRuns least fuel s

/-- Keeps doubtful lines at the front of a run, up to three lines in a row that are set aside. -/
def keepFront : Nat → Nat → List Part → List Part
  | _, _, [] => []
  | place, row, p :: s =>
      if 8 ≤ place && p = .aside then p :: s
      else
        match p with
        | .aside => if row = 2 then p :: s else p :: keepFront (place + 1) (row + 1) s
        | _ => .kept :: keepFront (place + 1) 0 s

/-- Settles a run of lines that starts and ends with a line set aside. -/
def settleRun (run : List Part) : List Part :=
  let length := run.length
  if length < 4 * run.count .maybe then run.map Part.settled
  else
    let least := doubled 64 1 (length / 4) + 1
    let shorter := keepLongRuns least (length + 1) run
    (keepFront 0 0 (keepFront 0 0 shorter).reverse).reverse

def settle : Nat → List Part → List Part
  | 0, s => s.map Part.settled
  | _, [] => []
  | fuel + 1, p :: s =>
      if p = .aside then
        let block := (p :: s).takeWhile (· ≠ .kept)
        let run := (block.reverse.dropWhile (· = .maybe)).reverse
        settleRun run ++ settle fuel ((p :: s).drop run.length)
      else .kept :: settle fuel s

/-- Which lines of a file are set aside. -/
def setAside (classes other : Array Nat) : Array Bool :=
  let counts : Std.HashMap Nat Nat := other.foldl (fun m c => m.insert c (m.getD c 0 + 1)) ∅
  let first := parts (fun c => counts.getD c 0) classes
  ((settle (first.length + 1) first).map fun p => decide (p ≠ .kept)).toArray

/-! ## The comparison -/

/-- Two searches along the diagonals of the table of two rows, one from its start and one from its end:
how far each has come on each diagonal, and the range of diagonals it goes through. -/
structure Searches where
  forward : Array Int
  backward : Array Int
  forwardLeast : Int
  forwardMost : Int
  backwardLeast : Int
  backwardMost : Int
  deriving Inhabited

/-- A part of the table: from one place to another one. -/
structure Window where
  left : Int
  leftEnd : Int
  right : Int
  rightEnd : Int
  deriving DecidableEq, Repr, Inhabited

/-- Two rows of classes that are compared. -/
structure Rows where
  xs : Array Nat
  ys : Array Nat
  deriving DecidableEq, Repr, Inhabited

namespace Rows

/-- Whether a line of one row is the same as a line of the other one. -/
def same (r : Rows) (x y : Int) : Bool :=
  r.xs[x.toNat]? = r.ys[y.toNat]? && 0 ≤ x && 0 ≤ y

/-- The place in an array for a diagonal. -/
def slot (r : Rows) (d : Int) : Nat :=
  (d + r.ys.size + 1).toNat

/-- What an array holds for a diagonal. -/
def reach (r : Rows) (a : Array Int) (d : Int) : Int :=
  a.getD (r.slot d) 0

/-- An array with a value for a diagonal. -/
def note (r : Rows) (a : Array Int) (d x : Int) : Array Int :=
  a.setIfInBounds (r.slot d) x

/-- How far equal lines go on a diagonal, towards the end. -/
def slideUp (r : Rows) (w : Window) (d : Int) : Nat → Int → Int
  | 0, x => x
  | fuel + 1, x =>
      if x < w.leftEnd && x - d < w.rightEnd && r.same x (x - d) then slideUp r w d fuel (x + 1)
      else x

/-- How far equal lines go on a diagonal, towards the start. -/
def slideDown (r : Rows) (w : Window) (d : Int) : Nat → Int → Int
  | 0, x => x
  | fuel + 1, x =>
      if w.left < x && w.right < x - d && r.same (x - 1) (x - d - 1) then
        slideDown r w d fuel (x - 1)
      else x

/-- A number that no place reaches. -/
def beyond : Int := 1000000000000

/-- How many steps a search may make. -/
def fuel (r : Rows) : Nat :=
  r.xs.size + r.ys.size + 3

/-- Takes the search from the start one step further on all diagonals, from the last one on; it ends where
it meets the other search. -/
def sweepUp (r : Rows) (w : Window) (odd : Bool) (s : Searches) :
    Nat → Int → Array Int → Array Int × Option (Int × Int)
  | 0, _, a => (a, none)
  | fuel + 1, d, a =>
      if d < s.forwardLeast then (a, none)
      else
        let low := r.reach a (d - 1)
        let high := r.reach a (d + 1)
        let x := slideUp r w d r.fuel (if low < high then high else low + 1)
        let after := r.note a d x
        if odd && s.backwardLeast ≤ d && d ≤ s.backwardMost && r.reach s.backward d ≤ x then
          (after, some (x, x - d))
        else sweepUp r w odd s fuel (d - 2) after

/-- Takes the search from the end one step further on all diagonals. -/
def sweepDown (r : Rows) (w : Window) (odd : Bool) (s : Searches) :
    Nat → Int → Array Int → Array Int × Option (Int × Int)
  | 0, _, a => (a, none)
  | fuel + 1, d, a =>
      if d < s.backwardLeast then (a, none)
      else
        let low := r.reach a (d - 1)
        let high := r.reach a (d + 1)
        let x := slideDown r w d r.fuel (if low < high then low else high - 1)
        let after := r.note a d x
        if !odd && s.forwardLeast ≤ d && d ≤ s.forwardMost && x ≤ r.reach s.forward d then
          (after, some (x, x - d))
        else sweepDown r w odd s fuel (d - 2) after

/-- The searches with the range of the one from the start widened by one, or narrowed where it has reached
the border of the table. -/
def widenUp (r : Rows) (w : Window) (s : Searches) : Searches :=
  let low := if w.left - w.rightEnd < s.forwardLeast then s.forwardLeast - 1 else s.forwardLeast + 1
  let a := if low < s.forwardLeast then r.note s.forward (low - 1) (-1) else s.forward
  let high := if s.forwardMost < w.leftEnd - w.right then s.forwardMost + 1 else s.forwardMost - 1
  let b := if s.forwardMost < high then r.note a (high + 1) (-1) else a
  { s with forward := b, forwardLeast := low, forwardMost := high }

/-- The searches with the range of the one from the end widened. -/
def widenDown (r : Rows) (w : Window) (s : Searches) : Searches :=
  let low :=
    if w.left - w.rightEnd < s.backwardLeast then s.backwardLeast - 1 else s.backwardLeast + 1
  let a := if low < s.backwardLeast then r.note s.backward (low - 1) beyond else s.backward
  let high :=
    if s.backwardMost < w.leftEnd - w.right then s.backwardMost + 1 else s.backwardMost - 1
  let b := if s.backwardMost < high then r.note a (high + 1) beyond else a
  { s with backward := b, backwardLeast := low, backwardMost := high }

def meeting (r : Rows) (w : Window) (odd : Bool) : Nat → Searches → Int × Int
  | 0, _ => (w.left, w.right)
  | fuel + 1, s =>
      let s₁ := widenUp r w s
      match sweepUp r w odd s₁ r.fuel s₁.forwardMost s₁.forward with
      | (_, some place) => place
      | (forward, none) =>
          let s₂ := widenDown r w { s₁ with forward := forward }
          match sweepDown r w odd s₂ r.fuel s₂.backwardMost s₂.backward with
          | (_, some place) => place
          | (backward, none) => meeting r w odd fuel { s₂ with backward := backward }

/-- A place that divides a part of the table, where both ends are off the diagonals of equal lines. -/
def middle (r : Rows) (w : Window) : Int × Int :=
  let up := w.left - w.right
  let down := w.leftEnd - w.rightEnd
  let empty_ := Array.replicate (r.xs.size + r.ys.size + 3) (0 : Int)
  let s : Searches := ⟨r.note empty_ up w.left, r.note empty_ down w.leftEnd, up, up, down, down⟩
  meeting r w ((up - down) % 2 ≠ 0) r.fuel s

/-- How many lines at the start of a part of the table are the same. -/
def startRun (r : Rows) (w : Window) : Int :=
  slideUp r w (w.left - w.right) r.fuel w.left - w.left

/-- How many lines at the end of a part of the table are the same. -/
def endRun (r : Rows) (w : Window) : Int :=
  w.leftEnd - slideDown r w (w.leftEnd - w.rightEnd) r.fuel w.leftEnd

/-- Marks some lines in a row. -/
def markAll (a : Array Bool) (start stop : Int) : Array Bool :=
  (List.range (stop - start).toNat).foldl (fun a i => a.setIfInBounds (start.toNat + i) true) a

/-- Marks the lines of a part of the table that are removed and added. -/
def compare (r : Rows) : Nat → Window → Array Bool × Array Bool → Array Bool × Array Bool
  | 0, _, marks => marks
  | fuel + 1, w, marks =>
      let front := r.startRun w
      let inner := { w with left := w.left + front, right := w.right + front }
      let back := r.endRun inner
      let v := { inner with leftEnd := w.leftEnd - back, rightEnd := w.rightEnd - back }
      if v.left = v.leftEnd then (marks.1, markAll marks.2 v.right v.rightEnd)
      else if v.right = v.rightEnd then (markAll marks.1 v.left v.leftEnd, marks.2)
      else
        let (x, y) := r.middle v
        let first := compare r fuel { v with leftEnd := x, rightEnd := y } marks
        compare r fuel { v with left := x, right := y } first

end Rows

/-- Which lines of two rows are removed and added. -/
def marks (minimal : Bool) (xs ys : Array Nat) : Array Bool × Array Bool :=
  let asideX := if minimal then xs.map fun _ => false else setAside xs ys
  let asideY := if minimal then ys.map fun _ => false else setAside ys xs
  let places (aside : Array Bool) : Array Nat :=
    (Array.range aside.size).filter fun i => !aside.getD i false
  let placesX := places asideX
  let placesY := places asideY
  let r : Rows := ⟨placesX.map fun i => xs.getD i 0, placesY.map fun i => ys.getD i 0⟩
  let w : Window := ⟨0, r.xs.size, 0, r.ys.size⟩
  let none_ := (r.xs.map fun _ => false, r.ys.map fun _ => false)
  let (a, b) := r.compare (r.xs.size + r.ys.size + 2) w none_
  let spread (aside : Array Bool) (places : Array Nat) (marked : Array Bool) : Array Bool :=
    (places.zip marked).foldl (fun all e => if e.2 then all.setIfInBounds e.1 true else all) aside
  (spread asideX placesX a, spread asideY placesY b)

/-! ## Moving runs of changes -/

/-- Two rows of marks with a free place at either end, and the classes of the lines of the first one. -/
structure Board where
  marked : Array Bool
  other : Array Bool
  classes : Array Nat
  deriving DecidableEq, Repr, Inhabited

/-- A run of changes, from one place to in front of another one; the place in the other row that goes with
the end; and the end of the run where it last went with changes in the other row. -/
structure Run where
  start : Nat
  stop : Nat
  beside : Nat
  matched : Nat
  deriving DecidableEq, Repr, Inhabited

namespace Board

/-- Behind the last place of a row. -/
def stop (b : Board) : Nat :=
  b.classes.size + 1

def isMarked (a : Array Bool) (i : Nat) : Bool :=
  a.getD i false

/-- The next place that is not marked. -/
def pass (a : Array Bool) : Nat → Nat → Nat
  | 0, i => i
  | fuel + 1, i => if isMarked a i then pass a fuel (i + 1) else i

/-- The last place before another one that is not marked. -/
def passBack (a : Array Bool) : Nat → Nat → Nat
  | 0, i => i
  | fuel + 1, i => if isMarked a i then passBack a fuel (i - 1) else i

/-- How far one may go. -/
def fuel (b : Board) : Nat :=
  b.marked.size + b.other.size + 2

/-- The board with a mark set or taken away. -/
def put (b : Board) (i : Nat) (mark : Bool) : Board :=
  { b with marked := b.marked.setIfInBounds i mark }

/-- Whether two places hold lines of one class. -/
def alike (b : Board) (i j : Nat) : Bool :=
  b.classes.getD (i - 1) 0 = b.classes.getD (j - 1) 0

/-- The next run of changes, and the place that goes with it in the other row. -/
def nextRun? (b : Board) : Nat → Nat → Nat → Option (Nat × Nat)
  | 0, _, _ => none
  | fuel + 1, i, j =>
      if b.stop ≤ i then none
      else if isMarked b.marked i then some (i, j)
      else nextRun? b fuel (i + 1) (pass b.other b.fuel j + 1)

/-- Moves a run back as long as that changes nothing. -/
def moveBack : Nat → Board → Run → Board × Run
  | 0, b, r => (b, r)
  | fuel + 1, b, r =>
      if 1 < r.start && b.alike (r.start - 1) (r.stop - 1) then
        let moved := (b.put (r.start - 1) true).put (r.stop - 1) false
        let start := passBack moved.marked b.fuel (r.start - 2) + 1
        moveBack fuel moved
          { r with start := start, stop := r.stop - 1, beside := passBack b.other b.fuel (r.beside - 1) }
      else (b, r)

/-- Moves a run on as long as that changes nothing. -/
def moveOn : Nat → Board → Run → Board × Run
  | 0, b, r => (b, r)
  | fuel + 1, b, r =>
      if r.stop ≠ b.stop && b.alike r.start r.stop then
        let moved := (b.put r.start false).put r.stop true
        let stop := pass moved.marked b.fuel (r.stop + 1)
        let beside := pass b.other b.fuel (r.beside + 1)
        let matched := if beside = r.beside + 1 then r.matched else stop
        moveOn fuel moved ⟨r.start + 1, stop, beside, matched⟩
      else (b, r)

/-- Moves a run back and on until it does not grow any more. -/
def grow : Nat → Board → Run → Board × Run
  | 0, b, r => (b, r)
  | fuel + 1, b, r =>
      let (b₁, r₁) := moveBack b.fuel b r
      let matched := if isMarked b.other (r₁.beside - 1) then r₁.stop else b.stop
      let (b₂, r₂) := moveOn b.fuel b₁ { r₁ with matched := matched }
      if r₂.stop - r₂.start = r.stop - r.start then (b₂, r₂) else grow fuel b₂ r₂

/-- Moves a run back to where it goes with changes in the other row. -/
def moveBeside : Nat → Board → Run → Board × Run
  | 0, b, r => (b, r)
  | fuel + 1, b, r =>
      if r.matched < r.stop then
        moveBeside fuel ((b.put (r.start - 1) true).put (r.stop - 1) false)
          { r with
            start := r.start - 1
            stop := r.stop - 1
            beside := passBack b.other b.fuel (r.beside - 1) }
      else (b, r)

def moveRuns : Nat → Board → Nat → Nat → Board
  | 0, b, _, _ => b
  | fuel + 1, b, i, j =>
      match b.nextRun? b.fuel i j with
      | none => b
      | some (start, beside) =>
          let run : Run :=
            ⟨start, pass b.marked b.fuel (start + 1), pass b.other b.fuel beside, b.stop⟩
          let (b₁, r₁) := grow b.fuel b run
          let (b₂, r₂) := moveBeside b.fuel b₁ r₁
          moveRuns fuel b₂ r₂.stop r₂.beside

end Board

/-- Marks with the runs of the first row moved. -/
def moveMarks (classes : Array Nat) (marked other : Array Bool) : Array Bool :=
  let pad (a : Array Bool) : Array Bool := (#[false] ++ a).push false
  let b : Board := ⟨pad marked, pad other, classes⟩
  (Board.moveRuns b.fuel b 1 1).marked.extract 1 (classes.size + 1)

/-! ## Changes -/

/-- The changes that marks stand for, from a place in each row on. -/
def changesFrom (a b : Array Bool) : Nat → Nat → Nat → List Change
  | 0, _, _ => []
  | fuel + 1, i, j =>
      if a.size ≤ i && b.size ≤ j then []
      else
        let i₁ := Board.pass a (a.size + 1) i
        let j₁ := Board.pass b (b.size + 1) j
        let rest := changesFrom a b fuel (i₁ + 1) (j₁ + 1)
        if i₁ = i && j₁ = j then rest else ⟨i, j, i₁ - i, j₁ - j⟩ :: rest

/-- The changes between two rows of classes. -/
def changes (minimal : Bool) (xs ys : Array Nat) : List Change :=
  let (a, b) := marks minimal xs ys
  let a₁ := moveMarks xs a b
  let b₁ := moveMarks ys b a₁
  changesFrom a₁ b₁ (xs.size + ys.size + 1) 0 0

end Differing
end Tool
end Runbook
