import Runbook.Regex.Basic

/-!
# Matching

Where a regular expression matches a text. A match starts as far to the left as possible and is as
long as possible; what its groups match is settled from left to right, each as long as possible. An
expression that refers back to its groups is tried way by way instead.
-/

namespace Runbook
namespace Regex

/-- What the groups of an expression match: the number of a group, and where its match starts and
ends. -/
abbrev Groups := List (Nat × Nat × Nat)

/-- The text to be searched, with what counts as the same letter and where lines start. -/
structure Subject where
  chars : Array Char
  foldCase : Bool
  multiline : Bool
  startsLine : Bool

namespace Subject

/-- The character at a place. -/
def at? (t : Subject) (pos : Nat) : Option Char :=
  t.chars[pos]?

/-- Whether a character counts as another one. -/
def same (t : Subject) (a b : Char) : Bool :=
  a = b || (t.foldCase && a.toLower = b.toLower)

/-- Whether a character counts as a member of a set. -/
def inSet (t : Subject) (s : CharSet) (c : Char) : Bool :=
  if t.foldCase then
    let plain : CharSet := ⟨false, s.ranges⟩
    (plain.has c.toLower || plain.has c.toUpper) != s.negated
  else s.has c

/-- Whether a word could be at a place, before it and behind it. -/
def words (t : Subject) (pos : Nat) : Bool × Bool :=
  let isWord (c : Option Char) : Bool := c.any CharSet.isWordChar
  (0 < pos && isWord (t.at? (pos - 1)), isWord (t.at? pos))

/-- Whether a place is what an expression asks for. -/
def isEdge (t : Subject) (pos : Nat) : Edge → Bool
  | .lineStart =>
      (pos = 0 && t.startsLine) || (t.multiline && 0 < pos && t.at? (pos - 1) = some '\n')
  | .lineEnd => pos = t.chars.size || (t.multiline && t.at? pos = some '\n')
  | .textStart => pos = 0
  | .textEnd => pos = t.chars.size
  | .wordStart => t.words pos = (false, true)
  | .wordEnd => t.words pos = (true, false)
  | .wordEdge => (t.words pos).1 != (t.words pos).2
  | .inside => (t.words pos).1 = (t.words pos).2

end Subject

/-- Two lists of places in falling order as one. -/
def merge : Nat → List Nat → List Nat → List Nat
  | 0, a, _ => a
  | _, [], b => b
  | _, a, [] => a
  | fuel + 1, x :: a, y :: b =>
      if x = y then x :: merge fuel a b
      else if y < x then x :: merge fuel a (y :: b)
      else y :: merge fuel (x :: a) b

/-- The places that a step leads to from some places, in falling order. -/
def stepAll
    (step : Nat → List Nat)
    (places : List Nat) :
    List Nat :=
  places.foldl
    (fun reached p =>
      let next := step p
      merge (reached.length + next.length + 1) reached next)
    []

/-- The places that are reached by repeating a step, at most so often, from the places reached last.
A place that was reached before leads nowhere new. -/
def reachAll
    (step : Nat → List Nat) :
    Nat → List Nat → List Nat → List Nat
  | 0, seen, _ => seen
  | fuel + 1, seen, last =>
      let next := (stepAll step last).filter fun p => !seen.contains p
      if next.isEmpty then seen
      else reachAll step fuel (merge (seen.length + next.length + 1) seen next) next

/-- The places reached by exactly so many steps. -/
def stepTimes
    (step : Nat → List Nat) :
    Nat → List Nat → List Nat
  | 0, places => places
  | n + 1, places => stepTimes step n (stepAll step places)

/-- The places where a match that starts at a place may end, in falling order. Groups are not
looked at. -/
def ends (t : Subject) : Regex → Nat → List Nat
  | .empty, p => [p]
  | .char c, p => if (t.at? p).any (t.same c) then [p + 1] else []
  | .any, p => if (t.at? p).isSome then [p + 1] else []
  | .set s, p => if (t.at? p).any (t.inSet s) then [p + 1] else []
  | .edge e, p => if t.isEdge p e then [p] else []
  | .back _, p => [p]
  | .group _ r, p => ends t r p
  | .seq a b, p => stepAll (ends t b) (ends t a p)
  | .alt a b, p =>
      let x := ends t a p
      let y := ends t b p
      merge (x.length + y.length + 1) x y
  | .rep (.set s) 0 none, p => run t (t.inSet s) p
  | .rep .any 0 none, p => run t (fun _ => true) p
  | .rep (.char c) 0 none, p => run t (t.same c) p
  | .rep r least most, p =>
      let first := stepTimes (ends t r) least [p]
      let more := match most with
        | some m => m - least
        | none => t.chars.size + 1
      reachAll (ends t r) more first first
where
  /-- The places reached by characters with a property, one after the other. -/
  run (t : Subject) (isMember : Char → Bool) (p : Nat) : List Nat :=
    let rec go : Nat → Nat → List Nat → List Nat
      | 0, _, done => done
      | fuel + 1, q, done =>
          if (t.at? q).any isMember then go fuel (q + 1) ((q + 1) :: done) else done
    go (t.chars.size + 1) p [p]

def setGroup (g : Groups) (number start stop : Nat) : Groups :=
  (number, start, stop) :: g.filter fun e => e.1 ≠ number

/-- What the groups of a repeated expression match between two places. -/
def assignRep
    (step : Nat → List Nat)
    (rest : Nat → Option Nat → Nat → List Nat)
    (assign : Nat → Nat → Groups → Groups) :
    Nat → Nat → Option Nat → Nat → Nat → Groups → Groups
  | 0, _, _, _, _, g => g
  | fuel + 1, least, most, start, stop, g =>
      if start = stop then (if least = 0 then g else assign start stop g)
      else
        let fewer := most.map (· - 1)
        let mid := (step start).find? fun m =>
          start < m && m ≤ stop && (rest (least - 1) fewer m).contains stop
        match mid with
        | none => g
        | some m =>
            assignRep step rest assign fuel (least - 1) fewer m stop (assign start m g)

/-- What the groups of an expression match when the expression matches between two places. -/
def assign (t : Subject) : Regex → Nat → Nat → Groups → Groups
  | .group n r, start, stop, g => setGroup (assign t r start stop g) n start stop
  | .seq a b, start, stop, g =>
      match (ends t a start).find? fun m => (ends t b m).contains stop with
      | some m => assign t b m stop (assign t a start m g)
      | none => g
  | .alt a b, start, stop, g =>
      if (ends t a start).contains stop then assign t a start stop g else assign t b start stop g
  | .rep r least most, start, stop, g =>
      assignRep (ends t r) (fun l m p => ends t (.rep r l m) p) (assign t r)
        (stop - start + 1) least most start stop g
  | _, _, _, g => g

/-- How many ways are followed in an expression that refers back. -/
def maxWays : Nat := 20000

/-- The ways that repeating a step leads to, the longest first. -/
def wayRep
    (step : Nat × Groups → List (Nat × Groups)) :
    Nat → Nat → Option Nat → Nat × Groups → List (Nat × Groups)
  | 0, _, _, w => [w]
  | fuel + 1, least, most, w =>
      let further :=
        if most = some 0 then []
        else
          ((step w).filter fun v => w.1 < v.1 || 0 < least).flatMap fun v =>
            wayRep step fuel (least - 1) (most.map (· - 1)) v
      (further ++ if least = 0 then [w] else []).take maxWays

/-- The ways in which an expression may match from a place on, with what the groups match. -/
def ways (t : Subject) : Regex → Nat × Groups → List (Nat × Groups)
  | .back n, (p, g) =>
      match g.lookup n with
      | none => []
      | some (start, stop) =>
          let length := stop - start
          let isSame := (List.range length).all fun i =>
            match t.at? (start + i), t.at? (p + i) with
            | some a, some b => t.same a b
            | _, _ => false
          if isSame then [(p + length, g)] else []
  | .group n r, (p, g) => (ways t r (p, g)).map fun w => (w.1, setGroup w.2 n p w.1)
  | .seq a b, w => ((ways t a w).flatMap (ways t b)).take maxWays
  | .alt a b, w => ways t a w ++ ways t b w
  | .rep r least most, w => wayRep (ways t r) (t.chars.size + 2) least most w
  | r, (p, g) => (ends t r p).map fun q => (q, g)

/-- Whether an expression refers back to a group. -/
def refersBack (r : Regex) : Bool :=
  0 < greatestBack r

/-- Where a match ends that starts at a place, with what the groups match. -/
def matchAt?
    (r : Regex)
    (t : Subject)
    (start : Nat) :
    Option (Nat × Groups) :=
  if refersBack r then
    (ways t r (start, [])).foldl
      (fun best w =>
        match best with
        | none => some w
        | some b => if b.1 < w.1 then some w else best)
      none
  else
    match ends t r start with
    | [] => none
    | stop :: _ => some (stop, assign t r start stop [])

/-- The first match that starts at a place or behind it: its start, its end, and what the groups
match. -/
def searchFrom?
    (r : Regex)
    (t : Subject) :
    Nat → Nat → Option (Nat × Nat × Groups)
  | 0, _ => none
  | fuel + 1, start =>
      if t.chars.size < start then none
      else
        match matchAt? r t start with
        | some (stop, g) => some (start, stop, g)
        | none => searchFrom? r t fuel (start + 1)

/-- The first match that starts at a place or behind it. -/
def search?
    (r : Regex)
    (t : Subject)
    (start : Nat) :
    Option (Nat × Nat × Groups) :=
  searchFrom? r t (t.chars.size + 2 - start) start

/-- Whether an expression matches somewhere. -/
def occurs (r : Regex) (t : Subject) : Bool :=
  (search? r t 0).isSome

/-- A text to be searched, as one line. -/
def subject (foldCase : Bool) (s : Octets) : Subject :=
  ⟨List.toArray s, foldCase, false, true⟩

/-- The characters of a subject between two places. -/
def Subject.slice (t : Subject) (start stop : Nat) : Octets :=
  (t.chars.extract start stop).toList

end Regex
end Runbook
