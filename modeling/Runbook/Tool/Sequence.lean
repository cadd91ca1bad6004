import Runbook.Format.Field
import Runbook.Number.Reading
import Runbook.Tool.Input
import Runbook.Tool.Options
import Runbook.Tool.Target

/-!
# Rows of numbers and names

The tool that takes numbers apart into prime factors, and the tool that counts. The numbers it counts
in are exact decimals; they are written with as many places as the start and the step have. Rows of
numbers, or of lines, are brought into an order that nobody can tell before by one more tool, and
names into one that pairs of them leave open by the last.
-/

namespace Runbook
namespace Tool

namespace Factors

/-- The prime factors of a number from a divisor on, where all smaller ones were taken out. -/
def factorsFrom : Nat → Nat → Nat → List Nat
  | 0, _, n => if n = 1 then [] else [n]
  | fuel + 1, d, n =>
      if n = 1 then []
      else if n < d * d then [n]
      else if n % d = 0 then d :: factorsFrom fuel d (n / d)
      else factorsFrom fuel (if d = 2 then 3 else d + 2) n

/-- How many divisors are tried. -/
def patience : Nat := 2000000

/-- The prime factors of a number, in order. -/
def primeFactors (n : Nat) : List Nat :=
  if n = 0 then [] else factorsFrom patience 2 n

/-- The factors as they are shown, each by itself or with how often it occurs. -/
def shown (together : Bool) : Nat → List Nat → Octets
  | 0, _ => []
  | _, [] => []
  | fuel + 1, p :: rest =>
      if together then
        let more := rest.takeWhile (· = p)
        let power : Octets :=
          if more.isEmpty then [] else '^' :: Octets.ofNat (more.length + 1)
        ' ' :: Octets.ofNat p ++ power ++ shown together fuel (rest.drop more.length)
      else ' ' :: Octets.ofNat p ++ shown together fuel rest

/-- Shows the factors of the number that a word stands for. -/
def showWord (together : Bool) (word : Octets) : Work Unit := do
  let trimmed := word.dropWhile fun c => c = ' ' || ('\t' ≤ c && c ≤ '\r')
  let digits := if trimmed.head? = some '+' then trimmed.drop 1 else trimmed
  match digitsIn? 10 digits with
  | some n =>
      let factors := primeFactors n
      Work.sayLine (Octets.ofNat n ++ ':' :: shown together (factors.length + 1) factors)
  | none => Work.complain (Quoting.plain word ++ " is not a valid positive integer".toList)

def wordsIn (s : Octets) : List Octets :=
  ((s.splitBy fun a b => isGap a = isGap b).filter fun w => !(w.head?.any isGap))
where
  /-- Whether a character stands between words. -/
  isGap (c : Char) : Bool :=
    c = ' ' || c = '\t' || c = '\n'

/-- Takes numbers apart. -/
def tool : Tool :=
  simple 1 fun words => do
    let a ← Work.arguments [flag "h" ["exponents"]] 1 words
    if a.operands.isEmpty then
      match ← Work.readWhole Work.dash with
      | .ok data => Work.forAll (showWord (a.has "h")) (wordsIn data)
      | .error e => Work.fail 1 ("error reading input: ".toList ++ e.reason.toList)
    else Work.forAll (showWord (a.has "h")) a.operands

end Factors

/-! ## Counting -/

namespace Sequence

open Format

/-- An exact decimal, `digits / 10 ^ places`, or a number beyond all others. -/
inductive Bound where
  | decimal (digits : Int) (places : Nat)
  | endless (negative : Bool)
  deriving DecidableEq, Repr, Inhabited

/-- A number as it was written: its value, the width of its digits and the places behind its point, if
that is a fixed number. -/
structure Operand where
  value : Bound
  width : Int
  precision : Option Nat
  deriving Repr, Inhabited

/-- The digits of a bound with so many places, which are not less than its own. -/
def scaled (n : Int) (places wanted : Nat) : Int :=
  n * Nat.pow 10 (wanted - places)

/-- The value of a number, read to its end. -/
def readValue? (s : Octets) : Option Bound :=
  let (negative, t) := leadingSign (s.dropWhile isNumberGap)
  let sign (n : Int) : Int := if negative then -n else n
  if startsWithWord "infinity" t && t.length = 8 then some (.endless negative)
  else if startsWithWord "inf" t && t.length = 3 then some (.endless negative)
  else if startsWithWord "0x" t then
    match digitsIn? 16 (t.drop 2) with
    | some n => some (.decimal (sign n) 0)
    | none => none
  else
    let (whole, fraction, behind) := leadingFraction 10 t
    let (e, rest) := leadingExponent 'e' 'E' behind
    if (whole ++ fraction).isEmpty || !rest.isEmpty || 5000 < e.natAbs then none
    else
      let n : Int := (digitsIn? 10 (whole ++ fraction)).getD 0
      let places : Int := (fraction.length : Int) - e
      if 0 ≤ places then some (.decimal (sign n) places.toNat)
      else some (.decimal (sign n * Nat.pow 10 places.natAbs) 0)

/-- The width and the precision of a number as it is written. -/
def measure (s : Octets) : Int × Option Nat :=
  let arg := s.dropWhile fun c => isNumberGap c || c = '+'
  let whole := arg.takeWhile (· ≠ '.')
  let hasPoint := whole.length < arg.length
  let isHex := arg.any fun c => c = 'x' || c = 'X'
  let isEndless := match readValue? s with
    | some (.endless _) => true
    | _ => false
  if isHex || isEndless then (0, if hasPoint || arg.contains 'p' then none else some 0)
  else
    let fraction := (arg.drop (whole.length + 1)).takeWhile fun c => c ≠ 'e' && c ≠ 'E'
    let mantissa := arg.takeWhile fun c => c ≠ 'e' && c ≠ 'E'
    let pointFirst := match whole.getLast? with
      | some c => !c.isDigit
      | none => true
    let width₁ : Int := arg.length
    let width₂ : Int :=
      if !hasPoint then width₁
      else if fraction.isEmpty then width₁ - 1
      else if pointFirst then width₁ + 1
      else width₁
    let precision : Nat := if hasPoint then fraction.length else 0
    if mantissa.length = arg.length then (width₂, some precision)
    else
      let e : Int := (leadingExponent 'e' 'E' (arg.drop mantissa.length)).1
      let precision' : Int :=
        if e < 0 then (precision : Int) - e else (precision : Int) - min (precision : Int) e
      let width₃ : Int := width₂ - (arg.length - mantissa.length)
      let width₄ : Int :=
        if e < 0 then
          if hasPoint then (if fraction.isEmpty then width₃ + 1 else width₃) else width₃ + 1
        else width₃
      (width₄ + e.natAbs, some precision'.toNat)

/-- Reads a number, or complains about it. -/
def readOperand (s : Octets) : Work Operand := do
  match readValue? s with
  | some value =>
      let (width, precision) := measure s
      return ⟨value, width, precision⟩
  | none =>
      let lower := (s.dropWhile fun c => c = '-' || c = '+').map Char.toLower
      if lower = "nan".toList then
        Work.misuse 1 ("invalid 'not-a-number' argument: ".toList ++ Quoting.plain s)
      else
        Work.misuse 1 ("invalid floating point argument: ".toList ++ Quoting.plain s)

/-- How numbers are written: what stands before and behind them, and how they are laid out. -/
structure Layout where
  before : Octets
  field : Field
  letter : Char
  behind : Octets
  deriving Repr, Inhabited

/-- A number as a layout writes it. -/
def Layout.text
    (l : Layout)
    (n : Int)
    (places : Nat) :
    Octets :=
  let q : Quotient := ⟨n.natAbs, Nat.pow 10 places⟩
  let precision := l.field.precision.getD 6
  let body := match l.letter with
    | 'e' => scientific l.field.alternate 'e' precision q
    | 'E' => scientific l.field.alternate 'E' precision q
    | 'g' => general l.field.alternate 'e' precision q
    | 'G' => general l.field.alternate 'E' precision q
    | _ => fixed l.field.alternate precision q
  l.before ++ l.field.numeral true (l.field.sign (n < 0)) body ++ l.behind

/-- The text of a format up to its directive, with double signs for one, and what follows. -/
def upToDirective : Nat → Octets → Octets → Octets × Octets
  | 0, done, s => (done.reverse, s)
  | fuel + 1, done, '%' :: '%' :: s => upToDirective fuel ('%' :: done) s
  | _, done, '%' :: s => (done.reverse, '%' :: s)
  | fuel + 1, done, c :: s => upToDirective fuel (c :: done) s
  | _, done, [] => (done.reverse, [])

def readLayout (template : Octets) : Work Layout := do
  let complaint (text : String) : Octets := "format ".toList ++ Quoting.plain template
    ++ ' ' :: text.toList
  let (before, rest) := upToDirective (template.length + 1) [] template
  match rest with
  | [] => Work.fail 1 (complaint "has no % directive")
  | _ :: s =>
      let (f, afterFlags) := readFlags .plain (s.filter (· ≠ '\''))
      let (width, afterWidth) := readNumber afterFlags
      let (precision, afterPrecision) : Option Nat × Octets := match afterWidth with
        | '.' :: t =>
            let (p, u) := readNumber t
            (some p, u)
        | t => (none, t)
      let afterLength := match afterPrecision with
        | 'L' :: t => t
        | t => t
      match afterLength with
      | [] => Work.fail 1 (complaint "ends in %")
      | letter :: more =>
          if !"efgaEFGA".toList.contains letter then
            Work.fail 1 (complaint s!"has unknown %{letter} directive")
          else
            let (behind, left) := upToDirective (more.length + 1) [] more
            if !left.isEmpty then
              Work.fail 1 (complaint "has too many % directives")
            else
              return ⟨before, { f with width := width, precision := precision }, letter, behind⟩

/-- The layout of numbers when no format is given. -/
def standardLayout
    (equalWidth : Bool)
    (first step last : Operand) :
    Layout :=
  match first.precision, step.precision, last.precision with
  | some p, some q, some r =>
      let precision := max p q
      let width : Nat :=
        if !equalWidth then 0
        else
          let firstWidth : Int := first.width + (precision - p)
            + (if p = 0 && precision ≠ 0 then 1 else 0)
          let lastWidth : Int := last.width + ((precision : Int) - r)
            - (if r ≠ 0 && precision = 0 then 1 else 0)
            + (if r = 0 && precision ≠ 0 then 1 else 0)
          (max firstWidth lastWidth).toNat
      ⟨[], { Field.plain with zero := equalWidth, width := width, precision := some precision },
        'f', []⟩
  | _, _, _ => ⟨[], .plain, 'g', []⟩

/-- What counting goes through: a number, the step to the next one and the last one, as digits with the
same number of places. -/
structure Count where
  number : Int
  step : Int
  last : Option Int
  places : Nat
  deriving Repr, Inhabited

/-- Whether a number is still to be written. -/
def Count.isWithin (c : Count) : Bool :=
  match c.last with
  | none => true
  | some last => if c.step < 0 then decide (last ≤ c.number) else decide (c.number ≤ last)

/-- Writes numbers with a text between them. -/
def sayNumbers
    (l : Layout)
    (between : Octets)
    (c : Count) :
    Work Unit := do
  if !c.isWithin then return
  Work.say (l.text c.number c.places)
  Work.repeat_ ()
    (fun (at_ : Count) => do
      let next := { at_ with number := at_.number + at_.step }
      if next.isWithin then
        Work.say (between ++ l.text next.number next.places)
        return .inl next
      else return .inr ())
    Act.rounds c
  Work.say ['\n']

/-- Whether a word is an option, and no negative number. -/
def isOption : Octets → Bool
  | '-' :: '-' :: _ => true
  | '-' :: c :: _ => !(c.isDigit || c = '.')
  | _ => false

/-- Takes the words of options, with their values, from the front of others. -/
def splitOptions : Nat → List Octets → List Octets × List Octets
  | 0, words => ([], words)
  | _, [] => ([], [])
  | fuel + 1, word :: rest =>
      if word = "--".toList then ([], rest)
      else if !isOption word then ([], word :: rest)
      else
        let takesNext := word = "-f".toList || word = "-s".toList
          || word = "--format".toList || word = "--separator".toList
        match takesNext, rest with
        | true, value :: more =>
            let (options, others) := splitOptions fuel more
            (word :: value :: options, others)
        | _, _ =>
            let (options, others) := splitOptions fuel rest
            (word :: options, others)

def forms : List OptionForm :=
  [valued "f" ["format"], valued "s" ["separator"], flag "w" ["equal-width"]]

def tool : Tool :=
  simple 1 fun words => do
    let (options, numbers) := splitOptions (words.length + 1) words
    let a ← Work.leadingArguments forms 1 options
    if numbers.isEmpty then Work.missingOperand 1 none
    match numbers.drop 3 with
    | extra :: _ => Work.extraOperand 1 extra
    | [] => pure ()
    let given ← (a.value? "f").mapM readLayout
    let one : Operand := ⟨.decimal 1 0, 1, some 0⟩
    let operands ← numbers.mapM readOperand
    let (first, step, last) := match operands with
      | [last] => (one, one, last)
      | [first, last] => (first, one, last)
      | first :: step :: last :: _ => (first, step, last)
      | [] => (one, one, one)
    let stepWord := (numbers.drop 1).headD []
    match step.value with
    | .decimal 0 _ =>
        Work.misuse 1 ("invalid Zero increment value: ".toList ++ Quoting.plain stepWord)
    | _ => pure ()
    if given.isSome && a.has "w" then
      Work.misuse 1 "format string may not be specified when printing equal width strings".toList
    let layout := given.getD (standardLayout (a.has "w") first step last)
    let between := (a.value? "s").getD ['\n']
    match first.value, step.value with
    | .decimal x p, .decimal s q =>
        match last.value with
        | .decimal y r =>
            let places := max p (max q r)
            sayNumbers layout between
              ⟨scaled x p places, scaled s q places, some (scaled y r places), places⟩
        | .endless negative =>
            let places := max p q
            if negative = decide (s < 0) then
              sayNumbers layout between ⟨scaled x p places, scaled s q places, none, places⟩
    | _, _ => pure ()

end Sequence

/-! ## Any order -/

namespace Shuffling

def nextChance (state : Nat) : Nat :=
  (state * 6364136223846793005 + 1442695040888963407) % Nat.pow 2 64

/-- So many members of a list, each at most once, by chance. -/
def pick
    {α : Type} :
    Nat → Nat → List α → List α
  | 0, _, _ => []
  | _, _, [] => []
  | count + 1, chance, a :: rest =>
      let all := a :: rest
      let place := chance / Nat.pow 2 33 % all.length
      match all[place]? with
      | some chosen => chosen :: pick count (nextChance chance) (all.eraseIdx place)
      | none => []

def forms : List OptionForm :=
  [ flag "e" ["echo"], valued "i" ["input-range"], valued "n" ["head-count"], valued "o" ["output"],
    valued "random-source" ["random-source"], flag "r" ["repeat"], flag "z" ["zero-terminated"] ]

def rangeOf? (word : Octets) : Option (List Octets) := do
  let low := word.takeWhile (· ≠ '-')
  let first ← digitsIn? 10 low
  let last ← digitsIn? 10 (word.drop (low.length + 1))
  if last + 1 < first then none
  else return (List.range (last + 1 - first)).map fun i => Octets.ofNat (first + i)

/-- The rows that are brought into order. -/
def rowsOf (a : Arguments) (stop : Char) : Work (List Octets) := do
  match a.value? "i" with
  | some word => do
      match a.operands with
      | extra :: _ => Work.extraOperand 1 extra
      | [] => pure ()
      match rangeOf? word with
      | some rows => return rows
      | none => Work.fail 1 ("invalid input range: ".toList ++ Quoting.plain word)
  | none =>
      if a.has "e" then return a.operands
      else
        match a.operands with
        | _ :: extra :: _ => Work.extraOperand 1 extra
        | files => do
            let path := files.headD Work.dash
            match ← Work.readWhole path with
            | .ok data => return Octets.linesBy stop data
            | .error e => Work.fail 1 (path ++ ": ".toList ++ e.reason.toList)

/-- Shows rows by chance, each as often as it comes. -/
def showAgain (stop : Char) (rows : Array Octets) (count chance : Nat) : Work Unit := do
  if rows.isEmpty then Work.failText 1 "no lines to repeat"
  let step (at_ : Nat × Nat) : Work ((Nat × Nat) ⊕ Unit) := do
    if at_.1 = 0 then return .inr ()
    match rows[at_.2 / Nat.pow 2 33 % rows.size]? with
    | some row => Work.say (row ++ [stop])
    | none => pure ()
    return .inl (at_.1 - 1, nextChance at_.2)
  Work.repeat_ () step Act.rounds (count, chance)

/-- Shows rows in any order. -/
def tool : Tool :=
  simple 1 fun words => do
    let a ← Work.arguments forms 1 words
    let stop : Char := if a.has "z" then '\x00' else '\n'
    let counts ← (a.values "n").mapM fun word => do
      match digitsIn? 10 word with
      | some n => pure n
      | none => Work.fail 1 ("invalid line count: ".toList ++ Quoting.plain word)
    let rows ← rowsOf a stop
    let clock : Nat ← Work.ask .clock
    let self : Nat ← Work.ask .self
    let chance := nextChance (nextChance (clock + 7919 * self))
    if a.has "r" then showAgain stop rows.toArray (counts.foldl min Act.rounds) chance
    else
      let data := (pick (counts.foldl min rows.length) chance rows).flatMap fun row => row ++ [stop]
      match a.value? "o" with
      | none => Work.say data
      | some path => do
          match ← Work.act (Act.writeFile path data) with
          | .ok _ => pure ()
          | .error e => Work.fail 1 (path ++ ": ".toList ++ e.reason.toList)

end Shuffling

/-!
## Orders from pairs

The tool that brings names into an order, where pairs of names say which one comes first.
-/

namespace Precedence

/-- A name: how many names before it are left, the names behind it, the last one read first, and whether
it was shown. -/
structure Item where
  name : Octets
  count : Nat
  behind : List Octets
  shown : Bool
  deriving DecidableEq, Repr, Inhabited

/-- All names by their bytes. -/
abbrev Items := List Item

/-- The names with one more among them. -/
def withName (name : Octets) : Items → Items
  | [] => [⟨name, 0, [], false⟩]
  | i :: rest =>
      match Octets.compare name i.name with
      | .lt => ⟨name, 0, [], false⟩ :: i :: rest
      | .eq => i :: rest
      | .gt => i :: withName name rest

def change (name : Octets) (f : Item → Item) (items : Items) : Items :=
  items.map fun i => if i.name = name then f i else i

/-- The names with a pair of them, unless they are the same. -/
def withPair (items : Items) (a b : Octets) : Items :=
  let all := withName b (withName a items)
  if a = b then all
  else
    change b (fun i => { i with count := i.count + 1 })
      (change a (fun i => { i with behind := b :: i.behind }) all)

/-- The names of pairs; nothing if one of them is alone. -/
def ofWords? : Items → List Octets → Option Items
  | items, [] => some items
  | items, a :: b :: rest => ofWords? (withPair items a b) rest
  | _, [_] => none

def item? (items : Items) (name : Octets) : Option Item :=
  items.find? fun i => i.name = name

/-- Counts one name less in front of others, and tells which of them have none any more. -/
def release : Items → List Octets → List Octets × Items
  | items, [] => ([], items)
  | items, name :: rest =>
      let next := change name (fun i => { i with count := i.count - 1 }) items
      let isFree := (item? next name).any fun i => i.count = 0
      let (more, last) := release next rest
      (if isFree then name :: more else more, last)

/-- Shows names that have none in front of them, and those that follow. -/
def showFree : Nat → Items → List Octets → Work Items
  | 0, items, _ => return items
  | _, items, [] => return items
  | fuel + 1, items, name :: queue => do
      Work.sayLine name
      let behind := ((item? items name).map Item.behind).getD []
      let (free, next) := release (change name (fun i => { i with shown := true }) items) behind
      showFree fuel next (queue ++ free)

/-- A way backwards through names, of which each leads to the one before it, the last one first. The name
that it started with does not count as visited. -/
structure Trail where
  names : List Octets
  visited : List Octets
  deriving Inhabited

/-- Goes once through all names and follows a trail backwards. Where it meets itself the names of the loop
are given. -/
def follow : List Item → Trail → Trail × Option (List Octets)
  | [], trail => (trail, none)
  | k :: rest, trail =>
      if k.count = 0 then follow rest trail
      else
        match trail.names with
        | [] => follow rest ⟨[k.name], []⟩
        | last :: _ =>
            if k.behind.contains last then
              if trail.visited.contains k.name then
                (trail, some (trail.names.takeWhile (· ≠ k.name) ++ [k.name]))
              else follow rest ⟨k.name :: trail.names, k.name :: trail.visited⟩
            else follow rest trail

/-- A loop of names, the one that was found last first. -/
def loopOf? (items : Items) : Nat → Trail → Option (List Octets)
  | 0, _ => none
  | fuel + 1, trail =>
      match follow (items.filter fun i => !i.shown) trail with
      | (_, some names) => some names
      | (next, none) => if next.names.isEmpty then none else loopOf? items fuel next

/-- Without the pair that closes a loop. -/
def withoutPair (items : Items) (names : List Octets) : Items :=
  match names.head?, names.getLast? with
  | some first, some last =>
      change first (fun i => { i with count := i.count - 1 })
        (change last (fun i => { i with behind := i.behind.erase first }) items)
  | _, _ => items

/-- Shows all names, and opens loops where only loops are left. -/
def showAll (file : Octets) : Nat → Items → Work Unit
  | 0, _ => pure ()
  | fuel + 1, items => do
      let free := (items.filter fun i => i.count = 0 && !i.shown).map Item.name
      let next ← showFree (items.length + 1) items free
      if next.any fun i => !i.shown then
        match loopOf? next (next.length + 2) ⟨[], []⟩ with
        | none => pure ()
        | some names => do
            Work.complain (Quoting.shellBeforeColon file ++ ": input contains a loop:".toList)
            Work.forAll Work.complain names
            showAll file fuel (withoutPair next names)

/-- Whether a character stands between names. -/
def isGap (c : Char) : Bool :=
  c = ' ' || c = '\t' || c = '\n'

/-- Brings names into order. -/
def tool : Tool :=
  simple 1 fun words => do
    let a ← Work.arguments [] 1 words
    match a.operands with
    | _ :: extra :: _ => Work.extraOperand 1 extra
    | files => do
        let path := files.headD Work.dash
        match ← Work.readWhole path with
        | .error e => Work.fail 1 (Quoting.shellBeforeColon path ++ ": ".toList ++ e.reason.toList)
        | .ok data =>
            let names := (data.splitBy fun x y => isGap x = isGap y).filter fun w =>
              !(w.head?.any isGap)
            match ofWords? [] names with
            | none =>
                Work.fail 1 (Quoting.shellBeforeColon path
                  ++ ": input contains an odd number of tokens".toList)
            | some items =>
                showAll path ((items.flatMap Item.behind).length + items.length + 1) items

end Precedence

end Tool
end Runbook
