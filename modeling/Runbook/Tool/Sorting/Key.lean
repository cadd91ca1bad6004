import Runbook.Number.Reading
import Runbook.Text.Octets

/-!
# Orders

The orders that lines and names are sorted by.
-/

namespace Runbook

/-!
## The order of versions

Names with numbers in them are ordered by these numbers. Endings such as `.txt` count only between
names that are otherwise the same.
-/

namespace VersionOrder

/-- The rank of what stands at the front of a text, where a tilde comes before the end. -/
def rank : Octets → Int
  | [] => -1
  | c :: _ =>
      if c.isDigit then 0
      else if c.isAlpha then c.toNat
      else if c = '~' then -2
      else c.toNat + 256

def startsWithDigit : Octets → Bool
  | c :: _ => c.isDigit
  | [] => false

/-- Compares what stands in front of digits, and hands out what follows. -/
def compareText : Nat → Octets → Octets → Except Ordering (Octets × Octets)
  | 0, a, b => .ok (a, b)
  | fuel + 1, a, b =>
      let isDone (s : Octets) : Bool := s.isEmpty || startsWithDigit s
      if isDone a && isDone b then .ok (a, b)
      else if rank a < rank b then .error .lt
      else if rank b < rank a then .error .gt
      else compareText fuel (a.drop 1) (b.drop 1)

/-- Compares two texts part by part, digits as numbers. -/
def compareParts : Nat → Octets → Octets → Ordering
  | 0, _, _ => .eq
  | fuel + 1, a, b =>
      if a.isEmpty && b.isEmpty then .eq
      else
        match compareText (a.length + b.length + 1) a b with
        | .error o => o
        | .ok (s, t) =>
            let digits := s.takeWhile Char.isDigit
            let others := t.takeWhile Char.isDigit
            let n := (digitsIn? 10 digits).getD 0
            let m := (digitsIn? 10 others).getD 0
            if n < m then .lt
            else if m < n then .gt
            else compareParts fuel (s.drop digits.length) (t.drop others.length)

/-- Whether a text is a point, a letter and then letters and digits. -/
def isEnding : Octets → Bool
  | '.' :: c :: s =>
      (c.isAlpha || c = '~') && s.all fun d => d.isAlphanum || d = '~'
  | _ => false

/-- A name without its endings; `s` is the name in reverse. -/
def withoutEndings : Nat → Octets → Octets
  | 0, s => s
  | fuel + 1, s =>
      let last := s.takeWhile (· ≠ '.')
      match s.drop last.length with
      | _ :: rest =>
          if !rest.isEmpty && isEnding ('.' :: last.reverse) then withoutEndings fuel rest else s
      | [] => s

/-- A name without its endings. -/
def stem (name : Octets) : Octets :=
  (withoutEndings (name.length + 1) name.reverse).reverse

/-- The order of two names. -/
def compare (a b : Octets) : Ordering :=
  let parts (s t : Octets) : Ordering := compareParts (s.length + t.length + 2) s t
  let isHidden (s : Octets) : Bool := s.head? = some '.'
  if a = b then .eq
  else if a.isEmpty then .lt
  else if b.isEmpty then .gt
  else if isHidden a && !isHidden b then .lt
  else if isHidden b && !isHidden a then .gt
  else if a = ['.'] then .lt
  else if b = ['.'] then .gt
  else if a = ['.', '.'] then .lt
  else if b = ['.', '.'] then .gt
  else
    match parts (stem a) (stem b) with
    | .eq => parts a b
    | o => o

end VersionOrder

/-!
## Sort keys

A key is a part of a line, from one field and place to another, together with the way in which such
parts are compared.
-/

namespace Tool
namespace Sorting

/-- How keys are compared. -/
inductive Order where
  | text
  | number
  | float
  | human
  | month
  | random
  | version
  deriving DecidableEq, Repr, Inhabited

/-- The ways of comparing that letters ask for. -/
structure Ordering_ where
  orders : List Order
  dictionary : Bool
  folds : Bool
  printable : Bool
  reverse : Bool
  skipsStart : Bool
  skipsEnd : Bool
  deriving DecidableEq, Repr, Inhabited

/-- Comparing by bytes. -/
def Ordering_.plain : Ordering_ :=
  ⟨[], false, false, false, false, false, false⟩

def Ordering_.order (o : Ordering_) : Order :=
  ([.number, .float, .human, .month, .random, .version].find? o.orders.contains).getD .text

/-- Whether only some characters count. -/
def Ordering_.selects (o : Ordering_) : Bool :=
  o.dictionary || o.printable

/-- The letters for what is compared, if they do not go together: numbers of different kinds and months
exclude each other, and exclude that only some characters count. -/
def Ordering_.clash? (o : Ordering_) : Option Octets :=
  let strong := [Order.number, .float, .human, .month].filter o.orders.contains
  let others := o.orders.contains .random || o.orders.contains .version || o.selects
  if strong.length + (if others then 1 else 0) ≤ 1 then none
  else
    some ([('d', o.dictionary), ('f', o.folds), ('g', o.orders.contains .float),
      ('h', o.orders.contains .human), ('i', o.printable && !o.dictionary),
      ('M', o.orders.contains .month), ('n', o.orders.contains .number),
      ('R', o.orders.contains .random), ('V', o.orders.contains .version)].filterMap fun e =>
        if e.2 then some e.1 else none)

/-- A place in a line: so many fields and then so many bytes; no bytes at the end of a key stand for a
whole field. -/
structure Position where
  field : Nat
  place : Nat
  deriving DecidableEq, Repr, Inhabited

/-- A key: where it starts, where it ends, and how it is compared. -/
structure Key where
  start : Position
  stop : Option Position
  ordering : Ordering_
  deriving Repr, Inhabited

/-- Whether a character is a blank between fields. -/
def isBlank (c : Char) : Bool :=
  c = ' ' || c = '\t' || c = '\n'

/-- What follows so many fields. -/
def dropFields
    (separator : Option Char) :
    Nat → Octets → Octets
  | 0, s => s
  | n + 1, s =>
      match separator with
      | some c => dropFields separator n ((s.dropWhile (· ≠ c)).drop 1)
      | none => dropFields separator n ((s.dropWhile isBlank).dropWhile fun c => !isBlank c)

/-- How many bytes so many fields take; the separator behind the last one counts only if something of
the next field does. -/
def fieldsLength
    (separator : Option Char)
    (goesOn : Bool) :
    Nat → Octets → Nat
  | 0, _ => 0
  | n + 1, s =>
      match separator with
      | some c =>
          let field := s.takeWhile (· ≠ c)
          if field.length = s.length then field.length
          else if n = 0 && !goesOn then field.length
          else field.length + 1 + fieldsLength separator goesOn n (s.drop (field.length + 1))
      | none =>
          let rest := (s.dropWhile isBlank).dropWhile fun d => !isBlank d
          (s.length - rest.length) + fieldsLength separator goesOn n rest

/-- The number of the byte at which a key starts. -/
def Key.startIn
    (k : Key)
    (separator : Option Char)
    (line : Octets) :
    Nat :=
  let rest := dropFields separator k.start.field line
  let rest := if k.ordering.skipsStart then rest.dropWhile isBlank else rest
  min line.length (line.length - rest.length + k.start.place)

/-- The number of the byte behind a key. -/
def Key.stopIn
    (k : Key)
    (separator : Option Char)
    (line : Octets) :
    Nat :=
  match k.stop with
  | none => line.length
  | some p =>
      if p.place = 0 then fieldsLength separator false (p.field + 1) line
      else
        let before := fieldsLength separator true p.field line
        let rest := line.drop before
        let blanks := if k.ordering.skipsEnd then rest.length - (rest.dropWhile isBlank).length else 0
        min line.length (before + blanks + p.place)

def Key.part
    (k : Key)
    (separator : Option Char)
    (line : Octets) :
    Octets :=
  let start := k.startIn separator line
  (line.drop start).take (k.stopIn separator line - start)

/-- A decimal number at the front of a text, as a whole number and the places behind its point, which
are cut off of zeros. -/
def decimalOf (s : Octets) : Int × Nat :=
  let t := s.dropWhile isBlank
  let (negative, u) := match t with
    | '-' :: v => (true, v)
    | v => (false, v)
  let whole := u.takeWhile Char.isDigit
  let fraction := match u.drop whole.length with
    | '.' :: v => v.takeWhile Char.isDigit
    | _ => []
  let n : Int := (digitsIn? 10 (whole ++ fraction)).getD 0
  (if negative then -n else n, fraction.length)

/-- The order of two whole numbers. -/
def compareInts (a b : Int) : Ordering :=
  if a < b then .lt else if b < a then .gt else .eq

/-- The order of two decimal numbers. -/
def compareDecimals (a b : Int × Nat) : Ordering :=
  compareInts (a.1 * Nat.pow 10 b.2) (b.1 * Nat.pow 10 a.2)

/-- The power of the unit behind a number, with the sign of the number. -/
def unitPower (s : Octets) : Int :=
  let t := s.dropWhile isBlank
  let negative := t.head? = some '-'
  let u := if negative then t.drop 1 else t
  let whole := u.takeWhile Char.isDigit
  let digits := match u.drop whole.length with
    | '.' :: v => whole ++ '.' :: v.takeWhile Char.isDigit
    | _ => whole
  if !digits.any (fun c => c.isDigit && c ≠ '0') then 0
  else
    let power : Int := match (u.drop digits.length).head? with
      | some c =>
          match "KMGTPEZYRQ".toList.findIdx? (· = c) with
          | some i => i + 1
          | none => if c = 'k' then 1 else 0
      | none => 0
    if negative then -power else power

/-- The number of a month that a text starts with; zero if there is none. -/
def monthOf (s : Octets) : Nat :=
  let name := ((s.dropWhile isBlank).take 3).map Char.toUpper
  match (["JAN", "FEB", "MAR", "APR", "MAY", "JUN", "JUL", "AUG", "SEP", "OCT", "NOV",
      "DEC"].findIdx? fun m => m.toList = name) with
  | some i => i + 1
  | none => 0

/-- The order of floating point numbers; what is none comes first. -/
def compareFloats (a b : Octets) : Ordering :=
  let rank : Option (Binary × List Char) → Nat
    | none => 0
    | some (.nan _, _) => 1
    | some (.infinite true, _) => 2
    | some (.finite _ _ _, _) => 3
    | some (.infinite false, _) => 4
  let x := leadingFloat? .extended a
  let y := leadingFloat? .extended b
  match x, y with
  | some (.finite n m e, _), some (.finite n' m' e', _) =>
      let low := min e e'
      let v : Int := m * Nat.pow 2 (e - low).toNat
      let w : Int := m' * Nat.pow 2 (e' - low).toNat
      compareInts (if n then -v else v) (if n' then -w else w)
  | _, _ => compareInts (rank x) (rank y)

/-- A text without the characters that do not count. -/
def Ordering_.visible
    (o : Ordering_)
    (s : Octets) :
    Octets :=
  let kept := s.filter fun c =>
    if o.dictionary then c.isAlphanum || isBlank c else !o.printable || (' ' ≤ c && c ≤ '~')
  if o.folds then kept.map Char.toUpper else kept

/-- The order of two keys. -/
def Ordering_.compare
    (o : Ordering_)
    (a b : Octets) :
    Ordering :=
  let x := o.visible a
  let y := o.visible b
  let forward : Ordering := match o.order with
    | .text => Octets.compare x y
    | .random => Octets.compare x y
    | .number => compareDecimals (decimalOf x) (decimalOf y)
    | .float => compareFloats x y
    | .human =>
        match compareInts (unitPower x) (unitPower y) with
        | .eq => compareDecimals (decimalOf x) (decimalOf y)
        | r => r
    | .month => compareInts (monthOf x) (monthOf y)
    | .version => VersionOrder.compare x y
  if o.reverse then forward.swap else forward

end Sorting
end Tool
end Runbook
