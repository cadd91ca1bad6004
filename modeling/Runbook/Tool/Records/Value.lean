import Runbook.Format.Field
import Runbook.Number.Arithmetic
import Runbook.Number.Reading
import Runbook.Text.Octets

/-!
# Values and arrays

The values of programs, and the arrays that hold them.
-/

namespace Runbook
namespace Tool
namespace Records

/-!
## Values of programs

A value is a number, a text, or a text from outside, which counts as a number too if it looks like one.
Numbers become texts by a format, and texts become numbers as far as they begin with one.
-/

/-- A value. What was never set is nothing, which is zero and the empty text. -/
inductive Value where
  | unset
  | number (x : Binary)
  | text (s : Octets)
  | input (s : Octets)
  deriving DecidableEq, Repr, Inhabited

/-- A natural number as a value. -/
def Value.ofNat (n : Nat) : Value :=
  .number (Binary.ofNat n)

/-- A whole number as a value. -/
def Value.ofInt (n : Int) : Value :=
  .number (Binary.ofInt n)

def Value.ofBool (b : Bool) : Value :=
  .ofNat (if b then 1 else 0)

/-! ### Numbers -/

/-- The number that a text begins with; zero if there is none. -/
def numberIn (s : Octets) : Binary :=
  match leadingFloat? .double s with
  | some (x, _) => x
  | none => .zero

/-- Whether a character is a gap around a number. -/
def isBlank (c : Char) : Bool :=
  c = ' ' || c = '\t' || c = '\r' || c = '\x0b' || c = '\x0c'

/-- The number that a text is, if it is one that fits, and that ends with a digit or a point. -/
def numberLike? (s : Octets) : Option Binary :=
  let t := ((s.dropWhile isBlank).reverse.dropWhile isBlank).reverse
  let starts := t.head?.any fun c => c.isDigit || c = '+' || c = '-' || c = '.'
  let ends := t.getLast?.any fun c => c.isDigit || c = '.'
  if !starts || !ends then none
  else
    match leadingFloat? .double t with
    | some (x, []) =>
        let written := t.takeWhile fun c => c ≠ 'e' && c ≠ 'E' && c ≠ 'p' && c ≠ 'P'
        let isExact := match x with
          | .finite _ m _ =>
              decide (Nat.pow 2 52 ≤ m) || written.all fun c => !c.isDigit || c = '0'
          | _ => false
        if isExact then some x else none
    | _ => none

def Value.toNumber : Value → Binary
  | .unset => .zero
  | .number x => x
  | .text s => numberIn s
  | .input s => numberIn s

/-- Whether a value holds: a number does if it is not zero, a text if it is not empty. -/
def Value.holds : Value → Bool
  | .unset => false
  | .number x => !x.isZero
  | .text s => !s.isEmpty
  | .input s =>
      match numberLike? s with
      | some x => !x.isZero
      | none => !s.isEmpty

/-- A text as one from outside. -/
def Value.asInput : Value → Value
  | .text s => .input s
  | v => v

/-- The greatest number of a machine with a sign. -/
def maxSigned : Int := Nat.pow 2 63 - 1

/-- The greatest number of a machine without a sign. -/
def maxUnsigned : Int := Nat.pow 2 64 - 1

/-- A number as one of the machine with a sign, without its fraction; one that is too great is the
greatest one. -/
def clamp (x : Binary) : Int :=
  match x with
  | .nan _ => -maxSigned - 1
  | .infinite negative => if negative then -maxSigned else maxSigned
  | .finite _ _ _ =>
      let n := (x.toInt?).getD 0
      if maxSigned < n then maxSigned
      else if n < -maxSigned - 1 then -maxSigned
      else n

/-- A number as a short one of the machine, of which only the last four bytes count. -/
def short (n : Int) : Int :=
  Int.bmod n (Nat.pow 2 32)

/-- A number as one of the machine without a sign; a negative one counts from the end. -/
def wrap (x : Binary) : Nat :=
  let size (n : Int) : Int := min n maxUnsigned
  match x with
  | .nan _ => Nat.pow 2 63
  | .infinite negative => if negative then 1 else maxUnsigned.toNat
  | .finite _ _ _ =>
      let n := (x.toInt?).getD 0
      if n < 0 then ((-(size (-n))) % Nat.pow 2 64).toNat else (size n).toNat

/-- A number with a sign as it is shown, which may need more room if it is great. -/
def shownInt (x : Binary) : Int :=
  match x with
  | .infinite false => maxUnsigned
  | _ =>
      let n := (x.toInt?).getD 0
      if maxSigned < n then min n maxUnsigned else clamp x

/-- The digits of a number that is whole and not too great. -/
def wholeText? (x : Binary) : Option Octets :=
  match x with
  | .finite _ _ _ =>
      if x.isWhole then
        let n := (x.toInt?).getD 0
        if -maxSigned - 1 ≤ n && n ≤ maxUnsigned + 1 then some (Octets.ofInt (min n maxUnsigned))
        else none
      else none
  | _ => none

/-! ### Formats -/

open Format in
/-- A directive of a format: how a value is laid out, how many values are taken for its width and its
precision, and its letter with the letters for a size in front of it. -/
structure Directive where
  field : Field
  starWidth : Bool
  starPrecision : Bool
  lengths : Octets
  letter : Option Char
  deriving Inhabited

open Format in
/-- Reads a directive behind its sign, and gives what follows it. A point without digits means nothing
for a text. -/
def readDirective (s : Octets) : Directive × Octets :=
  let (f, afterFlags) := readFlags .plain s
  let (width, starWidth, afterWidth) : Nat × Bool × Octets := match afterFlags with
    | '*' :: rest => (0, true, rest)
    | rest => ((readNumber rest).1, false, (readNumber rest).2)
  let (precision, starPrecision, behind) : Option Nat × Bool × Octets := match afterWidth with
    | '.' :: '*' :: rest => (none, true, rest)
    | '.' :: rest => (some (readNumber rest).1, false, (readNumber rest).2)
    | rest => (none, false, rest)
  let isBare : Bool := afterWidth.head? = some '.' && !((afterWidth.drop 1).headD '.').isDigit
  let (lengths, rest) : Octets × Octets := match behind with
    | 'l' :: 'l' :: t => (['l', 'l'], t)
    | 'h' :: 'h' :: t => (['h', 'h'], t)
    | 'l' :: t => (['l'], t)
    | 'h' :: t => (['h'], t)
    | t => ([], t)
  let isText : Bool := rest.head? = some 's' || rest.head? = some 'c'
  let known := if isBare && isText then none else precision
  (⟨{ f with width := width, precision := known }, starWidth, starPrecision, lengths, rest.head?⟩,
    rest.drop 1)

/-- What is wrong with a format and its values. -/
inductive FormatFault where
  | missing
  | improper (number : Nat)
  deriving DecidableEq, Repr, Inhabited

open Format in
/-- Lays out a value in the notation of a letter, if there is such a notation. -/
def layOut?
    (textOf : Value → Octets)
    (f : Field)
    (lengths : Octets)
    (letter : Char)
    (v : Value) :
    Option Octets :=
  let x := v.toNumber
  let plain := lengths.isEmpty
  match letter with
  | 's' => if plain then some (shownText (textOf v)) else none
  | 'c' => if plain then some (f.text (charOf v)) else none
  | 'd' => some (whole (shownInt x))
  | 'i' => some (whole (clamp x))
  | _ =>
      if "ouxX".toList.contains letter then some (f.unsigned letter (wrap x % size))
      else if plain && "eEfgG".toList.contains letter then some (f.float letter x)
      else none
where
  /-- A text; an empty one is preceded by a blank if numbers would be. -/
  shownText (s : Octets) : Octets :=
    if s.isEmpty && f.space then ' ' :: f.text s else f.text s
  /-- How many numbers there are of the size that was asked for. -/
  size : Nat :=
    if lengths = ['h'] then Nat.pow 2 16
    else if lengths = ['h', 'h'] then Nat.pow 2 8
    else Nat.pow 2 64
  /-- A whole number; one that is too great for a sign has none unless a size was asked for. -/
  whole (n : Int) : Octets :=
    if !lengths.isEmpty then f.signed (Int.bmod n size)
    else if maxSigned < n then { f with plus := false, space := false }.signed n
    else f.signed n
  /-- The character that a value stands for. -/
  charOf : Value → Octets
    | .unset => ['\x00']
    | .number x => [ofCode x]
    | .text s => [s.headD '\x00']
    | .input s =>
        match numberLike? s with
        | some x => [ofCode x]
        | none => [s.headD '\x00']
  /-- The character with a code, of which only the last byte counts. -/
  ofCode (x : Binary) : Char :=
    Char.ofNat ((clamp x) % 256).toNat

/-- A whole number that is taken for a width or a precision. -/
def star (v : Value) : Int :=
  clamp v.toNumber

/-- Goes through a format, behind what was laid out, which is held in reverse, and so many directives.
Gives all that was laid out, and what is wrong if it does not come to its end. -/
def formatFrom
    (textOf : Value → Octets) :
    Nat → List Octets → Nat → Octets → List Value → Octets × Option FormatFault
  | 0, done, _, _, _ => (done.reverse.flatten, none)
  | _, done, _, [], _ => (done.reverse.flatten, none)
  | fuel + 1, done, count, '%' :: '%' :: s, values =>
      formatFrom textOf fuel (['%'] :: done) count s values
  | fuel + 1, done, count, '%' :: s, values =>
      let (d, rest) := readDirective s
      let (f, afterWidth) : Format.Field × List Value := match d.starWidth, values with
        | true, v :: more => (d.field.withWidth (star v), more)
        | _, _ => (d.field, values)
      let (g, afterPrecision) : Format.Field × List Value := match d.starPrecision, afterWidth with
        | true, v :: more => (f.withPrecision (star v), more)
        | _, _ => (f, afterWidth)
      match afterPrecision with
      | [] => (done.reverse.flatten, some .missing)
      | v :: more =>
          match d.letter.bind fun letter => layOut? textOf g d.lengths letter v with
          | some text => formatFrom textOf fuel (text :: done) (count + 1) rest more
          | none => (done.reverse.flatten, some (.improper (count + 1)))
  | fuel + 1, done, count, c :: s, values =>
      let plain := c :: s.takeWhile (· ≠ '%')
      formatFrom textOf fuel (plain :: done) count (s.drop (plain.length - 1)) values

def formatValues
    (textOf : Value → Octets)
    (template : Octets)
    (values : List Value) :
    Octets × Option FormatFault :=
  formatFrom textOf (template.length + 1) [] 0 template values

/-! ### Texts -/

/-- The format of numbers that is used unless another one is set. -/
def standardFormat : Octets :=
  "%.6g".toList

/-- The text of a number, by a format unless it is whole. -/
def numberText (format : Octets) (x : Binary) : Octets :=
  match wholeText? x with
  | some digits => digits
  | none => (formatValues (fun _ => []) format [.number x]).1

def Value.toText (format : Octets) : Value → Octets
  | .unset => []
  | .number x => numberText format x
  | .text s => s
  | .input s => s

/-- Whether a text may be a format of numbers: it has at most one directive. -/
def isNumberFormat (s : Octets) : Bool :=
  match s.dropWhile (· ≠ '%') with
  | [] => true
  | _ :: rest =>
      let (d, after) := readDirective rest
      (d.letter.any fun c => "dioxXucseEfgG".toList.contains c) && !after.contains '%'
        && !d.starWidth && !d.starPrecision

/-! ### Comparisons -/

/-- A value as a number, if it is to be compared as one. -/
def Value.comparable? : Value → Option Binary
  | .unset => some .zero
  | .number x => some x
  | .text _ => none
  | .input s => numberLike? s

/-- The order of two values: by their numbers if both have one, and by their texts otherwise. What is no
number counts as equal to all. -/
def Value.compare (format : Octets) (a b : Value) : Ordering :=
  match a.comparable?, b.comparable? with
  | some x, some y => (x.compare? y).getD .eq
  | _, _ => Octets.compare (a.toText format) (b.toText format)

/-!
## Arrays

An array holds values by keys. The order in which its keys are visited depends on how they are stored:
a key is kept in a slot by its hash, and what was looked for last comes first in its slot. Whole numbers
have slots of their own, and get slots as texts only when texts are needed. The parts of a text that was
split are kept by their numbers until another key is used.
-/

/-- A key: a whole number or a text. A number and its digits are the same key. -/
inductive Key where
  | number (n : Int)
  | text (s : Octets)
  deriving DecidableEq, Repr, Inhabited

/-- An array: the slots of text keys and of number keys, each key with the number of its cell, the cells,
how many keys there are, whether all keys are among the texts, and whether the keys are the numbers from
one on. -/
structure Table where
  texts : Array (List (Octets × Nat))
  numbers : Array (List (Int × Nat))
  cells : Array Value
  size : Nat
  hasTexts : Bool
  inOrder : Bool
  deriving Repr, Inhabited

namespace Table

def firstSlots : Nat := 64

/-- How many keys there may be for each slot. -/
def crowd : Nat := 12

/-- An array without keys. -/
def empty : Table :=
  { texts := Array.replicate firstSlots []
    numbers := Array.replicate firstSlots []
    cells := #[]
    size := 0
    hasTexts := false
    inOrder := false }

/-- The array of the parts of a text. -/
def ofParts (parts : List Value) : Table :=
  { empty with
    cells := parts.toArray
    size := parts.length
    inOrder := !parts.isEmpty }

def slots (t : Table) : Nat :=
  t.texts.size

def hash (s : Octets) : Nat :=
  s.foldl (fun h c => (Nat.xor h c.toNat * 16777619) % Nat.pow 2 32) 2166136261

def textSlot (t : Table) (s : Octets) : Nat :=
  hash s % t.slots

def numberSlot (t : Table) (n : Int) : Nat :=
  (n % t.slots).toNat

/-- Puts a key in front of a slot of texts. -/
def addText (s : Octets) (cell : Nat) (t : Table) : Table :=
  { t with texts := t.texts.modify (t.textSlot s) fun l => (s, cell) :: l }

/-- Puts a key in front of a slot of numbers. -/
def addNumber (n : Int) (cell : Nat) (t : Table) : Table :=
  { t with numbers := t.numbers.modify (t.numberSlot n) fun l => (n, cell) :: l }

/-- Twice as many slots, among which the keys of each are shared in their order. -/
def doubled (t : Table) : Table :=
  let count := 2 * t.slots
  let texts := t.texts.toList
  let numbers := t.numbers.toList
  let lowTexts := texts.map (·.filter fun e => hash e.1 % count < t.slots)
  let highTexts := texts.map (·.filter fun e => t.slots ≤ hash e.1 % count)
  let lowNumbers := numbers.map (·.filter fun e => (e.1 % (count : Int)).toNat < t.slots)
  let highNumbers := numbers.map (·.filter fun e => t.slots ≤ (e.1 % (count : Int)).toNat)
  { t with
    texts := (lowTexts ++ highTexts).toArray
    numbers := (lowNumbers ++ highNumbers).toArray }

/-- More slots if the keys are too many for them. -/
def grown (t : Table) : Table :=
  if t.slots * crowd < t.size then t.doubled else t

/-- How many slots are needed for so many keys, from a number of slots on. -/
def slotsFor (size : Nat) : Nat → Nat → Nat
  | 0, count => count
  | fuel + 1, count => if count * crowd < size then slotsFor size fuel (2 * count) else count

/-- The array with its keys in slots. -/
def inSlots (t : Table) : Table :=
  if !t.inOrder then t
  else
    let count := slotsFor t.size 64 firstSlots
    let bare : Table :=
      { t with
        texts := Array.replicate count []
        numbers := Array.replicate count []
        inOrder := false }
    (List.range t.size).foldl (fun u (i : Nat) => u.addNumber ((i : Int) + 1) i) bare

/-- The array with all keys among the texts. -/
def withTexts (t : Table) : Table :=
  let u := t.inSlots
  if u.hasTexts then u
  else
    let added := u.numbers.foldl
      (fun v l => l.foldl (fun w e => w.addText (Octets.ofInt e.1) e.2) v) u
    { added with hasTexts := true }

/-- Moves a key to the front of a slot. -/
def toFront
    {α : Type}
    [DecidableEq α]
    (key : α)
    (cell : Nat)
    (l : List (α × Nat)) :
    List (α × Nat) :=
  (key, cell) :: l.filter fun e => e.1 ≠ key

/-- Looks for a text key in its slot; what is found comes first there. -/
def findText (s : Octets) (t : Table) : Option Nat × Table :=
  let slot := t.textSlot s
  match (t.texts[slot]?.getD []).lookup s with
  | some cell => (some cell, { t with texts := t.texts.modify slot (toFront s cell) })
  | none => (none, t)

/-- Looks for a number key in its slot; what is found comes first there. -/
def findNumber (n : Int) (t : Table) : Option Nat × Table :=
  let slot := t.numberSlot n
  match (t.numbers[slot]?.getD []).lookup n with
  | some cell => (some cell, { t with numbers := t.numbers.modify slot (toFront n cell) })
  | none => (none, t)

def withCell (t : Table) : Nat × Table :=
  (t.cells.size, { t with cells := t.cells.push .unset, size := t.size + 1 })

/-- The cell of a key, which is made if it is wanted and was not there. -/
def cell? (create : Bool) (key : Key) (t : Table) : Option Nat × Table :=
  if t.size = 0 && !create then (none, t)
  else
    match key with
    | .text s =>
        let u := t.withTexts
        match u.findText s with
        | (some cell, v) => (some cell, v)
        | (none, v) =>
            if create then
              let (cell, w) := v.withCell
              (some cell, (w.addText s cell).grown)
            else (none, v)
    | .number n =>
        if t.inOrder && 1 ≤ n && n ≤ t.size then (some (n - 1).toNat, t)
        else
          let u := t.inSlots
          match u.findNumber n with
          | (some cell, v) => (some cell, v)
          | (none, v) =>
              let (known, w) := if v.hasTexts then v.findText (Octets.ofInt n) else (none, v)
              match known with
              | some cell => (some cell, w.addNumber n cell)
              | none =>
                  if create then
                    let (cell, x) := w.withCell
                    let y := if x.hasTexts then x.addText (Octets.ofInt n) cell else x
                    (some cell, (y.addNumber n cell).grown)
                  else (none, w)

def value (t : Table) (cell : Nat) : Value :=
  t.cells[cell]?.getD .unset

def setValue (cell : Nat) (v : Value) (t : Table) : Table :=
  { t with cells := t.cells.setIfInBounds cell v }

/-- The number that a text writes as digits, if it is written so when the number is shown. -/
def asNumber? (s : Octets) : Option Int :=
  match (String.ofList s).toInt? with
  | some n => if Octets.ofInt n = s then some n else none
  | none => none

/-- The array without a key. -/
def erase (key : Key) (t : Table) : Table :=
  match t.cell? false key with
  | (none, u) => u
  | (some _, found) =>
      let u := found.inSlots
      let (text, number) : Octets × Option Int := match key with
        | .text s => (s, asNumber? s)
        | .number n => (Octets.ofInt n, some n)
      let withoutText :=
        { u with texts := u.texts.modify (u.textSlot text) fun l => l.filter fun e => e.1 ≠ text }
      let without := match number with
        | some n =>
            { withoutText with
              numbers := withoutText.numbers.modify (u.numberSlot n) fun l =>
                l.filter fun e => e.1 ≠ n }
        | none => withoutText
      if without.size ≤ 1 then empty else { without with size := without.size - 1 }

/-- The keys in the order in which they are visited. -/
def keys (t : Table) : List Octets × Table :=
  if t.size = 0 then ([], t)
  else
    let u := t.withTexts
    (u.texts.toList.flatMap fun l => l.map Prod.fst, u)

end Table

end Records
end Tool
end Runbook
