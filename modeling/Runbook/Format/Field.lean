import Runbook.Number.Binary
import Runbook.Number.Reading
import Runbook.Text.Octets

/-!
# Fields, escapes and decimal layouts

The parts of a format: directives that lay out a value, and escapes that stand for other characters.
Floating point numbers are laid out in a field with a point at a fixed place, with an exponent, or
whichever is shorter. All digits come from the exact value, the last one rounded with ties to even.
-/

namespace Runbook
namespace Format

/-!
## Fields of formatted output

A directive of a format says how a value is laid out: to which side, filled up with what, how wide,
and how precisely. Texts and whole numbers are laid out here.
-/

/-- How a value is laid out. -/
structure Field where
  left : Bool
  plus : Bool
  space : Bool
  zero : Bool
  alternate : Bool
  width : Nat
  precision : Option Nat
  deriving DecidableEq, Repr, Inhabited

namespace Field

def plain : Field :=
  ⟨false, false, false, false, false, 0, none⟩

/-- Fills a text up to the width. -/
def pad
    (f : Field)
    (s : Octets) :
    Octets :=
  if f.left then Octets.padRight f.width s else Octets.padLeft f.width ' ' s

/-- Lays out a text, of which at most as much is shown as the precision says. -/
def text
    (f : Field)
    (s : Octets) :
    Octets :=
  f.pad (match f.precision with
    | some p => s.take p
    | none => s)

/-- The sign in front of a number. -/
def sign
    (f : Field)
    (negative : Bool) :
    Octets :=
  if negative then ['-'] else if f.plus then ['+'] else if f.space then [' '] else []

/-- Lays out a number with a sign or a mark in front of its digits. Zeros fill the field if that is
allowed. -/
def numeral
    (f : Field)
    (fills : Bool)
    (front digits : Octets) :
    Octets :=
  if f.zero && !f.left && fills then
    front ++ Octets.padLeft (f.width - front.length) '0' digits
  else f.pad (front ++ digits)

/-- The digits of a number, as many as the precision says at least. Nothing shows a zero of no
digits. -/
def digits
    (f : Field)
    (base : Nat)
    (n : Nat) :
    Octets :=
  match f.precision with
  | some p => if n = 0 && p = 0 then [] else Octets.padLeft p '0' (Nat.toDigits base n)
  | none => Nat.toDigits base n

/-- Lays out a number with a sign. -/
def signed
    (f : Field)
    (n : Int) :
    Octets :=
  f.numeral f.precision.isNone (f.sign (n < 0)) (f.digits 10 n.natAbs)

/-- Lays out a number without a sign, in the notation of a letter. -/
def unsigned
    (f : Field)
    (letter : Char)
    (n : Nat) :
    Octets :=
  let fills := f.precision.isNone
  match letter with
  | 'o' =>
      let d := f.digits 8 n
      f.numeral fills [] (if f.alternate && d.head? ≠ some '0' then '0' :: d else d)
  | 'x' => f.numeral fills (if f.alternate && n ≠ 0 then ['0', 'x'] else []) (f.digits 16 n)
  | 'X' =>
      f.numeral fills (if f.alternate && n ≠ 0 then ['0', 'X'] else [])
        ((f.digits 16 n).map Char.toUpper)
  | _ => f.numeral fills [] (f.digits 10 n)

end Field

/-- The flags at the front of a directive. -/
def readFlags : Field → Octets → Field × Octets
  | f, '-' :: s => readFlags { f with left := true } s
  | f, '+' :: s => readFlags { f with plus := true } s
  | f, ' ' :: s => readFlags { f with space := true } s
  | f, '0' :: s => readFlags { f with zero := true } s
  | f, '#' :: s => readFlags { f with alternate := true } s
  | f, s => (f, s)

/-- The number that digits at the front of a text stand for, and what follows them. -/
def readNumber (s : Octets) : Nat × Octets :=
  let digits := s.takeWhile Char.isDigit
  ((digitsIn? 10 digits).getD 0, s.drop digits.length)

/-- A width or precision that an argument gives: a negative width lays out to the left, a negative
precision counts for nothing. -/
def Field.withWidth
    (f : Field)
    (n : Int) :
    Field :=
  if n < 0 then { f with left := true, width := n.natAbs } else { f with width := n.toNat }

def Field.withPrecision
    (f : Field)
    (n : Int) :
    Field :=
  { f with precision := if n < 0 then none else some n.toNat }

/-- The code of a character in an escape, in a base and of so many digits, and what follows it. -/
def readCode
    (base most : Nat)
    (s : Octets) :
    Option (Char × Octets) :=
  let digits := (s.take most).takeWhile fun c => (digitValue? c).any (· < base)
  if digits.isEmpty then none
  else some (Char.ofNat (((digitsIn? base digits).getD 0) % 256), s.drop digits.length)

/-- The control character of a letter after a backslash. -/
def control? : Char → Option Char
  | 'a' => some '\x07'
  | 'b' => some '\x08'
  | 'e' => some '\x1b'
  | 'f' => some '\x0c'
  | 'n' => some '\n'
  | 'r' => some '\r'
  | 't' => some '\t'
  | 'v' => some '\x0b'
  | '\\' => some '\\'
  | _ => none

/-!
## Escapes

A backslash and what follows it may stand for another character, or end the output. Notations differ
in how codes are written.
-/

/-- What escapes a notation has: octal codes behind a zero only or also without it, hexadecimal codes,
quotes, and the end of all output. -/
structure EscapeStyle where
  behindZero : Bool
  bareOctal : Bool
  hexadecimal : Bool
  quotes : Bool
  stops : Bool
  deriving DecidableEq, Repr, Inhabited

namespace EscapeStyle

def shellFormat : EscapeStyle :=
  ⟨false, true, false, false, false⟩

def shellArgument : EscapeStyle :=
  ⟨true, true, false, false, true⟩

def toolFormat : EscapeStyle :=
  ⟨false, true, true, true, true⟩

def toolArgument : EscapeStyle :=
  ⟨true, true, true, true, true⟩

/-- The escapes of the tool that repeats its arguments. -/
def toolEcho : EscapeStyle :=
  ⟨true, true, true, false, true⟩

end EscapeStyle

/-- What follows a backslash: the character it stands for, nothing known, or the end of output. -/
inductive Escape where
  | char (c : Char) (rest : Octets)
  | unknown
  | stop
  deriving DecidableEq, Repr, Inhabited

/-- Reads what follows a backslash. -/
def readEscape
    (style : EscapeStyle)
    (s : Octets) :
    Escape :=
  match s with
  | [] => .unknown
  | c :: rest =>
      let code (found : Option (Char × Octets)) : Escape := match found with
        | some (d, after) => .char d after
        | none => .unknown
      if c = 'c' && style.stops then .stop
      else if c = '0' && style.behindZero then
        match readCode 8 3 rest with
        | some (d, after) => .char d after
        | none => .char '\x00' rest
      else if c = 'x' && style.hexadecimal then code (readCode 16 2 rest)
      else if c = '"' && style.quotes then .char '"' rest
      else
        match control? c with
        | some d => .char d rest
        | none => if style.bareOctal then code (readCode 8 3 s) else .unknown

/-- A text with its escapes read, behind what was read of it in reverse, and whether they end all
output. -/
def unescapeFrom
    (style : EscapeStyle) :
    Nat → Octets → Octets → Octets × Bool
  | 0, done, _ => (done.reverse, false)
  | _, done, [] => (done.reverse, false)
  | fuel + 1, done, '\\' :: s =>
      match readEscape style s with
      | .stop => (done.reverse, true)
      | .char c rest => unescapeFrom style fuel (c :: done) rest
      | .unknown =>
          match s with
          | [] => (('\\' :: done).reverse, false)
          | c :: rest => unescapeFrom style fuel (c :: '\\' :: done) rest
  | fuel + 1, done, c :: s => unescapeFrom style fuel (c :: done) s

/-- A text with its escapes read, and whether they end all output. -/
def unescape
    (style : EscapeStyle)
    (s : Octets) :
    Octets × Bool :=
  unescapeFrom style (s.length + 1) [] s

/-! ## Decimal layouts -/

/-- A number that is not negative, as a quotient. -/
structure Quotient where
  num : Nat
  den : Nat
  deriving DecidableEq, Repr, Inhabited

namespace Quotient

/-- A quotient times a power of ten. -/
def shift
    (q : Quotient)
    (places : Int) :
    Quotient :=
  if 0 ≤ places then ⟨q.num * Nat.pow 10 places.toNat, q.den⟩
  else ⟨q.num, q.den * Nat.pow 10 (-places).toNat⟩

/-- The nearest whole number. -/
def round (q : Quotient) : Nat :=
  divideToEven q.num q.den

/-- Whether ten to a power is at most a quotient. -/
def reaches
    (q : Quotient)
    (power : Int) :
    Bool :=
  let r := q.shift (-power)
  r.den ≤ r.num

/-- The greatest power of ten that a quotient reaches, looked for from a guess. -/
def exponentFrom
    (q : Quotient) :
    Nat → Int → Int
  | 0, power => power
  | fuel + 1, power =>
      if q.reaches power then
        if q.reaches (power + 1) then exponentFrom q fuel (power + 1) else power
      else exponentFrom q fuel (power - 1)

/-- The greatest power of ten that a quotient reaches; zero for zero. -/
def exponent (q : Quotient) : Int :=
  if q.num = 0 then 0
  else
    let guess := ((Nat.toDigits 10 q.num).length : Int) - ((Nat.toDigits 10 q.den).length : Int)
    exponentFrom q 4 guess

/-- The first digits of a quotient, rounded, and the power of ten that the first of them stands
for. -/
def firstDigits
    (q : Quotient)
    (count : Nat) :
    Octets × Int :=
  let e := q.exponent
  let digits := Nat.toDigits 10 (q.shift ((count : Int) - 1 - e)).round
  if q.num = 0 then (List.replicate count '0', 0)
  else if count < digits.length then (digits.take count, e + 1)
  else (digits, e)

end Quotient

/-- Digits with a point after so many of them; the point is left out if nothing follows, unless it is
asked for. -/
def withPoint
    (keeps : Bool)
    (whole fraction : Octets) :
    Octets :=
  if fraction.isEmpty && !keeps then whole else whole ++ '.' :: fraction

/-- A number with so many digits after the point. -/
def fixed
    (keeps : Bool)
    (places : Nat)
    (q : Quotient) :
    Octets :=
  let digits := Octets.padLeft (places + 1) '0' (Nat.toDigits 10 (q.shift places).round)
  withPoint keeps (digits.take (digits.length - places)) (digits.drop (digits.length - places))

/-- An exponent with its sign and at least two digits. -/
def exponentText
    (letter : Char)
    (e : Int) :
    Octets :=
  letter :: (if e < 0 then '-' else '+') :: Octets.padLeft 2 '0' (Octets.ofNat e.natAbs)

/-- A number with one digit before the point, so many after it, and an exponent. -/
def scientific
    (keeps : Bool)
    (letter : Char)
    (places : Nat)
    (q : Quotient) :
    Octets :=
  let (digits, e) := q.firstDigits (places + 1)
  withPoint keeps (digits.take 1) (digits.drop 1) ++ exponentText letter e

def withoutZeros (digits : Octets) : Octets :=
  (digits.reverse.dropWhile (· = '0')).reverse

/-- A number with so many digits, with an exponent if it is very small or has more digits before the
point. Zeros at the end are left out, unless they are asked for. -/
def general
    (keeps : Bool)
    (letter : Char)
    (precision : Nat)
    (q : Quotient) :
    Octets :=
  let count := max precision 1
  let (digits, e) := q.firstDigits count
  let trim (fraction : Octets) : Octets := if keeps then fraction else withoutZeros fraction
  if e < -4 || (count : Int) ≤ e then
    withPoint keeps (digits.take 1) (trim (digits.drop 1)) ++ exponentText letter e
  else if e < 0 then
    withPoint keeps ['0'] (trim (List.replicate (e.natAbs - 1) '0' ++ digits))
  else
    withPoint keeps (digits.take (e.toNat + 1)) (trim (digits.drop (e.toNat + 1)))

/-- Lays out a floating point number in the notation of a letter. -/
def Field.float
    (f : Field)
    (letter : Char)
    (x : Binary) :
    Octets :=
  let upper := letter.isUpper
  let word (s : String) : Octets := if upper then s.toUpper.toList else s.toList
  match x with
  | .nan negative => f.numeral false (f.sign negative) (word "nan")
  | .infinite negative => f.numeral false (f.sign negative) (word "inf")
  | .finite negative mantissa exponent =>
      let (num, den) := Binary.magnitude mantissa exponent
      let q : Quotient := ⟨num, den⟩
      let places := f.precision.getD 6
      let body := match letter.toLower with
        | 'f' => fixed f.alternate places q
        | 'e' => scientific f.alternate (if upper then 'E' else 'e') places q
        | _ => general f.alternate (if upper then 'E' else 'e') places q
      f.numeral true (f.sign negative) body

end Format
end Runbook
