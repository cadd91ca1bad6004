import Runbook.Number.Binary

/-!
# Numbers in texts

A number is a whole text, or stands at the front of one.
-/

namespace Runbook

/-!
## Reading numbers

Whole numbers in a base within bounds, and floating point numbers in decimal or by name.
-/

/-- The value of a digit in bases up to sixteen. -/
def digitValue? (c : Char) : Option Nat :=
  if '0' ≤ c && c ≤ '9' then some (c.toNat - 48)
  else if 'a' ≤ c && c ≤ 'f' then some (c.toNat - 87)
  else if 'A' ≤ c && c ≤ 'F' then some (c.toNat - 55)
  else none

/-- A decimal digit of ASCII. -/
def isDigit (c : Char) : Bool :=
  '0' ≤ c && c ≤ '9'

/-- The number written by digits of a base; `none` for no digit or a foreign character. -/
def digitsIn?
    (base : Nat)
    (s : List Char) :
    Option Nat :=
  if s.isEmpty then
    none
  else
    s.foldl
      (fun acc c =>
        match acc, digitValue? c with
        | some n, some d => if d < base then some (n * base + d) else none
        | _, _ => none)
      (some 0)

/-- A number without sign below a bound; one leading plus sign is allowed. -/
def natIn?
    (base bound : Nat)
    (s : List Char) :
    Option Nat :=
  let body := match s with
    | '+' :: rest => rest
    | _ => s
  (digitsIn? base body).bind fun n => if n < bound then some n else none

/-- A signed number from `-bound` up to `bound - 1`; either sign is allowed once. -/
def intIn?
    (base bound : Nat)
    (s : List Char) :
    Option Int :=
  match s with
  | '-' :: rest =>
      (digitsIn? base rest).bind fun n => if n ≤ bound then some (-(n : Int)) else none
  | _ => (natIn? base bound s).map Int.ofNat

/-- An index that fits 64 bits. -/
def index?
    (s : List Char) :
    Option Nat :=
  natIn? 10 (Nat.pow 2 64) s

/-- The exponent part of a decimal number: `e` or `E`, a sign and at least one digit; nothing at all
stands for zero. -/
def exponentPart? : List Char → Option Int
  | [] => some 0
  | c :: s =>
      if c = 'e' || c = 'E' then
        match s with
        | '-' :: t => (digitsIn? 10 t).map fun n => -(n : Int)
        | '+' :: t => (digitsIn? 10 t).map Int.ofNat
        | t => (digitsIn? 10 t).map Int.ofNat
      else
        none

/-- A decimal number without sign: digits, at most one point among or beside them, an exponent. -/
def unsignedDecimal?
    (f : FloatFormat)
    (negative : Bool)
    (s : List Char) :
    Option Binary :=
  let whole := s.takeWhile isDigit
  let afterWhole := s.dropWhile isDigit
  let fraction := match afterWhole with
    | '.' :: t => t.takeWhile isDigit
    | _ => []
  let afterFraction := match afterWhole with
    | '.' :: t => t.dropWhile isDigit
    | t => t
  let digits := whole ++ fraction
  if digits.isEmpty then
    none
  else
    match exponentPart? afterFraction, digitsIn? 10 digits with
    | some e, some n => some (f.ofDecimal negative n (e - (fraction.length : Int)))
    | _, _ => none

/-- A floating point number: a sign, then a decimal number, `inf`, `infinity` or `nan` in any case of
letters. -/
def readFloat?
    (f : FloatFormat)
    (s : List Char) :
    Option Binary :=
  let negative := s.head? = some '-'
  let body := match s with
    | '-' :: rest => rest
    | '+' :: rest => rest
    | _ => s
  let word := String.ofList (body.map Char.toLower)
  if word = "inf" || word = "infinity" then
    some (.infinite negative)
  else if word = "nan" then
    some (.nan false)
  else
    unsignedDecimal? f negative body

/-!
## Numbers at the front of a text

A number is read as far as it goes, and what follows it is handed back. Blanks in front of it do not
count.
-/

/-- Whether a character is a blank in front of a number. -/
def isNumberGap (c : Char) : Bool :=
  c = ' ' || ('\t' ≤ c && c ≤ '\r')

/-- The sign at the front of a text, and what follows it. -/
def leadingSign : List Char → Bool × List Char
  | '-' :: s => (true, s)
  | '+' :: s => (false, s)
  | s => (false, s)

/-- The digits of a base at the front of a text. -/
def leadingDigits
    (base : Nat)
    (s : List Char) :
    List Char :=
  s.takeWhile fun c => (digitValue? c).any (· < base)

/-- A whole number at the front of a text, in base sixteen behind `0x` and in base eight behind a zero,
and what follows it; `none` if there is no number. -/
def leadingInt? (s : List Char) : Option (Int × List Char) :=
  let (negative, t) := leadingSign (s.dropWhile isNumberGap)
  let read (base : Nat) (u : List Char) : Option (Int × List Char) :=
    let digits := leadingDigits base u
    if digits.isEmpty then none
    else
      let n : Int := (digitsIn? base digits).getD 0
      some (if negative then -n else n, u.drop digits.length)
  match t with
  | '0' :: x :: u =>
      if (x = 'x' || x = 'X') && !(leadingDigits 16 u).isEmpty then read 16 u else read 8 t
  | _ => read 10 t

/-- A decimal whole number at the front of a text, and what follows it. -/
def leadingDecimal? (s : List Char) : Option (Int × List Char) :=
  let (negative, t) := leadingSign (s.dropWhile isNumberGap)
  let digits := leadingDigits 10 t
  if digits.isEmpty then none
  else
    let n : Int := (digitsIn? 10 digits).getD 0
    some (if negative then -n else n, t.drop digits.length)

/-- An exponent at the front of a text, behind one of two letters, and what follows it. -/
def leadingExponent
    (lower upper : Char)
    (s : List Char) :
    Int × List Char :=
  match s with
  | c :: t =>
      if c = lower || c = upper then
        let (negative, u) := leadingSign t
        let digits := leadingDigits 10 u
        if digits.isEmpty then (0, s)
        else
          let n : Int := (digitsIn? 10 digits).getD 0
          (if negative then -n else n, u.drop digits.length)
      else (0, s)
  | [] => (0, [])

/-- The digits around a point at the front of a text: those before it, those after it, and what
follows. -/
def leadingFraction
    (base : Nat)
    (s : List Char) :
    List Char × List Char × List Char :=
  let whole := leadingDigits base s
  match s.drop whole.length with
  | '.' :: t =>
      let fraction := leadingDigits base t
      if whole.isEmpty && fraction.isEmpty then (whole, fraction, s)
      else (whole, fraction, t.drop fraction.length)
  | rest => (whole, [], rest)

/-- Whether a text starts with a word, in any case of letters. -/
def startsWithWord
    (word : String)
    (s : List Char) :
    Bool :=
  (s.take word.length).map Char.toLower = word.toList

/-- What follows the digits in parentheses that may stand behind the word for what is no number. -/
def dropPayload (s : List Char) : List Char :=
  match s with
  | '(' :: t =>
      let inside := t.takeWhile fun c => c.isAlphanum || c = '_'
      match t.drop inside.length with
      | ')' :: rest => rest
      | _ => s
  | _ => s

/-- A floating point number at the front of a text, and what follows it. -/
def leadingFloat?
    (f : FloatFormat)
    (s : List Char) :
    Option (Binary × List Char) :=
  let (negative, t) := leadingSign (s.dropWhile isNumberGap)
  if startsWithWord "infinity" t then some (.infinite negative, t.drop 8)
  else if startsWithWord "inf" t then some (.infinite negative, t.drop 3)
  else if startsWithWord "nan" t then some (.nan negative, dropPayload (t.drop 3))
  else
    let hexadecimal := startsWithWord "0x" t
    let (hexWhole, hexFraction, hexRest) := leadingFraction 16 (t.drop 2)
    if hexadecimal && !(hexWhole ++ hexFraction).isEmpty then
      let (e, rest) := leadingExponent 'p' 'P' hexRest
      let digits := (digitsIn? 16 (hexWhole ++ hexFraction)).getD 0
      let power := e - 4 * (hexFraction.length : Int)
      let q : Nat × Nat :=
        if 0 ≤ power then (digits * Nat.pow 2 (min power.toNat 20000), 1)
        else (digits, Nat.pow 2 (min (-power).toNat 20000))
      some (f.round negative q.1 q.2, rest)
    else
      let (whole, fraction, behind) := leadingFraction 10 t
      if (whole ++ fraction).isEmpty then none
      else
        let (e, rest) := leadingExponent 'e' 'E' behind
        let digits := (digitsIn? 10 (whole ++ fraction)).getD 0
        some (f.ofDecimal negative digits (e - (fraction.length : Int)), rest)

end Runbook
