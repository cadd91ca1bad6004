/-!
# Binary floating point numbers

A finite number is a sign, a mantissa and a power of two, held exactly; every computation goes
through one function, `FloatFormat.round`, which takes a quotient of natural numbers to the nearest
number of a format, ties to the even mantissa.
-/

namespace Runbook

/-- A format of binary floating point numbers: mantissas have at most `precision` bits and
exponents lie between `least` and `greatest`. -/
structure FloatFormat where
  precision : Nat
  least : Int
  greatest : Int
  deriving DecidableEq, Repr

namespace FloatFormat

def double : FloatFormat := ⟨53, -1074, 971⟩

def single : FloatFormat := ⟨24, -149, 104⟩

def extended : FloatFormat := ⟨64, -16445, 16320⟩

end FloatFormat

/-- A floating point number. `finite` stands for `mantissa * 2 ^ exponent` with a sign; what is no number
has a sign too. -/
inductive Binary where
  | finite (negative : Bool) (mantissa : Nat) (exponent : Int)
  | infinite (negative : Bool)
  | nan (negative : Bool)
  deriving DecidableEq, Repr, Inhabited

/-- `num / den * 2 ^ (-shift)` as a quotient of natural numbers. -/
def scaleDown
    (num den : Nat)
    (shift : Int) :
    Nat × Nat :=
  if 0 ≤ shift then
    (num, den * Nat.pow 2 shift.toNat)
  else
    (num * Nat.pow 2 (-shift).toNat, den)

/-- The natural number nearest to `num / den`, a half going to the even one. -/
def divideToEven
    (num den : Nat) :
    Nat :=
  let q := num / den
  let r := num % den
  if 2 * r < den then q
  else if den < 2 * r then q + 1
  else if q % 2 = 0 then q else q + 1

namespace FloatFormat

/-- The exponent at which `num / den` has a mantissa of full precision, or the least one. -/
def exponentFor
    (f : FloatFormat)
    (num den : Nat) :
    Int :=
  let guess : Int := (num.log2 : Int) - (den.log2 : Int) - (f.precision : Int)
  let first := scaleDown num den guess
  let quotient := first.1 / first.2
  max f.least (guess + ((quotient.log2 : Int) + 1 - (f.precision : Int)))

/-- The number of a format nearest to `num / den`; beyond the range of the format it is infinite. -/
def round
    (f : FloatFormat)
    (negative : Bool)
    (num den : Nat) :
    Binary :=
  if num = 0 then
    .finite negative 0 f.least
  else
    let e := f.exponentFor num den
    let scaled := scaleDown num den e
    let m := divideToEven scaled.1 scaled.2
    let carried := m = Nat.pow 2 f.precision
    let mantissa := if carried then m / 2 else m
    let exponent := if carried then e + 1 else e
    if f.greatest < exponent then
      .infinite negative
    else
      .finite negative mantissa exponent

/-- The number of a format nearest to `digits * 10 ^ scale`. The two bounds only keep the powers of
ten small: what lies beyond them is infinite or zero in every format. -/
def ofDecimal
    (f : FloatFormat)
    (negative : Bool)
    (digits : Nat)
    (scale : Int) :
    Binary :=
  let magnitude : Int := scale + ((Nat.toDigits 10 digits).length : Int)
  if digits = 0 then
    .finite negative 0 f.least
  else if 5000 < magnitude then
    .infinite negative
  else if magnitude < -5000 then
    .finite negative 0 f.least
  else if 0 ≤ scale then
    f.round negative (digits * Nat.pow 10 scale.toNat) 1
  else
    f.round negative digits (Nat.pow 10 (-scale).toNat)

end FloatFormat

namespace Binary

/-- The absolute value of a finite number as a quotient of natural numbers. -/
def magnitude
    (mantissa : Nat)
    (exponent : Int) :
    Nat × Nat :=
  scaleDown mantissa 1 (-exponent)

/-- Whether a number is neither infinite nor undefined. -/
def isFinite : Binary → Bool
  | .finite _ _ _ => true
  | _ => false

/-- The product of a finite double and a positive finite one, rounded to a double. -/
def mulDouble : Binary → Binary → Binary
  | .finite s m e, .finite _ m' e' =>
      let q := magnitude (m * m') (e + e')
      FloatFormat.double.round s q.1 q.2
  | a, _ => a

/-- The quotient of a finite double and a positive finite one, rounded to a double. -/
def divDouble : Binary → Binary → Binary
  | .finite s m e, .finite _ m' e' =>
      let q := magnitude m (e - e')
      FloatFormat.double.round s q.1 (q.2 * m')
  | a, _ => a

def withSign
    (negative : Bool) :
    Binary → Binary
  | .finite _ m e => .finite negative m e
  | .infinite _ => .infinite negative
  | .nan _ => .nan negative

/-- Whether a number is a zero of either sign. -/
def isZero : Binary → Bool
  | .finite _ 0 _ => true
  | _ => false

end Binary

/-!
## The shortest decimal form

The digits printed for a number are the fewest that still read back as that number, and among those
the nearest to it. They are found by trying the two neighbours of the number on each decimal grid,
from coarse to fine, in exact arithmetic.
-/

/-- Twice the bounds of the reals that round to `mantissa * 2 ^ exponent`, as quotients over a
common denominator, with the value itself, and whether the bounds belong to them. -/
structure RoundingRange where
  low : Nat
  value : Nat
  high : Nat
  den : Nat
  closed : Bool

/-- The reals that round to a positive number of a format. Below a power of two the grid is twice as
fine. -/
def roundingRange
    (f : FloatFormat)
    (mantissa : Nat)
    (exponent : Int) :
    RoundingRange :=
  let narrow := mantissa = Nat.pow 2 (f.precision - 1) ∧ f.least < exponent
  let unit := Binary.magnitude 1 (exponent - 2)
  { low := (4 * mantissa - (if narrow then 1 else 2)) * unit.1
    value := 4 * mantissa * unit.1
    high := (4 * mantissa + 2) * unit.1
    den := unit.2
    closed := mantissa % 2 = 0 }

def RoundingRange.holds
    (r : RoundingRange)
    (digits : Nat)
    (scale : Int) :
    Bool :=
  let num := if 0 ≤ scale then digits * Nat.pow 10 scale.toNat * r.den else digits * r.den
  let k := if 0 ≤ scale then 1 else Nat.pow 10 (-scale).toNat
  if r.closed then
    r.low * k ≤ num && num ≤ r.high * k
  else
    r.low * k < num && num < r.high * k

/-- The least `k` with `num / den < 10 ^ k`, searched upwards from `-400`. -/
def decimalMagnitude
    (num den : Nat) :
    Int :=
  if den ≤ num then
    ((Nat.toDigits 10 (num / den)).length : Int)
  else
    let places := (List.range 400).find? fun j => den ≤ num * Nat.pow 10 (j + 1)
    match places with
    | some j => -(j : Int)
    | none => -400

/-- A decimal number `digits * 10 ^ scale`. -/
structure Decimal where
  digits : Nat
  scale : Int
  deriving DecidableEq, Repr, Inhabited

/-- The point of the grid of multiples of `10 ^ scale` that lies in the range, the nearer one of two
and the even one of two equally near. -/
def gridPoint?
    (r : RoundingRange)
    (scale : Int) :
    Option Decimal :=
  let num := if 0 ≤ scale then r.value else r.value * Nat.pow 10 (-scale).toNat
  let den := if 0 ≤ scale then r.den * Nat.pow 10 scale.toNat else r.den
  let below := num / den
  let rest := num % den
  let belowHolds := below ≠ 0 && r.holds below scale
  let aboveHolds := r.holds (below + 1) scale
  if belowHolds && aboveHolds then
    let nearest :=
      if 2 * rest < den then below
      else if den < 2 * rest then below + 1
      else if below % 2 = 0 then below else below + 1
    some ⟨nearest, scale⟩
  else if belowHolds then
    some ⟨below, scale⟩
  else if aboveHolds then
    some ⟨below + 1, scale⟩
  else
    none

/-- A decimal number without the zeros that end its digits. -/
def Decimal.trimmed
    (d : Decimal) :
    Decimal :=
  let rec strip : Nat → Decimal → Decimal
    | 0, d => d
    | n + 1, d =>
        if d.digits ≠ 0 ∧ d.digits % 10 = 0 then strip n ⟨d.digits / 10, d.scale + 1⟩ else d
  strip 20 d

/-- The shortest decimal number that reads back as `mantissa * 2 ^ exponent`. -/
def shortestDecimal
    (f : FloatFormat)
    (mantissa : Nat)
    (exponent : Int) :
    Decimal :=
  let r := roundingRange f mantissa exponent
  let top := decimalMagnitude r.value r.den
  let found := (List.range 17).findSome? fun n => gridPoint? r (top - (n + 1 : Nat))
  (found.getD ⟨0, 0⟩).trimmed

/-- How a number is laid out: which decimal exponents are written without an exponent part, whether
a whole number keeps a fraction of zero, and whether a positive exponent has a sign. -/
structure FloatLayout where
  positional : Int → Bool
  keepsFraction : Bool
  signsExponent : Bool
  nanText : String
  infinityText : String

/-- Numbers are written without an exponent below `10 ^ 16` and from `10 ^ -5` on, and a whole number
keeps `.0`. -/
def FloatLayout.document : FloatLayout :=
  { positional := fun k => -5 < k && k ≤ 16
    keepsFraction := true
    signsExponent := false
    nanText := ".nan"
    infinityText := ".inf" }

/-- The same, with a sign in front of every exponent. -/
def FloatLayout.signed : FloatLayout :=
  { FloatLayout.document with signsExponent := true }

/-- Numbers are written without an exponent and without a superfluous fraction. -/
def FloatLayout.plain : FloatLayout :=
  { positional := fun _ => true
    keepsFraction := false
    signsExponent := false
    nanText := "NaN"
    infinityText := "inf" }

def zeros (n : Nat) : String :=
  String.ofList (List.replicate n '0')

/-- The digits of a decimal number laid out; `k` counts the digits before the point. -/
def FloatLayout.layDigits
    (l : FloatLayout)
    (digits : String)
    (scale : Int) :
    String :=
  let size := digits.length
  let k : Int := scale + (size : Int)
  if l.positional k then
    if 0 ≤ scale then
      digits ++ zeros scale.toNat ++ (if l.keepsFraction then ".0" else "")
    else if 0 < k then
      String.ofList (digits.toList.take k.toNat) ++ "." ++
        String.ofList (digits.toList.drop k.toNat)
    else
      "0." ++ zeros (-k).toNat ++ digits
  else
    let head := String.ofList (digits.toList.take 1)
    let tail := String.ofList (digits.toList.drop 1)
    let fraction := if size = 1 then "" else "." ++ tail
    let sign := if l.signsExponent && 0 < k then "+" else ""
    head ++ fraction ++ "e" ++ sign ++ toString (k - 1)

def FloatLayout.text
    (l : FloatLayout)
    (f : FloatFormat) :
    Binary → String
  | .nan _ => l.nanText
  | .infinite negative => (if negative then "-" else "") ++ l.infinityText
  | .finite negative 0 _ =>
      (if negative then "-" else "") ++ (if l.keepsFraction then "0.0" else "0")
  | .finite negative m e =>
      let d := shortestDecimal f m e
      (if negative then "-" else "") ++ l.layDigits (toString d.digits) d.scale

end Runbook
