import Runbook.Number.Binary

/-!
# Operations on doubles

The operations and the elementary functions of doubles.
-/

namespace Runbook
namespace Binary

/-!
## Arithmetic

The sum, the product, the quotient and the remainder of doubles. Each is computed exactly and rounded
once. What has no result, such as zero divided by zero, is no number and counts as negative.
-/

def zero : Binary :=
  .finite false 0 FloatFormat.double.least

/-- A whole number as a double. -/
def ofInt (n : Int) : Binary :=
  FloatFormat.double.round (n < 0) n.natAbs 1

/-- A natural number as a double. -/
def ofNat (n : Nat) : Binary :=
  FloatFormat.double.round false n 1

def negate : Binary → Binary
  | .finite negative m e => .finite (!negative) m e
  | .infinite negative => .infinite (!negative)
  | .nan negative => .nan (!negative)

def signed (negative : Bool) (mantissa : Nat) : Int :=
  if negative then -(mantissa : Int) else mantissa

/-- Two mantissas brought to the lower one of two exponents. -/
def align
    (a : Int)
    (e : Int)
    (b : Int)
    (f : Int) :
    Int × Int × Int :=
  let low := min e f
  (a * Nat.pow 2 (e - low).toNat, b * Nat.pow 2 (f - low).toNat, low)

/-- The double nearest to a whole number times a power of two. -/
def scaled (v : Int) (e : Int) : Binary :=
  let q := magnitude v.natAbs e
  FloatFormat.double.round (v < 0) q.1 q.2

/-- The sum of two numbers. -/
def add : Binary → Binary → Binary
  | .nan n, _ => .nan n
  | _, .nan n => .nan n
  | .infinite a, .infinite b => if a = b then .infinite a else .nan true
  | .infinite a, _ => .infinite a
  | _, .infinite b => .infinite b
  | .finite a 0 _, .finite b 0 _ => .finite (a && b) 0 FloatFormat.double.least
  | .finite _ 0 _, y => y
  | x, .finite _ 0 _ => x
  | .finite a m e, .finite b n f =>
      let (x, y, low) := align (signed a m) e (signed b n) f
      if x + y = 0 then zero else scaled (x + y) low

/-- The difference of two numbers. -/
def sub (x y : Binary) : Binary :=
  match y with
  | .nan n => match x with
      | .nan m => .nan m
      | _ => .nan n
  | _ => add x y.negate

/-- The product of two numbers. -/
def mul : Binary → Binary → Binary
  | .nan n, _ => .nan n
  | _, .nan n => .nan n
  | .infinite a, .infinite b => .infinite (a != b)
  | .infinite a, .finite b n _ => if n = 0 then .nan true else .infinite (a != b)
  | .finite a m _, .infinite b => if m = 0 then .nan true else .infinite (a != b)
  | .finite a m e, .finite b n f =>
      let q := magnitude (m * n) (e + f)
      FloatFormat.double.round (a != b) q.1 q.2

/-- The quotient of two numbers. -/
def div : Binary → Binary → Binary
  | .nan n, _ => .nan n
  | _, .nan n => .nan n
  | .infinite _, .infinite _ => .nan true
  | .infinite a, .finite b _ _ => .infinite (a != b)
  | .finite a _ _, .infinite b => .finite (a != b) 0 FloatFormat.double.least
  | .finite a m e, .finite b n f =>
      if n = 0 then if m = 0 then .nan true else .infinite (a != b)
      else
        let q := magnitude m (e - f)
        FloatFormat.double.round (a != b) q.1 (q.2 * n)

/-- The remainder of a division whose quotient is cut to a whole number. It has the sign of what is
divided. -/
def remainder : Binary → Binary → Binary
  | .nan n, _ => .nan n
  | _, .nan n => .nan n
  | .infinite _, _ => .nan true
  | x, .infinite _ => x
  | .finite a m e, .finite _ n f =>
      if n = 0 then .nan true
      else
        let (x, y, low) := align m e n f
        let r := x.natAbs % y.natAbs
        if r = 0 then .finite a 0 FloatFormat.double.least
        else scaled (signed a r) low

/-- The order of two numbers, unless one of them is none. -/
def compare? : Binary → Binary → Option Ordering
  | .nan _, _ => none
  | _, .nan _ => none
  | .infinite a, .infinite b => some (if a = b then .eq else if a then .lt else .gt)
  | .infinite a, _ => some (if a then .lt else .gt)
  | _, .infinite b => some (if b then .gt else .lt)
  | .finite a m e, .finite b n f =>
      let (x, y, _) := align (signed a m) e (signed b n) f
      some (Ord.compare x y)

/-- The whole part of a finite number. -/
def toInt? : Binary → Option Int
  | .finite negative m e =>
      some (signed negative (if 0 ≤ e then m * Nat.pow 2 e.toNat else m / Nat.pow 2 (-e).toNat))
  | _ => none

/-- A number without its fraction. -/
def truncate (x : Binary) : Binary :=
  match x, x.toInt? with
  | .finite negative _ _, some n => (ofInt n).withSign negative
  | _, _ => x

def isWhole : Binary → Bool
  | .finite _ m e => decide (0 ≤ e) || m % Nat.pow 2 (-e).toNat = 0
  | _ => false

/-!
## Elementary functions

Roots, powers, logarithms and the functions of angles, by the floating point numbers of the machine.
-/

def toFloat : Binary → Float
  | .finite negative m e =>
      let x := (Float.ofNat m).scaleB e
      if negative then -x else x
  | .infinite negative => if negative then -(1.0 / 0.0) else 1.0 / 0.0
  | .nan _ => 0.0 / 0.0

def ofFloat (x : Float) : Binary :=
  let bits := x.toBits.toNat
  let negative := decide (Nat.pow 2 63 ≤ bits)
  let exponent : Nat := bits / Nat.pow 2 52 % 2048
  let mantissa : Nat := bits % Nat.pow 2 52
  if exponent = 2047 then
    if mantissa = 0 then .infinite negative else .nan true
  else if exponent = 0 then .finite negative mantissa FloatFormat.double.least
  else .finite negative (mantissa + Nat.pow 2 52) ((exponent : Int) - 1075)

/-- A function of the machine at a number; what is none stays as it is. -/
def apply
    (f : Float → Float) :
    Binary → Binary
  | .nan negative => .nan negative
  | x => ofFloat (f x.toFloat)

/-- A function of the machine at two numbers. -/
def applyBoth
    (f : Float → Float → Float) :
    Binary → Binary → Binary
  | .nan negative, _ => .nan negative
  | _, .nan negative => .nan negative
  | x, y => ofFloat (f x.toFloat y.toFloat)

def isOdd (x : Binary) : Bool :=
  x.isWhole && (x.toInt?).any fun n => n % 2 = 1

/-- A power. Whatever is raised to zero, and one raised to whatever, is one. What is no number has no sign
behind an odd power. -/
def pow (x y : Binary) : Binary :=
  if y.isZero || x = ofNat 1 then ofNat 1
  else
    match x, y with
    | .nan negative, .finite _ _ _ => .nan (negative && !y.isOdd)
    | _, _ => applyBoth Float.pow x y

end Binary
end Runbook
