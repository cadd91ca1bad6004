import Runbook.Shell.Syntax
import Runbook.Number.Reading

/-!
# Arithmetic

Expressions over whole numbers of 64 bits, with the operators of C. Variables without value count as
zero.
-/

namespace Runbook
namespace Shell

/-- An operator between two operands. -/
inductive BinaryOp where
  | mul
  | div
  | rem
  | add
  | sub
  | shiftLeft
  | shiftRight
  | less
  | lessEqual
  | greater
  | greaterEqual
  | equal
  | notEqual
  | bitAnd
  | bitXor
  | bitOr
  deriving DecidableEq, Repr, Inhabited

/-- An operator in front of its operand. -/
inductive UnaryOp where
  | plus
  | minus
  | not_
  | invert
  deriving DecidableEq, Repr, Inhabited

/-- An expression. -/
inductive Arith where
  | number (n : Int)
  | variable_ (name : Octets)
  | unary (op : UnaryOp) (a : Arith)
  | binary (op : BinaryOp) (a b : Arith)
  | both (a b : Arith)
  | either (a b : Arith)
  | choice (test a b : Arith)
  | assign (name : Octets) (op : Option BinaryOp) (a : Arith)
  deriving Repr, Inhabited

/-- A token of an expression. -/
inductive ArithToken where
  | number (n : Int)
  | name (s : Octets)
  | sign (s : String)
  | bad
  deriving DecidableEq, Repr, Inhabited

namespace Arith

/-- The number of 64 bits that a number stands for. -/
def wrap (n : Int) : Int :=
  Int.bmod n (Nat.pow 2 64)

def greatest : Int := Nat.pow 2 63 - 1

/-- A number without sign at the front of a text, in base sixteen after `0x`, in base eight after a
zero, and what follows it. Too large a number is the greatest one. -/
def leadingNumber (s : Octets) : Int × Octets :=
  let digitsOf (base : Nat) (t : Octets) : Octets :=
    t.takeWhile fun c => (digitValue? c).any (· < base)
  let read (base : Nat) (digits : Octets) : Int :=
    min (((digitsIn? base digits).getD 0 : Nat) : Int) greatest
  match s with
  | '0' :: x :: t =>
      if (x = 'x' || x = 'X') && !(digitsOf 16 t).isEmpty then
        (read 16 (digitsOf 16 t), t.drop (digitsOf 16 t).length)
      else
        let digits := digitsOf 8 s
        (read 8 digits, s.drop digits.length)
  | _ =>
      let digits := digitsOf 10 s
      (read 10 digits, s.drop digits.length)

/-- The number that the value of a variable stands for; `none` for no number. -/
def valueOf? (s : Octets) : Option Int :=
  let isSpace (c : Char) : Bool := c = ' ' || ('\t' ≤ c && c ≤ '\r')
  let body := s.dropWhile isSpace
  let (negative, digits) : Bool × Octets := match body with
    | '-' :: t => (true, t)
    | '+' :: t => (false, t)
    | t => (false, t)
  let (n, rest) := leadingNumber digits
  if (rest.dropWhile isSpace).isEmpty then
    if digits.isEmpty && !body.isEmpty then none else some (if negative then -n else n)
  else none

/-- The signs of expressions, longer ones first. -/
def signs : List String :=
  [ "<<=", ">>=", "<<", ">>", "<=", ">=", "==", "!=", "&&", "||", "+=", "-=", "*=", "/=", "%=",
    "&=", "^=", "|=", "<", ">", "=", "!", "~", "+", "-", "*", "/", "%", "&", "^", "|", "?", ":",
    "(", ")" ]

/-- The tokens of an expression, behind those already read, which are held in reverse. -/
def tokensFrom : Nat → List ArithToken → Octets → List ArithToken
  | 0, done, _ => done.reverse
  | _, done, [] => done.reverse
  | fuel + 1, done, c :: s =>
      if c = ' ' || c = '\t' || c = '\n' then tokensFrom fuel done s
      else if c.isDigit then
        let (n, rest) := leadingNumber (c :: s)
        tokensFrom fuel (.number n :: done) rest
      else if isNameStart c then
        let name := (c :: s).takeWhile isNameChar
        tokensFrom fuel (.name name :: done) ((c :: s).drop name.length)
      else
        match signs.find? fun t => t.toList.isPrefixOf (c :: s) with
        | some t => tokensFrom fuel (.sign t :: done) ((c :: s).drop t.length)
        | none => tokensFrom fuel (.bad :: done) s

/-- An operator between operands, with its rank; the lower binds more tightly. -/
def binaryOf? : String → Option (BinaryOp × Nat)
  | "*" => some (.mul, 0)
  | "/" => some (.div, 0)
  | "%" => some (.rem, 0)
  | "+" => some (.add, 1)
  | "-" => some (.sub, 1)
  | "<<" => some (.shiftLeft, 2)
  | ">>" => some (.shiftRight, 2)
  | "<" => some (.less, 3)
  | "<=" => some (.lessEqual, 3)
  | ">" => some (.greater, 3)
  | ">=" => some (.greaterEqual, 3)
  | "==" => some (.equal, 4)
  | "!=" => some (.notEqual, 4)
  | "&" => some (.bitAnd, 5)
  | "^" => some (.bitXor, 6)
  | "|" => some (.bitOr, 7)
  | _ => none

/-- The operator that an assignment combines with. -/
def assignmentOf? : String → Option (Option BinaryOp)
  | "=" => some none
  | "*=" => some (some .mul)
  | "/=" => some (some .div)
  | "%=" => some (some .rem)
  | "+=" => some (some .add)
  | "-=" => some (some .sub)
  | "<<=" => some (some .shiftLeft)
  | ">>=" => some (some .shiftRight)
  | "&=" => some (some .bitAnd)
  | "^=" => some (some .bitXor)
  | "|=" => some (some .bitOr)
  | _ => none

/-- An expression in front of tokens, and the tokens after it; or what was expected. -/
abbrev Reader := List ArithToken → Except String (Arith × List ArithToken)

/-- Reads operators of at most a rank and their right operands behind a left one. -/
def readBinary (primary : Reader) : Nat → Nat → Arith → Reader
  | 0, _, a => fun ts => .ok (a, ts)
  | fuel + 1, rank, a => fun ts =>
      match ts with
      | .sign s :: rest =>
          match binaryOf? s with
          | none => .ok (a, ts)
          | some (op, r) =>
              if rank < r then .ok (a, ts)
              else do
                let (b, after) ← primary rest
                let (right, behind) ← tighter fuel r b after
                readBinary primary fuel rank (.binary op a right) behind
      | _ => .ok (a, ts)
where
  /-- Reads what binds more tightly than a rank. -/
  tighter (fuel : Nat) (rank : Nat) (b : Arith) : Reader := fun ts =>
    match rank with
    | 0 => .ok (b, ts)
    | r + 1 => readBinary primary fuel r b ts

/-- Reads an expression, as deep as given. -/
def readAssignment : Nat → Reader
  | 0 => fun _ => .error "expecting primary"
  | fuel + 1 => fun ts =>
      match ts with
      | .name v :: .sign s :: rest =>
          match assignmentOf? s with
          | some op => do
              let (a, after) ← readAssignment fuel rest
              return (.assign v op a, after)
          | none => readChoice fuel ts
      | _ => readChoice fuel ts
where
  /-- Reads an operand. -/
  readPrimary (fuel : Nat) : Reader := fun ts =>
    match fuel with
    | 0 => .error "expecting primary"
    | n + 1 =>
        match ts with
        | .number k :: rest => .ok (.number k, rest)
        | .name v :: rest => .ok (.variable_ v, rest)
        | .sign "(" :: rest => do
            let (a, after) ← readAssignment n rest
            match after with
            | .sign ")" :: more => return (a, more)
            | _ => .error "expecting ')'"
        | .sign "+" :: rest => do
            let (a, after) ← readPrimary n rest
            return (.unary .plus a, after)
        | .sign "-" :: rest => do
            let (a, after) ← readPrimary n rest
            return (.unary .minus a, after)
        | .sign "!" :: rest => do
            let (a, after) ← readPrimary n rest
            return (.unary .not_ a, after)
        | .sign "~" :: rest => do
            let (a, after) ← readPrimary n rest
            return (.unary .invert a, after)
        | _ => .error "expecting primary"
  /-- Reads operands with operators between them. -/
  readOperators (fuel : Nat) : Reader := fun ts => do
    let (a, rest) ← readPrimary fuel ts
    readBinary (readPrimary fuel) (ts.length + 1) 7 a rest
  /-- Reads what holds if both sides do. -/
  readBoth (fuel : Nat) : Reader := fun ts => do
    match fuel with
    | 0 => .error "expecting primary"
    | n + 1 =>
        let (a, rest) ← readOperators n ts
        match rest with
        | .sign "&&" :: more =>
            let (b, after) ← readBoth n more
            return (.both a b, after)
        | _ => return (a, rest)
  /-- Reads what holds if one side does. -/
  readEither (fuel : Nat) : Reader := fun ts => do
    match fuel with
    | 0 => .error "expecting primary"
    | n + 1 =>
        let (a, rest) ← readBoth n ts
        match rest with
        | .sign "||" :: more =>
            let (b, after) ← readEither n more
            return (.either a b, after)
        | _ => return (a, rest)
  /-- Reads a choice between two expressions. -/
  readChoice (fuel : Nat) : Reader := fun ts => do
    match fuel with
    | 0 => .error "expecting primary"
    | n + 1 =>
        let (test, rest) ← readEither n ts
        match rest with
        | .sign "?" :: more =>
            let (a, after) ← readAssignment n more
            match after with
            | .sign ":" :: behind =>
                let (b, last) ← readChoice n behind
                return (.choice test a b, last)
            | _ => .error "expecting ':'"
        | _ => return (test, rest)

/-- Reads an expression from its text; the error says what was expected. -/
def parse (s : Octets) : Except String Arith := do
  let ts := tokensFrom (s.length + 1) [] s
  let (a, rest) ← readAssignment (8 * ts.length + 16) ts
  if rest.isEmpty then return a else .error "expecting EOF"

/-- A truth value as a number. -/
def ofBool (b : Bool) : Int :=
  if b then 1 else 0

/-- The result of an operator; `none` for a division by zero. -/
def result? (op : BinaryOp) (a b : Int) : Option Int :=
  let bits (f : Nat → Nat → Nat) : Int :=
    wrap (f (a % Nat.pow 2 64).toNat (b % Nat.pow 2 64).toNat)
  let shift := (b % 64).toNat
  match op with
  | .mul => some (wrap (a * b))
  | .div => if b = 0 then none else some (wrap (Int.tdiv a b))
  | .rem => if b = 0 then none else some (Int.tmod a b)
  | .add => some (wrap (a + b))
  | .sub => some (wrap (a - b))
  | .shiftLeft => some (wrap (a * Nat.pow 2 shift))
  | .shiftRight => some (Int.fdiv a (Nat.pow 2 shift))
  | .less => some (ofBool (a < b))
  | .lessEqual => some (ofBool (a ≤ b))
  | .greater => some (ofBool (b < a))
  | .greaterEqual => some (ofBool (b ≤ a))
  | .equal => some (ofBool (a = b))
  | .notEqual => some (ofBool (a ≠ b))
  | .bitAnd => some (bits Nat.land)
  | .bitXor => some (bits Nat.xor)
  | .bitOr => some (bits Nat.lor)

/-- The result of an operator with one operand. -/
def applyUnary (op : UnaryOp) (a : Int) : Int :=
  match op with
  | .plus => a
  | .minus => wrap (-a)
  | .not_ => ofBool (a = 0)
  | .invert => -a - 1

/-- The value of an expression. Variables are asked for and set on the way. -/
def eval
    {m : Type → Type}
    [Monad m]
    (get : Octets → m Int)
    (set : Octets → Int → m Unit)
    (zeroDivision : m Int) :
    Arith → m Int
  | .number n => return n
  | .variable_ v => get v
  | .unary op a => applyUnary op <$> eval get set zeroDivision a
  | .binary op a b => do
      let x ← eval get set zeroDivision a
      let y ← eval get set zeroDivision b
      match result? op x y with
      | some z => return z
      | none => zeroDivision
  | .both a b => do
      if (← eval get set zeroDivision a) = 0 then return 0
      else return ofBool ((← eval get set zeroDivision b) ≠ 0)
  | .either a b => do
      if (← eval get set zeroDivision a) ≠ 0 then return 1
      else return ofBool ((← eval get set zeroDivision b) ≠ 0)
  | .choice test a b => do
      if (← eval get set zeroDivision test) ≠ 0 then eval get set zeroDivision a
      else eval get set zeroDivision b
  | .assign v op a => do
      let y ← eval get set zeroDivision a
      let z ← match op with
        | none => pure y
        | some op => do
            match result? op (← get v) y with
            | some z => pure z
            | none => zeroDivision
      set v z
      return z

end Arith
end Shell
end Runbook
