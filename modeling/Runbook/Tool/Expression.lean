import Runbook.Machine.Program
import Runbook.Number.Reading
import Runbook.Regex.Matching
import Runbook.Tool.Work

/-!
# Conditions and expressions of words

The tool that tests and the tool that computes: both read their arguments as an expression.
-/

namespace Runbook
namespace Tool

/-!
## Conditions

The tool that tests files, texts and numbers. Up to four arguments are understood by their number;
more are an expression with `!`, `-a`, `-o` and parentheses.
-/

namespace Condition

/-- The arguments that are left, behind the last one of all. -/
structure Reading where
  left : List Octets
  last : Octets
  deriving Repr, Inhabited

abbrev Result := Bool × List Octets

/-- Complains about the expression and gives up. -/
def bad
    {α : Type}
    (message : Octets) :
    Work α :=
  Work.fail 2 message

/-- Complains that something is missing behind the last argument. -/
def beyond
    {α : Type}
    (last : Octets) :
    Work α :=
  bad ("missing argument after ".toList ++ Quoting.plain last)

/-- The operators between two operands. -/
def binaries : List String :=
  ["=", "!=", "==", "-nt", "-ot", "-ef", "-eq", "-ne", "-lt", "-le", "-gt", "-ge"]

/-- Whether an argument is an operator between two operands. -/
def isBinary (s : Octets) : Bool :=
  binaries.contains (String.ofList s)

/-- Whether an argument looks like an operator in front of one operand. -/
def isUnary (s : Octets) : Bool :=
  s.length = 2 && s.head? = some '-'

/-- A whole number that an operand must be. -/
def number (s : Octets) : Work Int := do
  let wrong {α : Type} : Work α := bad ("invalid integer ".toList ++ Quoting.plain s)
  match leadingDecimal? s with
  | none => wrong
  | some (n, rest) =>
      if (rest.dropWhile fun c => c = ' ' || c = '\t').isEmpty then return n else wrong

/-- The result of an operator between two operands. -/
def compare
    (operator : String)
    (a b : Octets) :
    Work Bool := do
  let numbers (test : Int → Int → Bool) : Work Bool := do
    let x ← number a
    let y ← number b
    return test x y
  match operator with
  | "=" => return a = b
  | "==" => return a = b
  | "!=" => return a ≠ b
  | "-eq" => numbers fun x y => x = y
  | "-ne" => numbers fun x y => x ≠ y
  | "-ge" => numbers fun x y => y ≤ x
  | "-gt" => numbers fun x y => y < x
  | "-le" => numbers fun x y => x ≤ y
  | "-lt" => numbers fun x y => x < y
  | "-ef" => Work.act (Inquiry.isSame a b)
  | _ => return false

/-- The result of an operator in front of an operand. -/
def examine
    (operator a : Octets) :
    Work Bool := do
  match operator with
  | ['-', c] =>
      match c with
      | 'z' => return a.isEmpty
      | 'n' => return !a.isEmpty
      | 't' => do
          let _ ← number a
          return false
      | 'N' => return false
      | 'b' => return false
      | 'S' => return false
      | _ =>
          if Inquiry.letters.contains c then Work.act (Inquiry.ask c a)
          else bad (Quoting.plain operator ++ ": unary operator expected".toList)
  | _ => bad (Quoting.plain operator ++ ": unary operator expected".toList)

/-- Whether the letter of an operator in front of an operand is known. -/
def checkUnary (operator : Octets) : Work Unit :=
  match operator with
  | ['-', c] =>
      if c = 't' || Inquiry.letters.contains c || c = 'z' || c = 'n' then pure ()
      else bad (Quoting.plain operator ++ ": unary operator expected".toList)
  | _ => pure ()

/-- The result of an operator in front of the argument behind it. -/
def unary
    (last : Octets)
    (arguments : List Octets) :
    Work Result := do
  match arguments with
  | operator :: a :: rest => return (← examine operator a, rest)
  | [operator] => do
      checkUnary operator
      beyond last
  | [] => beyond last

mutual

/-- Reads operands with `-o` between them. -/
def either (last : Octets) : Nat → List Octets → Work Result
  | 0, arguments => return (false, arguments)
  | fuel + 1, arguments => do
      if arguments.isEmpty then beyond last
      let (a, rest) ← both last fuel arguments
      match rest with
      | ['-', 'o'] :: more => do
          let (b, after) ← either last fuel more
          return (a || b, after)
      | _ => return (a, rest)

/-- Reads operands with `-a` between them. -/
def both (last : Octets) : Nat → List Octets → Work Result
  | 0, arguments => return (false, arguments)
  | fuel + 1, arguments => do
      let (a, rest) ← term last fuel arguments
      match rest with
      | ['-', 'a'] :: more => do
          let (b, after) ← both last fuel more
          return (a && b, after)
      | _ => return (a, rest)

/-- Reads an operand. -/
def term (last : Octets) : Nat → List Octets → Work Result
  | 0, arguments => return (false, arguments)
  | fuel + 1, arguments =>
      match arguments with
      | [] => beyond last
      | ['!'] :: rest => do
          let (a, after) ← term last fuel rest
          return (!a, after)
      | ['('] :: inside => do
          if inside.isEmpty then beyond last
          let closed := (inside.drop 1).takeWhile (· ≠ [')'])
          let count := if closed.length < 4 then closed.length + 1 else inside.length
          let count := min count inside.length
          let (a, rest) ← counted last fuel count inside
          match rest with
          | [] => bad "')' expected".toList
          | [')'] :: after => return (a, after)
          | found :: _ => bad ("')' expected, found ".toList ++ Quoting.plain found)
      | a :: operator :: b :: rest =>
          if isBinary operator then do return (← compare (String.ofList operator) a b, rest)
          else if isUnary a then unary last arguments
          else return (!a.isEmpty, operator :: b :: rest)
      | a :: rest =>
          if isUnary a then unary last arguments else return (!a.isEmpty, rest)

/-- Reads as many arguments, of which up to four are understood by their number. -/
def counted (last : Octets) : Nat → Nat → List Octets → Work Result
  | 0, _, arguments => return (false, arguments)
  | fuel + 1, count, arguments =>
      match count, arguments with
      | 1, a :: rest => return (!a.isEmpty, rest)
      | 2, a :: b :: rest =>
          if a = ['!'] then return (b.isEmpty, rest)
          else if isUnary a then unary last (a :: b :: rest)
          else beyond last
      | 3, a :: b :: c :: rest =>
          if isBinary b then do return (← compare (String.ofList b) a c, rest)
          else if a = ['!'] then do
            let (r, after) ← counted last fuel 2 (b :: c :: rest)
            return (!r, after)
          else if a = ['('] && c = [')'] then return (!b.isEmpty, rest)
          else if b = ['-', 'a'] || b = ['-', 'o'] then either last fuel arguments
          else bad (Quoting.plain b ++ ": binary operator expected".toList)
      | 4, a :: b :: c :: d :: rest =>
          if a = ['!'] then do
            let (r, after) ← counted last fuel 3 (b :: c :: d :: rest)
            return (!r, after)
          else if a = ['('] && d = [')'] then do
            let (r, after) ← counted last fuel 2 (b :: c :: d :: rest)
            return (r, after.drop 1)
          else either last fuel arguments
      | _, _ => either last fuel arguments

end

/-- Tests a condition: the exit status tells whether it holds. -/
def check (arguments : List Octets) : Work Unit := do
  if arguments.isEmpty then Work.giveUp 1
  let last := (arguments.getLast?).getD []
  let (a, rest) ← counted last (8 * arguments.length + 16) arguments.length arguments
  match rest with
  | extra :: _ => bad ("extra argument ".toList ++ Quoting.plain extra)
  | [] => Work.setStatus (if a then 0 else 1)

/-- Tests a condition. -/
def tool : Tool :=
  simple 2 check

/-- Tests a condition between brackets. -/
def bracket : Tool :=
  simple 2 fun words => do
    if words.getLast? = some [']'] then check words.dropLast
    else bad "missing ']'".toList

end Condition

/-!
## Expressions of words

The tool that computes: each word is a number, a text or an operator. The result is written, and the
exit status tells whether it is neither empty nor zero.
-/

namespace Expression

/-- A value: a number, or a text that may be one. -/
inductive Value where
  | number (n : Int)
  | text (s : Octets)
  deriving DecidableEq, Repr, Inhabited

namespace Value

def toText : Value → Octets
  | .number n => Octets.ofInt n
  | .text s => s

def number? : Value → Option Int
  | .number n => some n
  | .text s =>
      let digits := match s with
        | '-' :: t => t
        | t => t
      if digits.isEmpty || !digits.all Char.isDigit then none
      else (digitsIn? 10 digits).map fun n => if s.head? = some '-' then -(n : Int) else n

/-- Whether a value is empty or zero. -/
def isNull : Value → Bool
  | .number n => n = 0
  | .text s =>
      match s with
      | [] => true
      | '-' :: t => !t.isEmpty && t.all (· = '0')
      | t => t.all (· = '0')

end Value

/-- The words behind the current place, and the word before it. -/
structure Words where
  left : List Octets
  before : Octets
  deriving Repr, Inhabited

def Words.next (w : Words) : Words :=
  ⟨w.left.drop 1, w.left.headD []⟩

def Words.isAt
    (w : Words)
    (word : String) :
    Bool :=
  w.left.head? = some word.toList

/-- Complains about the words and gives up. -/
def bad
    {α : Type}
    (message : Octets) :
    Work α :=
  Work.fail 2 ("syntax error: ".toList ++ message)

/-- Complains that something is missing behind the word before. -/
def missing
    {α : Type}
    (w : Words) :
    Work α :=
  bad ("missing argument after ".toList ++ Quoting.plain w.before)

def operand (v : Value) : Work Int :=
  match v.number? with
  | some n => pure n
  | none => Work.failText 2 "non-integer argument"

/-- What a pattern matches at the front of a text: its first group, or the length of the match. -/
def matched (text pattern : Octets) : Work Value := do
  match Regex.parse .basic pattern with
  | .error e => Work.failText 2 e.message
  | .ok (r, groups) =>
      let t := Regex.subject false text
      match Regex.matchAt? r t 0 with
      | none => return if groups = 0 then .number 0 else .text []
      | some (stop, found) =>
          if groups = 0 then return .number stop
          else
            match found.lookup 1 with
            | some (a, b) => return .text (t.slice a b)
            | none => return .text []

/-- The result of a comparison, by numbers if both are. -/
def compare
    (operator : String)
    (a b : Value) :
    Value :=
  let order := match a.number?, b.number? with
    | some x, some y => if x < y then Ordering.lt else if x = y then .eq else .gt
    | _, _ => Octets.compare a.toText b.toText
  let holds : Bool := match operator with
    | "<" => order = .lt
    | "<=" => order ≠ .gt
    | "=" => order = .eq
    | "==" => order = .eq
    | "!=" => order ≠ .eq
    | ">=" => order ≠ .lt
    | _ => order = .gt
  .number (if holds then 1 else 0)

/-- The result of an operator on numbers. -/
def compute
    (operator : String)
    (a b : Value) :
    Work Value := do
  let x ← operand a
  let y ← operand b
  match operator with
  | "+" => return .number (x + y)
  | "-" => return .number (x - y)
  | "*" => return .number (x * y)
  | _ =>
      if y = 0 then Work.failText 2 "division by zero"
      else if operator = "/" then return .number (x.tdiv y)
      else return .number (x.tmod y)

/-- The operators of each level, from the loosest to the tightest. -/
def operators : Nat → List String
  | 0 => ["|"]
  | 1 => ["&"]
  | 2 => ["<", "<=", "=", "==", "!=", ">=", ">"]
  | 3 => ["+", "-"]
  | 4 => ["*", "/", "%"]
  | _ => [":"]

def levels : Nat := 6

def combine
    (evaluate : Bool)
    (level : Nat)
    (operator : String)
    (a b : Value) :
    Work Value := do
  match level with
  | 0 => return if !a.isNull then a else if !b.isNull then b else .number 0
  | 1 => return if a.isNull || b.isNull then .number 0 else a
  | 2 => return compare operator a b
  | 5 => if evaluate then matched a.toText b.toText else return .number 0
  | _ => if evaluate then compute operator a b else return .number 0

/-- The place of the first character of a text that belongs to a set. -/
def placeOf (text set : Octets) : Nat :=
  match text.findIdx? fun c => set.contains c with
  | some i => i + 1
  | none => 0

def part
    (text : Octets)
    (start length : Value) :
    Octets :=
  match start.number?, length.number? with
  | some p, some n =>
      if p ≤ 0 || n ≤ 0 then [] else (text.drop (p.toNat - 1)).take n.toNat
  | _, _ => []

mutual

/-- Reads a value and what follows it, from the operators of a level on. -/
def level : Nat → Nat → Bool → Words → Work (Value × Words)
  | 0, _, _, w => return (default, w)
  | fuel + 1, n, evaluate, w =>
      if n < levels then do
        let (a, rest) ← level fuel (n + 1) evaluate w
        more fuel n evaluate a rest
      else primary fuel evaluate w

/-- Reads the operators of a level and what stands behind each of them. -/
def more : Nat → Nat → Bool → Value → Words → Work (Value × Words)
  | 0, _, _, a, w => return (a, w)
  | fuel + 1, n, evaluate, a, w =>
      match (operators n).find? w.isAt with
      | none => return (a, w)
      | some operator => do
          let needed := match n with
            | 0 => evaluate && a.isNull
            | 1 => evaluate && !a.isNull
            | _ => evaluate
          let (b, rest) ← level fuel (n + 1) needed w.next
          more fuel n evaluate (← combine evaluate n operator a b) rest

/-- Reads a value in parentheses, a function of values, or a word. -/
def primary : Nat → Bool → Words → Work (Value × Words)
  | 0, _, w => return (default, w)
  | fuel + 1, evaluate, w =>
      match w.left with
      | [] => missing w
      | word :: _ =>
          match String.ofList word with
          | "+" =>
              if w.next.left.isEmpty then missing w.next
              else return (.text (w.next.left.headD []), w.next.next)
          | "length" => do
              let (a, rest) ← level fuel levels evaluate w.next
              return (.number a.toText.length, rest)
          | "match" => do
              let (a, rest) ← level fuel levels evaluate w.next
              let (b, after) ← level fuel levels evaluate rest
              if evaluate then return (← matched a.toText b.toText, after)
              else return (.number 0, after)
          | "index" => do
              let (a, rest) ← level fuel levels evaluate w.next
              let (b, after) ← level fuel levels evaluate rest
              return (.number (placeOf a.toText b.toText), after)
          | "substr" => do
              let (a, rest) ← level fuel levels evaluate w.next
              let (b, after) ← level fuel levels evaluate rest
              let (c, last) ← level fuel levels evaluate after
              return (.text (part a.toText b c), last)
          | "(" => do
              let (a, rest) ← level fuel 0 evaluate w.next
              if rest.left.isEmpty then
                bad ("expecting ')' after ".toList ++ Quoting.plain rest.before)
              else if rest.isAt ")" then return (a, rest.next)
              else bad ("expecting ')' instead of ".toList ++ Quoting.plain (rest.left.headD []))
          | ")" => bad "unexpected ')'".toList
          | _ => return (.text word, w.next)

end

/-- Computes the value of its words. -/
def tool : Tool :=
  simple 3 fun words => do
    let words := match words with
      | ['-', '-'] :: rest => rest
      | w => w
    if words.isEmpty then Work.missingOperand 2 none
    let (v, rest) ← level (20 * words.length + 40) 0 true ⟨words, []⟩
    match rest.left with
    | extra :: _ => bad ("unexpected argument ".toList ++ Quoting.plain extra)
    | [] => do
        Work.sayLine v.toText
        Work.setStatus (if v.isNull then 1 else 0)

end Expression
end Tool
end Runbook
