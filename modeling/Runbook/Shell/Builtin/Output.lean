import Runbook.Format.Field
import Runbook.Number.Reading
import Runbook.Shell.Builtin.Basic

/-!
# Built-in output

The built-in commands that write their arguments, as they are or laid out by a format.
-/

namespace Runbook
namespace Shell
namespace Builtin

open Format

/-- Writes the arguments with blanks between them and escapes read, and a line end unless the first
argument says otherwise. -/
def echo : Builtin :=
  plain fun arguments => do
    let (bare, words) : Bool × List Octets := match arguments with
      | ['-', 'n'] :: rest => (true, rest)
      | words => (false, words)
    let (text, stopped) := unescape .shellArgument (Octets.intercalate [' '] words)
    show_ (if bare || stopped then text else text ++ ['\n'])

/-- What has been laid out: the output in reverse, the arguments left, and the status. -/
structure Printing where
  done : Octets
  arguments : List Octets
  status : Nat
  deriving Inhabited

/-- How a pass through a format ends: at its end, at an escape that ends all output, or at a fault. -/
inductive PassEnd where
  | whole
  | stopped
  | fault (message : Octets)
  deriving DecidableEq, Repr, Inhabited

/-- The next argument; empty if there is none. -/
def nextArgument (p : Printing) : Octets × Printing :=
  match p.arguments with
  | [] => ([], p)
  | a :: rest => (a, { p with arguments := rest })

/-- Complains about an argument that is no number. -/
def complain
    (p : Printing)
    (argument : Octets)
    (message : String) :
    Eval Printing := do
  Eval.warn (argument ++ ": ".toList ++ message.toList)
  return { p with status := 1 }

/-- Complains if an argument was not read to its end. -/
def checkRest
    (p : Printing)
    (argument rest : Octets)
    (found : Bool) :
    Eval Printing :=
  if argument.isEmpty then pure p
  else if !found then complain p argument "expected numeric value"
  else if !rest.isEmpty then complain p argument "not completely converted"
  else pure p

/-- The code of the character behind a quote, if an argument starts with one. -/
def quotedCode? : Octets → Option Nat
  | '"' :: s => some ((s.head?.map Char.toNat).getD 0)
  | '\'' :: s => some ((s.head?.map Char.toNat).getD 0)
  | _ => none

/-- The next argument as a whole number between bounds. -/
def nextInt
    (low high : Int)
    (p : Printing) :
    Eval (Int × Printing) := do
  let (argument, p) := nextArgument p
  match quotedCode? argument with
  | some code => return (code, p)
  | none =>
      match leadingInt? argument with
      | none => return (0, ← checkRest p argument argument false)
      | some (n, rest) =>
          let p ← if (n < low || high < n) && rest.isEmpty then
              complain p argument "Numerical result out of range"
            else checkRest p argument rest true
          return (max low (min high n), p)

/-- The least and the greatest whole number with a sign. -/
def signedBounds : Int × Int :=
  (-(Nat.pow 2 63 : Int), Nat.pow 2 63 - 1)

/-- The least and the greatest number that is read for a whole number without sign. -/
def unsignedBounds : Int × Int :=
  (-(Nat.pow 2 64 - 1 : Int), Nat.pow 2 64 - 1)

/-- The next argument as a floating point number. -/
def nextFloat (p : Printing) : Eval (Binary × Printing) := do
  let (argument, p) := nextArgument p
  let zero : Binary := .finite false 0 0
  match quotedCode? argument with
  | some code => return (.finite false code 0, p)
  | none =>
      match leadingFloat? .double argument with
      | none => return (zero, ← checkRest p argument argument false)
      | some (x, rest) =>
          let isBeyond : Bool := match x with
            | .infinite _ => argument.any Char.isDigit
            | _ => false
          let p ← if isBeyond && rest.isEmpty then
              complain p argument "Numerical result out of range"
            else checkRest p argument rest true
          return (x, p)

def add
    (s : Octets)
    (p : Printing) :
    Printing :=
  { p with done := s.reverse ++ p.done }

/-- Reads the width and the precision of a directive, which arguments may give. -/
def readField
    (p : Printing)
    (s : Octets) :
    Eval (Field × Octets × Printing) := do
  let (f, s) := readFlags .plain s
  let (low, high) := signedBounds
  let (f, s, p) ← match s with
    | '*' :: rest => do
        let (n, p) ← nextInt low high p
        pure (f.withWidth n, rest, p)
    | s =>
        let (n, rest) := readNumber s
        pure ({ f with width := n }, rest, p)
  match s with
  | '.' :: '*' :: rest => do
      let (n, p) ← nextInt low high p
      return (f.withPrecision n, rest, p)
  | '.' :: rest =>
      let (n, rest) := readNumber rest
      return ({ f with precision := some n }, rest, p)
  | s => return (f, s, p)

/-- Lays out an argument as a directive says. -/
def layOut
    (f : Field)
    (letter : Char)
    (source : Octets)
    (p : Printing) :
    Eval (Printing × PassEnd) := do
  match letter with
  | 's' =>
      let (a, p) := nextArgument p
      return (add (f.text a) p, .whole)
  | 'c' =>
      let (a, p) := nextArgument p
      return (add (f.pad [a.headD '\x00']) p, .whole)
  | 'b' =>
      let (a, p) := nextArgument p
      let (text, stopped) := unescape .shellArgument a
      return (add (f.text text) p, if stopped then .stopped else .whole)
  | _ =>
      if letter = 'd' || letter = 'i' then
        let (n, p) ← nextInt signedBounds.1 signedBounds.2 p
        return (add (f.signed n) p, .whole)
      else if "ouxX".toList.contains letter then
        let (n, p) ← nextInt unsignedBounds.1 unsignedBounds.2 p
        return (add (f.unsigned letter (n % Nat.pow 2 64).toNat) p, .whole)
      else if "eEfFgG".toList.contains letter then
        let (x, p) ← nextFloat p
        return (add (f.float letter x) p, .whole)
      else
        return (p, .fault (source ++ ": invalid directive".toList))

/-- Goes through a format once. -/
def passFormat : Nat → Octets → Printing → Eval (Printing × PassEnd)
  | 0, _, p => return (p, .whole)
  | _, [], p => return (p, .whole)
  | fuel + 1, '\\' :: s, p =>
      match readEscape .shellFormat s with
      | .char c rest => passFormat fuel rest (add [c] p)
      | _ => passFormat fuel s (add ['\\'] p)
  | fuel + 1, '%' :: '%' :: s, p => passFormat fuel s (add ['%'] p)
  | fuel + 1, '%' :: s, p => do
      let (f, rest, p) ← readField p s
      match rest with
      | [] => return (p, .fault "missing format character".toList)
      | letter :: rest =>
          let source := '%' :: s.take (s.length - rest.length)
          match ← layOut f letter source p with
          | (p, .whole) => passFormat fuel rest p
          | stopped => return stopped
  | fuel + 1, c :: s, p => passFormat fuel s (add [c] p)

/-- Goes through a format as long as it takes arguments and some are left. -/
def passes
    (template : Octets) :
    Nat → Printing → Eval (Printing × PassEnd)
  | 0, p => return (p, .whole)
  | fuel + 1, p => do
      match ← passFormat (template.length + 1) template p with
      | (q, .whole) =>
          if q.arguments.isEmpty || q.arguments.length = p.arguments.length then return (q, .whole)
          else passes template fuel q
      | stopped => return stopped

/-- Lays out the arguments by a format. -/
def printf : Builtin :=
  plain fun arguments => do
    match (← options "" arguments).2 with
    | [] => Eval.failText "usage: printf format [arg ...]"
    | template :: values =>
        let (p, ending) ← passes template (values.length + 1) ⟨[], values, 0⟩
        match ending with
        | .fault message =>
            Eval.setStatus 2
            Eval.warn message
            let _ ← show_ p.done.reverse
            Eval.raise .error
        | _ => return max p.status (← show_ p.done.reverse)

end Builtin
end Shell
end Runbook
