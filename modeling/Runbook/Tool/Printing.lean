import Runbook.Format.Field
import Runbook.Number.Reading
import Runbook.Tool.Options

/-!
# Printing words

The tools that write the words they are given, as they are or by a format.
-/

namespace Runbook
namespace Tool

/-!
## Repeating words

The tools that write the words they are given, once or until nobody reads them, and those that write
nothing and only succeed or fail.
-/

/-- How words are repeated: whether a line end follows, and whether escapes are read. -/
structure EchoStyle where
  ends : Bool
  escapes : Bool
  deriving DecidableEq, Repr, Inhabited

/-- Whether a word is made of letters of options only. -/
def isEchoOption : Octets → Bool
  | '-' :: c :: s => (c :: s).all fun d => d = 'n' || d = 'e' || d = 'E'
  | _ => false

def EchoStyle.after
    (style : EchoStyle)
    (letters : Octets) :
    EchoStyle :=
  letters.foldl
    (fun s c => match c with
      | 'n' => { s with ends := false }
      | 'e' => { s with escapes := true }
      | 'E' => { s with escapes := false }
      | _ => s)
    style

/-- Takes the options from the front of the words. -/
def echoOptions : EchoStyle → List Octets → EchoStyle × List Octets
  | style, word :: rest =>
      if isEchoOption word then echoOptions (style.after (word.drop 1)) rest
      else (style, word :: rest)
  | style, [] => (style, [])

/-- Writes its words with blanks between them. -/
def echo : Tool :=
  simple 1 fun words => do
    let (style, rest) := echoOptions ⟨true, false⟩ words
    let line := Octets.intercalate [' '] rest
    let (text, stopped) :=
      if style.escapes then Format.unescape .toolEcho line else (line, false)
    Work.say text
    if style.ends && !stopped then Work.say ['\n']

/-- How many lines are written at a time. -/
def yesBlock : Nat := 2048

/-- Writes its words over and over again. -/
def yes : Tool :=
  simple 1 fun words => do
    let a ← Work.leadingArguments [] 1 words
    let line := Octets.intercalate [' '] (if a.operands.isEmpty then [['y']] else a.operands)
    let count := yesBlock / (line.length + 1) + 1
    let block := (List.replicate count (line ++ ['\n'])).flatten
    Work.repeat_ ()
      (fun _ => do
        Work.say block
        Work.flush
        return .inl ())
      Act.rounds ()

def true_ : Tool :=
  fun _ _ => pure 0

def false_ : Tool :=
  fun _ _ => pure 1

/-!
## Formatted output

The tool that lays out its arguments by a format, as often as there are arguments left.
-/

namespace Printf

open Format

/-- What is left to lay out, and whether the format took any argument. -/
structure Printing where
  arguments : List Octets
  deriving Inhabited

/-- Complains about the text of a number. -/
def complainOf
    (argument : Octets)
    (reason : String) :
    Work Unit :=
  Work.complain (Quoting.plain argument ++ ": ".toList ++ reason.toList)

/-- Complains if the text of a number was not read to its end. -/
def checkRest
    (argument rest : Octets)
    (found : Bool) :
    Work Unit :=
  if argument.isEmpty then pure ()
  else if !found then complainOf argument "expected a numeric value"
  else if !rest.isEmpty then complainOf argument "value not completely converted"
  else pure ()

/-- Complains that a number has no room. -/
def complainOfRange (argument : Octets) : Work Unit :=
  complainOf argument "Numerical result out of range"

/-- The code of the character behind a quote, if the text of a number starts with one. What follows the
character is complained about. -/
def quotedCode? (argument : Octets) : Work (Option Nat) := do
  let code (s : Octets) : Work (Option Nat) := do
    match s with
    | [] => return none
    | c :: rest => do
        if !rest.isEmpty then
          Work.warn ("warning: ".toList ++ rest
            ++ ": character(s) following character constant have been ignored".toList)
        return some c.toNat
  match argument with
  | '"' :: s => code s
  | '\'' :: s => code s
  | _ => return none

/-- A whole number between bounds. -/
def readInt
    (low high : Int)
    (argument : Octets) :
    Work Int := do
  match ← quotedCode? argument with
  | some code => return code
  | none =>
      match leadingInt? argument with
      | none => do
          checkRest argument argument false
          return 0
      | some (n, rest) => do
          if n < low || high < n then complainOfRange argument
          else checkRest argument rest true
          return max low (min high n)

/-- A floating point number. -/
def readFloat (argument : Octets) : Work Binary := do
  match ← quotedCode? argument with
  | some code => return .finite false code 0
  | none =>
      match leadingFloat? .extended argument with
      | none => do
          checkRest argument argument false
          return .finite false 0 0
      | some (x, rest) => do
          let isBeyond : Bool := match x with
            | .infinite _ => argument.any Char.isDigit
            | _ => false
          if isBeyond then complainOfRange argument else checkRest argument rest true
          return x

/-- The next argument; empty if there is none. -/
def next : List Octets → Octets × List Octets
  | [] => ([], [])
  | a :: rest => (a, rest)

def maxWidth : Int := Nat.pow 2 31 - 1

/-- A width or precision that an argument gives. -/
def starred
    (what : String)
    (arguments : List Octets) :
    Work (Int × List Octets) := do
  let (a, rest) := next arguments
  let n ← readInt (-(Nat.pow 2 63 : Int)) (Nat.pow 2 63 - 1) a
  if n < -maxWidth - 1 || maxWidth < n then
    Work.fail 1 ("invalid ".toList ++ what.toList ++ ": ".toList ++ Quoting.plain a)
  else return (n, rest)

/-- Flags with the one that groups digits, which groups none here. -/
def readAllFlags : Nat → Field → Octets → Field × Octets
  | 0, f, s => (f, s)
  | fuel + 1, f, s =>
      match readFlags f s with
      | (g, '\'' :: rest) => readAllFlags fuel g rest
      | (g, 'I' :: rest) => readAllFlags fuel g rest
      | r => r

/-- The letters that the flags of a directive allow. -/
def allowed (flags : Octets) : Octets :=
  "aAbcdeEfFgGiosuxXq".toList.filter fun c =>
    flags.all fun f => match f with
      | '\'' => "dfFgGiu".toList.contains c
      | 'I' => "dfFgGiu".toList.contains c
      | '#' => !"cdisubq".toList.contains c
      | '0' => !"csbq".toList.contains c
      | _ => !"bq".toList.contains c || f = '-'

/-- The lengths that may stand before the letter of a directive; they mean nothing. -/
def dropLengths (s : Octets) : Octets :=
  s.dropWhile fun c => "lLhjtz".toList.contains c

/-- A floating point number in hexadecimal digits with a power of two. -/
def hexadecimal
    (f : Field)
    (upper : Bool)
    (x : Binary) :
    Octets :=
  let text : Octets × Octets := match x with
    | .finite negative m e =>
        let digits := Nat.toDigits 16 (m * Nat.pow 2 (63 - m.log2))
        let fraction := withoutZeros (digits.drop 1)
        let power : Int := if m = 0 then 0 else e + 60 - (63 - m.log2 : Nat)
        let body := if m = 0 then ['0'] else digits.take 1
        let shown := match f.precision with
          | some p => (digits.drop 1 ++ List.replicate p '0').take p
          | none => if m = 0 then [] else fraction
        (f.sign negative ++ ['0', 'x'],
          withPoint f.alternate body shown
            ++ 'p' :: (if power < 0 then '-' else '+') :: Octets.ofNat power.natAbs)
    | .infinite negative => (f.sign negative, "inf".toList)
    | .nan negative => (f.sign negative, "nan".toList)
  let shown := f.numeral x.isFinite text.1 text.2
  if upper then shown.map Char.toUpper else shown

/-- Lays out an argument in the notation of a letter. -/
def layOut
    (f : Field)
    (letter : Char)
    (a : Octets) :
    Work Unit := do
  match letter with
  | 's' => Work.say (f.text a)
  | 'c' => Work.say (f.pad [a.headD '\x00'])
  | 'q' => Work.say (f.text (Quoting.shell a))
  | 'b' => do
      let (text, stopped) := unescape .toolArgument a
      Work.say (f.text text)
      if stopped then Work.giveUp 0
  | _ =>
      if letter = 'd' || letter = 'i' then
        Work.say (f.signed (← readInt (-(Nat.pow 2 63 : Int)) (Nat.pow 2 63 - 1) a))
      else if "ouxX".toList.contains letter then
        let n ← readInt (-(Nat.pow 2 64 - 1 : Int)) (Nat.pow 2 64 - 1) a
        Work.say (f.unsigned letter (n % Nat.pow 2 64).toNat)
      else if letter = 'a' || letter = 'A' then
        Work.say (hexadecimal f (letter = 'A') (← readFloat a))
      else
        Work.say (f.float letter (← readFloat a))

/-- Lays out one directive, behind its sign, and gives what follows it and the arguments left. -/
def directive
    (s : Octets)
    (arguments : List Octets) :
    Work (Octets × List Octets) := do
  let (f, afterFlags) := readAllFlags s.length .plain s
  let used := s.take (s.length - afterFlags.length)
  let (f, afterWidth, arguments) ← match afterFlags with
    | '*' :: rest => do
        let (n, more) ← starred "field width" arguments
        pure (f.withWidth n, rest, more)
    | t =>
        let (n, rest) := readNumber t
        pure ({ f with width := n }, rest, arguments)
  let (f, afterPrecision, arguments) ← match afterWidth with
    | '.' :: '*' :: rest => do
        let (n, more) ← starred "precision" arguments
        pure (f.withPrecision n, rest, more)
    | '.' :: '-' :: rest =>
        let (_, after) := readNumber rest
        pure (f, after, arguments)
    | '.' :: rest =>
        let (n, after) := readNumber rest
        pure ({ f with precision := some n }, after, arguments)
    | t => pure (f, t, arguments)
  match dropLengths afterPrecision with
  | [] =>
      Work.fail 1 ('%' :: s ++ ": invalid conversion specification".toList)
  | letter :: rest =>
      if !(allowed used).contains letter then
        Work.fail 1 ('%' :: s.take (s.length - rest.length)
          ++ ": invalid conversion specification".toList)
      else do
        let (a, more) := next arguments
        layOut f letter a
        return (rest, more)

/-- Writes the character of a code point, or its code if it is none of ASCII. -/
def sayCodePoint
    (letter : Char)
    (digits : Octets) :
    Work Unit := do
  let code := (digitsIn? 16 digits).getD 0
  if 0xd800 ≤ code && code ≤ 0xdfff then
    Work.fail 1 ("invalid universal character name \\".toList ++ letter :: digits)
  else if code < 128 then Work.say [Char.ofNat code]
  else if code < 65536 then
    Work.say ("\\u".toList ++ (Octets.padLeft 4 '0' (Nat.toDigits 16 code)).map Char.toUpper)
  else
    Work.say ("\\U".toList ++ (Octets.padLeft 8 '0' (Nat.toDigits 16 code)).map Char.toUpper)

/-- Writes what an escape stands for, and gives what follows it. -/
def escape (s : Octets) : Work Octets := do
  match s with
  | 'u' :: rest => codePoint 'u' 4 rest
  | 'U' :: rest => codePoint 'U' 8 rest
  | 'x' :: rest =>
      match readCode 16 2 rest with
      | some (c, after) => do
          Work.say [c]
          return after
      | none => Work.failText 1 "missing hexadecimal number in escape"
  | _ =>
      match readEscape .toolFormat s with
      | .stop => Work.giveUp 0
      | .char c rest => do
          Work.say [c]
          return rest
      | .unknown => do
          Work.say ['\\']
          return s
where
  /-- Writes a code point of so many digits. -/
  codePoint (letter : Char) (count : Nat) (rest : Octets) : Work Octets := do
    let digits := (rest.take count).takeWhile fun c => (digitValue? c).any (· < 16)
    if digits.length < count then Work.failText 1 "missing hexadecimal number in escape"
    else do
      sayCodePoint letter digits
      return rest.drop count

/-- Goes through a format once, and gives the arguments left and whether it has directives. -/
def pass : Nat → Bool → Octets → List Octets → Work (List Octets × Bool)
  | 0, any, _, arguments => return (arguments, any)
  | _, any, [], arguments => return (arguments, any)
  | fuel + 1, any, '\\' :: s, arguments => do pass fuel any (← escape s) arguments
  | fuel + 1, any, '%' :: '%' :: s, arguments => do
      Work.say ['%']
      pass fuel any s arguments
  | fuel + 1, _, '%' :: s, arguments => do
      let (rest, more) ← directive s arguments
      pass fuel true rest more
  | fuel + 1, any, c :: s, arguments => do
      Work.say [c]
      pass fuel any s arguments

/-- Goes through a format until no arguments are left. -/
def passes (template : Octets) : Nat → List Octets → Work Unit
  | 0, _ => pure ()
  | fuel + 1, arguments => do
      let (left, any) ← pass (template.length + 1) false template arguments
      match left with
      | [] => pure ()
      | word :: _ =>
          if any then passes template fuel left
          else
            Work.warn ("warning: ignoring excess arguments, starting with ".toList
              ++ Quoting.plain word)

/-- Lays out its arguments. -/
def tool : Tool :=
  simple 1 fun words => do
    let words := match words with
      | ['-', '-'] :: rest => rest
      | w => w
    match words with
    | [] => Work.missingOperand 1 none
    | template :: values => passes template (values.length + 1) values

end Printf
end Tool
end Runbook
