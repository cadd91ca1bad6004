import Runbook.Number.Reading
import Runbook.Tool.Work

/-!
# Options

Words that start with a dash ask for options: a dash and letters, each of which may take a value, or
two dashes and a name that may be cut short as long as one option only starts so. Other words are
operands; options may stand behind them, unless two dashes alone end all options. Counts of lines and
bytes in the words of options may have a letter behind them for thousands, millions and so on.
-/

namespace Runbook
namespace Tool

/-- Why a word is no amount. -/
inductive AmountFault where
  | malformed
  | tooLarge
  deriving DecidableEq, Repr, Inhabited

namespace Amount

def power? (c : Char) : Option Nat :=
  match c with
  | 'k' => some 1
  | 'K' => some 1
  | 'm' => some 2
  | 'M' => some 2
  | 'G' => some 3
  | 'T' => some 4
  | 'P' => some 5
  | 'E' => some 6
  | 'Z' => some 7
  | 'Y' => some 8
  | 'R' => some 9
  | 'Q' => some 10
  | _ => none

/-- What the letters behind a number multiply it by. -/
def factor? (s : Octets) : Option Nat :=
  match s with
  | [] => some 1
  | ['b'] => some 512
  | ['c'] => some 1
  | ['w'] => some 2
  | [c] => (power? c).map (Nat.pow 1024 ·)
  | [c, 'B'] => (power? c).map (Nat.pow 1000 ·)
  | [c, 'i', 'B'] => (power? c).map (Nat.pow 1024 ·)
  | _ => none

def read (s : Octets) : Except AmountFault Nat :=
  let body := match s.dropWhile fun c => c = ' ' || ('\t' ≤ c && c ≤ '\r') with
    | '+' :: t => t
    | t => t
  let digits := body.takeWhile Char.isDigit
  let letters := body.drop digits.length
  match factor? letters with
  | none => .error .malformed
  | some factor =>
      if digits.isEmpty && letters.isEmpty then .error .malformed
      else
        let n := ((digitsIn? 10 digits).getD 1) * factor
        if n < Nat.pow 2 64 then .ok n else .error .tooLarge

end Amount

namespace Work

/-- The amount that a word stands for, or a complaint about it. -/
def amount
    (what : String)
    (word : Octets) :
    Work Nat :=
  match Amount.read word with
  | .ok n => pure n
  | .error e =>
      fail 1 (what.toList ++ ": ".toList ++ Quoting.plain word ++ match e with
        | .malformed => []
        | .tooLarge => ": Value too large for defined data type".toList)

end Work

/-! ## The options of a line of words -/

/-- Whether an option takes a value. -/
inductive Takes where
  | nothing
  | value
  | maybe
  deriving DecidableEq, Repr, Inhabited

/-- An option of a tool: what the tool calls it, which is also its letter if that is one character
long, its names, and whether it takes a value. -/
structure OptionForm where
  key : String
  names : List String
  takes : Takes
  deriving Repr, Inhabited

def flag
    (key : String)
    (names : List String) :
    OptionForm :=
  ⟨key, names, .nothing⟩

def valued
    (key : String)
    (names : List String) :
    OptionForm :=
  ⟨key, names, .value⟩

/-- Letters of options that take no value and have no names. -/
def flags (letters : String) : List OptionForm :=
  letters.toList.map fun c => ⟨String.singleton c, [], .nothing⟩

/-- An option that was given. -/
structure Given where
  key : String
  value : Octets
  deriving DecidableEq, Repr, Inhabited

/-- Options and operands, each in their order. -/
structure Arguments where
  options : List Given
  operands : List Octets
  deriving Repr, Inhabited

namespace Arguments

def has
    (a : Arguments)
    (key : String) :
    Bool :=
  a.options.any fun g => g.key = key

def value?
    (a : Arguments)
    (key : String) :
    Option Octets :=
  (a.options.reverse.find? fun g => g.key = key).map Given.value

def values
    (a : Arguments)
    (key : String) :
    List Octets :=
  (a.options.filter fun g => g.key = key).map Given.value

def last?
    (a : Arguments)
    (keys : List String) :
    Option String :=
  (a.options.reverse.find? fun g => keys.contains g.key).map Given.key

end Arguments

/-- What is wrong with an option. -/
inductive OptionFault where
  | unknownLetter (c : Char)
  | letterNeedsValue (c : Char)
  | unknownName (word : Octets)
  | ambiguous (word : Octets) (names : List String)
  | nameNeedsValue (name : String)
  | nameTakesNothing (name : String)
  deriving DecidableEq, Repr, Inhabited

/-- The words for what is wrong. -/
def OptionFault.message : OptionFault → Octets
  | .unknownLetter c => "invalid option -- '".toList ++ [c, '\'']
  | .letterNeedsValue c => "option requires an argument -- '".toList ++ [c, '\'']
  | .unknownName word => "unrecognized option '".toList ++ word ++ ['\'']
  | .ambiguous word names =>
      "option '".toList ++ word ++ "' is ambiguous; possibilities:".toList
        ++ names.flatMap fun n => (" '--" ++ n ++ "'").toList
  | .nameNeedsValue name => ("option '--" ++ name ++ "' requires an argument").toList
  | .nameTakesNothing name => ("option '--" ++ name ++ "' doesn't allow an argument").toList

namespace Options

def letter?
    (forms : List OptionForm)
    (c : Char) :
    Option OptionForm :=
  forms.find? fun f => f.key.toList = [c]

def named
    (forms : List OptionForm)
    (start : Octets) :
    List (String × OptionForm) :=
  let all := forms.flatMap fun f => f.names.map fun n => (n, f)
  match all.filter fun e => e.1.toList = start with
  | [] => all.filter fun e => start.isPrefixOf e.1.toList
  | exact_ => exact_.take 1

/-- Reads the letters behind a dash; the words behind them may give the value of the last one. -/
def readLetters
    (forms : List OptionForm) :
    Octets → List Octets → Except OptionFault (List Given × List Octets)
  | [], rest => .ok ([], rest)
  | c :: s, rest =>
      match letter? forms c with
      | none => .error (.unknownLetter c)
      | some f =>
          match f.takes with
          | .nothing => (readLetters forms s rest).map fun r => (⟨f.key, []⟩ :: r.1, r.2)
          | .maybe => .ok ([⟨f.key, s⟩], rest)
          | .value =>
              if !s.isEmpty then .ok ([⟨f.key, s⟩], rest)
              else
                match rest with
                | [] => .error (.letterNeedsValue c)
                | value :: more => .ok ([⟨f.key, value⟩], more)

/-- Reads an option by its name, which follows two dashes. -/
def readName
    (forms : List OptionForm)
    (body : Octets)
    (rest : List Octets) :
    Except OptionFault (List Given × List Octets) :=
  let start := body.takeWhile (· ≠ '=')
  let value? : Option Octets :=
    if start.length < body.length then some (body.drop (start.length + 1)) else none
  let found := named forms start
  let isOne := (found.map fun e => e.2.key).eraseDups.length ≤ 1
  match found with
  | [] => .error (.unknownName ("--".toList ++ start))
  | (name, f) :: _ =>
      if !isOne then .error (.ambiguous ("--".toList ++ start) (found.map Prod.fst))
      else
        match f.takes, value? with
        | .nothing, none => .ok ([⟨f.key, []⟩], rest)
        | .nothing, some _ => .error (.nameTakesNothing name)
        | .maybe, v => .ok ([⟨f.key, v.getD []⟩], rest)
        | .value, some v => .ok ([⟨f.key, v⟩], rest)
        | .value, none =>
            match rest with
            | [] => .error (.nameNeedsValue name)
            | v :: more => .ok ([⟨f.key, v⟩], more)

/-- Reads words. Behind the first operand there are no options if `first` is set. -/
def readWords
    (forms : List OptionForm)
    (first : Bool) :
    Nat → Arguments → List Octets → Except OptionFault Arguments
  | 0, done, _ => .ok done
  | _, done, [] => .ok done
  | fuel + 1, done, word :: rest =>
      match word with
      | ['-', '-'] => .ok { done with operands := done.operands ++ rest }
      | '-' :: '-' :: body => do
          let (given, more) ← readName forms body rest
          readWords forms first fuel { done with options := done.options ++ given } more
      | '-' :: c :: s => do
          let (given, more) ← readLetters forms (c :: s) rest
          readWords forms first fuel { done with options := done.options ++ given } more
      | _ =>
          if first then .ok { done with operands := done.operands ++ word :: rest }
          else readWords forms first fuel { done with operands := done.operands ++ [word] } rest

end Options

namespace Work

/-- Reads the words a tool was started with; a wrong option ends the work with a status. -/
def arguments
    (forms : List OptionForm)
    (status : Nat)
    (words : List Octets) :
    Work Arguments :=
  match Options.readWords forms false (words.length + 1) ⟨[], []⟩ words with
  | .ok a => pure a
  | .error e => misuse status e.message

/-- Reads the options in front of the first operand. -/
def leadingArguments
    (forms : List OptionForm)
    (status : Nat)
    (words : List Octets) :
    Work Arguments :=
  match Options.readWords forms true (words.length + 1) ⟨[], []⟩ words with
  | .ok a => pure a
  | .error e => misuse status e.message

end Work

end Tool
end Runbook
