import Runbook.Regex.Matching

/-!
# Editing scripts

A script is a row of steps. Each step has a command and tells on which lines it is carried out. Blocks
and jumps lead to other steps by their place in the row.
-/

namespace Runbook
namespace Tool
namespace Editing

/-! ## Addresses -/

/-- An expression that is searched for, and whether the case of letters counts and lines in the middle of
the text are looked at. -/
structure Pattern where
  regex : Regex
  groups : Nat
  foldCase : Bool
  multiline : Bool
  deriving Repr, Inhabited

/-- What selects a line. A pattern that is left out is the one used last. -/
inductive Address where
  | line (number : Nat)
  | every (first step : Nat)
  | last
  | matching (pattern : Option Pattern)
  deriving Repr, Inhabited

/-- What ends a range of lines. -/
inductive RangeEnd where
  | at_ (address : Address)
  | further (count : Nat)
  | multiple (of : Nat)
  deriving Repr, Inhabited

/-- The lines that a command is for. -/
structure Selection where
  first : Option Address
  last : Option RangeEnd
  negated : Bool
  deriving Repr, Inhabited

namespace Selection

/-- Whether a selection depends on which line is the last one. -/
def asksLast (s : Selection) : Bool :=
  let isLast (a : Address) : Bool := match a with
    | .last => true
    | _ => false
  s.first.any isLast || s.last.any fun e => match e with
    | .at_ a => isLast a
    | _ => false

/-- Whether a range is open before the first line, since it starts in front of it. -/
def startsOpen (s : Selection) : Bool :=
  match s.first, s.last with
  | some (.line 0), some _ => true
  | _, _ => false

end Selection

/-! ## Commands -/

/-- How letters are changed that are put in. -/
inductive LetterCase where
  | asIs
  | upper
  | lower
  deriving DecidableEq, Repr, Inhabited

/-- A change of letters: of all of them, and of the first one if that is another one. -/
structure CaseChange where
  all : LetterCase
  first : LetterCase
  deriving DecidableEq, Repr, Inhabited

/-- A part of what is put in the place of a match: a text, and then what a group matched. -/
structure Part where
  text : Octets
  group : Option Nat
  change : CaseChange
  deriving DecidableEq, Repr, Inhabited

/-- The replacement of matches. `which` is the number of the first match that is replaced. -/
structure Substitution where
  pattern : Option Pattern
  parts : List Part
  which : Nat
  all : Bool
  runs : Bool
  print : Bool
  file : Option Octets
  deriving Repr, Inhabited

/-- What a step does. -/
inductive Command where
  | open_ (behind : Nat)
  | close
  | mark
  | append (text : Octets)
  | insert (text : Octets)
  | change (text : Octets)
  | jump (label : Octets)
  | jumpIf (replaced : Bool) (label : Octets)
  | delete
  | deleteFirst
  | run (command : Octets)
  | sayName
  | sayNumber
  | take
  | takeMore
  | keep
  | keepMore
  | exchange
  | list (width : Option Nat)
  | next
  | nextMore
  | print
  | printFirst
  | quit (silent : Bool) (status : Nat)
  | readFile (path : Octets)
  | readLine (path : Octets)
  | substitute (s : Substitution)
  | write (path : Octets)
  | writeFirst (path : Octets)
  | translate (pairs : List (Char × Char))
  | clear
  deriving Repr, Inhabited

/-- A command and the lines that it is for. -/
structure Step where
  selection : Selection
  command : Command
  deriving Repr, Inhabited

/-- A script: its steps, the places of its labels, the files it writes, and whether it starts with the
mark that keeps lines from being shown. -/
structure Script where
  steps : Array Step
  labels : List (Octets × Nat)
  files : List Octets
  quiet : Bool
  deriving Inhabited

/-- The place that a jump leads to; the empty label is behind the last step. -/
def Script.target
    (s : Script)
    (label : Octets) :
    Nat :=
  if label.isEmpty then s.steps.size else (s.labels.lookup label).getD s.steps.size

/-- The label that a command jumps to. -/
def Command.destination? : Command → Option Octets
  | .jump name => some name
  | .jumpIf _ name => some name
  | _ => none

def Script.missingLabel? (s : Script) : Option Octets :=
  s.steps.toList.findSome? fun step =>
    step.command.destination?.bind fun label =>
      if label.isEmpty || (s.labels.lookup label).isSome then none else some label

/-! ## Faults -/

/-- What may be wrong with a script. -/
inductive ScriptFault where
  | unknownCommand (c : Char)
  | unexpectedComma
  | manyNegations
  | lineZero
  | relativeFirst
  | openBlock
  | closeBlock
  | closeAddress
  | labelAddress
  | noLabel
  | commentAddress
  | oneAddress
  | noCommand
  | extra
  | openSubstitution
  | openTranslation
  | openAddress
  | unknownFlag
  | manyGlobals
  | manyPrints
  | manyNumbers
  | zeroNumber
  | noFile
  | unequalLengths
  | noText
  | badReference (group : Nat)
  | modifiedEmpty
  | newerVersion
  | sandboxed
  | regex (e : RegexError)
  deriving DecidableEq, Repr, Inhabited

def ScriptFault.message : ScriptFault → Octets
  | .unknownCommand c => "unknown command: \x60".toList ++ [c, '\'']
  | .unexpectedComma => "unexpected \x60,'".toList
  | .manyNegations => "multiple \x60!'s".toList
  | .lineZero => "invalid usage of line address 0".toList
  | .relativeFirst => "invalid usage of +N or ~N as first address".toList
  | .openBlock => "unmatched \x60\x7b'".toList
  | .closeBlock => "unexpected \x60\x7d'".toList
  | .closeAddress => "\x7d doesn't want any addresses".toList
  | .labelAddress => ": doesn't want any addresses".toList
  | .noLabel => "\":\" lacks a label".toList
  | .commentAddress => "comments don't accept any addresses".toList
  | .oneAddress => "command only uses one address".toList
  | .noCommand => "missing command".toList
  | .extra => "extra characters after command".toList
  | .openSubstitution => "unterminated \x60s' command".toList
  | .openTranslation => "unterminated \x60y' command".toList
  | .openAddress => "unterminated address regex".toList
  | .unknownFlag => "unknown option to \x60s'".toList
  | .manyGlobals => "multiple \x60g' options to \x60s' command".toList
  | .manyPrints => "multiple \x60p' options to \x60s' command".toList
  | .manyNumbers => "multiple number options to \x60s' command".toList
  | .zeroNumber => "number option to \x60s' command may not be zero".toList
  | .noFile => "missing filename in r/R/w/W commands".toList
  | .unequalLengths => "strings for \x60y' command are different lengths".toList
  | .noText => "expected \\ after \x60a', \x60c' or \x60i'".toList
  | .badReference n =>
      "invalid reference \\".toList ++ Octets.ofNat n ++ " on \x60s' command's RHS".toList
  | .modifiedEmpty => "cannot specify modifiers on empty regexp".toList
  | .newerVersion => "expected newer version of sed".toList
  | .sandboxed => "e/r/w commands disabled in sandbox mode".toList
  | .regex e => e.message.toList

/-- Where a script is read from: an expression among the words of the tool, or a file. -/
inductive Origin where
  | expression (number : Nat)
  | file (name : Octets)
  deriving DecidableEq, Repr, Inhabited

/-- A fault with its place: the origin of the script, and the number of the character there, or of the
line of a file. -/
structure ScriptError where
  fault : ScriptFault
  origin : Origin
  place : Nat
  deriving DecidableEq, Repr, Inhabited

/-- The words for a fault and its place. -/
def ScriptError.message (e : ScriptError) : Octets :=
  match e.fault, e.origin with
  | .regex .bareClass, _ => e.fault.message
  | _, .expression n =>
      "-e expression #".toList ++ Octets.ofNat n ++ ", char ".toList ++ Octets.ofNat e.place
        ++ ": ".toList ++ e.fault.message
  | _, .file name =>
      "file ".toList ++ name ++ " line ".toList ++ Octets.ofNat e.place ++ ": ".toList
        ++ e.fault.message

end Editing
end Tool
end Runbook
