import Runbook.Number.Arithmetic
import Runbook.Regex.Basic

/-!
# Programs for records

A program looks at records one by one. It consists of rules, each of which has a condition and
statements that are carried out for the records that meet it, and of functions.
-/

namespace Runbook
namespace Tool
namespace Records

/-- What a name stands for: something of the whole program, or of the function at hand, by its number. -/
inductive Name where
  | shared (index : Nat)
  | own (index : Nat)
  deriving DecidableEq, Repr, Inhabited

/-- Settings that have a name: how many fields there are, what separates fields and records, and how
numbers become text when they are printed and otherwise. -/
inductive Setting where
  | count
  | fieldSeparator
  | recordSeparator
  | printFormat
  | textFormat
  deriving DecidableEq, Repr, Inhabited

/-- What is done with two numbers. -/
inductive Arithmetic where
  | add
  | sub
  | mul
  | div
  | rem
  | pow
  deriving DecidableEq, Repr, Inhabited

/-- How two values are compared. -/
inductive Relation where
  | less
  | atMost
  | equal
  | different
  | greater
  | atLeast
  deriving DecidableEq, Repr, Inhabited

/-- What separates the fields of a record, or the parts of a text. -/
inductive Separator where
  | gaps
  | each
  | char (c : Char)
  | pattern (r : Regex)
  deriving Repr, Inhabited

/-- Functions that every program has. -/
inductive Builtin where
  | length
  | index
  | substr
  | sprintf
  | sin
  | cos
  | atan2
  | exp
  | log
  | int
  | sqrt
  | rand
  | srand
  | close
  | system
  | toUpper
  | toLower
  | flush
  | makeTime
  | formatTime
  | systemTime
  deriving DecidableEq, Repr, Inhabited

/-- The name of a function, and how many values it takes. -/
def Builtin.signature : Builtin → String × Nat × Nat
  | .length => ("length", 0, 1)
  | .index => ("index", 2, 2)
  | .substr => ("substr", 2, 3)
  | .sprintf => ("sprintf", 1, 255)
  | .sin => ("sin", 1, 1)
  | .cos => ("cos", 1, 1)
  | .atan2 => ("atan2", 2, 2)
  | .exp => ("exp", 1, 1)
  | .log => ("log", 1, 1)
  | .int => ("int", 1, 1)
  | .sqrt => ("sqrt", 1, 1)
  | .rand => ("rand", 0, 0)
  | .srand => ("srand", 0, 1)
  | .close => ("close", 1, 1)
  | .system => ("system", 1, 1)
  | .toUpper => ("toupper", 1, 1)
  | .toLower => ("tolower", 1, 1)
  | .flush => ("fflush", 0, 1)
  | .makeTime => ("mktime", 1, 2)
  | .formatTime => ("strftime", 0, 3)
  | .systemTime => ("systime", 0, 0)

/-- All functions that every program has. -/
def Builtin.all : List Builtin :=
  [ .length, .index, .substr, .sprintf, .sin, .cos, .atan2, .exp, .log, .int, .sqrt, .rand, .srand,
    .close, .system, .toUpper, .toLower, .flush, .makeTime, .formatTime, .systemTime ]

/-- Where a printed text goes: to a file that is emptied first, behind what a file holds, or to a
command. -/
inductive Direction where
  | onto
  | behind
  | command
  deriving DecidableEq, Repr, Inhabited

mutual

/-- A place that holds a value. -/
inductive Place where
  | variable (n : Name)
  | setting (s : Setting)
  | field (index : Expr)
  | element (array : Name) (index : List Expr)

/-- What is looked for in a text: a pattern that is known, or one that is computed. -/
inductive Matcher where
  | fixed (r : Regex)
  | computed (e : Expr)

/-- What separates the parts of a text: something known, or something computed. -/
inductive Splitter where
  | fixed (s : Separator)
  | computed (e : Expr)

/-- What is handed to a function: a value, or what a name stands for. -/
inductive Argument where
  | value (e : Expr)
  | name (n : Name)

/-- Where records are read from: the files of the program, a file, or a command. -/
inductive Source where
  | main
  | file (e : Expr)
  | command (e : Expr)

/-- An expression. -/
inductive Expr where
  | number (x : Binary)
  | text (s : Octets)
  | pattern (r : Regex)
  | read (p : Place)
  | assign (p : Place) (op : Option Arithmetic) (e : Expr)
  | step (p : Place) (up before : Bool)
  | not_ (e : Expr)
  | negate (e : Expr)
  | plain (e : Expr)
  | arithmetic (op : Arithmetic) (a b : Expr)
  | join (a b : Expr)
  | compare (r : Relation) (a b : Expr)
  | matches_ (wanted : Bool) (e : Expr) (m : Matcher)
  | and_ (a b : Expr)
  | or_ (a b : Expr)
  | choose (c a b : Expr)
  | member (array : Name) (index : List Expr)
  | call (function : Nat) (arguments : List Argument)
  | builtin (f : Builtin) (arguments : List Expr)
  | sizeOf_ (n : Name)
  | split (e : Expr) (array : Name) (s : Option Splitter)
  | find (e : Expr) (m : Matcher)
  | substitute (all : Bool) (m : Matcher) (by_ : Expr) (p : Place)
  | getline (source : Source) (into : Option Place)

end

instance : Inhabited Expr :=
  ⟨.text []⟩

instance : Inhabited Place :=
  ⟨.variable (.shared 0)⟩

/-- A statement. -/
inductive Statement where
  | nothing
  | evaluate (e : Expr)
  | print (values : List Expr) (to_ : Option (Direction × Expr))
  | printf (values : List Expr) (to_ : Option (Direction × Expr))
  | block (body : List Statement)
  | if_ (condition : Expr) (yes no : Statement)
  | while_ (condition : Expr) (body : Statement)
  | doWhile (body : Statement) (condition : Expr)
  | for_ (first condition next : Option Expr) (body : Statement)
  | forIn (key : Name) (array : Name) (body : Statement)
  | break_
  | continue_
  | next
  | nextFile
  | exit (status : Option Expr)
  | return_ (value : Option Expr)
  | delete (array : Name) (index : List Expr)
  | clear (array : Name)
  deriving Inhabited

/-- Which records a rule is for. A range goes from one record to another one. -/
inductive Condition where
  | always
  | when_ (e : Expr)
  | range (first last : Expr)
  deriving Inhabited

/-- A rule. Without statements it prints the record. -/
structure Rule where
  condition : Condition
  body : Option (List Statement)
  deriving Inhabited

/-- What a name may be used for. -/
inductive Kind where
  | unknown
  | variable
  | array
  deriving DecidableEq, Repr, Inhabited

/-- A function: its name, what its names are used for, of which the first are filled by a call, and its
statements. -/
structure Function where
  name : Octets
  kinds : List Kind
  body : List Statement
  deriving Inhabited

/-- A program: what is done before the first record and behind the last one, the rules, the functions,
and the names that stand for something in the whole program. -/
structure Program where
  first : List Statement
  rules : List Rule
  last : List Statement
  hasFirst : Bool
  hasLast : Bool
  functions : Array Function
  names : Array (Octets × Kind)
  deriving Inhabited

/-! ## Names of every program -/

/-- The names that stand for something in every program, in the order of their numbers. -/
def givenNames : List (String × Kind) :=
  [ ("NR", .variable), ("FNR", .variable), ("FILENAME", .variable), ("OFS", .variable),
    ("ORS", .variable), ("SUBSEP", .variable), ("RSTART", .variable), ("RLENGTH", .variable),
    ("ARGC", .variable), ("ENVIRON", .array), ("ARGV", .array) ]

def recordNumber : Name :=
  .shared 0

def fileRecordNumber : Name :=
  .shared 1

def fileName : Name :=
  .shared 2

/-- What is put between the fields of a record. -/
def outputFieldSeparator : Name :=
  .shared 3

/-- What is put behind a record. -/
def outputRecordSeparator : Name :=
  .shared 4

/-- What is put between the parts of an index. -/
def indexSeparator : Name :=
  .shared 5

/-- Where the last match begins. -/
def matchStart : Name :=
  .shared 6

/-- How long the last match is. -/
def matchLength : Name :=
  .shared 7

/-- How many words the program was started with. -/
def wordCount : Name :=
  .shared 8

/-- The variables that the program was started with. -/
def environment : Name :=
  .shared 9

/-- The words that the program was started with. -/
def words : Name :=
  .shared 10

end Records
end Tool
end Runbook
