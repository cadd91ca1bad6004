import Runbook.Machine.Program
import Runbook.Number.Reading
import Runbook.Shell.Builtin.Basic
import Runbook.Shell.Builtin.Jobs
import Runbook.Shell.Builtin.Output
import Runbook.Shell.Builtin.Variables

/-!
# Built-in conditions and the table of built-in commands

The built-in command that tests, and all built-in commands by their names.
-/

namespace Runbook
namespace Shell

/-!
## Built-in conditions

The built-in command that tests files, texts and numbers. Its arguments are an expression with
operators in front of one operand or between two, with `!`, `-a`, `-o` and parentheses.
-/

namespace Builtin
namespace Condition

/-- What an argument is taken for. -/
inductive Token where
  | end_
  | operand
  | unary (letter : Char)
  | binary (operator : String)
  | not_
  | and_
  | or_
  | open_
  | close_
  deriving DecidableEq, Repr, Inhabited

/-- The operators between two operands. -/
def binaries : List String :=
  ["=", "!=", "<", ">", "-eq", "-ne", "-ge", "-gt", "-le", "-lt", "-nt", "-ot", "-ef"]

/-- The letters of operators in front of one operand. -/
def unaries : List Char :=
  "rwxefdcbpugkstznhOGLS".toList

def operator? (s : Octets) : Option Token :=
  match s with
  | ['!'] => some .not_
  | ['('] => some .open_
  | [')'] => some .close_
  | ['-', 'a'] => some .and_
  | ['-', 'o'] => some .or_
  | _ =>
      if binaries.contains (String.ofList s) then some (.binary (String.ofList s))
      else
        match s with
        | ['-', c] => if unaries.contains c then some (.unary c) else none
        | _ => none

/-- Whether an argument is an operator between operands. -/
def isBinary (s : Octets) : Bool :=
  match operator? s with
  | some (.binary _) => true
  | _ => false

/-- Whether an operator in front of an operand is an operand itself, from what follows it. -/
def isOperand : List Octets → Bool
  | [] => true
  | [_] => false
  | s :: _ :: _ => isBinary s

/-- What the first of some arguments is taken for. -/
def token : List Octets → Token
  | [] => .end_
  | s :: rest =>
      match operator? s with
      | some (.unary c) => if isOperand rest then .operand else .unary c
      | some .open_ => if rest.isEmpty then .operand else .open_
      | some t => t
      | none => .operand

/-- A whole number that an operand must be. -/
def number (s : Octets) : Eval Int := do
  let bad {α : Type} : Eval α := Eval.fail ("Illegal number: ".toList ++ s)
  match leadingDecimal? s with
  | none => bad
  | some (n, rest) =>
      if !(rest.dropWhile isNumberGap).isEmpty then bad
      else if n < -(Nat.pow 2 63 : Int) || Nat.pow 2 63 ≤ n then bad
      else return n

/-- The result of an operator between two operands. -/
def compare
    (operator : String)
    (a b : Octets) :
    Eval Bool := do
  let numbers (test : Int → Int → Bool) : Eval Bool := do
    let x ← number a
    let y ← number b
    return test x y
  match operator with
  | "=" => return a = b
  | "!=" => return a ≠ b
  | "<" => return Octets.compare a b = .lt
  | ">" => return Octets.compare a b = .gt
  | "-eq" => numbers fun x y => x = y
  | "-ne" => numbers fun x y => x ≠ y
  | "-ge" => numbers fun x y => y ≤ x
  | "-gt" => numbers fun x y => y < x
  | "-le" => numbers fun x y => x ≤ y
  | "-lt" => numbers fun x y => x < y
  | "-ef" => Eval.act (Inquiry.isSame a b)
  | _ => return false

/-- The result of an operator in front of an operand. -/
def examine
    (letter : Char)
    (a : Octets) :
    Eval Bool := do
  match letter with
  | 'z' => return a.isEmpty
  | 'n' => return !a.isEmpty
  | 't' => do
      let _ ← number a
      return false
  | _ => Eval.act (Inquiry.ask letter a)

/-- The result of an expression and the arguments behind it. -/
abbrev Reading := List Octets → Eval (Bool × List Octets)

mutual

/-- Reads operands with `-o` between them. The first argument is taken for `t`. -/
def either : Nat → Token → Reading
  | 0, _, arguments => return (false, arguments)
  | fuel + 1, t, arguments => do
      let (a, rest) ← both fuel t arguments
      match token rest with
      | .or_ => do
          let (b, after) ← either fuel (token (rest.drop 1)) (rest.drop 1)
          return (a || b, after)
      | _ => return (a, rest)

/-- Reads operands with `-a` between them. -/
def both : Nat → Token → Reading
  | 0, _, arguments => return (false, arguments)
  | fuel + 1, t, arguments => do
      let (a, rest) ← negated fuel t arguments
      match token rest with
      | .and_ => do
          let (b, after) ← both fuel (token (rest.drop 1)) (rest.drop 1)
          return (a && b, after)
      | _ => return (a, rest)

/-- Reads an operand behind any number of `!`. -/
def negated : Nat → Token → Reading
  | 0, _, arguments => return (false, arguments)
  | fuel + 1, .not_, arguments => do
      let t := token (arguments.drop 1)
      let (a, rest) ← negated fuel t (if t = .end_ then arguments else arguments.drop 1)
      return (!a, rest)
  | fuel + 1, t, arguments => primary fuel t arguments

def primary : Nat → Token → Reading
  | 0, _, arguments => return (false, arguments)
  | _, .end_, arguments => return (false, arguments.drop 1)
  | fuel + 1, .open_, arguments => do
      let inside := arguments.drop 1
      match token inside with
      | .close_ => return (false, inside.drop 1)
      | t =>
          let (a, rest) ← either fuel t inside
          match token rest with
          | .close_ => return (a, rest.drop 1)
          | _ => Eval.failText "closing paren expected"
  | _, .unary c, arguments =>
      match arguments with
      | _ :: a :: rest => do return (← examine c a, rest)
      | _ => Eval.fail ('-' :: c :: ": argument expected".toList)
  | _, _, arguments =>
      match arguments with
      | a :: operator :: rest =>
          match operator? operator, rest with
          | some (.binary name), b :: after => do return (← compare name a b, after)
          | some (.binary name), [] => Eval.failText s!"{name}: argument expected"
          | _, _ => return (!a.isEmpty, operator :: rest)
      | [a] => return (!a.isEmpty, [])
      | [] => return (false, [])

end

/-- The result of an expression that fills all arguments. A complaint names the last argument that
belongs to the expression. -/
def evaluate
    (t : Token)
    (arguments : List Octets) :
    Eval Bool := do
  let (a, rest) ← either (4 * arguments.length + 8) t arguments
  if rest.isEmpty then return a
  else
    let used := arguments.take (arguments.length - rest.length)
    Eval.fail ((used.getLast?).getD [] ++ ": unexpected operator".toList)

/-- The result of an expression. Three arguments with an operator between them are a comparison, and
so may be what is left when signs around the others are taken away. -/
def result : Nat → List Octets → Eval Bool
  | 0, _ => return false
  | _, [] => return false
  | fuel + 1, arguments => do
      let inside := (arguments.drop 1).dropLast
      let isWrapped := arguments.head? = some ['('] && arguments.getLast? = some [')']
      let isNegated := arguments.head? = some ['!']
      let few := arguments.length = 3 || arguments.length = 4
      if arguments.length = 3 && ((arguments.drop 1).head?.any isBinary) then
        evaluate .operand arguments
      else if few && isWrapped then evaluate (token inside) inside
      else if few && isNegated then return !(← result fuel (arguments.drop 1))
      else evaluate (token arguments) arguments

/-- Tests a condition. -/
def run (arguments : List Octets) : Eval Nat := do
  return if ← result 8 arguments then 0 else 1

end Condition

def test : Builtin :=
  plain Condition.run

/-- Tests a condition that a bracket closes. -/
def bracket : Builtin :=
  plain fun arguments => do
    if arguments.getLast? = some [']'] then Condition.run arguments.dropLast
    else Eval.failText "missing ]"

end Builtin

/-!
## The built-in commands

What a name stands for as a command: a keyword, a function, a built-in command, or a program in one of
the directories of the search path; and all built-in commands by their names. The command that puts a
program in the place of the shell is known where programs are started.
-/

/-- The names of built-in commands, and whether they are special. -/
def builtinNames : List (String × Bool) :=
  specialBuiltins.map (fun n => (n, true)) ++
    [ "[", "alias", "bg", "cd", "chdir", "command", "echo", "false", "fg", "getopts", "hash", "jobs",
      "kill", "local", "printf", "pwd", "read", "test", "true", "type", "ulimit", "umask",
      "unalias", "wait" ].map (fun n => (n, false))

namespace Eval

/-- Looks for a program in the directories of a search path, which start from a given fault. -/
def searchProgram
    (name : Octets)
    (fault : FileFault) :
    List Octets → Eval (Except FileFault Octets)
  | [] => return .error fault
  | directory :: rest => do
      let path := Launch.under directory name
      match ← ask (.status path true) with
      | .error e =>
          searchProgram name (if Launch.isMissing e then fault else e) rest
      | .ok s =>
          if s.kind = .file && s.mode &&& 0o111 ≠ 0 then return .ok path
          else searchProgram name .denied rest

/-- The path of a program. A name with a slash is a path itself. -/
def programPath
    (name path : Octets) :
    Eval (Except FileFault Octets) :=
  if name.contains '/' then pure (.ok name)
  else searchProgram name .noEntry (Octets.splitOn ':' path)

end Eval

namespace Builtin

/-- Says what a name stands for. With `brief`, only what would be run is shown. -/
def describe
    (brief : Bool)
    (path : Octets)
    (name : Octets) :
    Eval Nat := do
  let s ← get
  let say (long : String) : Eval Nat :=
    showLine (if brief then name else name ++ long.toList)
  if (Keyword.of? name).isSome then say " is a shell keyword"
  else
    match s.aliases.lookup name with
    | some value =>
        if brief then showLine ("alias ".toList ++ name ++ '=' :: quoted value)
        else showLine (name ++ " is an alias for ".toList ++ value)
    | none =>
        if (s.function? name).isSome then say " is a shell function"
        else
          match builtinNames.find? fun b => b.1.toList = name with
          | some (_, true) => say " is a special shell builtin"
          | some (_, false) => say " is a shell builtin"
          | none => program s
where
  /-- Says which program a name stands for. -/
  program (s : State) : Eval Nat := do
    let found ← do
      if name.contains '/' then
        match ← Eval.ask (.status name true) with
        | .ok _ => pure (Except.ok name)
        | .error e => pure (.error e)
      else Eval.programPath name path
    match found with
    | .ok at_ =>
        let verb := if s.hashed.contains name then " is a tracked alias for " else " is "
        showLine (if brief then at_ else name ++ verb.toList ++ at_)
    | .error _ =>
        if brief then return 127
        else do
          let _ ← showLine (name ++ ": not found".toList)
          return 127

/-- Says what names stand for. -/
def type : Builtin :=
  plain fun names => do
    let path := (← get).path
    let statuses ← Eval.forEach (describe false path) names
    return statuses.foldl (fun a b => a ||| b) 0

/-- Says what a command stands for; otherwise the command is run elsewhere. -/
def command : Builtin :=
  plain fun arguments => do
    let (found, names) ← options "pvV" arguments
    let s ← get
    let path := if given 'p' found then Launch.standardPath else s.path
    let asked := found.filter fun e => e.1 ≠ 'p'
    match asked.getLast?, names with
    | some ('V', _), name :: _ => describe false path name
    | some _, name :: _ => describe true path name
    | _, _ => return 0

/-- Notes where programs are, or shows those noted. -/
def hash : Builtin :=
  plain fun arguments => do
    let (found, names) ← options "rv" arguments
    if given 'r' found then
      modify fun s => { s with hashed := [] }
      return 0
    else if names.isEmpty then
      let s ← get
      let lines ← Eval.forEach
        (fun name => do
          match ← Eval.programPath name s.path with
          | .ok at_ => return at_ ++ ['\n']
          | .error _ => return [])
        s.hashed
      show_ lines.flatten
    else
      let statuses ← Eval.forEach
        (fun name => do
          let s ← get
          match ← Eval.programPath name s.path with
          | .ok _ =>
              set { s with hashed := if s.hashed.contains name then s.hashed else s.hashed ++ [name] }
              return 0
          | .error e =>
              Eval.warn (name ++ ": ".toList ++ (startReason e).toList)
              return 1)
        names
      return statuses.foldl max 0

/-- The limits of processes, of which none is set. -/
def ulimit : Builtin :=
  plain fun arguments => do
    let (found, _) ← options "HSatfdscmlpnvwr" arguments
    if given 'n' found then showLine "1048576".toList
    else if given 's' found then showLine "8192".toList
    else if given 'c' found then showLine "0".toList
    else showLine "unlimited".toList

end Builtin

/-! ## All built-in commands -/

namespace Builtin

/-- The built-in command of a name. -/
def named? : String → Option Builtin
  | ":" => some (succeed true)
  | "." => some dot
  | "[" => some bracket
  | "alias" => some alias_
  | "bg" => some foreground
  | "break" => some (leaveLoop .break_)
  | "cd" => some cd
  | "chdir" => some cd
  | "command" => some command
  | "continue" => some (leaveLoop .continue_)
  | "echo" => some echo
  | "eval" => some eval
  | "exit" => some exit
  | "export" => some export_
  | "false" => some failing
  | "fg" => some foreground
  | "getopts" => some getopts
  | "hash" => some hash
  | "jobs" => some jobs
  | "kill" => some kill
  | "local" => some local_
  | "printf" => some printf
  | "pwd" => some pwd
  | "read" => some read
  | "readonly" => some readonly_
  | "return" => some return_
  | "set" => some set_
  | "shift" => some shift
  | "test" => some test
  | "times" => some times
  | "trap" => some trap
  | "true" => some (succeed false)
  | "type" => some type
  | "ulimit" => some ulimit
  | "umask" => some umask
  | "unalias" => some unalias
  | "unset" => some unset
  | "wait" => some wait
  | _ => none

end Builtin
end Shell
end Runbook
