import Runbook.Shell.Evaluation

/-!
# Starting a shell

A shell is started with options, and with a text to run, a script, or neither; then it runs what it
reads from its input.
-/

namespace Runbook
namespace Shell

/-- Where the commands of a shell come from. -/
inductive CommandSource where
  | text (s : Octets)
  | script (path : Octets) (arguments : List Octets)
  | input
  deriving DecidableEq, Repr, Inhabited

def standardVariables
    (parent : Nat)
    (environment : Variables) :
    List (Octets × Variable) :=
  let given := environment.filter fun e => isName e.1 && e.1 ≠ "IFS".toList
  let own : List (String × Octets) :=
    [ ("IFS", Fields.blanks), ("OPTIND", ['1']), ("PATH", Launch.standardPath),
      ("PPID", Octets.ofNat parent), ("PS1", "# ".toList), ("PS2", "> ".toList),
      ("PS4", "+ ".toList) ]
  let missing := own.filter fun e => !given.any fun g => g.1 = e.1.toList
  given.map (fun e => (e.1, ⟨some e.2, true, false⟩)) ++
    missing.map (fun e => (e.1.toList, ⟨some e.2, false, false⟩))

def initialState
    (start : Start)
    (self parent : Nat)
    (directory : Octets) :
    State :=
  { name := start.name
    parameters := []
    bindings := standardVariables parent start.environment
    saved := []
    functions := []
    aliases := []
    hashed := []
    documents := []
    nextDocument := 0
    options := []
    status := 0
    substituted := 0
    savedStatus := none
    line := 0
    speaker := none
    root := self
    lastBackground := none
    jobs := []
    traps := []
    pending := []
    skip := .none
    loops := 0
    calls := 0
    optionPlace := ⟨1, none⟩
    directory := directory }

namespace Eval

/-- Sets options from the letters of a word, and says whether a text to run follows and whether the
name of an option does. -/
def startLetters
    (on : Bool) :
    Octets → Bool × Bool → Eval (Bool × Bool)
  | [], found => return found
  | 'c' :: rest, (_, named) => startLetters on rest (true, named)
  | 'l' :: rest, found => startLetters on rest found
  | 'o' :: rest, (text, _) => startLetters on rest (text, true)
  | c :: rest, found => do
      let _ ← Builtin.setLetters on [c]
      startLetters on rest found

/-- Reads the options a shell is started with: whether a text to run follows, and the other
arguments. -/
def startOptions : Nat → Bool → List Octets → Eval (Bool × List Octets)
  | 0, hasText, arguments => return (hasText, arguments)
  | fuel + 1, hasText, arguments => do
      match arguments with
      | ['-'] :: rest => return (hasText, rest)
      | ['-', '-'] :: rest => return (hasText, rest)
      | (sign :: letters) :: rest =>
          if sign = '-' || sign = '+' then
            let (text, named) ← startLetters (sign = '-') letters (false, false)
            if named then
              Builtin.setNamed (sign = '-') rest.head?
              startOptions fuel (hasText || text) (rest.drop 1)
            else startOptions fuel (hasText || text) rest
          else return (hasText, arguments)
      | _ => return (hasText, arguments)

/-- Finds out where the commands of a shell come from, and sets its name and parameters. -/
def commandSource (arguments : List Octets) : Eval CommandSource := do
  let (hasText, words) ← startOptions (arguments.length + 1) false arguments
  let named (rest : List Octets) : Eval Unit :=
    modify fun s =>
      { s with name := rest.headD s.name, parameters := rest.drop 1 }
  match hasText, words with
  | true, [] => failText "-c requires an argument"
  | true, text :: rest => do
      named rest
      return .text text
  | false, [] => do
      Builtin.setOption true 's'
      return .input
  | false, path :: rest => do
      if (← get).has 's' then
        modify fun s => { s with parameters := path :: rest }
        return .input
      else
        return .script path rest

/-- Notes the directory that a shell starts in, by the name it was entered by. -/
def noteDirectory : Eval Unit := do
  let s ← get
  let given := s.valueOr "PWD" []
  let isRight : Bool ←
    if given.head? = some '/' then act (Inquiry.isSame given ['.']) else pure false
  let directory ← if isRight then pure given else ask .here
  modify fun t => { t with directory := directory }
  assign "PWD".toList directory true

/-- Reads commands from a descriptor and runs them. -/
def runFrom
    (runner : Runner)
    (descriptor : Nat) :
    Eval Unit := do
  let text ← drain descriptor
  modify fun s => { s with line := 1 }
  let _ ← runText runner false text

def session
    (runner : Runner)
    (arguments : List Octets) :
    Eval Unit := do
  noteDirectory
  match ← commandSource arguments with
  | .text text => do
      modify fun s => { s with line := 1 }
      let hasMore := (← get).has 's'
      let _ ← runText runner (!hasMore) text
      if hasMore then runFrom runner 0
  | .script path rest => do
      match ← ask (.openFile path .reading) with
      | .error e =>
          fail ("cannot open ".toList ++ path ++ ": ".toList ++ (openReason e).toList)
      | .ok d => do
          let text ← drain d
          let _ ← ask (.close d)
          modify fun s => { s with line := 1, name := path, parameters := rest }
          let _ ← runText runner false text
  | .input => runFrom runner 0

end Eval

def tool : Tool := fun launcher start => do
  let self ← Act.ask .self
  let parent ← Act.ask .parent
  let directory ← Act.ask .here
  let runner := Eval.runnerOf launcher maxDepth
  let state := initialState start self parent directory
  let (_, after) ← (Eval.toEnd runner (Eval.session runner start.arguments)).run state
  return after.status

end Shell
end Runbook
