import Runbook.Tool.Records.Expressions

/-!
# Statements and rules

Statements are read one by one. Behind a fault the reading goes on at the next end of a statement, so
that several faults of a program are found at once. When all was read, the calls of functions are
compared with the functions.
-/

namespace Runbook
namespace Tool
namespace Records
namespace Parse

/-! ## Faults -/

/-- Whether a token may show that a parenthesis was not closed. -/
def endsParens : Token → Bool
  | .newline => true
  | .semicolon _ => true
  | .closeBrace => true
  | .eof => true
  | _ => false

/-- How many tokens must fit behind a fault before another one is noted. -/
def faultGap : Nat := 3

/-- Notes that a block was not closed in front of a token. -/
def missingBrace (t : Token) : Parse Unit := do
  modify fun s => { s with braces := 0 }
  fault ("missing \x7d near ".toList ++ t.shown)

/-- Notes that the last token does not fit, unless it comes soon behind another fault. -/
def report : Parse Unit := do
  let s ← get
  set { s with muted := faultGap }
  if 0 < s.muted then return
  match s.last with
  | .unexpected c => foreign c
  | t =>
      if endsParens t && 0 < s.parens then
        modify fun t => { t with parens := 0 }
        fault ("missing ) near ".toList ++ t.shown)
      else
        match t with
        | .eof =>
            if 0 < s.braces then missingBrace t else fault ("syntax error at or near ".toList ++ t.shown)
        | .keyword k =>
            if (k = .begin_ || k = .end_) && 0 < s.braces then missingBrace t
            else fault ("syntax error at or near ".toList ++ t.shown)
        | _ => fault ("syntax error at or near ".toList ++ t.shown)

/-- Passes tokens up to one that fits, which is passed too if it is wanted so. -/
def passUntil (fits : Token → Option Bool) : Nat → Parse Bool
  | 0 => throw .over
  | fuel + 1 => do
      let t ← peek
      match fits t, t with
      | some true, _ => do
          pass
          return true
      | some false, _ => return false
      | none, .eof => throw .over
      | none, _ => do
          discard
          passUntil fits fuel

/-- Goes on behind a fault at the end of a statement, or in front of a brace that closes a block at whose
start the fault is. Tells whether it is the former. -/
def recover (atStart : Bool) : Parse Bool := do
  report
  let fits : Token → Option Bool := fun t => match t with
    | .newline => some true
    | .semicolon _ => some true
    | .closeBrace => if atStart then some false else none
    | _ => none
  let found ← passUntil fits (← rounds)
  modify fun s => { s with parens := 0, printing := false, fetching := false, muted := 0 }
  return found

/-! ## Statements -/

/-- Passes the end of a statement. -/
def separator : Parse Unit :=
  expect fun t => match t with
    | .newline => true
    | .semicolon _ => true
    | _ => false

/-- Reads a statement inside of another one; a fault in it leaves nothing. -/
def inside (inner : Inner) : Parse Statement :=
  tryCatch inner.statement fun f =>
    match f with
    | .misplaced => do
        let _ ← recover false
        return .nothing
    | .over => throw .over

/-- Reads the statements of a block up to its closing brace. -/
def blockFrom
    (inner : Inner) :
    Nat → List Statement → Parse (List Statement)
  | 0, done => return done.reverse
  | fuel + 1, done => do
      match ← peek with
      | .closeBrace =>
          if done.isEmpty then
            let _ ← recover true
          pass
          return done.reverse
      | _ => do
          let read : Parse (Option Statement) := do return some (← inner.statement)
          let next ← tryCatch read fun f =>
            match f with
            | .misplaced => do
                if ← recover done.isEmpty then return some .nothing else return none
            | .over => throw .over
          match next with
          | some statement => blockFrom inner fuel (statement :: done)
          | none => do
              pass
              return done.reverse

def block (inner : Inner) : Parse (List Statement) := do
  expect fun t => match t with
    | .openBrace => true
    | _ => false
  blockFrom inner (← rounds) []

def loopBody (inner : Inner) : Parse Statement := do
  modify fun s => { s with loops := s.loops + 1 }
  let body ← inside inner
  modify fun s => { s with loops := s.loops - 1 }
  return body

/-- Reads an expression in parentheses that is a condition. -/
def condition (inner : Inner) : Parse Expr := do
  openParen
  let e ← inner.expression 0
  closeParen
  skipLines
  return e.value

/-- Reads the statements of a choice behind its condition. -/
def choice (inner : Inner) : Parse Statement := do
  let e ← condition inner
  let yes ← inside inner
  match ← peek with
  | .keyword .else_ => do
      pass
      skipLines
      return .if_ e yes (← inside inner)
  | _ => return .if_ e yes .nothing

/-- Reads the condition behind the body of a loop. A fault in it takes the place of the body. -/
def lateCondition (inner : Inner) : Nat → Statement → Parse Statement
  | 0, body => return body
  | fuel + 1, body => do
      let read : Parse (Option Expr) := do
        expect fun t => match t with
          | .keyword .while_ => true
          | _ => false
        openParen
        let e ← inner.expression 0
        closeParen
        separator
        return some e.value
      let found ← tryCatch read fun f =>
        match f with
        | .misplaced => do
            let _ ← recover false
            return none
        | .over => throw .over
      match found with
      | some e => return .doWhile body e
      | none => lateCondition inner fuel .nothing

/-- Reads an expression up to a token, which is passed, unless that token comes at once. -/
def optionalUpTo
    (inner : Inner)
    (fits : Token → Bool) :
    Parse (Option Expr) := do
  if fits (← peek) then
    pass
    return none
  else
    let e ← inner.expression 0
    expect fits
    return some e.value

def isSemicolon : Token → Bool
  | .semicolon _ => true
  | _ => false

/-- Reads a loop behind its first expression. -/
def loopFrom
    (inner : Inner)
    (first : Option Expr) :
    Parse Statement := do
  let condition ← optionalUpTo inner isSemicolon
  let next ← optionalUpTo inner fun t => match t with
    | .closeParen => true
    | _ => false
  skipLines
  return .for_ first condition next (← loopBody inner)

/-- Reads a loop behind its word: one with three expressions, or one over the keys of an array. -/
def loop (inner : Inner) : Parse Statement := do
  openParen
  match ← peek with
  | .name s => do
      pass
      match ← peek with
      | .keyword .in_ => do
          pass
          let array ← word
          closeParen
          let key ← useAs .variable s
          let found ← useAs .array array
          skipLines
          return .forIn key found (← loopBody inner)
      | _ => do
          let e ← wholeFrom inner (← named inner s)
          expect isSemicolon
          loopFrom inner (some e.value)
  | _ => loopFrom inner (← optionalUpTo inner isSemicolon)

/-- Reads where a printed text goes. -/
def direction (inner : Inner) : Parse (Option (Direction × Expr)) := do
  match ← peek with
  | .output d => do
      pass
      return some (d, (← inner.expression 0).value)
  | _ => return none

def endsPrinting : Token → Bool
  | .newline => true
  | .semicolon _ => true
  | .output _ => true
  | _ => false

/-- Reads what is printed: expressions that may stand in parentheses together. -/
def printed (inner : Inner) : Parse (List Expr) := do
  let t ← peek
  if endsPrinting t then return []
  match t with
  | .openParen => do
      pass
      match ← peek with
      | .closeParen => do
          pass
          return []
      | _ => do
          let first ← inner.expression 0
          match ← peek with
          | .comma => do
              let all ← moreFrom inner (← rounds) [first.value]
              closeParen
              match ← peek with
              | .keyword .in_ => do
                  pass
                  let array ← useAs .array (← word)
                  let e ← signs inner 0 (← rounds) ⟨.member array all, none⟩
                  moreFrom inner (← rounds) [e.value]
              | _ => return all
          | _ => do
              let e ← wholeFrom inner (← grouped inner true first)
              moreFrom inner (← rounds) [e.value]
  | _ => sequence inner

/-- Reads what follows the word that prints. -/
def printing
    (inner : Inner)
    (byFormat : Bool) :
    Parse Statement := do
  modify fun s => { s with printing := true }
  let values ← printed inner
  let into ← direction inner
  separator
  modify fun s => { s with printing := false }
  if byFormat then
    if values.isEmpty then fault "no arguments in call to printf".toList
    return .printf values into
  else return .print values into

/-- Notes a fault unless something holds. -/
def demand
    (holds : Bool)
    (message : String) :
    Parse Unit := do
  if !holds then fault message.toList

/-- Reads an expression up to the end of the statement, unless that comes at once. -/
def optionalValue (inner : Inner) : Parse (Option Expr) :=
  optionalUpTo inner fun t => match t with
    | .newline => true
    | .semicolon _ => true
    | _ => false

/-- Reads what follows the word that deletes. -/
def deletion (inner : Inner) : Parse Statement := do
  let name ← word
  match ← peek with
  | .openBracket => do
      pass
      let index ← sequence inner
      expect fun t => match t with
        | .closeBracket => true
        | _ => false
      let array ← useAs .array name
      separator
      return .delete array index
  | _ => do
      separator
      return .clear (← useAs .array name)

/-- Reads a statement that begins with a word of its own. -/
def wordStatement
    (inner : Inner)
    (k : Keyword) :
    Parse (Option Statement) := do
  match k with
  | .if_ => do
      pass
      return some (← choice inner)
  | .while_ => do
      pass
      let e ← condition inner
      return some (.while_ e (← loopBody inner))
  | .do_ => do
      pass
      skipLines
      let body ← loopBody inner
      return some (← lateCondition inner (← rounds) body)
  | .for_ => do
      pass
      return some (← loop inner)
  | .print => do
      pass
      return some (← printing inner false)
  | .printf => do
      pass
      return some (← printing inner true)
  | .break_ => do
      pass
      separator
      demand (0 < (← get).loops) "break statement outside of loop"
      return some .break_
  | .continue_ => do
      pass
      separator
      demand (0 < (← get).loops) "continue statement outside of loop"
      return some .continue_
  | .next => do
      pass
      separator
      demand (← get).forRecords "improper use of next"
      return some .next
  | .nextFile => do
      pass
      separator
      demand (← get).forRecords "improper use of nextfile"
      return some .nextFile
  | .exit => do
      pass
      return some (.exit (← optionalValue inner))
  | .return_ => do
      pass
      let value ← optionalValue inner
      demand (← get).inside.isSome "return outside function body"
      return some (.return_ value)
  | .delete => do
      pass
      return some (← deletion inner)
  | _ => return none

/-- Reads a statement that is an expression. -/
def simple (inner : Inner) : Parse Statement := do
  let e ← inner.expression 0
  separator
  return .evaluate e.value

def statement (inner : Inner) : Parse Statement := do
  match ← peek with
  | .openBrace => return .block (← block inner)
  | .newline => do
      pass
      return .nothing
  | .semicolon _ => do
      pass
      return .nothing
  | .keyword k => do
      match ← wordStatement inner k with
      | some found => return found
      | none => simple inner
  | _ => simple inner

/-! ## The depth of reading -/

/-- How expressions and statements are read that may be inside of each other so deep. -/
def innerOf : Nat → Inner
  | 0 => ⟨fun _ => throw .over, fun _ => throw .over, throw .over⟩
  | depth + 1 =>
      let inner := innerOf depth
      ⟨expression inner, operand inner, statement inner⟩

/-! ## Rules and functions -/

/-- The rules and statements of a program as far as they were read, the last ones first. -/
structure Parts where
  first : List (List Statement)
  rules : List Rule
  last : List (List Statement)
  deriving Inhabited

/-- Reads a block of statements for records or for other times. -/
def blockFor
    (inner : Inner)
    (records : Bool) :
    Parse (List Statement) := do
  modify fun s => { s with forRecords := records }
  let body ← block inner
  modify fun s => { s with forRecords := true }
  return body

/-- Reads the statements of a rule behind its condition. -/
def ruleFrom
    (inner : Inner)
    (c : Condition) :
    Parse Rule := do
  match ← peek with
  | .openBrace => return ⟨c, some (← blockFor inner true)⟩
  | _ => do
      separator
      return ⟨c, none⟩

/-- Reads a rule with a condition. -/
def rule (inner : Inner) : Parse Rule := do
  let e ← inner.expression 0
  if ← hasComma then
    let last ← inner.expression 0
    ruleFrom inner (.range e.value last.value)
  else ruleFrom inner (.when_ e.value)

/-- Reads the name of what is handed to a function. -/
def parameter (function : Octets) : Parse Octets := do
  match ← peek with
  | .function s => do
      if s = function then
        fault "function parameter cannot be the function".toList
        misplaced
      else
        pass
        return s
  | _ => word

/-- Reads names with commas between them. -/
def parametersFrom
    (function : Octets) :
    Nat → List Octets → Parse (List Octets)
  | 0, done => return done.reverse
  | fuel + 1, done => do
      let name ← parameter function
      if done.contains name then
        fault (name ++ " is duplicated in argument list".toList)
      if ← hasComma then parametersFrom function fuel (name :: done) else return (name :: done).reverse

/-- Reads the name of a function that is defined, and gives its number. -/
def functionName : Parse Nat := do
  match ← peek with
  | .name s => do
      pass
      let state ← get
      match (sharedIndex? state s).bind fun i => state.names[i]? with
      | some (_, .variable) => fault ("illegal reference to variable ".toList ++ s)
      | some (_, .array) => fault ("illegal reference to array ".toList ++ s)
      | _ => pure ()
      declare s
      return (← get).functions.size - 1
  | .function s => do
      pass
      let state ← get
      match (sharedIndex? state s).bind fun i => state.names[i]? with
      | some (_, .function number) =>
          if ((state.functions[number]?).bind fun d => d.body).isSome then
            fault ("redefinition of ".toList ++ s)
          return number
      | _ => misplaced
  | _ => misplaced

/-- What the calls so far, the newest first, tell of the names of a function: the first name of which one
of them tells anything, with what it tells. -/
def toldKind?
    (calls : List Invocation) :
    Nat → List Octets → Option (Nat × Kind)
  | _, [] => none
  | i, _ :: rest =>
      match calls.findSome? fun c => (c.kinds[i]?).filter (· ≠ .unknown) with
      | some k => some (i, k)
      | none => toldKind? calls (i + 1) rest

/-- Reads a function behind its word. -/
def definition (inner : Inner) : Parse Unit := do
  let number ← functionName
  openParen
  let parameters ← match ← peek with
    | .closeParen => pure []
    | _ => parametersFrom (((← get).functions[number]?).elim [] Definition.name) (← rounds) []
  closeParen
  skipLines
  modify fun s =>
    { s with
      inside := some number
      loops := 0
      functions := s.functions.modify number fun d =>
        { d with parameters := parameters.map fun p => (p, .unknown) } }
  match toldKind? ((← get).calls.filter fun c => c.function = number) 0 parameters with
  | some (i, k) => modify fun s => withKind s (.own i) k
  | none => pure ()
  let body ← blockFor inner false
  modify fun s =>
    { s with
      inside := none
      functions := s.functions.modify number fun d => { d with body := some body } }

/-- Reads one rule or one function. -/
def part
    (inner : Inner)
    (p : Parts) :
    Parse Parts := do
  match ← peek with
  | .openBrace => do
      let body ← blockFor inner true
      return { p with rules := ⟨.always, some body⟩ :: p.rules }
  | .keyword .begin_ => do
      pass
      return { p with first := (← blockFor inner false) :: p.first }
  | .keyword .end_ => do
      pass
      return { p with last := (← blockFor inner false) :: p.last }
  | .keyword .function => do
      pass
      definition inner
      return p
  | _ => return { p with rules := (← rule inner) :: p.rules }

/-- Reads rules and functions up to the end. Behind a fault the next block is read for its faults. -/
def partsFrom
    (inner : Inner) :
    Nat → Parts → Parse Parts
  | 0, p => return p
  | fuel + 1, p => do
      match ← peek with
      | .eof => return p
      | _ => do
          let next ← tryCatch (part inner p) fun f =>
            match f with
            | .misplaced => do
                report
                let _ ← passUntil
                  (fun t => match t with
                    | .openBrace => some false
                    | _ => none)
                  (← rounds)
                modify fun s => { s with inside := none, loops := 0 }
                let _ ← blockFor inner true
                return p
            | .over => throw .over
          partsFrom inner fuel next

/-! ## Calls -/

/-- The kind of what a function is handed at a place. -/
def kindWanted (s : Reading) (function index : Nat) : Kind :=
  match (s.functions[function]?).bind fun d => d.parameters[index]? with
  | some (_, k) => k
  | none => .unknown

/-- What is handed over and what is wanted are brought together where only one of them is known. -/
def settlePassed
    (within : Option Nat)
    (function : Nat)
    (s : Reading)
    (at_ : Nat × Passed) :
    Reading :=
  match kindPassed s within at_.2, kindWanted s function at_.1, at_.2 with
  | .unknown, .unknown, _ => s
  | .unknown, k, .name n => { withKind { s with inside := within } n k with inside := none }
  | k, .unknown, _ =>
      { withKind { s with inside := some function } (.own at_.1) k with inside := none }
  | _, _, _ => s

/-- A list with the place of each member. -/
def numbered
    {α : Type}
    (l : List α) :
    List (Nat × α) :=
  (List.range l.length).zip l

/-- All calls are brought together with the functions, as often as that may be needed. -/
def settleCalls : Nat → Reading → Reading
  | 0, s => s
  | fuel + 1, s =>
      settleCalls fuel (s.calls.foldl
        (fun t c => (numbered c.passed).foldl (settlePassed c.within c.function) t) s)

/-- Notes what is wrong with a call. -/
def checkCall (c : Invocation) : Parse Unit := do
  let s ← get
  match s.functions[c.function]? with
  | none => pure ()
  | some d =>
      match d.body with
      | none => fault ("function ".toList ++ d.name ++ " never defined".toList)
      | some _ =>
          if d.parameters.length < c.passed.length then
            note (c.place ++ "too many arguments in call to ".toList ++ d.name)
          else
            (numbered c.passed).reverse.forM fun at_ => do
              let actual := kindPassed s c.within at_.2
              let wanted := kindWanted s c.function at_.1
              if actual ≠ .unknown && wanted ≠ .unknown && actual ≠ wanted then
                note (c.place ++ "type error in arg(".toList ++ Octets.ofNat (at_.1 + 1)
                  ++ ") in call to ".toList ++ d.name ++ " (actual ".toList ++ useWord true actual
                  ++ " vs ".toList ++ useWord true wanted ++ [')'])

/-- How deep expressions and statements may be inside of each other. -/
def maxDepth : Nat := 10000

/-- Reads a program up to its end. -/
def parts : Parse Parts := do
  skipLines
  let inner := innerOf (min maxDepth ((← rounds) + 2))
  partsFrom inner (← rounds) ⟨[], [], []⟩

/-- Reads a program and compares its calls with its functions, unless there were faults before. -/
def whole : Parse Parts := do
  let p ← parts
  if (← get).messages.isEmpty then
    modify fun s => settleCalls (s.names.size + 20) s
    (← get).calls.forM checkCall
  return p

end Parse

/-! ## Programs -/

/-- The state of reading in front of texts, each with the name of its file, with names that are known. -/
def Reading.start
    (known : Array (Octets × Kind))
    (texts : List (Octets × Octets)) :
    Reading :=
  { rest := (texts.head?).elim [] Prod.snd
    file := (texts.head?).elim [] Prod.fst
    others := texts.drop 1
    line := 1
    tokenLine := 1
    last := .newline
    ahead := none
    braces := 0
    parens := 0
    printing := false
    fetching := false
    names := known.map fun e => (e.1, Parse.Use.ofKind e.2)
    functions := #[]
    inside := none
    calls := []
    loops := 0
    forRecords := true
    muted := 0
    messages := [] }

/-- The program that texts make up where some names are known, or the messages about its faults. -/
def Program.read
    (known : Array (Octets × Kind))
    (texts : List (Octets × Octets)) :
    Except (List Octets) Program :=
  let (result, s) := StateT.run (ExceptT.run Parse.whole) (Reading.start known texts)
  match result, s.messages with
  | .ok p, [] =>
      .ok
        { first := p.first.reverse.flatten
          rules := p.rules.reverse
          last := p.last.reverse.flatten
          hasFirst := !p.first.isEmpty
          hasLast := !p.last.isEmpty
          functions := s.functions.map fun d => ⟨d.name, d.parameters.map Prod.snd, d.body.getD []⟩
          names := s.names.map fun e => (e.1, Parse.kindOf e.2) }
  | _, messages => .error messages.reverse

end Records
end Tool
end Runbook
