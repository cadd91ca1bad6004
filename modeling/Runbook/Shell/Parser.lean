import Runbook.Shell.Lexer

/-!
# Commands of the shell

Tokens are put together to commands. A script is read and run line by line, so a fault is found only
when its line is reached.
-/

namespace Runbook
namespace Shell

open Parse

/-- How the commands inside of a command are read: a list of them, a list that may be empty, and a
single one. -/
structure Inner where
  list : Parse Command
  body : Parse Command
  command : Parse Command

namespace Inner

/-- Reads a token inside of a command. -/
def token
    (inner : Inner)
    (keywords passLines : Bool) :
    Parse Token := do
  let plain := readToken inner.body (pure .eof) false false false 4
  readToken inner.body plain keywords passLines false ((← get).rest.length + 2)

/-- Reads a word whose signs stand for themselves. -/
def verbatimToken (inner : Inner) : Parse Token :=
  readToken inner.body (pure .eof) false false true 4

/-- Reads a token that must be a given keyword. -/
def keyword
    (inner : Inner)
    (k : Keyword)
    (passLines : Bool) :
    Parse Unit := do
  match ← inner.token true passLines with
  | .keyword found => if found = k then return () else expecting (.keyword found) (.keyword k)
  | t => expecting t (.keyword k)

end Inner

/-- The built-in commands that no function may be named after. -/
def specialBuiltins : List String :=
  [ ".", ":", "break", "continue", "eval", "exec", "exit", "export", "readonly", "return", "set",
    "shift", "times", "trap", "unset" ]

def readRedirect
    (inner : Inner)
    (descriptor : Option Nat)
    (operator : Octets) :
    Parse Redirect := do
  let operatorText := String.ofList operator
  let isDocument := operatorText = "<<" || operatorText = "<<-"
  let t ← if isDocument then inner.verbatimToken else inner.token false false
  match t with
  | .word parts _ quoted =>
      if isDocument then
        let s ← get
        let a : Awaited := ⟨s.nextDocument, plainText parts, operatorText = "<<-", quoted⟩
        set { s with awaited := s.awaited ++ [a], nextDocument := s.nextDocument + 1 }
        return .mk (descriptor.getD 0) (.document a.number) []
      else
        let (kind, standard) : RedirectKind × Nat := match operatorText with
          | "<" => (.input, 0)
          | "<>" => (.both, 0)
          | "<&" => (.copyInput, 0)
          | ">>" => (.append, 1)
          | ">&" => (.copyOutput, 1)
          | ">|" => (.clobber, 1)
          | _ => (.output, 1)
        return .mk (descriptor.getD standard) kind parts
  | t => unexpected t

/-- The name and the value of a word that is an assignment. -/
def assignment? (w : Word) : Option (Octets × Word) :=
  match w with
  | .text s :: rest =>
      let name := s.takeWhile (· ≠ '=')
      match s.drop name.length with
      | _ :: value =>
          if isName name then
            some (name, if value.isEmpty then rest else .text value :: rest)
          else none
      | [] => none
  | _ => none

/-- What was read of a simple command; lists are in reverse. -/
structure SimpleSoFar where
  assignments : List (Octets × Word)
  words : List Word
  redirects : List Redirect
  firstRaw : Octets

/-- Reads a function after its name and an opening parenthesis. -/
def readFunction
    (inner : Inner)
    (name : Octets) :
    Parse Command := do
  match ← inner.token false false with
  | .close_ =>
      if !isName name || specialBuiltins.contains (String.ofList name) then
        fault "Bad function name"
      else
        let t ← inner.token true true
        giveBack t
        return .function name (← inner.command)
  | t => expecting t .close_

/-- Reads a simple command behind what was read of it. -/
def simpleFrom
    (inner : Inner)
    (line : Nat) :
    Nat → SimpleSoFar → Parse Command
  | 0, _ => return .nothing
  | fuel + 1, so => do
      match ← inner.token false false with
      | .word parts raw quoted =>
          match so.words.isEmpty, assignment? parts with
          | true, some a => simpleFrom inner line fuel { so with assignments := a :: so.assignments }
          | isFirst, _ =>
              simpleFrom inner line fuel
                { so with
                  words := parts :: so.words
                  firstRaw := if isFirst && !quoted then raw else so.firstRaw }
      | .redirect descriptor operator =>
          let r ← readRedirect inner descriptor operator
          simpleFrom inner line fuel { so with redirects := r :: so.redirects }
      | .open_ =>
          if so.words.length = 1 && so.assignments.isEmpty && so.redirects.isEmpty then
            readFunction inner so.firstRaw
          else unexpected .open_
      | t =>
          giveBack t
          return .simple line so.assignments.reverse so.words.reverse so.redirects.reverse

/-- Reads redirections behind a command. -/
def redirectsFrom
    (inner : Inner) :
    Nat → List Redirect → Parse (List Redirect)
  | 0, done => return done.reverse
  | fuel + 1, done => do
      match ← inner.token true false with
      | .redirect descriptor operator =>
          let r ← readRedirect inner descriptor operator
          redirectsFrom inner fuel (r :: done)
      | t =>
          giveBack t
          return done.reverse

/-- Reads the rest of a conditional after its first keyword. -/
def readIf (inner : Inner) : Nat → Parse Command
  | 0 => return .nothing
  | fuel + 1 => do
      let test ← inner.list
      inner.keyword .then_ false
      let body ← inner.list
      match ← inner.token true false with
      | .keyword .elif => return .if_ test body (← readIf inner fuel)
      | .keyword .else_ => return .if_ test body (← inner.list)
      | t =>
          giveBack t
          return .if_ test body .nothing

/-- Reads the words of a loop up to the end of the line. -/
def loopWords (inner : Inner) : Nat → List Word → Parse (List Word)
  | 0, done => return done.reverse
  | fuel + 1, done => do
      match ← inner.token false false with
      | .word parts _ _ => loopWords inner fuel (parts :: done)
      | .newline =>
          giveBack .newline
          return done.reverse
      | .semicolon => return done.reverse
      | t => unexpected t

/-- Reads the rest of a loop over words. -/
def readFor (inner : Inner) (line : Nat) : Parse Command := do
  match ← inner.token false false with
  | .word _ raw false =>
      if !isName raw then fault "Bad for loop variable"
      let words ← match ← inner.token true true with
        | .keyword .in_ => some <$> loopWords inner ((← get).rest.length + 2) []
        | .semicolon => pure none
        | t =>
            giveBack t
            pure none
      inner.keyword .do_ true
      let body ← inner.list
      inner.keyword .done false
      return .for_ line raw words body
  | _ => fault "Bad for loop variable"

/-- The word that a token is where a pattern is expected; keywords are words there. -/
def patternOf : Token → Word
  | .word parts _ _ => parts
  | .keyword k => [.text k.text.toList]
  | _ => []

/-- Reads the patterns of a branch, behind the first one. -/
def patternsFrom (inner : Inner) : Nat → List Word → Parse (List Word)
  | 0, done => return done.reverse
  | fuel + 1, done => do
      match ← inner.token false false with
      | .pipe =>
          let t ← inner.token false false
          patternsFrom inner fuel (patternOf t :: done)
      | .close_ => return done.reverse
      | t => expecting t .close_

/-- Reads the branches of a choice. -/
def branchesFrom (inner : Inner) :
    Nat → List (List Word × Command) → Parse (List (List Word × Command))
  | 0, done => return done.reverse
  | fuel + 1, done => do
      match ← inner.token true true with
      | .keyword .esac => return done.reverse
      | t =>
          let first ← match t with
            | .open_ => inner.token false false
            | t => pure t
          let patterns ← patternsFrom inner ((← get).rest.length + 2) [patternOf first]
          let body ← inner.body
          match ← inner.token true true with
          | .keyword .esac => return ((patterns, body) :: done).reverse
          | .caseEnd => branchesFrom inner fuel ((patterns, body) :: done)
          | t => expecting t .caseEnd

/-- Reads the rest of a choice. -/
def readCase (inner : Inner) (line : Nat) : Parse Command := do
  match ← inner.token false false with
  | .word parts _ _ =>
      inner.keyword .in_ true
      return .case_ line parts (← branchesFrom inner ((← get).rest.length + 2) [])
  | t => expecting t (.word [] [] false)

/-- Reads a command that starts with a token. -/
def commandAfter
    (inner : Inner)
    (t : Token)
    (line : Nat) :
    Parse Command := do
  match t with
  | .keyword .if_ =>
      let c ← readIf inner ((← get).rest.length + 2)
      inner.keyword .fi false
      return c
  | .keyword .while_ =>
      let test ← inner.list
      inner.keyword .do_ false
      let body ← inner.list
      inner.keyword .done false
      return .while_ false test body
  | .keyword .until_ =>
      let test ← inner.list
      inner.keyword .do_ false
      let body ← inner.list
      inner.keyword .done false
      return .while_ true test body
  | .keyword .for_ => readFor inner line
  | .keyword .case_ => readCase inner line
  | .keyword .begin_ =>
      let c ← inner.list
      inner.keyword .end_ false
      return c
  | .open_ =>
      let c ← inner.list
      match ← inner.token true false with
      | .close_ => return .subshell line c []
      | t => expecting t .close_
  | t => unexpected t

/-- Reads a command with the redirections behind it. -/
def readCommand (inner : Inner) : Parse Command := do
  let start := (← get).line
  let t ← inner.token true false
  let line := (← get).line
  match t with
  | .word _ _ _ =>
      giveBack t
      simpleFrom inner line ((← get).rest.length + 3) ⟨[], [], [], []⟩
  | .redirect _ _ =>
      giveBack t
      simpleFrom inner line ((← get).rest.length + 3) ⟨[], [], [], []⟩
  | t =>
      let c ← commandAfter inner t start
      let redirects ← redirectsFrom inner ((← get).rest.length + 2) []
      match redirects, c with
      | [], c => return c
      | redirects, .subshell at_ body _ => return .subshell at_ body redirects
      | redirects, c => return .redirected start c redirects

/-- Reads the further commands of a pipeline. -/
def pipesFrom (inner : Inner) : Nat → List Command → Parse (List Command)
  | 0, done => return done.reverse
  | fuel + 1, done => do
      match ← inner.token false false with
      | .pipe =>
          let t ← inner.token true true
          giveBack t
          let c ← readCommand inner
          pipesFrom inner fuel (c :: done)
      | t =>
          giveBack t
          return done.reverse

def readPipeline (inner : Inner) : Parse Command := do
  let t ← inner.token true false
  let negated : Bool := match t with
    | .keyword .bang => true
    | _ => false
  if !negated then giveBack t
  let first ← readCommand inner
  let c : Command := match ← pipesFrom inner ((← get).rest.length + 2) [first] with
    | [one] => one
    | all => .pipeline all
  return if negated then .not_ c else c

/-- Reads the pipelines behind a first one that depend on how those before them ended. -/
def chainFrom (inner : Inner) : Nat → Command → Parse Command
  | 0, c => return c
  | fuel + 1, c => do
      match ← inner.token false false with
      | .and_ =>
          let t ← inner.token true true
          giveBack t
          chainFrom inner fuel (.and_ c (← readPipeline inner))
      | .or_ =>
          let t ← inner.token true true
          giveBack t
          chainFrom inner fuel (.or_ c (← readPipeline inner))
      | t =>
          giveBack t
          return c

/-- Two commands one after the other. -/
def followedBy : Option Command → Command → Command
  | none, c => c
  | some b, c => .sequence b c

/-- Reads commands up to the end of the line, or, inside of another command, up to what ends the
list. `none` stands for nothing at all at the end of the text. -/
def listFrom
    (inner : Inner)
    (inside : Bool) :
    Nat → Bool → Option Command → Parse (Option Command)
  | 0, _, done => return done
  | fuel + 1, isFirst, done => do
      let t ← inner.token true inside
      match t with
      | .newline =>
          readDocuments inner.body (inner.token true false)
          return some (done.getD .nothing)
      | .eof =>
          readDocuments inner.body (inner.token true false)
          giveBack .eof
          return done
      | t =>
          giveBack t
          if !isFirst && t.endsList then return some (done.getD .nothing)
          let c ← chainFrom inner ((← get).rest.length + 2) (← readPipeline inner)
          match ← inner.token false false with
          | .ampersand => listFrom inner inside fuel false (some (followedBy done (.background c)))
          | .semicolon => listFrom inner inside fuel false (some (followedBy done c))
          | .newline =>
              giveBack .newline
              listFrom inner inside fuel false (some (followedBy done c))
          | .eof =>
              readDocuments inner.body (inner.token true false)
              giveBack .eof
              return some (followedBy done c)
          | t =>
              if !inside then unexpected t
              giveBack t
              return some (followedBy done c)

/-- How commands inside of commands are read, as deep as given. -/
def innerAt : Nat → Inner
  | 0 => ⟨fault "Too deep", fault "Too deep", fault "Too deep"⟩
  | depth + 1 =>
      let inner := innerAt depth
      let listOf (isFirst : Bool) : Parse Command := do
        let c ← listFrom inner true ((← get).rest.length + 3) isFirst none
        return c.getD .nothing
      { list := listOf true
        body := listOf false
        command := readCommand inner }

/-- How deep commands may stand inside of each other. -/
def maxNesting : Nat := 400

/-- Reads the commands of the next line; `none` at the end of the script. -/
def readLine : Parse (Option Command) := do
  listFrom (innerAt maxNesting) false ((← get).rest.length + 3) true none

/-- A script that is about to be read. -/
def Script.ofText (text : Octets) (nextDocument : Nat) : Script :=
  ⟨text, 1, none, [], [], nextDocument⟩

end Shell
end Runbook
