import Runbook.Shell.Syntax

/-!
# Tokens of the shell

A script is read from its text, token by token. Words may hold commands, so whoever reads words says
how commands are read.
-/

namespace Runbook
namespace Shell

/-- A document that is announced and not yet read. -/
structure Awaited where
  number : Nat
  mark : Octets
  strip : Bool
  literal : Bool
  deriving Repr, Inhabited

/-- A script that is being read: what is left of its text, the number of the line, a token that was
given back, and the documents that are announced or read. -/
structure Script where
  rest : Octets
  line : Nat
  pushed : Option Token
  awaited : List Awaited
  documents : List Document
  nextDocument : Nat
  deriving Inhabited

/-- A step in reading a script. -/
abbrev Parse (α : Type) := StateT Script (Except SyntaxFault) α

namespace Parse

/-- Fails at the current line. -/
def fault
    {α : Type}
    (message : String) :
    Parse α := do
  throw ⟨(← get).line, message⟩

/-- Complains about a token that cannot stand here. -/
def unexpected
    {α : Type}
    (t : Token) :
    Parse α :=
  fault (t.shown ++ " unexpected")

/-- Complains about a token where another one is needed. -/
def expecting
    {α : Type}
    (t wanted : Token) :
    Parse α :=
  fault (t.shown ++ " unexpected (expecting " ++ wanted.shown ++ ")")

/-- The text without escaped line ends at its front, and how many there were. -/
def skipJoins (s : Octets) : Octets × Nat :=
  let rec go : Nat → Octets → Octets × Nat
    | count, '\\' :: '\n' :: rest => go (count + 1) rest
    | count, rest => (rest, count)
  go 0 s

/-- The next character, past escaped line ends, which stays where it is. -/
def peek : Parse (Option Char) := do
  let s ← get
  let (rest, joins) := skipJoins s.rest
  set { s with rest := rest, line := s.line + joins }
  return rest.head?

/-- Passes a character. -/
def skip : Parse Unit :=
  modify fun s =>
    match s.rest with
    | '\n' :: rest => { s with rest := rest, line := s.line + 1 }
    | _ :: rest => { s with rest := rest }
    | [] => s

/-- The next character, past escaped line ends. -/
def next : Parse (Option Char) := do
  let c ← peek
  skip
  return c

/-- The next character as it stands. -/
def nextRaw : Parse (Option Char) := do
  let c := (← get).rest.head?
  skip
  return c

/-- Passes the next character if it is a given one. -/
def accept (c : Char) : Parse Bool := do
  if (← peek) = some c then
    skip
    return true
  else
    return false

/-- Passes characters up to a given one, which is passed as well. -/
def through
    (stop : Char)
    (missing : String) :
    Parse Octets := do
  let s ← get
  let taken := s.rest.takeWhile (· ≠ stop)
  match s.rest.drop taken.length with
  | [] =>
      set { s with rest := [], line := s.line + taken.count '\n' }
      fault missing
  | _ :: rest =>
      set { s with rest := rest, line := s.line + taken.count '\n' }
      return taken

/-- Passes characters with a property. -/
def takeWhile (property : Char → Bool) : Parse Octets := do
  let rec go : Nat → Octets → Parse Octets
    | 0, done => return done.reverse
    | fuel + 1, done => do
        match ← peek with
        | some c =>
            if property c then
              skip
              go fuel (c :: done)
            else
              return done.reverse
        | none => return done.reverse
  go ((← get).rest.length + 1) []

end Parse

open Parse

/-- Where parts of words stand: in a word outside of quotes, between braces, between double quotes,
in a document, or in an arithmetic expression inside of so many parentheses. -/
inductive Context where
  | word
  | brace (quoted : Bool)
  | double
  | document
  | arithmetic (depth : Nat)
  deriving DecidableEq, Repr, Inhabited

namespace Context

/-- Whether what is replaced here is taken as it stands. -/
def isQuoted : Context → Bool
  | .word => false
  | .brace quoted => quoted
  | _ => true

end Context

def endsWord (c : Char) : Bool :=
  " \t\n;&|<>()".toList.contains c

/-- Joins neighbouring parts of one kind; the parts are given in reverse. -/
def joinParts : List Part → Word → Word
  | [], done => done
  | .text s :: rest, .text t :: done => joinParts rest (.text (s ++ t) :: done)
  | .quoted s :: rest, .quoted t :: done => joinParts rest (.quoted (s ++ t) :: done)
  | p :: rest, done => joinParts rest (p :: done)

/-- Characters as they stand, quoted or not. -/
def literal (quoted : Bool) (s : Octets) : Part :=
  if quoted then .quoted s else .text s

/-- Reads the text of an old command substitution, up to its closing mark. -/
def backquoted
    (inDouble : Bool) :
    Nat → Octets → Parse Octets
  | 0, done => return done.reverse
  | fuel + 1, done => do
      match ← next with
      | none => fault "EOF in backquote substitution"
      | some '\x60' => return done.reverse
      | some '\\' =>
          match ← nextRaw with
          | none => backquoted inDouble fuel ('\\' :: done)
          | some c =>
              let isFreed := c = '\\' || c = '\x60' || c = '$' || (inDouble && c = '"')
              backquoted inDouble fuel (if isFreed then c :: done else c :: '\\' :: done)
      | some c => backquoted inDouble fuel (c :: done)

/-- Reads commands from a text of their own. -/
def parsedApart
    (commands : Parse Command)
    (text : Octets) :
    Parse Command := do
  let s ← get
  let apart : Script :=
    ⟨text, 1, none, [], s.documents, s.nextDocument⟩
  match commands.run apart with
  | .error e => throw e
  | .ok (c, after) =>
      set { s with documents := after.documents, nextDocument := after.nextDocument }
      return c

/-- Reads commands up to a closing parenthesis. -/
def parsedWithin
    (commands : Parse Command)
    (token : Parse Token) :
    Parse Command := do
  let awaited := (← get).awaited
  modify fun s => { s with awaited := [], pushed := none }
  let c ← commands
  match ← token with
  | .close_ =>
      modify fun s => { s with awaited := awaited, pushed := none }
      return c
  | t => expecting t .close_

/-- The use that a sign behind the name of a parameter stands for. -/
def useOf? : Char → Option Use
  | '-' => some .default
  | '+' => some .alternative
  | '?' => some .demand
  | '=' => some .assign
  | _ => none

/-- Reads the name of a parameter between braces, and whether its length is asked for. `none` stands
for a name that cannot be. -/
def braceName : Parse (Option (Octets × Bool)) := do
  let named (c : Char) : Parse (Option Octets) := do
    if isNameStart c then return some (← takeWhile isNameChar)
    else if c.isDigit then return some (← takeWhile Char.isDigit)
    else if isSpecial c then
      skip
      return some [c]
    else return none
  match ← peek with
  | some '#' =>
      skip
      match ← peek with
      | some '\x7d' => return some (['#'], false)
      | some c =>
          if isNameStart c || c.isDigit then
            return (← named c).map fun s => (s, true)
          else if isSpecial c then
            let s ← get
            match s.rest with
            | d :: '\x7d' :: _ =>
                skip
                return some ([d], true)
            | _ => return some (['#'], false)
          else return some (['#'], false)
      | none => return some (['#'], false)
  | some c => return (← named c).map fun s => (s, false)
  | none => return none

/-- Reads how a parameter between braces is used, behind its name. -/
def braceUse (isLength : Bool) : Parse (Use × Bool) := do
  if isLength then
    return (if (← peek) = some '\x7d' then .length else .bad, false)
  match ← peek with
  | some '\x7d' => return (.plain, false)
  | some ':' =>
      skip
      match (← peek).bind useOf? with
      | some use =>
          skip
          return (use, true)
      | none => return (.bad, false)
  | some '%' =>
      skip
      return (.cutEnd (← accept '%'), false)
  | some '#' =>
      skip
      return (.cutStart (← accept '#'), false)
  | some c =>
      match useOf? c with
      | some use =>
          skip
          return (use, false)
      | none => return (.bad, false)
  | none => return (.bad, false)

/-- Reads what a dollar sign stands for, which is passed already. -/
def dollar
    (commands : Parse Command)
    (token : Parse Token)
    (parts : Context → Parse Word)
    (context : Context) :
    Parse Part := do
  let quoted := context.isQuoted
  match ← peek with
  | some '(' =>
      skip
      if ← accept '(' then
        return .arithmetic quoted (← parts (.arithmetic 0))
      else
        return .command quoted (← parsedWithin commands token)
  | some '\x7b' =>
      skip
      match ← braceName with
      | none =>
          let word ← parts (.brace quoted)
          return .parameter quoted [] .bad false word
      | some (name, isLength) =>
          let (use, emptyCounts) ← braceUse isLength
          let inner : Context := match use with
            | .cutEnd _ => .brace false
            | .cutStart _ => .brace false
            | _ => .brace quoted
          return .parameter quoted name use emptyCounts (← parts inner)
  | some c =>
      if isNameStart c then
        return .parameter quoted (← takeWhile isNameChar) .plain false []
      else if isSpecial c then
        skip
        return .parameter quoted [c] .plain false []
      else
        return literal quoted ['$']
  | none => return literal quoted ['$']

/-- Reads what a backslash and the next character stand for, in quotes of a kind. -/
def escapedIn
    (context : Context)
    (c : Char) :
    Octets :=
  let frees : Bool := c = '\\' || c = '\x60' || c = '$' ||
    (match context with
      | .brace true => c = '"' || c = '\x7d'
      | .double => c = '"'
      | _ => false)
  if frees then [c] else ['\\', c]

/-- Whether the parts of a word end before a character, and whether the character belongs to what
ends them; otherwise, the fault if the text ends here. -/
def stops
    (context : Context)
    (c : Option Char) :
    Except String (Option Bool) :=
  match context, c with
  | .word, none => .ok (some false)
  | .word, some c => .ok (if endsWord c then some false else none)
  | .brace _, none => .error "Missing '\x7d'"
  | .brace _, some c => .ok (if c = '\x7d' then some true else none)
  | .double, none => .error "Unterminated quoted string"
  | .double, some c => .ok (if c = '"' then some true else none)
  | .document, none => .ok (some false)
  | .document, some _ => .ok none
  | .arithmetic _, none => .error "Missing '))'"
  | .arithmetic _, some _ => .ok none

/-- Reads the parts of a word behind those already read, which are held in reverse. Nothing is
replaced if `verbatim` is set. -/
def partsFrom
    (commands : Parse Command)
    (token : Parse Token)
    (verbatim : Bool) :
    Nat → Context → List Part → Parse Word
  | 0, _, done => return joinParts done []
  | fuel + 1, context, done => do
      let go := partsFrom commands token verbatim fuel
      let c? ← peek
      match stops context c? with
      | .error message => fault message
      | .ok (some taken) =>
          if taken then skip
          return joinParts done []
      | .ok none =>
          skip
          let quoted := context.isQuoted
          match c?.getD ' ' with
          | '\\' =>
              match ← nextRaw with
              | none => go context (.quoted ['\\'] :: done)
              | some c =>
                  if quoted then go context (.quoted (escapedIn context c) :: done)
                  else go context (.quoted [c] :: done)
          | '\'' =>
              if quoted then go context (.quoted ['\''] :: done)
              else
                let s ← through '\'' "Unterminated quoted string"
                go context (.quoted s :: done)
          | '"' =>
              match context with
              | .document => go context (.quoted ['"'] :: done)
              | .brace true => go context (.quoted [] :: done)
              | .arithmetic _ => go context done
              | _ =>
                  let inner ← go .double []
                  go context (inner.reverse ++ .quoted [] :: done)
          | '$' =>
              if verbatim then go context (literal quoted ['$'] :: done)
              else
                let part ← dollar commands token (fun inner => go inner []) context
                go context (part :: done)
          | '\x60' =>
              if verbatim then go context (literal quoted ['\x60'] :: done)
              else
                let s ← get
                let text ← backquoted quoted (s.rest.length + 1) []
                let body ← parsedApart commands text
                go context (.command quoted body :: done)
          | '(' =>
              match context with
              | .arithmetic depth => go (.arithmetic (depth + 1)) (.quoted ['('] :: done)
              | _ => go context (literal quoted ['('] :: done)
          | ')' =>
              match context with
              | .arithmetic 0 =>
                  if ← accept ')' then return joinParts done []
                  else go context (.quoted [')'] :: done)
              | .arithmetic (depth + 1) => go (.arithmetic depth) (.quoted [')'] :: done)
              | _ => go context (literal quoted [')'] :: done)
          | c => go context (literal quoted [c] :: done)

def hasQuotes (w : Word) : Bool :=
  w.any fun p =>
    match p with
    | .quoted _ => true
    | _ => false

/-- The characters of a word without its quotes; parts that are replaced have none. -/
def plainText (w : Word) : Octets :=
  w.flatMap fun p =>
    match p with
    | .text s => s
    | .quoted s => s
    | _ => []

/-- The operator of a redirection after its first character. -/
def redirectOperator (first : Char) : Parse Octets := do
  if first = '>' then
    if ← accept '>' then return ">>".toList
    else if ← accept '&' then return ">&".toList
    else if ← accept '|' then return ">|".toList
    else return ">".toList
  else if ← accept '<' then
    if ← accept '-' then return "<<-".toList else return "<<".toList
  else if ← accept '&' then return "<&".toList
  else if ← accept '>' then return "<>".toList
  else return "<".toList

/-- Reads a word, or the redirection that it turns out to be the descriptor of. -/
def lexWord
    (commands : Parse Command)
    (token : Parse Token)
    (verbatim : Bool) :
    Parse Token := do
  let s ← get
  let parts ← partsFrom commands token verbatim (2 * s.rest.length + 2) .word []
  let raw : Octets := match parts with
    | [.text t] => t
    | _ => []
  match raw, (← get).rest with
  | [d], c :: _ =>
      if d.isDigit && (c = '<' || c = '>') then
        skip
        return .redirect (some (d.toNat - 48)) (← redirectOperator c)
      else
        return .word parts raw false
  | _, _ => return .word parts raw (hasQuotes parts)

/-- Reads the next token from the text. -/
def lex
    (commands : Parse Command)
    (token : Parse Token)
    (verbatim : Bool) :
    Nat → Parse Token
  | 0 => return .eof
  | fuel + 1 => do
      match ← peek with
      | none => return .eof
      | some c =>
          if c = ' ' || c = '\t' then
            skip
            lex commands token verbatim fuel
          else if c = '#' then
            modify fun s => { s with rest := s.rest.dropWhile (· ≠ '\n') }
            lex commands token verbatim fuel
          else if !endsWord c then lexWord commands token verbatim
          else
            skip
            match c with
            | '\n' => return .newline
            | '&' => if ← accept '&' then return .and_ else return .ampersand
            | '|' => if ← accept '|' then return .or_ else return .pipe
            | ';' => if ← accept ';' then return .caseEnd else return .semicolon
            | '(' => return .open_
            | ')' => return .close_
            | c => return .redirect none (← redirectOperator c)

/-- The lines of a document up to its mark, which are passed, as one text. A line that goes on after
a backslash is not compared with the mark. -/
def documentLines
    (a : Awaited) :
    Nat → Bool → List Octets → Parse Octets
  | 0, _, done => return done.reverse.flatten
  | fuel + 1, joined, done => do
      let s ← get
      if s.rest.isEmpty then return done.reverse.flatten
      let stripped := if a.strip then s.rest.dropWhile (· = '\t') else s.rest
      let line := stripped.takeWhile (· ≠ '\n')
      let behind := stripped.drop line.length
      let isEnd := !joined && line = a.mark
      set { s with rest := behind.drop 1, line := s.line + (if behind.isEmpty then 0 else 1) }
      if isEnd then return done.reverse.flatten
      else
        let slashes := (line.reverse.takeWhile (· = '\\')).length
        let goesOn := !a.literal && slashes % 2 = 1
        documentLines a fuel goesOn ((line ++ behind.take 1) :: done)

def documentParts
    (commands : Parse Command)
    (token : Parse Token)
    (text : Octets) :
    Parse Word := do
  let s ← get
  let apart : Script := { s with rest := text, pushed := none, awaited := [] }
  match (partsFrom commands token false (2 * text.length + 2) .document []).run apart with
  | .error e => throw e
  | .ok (w, after) =>
      set { s with documents := after.documents, nextDocument := after.nextDocument }
      return w

def readDocuments
    (commands : Parse Command)
    (token : Parse Token) :
    Parse Unit := do
  let awaited := (← get).awaited
  modify fun s => { s with awaited := [] }
  for a in awaited do
    let text ← documentLines a ((← get).rest.length + 1) false []
    let body ← if a.literal then pure [Part.quoted text] else documentParts commands token text
    modify fun s => { s with documents := ⟨a.number, body⟩ :: s.documents }

/-- The next token. Line ends are passed if `passLines` is set, and keywords count as such if
`keywords` is. -/
def readToken
    (commands : Parse Command)
    (token : Parse Token)
    (keywords passLines verbatim : Bool) :
    Nat → Parse Token
  | 0 => return .eof
  | fuel + 1 => do
      let s ← get
      let t ← match s.pushed with
        | some t =>
            set { s with pushed := none }
            pure t
        | none => lex commands token verbatim (s.rest.length + 2)
      match t with
      | .newline =>
          if passLines then
            readDocuments commands token
            readToken commands token keywords passLines verbatim fuel
          else return t
      | .word _ raw false =>
          match keywords, Keyword.of? raw with
          | true, some k => return .keyword k
          | _, _ => return t
      | _ => return t

/-- Gives a token back, to be read again. -/
def giveBack (t : Token) : Parse Unit :=
  modify fun s => { s with pushed := some t }

end Shell
end Runbook
