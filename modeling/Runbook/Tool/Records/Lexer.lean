import Runbook.Number.Reading
import Runbook.Tool.Records.Pattern
import Runbook.Tool.Records.Syntax

/-!
# Tokens of programs

A program is cut into tokens one at a time, because some depend on what was read before: a slash may
begin a pattern, a name in front of a parenthesis may be a function, and a sign for greater may direct
what is printed.
-/

namespace Runbook
namespace Tool
namespace Records

/-- A word with a meaning of its own. -/
inductive Keyword where
  | begin_
  | break_
  | continue_
  | delete
  | do_
  | else_
  | end_
  | exit
  | for_
  | function
  | getline
  | gsub
  | if_
  | in_
  | match_
  | next
  | nextFile
  | print
  | printf
  | return_
  | split
  | sub
  | while_
  deriving DecidableEq, Repr, Inhabited

/-- The words with a meaning of their own. -/
def keywords : List (String × Keyword) :=
  [ ("BEGIN", .begin_), ("END", .end_), ("break", .break_), ("continue", .continue_),
    ("delete", .delete), ("do", .do_), ("else", .else_), ("exit", .exit), ("for", .for_),
    ("function", .function), ("getline", .getline), ("gsub", .gsub), ("if", .if_), ("in", .in_),
    ("match", .match_), ("next", .next), ("nextfile", .nextFile), ("print", .print),
    ("printf", .printf), ("return", .return_), ("split", .split), ("sub", .sub),
    ("while", .while_) ]

def settings : List (String × Setting) :=
  [ ("NF", .count), ("FS", .fieldSeparator), ("RS", .recordSeparator), ("OFMT", .printFormat),
    ("CONVFMT", .textFormat) ]

/-- A token. A semicolon may be supplied in front of a closing brace. -/
inductive Token where
  | eof
  | newline
  | semicolon (supplied : Bool)
  | openBrace
  | closeBrace
  | openParen
  | closeParen
  | openBracket
  | closeBracket
  | comma
  | output (d : Direction)
  | assign (op : Option Arithmetic)
  | question
  | colon
  | or_
  | and_
  | tilde (wanted : Bool)
  | relation (r : Relation)
  | plus
  | minus
  | times
  | divide
  | modulo
  | power
  | not_
  | input
  | bar
  | step (up : Bool)
  | dollar
  | field (n : Nat)
  | setting (s : Setting)
  | number (x : Binary) (text : Octets)
  | text (s : Octets)
  | pattern (source : Octets) (r : Regex)
  | name (s : Octets)
  | function (s : Octets)
  | builtin (f : Builtin)
  | keyword (k : Keyword)
  | unexpected (c : Char)
  deriving Repr, Inhabited

namespace Token

def signOf : Arithmetic → String
  | .add => "+"
  | .sub => "-"
  | .mul => "*"
  | .div => "/"
  | .rem => "%"
  | .pow => "^"

def shown : Token → Octets
  | .eof => "end of file".toList
  | .newline => "end of line".toList
  | .semicolon supplied => if supplied then ['\x7d'] else [';']
  | .openBrace => ['\x7b']
  | .closeBrace => ['\x7d']
  | .openParen => ['(']
  | .closeParen => [')']
  | .openBracket => ['[']
  | .closeBracket => [']']
  | .comma => [',']
  | .output .onto => ['>']
  | .output .behind => ['>', '>']
  | .output .command => ['|']
  | .assign none => ['=']
  | .assign (some op) => (signOf op).toList ++ ['=']
  | .question => ['?']
  | .colon => [':']
  | .or_ => ['|', '|']
  | .and_ => ['&', '&']
  | .tilde wanted => if wanted then ['~'] else ['!', '~']
  | .relation .less => ['<']
  | .relation .atMost => ['<', '=']
  | .relation .equal => ['=', '=']
  | .relation .different => ['!', '=']
  | .relation .greater => ['>']
  | .relation .atLeast => ['>', '=']
  | .plus => ['+']
  | .minus => ['-']
  | .times => ['*']
  | .divide => ['/']
  | .modulo => ['%']
  | .power => ['^']
  | .not_ => ['!']
  | .input => ['<']
  | .bar => ['|']
  | .step up => if up then ['+', '+'] else ['-', '-']
  | .dollar => ['$']
  | .field _ => ['$']
  | .setting _ => ['$']
  | .number _ written => written
  | .text s => s
  | .pattern source _ => '/' :: source ++ ['/']
  | .name s => s
  | .function s => s
  | .builtin f => f.signature.1.toList
  | .keyword k =>
      match keywords.find? fun e => e.2 = k with
      | some (word, _) => word.toList
      | none => []
  | .unexpected c => [c]

/-- Whether a slash behind a token is a division. -/
def precedesDivision : Token → Bool
  | .number _ _ => true
  | .text _ => true
  | .closeParen => true
  | .name _ => true
  | .pattern _ _ => true
  | .closeBracket => true
  | .field _ => true
  | .setting _ => true
  | .keyword .getline => true
  | _ => false

/-- Whether a token ends a statement, so that a closing brace may follow. -/
def endsStatement : Token → Bool
  | .newline => true
  | .semicolon _ => true
  | .closeBrace => true
  | _ => false

end Token

/-! ## The state of reading -/

/-- What a name is used for, as far as it was read. -/
inductive Use where
  | unknown
  | variable
  | array
  | function (number : Nat)
  deriving DecidableEq, Repr, Inhabited

/-- A function as far as it was read: its name, the names and uses of what is handed to it, and its
statements if it was defined. -/
structure Definition where
  name : Octets
  parameters : List (Octets × Kind)
  body : Option (List Statement)
  deriving Inhabited

/-- What a call hands to a function: a value, or what a name stands for. -/
inductive Passed where
  | value
  | name (n : Name)
  deriving DecidableEq, Repr, Inhabited

/-- A call: the function it is in, the function that is called, what is handed to it, what is known of
that when the call is read, and the line. -/
structure Invocation where
  within : Option Nat
  function : Nat
  passed : List Passed
  kinds : List Kind
  place : Octets
  deriving Inhabited

/-- Where the reading of a program stands: the texts ahead, each with the name of its file, the line,
the line of the last token, the last token, a token that was looked at, how many braces and parentheses
are open, whether something is being printed or a record read, the names known so far with their uses,
the functions, the function at hand, the calls, how many loops are open, whether statements for records
are read, how many tokens must fit before a fault is noted, and the messages, the newest first. -/
structure Reading where
  rest : Octets
  file : Octets
  others : List (Octets × Octets)
  line : Nat
  tokenLine : Nat
  last : Token
  ahead : Option Token
  braces : Nat
  parens : Nat
  printing : Bool
  fetching : Bool
  names : Array (Octets × Use)
  functions : Array Definition
  inside : Option Nat
  calls : List Invocation
  loops : Nat
  forRecords : Bool
  muted : Nat
  messages : List Octets
  deriving Inhabited

/-- Why reading breaks off: at a token that does not fit, or for good. -/
inductive Failure where
  | misplaced
  | over
  deriving DecidableEq, Repr, Inhabited

/-- A step of reading. -/
abbrev Parse := ExceptT Failure (StateM Reading)

namespace Parse

/-- How many faults end the reading. -/
def maxFaults : Nat := 5

/-- The name of the file, in front of a message. -/
def origin (s : Reading) : Octets :=
  if s.file.isEmpty then [] else s.file ++ ": ".toList

/-- The place of the last token, in front of a message. -/
def place (s : Reading) : Octets :=
  origin s ++ "line ".toList ++ Octets.ofNat s.tokenLine ++ ": ".toList

def note (message : Octets) : Parse Unit := do
  modify fun s => { s with messages := message :: s.messages }
  if maxFaults ≤ (← get).messages.length then throw .over

/-- Notes a fault at the last token. -/
def fault (message : Octets) : Parse Unit := do
  note (place (← get) ++ message)

/-- Notes a fault and breaks off for good. -/
def fatal
    {α : Type}
    (message : Octets) :
    Parse α := do
  fault message
  throw .over

/-! ## Characters -/

/-- Whether a character is a gap between tokens. -/
def isGap (c : Char) : Bool :=
  c = ' ' || c = '\t' || c = '\r' || c = '\x0b' || c = '\x0c'

/-- Whether a character may begin a name. -/
def startsName (c : Char) : Bool :=
  c.isAlpha || c = '_'

def isInName (c : Char) : Bool :=
  c.isAlphanum || c = '_'

/-- What follows a backslash, gaps and the end of the line, if that is how a text goes on. -/
def continued? (s : Octets) : Option Octets :=
  match s.dropWhile isGap with
  | '\n' :: rest => some rest
  | _ => none

/-- Passes ends of lines, gaps and comments, and counts the lines. -/
def passLines : Nat → Octets → Nat → Octets × Nat
  | 0, s, line => (s, line)
  | _, [], line => ([], line)
  | fuel + 1, c :: s, line =>
      if isGap c then passLines fuel s line
      else if c = '\n' then passLines fuel s (line + 1)
      else if c = '#' then passLines fuel (s.dropWhile (· ≠ '\n')) line
      else if c = '\\' then
        match continued? s with
        | some rest => passLines fuel rest (line + 1)
        | none => (c :: s, line)
      else (c :: s, line)

/-- The next of the texts ahead, if nothing is left of the one at hand. -/
def nextText? (s : Reading) : Option Reading :=
  match s.rest, s.others with
  | [], (file, text) :: others =>
      some { s with rest := text, file := file, others := others, line := 1 }
  | _, _ => none

/-- The state of reading behind ends of lines, gaps and comments, where so many texts may be begun. -/
def behindLines : Nat → Reading → Reading
  | 0, s => s
  | fuel + 1, s =>
      let (rest, line) := passLines (s.rest.length + 1) s.rest s.line
      let after := { s with rest := rest, line := line }
      match nextText? after with
      | some t => behindLines fuel t
      | none => after

/-- Passes ends of lines, gaps and comments. -/
def skipLines : Parse Unit :=
  modify fun s => behindLines (s.others.length + 1) s

/-- Passes a semicolon behind gaps. -/
def skipSemicolon : Parse Unit :=
  modify fun s =>
    match s.rest.dropWhile isGap with
    | ';' :: rest => { s with rest := rest }
    | _ => s

/-! ## Texts and patterns -/

/-- What an escape in a text stands for, and what follows it. Other escapes stand as they are. -/
def escape (s : Octets) : Octets × Octets :=
  match s with
  | '"' :: rest => (['"'], rest)
  | '\\' :: rest => (['\\'], rest)
  | '/' :: rest => (['\\', '/'], rest)
  | 'a' :: rest => (['\x07'], rest)
  | 'b' :: rest => (['\x08'], rest)
  | 'f' :: rest => (['\x0c'], rest)
  | 'n' :: rest => (['\n'], rest)
  | 'r' :: rest => (['\r'], rest)
  | 't' :: rest => (['\t'], rest)
  | 'v' :: rest => (['\x0b'], rest)
  | 'x' :: rest => number 16 2 ['\\', 'x'] rest
  | c :: rest => if '0' ≤ c && c ≤ '7' then number 8 3 [] s else (['\\', c], rest)
  | [] => (['\\'], [])
where
  /-- The character that digits stand for, or the text in front of them if there are none. -/
  number (base most : Nat) (front s : Octets) : Octets × Octets :=
    let digits := (s.take most).takeWhile fun c => (digitValue? c).any (· < base)
    if digits.isEmpty then (front, s)
    else ([Char.ofNat (((digitsIn? base digits).getD 0) % 256)], s.drop digits.length)

/-- A text with characters in the place of their escapes. -/
def unescape : Nat → Octets → Octets
  | 0, s => s
  | _, [] => []
  | fuel + 1, '\\' :: s =>
      let (text, rest) := escape s
      text ++ unescape fuel rest
  | fuel + 1, c :: s => c :: unescape fuel s

/-- A text up to its closing quote, behind what was read of it, which is held in reverse; `none` if it is
not closed. An end of line behind a backslash is left out and counted. -/
def closeText : Nat → Octets → Nat → Octets → Octets × Option (Octets × Nat)
  | 0, done, _, _ => (done.reverse, none)
  | _, done, _, [] => (done.reverse, none)
  | fuel + 1, done, lines, c :: s =>
      if c = '"' then (done.reverse, some (s, lines))
      else if c = '\n' then (done.reverse, none)
      else if c = '\\' then
        match s with
        | '\n' :: rest => closeText fuel done (lines + 1) rest
        | d :: rest => closeText fuel (d :: c :: done) lines rest
        | [] => (done.reverse, none)
      else closeText fuel (c :: done) lines s

/-- The name of a class up to its end, if there is one at the front of a text. -/
def classEnd? (s : Octets) : Option (Octets × Octets) :=
  let name := s.takeWhile Char.isAlpha
  match s.drop name.length with
  | ':' :: ']' :: rest => some (name, rest)
  | _ => none

/-- A pattern up to its closing slash, behind what was read of it, which is held in reverse; `none` if it
is not closed. `set` tells how many characters of a set in brackets were read. -/
def closePattern : Nat → Octets → Option Nat → Octets → Octets × Option Octets
  | 0, done, _, _ => (done.reverse, none)
  | _, done, _, [] => (done.reverse, none)
  | fuel + 1, done, set, c :: s =>
      if c = '/' && set.isNone then (done.reverse, some s)
      else if c = '\n' then (done.reverse, none)
      else if c = '\\' then
        match s with
        | '/' :: rest => closePattern fuel ('/' :: done) (set.map (· + 1)) rest
        | '\n' :: rest => closePattern fuel done set rest
        | d :: rest => closePattern fuel (d :: c :: done) (set.map (· + 1)) rest
        | [] => (done.reverse, none)
      else if c = '[' && set.isSome && s.head? = some ':' && (classEnd? (s.drop 1)).isSome then
        let (name, rest) := (classEnd? (s.drop 1)).getD ([], [])
        closePattern fuel (']' :: ':' :: name.reverse ++ ':' :: c :: done) (set.map (· + 1)) rest
      else
        let next := match set with
          | none => if c = '[' then some 0 else none
          | some n => if c = ']' && 0 < n then none
              else if c = '^' && n = 0 && done.head? = some '[' then some 0
              else some (n + 1)
        closePattern fuel (c :: done) next s

/-- Reads a text behind its opening quote. -/
def readText : Parse Token := do
  let s ← get
  match closeText (s.rest.length + 1) [] 0 s.rest with
  | (found, none) =>
      fatal ("runaway string constant \"".toList ++ found.take 10 ++ " ...".toList)
  | (found, some (rest, lines)) =>
      set { s with rest := rest, line := s.line + lines }
      return .text (unescape (found.length + 1) found)

/-- Reads a pattern behind its opening slash. -/
def readPattern : Parse Token := do
  let s ← get
  match closePattern (s.rest.length + 1) [] none s.rest with
  | (found, none) =>
      fatal ("runaway regular expression /".toList ++ found.take 10 ++ " ...".toList)
  | (found, some rest) =>
      set { s with rest := rest }
      match Pattern.read found with
      | .ok r => return .pattern found r
      | .error message =>
          fault (Pattern.complaint message found)
          return .pattern found .empty

/-! ## Numbers -/

/-- The number at the front of a text, how it is written, and what follows it. -/
def leadingNumber (s : Octets) : Binary × Octets × Octets :=
  let whole := leadingDigits 10 s
  let behind := s.drop whole.length
  let (fraction, rest) := match behind with
    | '.' :: t =>
        let digits := leadingDigits 10 t
        (digits, t.drop digits.length)
    | t => ([], t)
  let (e, after) := leadingExponent 'e' 'E' rest
  let digits := (digitsIn? 10 (whole ++ fraction)).getD 0
  (FloatFormat.double.ofDecimal false digits (e - (fraction.length : Int)),
    s.take (s.length - after.length), after)

def readNumber : Parse Token := do
  let s ← get
  let (x, text, rest) := leadingNumber s.rest
  set { s with rest := rest }
  let isNothing := (text.takeWhile fun c => c ≠ 'e' && c ≠ 'E').all fun c => c = '0' || c = '.'
  match x with
  | .infinite _ => fault (text ++ " : decimal overflow".toList)
  | .finite _ m _ =>
      if !isNothing then
        if m = 0 then fault (text ++ " : decimal underflow".toList)
        else if m < Nat.pow 2 52 then fault (text ++ " : decimal overflow".toList)
  | .nan _ => pure ()
  return .number x text

/-- Reads what follows a dollar: the number of a field, if there is one. -/
def readField : Parse Token := do
  let s ← get
  let behind := s.rest.dropWhile isGap
  let starts := match behind with
    | '.' :: _ => true
    | c :: _ => c.isDigit
    | [] => false
  if !starts then
    set { s with rest := behind }
    return .dollar
  else
    let (x, text, rest) := leadingNumber behind
    set { s with rest := rest }
    match x.toInt? with
    | some n =>
        if !x.isWhole then fault ('$' :: text ++ " is invalid field index".toList)
        return .field n.toNat
    | none => return .field 0

/-! ## Names -/

/-- What a name is used for in the function at hand, by its number there. -/
def ownIndex? (s : Reading) (name : Octets) : Option Nat :=
  match s.inside.bind fun n => s.functions[n]? with
  | some d => d.parameters.findIdx? fun p => p.1 = name
  | none => none

/-- The number of a name of the whole program. -/
def sharedIndex? (s : Reading) (name : Octets) : Option Nat :=
  s.names.findIdx? fun e => e.1 = name

/-- Lets a name stand for a function that is called before it is defined. A name that stands for
something else keeps its meaning. -/
def declare (name : Octets) : Parse Unit :=
  modify fun s =>
    let number := s.functions.size
    let use := Use.function number
    { s with
      functions := s.functions.push ⟨name, [], none⟩
      names := match sharedIndex? s name with
        | some i =>
            match s.names[i]? with
            | some (_, .unknown) => s.names.setIfInBounds i (name, use)
            | _ => s.names
        | none => s.names.push (name, use) }

def wordToken (word : Octets) : Parse Token := do
  let s ← get
  let text := String.ofList word
  if (ownIndex? s word).isSome then return .name word
  match keywords.lookup text with
  | some k => return .keyword k
  | none =>
      match settings.lookup text with
      | some setting => return .setting setting
      | none =>
          match Builtin.all.find? fun f => f.signature.1 = text with
          | some f => return .builtin f
          | none =>
              match (sharedIndex? s word).bind fun i => s.names[i]? with
              | some (_, .function _) => return .function word
              | some (_, .variable) => return .name word
              | some (_, .array) => return .name word
              | _ =>
                  if s.rest.head? = some '(' then
                    declare word
                    return .function word
                  else return .name word

/-! ## Tokens -/

/-- Notes a character that has no meaning. -/
def foreign (c : Char) : Parse Unit := do
  let s ← get
  note (origin s ++ Octets.ofNat s.tokenLine ++ ": unexpected character '".toList ++ [c, '\''])

/-- Goes on behind so many characters, and gives a token. -/
def take (count : Nat) (t : Token) : Parse Token := do
  modify fun s => { s with rest := s.rest.drop count }
  return t

/-- A token, or the one that an equals sign behind it makes of it. -/
def orWithEquals (t withEquals : Token) : Parse Token := do
  match (← get).rest with
  | '=' :: _ => take 1 withEquals
  | _ => return t

/-- The token that begins with a sign, which was passed. -/
def signToken (c : Char) : Parse Token := do
  let s ← get
  match c with
  | '\n' =>
      set { s with line := s.line + 1 }
      skipLines
      return .newline
  | ';' =>
      skipLines
      return .semicolon false
  | '\x7b' =>
      set { s with braces := s.braces + 1 }
      skipLines
      return .openBrace
  | '(' =>
      set { s with parens := s.parens + 1 }
      return .openParen
  | '[' => return .openBracket
  | ']' => return .closeBracket
  | ',' =>
      skipLines
      return .comma
  | '+' =>
      match s.rest with
      | '+' :: _ => take 1 (.step true)
      | _ => orWithEquals .plus (.assign (some .add))
  | '-' =>
      match s.rest with
      | '-' :: _ => take 1 (.step false)
      | _ => orWithEquals .minus (.assign (some .sub))
  | '*' => orWithEquals .times (.assign (some .mul))
  | '%' => orWithEquals .modulo (.assign (some .rem))
  | '^' => orWithEquals .power (.assign (some .pow))
  | '=' => orWithEquals (.assign none) (.relation .equal)
  | '!' =>
      match s.rest with
      | '~' :: _ => take 1 (.tilde false)
      | _ => orWithEquals .not_ (.relation .different)
  | '~' => return .tilde true
  | '?' => return .question
  | ':' => return .colon
  | '|' =>
      match s.rest with
      | '|' :: _ => do
          let t ← take 1 .or_
          skipLines
          return t
      | _ =>
          if s.printing && s.parens = 0 then
            set { s with printing := false }
            return .output .command
          else return .bar
  | '&' =>
      match s.rest with
      | '&' :: _ => do
          let t ← take 1 .and_
          skipLines
          return t
      | _ => return .unexpected c
  | '>' =>
      if s.printing && s.parens = 0 then
        set { s with printing := false }
        match s.rest with
        | '>' :: _ => take 1 (.output .behind)
        | _ => return .output .onto
      else orWithEquals (.relation .greater) (.relation .atLeast)
  | '<' =>
      match s.rest with
      | '=' :: _ => take 1 (.relation .atMost)
      | _ =>
          if s.fetching then
            set { s with fetching := false }
            return .input
          else return .relation .less
  | '/' =>
      if s.last.precedesDivision then orWithEquals .divide (.assign (some .div))
      else
        match s.last with
        | .step _ => modify fun t => { t with rest := t.rest.drop 1 }
        | _ => pure ()
        readPattern
  | '$' => readField
  | '"' => readText
  | _ => return .unexpected c

/-- The token for a closing brace, which was passed. A statement in front of it is ended first. -/
def closingBrace : Parse (Option Token) := do
  let s ← get
  if s.braces = 0 then
    fault "extra '\x7d'".toList
    skipSemicolon
    return none
  else if s.last.endsStatement then
    set { s with braces := s.braces - 1 }
    if s.braces = 1 then skipSemicolon
    skipLines
    return some .closeBrace
  else
    set { s with rest := '\x7d' :: s.rest }
    return some (.semicolon true)

def nextToken : Nat → Parse Token
  | 0 => throw .over
  | fuel + 1 => do
      let s ← get
      set { s with tokenLine := s.line }
      match s.rest with
      | [] =>
          match nextText? s with
          | some t => do
              set t
              nextToken fuel
          | none => return .eof
      | c :: rest =>
          if isGap c then
            set { s with rest := s.rest.dropWhile isGap }
            nextToken fuel
          else if c = '#' then
            set { s with rest := s.rest.dropWhile (· ≠ '\n') }
            nextToken fuel
          else if c = '\\' then
            match continued? rest with
            | some after => do
                set { s with rest := after, line := s.line + 1 }
                nextToken fuel
            | none => do
                set { s with rest := rest.dropWhile isGap }
                return if (rest.dropWhile isGap).isEmpty then .eof else .unexpected '\\'
          else if c = '\x7d' then do
            set { s with rest := rest, tokenLine := s.line }
            match ← closingBrace with
            | some t => return t
            | none => nextToken fuel
          else if c = ')' then
            set { s with rest := rest, parens := s.parens - 1, tokenLine := s.line }
            if s.parens = 0 then
              fault "extra ')'".toList
              nextToken fuel
            else return .closeParen
          else if c.isDigit || (c = '.' && (rest.head?).any Char.isDigit) then readNumber
          else if startsName c then
            let word := s.rest.takeWhile isInName
            set { s with rest := s.rest.drop word.length, tokenLine := s.line }
            wordToken word
          else if c = '.' then
            set { s with rest := rest.drop 1, tokenLine := s.line }
            return .unexpected c
          else
            set { s with rest := rest, tokenLine := s.line }
            signToken c

/-- Looks at the next token. -/
def peek : Parse Token := do
  let s ← get
  match s.ahead with
  | some t => return t
  | none => do
      let size := s.others.foldl (fun n e => n + e.2.length) s.rest.length
      let t ← nextToken (size + s.others.length + 2)
      modify fun r => { r with ahead := some t, last := t }
      return t

/-- Passes the token that was looked at. -/
def pass : Parse Unit :=
  modify fun s => { s with ahead := none, muted := s.muted - 1 }

/-- Passes the token that was looked at, although it does not fit. -/
def discard : Parse Unit :=
  modify fun s => { s with ahead := none }

/-- Breaks off because the next token does not fit. -/
def misplaced
    {α : Type} :
    Parse α :=
  throw .misplaced

end Parse

end Records
end Tool
end Runbook
