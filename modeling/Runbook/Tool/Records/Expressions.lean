import Runbook.Tool.Records.Lexer

/-!
# Expressions of programs

An expression is read by the ranks of its signs. There are two kinds of ranks: those of operands, which
are put together by arithmetic, and those of what operands beside each other make up. A place may be
given a value only where it stands by itself.
-/

namespace Runbook
namespace Tool
namespace Records

/-- An expression that was read, and the place it stands for if it is nothing else. -/
structure Parsed where
  value : Expr
  place : Option Place
  deriving Inhabited

/-- How expressions and statements inside of others are read. The rank is the lowest one of a sign that
may follow. -/
structure Inner where
  expression : Nat → Parse Parsed
  operand : Nat → Parse Parsed
  statement : Parse Statement

namespace Parse

/-! ## Names -/

/-- The word for what a name is used for. -/
def useWord (own : Bool) (k : Kind) : Octets :=
  let front := if own then "local ".toList else []
  front ++ match k with
    | .unknown => "untyped".toList
    | .variable => "variable".toList
    | .array => "array".toList

def Use.ofKind : Kind → Use
  | .unknown => .unknown
  | .variable => .variable
  | .array => .array

def kindOf : Use → Kind
  | .variable => .variable
  | .array => .array
  | _ => .unknown

/-- What a name stands for, which is new if it was not known. -/
def mention (word : Octets) : Parse Name := do
  let s ← get
  match ownIndex? s word with
  | some i => return .own i
  | none =>
      match sharedIndex? s word with
      | some i => return .shared i
      | none => do
          set { s with names := s.names.push (word, .unknown) }
          return .shared s.names.size

def kindAt (s : Reading) (n : Name) : Kind :=
  match n with
  | .shared i => (s.names[i]?).elim .unknown fun e => kindOf e.2
  | .own i =>
      match (s.inside.bind fun f => s.functions[f]?).bind fun d => d.parameters[i]? with
      | some (_, k) => k
      | none => .unknown

/-- The state of reading in which a name is used in a way. -/
def withKind (s : Reading) (n : Name) (k : Kind) : Reading :=
  match n with
  | .shared i =>
      match s.names[i]? with
      | some (word, _) => { s with names := s.names.setIfInBounds i (word, Use.ofKind k) }
      | none => s
  | .own i =>
      match s.inside with
      | none => s
      | some f =>
          { s with
            functions := s.functions.modify f fun d =>
              { d with parameters := d.parameters.modify i fun p => (p.1, k) } }

/-- What a name stands for when it is used in a way; it must not have been used in another one. -/
def useAs (k : Kind) (word : Octets) : Parse Name := do
  let n ← mention word
  let s ← get
  match kindAt s n with
  | .unknown => set (withKind s n k)
  | found =>
      if found ≠ k then
        let own := match n with
          | .own _ => true
          | .shared _ => false
        fault ("illegal reference to ".toList ++ useWord own found ++ ' ' :: word)
  return n

/-! ## Tokens -/

/-- Passes a token that must be next. -/
def expect (fits : Token → Bool) : Parse Unit := do
  if fits (← peek) then pass else misplaced

/-- Passes an opening parenthesis. -/
def openParen : Parse Unit :=
  expect fun t => match t with
    | .openParen => true
    | _ => false

/-- Passes a closing parenthesis. -/
def closeParen : Parse Unit :=
  expect fun t => match t with
    | .closeParen => true
    | _ => false

def comma : Parse Unit :=
  expect fun t => match t with
    | .comma => true
    | _ => false

def hasComma : Parse Bool := do
  match ← peek with
  | .comma => do
      pass
      return true
  | _ => return false

/-- Passes a name. -/
def word : Parse Octets := do
  match ← peek with
  | .name s => do
      pass
      return s
  | _ => misplaced

/-- How often a loop may go round at most: as often as there may be tokens. -/
def rounds : Parse Nat := do
  let s ← get
  return s.others.foldl (fun n e => n + e.2.length) (s.rest.length + 3)

/-! ## Places -/

/-- Reads more expressions behind commas. -/
def moreFrom (inner : Inner) : Nat → List Expr → Parse (List Expr)
  | 0, done => return done.reverse
  | fuel + 1, done => do
      if ← hasComma then
        let e ← inner.expression 0
        moreFrom inner fuel (e.value :: done)
      else return done.reverse

/-- Reads expressions with commas between them. -/
def sequence (inner : Inner) : Parse (List Expr) := do
  let first ← inner.expression 0
  moreFrom inner (← rounds) [first.value]

/-- Reads what follows a name: it is a variable, or an array with an index. -/
def namedPlace
    (inner : Inner)
    (name : Octets) :
    Parse Place := do
  match ← peek with
  | .openBracket => do
      let array ← mention name
      pass
      let index ← sequence inner
      expect fun t => match t with
        | .closeBracket => true
        | _ => false
      let _ ← useAs .array name
      return .element array index
  | _ => return .variable (← useAs .variable name)

/-- Reads what follows a dollar. -/
def dollarPlace (inner : Inner) : Parse Place := do
  match ← peek with
  | .name s => do
      pass
      return .field (.read (← namedPlace inner s))
  | _ => return .field (← inner.operand 8).value

/-- A number that is written out. -/
def constant (n : Nat) : Expr :=
  .number (Binary.ofNat n)

def fieldPlace? (inner : Inner) : Parse (Option Place) := do
  match ← peek with
  | .field n => do
      pass
      return some (.field (constant n))
  | .setting s => do
      pass
      return some (.setting s)
  | .dollar => do
      pass
      return some (← dollarPlace inner)
  | _ => return none

/-- Reads a place that is to be given a value, if there is one. -/
def target? (inner : Inner) : Parse (Option Place) := do
  match ← peek with
  | .name s => do
      pass
      return some (← namedPlace inner s)
  | .openParen => do
      pass
      match ← fieldPlace? inner with
      | some p => do
          closeParen
          return some p
      | none => misplaced
  | _ => fieldPlace? inner

/-- Reads what follows a place in an operand. -/
def placed (p : Place) : Parse Parsed := do
  match ← peek with
  | .step up => do
      pass
      return ⟨.step p up false, none⟩
  | _ => return ⟨.read p, some p⟩

/-- Reads what follows a name in an operand. -/
def named
    (inner : Inner)
    (name : Octets) :
    Parse Parsed := do
  placed (← namedPlace inner name)

/-! ## Patterns -/

/-- What an expression looks for. -/
def matcherOf (e : Expr) : Parse Matcher := do
  match e with
  | .pattern r => return .fixed r
  | .text s =>
      match Pattern.read s with
      | .ok r => return .fixed r
      | .error message =>
          fault (Pattern.complaint message s)
          return .computed e
  | _ => return .computed e

/-- What an expression separates by. -/
def splitterOf (e : Expr) : Parse Splitter := do
  match e with
  | .pattern r => return .fixed (.pattern r)
  | .text s =>
      match Pattern.separator s with
      | .ok found => return .fixed found
      | .error message =>
          fault (Pattern.complaint message s)
          return .computed e
  | _ => return .computed e

/-! ## Operands -/

/-- Whether a token may begin an operand that stands beside another one. -/
def startsOperand : Token → Bool
  | .number _ _ => true
  | .text _ => true
  | .pattern _ _ => true
  | .name _ => true
  | .function _ => true
  | .builtin _ => true
  | .field _ => true
  | .setting _ => true
  | .dollar => true
  | .openParen => true
  | .not_ => true
  | .step _ => true
  | .keyword k => k = .getline || k = .split || k = .match_ || k = .sub || k = .gsub
  | _ => false

/-- The rank of a sign between operands, what it does, and the rank of what follows it. -/
def arithmetic? : Token → Option (Nat × Arithmetic × Nat)
  | .plus => some (2, .add, 3)
  | .minus => some (2, .sub, 3)
  | .times => some (3, .mul, 4)
  | .divide => some (3, .div, 4)
  | .modulo => some (3, .rem, 4)
  | .power => some (6, .pow, 6)
  | _ => none

/-- The rank of a sign in front of an operand. -/
def signRank : Nat := 5

/-- The rank of what reads from a file or a command. -/
def fetchRank : Nat := 5

/-- Reads what follows an operand. -/
def climb
    (inner : Inner)
    (least : Nat) :
    Nat → Parsed → Parse Parsed
  | 0, p => return p
  | fuel + 1, p => do
      let t ← peek
      match arithmetic? t with
      | some (rank, op, next) =>
          if rank < least then return p
          else
            pass
            let q ← inner.operand next
            climb inner least fuel ⟨.arithmetic op p.value q.value, none⟩
      | none =>
          match t with
          | .bar =>
              if fetchRank < least then return p
              else
                pass
                expect fun t => match t with
                  | .keyword .getline => true
                  | _ => false
                let into ← target? inner
                climb inner least fuel ⟨.getline (.command p.value) into, none⟩
          | _ => return p

/-- Reads what follows the word that fetches a record. -/
def fetch (inner : Inner) : Parse Parsed := do
  modify fun s => { s with fetching := true }
  let into ← target? inner
  match ← peek with
  | .input => do
      pass
      let file ← inner.operand 6
      return ⟨.getline (.file file.value) into, none⟩
  | _ => do
      modify fun s => { s with fetching := false }
      return ⟨.getline .main into, none⟩

/-- Reads what follows the opening parenthesis of a list behind a name: an expression, or the name
alone. -/
def argumentFrom
    (inner : Inner)
    (whole : Parsed → Parse Parsed) :
    Parse Argument := do
  match ← peek with
  | .name s => do
      pass
      match ← peek with
      | .comma => return .name (← mention s)
      | .closeParen => return .name (← mention s)
      | _ => return .value (← whole (← named inner s)).value
  | _ => return .value (← inner.expression 0).value

/-- Reads more of what a call hands to a function, up to the closing parenthesis. -/
def argumentsFrom
    (inner : Inner)
    (whole : Parsed → Parse Parsed) :
    Nat → List Argument → Parse (List Argument)
  | 0, done => return done.reverse
  | fuel + 1, done => do
      let a ← argumentFrom inner whole
      if ← hasComma then argumentsFrom inner whole fuel (a :: done)
      else
        closeParen
        return (a :: done).reverse

/-- What a call hands over by name. -/
def passedOf : Argument → Passed
  | .value _ => .value
  | .name n => .name n

/-- The kind of what is handed over in a call, where a value is a variable. -/
def kindPassed (s : Reading) (within : Option Nat) : Passed → Kind
  | .value => .variable
  | .name n => kindAt { s with inside := within } n

/-- Reads what follows the name of a function. -/
def callOf
    (inner : Inner)
    (whole : Parsed → Parse Parsed)
    (name : Octets) :
    Parse Parsed := do
  openParen
  let arguments ← match ← peek with
    | .closeParen => do
        pass
        pure []
    | _ => argumentsFrom inner whole (← rounds) []
  let s ← get
  match (sharedIndex? s name).bind fun i => s.names[i]? with
  | some (_, .function number) =>
      let passed := arguments.map passedOf
      let call : Invocation := ⟨s.inside, number, passed, passed.map (kindPassed s s.inside), place s⟩
      set { s with calls := call :: s.calls }
      return ⟨.call number arguments, none⟩
  | _ => misplaced

/-- Reads what follows the name of a function that every program has. -/
def builtinOf
    (inner : Inner)
    (whole : Parsed → Parse Parsed)
    (f : Builtin) :
    Parse Parsed := do
  let isCall := match ← peek with
    | .openParen => true
    | _ => false
  if f = .length && !isCall then return ⟨.builtin .length [], none⟩
  openParen
  let arguments ← match ← peek with
    | .closeParen => do
        pass
        pure []
    | _ =>
        if f = .length then
          let a ← argumentFrom inner whole
          closeParen
          pure [a]
        else argumentsFrom inner whole (← rounds) []
  let (word, least, most) := f.signature
  if arguments.length < least || most < arguments.length then
    fault ("wrong number of arguments in call to ".toList ++ word.toList)
  match f, arguments with
  | .length, [.name n] => return ⟨.sizeOf_ n, none⟩
  | _, _ => return ⟨.builtin f (← values arguments), none⟩
where
  /-- Expressions for what is handed over; names stand for variables. -/
  values : List Argument → Parse (List Expr)
    | [] => return []
    | .value e :: rest => do return e :: (← values rest)
    | .name n :: rest => do
        let s ← get
        let word : Octets := match n with
          | .shared i => (s.names[i]?).elim [] fun e => e.1
          | .own i =>
              match (s.inside.bind fun f => s.functions[f]?).bind fun d => d.parameters[i]? with
              | some (name, _) => name
              | none => []
        let found ← useAs .variable word
        return .read (.variable found) :: (← values rest)

/-- Reads what follows the word that splits a text. -/
def splitOf (inner : Inner) : Parse Parsed := do
  openParen
  let text ← inner.expression 0
  comma
  let array ← useAs .array (← word)
  if ← hasComma then
    let separator ← inner.expression 0
    closeParen
    return ⟨.split text.value array (some (← splitterOf separator.value)), none⟩
  else
    closeParen
    return ⟨.split text.value array none, none⟩

/-- Reads what follows the word that looks for a match. -/
def findOf (inner : Inner) : Parse Parsed := do
  openParen
  let text ← inner.expression 0
  comma
  let pattern ← inner.expression 0
  closeParen
  return ⟨.find text.value (← matcherOf pattern.value), none⟩

/-- Reads what follows the word that replaces matches. -/
def substituteOf
    (inner : Inner)
    (all : Bool) :
    Parse Parsed := do
  openParen
  let pattern ← inner.expression 0
  comma
  let by_ ← inner.expression 0
  let into ←
    if ← hasComma then
      match ← target? inner with
      | some p => pure p
      | none => misplaced
    else pure (.field (constant 0))
  closeParen
  return ⟨.substitute all (← matcherOf pattern.value) by_.value into, none⟩

/-- Whether a place is a field or a setting, which stays a place in parentheses. -/
def isField : Place → Bool
  | .field _ => true
  | .setting _ => true
  | _ => false

/-- Reads what follows an opening parenthesis and an expression: the index of an array where one may
stand, or a closing parenthesis. -/
def grouped
    (inner : Inner)
    (lists : Bool)
    (first : Parsed) :
    Parse Parsed := do
  match ← peek with
  | .comma => do
      if !lists then misplaced
      let index ← moreFrom inner (← rounds) [first.value]
      closeParen
      expect fun t => match t with
        | .keyword .in_ => true
        | _ => false
      let array ← useAs .array (← word)
      return ⟨.member array index, none⟩
  | _ => do
      closeParen
      match first.place with
      | some p => if isField p then placed p else return ⟨first.value, none⟩
      | none => return ⟨first.value, none⟩

/-- Reads an operand without what may follow it. -/
def primary
    (inner : Inner)
    (lists : Bool)
    (whole : Parsed → Parse Parsed) :
    Parse Parsed := do
  match ← peek with
  | .number x _ => do
      pass
      return ⟨.number x, none⟩
  | .text s => do
      pass
      return ⟨.text s, none⟩
  | .pattern _ r => do
      pass
      return ⟨.pattern r, none⟩
  | .not_ => do
      pass
      return ⟨.not_ (← inner.operand signRank).value, none⟩
  | .minus => do
      pass
      return ⟨.negate (← inner.operand signRank).value, none⟩
  | .plus => do
      pass
      return ⟨.plain (← inner.operand signRank).value, none⟩
  | .step up => do
      pass
      match ← target? inner with
      | some p => return ⟨.step p up true, none⟩
      | none => misplaced
  | .name s => do
      pass
      named inner s
  | .function s => do
      pass
      callOf inner whole s
  | .builtin f => do
      pass
      builtinOf inner whole f
  | .openParen => do
      pass
      grouped inner lists (← inner.expression 0)
  | .keyword .getline => do
      pass
      fetch inner
  | .keyword .split => do
      pass
      splitOf inner
  | .keyword .match_ => do
      pass
      findOf inner
  | .keyword .sub => do
      pass
      substituteOf inner false
  | .keyword .gsub => do
      pass
      substituteOf inner true
  | _ =>
      match ← fieldPlace? inner with
      | some p => placed p
      | none => misplaced

/-! ## Expressions -/

/-- Reads operands beside each other. -/
def joined (inner : Inner) : Nat → Expr → Parse Expr
  | 0, e => return e
  | fuel + 1, e => do
      if startsOperand (← peek) then
        let q ← inner.operand 0
        joined inner fuel (.join e q.value)
      else return e

/-- Reads what follows the first operand up to the next sign: what a place is given, or operands beside
it. -/
def term
    (inner : Inner)
    (first : Parsed) :
    Parse Parsed := do
  match ← peek, first.place with
  | .assign op, some p => do
      pass
      let value ← inner.expression 0
      return ⟨.assign p op value.value, none⟩
  | t, _ =>
      if startsOperand t then return ⟨← joined inner (← rounds) first.value, none⟩
      else return first

/-- Reads the signs behind a term. -/
def signs
    (inner : Inner)
    (least : Nat) :
    Nat → Parsed → Parse Parsed
  | 0, p => return p
  | fuel + 1, p => do
      match ← peek with
      | .question =>
          if 1 < least then return p
          else
            pass
            let a ← inner.expression 0
            expect fun t => match t with
              | .colon => true
              | _ => false
            let b ← inner.expression 1
            signs inner least fuel ⟨.choose p.value a.value b.value, none⟩
      | .or_ =>
          if 2 < least then return p
          else
            pass
            let q ← inner.expression 3
            signs inner least fuel ⟨.or_ p.value q.value, none⟩
      | .and_ =>
          if 3 < least then return p
          else
            pass
            let q ← inner.expression 4
            signs inner least fuel ⟨.and_ p.value q.value, none⟩
      | .keyword .in_ =>
          if 4 < least then return p
          else
            pass
            let array ← useAs .array (← word)
            signs inner least fuel ⟨.member array [p.value], none⟩
      | .tilde wanted =>
          if 5 < least then return p
          else
            pass
            let q ← inner.expression 6
            signs inner least fuel ⟨.matches_ wanted p.value (← matcherOf q.value), none⟩
      | .relation r =>
          if 6 < least then return p
          else
            pass
            let q ← inner.expression 7
            signs inner least fuel ⟨.compare r p.value q.value, none⟩
      | _ => return p

/-- Reads the whole of an expression behind its first operand. -/
def wholeFrom
    (inner : Inner)
    (first : Parsed) :
    Parse Parsed := do
  let p ← climb inner 0 (← rounds) first
  signs inner 0 (← rounds) (← term inner p)

/-- Reads an operand with the signs that may follow it. -/
def operand
    (inner : Inner)
    (least : Nat) :
    Parse Parsed := do
  let first ← primary inner false (wholeFrom inner)
  climb inner least (← rounds) first

/-- Reads an expression with the signs that may follow it. -/
def expression
    (inner : Inner)
    (least : Nat) :
    Parse Parsed := do
  let first ← primary inner true (wholeFrom inner)
  let found ← climb inner 0 (← rounds) first
  signs inner least (← rounds) (← term inner found)

end Parse

end Records
end Tool
end Runbook
