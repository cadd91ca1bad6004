import Runbook.Shell.Pattern
import Runbook.Tool.Mode
import Runbook.Regex.Basic

/-!
# Expressions about files

What is looked for is said by an expression: tests that a file may pass, and things to be done with
it, joined by words for "not", "and" and "or".
-/

namespace Runbook
namespace Tool

/-- A number to compare with. -/
inductive Bound where
  | more (n : Nat)
  | less (n : Nat)
  | exactly (n : Nat)
  deriving DecidableEq, Repr, Inhabited

/-- Whether a number keeps to a bound. -/
def Bound.holds
    (b : Bound)
    (n : Nat) :
    Bool :=
  match b with
  | .more m => decide (m < n)
  | .less m => decide (n < m)
  | .exactly m => n = m

/-- How permission bits are compared: all of them, all of those given, or any of those given. -/
inductive PermissionTest where
  | exactly (bits : Nat)
  | allOf (bits : Nat)
  | anyOf (bits : Nat)
  deriving DecidableEq, Repr, Inhabited

/-- Whether permission bits are as wanted. -/
def PermissionTest.holds
    (t : PermissionTest)
    (mode : Nat) :
    Bool :=
  match t with
  | .exactly bits => mode = bits
  | .allOf bits => mode &&& bits = bits
  | .anyOf bits => bits = 0 || mode &&& bits ≠ 0

/-- A part of a sentence about files. -/
inductive Finding where
  | always (value : Bool)
  | name (foldCase : Bool) (pattern : Octets)
  | path (foldCase : Bool) (pattern : Octets)
  | linkText (foldCase : Bool) (pattern : Octets)
  | regex (foldCase : Bool) (r : Regex)
  | kind (letters : Octets) (behind : Bool)
  | empty
  | size (bound : Bound) (unit : Nat)
  | permissions (test : PermissionTest)
  | runnable
  | names (bound : Bound)
  | age (bound : Bound)
  | identity (bound : Bound)
  | sameAs (path : Octets)
  | print (stop : Octets)
  | printTo (file : Octets) (stop : Octets)
  | printAs (format : Octets)
  | printAsTo (file : Octets) (format : Octets)
  | list
  | delete
  | prune
  | quit
  | run (inPlace asks : Bool) (words : List Octets)
  | collect (number : Nat) (inPlace : Bool) (words : List Octets)
  | not (e : Finding)
  | and (a b : Finding)
  | or (a b : Finding)
  | then_ (a b : Finding)
  deriving Repr, Inhabited

/-- What holds for a whole search. -/
structure FindScope where
  least : Nat
  most : Option Nat
  contentsFirst : Bool
  followsNamed : Bool
  followsAll : Bool
  extendedRegex : Bool
  deriving DecidableEq, Repr, Inhabited

namespace Finding

/-- Whether an expression does something with files, so that they need not be shown. -/
def acts : Finding → Bool
  | .print _ => true
  | .printTo _ _ => true
  | .printAs _ => true
  | .printAsTo _ _ => true
  | .list => true
  | .delete => true
  | .run _ _ _ => true
  | .collect _ _ _ => true
  | .not e => acts e
  | .and a b => acts a || acts b
  | .or a b => acts a || acts b
  | .then_ a b => acts a || acts b
  | _ => false

/-- Whether an expression removes files. -/
def deletes : Finding → Bool
  | .delete => true
  | .not e => deletes e
  | .and a b => deletes a || deletes b
  | .or a b => deletes a || deletes b
  | .then_ a b => deletes a || deletes b
  | _ => false

/-- The commands for which files are collected. -/
def collected : Finding → List (Nat × Bool × List Octets)
  | .collect n inPlace words => [(n, inPlace, words)]
  | .not e => collected e
  | .and a b => collected a ++ collected b
  | .or a b => collected a ++ collected b
  | .then_ a b => collected a ++ collected b
  | _ => []

/-- The files that an expression writes to. -/
def outputs : Finding → List Octets
  | .printTo file _ => [file]
  | .printAsTo file _ => [file]
  | .not e => outputs e
  | .and a b => outputs a ++ outputs b
  | .or a b => outputs a ++ outputs b
  | .then_ a b => outputs a ++ outputs b
  | _ => []

end Finding

namespace FindReading

/-- The reading of an expression: words left, the scope so far, and how many commands were seen. -/
structure State where
  words : List Octets
  scope : FindScope
  count : Nat
  deriving Repr, Inhabited

/-- What reads an expression, or tells what is wrong with it. -/
abbrev Reading := StateT State (Except Octets)

def wrong
    {α : Type}
    (message : Octets) :
    Reading α :=
  throw message

def wrongText
    {α : Type}
    (message : String) :
    Reading α :=
  throw message.toList

/-- A word in the quotes of these messages. -/
def quoted (word : Octets) : Octets :=
  '\x60' :: word ++ ['\'']

/-- The next word, if there is one. -/
def peek : Reading (Option Octets) := do
  return (← get).words.head?

def skip : Reading Unit :=
  modify fun s => { s with words := s.words.drop 1 }

def argument (word : Octets) : Reading Octets := do
  match (← get).words with
  | [] => wrong ("missing argument to ".toList ++ quoted word)
  | a :: rest => do
      modify fun s => { s with words := rest }
      return a

/-- A number with a sign in front that says how to compare. -/
def bound? (s : Octets) : Option Bound :=
  let number (t : Octets) : Option Nat :=
    if t.isEmpty || !(t.all Char.isDigit) then none else (String.ofList t).toNat?
  match s with
  | '+' :: t => (number t).map Bound.more
  | '-' :: t => (number t).map Bound.less
  | t => (number t).map Bound.exactly

/-- The bound that the argument of a word stands for. -/
def boundOf (word : Octets) : Reading Bound := do
  let a ← argument word
  match bound? a with
  | some b => return b
  | none => wrong ("invalid argument ".toList ++ quoted a ++ " to ".toList ++ quoted word)

/-- How many bytes the units of sizes have. -/
def unit? : Char → Option Nat
  | 'b' => some 512
  | 'c' => some 1
  | 'w' => some 2
  | 'k' => some 1024
  | 'M' => some 1048576
  | 'G' => some 1073741824
  | _ => none

def sizeOf (a : Octets) : Reading Finding := do
  let last := a.getLastD ' '
  let (digits, unit) := match unit? last with
    | some n => (a.dropLast, n)
    | none => (a, 512)
  match bound? digits with
  | some b => return .size b unit
  | none =>
      if last.isDigit || (unit? last).isSome then
        wrong ("Invalid argument ".toList ++ quoted a ++ " to -size".toList)
      else wrong ("invalid -size type ".toList ++ quoted [last])

/-- Permission bits to compare with. -/
def permissionsOf (a : Octets) : Reading Finding := do
  let (how, text) : (Nat → PermissionTest) × Octets := match a with
    | '-' :: s => (.allOf, s)
    | '/' :: s => (.anyOf, s)
    | s => (.exactly, s)
  match Mode.read? text with
  | some changes => return .permissions (how (Mode.apply 0 false 0 changes))
  | none => wrong ("invalid mode ".toList ++ Quoting.plain a)

/-- An expression whose plus signs and question marks are special as they stand, in the basic notation;
`inside` tells whether a set is being read. -/
def markRepeats : Bool → Octets → Octets
  | _, [] => []
  | false, '\\' :: c :: s => '\\' :: c :: markRepeats false s
  | false, '[' :: '^' :: ']' :: s => "[^]".toList ++ markRepeats true s
  | false, '[' :: ']' :: s => "[]".toList ++ markRepeats true s
  | false, '[' :: s => '[' :: markRepeats true s
  | true, ']' :: s => ']' :: markRepeats false s
  | false, '+' :: s => "\\+".toList ++ markRepeats false s
  | false, '?' :: s => "\\?".toList ++ markRepeats false s
  | inside, c :: s => c :: markRepeats inside s

/-- A regular expression for whole paths. -/
def regexOf
    (foldCase : Bool)
    (a : Octets) :
    Reading Finding := do
  let extended := (← get).scope.extendedRegex
  let parsed :=
    if extended then Regex.parse .searchExtended a else Regex.parse .basic (markRepeats false a)
  match parsed with
  | .ok (r, _) =>
      return .regex foldCase (.seq (.edge .textStart) (.seq (.group 99 r) (.edge .textEnd)))
  | .error e =>
      wrong ("failed to compile regular expression ".toList ++ Quoting.plain a ++ ": ".toList
        ++ e.message.toList)

/-- The letters of kinds, which commas stand between. -/
def kindsOf
    (word a : Octets)
    (behind : Bool) :
    Reading Finding := do
  let letters := Octets.splitOn ',' a
  match letters.find? fun l => !(l.length = 1 && l.all fun c => "bcdpflsD".toList.contains c) with
  | none => return .kind letters.flatten behind
  | some l =>
      if a.isEmpty then
        wrong ("Arguments to ".toList ++ word ++ " should contain at least one letter".toList)
      else if l.isEmpty then
        wrong ("Last file type in list argument to ".toList ++ word ++ " is missing, i.e., ".toList
          ++ "list is ending on: ','".toList)
      else if 1 < l.length then
        wrong ("Must separate multiple arguments to ".toList ++ word ++ " using: ','".toList)
      else wrong ("Unknown argument to ".toList ++ word ++ ": ".toList ++ l)

/-- The words of a command up to its end, and whether files are collected for it. -/
def commandWords
    (mayCollect : Bool)
    (word : Octets) :
    List Octets → List Octets → Reading (List Octets × Bool)
  | _, [] => wrong ("missing argument to ".toList ++ quoted word)
  | done, w :: rest =>
      if w = [';'] then do
        modify fun s => { s with words := rest }
        if done.isEmpty then
          wrong ("invalid argument ".toList ++ quoted w ++ " to ".toList ++ quoted word)
        else return (done.reverse, false)
      else if mayCollect && w = ['+'] && done.head? = some "\x7b\x7d".toList then do
        modify fun s => { s with words := rest }
        return (done.reverse.dropLast, true)
      else commandWords mayCollect word (w :: done) rest

def commandOf
    (word : Octets)
    (inPlace asks : Bool) :
    Reading Finding := do
  let (words, collects) ← commandWords (!asks) word [] (← get).words
  if collects then
    let n := (← get).count
    modify fun s => { s with count := n + 1 }
    if words.isEmpty then wrong ("missing argument to ".toList ++ quoted word)
    else return .collect n inPlace words
  else return .run inPlace asks words

def inScope (change : FindScope → FindScope) : Reading Finding := do
  modify fun s => { s with scope := change s.scope }
  return .always true

def depthOf (word : Octets) : Reading Nat := do
  let a ← argument word
  match (if a.all Char.isDigit then (String.ofList a).toNat? else none) with
  | some n => return n
  | none =>
      wrong ("Expected a positive decimal integer argument to ".toList ++ word ++ ", but got ".toList
        ++ Quoting.plain a)

def plainTest? (word : String) : Option Finding :=
  match word with
  | "-true" => some (.always true)
  | "-false" => some (.always false)
  | "-empty" => some .empty
  | "-print" => some (.print ['\n'])
  | "-print0" => some (.print ['\x00'])
  | "-ls" => some .list
  | "-delete" => some .delete
  | "-prune" => some .prune
  | "-quit" => some .quit
  | "-readable" => some (.always true)
  | "-writable" => some (.always true)
  | "-executable" => some .runnable
  | "-nouser" => some (.always false)
  | "-nogroup" => some (.always false)
  | "-daystart" => some (.always true)
  | "-noleaf" => some (.always true)
  | "-warn" => some (.always true)
  | "-nowarn" => some (.always true)
  | "-xdev" => some (.always true)
  | "-mount" => some (.always true)
  | "-ignore_readdir_race" => some (.always true)
  | "-noignore_readdir_race" => some (.always true)
  | _ => none

/-- Reads a test or an action by its word. -/
def primary (word : Octets) : Reading Finding := do
  match plainTest? (String.ofList word) with
  | some e => return e
  | none =>
  match String.ofList word with
  | "-name" => return .name false (← argument word)
  | "-iname" => return .name true (← argument word)
  | "-path" => return .path false (← argument word)
  | "-wholename" => return .path false (← argument word)
  | "-ipath" => return .path true (← argument word)
  | "-iwholename" => return .path true (← argument word)
  | "-lname" => return .linkText false (← argument word)
  | "-ilname" => return .linkText true (← argument word)
  | "-regex" => regexOf false (← argument word)
  | "-iregex" => regexOf true (← argument word)
  | "-regextype" => do
      let a ← argument word
      let isExtended := "posix-extended".toList = a || "egrep".toList = a || "posix-egrep".toList = a
        || "awk".toList = a || "posix-awk".toList = a || "gnu-awk".toList = a
      inScope fun s => { s with extendedRegex := isExtended }
  | "-type" => kindsOf word (← argument word) false
  | "-xtype" => kindsOf word (← argument word) true
  | "-size" => sizeOf (← argument word)
  | "-perm" => permissionsOf (← argument word)
  | "-links" => return .names (← boundOf word)
  | "-inum" => return .identity (← boundOf word)
  | "-mtime" => return .age (← boundOf word)
  | "-atime" => return .age (← boundOf word)
  | "-ctime" => return .age (← boundOf word)
  | "-mmin" => return .age (← boundOf word)
  | "-amin" => return .age (← boundOf word)
  | "-cmin" => return .age (← boundOf word)
  | "-newer" => do
      let _ ← argument word
      return .always false
  | "-anewer" => do
      let _ ← argument word
      return .always false
  | "-cnewer" => do
      let _ ← argument word
      return .always false
  | "-user" => owner (← argument word) "' is not the name of a known user"
  | "-group" => owner (← argument word) "' is not the name of an existing group"
  | "-uid" => return .always ((← boundOf word).holds 0)
  | "-gid" => return .always ((← boundOf word).holds 0)
  | "-samefile" => return .sameAs (← argument word)
  | "-fstype" => do
      let _ ← argument word
      return .always false
  | "-printf" => return .printAs (← argument word)
  | "-fprint" => return .printTo (← argument word) ['\n']
  | "-fprint0" => return .printTo (← argument word) ['\x00']
  | "-fprintf" => do
      let file ← argument word
      return .printAsTo file (← argument word)
  | "-exec" => commandOf word false false
  | "-execdir" => commandOf word true false
  | "-ok" => commandOf word false true
  | "-okdir" => commandOf word true true
  | "-maxdepth" => do
      let n ← depthOf word
      inScope fun s => { s with most := some n }
  | "-mindepth" => do
      let n ← depthOf word
      inScope fun s => { s with least := n }
  | "-depth" => inScope fun s => { s with contentsFirst := true }
  | "-d" => inScope fun s => { s with contentsFirst := true }
  | "-follow" => inScope fun s => { s with followsAll := true, followsNamed := true }
  | _ =>
      if word.head? = some '-' then wrong ("unknown predicate ".toList ++ quoted word)
      else wrong ("paths must precede expression: ".toList ++ quoted word)
where
  /-- Whether an owner is the only one there is; others may be given by numbers. -/
  owner (a : Octets) (otherwise : String) : Reading Finding :=
    if a = "root".toList || a = ['0'] then return .always true
    else if !a.isEmpty && a.all Char.isDigit then return .always false
    else wrong ('\'' :: a ++ otherwise.toList)

/-- Whether a word joins what is on both sides of it. -/
def isJoint (word : Octets) : Bool :=
  ["-o", "-or", "-a", "-and", ","].any fun w => w.toList = word

/-- Whether a word negates what follows. -/
def isNot (word : Octets) : Bool :=
  word = ['!'] || word = "-not".toList

/-- Takes a word that joins, behind which there has to be a part. -/
def joint (word : Octets) : Reading Unit := do
  skip
  match ← peek with
  | none => wrong ("expected an expression after ".toList ++ Quoting.plain word)
  | some w =>
      if w = [')'] then
        wrong ("expected an expression between ".toList ++ Quoting.plain word ++ " and ')'".toList)

mutual

/-- Parts joined by commas. -/
def sequence : Nat → Reading Finding
  | 0 => wrongText "expression is too deep"
  | fuel + 1 => do
      let first ← disjunction fuel
      sequenceFrom fuel first

/-- Parts joined by commas, behind the first one. -/
def sequenceFrom : Nat → Finding → Reading Finding
  | 0, e => return e
  | fuel + 1, e => do
      if (← peek) = some [','] then
        joint [',']
        let b ← disjunction fuel
        sequenceFrom fuel (.then_ e b)
      else return e

/-- Parts of which one has to hold. -/
def disjunction : Nat → Reading Finding
  | 0 => wrongText "expression is too deep"
  | fuel + 1 => do
      let first ← conjunction fuel
      disjunctionFrom fuel first

/-- Parts of which one has to hold, behind the first one. -/
def disjunctionFrom : Nat → Finding → Reading Finding
  | 0, e => return e
  | fuel + 1, e => do
      match ← peek with
      | some word =>
          if word = "-o".toList || word = "-or".toList then
            joint word
            let b ← conjunction fuel
            disjunctionFrom fuel (.or e b)
          else return e
      | none => return e

/-- Parts that have to hold all. -/
def conjunction : Nat → Reading Finding
  | 0 => wrongText "expression is too deep"
  | fuel + 1 => do
      let first ← negation fuel
      conjunctionFrom fuel first

/-- Parts that have to hold all, behind the first one. -/
def conjunctionFrom : Nat → Finding → Reading Finding
  | 0, e => return e
  | fuel + 1, e => do
      match ← peek with
      | none => return e
      | some word =>
          if word = "-a".toList || word = "-and".toList then
            joint word
            let b ← negation fuel
            conjunctionFrom fuel (.and e b)
          else if isJoint word || word = [')'] then return e
          else
            let b ← negation fuel
            conjunctionFrom fuel (.and e b)

def negation : Nat → Reading Finding
  | 0 => wrongText "expression is too deep"
  | fuel + 1 => do
      match ← peek with
      | none => wrongText "invalid expression"
      | some word =>
          if isNot word then
            skip
            match ← peek with
            | none => wrong ("expected an expression after ".toList ++ Quoting.plain word)
            | some _ => return .not (← negation fuel)
          else if isJoint word then
            wrong ("invalid expression; you have used a binary operator ".toList
              ++ Quoting.plain word ++ " with nothing before it.".toList)
          else if word = ['('] then
            skip
            match ← peek with
            | none =>
                wrongText ("invalid expression; expected to find a ')' but didn't see one. "
                  ++ "Perhaps you need an extra predicate after '('")
            | some w =>
                if w = [')'] then
                  wrongText "invalid expression; empty parentheses are not allowed."
                else
                  let e ← sequence fuel
                  if (← peek) = some [')'] then
                    skip
                    return e
                  else
                    wrongText ("invalid expression; I was expecting to find a ')' somewhere "
                      ++ "but did not see one.")
          else if word = [')'] then
            wrongText "invalid expression; you have too many ')'"
          else do
            skip
            primary word

end

/-- Reads a whole expression; without words, every file is meant. -/
def whole : Reading Finding := do
  let words := (← get).words
  if words.isEmpty then return .always true
  let e ← sequence (8 * words.length + 16)
  match ← peek with
  | none => return e
  | some [')'] => wrongText "you have too many ')'"
  | some _ => wrongText "invalid expression"

def read
    (scope : FindScope)
    (words : List Octets) :
    Except Octets (Finding × FindScope) :=
  (whole.run ⟨words, scope, 0⟩).map fun r => (r.1, r.2.scope)

end FindReading

end Tool
end Runbook
