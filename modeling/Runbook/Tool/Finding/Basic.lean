import Runbook.Regex.Matching
import Runbook.Tool.Environment
import Runbook.Tool.Finding.Syntax
import Runbook.Tool.Listing
import Runbook.Tool.Moving

/-!
# Finding files

The tool that goes through directories, looks at each file, and does something with those that it was
told to look for.
-/

namespace Runbook
namespace Tool
namespace FindSearch

/-- A file that was come upon: its path, where the search started and how deep it is below that, and
what is known of it, with links followed if the search does so. -/
structure Found where
  path : Octets
  start : Octets
  depth : Nat
  status : FileStatus
  deriving Repr, Inhabited

/-- What a search keeps: paths that were collected for commands, the last ones first, whether the
directory at hand is to be left out, and whether the search ends. -/
structure State where
  batches : List (Nat × List Octets)
  pruned : Bool
  quits : Bool
  deriving Repr, Inhabited

/-- The program of a search: how programs are started, and with what variables. -/
structure Means where
  launcher : Launcher
  environment : Variables
  scope : FindScope

/-- Complains about something at a path. -/
def complainAt
    (words : String)
    (path : Octets)
    (e : FileFault) :
    Work Unit :=
  Work.complain (words.toList ++ Quoting.shellAlways path ++ ": ".toList ++ e.reason.toList)

/-! ## Running commands -/

def placeOf (path : Octets) : Octets × Octets :=
  if path.all (· = '/') then (['/'], path)
  else (PathText.parent path, "./".toList ++ PathText.last path)

/-- Runs a command in a directory, and tells whether it went well. -/
def runWords
    (means : Means)
    (directory : Option Octets)
    (words : List Octets) :
    Work Bool := do
  match words with
  | [] => return true
  | program :: arguments => do
      Work.flush
      let name := (← get).name
      let child : Work Unit := do
        match directory with
        | some path =>
            let _ ← Work.ask (.enter path)
        | none => pure ()
        Starting.become means.launcher means.environment Quoting.shellAlways program arguments
      let process : Nat ← Work.act (Act.fork (Act.toProgram (Work.perform name 1 child)))
      match ← Starting.wait process with
      | .exited 0 => return true
      | _ => return false

/-- A word of a command with a path in place of each pair of braces. -/
def fillWord (path word : Octets) : Octets :=
  Text.replaceAll "\x7b\x7d".toList path word

/-- Asks whether a command is to be run. -/
def askFor
    (words : List Octets)
    (path : Octets) :
    Work Bool := do
  Work.flush
  Work.act (Act.complain ("< ".toList ++ words.headD [] ++ " ... ".toList ++ path ++ " > ? ".toList))
  match ← Work.ask (.readLine 0) with
  | .ok (c :: _) => return c = 'y' || c = 'Y'
  | _ => return false

/-! ## Showing files -/

/-- The part of a path below where the search started. -/
def below (f : Found) : Octets :=
  if f.depth = 0 then [] else (f.path.drop f.start.length).dropWhile (· = '/')

/-- What leads to the last name of a path, as it is written. -/
def leadOf (path : Octets) : Octets :=
  let s := PathText.withoutSlashes path
  if s.isEmpty then []
  else
    let lead := s.take (s.length - (s.reverse.takeWhile (· ≠ '/')).length)
    if lead.isEmpty then ['.'] else lead.dropLast

def kindLetter : NodeKind → Char
  | .file => 'f'
  | .directory => 'd'
  | .link => 'l'
  | .device => 'c'
  | .pipe => 'p'

/-- The value of a directive, if it is known. -/
def directive?
    (f : Found)
    (clock : Nat)
    (letter : Char) :
    Work (Option Octets) := do
  match letter with
  | 'p' => return some f.path
  | 'f' =>
      let s := PathText.withoutSlashes f.path
      return some (if s.isEmpty then f.path.take 1 else PathText.last s)
  | 'h' => return some (leadOf f.path)
  | 'P' => return some (below f)
  | 'H' => return some f.start
  | 's' => return some (Octets.ofNat f.status.size)
  | 'd' => return some (Octets.ofNat f.depth)
  | 'y' => return some [kindLetter f.status.kind]
  | 'Y' => do
      match ← Work.ask (.status f.path true) with
      | .ok s => return some [kindLetter s.kind]
      | .error .tooManyLinks => return some ['L']
      | .error _ => return some ['N']
  | 'm' => return some (Nat.toDigits 8 f.status.mode)
  | 'M' => return some (Listing.kindLetter f.status.kind :: Mode.text f.status.mode)
  | 'n' => return some (Octets.ofNat f.status.names)
  | 'u' => return some "root".toList
  | 'g' => return some "root".toList
  | 'U' => return some ['0']
  | 'G' => return some ['0']
  | 'i' => return some ['1']
  | 'D' => return some ['1']
  | 'F' => return some "overlay".toList
  | 'k' => return some (Octets.ofNat (Listing.blocksOf f.status))
  | 'b' => return some (Octets.ofNat (2 * Listing.blocksOf f.status))
  | 'S' => return some ['1']
  | 'l' => do
      if f.status.kind = .link then
        match ← Work.ask (.targetOf f.path) with
        | .ok target => return some target
        | .error _ => return some []
      else return some []
  | 't' =>
      return some (Calendar.format (Moment.ofSeconds (clock / 1000000)) 0
        "%a %b %e %H:%M:%S.0000000000 %Y".toList)
  | 'a' =>
      return some (Calendar.format (Moment.ofSeconds (clock / 1000000)) 0
        "%a %b %e %H:%M:%S.0000000000 %Y".toList)
  | 'c' =>
      return some (Calendar.format (Moment.ofSeconds (clock / 1000000)) 0
        "%a %b %e %H:%M:%S.0000000000 %Y".toList)
  | _ => return none

/-- Writes a format for a file, and gives what follows a sign that ends the text. -/
def fill
    (f : Found)
    (clock : Nat) :
    Nat → Octets → Octets → Work Octets
  | 0, done, _ => return done.reverse
  | _, done, [] => return done.reverse
  | fuel + 1, done, '\\' :: s =>
      match s with
      | [] => return ('\\' :: done).reverse
      | c :: rest =>
          let digits := s.take 3 |>.takeWhile fun d => '0' ≤ d && d ≤ '7'
          if !digits.isEmpty then
            let code := digits.foldl (fun n d => 8 * n + (d.toNat - 48)) 0
            fill f clock fuel (Char.ofNat (code % 256) :: done) (s.drop digits.length)
          else
            match c with
            | 'c' => return done.reverse
            | 'a' => fill f clock fuel ('\x07' :: done) rest
            | 'b' => fill f clock fuel ('\x08' :: done) rest
            | 'f' => fill f clock fuel ('\x0c' :: done) rest
            | 'n' => fill f clock fuel ('\n' :: done) rest
            | 'r' => fill f clock fuel ('\r' :: done) rest
            | 't' => fill f clock fuel ('\t' :: done) rest
            | 'v' => fill f clock fuel ('\x0b' :: done) rest
            | '\\' => fill f clock fuel ('\\' :: done) rest
            | _ => fill f clock fuel (c :: '\\' :: done) rest
  | fuel + 1, done, '%' :: s => do
      let (flags, behind) := Format.readFlags Format.Field.plain s
      let (width, behind) := Format.readNumber behind
      let (precision, behind) : Option Nat × Octets := match behind with
        | '.' :: t => let (n, u) := Format.readNumber t; (some n, u)
        | t => (none, t)
      let field := { flags with width := width, precision := precision }
      match behind with
      | [] => return ('%' :: done).reverse ++ s
      | '%' :: rest => fill f clock fuel ('%' :: done) rest
      | letter :: rest =>
          let (letter, rest) : Char × Octets :=
            if letter = 'T' || letter = 'A' || letter = 'C' then ('t', rest.drop 1)
            else (letter, rest)
          match ← directive? f clock letter with
          | none => fill f clock fuel ((('%' :: s.take (s.length - rest.length)).reverse) ++ done) rest
          | some value => fill f clock fuel ((field.text value).reverse ++ done) rest
  | fuel + 1, done, c :: s => fill f clock fuel (c :: done) s

/-- Writes a format for a file. -/
def filled
    (f : Found)
    (format : Octets) :
    Work Octets := do
  let clock : Nat ← Work.ask .clock
  fill f clock (format.length + 1) [] format

/-- The line with all that is known of a file. -/
def listLine (f : Found) : Work Octets := do
  let clock : Nat ← Work.ask .clock
  let date := Calendar.format (Moment.ofSeconds (clock / 1000000)) 0 "%b %e %H:%M".toList
  let target ← if f.status.kind = .link then do
      match ← Work.ask (.targetOf f.path) with
      | .ok t => pure (" -> ".toList ++ t)
      | .error _ => pure []
    else pure []
  return Octets.padLeft 9 ' ' ['1'] ++ ' ' ::
    Octets.padLeft 6 ' ' (Octets.ofNat (Listing.blocksOf f.status)) ++ ' ' ::
    Listing.kindLetter f.status.kind :: Mode.text f.status.mode ++ ' ' ::
    Octets.padLeft 3 ' ' (Octets.ofNat f.status.names) ++ " root     root     ".toList ++
    Octets.padLeft 8 ' ' (Octets.ofNat f.status.size) ++ ' ' :: date ++ ' ' :: f.path ++ target
    ++ ['\n']

def addTo (file data : Octets) : Work Unit := do
  if file = "/dev/stdout".toList then Work.say data
  else
    match ← Work.ask (.openFile file .appending) with
    | .error e => complainAt "" file e
    | .ok d => do
        let _ ← Work.ask (.write d data)
        let _ ← Work.ask (.close d)

/-! ## Tests -/

def isKind
    (letters : Octets)
    (kind : NodeKind) :
    Bool :=
  letters.contains (kindLetter kind)

/-- Whether a file or directory is empty. -/
def isEmpty (f : Found) : Work Bool := do
  match f.status.kind with
  | .file => return f.status.size = 0
  | .directory => do
      match ← Work.ask (.list f.path) with
      | .ok names => return names.isEmpty
      | .error _ => return false
  | _ => return false

/-- Removes a file. -/
def delete (f : Found) : Work Bool := do
  if f.path = ['.'] then return true
  let isDirectory := f.status.kind = .directory
  match ← (if isDirectory then Work.ask (.removeDirectory f.path) else Work.ask (.remove f.path)) with
  | .ok () => return true
  | .error e => do
      complainAt "cannot delete " f.path e
      return false

/-- Does what an expression says about a file, and tells whether it holds. -/
def hold
    (means : Means)
    (f : Found) :
    Finding → State → Work (Bool × State)
  | .always value, st => return (value, st)
  | .name fold pattern, st =>
      let name := PathText.last f.path
      return (Glob.isMatch fold pattern name, st)
  | .path fold pattern, st => return (Glob.isMatch fold pattern f.path, st)
  | .linkText fold pattern, st => do
      if f.status.kind ≠ .link then return (false, st)
      match ← Work.ask (.targetOf f.path) with
      | .ok target => return (Glob.isMatch fold pattern target, st)
      | .error _ => return (false, st)
  | .regex fold r, st =>
      return ((Regex.matchAt? r (Regex.subject fold f.path) 0).isSome, st)
  | .kind letters behind, st => do
      if !behind then return (isKind letters f.status.kind, st)
      match ← Work.ask (.status f.path true) with
      | .ok s => return (isKind letters s.kind, st)
      | .error _ => return (letters.contains 'l', st)
  | .empty, st => return (← isEmpty f, st)
  | .size bound unit, st => return (bound.holds ((f.status.size + unit - 1) / unit), st)
  | .permissions test, st => return (test.holds f.status.mode, st)
  | .runnable, st => do
      match ← Work.act (Act.statusAt? f.path) with
      | some s => return (s.kind = .directory || s.mode &&& 0o111 ≠ 0, st)
      | none => return (false, st)
  | .names bound, st => return (bound.holds f.status.names, st)
  | .age bound, st => return (bound.holds 0, st)
  | .identity bound, st => return (bound.holds 1, st)
  | .sameAs path, st => do
      match ← Work.act (Act.statusAt? path) with
      | some s => return (s.identity = f.status.identity, st)
      | none => return (false, st)
  | .print stop, st => do
      Work.say (f.path ++ stop)
      return (true, st)
  | .printTo file stop, st => do
      addTo file (f.path ++ stop)
      return (true, st)
  | .printAs format, st => do
      Work.say (← filled f format)
      return (true, st)
  | .printAsTo file format, st => do
      addTo file (← filled f format)
      return (true, st)
  | .list, st => do
      Work.say (← listLine f)
      return (true, st)
  | .delete, st => return (← delete f, st)
  | .prune, st => return (true, { st with pruned := true })
  | .quit, st => return (true, { st with quits := true })
  | .run inPlace asks words, st => do
      let (directory, path) : Option Octets × Octets :=
        if inPlace then let p := placeOf f.path; (some p.1, p.2) else (none, f.path)
      let goesOn ← if asks then askFor words f.path else pure true
      if goesOn then return (← runWords means directory (words.map (fillWord path)), st)
      else return (false, st)
  | .collect n inPlace words, st => do
      if inPlace then
        let p := placeOf f.path
        let isFine ← runWords means (some p.1) (words ++ [p.2])
        if !isFine then Work.setStatus 1
        return (true, st)
      else
        let before := (st.batches.lookup n).getD []
        let others := st.batches.filter fun b => b.1 ≠ n
        return (true, { st with batches := (n, f.path :: before) :: others })
  | .not e, st => do
      let (b, after) ← hold means f e st
      return (!b, after)
  | .and a b, st => do
      let (first, after) ← hold means f a st
      if first && !after.quits then hold means f b after else return (false, after)
  | .or a b, st => do
      let (first, after) ← hold means f a st
      if first || after.quits then return (true, after) else hold means f b after
  | .then_ a b, st => do
      let (_, after) ← hold means f a st
      if after.quits then return (true, after) else hold means f b after

/-! ## Going through directories -/

/-- Looks at a file, through links if the search follows them. -/
def look
    (scope : FindScope)
    (depth : Nat)
    (path : Octets) :
    Work (Except FileFault FileStatus) := do
  let follows := scope.followsAll || (scope.followsNamed && depth = 0)
  if follows then
    match ← Work.ask (.status path true) with
    | .ok s => return .ok s
    | .error _ => Work.ask (.status path false)
  else Work.ask (.status path false)

/-- Goes through a file and what is below it. -/
def walk
    (means : Means)
    (e : Finding)
    (start : Octets) :
    Nat → Nat → State → Octets → Work State
  | 0, _, st, _ => return st
  | fuel + 1, depth, st, path => do
      if st.quits then return st
      match ← look means.scope depth path with
      | .error fault => do
          complainAt "" path fault
          return st
      | .ok s => do
          let f : Found := ⟨path, start, depth, s⟩
          let isMeant := decide (means.scope.least ≤ depth)
          let first := !means.scope.contentsFirst
          let st ← if isMeant && first then do
              let (_, after) ← hold means f e { st with pruned := false }
              pure after
            else pure { st with pruned := false }
          let mayEnter := means.scope.most.all fun m => decide (depth < m)
          let st ← if s.kind = .directory && mayEnter && !(st.pruned && first) && !st.quits then do
              match ← Work.ask (.list path) with
              | .error fault => do
                  complainAt "" path fault
                  pure st
              | .ok names =>
                  Work.foldAll
                    (fun st name => walk means e start fuel (depth + 1) st (PathText.join path name))
                    st names
            else pure st
          if isMeant && !first && !st.quits then
            let (_, after) ← hold means f e st
            return after
          else return st

/-- How deep directories are gone through. -/
def depth : Nat := 1000

/-- Runs the commands that files were collected for. -/
def runCollected
    (means : Means)
    (e : Finding)
    (st : State) :
    Work Unit :=
  Work.forAll
    (fun command => do
      match st.batches.lookup command.1 with
      | none => pure ()
      | some paths =>
          if !(← runWords means none (command.2.2 ++ paths.reverse)) then Work.setStatus 1)
    e.collected

/-! ## Words -/

/-- Takes the options for links from the front of words. -/
def takeLinkOptions : Nat → FindScope → List Octets → FindScope × List Octets
  | 0, scope, words => (scope, words)
  | fuel + 1, scope, word :: rest =>
      if word = "-H".toList then
        takeLinkOptions fuel { scope with followsNamed := true, followsAll := false } rest
      else if word = "-L".toList then
        takeLinkOptions fuel { scope with followsNamed := true, followsAll := true } rest
      else if word = "-P".toList then
        takeLinkOptions fuel { scope with followsNamed := false, followsAll := false } rest
      else if word = "--".toList then (scope, rest)
      else (scope, word :: rest)
  | _, scope, [] => (scope, [])

def startsExpression : Octets → Bool
  | '-' :: _ :: _ => true
  | ['('] => true
  | ['!'] => true
  | _ => false

end FindSearch

def find : Tool :=
  fun launcher start => Work.perform start.name 1 do
    let none_ : FindScope := ⟨0, none, false, false, false, false⟩
    let (scope, words) :=
      FindSearch.takeLinkOptions (start.arguments.length + 1) none_ start.arguments
    let named := words.takeWhile fun w => !FindSearch.startsExpression w
    match FindReading.read scope (words.drop named.length) with
    | .error message => Work.fail 1 message
    | .ok (e, scope) => do
        let scope := if e.deletes then { scope with contentsFirst := true } else scope
        let whole := if e.acts then e else Finding.and e (.print ['\n'])
        Work.forAll
          (fun file => do
            match ← Work.ask (.openFile file .writing) with
            | .ok d =>
                let _ ← Work.ask (.close d)
            | .error fault => Work.fail 1 (Quoting.shellAlways file ++ ": ".toList
                ++ fault.reason.toList))
          whole.outputs
        let means : FindSearch.Means := ⟨launcher, start.environment, scope⟩
        let starts := if named.isEmpty then [['.']] else named
        let st ← Work.foldAll
          (fun st path => FindSearch.walk means whole path FindSearch.depth 0 st path)
          default starts
        FindSearch.runCollected means whole st

end Tool
end Runbook
