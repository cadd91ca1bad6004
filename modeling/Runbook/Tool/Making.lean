import Runbook.Number.Reading
import Runbook.Tool.Options
import Runbook.Tool.Input
import Runbook.Tool.Mode
import Runbook.Tool.Target

/-!
# Making files

The tools that make directories, empty files and files of a size.
-/

namespace Runbook
namespace Tool

/-! ## Directories -/

/-- The paths that lead to a path, the shortest one first. -/
def leads : Nat → Octets → Octets → List Octets
  | 0, _, _ => []
  | _, before, [] => if before.isEmpty then [] else [before.reverse]
  | fuel + 1, before, s =>
      let slashes := s.takeWhile (· = '/')
      let name := (s.drop slashes.length).takeWhile (· ≠ '/')
      let rest := s.drop (slashes.length + name.length)
      if name.isEmpty then [(slashes.reverse ++ before).reverse]
      else
        let path := name.reverse ++ slashes.reverse ++ before
        if (rest.dropWhile (· = '/')).isEmpty then [(rest.reverse ++ path).reverse]
        else path.reverse :: leads fuel path rest

/-- Complains that a directory cannot be made. -/
def complainOfMaking
    (path : Octets)
    (e : FileFault) :
    Work Unit :=
  Work.complain ("cannot create directory ".toList ++ Quoting.shellAlways path ++ ": ".toList
    ++ e.reason.toList)

/-- Makes one directory, and tells so if asked. -/
def makeOne
    (verbose : Bool)
    (path : Octets) :
    Work (Except FileFault Unit) := do
  match ← Work.ask (.makeDirectory path) with
  | .error e => return .error e
  | .ok () => do
      if verbose then
        Work.say ((← get).name ++ ": created directory ".toList ++ Quoting.shellAlways path
          ++ ['\n'])
      return .ok ()

/-- Makes directories as far as they are missing, until one cannot be made. -/
def makeAll
    (verbose : Bool) :
    List Octets → Work Bool
  | [] => return true
  | path :: rest => do
      if ← Work.act (Act.isDirectory path) then makeAll verbose rest
      else
        match ← makeOne verbose path with
        | .ok () => makeAll verbose rest
        | .error e => do
            match e, rest, ← Work.ask (.status path true) with
            | .taken, [], .error .tooManyLinks =>
                Work.complain ("cannot stat ".toList ++ Quoting.shellAlways path ++ ": ".toList
                  ++ FileFault.tooManyLinks.reason.toList)
            | .taken, _ :: _, .error .tooManyLinks =>
                complainOfMaking (PathText.withoutSlashes path) .tooManyLinks
            | .taken, _ :: _, .ok _ => complainOfMaking (PathText.withoutSlashes path) .notDirectory
            | _, _ :: _, _ => complainOfMaking (PathText.withoutSlashes path) e
            | _, [], _ => complainOfMaking path e
            return false

def mkdir : Tool :=
  simple 1 fun words => do
    let a ← Work.arguments
      [flag "p" ["parents"], flag "v" ["verbose"], valued "m" ["mode"], flag "Z" []] 1 words
    if a.operands.isEmpty then Work.missingOperand 1 none
    match a.value? "m" with
    | some word =>
        if (Mode.read? word).isNone then
          Work.fail 1 ("invalid mode ".toList ++ Quoting.plain word)
    | none => pure ()
    Work.forAll
      (fun path => do
        if a.has "p" then
          if path.isEmpty then complainOfMaking path .noEntry
          else
            let _ ← makeAll (a.has "v") (leads (path.length + 1) [] path)
        else
          match ← makeOne (a.has "v") path with
          | .ok () => pure ()
          | .error e => complainOfMaking path e)
      a.operands

/-! ## Files -/

/-- The options of the tool that touches files. -/
def touchForms : List OptionForm :=
  [ flag "a" [], flag "c" ["no-create"], valued "d" ["date"], flag "f" [],
    flag "h" ["no-dereference"], flag "m" [], valued "r" ["reference"], valued "t" [],
    valued "time" ["time"] ]

/-- Makes files that are missing, and leaves others as they are. -/
def touch : Tool :=
  simple 1 fun words => do
    let a ← Work.arguments touchForms 1 words
    match a.value? "r" with
    | some path =>
        match ← Work.ask (.status path true) with
        | .ok _ => pure ()
        | .error e =>
            Work.fail 1 ("failed to get attributes of ".toList ++ Quoting.shellAlways path
              ++ ": ".toList ++ e.reason.toList)
    | none => pure ()
    if a.operands.isEmpty then
      Work.misuse 1 "missing file operand".toList
    Work.forAll
      (fun path => do
        if path = Work.dash then pure ()
        else if (← Work.act (Act.statusAt? path)).isSome then pure ()
        else if a.has "c" then pure ()
        else
          let isDirectory := path.getLast? = some '/'
          match ← Work.ask (.openFile path .appending) with
          | .ok d => do
              let _ ← Work.ask (.close d)
          | .error e =>
              let shown : FileFault := if isDirectory && e = .isDirectory then .noEntry else e
              Work.complain ((if isDirectory then "setting times of ".toList
                else "cannot touch ".toList) ++ Quoting.shellAlways path ++ ": ".toList
                ++ shown.reason.toList))
      a.operands

/-- A size, in itself or from the one a file has. -/
inductive SizeChange where
  | exactly (n : Nat)
  | more (n : Nat)
  | less (n : Nat)
  | atMost (n : Nat)
  | atLeast (n : Nat)
  | downTo (n : Nat)
  | upTo (n : Nat)
  deriving DecidableEq, Repr, Inhabited

def SizeChange.apply
    (c : SizeChange)
    (size : Nat) :
    Nat :=
  match c with
  | .exactly n => n
  | .more n => size + n
  | .less n => size - n
  | .atMost n => min size n
  | .atLeast n => max size n
  | .downTo n => size / n * n
  | .upTo n => (size + n - 1) / n * n

def readSize (word : Octets) : Work SizeChange := do
  let amount (s : Octets) : Work Nat := Work.amount "Invalid number" s
  match word with
  | '+' :: s => return .more (← amount s)
  | '-' :: s => return .less (← amount s)
  | '<' :: s => return .atMost (← amount s)
  | '>' :: s => return .atLeast (← amount s)
  | c :: s =>
      if c = '/' || c = '%' then do
        let n ← amount s
        if n = 0 then Work.failText 1 "division by zero"
        return if c = '/' then .downTo n else .upTo n
      else return .exactly (← amount word)
  | [] => return .exactly (← amount word)

/-- Sets the size of files. -/
def truncate : Tool :=
  simple 1 fun words => do
    let a ← Work.arguments
      [valued "s" ["size"], flag "c" ["no-create"], valued "r" ["reference"], flag "o" []] 1 words
    let reference ← match a.value? "r" with
      | none => pure none
      | some path =>
          match ← Work.ask (.status path true) with
          | .ok s => pure (some s.size)
          | .error e =>
              Work.fail 1 ("cannot stat ".toList ++ Quoting.shellAlways path ++ ": ".toList
                ++ e.reason.toList)
    let change ← match a.value? "s", reference with
      | some word, _ => readSize word
      | none, some n => pure (.exactly n)
      | none, none =>
          Work.misuse 1 "you must specify either '--size' or '--reference'".toList
    if a.operands.isEmpty then Work.misuse 1 "missing file operand".toList
    Work.forAll
      (fun path => do
        let mode : OpenMode := { OpenMode.appending with create := !a.has "c", append := false }
        match ← Work.ask (.openFile path mode) with
        | .error e =>
            if !(a.has "c" && e = .noEntry) then
              Work.complain ("cannot open ".toList ++ Quoting.shellAlways path
                ++ " for writing: ".toList ++ e.reason.toList)
        | .ok d => do
            match ← Work.ask (.statusOf d) with
            | .ok s => do
                let _ ← Work.ask (.truncate d (change.apply (reference.getD s.size)))
            | .error _ => pure ()
            let _ ← Work.ask (.close d))
      a.operands

/-! ## Names that are not in use -/

def nameLetters : Octets :=
  "ABCDEFGHIJKLMNOPQRSTUVWXYZabcdefghijklmnopqrstuvwxyz0123456789".toList

/-- So many letters made up from a number. -/
def madeUp : Nat → Nat → Octets
  | 0, _ => []
  | length + 1, n =>
      let next := (n * 1103515245 + 12345) % Nat.pow 2 31
      (nameLetters[next / 65536 % nameLetters.length]?).getD 'a' :: madeUp length next

/-- A template with letters made up for the marks at the end of its name. -/
def fillTemplate
    (seed : Nat)
    (template : Octets) :
    Octets :=
  let reversed := template.reverse
  let after := reversed.takeWhile (· ≠ 'X')
  let marks := (reversed.drop after.length).takeWhile (· = 'X')
  (template.take (template.length - after.length - marks.length))
    ++ madeUp marks.length seed ++ after.reverse

/-- How many marks stand at the end of the name of a template. -/
def markCount (template : Octets) : Nat :=
  let reversed := template.reverse
  ((reversed.drop (reversed.takeWhile (· ≠ 'X')).length).takeWhile (· = 'X')).length

/-- Makes a file or a directory of a name that is not in use. -/
def mktemp : Tool :=
  fun _ start => Work.perform start.name 1 do
    let a ← Work.arguments
      [ flag "d" ["directory"], flag "u" ["dry-run"], flag "q" ["quiet"],
        ⟨"tmpdir", ["tmpdir"], .maybe⟩, valued "p" [], valued "suffix" ["suffix"], flag "t" [] ]
      1 start.arguments
    match a.operands.drop 1 with
    | _ :: _ => Work.misuse 1 "too many templates".toList
    | [] => pure ()
    let template := (a.operands.headD "tmp.XXXXXXXXXX".toList) ++ (a.value? "suffix").getD []
    if markCount template < 3 then
      Work.fail 1 ("too few X's in template ".toList ++ Quoting.plain template)
    let standard := match start.environment.lookup "TMPDIR".toList with
      | some [] => "/tmp".toList
      | some d => d
      | none => "/tmp".toList
    let chosen := (a.value? "p").getD ((a.value? "tmpdir").getD [])
    let isBelow := a.operands.isEmpty || a.has "tmpdir" || a.has "p" || a.has "t"
    let directory := if chosen.isEmpty then standard else chosen
    let clock : Nat ← Work.ask .clock
    let self : Nat ← Work.ask .self
    let name := fillTemplate (clock + 7919 * self) template
    let path := if isBelow then PathText.join directory name else name
    let shown := if isBelow then PathText.join directory template else template
    let made ←
      if a.has "u" then pure (.ok ())
      else if a.has "d" then Work.ask (.makeDirectory path)
      else do
        match ← Work.ask (.openFile path .fresh) with
        | .error e => pure (.error e)
        | .ok d => do
            let _ ← Work.ask (.close d)
            Work.ask (.permit path 0o600)
    match made with
    | .ok () => Work.sayLine path
    | .error e =>
        if a.has "q" then Work.giveUp 1
        else
          Work.fail 1 ("failed to create ".toList
            ++ (if a.has "d" then "directory".toList else "file".toList)
            ++ " via template ".toList ++ Quoting.plain shown ++ ": ".toList ++ e.reason.toList)

end Tool
end Runbook
