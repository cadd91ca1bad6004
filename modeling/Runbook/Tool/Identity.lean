import Runbook.Format.Field
import Runbook.Tool.Calendar
import Runbook.Tool.Environment
import Runbook.Tool.Input
import Runbook.Tool.Listing
import Runbook.Tool.Target

/-!
# Who, where and which files

The tools that tell what is known of files, and who runs them on what kind of machine.
-/

namespace Runbook
namespace Tool

/-!
## What is known of files

The tool that shows what is known of files without opening them, in a format.
-/

namespace Status

/-- A file that is shown: the word it was named by, the word that is known of it, and what is known. -/
structure Shown where
  path : Octets
  target : Option Octets
  status : FileStatus
  clock : Nat

def kindBits : NodeKind → Nat
  | .file => 0x8000
  | .directory => 0x4000
  | .link => 0xa000
  | .device => 0x2000
  | .pipe => 0x1000

def kindName (s : FileStatus) : String :=
  match s.kind with
  | .file => if s.size = 0 then "regular empty file" else "regular file"
  | .directory => "directory"
  | .link => "symbolic link"
  | .device => "character special file"
  | .pipe => "fifo"

def momentOf (f : Shown) : Octets :=
  Calendar.format (Moment.ofSeconds (f.clock / 1000000)) 0 "%Y-%m-%d %H:%M:%S.%N %z".toList

/-- The name of a file in quotes, with what a link leads to. -/
def quotedName (f : Shown) : Octets :=
  Quoting.shellAlways f.path ++ match f.target with
    | some t => " -> ".toList ++ Quoting.shellAlways t
    | none => []

def part? (f : Shown) (field : Format.Field) (letter : Char) : Option Octets :=
  let whole (n : Nat) : Option Octets := some (field.unsigned 'u' n)
  let text (s : Octets) : Option Octets := some (field.text s)
  match letter with
  | 'a' => some (field.unsigned 'o' f.status.mode)
  | 'A' => text (Listing.kindLetter f.status.kind :: Mode.text f.status.mode)
  | 'b' => whole (2 * Listing.blocksOf f.status)
  | 'B' => whole 512
  | 'd' => whole 1
  | 'D' => some (field.unsigned 'x' 1)
  | 'f' => some (field.unsigned 'x' (kindBits f.status.kind + f.status.mode))
  | 'F' => text (kindName f.status).toList
  | 'g' => whole 0
  | 'G' => text "root".toList
  | 'h' => whole f.status.names
  | 'i' => whole (f.status.identity.2 + 1)
  | 'm' => text ['/']
  | 'n' => text f.path
  | 'N' => text (quotedName f)
  | 'o' => whole 4096
  | 'r' => whole 0
  | 'R' => some (field.unsigned 'x' 0)
  | 's' => whole f.status.size
  | 't' => some (field.unsigned 'x' (if f.status.kind = .device then 1 else 0))
  | 'T' => some (field.unsigned 'x' (if f.status.kind = .device then 3 else 0))
  | 'u' => whole 0
  | 'U' => text "root".toList
  | 'w' => text (momentOf f)
  | 'x' => text (momentOf f)
  | 'y' => text (momentOf f)
  | 'z' => text (momentOf f)
  | 'W' => whole (f.clock / 1000000)
  | 'X' => whole (f.clock / 1000000)
  | 'Y' => whole (f.clock / 1000000)
  | 'Z' => whole (f.clock / 1000000)
  | _ => none

/-- A format with its escapes carried out, or as it is. -/
def withEscapes : Nat → Octets → Work Octets
  | 0, s => return s
  | _, [] => return []
  | _, ['\\'] => do
      Work.warn "warning: backslash at end of format".toList
      return ['\\']
  | fuel + 1, '\\' :: c :: s => do
      let octal := ((c :: s).take 3).takeWhile fun d => '0' ≤ d && d ≤ '7'
      let hexadecimal := (s.take 2).takeWhile fun d => (digitValue? d).isSome
      if !octal.isEmpty then
        return Char.ofNat (((digitsIn? 8 octal).getD 0) % 256)
          :: (← withEscapes fuel ((c :: s).drop octal.length))
      else if c = 'x' && !hexadecimal.isEmpty then
        return Char.ofNat ((digitsIn? 16 hexadecimal).getD 0)
          :: (← withEscapes fuel (s.drop hexadecimal.length))
      else
        let known := [('a', '\x07'), ('b', '\x08'), ('e', '\x1b'), ('f', '\x0c'), ('n', '\n'),
          ('r', '\r'), ('t', '\t'), ('v', '\x0b'), ('\\', '\\'), ('"', '"')]
        match known.lookup c with
        | some d => return d :: (← withEscapes fuel s)
        | none => do
            Work.warn ("warning: unrecognized escape '\\".toList ++ [c, '\''])
            return c :: (← withEscapes fuel s)
  | fuel + 1, c :: s => return c :: (← withEscapes fuel s)

/-- Fills a format for a file. -/
def fill (f : Shown) : Nat → Octets → Octets
  | 0, _ => []
  | _, [] => []
  | fuel + 1, '%' :: s =>
      let (flags, behind) := Format.readFlags Format.Field.plain s
      let (width, behind) := Format.readNumber behind
      let (precision, behind) : Option Nat × Octets := match behind with
        | '.' :: t => let (n, u) := Format.readNumber t; (some n, u)
        | t => (none, t)
      let field := { flags with width := width, precision := precision }
      match behind with
      | [] => ['%']
      | '%' :: rest => '%' :: fill f fuel rest
      | 'H' :: letter :: rest =>
          if letter = 'd' || letter = 'r' then field.unsigned 'u' 0 ++ fill f fuel rest
          else '?' :: fill f fuel (letter :: rest)
      | 'L' :: letter :: rest =>
          if letter = 'd' || letter = 'r' then field.unsigned 'u' 1 ++ fill f fuel rest
          else '?' :: fill f fuel (letter :: rest)
      | letter :: rest => (part? f field letter).getD ['?'] ++ fill f fuel rest
  | fuel + 1, c :: s => c :: fill f fuel s

def wholeFormat (s : FileStatus) : String :=
  let file := if s.kind = .link then "%N" else "%n"
  "  File: " ++ file ++ "\n  Size: %-10s\tBlocks: %-10b IO Block: %-6o %F\nDevice: %Hd,%Ld\tInode: %-10i  Links: "
    ++ (if s.kind = .device then "%-5h Device type: %t,%T" else "%h")
    ++ "\nAccess: (%04a/%10.10A)  Uid: (%5u/%8U)   Gid: (%5g/%8G)\nAccess: %x\nModify: %y\nChange: %z\n"
    ++ " Birth: %w\n"

/-- The short format of all that is known. -/
def terseFormat : String :=
  "%n %s %b %f %u %g %D %i %h %t %T %X %Y %Z %W %o\n"

def forms : List OptionForm :=
  [ flag "L" ["dereference"], flag "f" ["file-system"], valued "c" ["format"],
    valued "printf" ["printf"], flag "t" ["terse"], valued "cached" ["cached"] ]

def showFile (follow : Bool) (format : Option (Octets × Bool)) (terse : Bool) (path : Octets) :
    Work Unit := do
  let clock : Nat ← Work.ask .clock
  let found ← if path = Work.dash then Work.ask (.statusOf 0)
    else Work.ask (.status path follow)
  match found with
  | .error e =>
      Work.complain ("cannot statx ".toList ++ Quoting.plain path ++ ": ".toList ++ e.reason.toList)
  | .ok status => do
      let target : Option Octets ← if status.kind = .link then do
          match ← Work.ask (.targetOf path) with
          | .ok t => pure (some t)
          | .error _ => pure none
        else pure none
      let f : Shown := ⟨path, target, status, clock⟩
      match format with
      | some (text, true) => do
          Work.say (fill f (text.length + 1) text)
          Work.say ['\n']
      | some (given, false) => do
          let text ← withEscapes (given.length + 1) given
          Work.say (fill f (text.length + 1) text)
      | none =>
          let text := if terse then terseFormat else wholeFormat status
          Work.say (fill f (text.length + 1) text.toList)

def tool : Tool :=
  simple 1 fun words => do
    let a ← Work.arguments forms 1 words
    if a.operands.isEmpty then Work.missingOperand 1 none
    let format : Option (Octets × Bool) := match a.last? ["c", "printf"] with
      | some "printf" => some ((a.value? "printf").getD [], false)
      | some _ => some ((a.value? "c").getD [], true)
      | none => none
    Work.forAll (showFile (a.has "L") format (a.has "t")) a.operands

end Status

/-!
## Who and where

The tools that tell who runs them, on what kind of machine, and where programs are found. There is one
user, who may do everything, and one other who may do nothing.
-/

namespace Identity

/-- A user: the name, the number, and the name of the group, which has the same number. -/
structure User where
  name : String
  number : Nat
  group : String
  deriving DecidableEq, Repr, Inhabited

/-- The user who runs everything. -/
def root : User :=
  ⟨"root", 0, "root"⟩

def users : List User :=
  [root, ⟨"daemon", 1, "daemon"⟩, ⟨"bin", 2, "bin"⟩, ⟨"sys", 3, "sys"⟩, ⟨"nobody", 65534, "nogroup"⟩]

/-- The user of a name or a number. -/
def user? (word : Octets) : Option User :=
  users.find? fun u => u.name.toList = word || Octets.ofNat u.number = word

/-- A tool without options and operands. -/
def bare (failure : Nat) (body : Work Unit) : Tool :=
  simple failure fun words => do
    let a ← Work.arguments [] failure words
    match a.operands with
    | extra :: _ => Work.extraOperand failure extra
    | [] => body

/-- Tells the name of the user. -/
def whoami : Tool :=
  bare 1 (Work.sayText "root\n")

/-- Tells who has logged in, which is nobody. -/
def logname : Tool :=
  bare 1 (Work.failText 1 "no login name")

/-- Tells what the machine is made of. -/
def arch : Tool :=
  bare 1 (Work.sayText "x86_64\n")

/-- Tells the users who have logged in, of whom there are none. -/
def users_ : Tool :=
  simple 1 fun _ => pure ()

/-- Tells the groups of users. -/
def groups : Tool :=
  simple 1 fun words => do
    let a ← Work.arguments [] 1 words
    if a.operands.isEmpty then Work.sayText "root\n"
    Work.forAll
      (fun word => do
        match user? word with
        | some u => Work.sayText (u.name ++ " : " ++ u.group ++ "\n")
        | none => Work.complain (Quoting.plain word ++ ": no such user".toList))
      a.operands

def wholeLine (u : User) : String :=
  let n := toString u.number
  "uid=" ++ n ++ "(" ++ u.name ++ ") gid=" ++ n ++ "(" ++ u.group ++ ") groups=" ++ n ++ "(" ++ u.group
    ++ ")"

/-- Tells the numbers and names of users. -/
def id : Tool :=
  simple 1 fun words => do
    let a ← Work.arguments
      [ flag "a" [], flag "Z" ["context"], flag "g" ["group"], flag "G" ["groups"],
        flag "n" ["name"], flag "r" ["real"], flag "u" ["user"], flag "z" ["zero"] ] 1 words
    let only := ["u", "g", "G"].filter a.has
    if a.has "Z" then
      Work.failText 1 "--context (-Z) works only on an SELinux-enabled kernel"
    if 1 < only.length then Work.failText 1 "cannot print \"only\" of more than one choice"
    if only.isEmpty && (a.has "n" || a.has "r") then
      Work.failText 1 "cannot print only names or real IDs in default format"
    if only.isEmpty && a.has "z" then
      Work.failText 1 "option --zero not permitted in default format"
    let tell (u : User) : Work Unit := do
      let text := match only with
        | ["u"] => if a.has "n" then u.name else toString u.number
        | _ :: _ => if a.has "n" then u.group else toString u.number
        | [] => wholeLine u
      Work.sayText text
      Work.say (if a.has "z" then ['\x00'] else ['\n'])
    if a.operands.isEmpty then tell root
    Work.forAll
      (fun word => do
        match user? word with
        | some u => tell u
        | none => Work.complain (Quoting.plain word ++ ": no such user".toList))
      a.operands

/-- What can be told of the system, in order, with the letters and names of the options. -/
def facts : List (OptionForm × String) :=
  [ (flag "s" ["kernel-name", "sysname"], "Linux"), (flag "n" ["nodename"], "localhost"),
    (flag "r" ["kernel-release", "release"], "6.1.0"), (flag "v" ["kernel-version"], "#1 SMP"),
    (flag "m" ["machine"], "x86_64"), (flag "p" ["processor"], "x86_64"),
    (flag "i" ["hardware-platform"], "x86_64"), (flag "o" ["operating-system"], "GNU/Linux") ]

/-- Tells what the system is. -/
def uname : Tool :=
  simple 1 fun words => do
    let a ← Work.arguments (flag "a" ["all"] :: facts.map Prod.fst) 1 words
    match a.operands with
    | extra :: _ => Work.extraOperand 1 extra
    | [] => pure ()
    let wanted := facts.filter fun e => a.has "a" || a.has e.1.key
    let shown := if wanted.isEmpty then facts.take 1 else wanted
    Work.sayText (" ".intercalate (shown.map Prod.snd) ++ "\n")

/-- Tells the name of the machine. -/
def hostname : Tool :=
  simple 1 fun _ => Work.sayText "localhost\n"

/-- Tells how many processors there are. -/
def nproc : Tool :=
  simple 1 fun words => do
    let a ← Work.arguments [flag "all" ["all"], valued "ignore" ["ignore"]] 1 words
    match a.operands with
    | extra :: _ => Work.extraOperand 1 extra
    | [] => pure ()
    match a.value? "ignore" with
    | some word =>
        if (digitsIn? 10 word).isNone then
          Work.fail 1 ("invalid number: ".toList ++ Quoting.plain word)
    | none => pure ()
    Work.sayText "1\n"

/-- Tells which terminal the input is, which it is not. -/
def tty : Tool :=
  simple 3 fun words => do
    let a ← Work.arguments [flag "s" ["silent", "quiet"]] 2 words
    match a.operands with
    | extra :: _ => Work.extraOperand 2 extra
    | [] => pure ()
    if !a.has "s" then Work.sayText "not a tty\n"
    Work.setStatus 1

/-- Makes sure that files are stored, which they are. -/
def sync : Tool :=
  simple 1 fun words => do
    let a ← Work.arguments [flag "d" ["data"], flag "f" ["file-system"]] 1 words
    if a.has "d" && a.operands.isEmpty then
      Work.failText 1 "--data needs at least one argument"
    Work.forAll
      (fun path => do
        match ← Work.ask (.openFile path .reading) with
        | .ok d => Work.closeInput d
        | .error e =>
            Work.complain ("error opening ".toList ++ Quoting.plain path ++ ": ".toList
              ++ e.reason.toList))
      a.operands

/-- Where the program of a name is found, in order. -/
def placesOf (environment : Variables) (name : Octets) : Work (List Octets) := do
  let candidates := if name.contains '/' then [name]
    else (Launch.searchPath environment).map fun directory => Launch.under directory name
  let found ← Work.foldAll
    (fun (before : List Octets) path => do
      match ← Work.ask (.status path true) with
      | .ok status =>
          if status.kind = .file && status.mode % 0o200 / 0o100 = 1 then return path :: before
          else return before
      | .error _ => return before)
    [] candidates
  return if name.isEmpty then [] else found.reverse

/-- Tells where programs are found. -/
def which : Tool :=
  fun _ start => Work.perform start.name 2 do
    let (options, names) := start.arguments.span fun word =>
      word.head? = some '-' && word ≠ "--".toList && 1 < word.length
    let letters := options.flatMap (List.drop 1)
    match letters.find? fun c => c ≠ 'a' && c ≠ 's' with
    | some c => do
        Work.act (Act.complain ("Illegal option -".toList ++ [c, '\n']))
        Work.sayText "Usage: /usr/bin/which [-as] args\n"
        Work.giveUp 2
    | none => pure ()
    let operands := if names.head? = some "--".toList then names.drop 1 else names
    if operands.isEmpty then Work.setStatus 1
    Work.forAll
      (fun name => do
        let places ← placesOf start.environment name
        if places.isEmpty then Work.setStatus 1
        else if !letters.contains 's' then
          Work.forAll Work.sayLine (if letters.contains 'a' then places else places.take 1))
      operands

end Identity
end Tool
end Runbook
