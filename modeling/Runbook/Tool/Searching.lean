import Runbook.Regex.Matching
import Runbook.Tool.Input
import Runbook.Shell.Pattern
import Runbook.Tool.Target

/-!
# Searching lines

The tool that shows the lines of files that a pattern occurs in, or those it does not occur in, or what
matches, or only where.
-/

namespace Runbook
namespace Tool
namespace Searching

/-! ## Patterns -/

/-- What is searched for: one of several expressions, as a whole word or as a whole line. -/
structure Query where
  patterns : List Regex
  foldCase : Bool
  words : Bool
  whole : Bool
  deriving Repr, Inhabited

/-- The places where a match of an expression may end that starts at a place, the last one first. -/
def endsOf
    (r : Regex)
    (t : Regex.Subject)
    (start : Nat) :
    List Nat :=
  if Regex.refersBack r then
    ((Regex.ways t r (start, [])).map Prod.fst).mergeSort fun a b => decide (b ≤ a)
  else Regex.ends t r start

/-- Whether a match between two places is a whole word. -/
def isWord
    (t : Regex.Subject)
    (start stop : Nat) :
    Bool :=
  let isPart (c : Option Char) : Bool := c.any CharSet.isWordChar
  !(0 < start && isPart (t.at? (start - 1))) && !isPart (t.at? stop)

/-- Where the longest match ends that starts at a place. -/
def Query.stopAt?
    (q : Query)
    (t : Regex.Subject)
    (start : Nat) :
    Option Nat :=
  let all := q.patterns.filterMap fun r =>
    (endsOf r t start).find? fun stop =>
      (!q.whole || (start = 0 && stop = t.chars.size)) && (!q.words || isWord t start stop)
  all.foldl (fun best stop => some (max stop (best.getD stop))) none

/-- The first match that starts at a place or behind it. -/
def Query.searchFrom?
    (q : Query)
    (t : Regex.Subject) :
    Nat → Nat → Option (Nat × Nat)
  | 0, _ => none
  | fuel + 1, start =>
      if t.chars.size < start then none
      else
        match q.stopAt? t start with
        | some stop => some (start, stop)
        | none => if q.whole then none else Query.searchFrom? q t fuel (start + 1)

/-- The first match in a line from a place on. -/
def Query.search?
    (q : Query)
    (t : Regex.Subject)
    (start : Nat) :
    Option (Nat × Nat) :=
  q.searchFrom? t (t.chars.size + 2 - start) start

def Query.occurs
    (q : Query)
    (line : Octets) :
    Bool :=
  (q.search? (Regex.subject q.foldCase line) 0).isSome

/-- All matches in a line that are not empty. -/
def Query.matches
    (q : Query)
    (t : Regex.Subject) :
    Nat → Nat → List (Nat × Nat)
  | 0, _ => []
  | fuel + 1, start =>
      match q.search? t start with
      | none => []
      | some (from_, to_) =>
          if from_ = to_ then Query.matches q t fuel (from_ + 1)
          else (from_, to_) :: Query.matches q t fuel to_

/-- The expression of plain characters. -/
def literal (s : Octets) : Regex :=
  s.foldr (fun c r => Regex.then_ (.char c) r) .empty

/-- How patterns are written. -/
inductive PatternKind where
  | basic
  | extended
  | fixed
  deriving DecidableEq, Repr, Inhabited

/-- Reads one pattern, and tells of signs that are ignored. -/
def readPattern
    (kind : PatternKind)
    (pattern : Octets) :
    Except RegexError (Regex × List Char) := do
  match kind with
  | .fixed => return (literal pattern, [])
  | .basic => return ((← Regex.parse .searchBasic pattern).1, [])
  | .extended =>
      let signs ← Regex.signs .searchExtended pattern
      let ignored := signs.filterMap fun s => match s with
        | .ignored c => some c
        | _ => none
      return ((← Regex.parse .searchExtended pattern).1, ignored)

/-- The sign of a repetition that is ignored, as it is shown. -/
def shownSign : Char → Octets
  | '\x7b' => "\x7b...\x7d".toList
  | c => [c]

def readPatterns
    (kind : PatternKind)
    (patterns : List Octets) :
    Work (List Regex) :=
  Work.foldAll
    (fun (done : List Regex) pattern => do
      match readPattern kind pattern with
      | .error e => Work.failText 2 e.message
      | .ok (r, ignored) => do
          Work.forAll
            (fun c => Work.warn ("warning: ".toList ++ shownSign c
              ++ " at start of expression".toList))
            ignored
          return done ++ [r])
    [] patterns

/-! ## Output -/

/-- Whether the names of files are shown instead of lines. -/
inductive NameList where
  | nothing
  | matching
  | others
  deriving DecidableEq, Repr, Inhabited

/-- What is done with files that are no texts. -/
inductive BinaryFiles where
  | told
  | texts
  | skipped
  deriving DecidableEq, Repr, Inhabited

/-- What is done with directories. -/
inductive Directories where
  | read
  | recurse
  | skip
  deriving DecidableEq, Repr, Inhabited

/-- How lines are searched and shown. -/
structure Style where
  query : Query
  invert : Bool
  count : Bool
  list : NameList
  quiet : Bool
  silent : Bool
  only : Bool
  numbers : Bool
  bytes : Bool
  names : Bool
  most : Option Nat
  before : Nat
  behind : Nat
  context : Bool
  separator : Option Octets
  zeroNames : Bool
  stop : Char
  binary : BinaryFiles
  label : Octets
  tab : Bool
  directories : Directories
  followsLinks : Bool
  included : List Octets
  excluded : List Octets
  excludedDirectories : List Octets
  deriving Repr, Inhabited

/-- The search of one file: the number of the line, where it starts, how many lines were selected, the
lines before it that may be shown, the last one first, how many lines behind a selected one are still to
be shown, the number of the line that was shown last, whether a line was selected that is not shown since
the file is no text, and where the last selected line ends. -/
structure Place where
  line : Nat
  offset : Nat
  selected : Nat
  kept : List (Nat × Nat × Octets)
  left : Nat
  shown : Nat
  toldBinary : Bool
  behindSelected : Nat
  deriving Repr, Inhabited

/-- What stands in front of a line: the name of the file, the number of the line and its offset, each
with a mark behind it. -/
def Style.front
    (style : Style)
    (name : Octets)
    (mark : Char)
    (line offset : Nat) :
    Octets :=
  let file : Octets :=
    if style.names then name ++ [if style.zeroNames then '\x00' else mark] else []
  let pad (n : Nat) (s : Octets) : Octets := if style.tab then Octets.padLeft n ' ' s else s
  let number : Octets := if style.numbers then pad 2 (Octets.ofNat line) ++ [mark] else []
  let place : Octets := if style.bytes then pad 3 (Octets.ofNat offset) ++ [mark] else []
  let all := file ++ number ++ place
  if style.tab && !all.isEmpty then all ++ ['\t'] else all

def showLine
    (style : Style)
    (name : Octets)
    (mark : Char)
    (line offset : Nat)
    (text : Octets) :
    Work Unit := do
  if style.only then
    if mark = ':' && !style.invert then
      let t := Regex.subject style.query.foldCase text
      Work.forAll
        (fun m => Work.say (style.front name mark line (offset + m.1) ++ t.slice m.1 m.2
          ++ [style.stop]))
        (style.query.matches t (text.length + 1) 0)
  else Work.say (style.front name mark line offset ++ text ++ [style.stop])

def Style.showsLines (style : Style) : Bool :=
  !style.quiet && !style.count && style.list = .nothing

/-- Whether a search may end with the first line that is selected. -/
def Style.endsEarly (style : Style) : Bool :=
  style.quiet || style.list ≠ .nothing

/-- Shows a selected line with those before it. -/
def showSelected
    (style : Style)
    (name : Octets)
    (anyShown : Bool)
    (p : Place)
    (text : Octets) :
    Work Place := do
  let kept := (p.kept.take style.before).reverse.filter fun k => p.shown < k.1
  let first := (kept.head?.map Prod.fst).getD p.line
  let isApart := (0 < p.shown && p.shown + 1 < first) || (p.shown = 0 && anyShown)
  if style.context && isApart && !style.only then
    match style.separator with
    | some s => Work.say (s ++ ['\n'])
    | none => pure ()
  if style.context && isApart && style.only then
    match style.separator with
    | some s => Work.say (s ++ ['\n'])
    | none => pure ()
  Work.forAll (fun k => showLine style name '-' k.1 k.2.1 k.2.2) kept
  showLine style name ':' p.line p.offset text
  return { p with kept := [], left := style.behind, shown := p.line }

/-- Takes the next line of a file. The result tells whether to go on. -/
def takeLine
    (style : Style)
    (name : Octets)
    (isBinary anyShown : Bool)
    (p : Place)
    (text : Octets)
    (_ended : Bool) :
    Work (Place × Bool) := do
  let length := text.length + 1
  let here := { p with line := p.line + 1 }
  let forward (q : Place) : Place := { q with offset := p.offset + length }
  let isFull := style.most.any fun n => decide (n ≤ p.selected)
  let isSelected := !isFull && (style.query.occurs text != style.invert)
  if isSelected then
    let counted :=
      { here with selected := here.selected + 1, behindSelected := p.offset + length }
    if style.showsLines && isBinary then
      return (forward { counted with toldBinary := true }, false)
    let after ← if style.showsLines then showSelected style name anyShown counted text
      else pure counted
    let enough := style.most.any fun n => decide (n ≤ after.selected)
    return (forward after, !style.endsEarly && !(enough && after.left = 0))
  else if 0 < p.left && style.showsLines then
    showLine style name '-' here.line p.offset text
    let after := { here with left := p.left - 1, shown := here.line }
    return (forward after, !(isFull && after.left = 0))
  else
    let kept := (here.line, p.offset, text) :: p.kept.take style.before
    return (forward { here with kept := if style.before = 0 then [] else kept }, !isFull)

/-- Takes the next row of a file, which is several lines if the file is no text. -/
def takeRow
    (style : Style)
    (name : Octets)
    (isBinary anyShown : Bool)
    (p : Place)
    (text : Octets)
    (ended : Bool) :
    Work (Place × Bool) :=
  if !isBinary then takeLine style name isBinary anyShown p text ended
  else
    Work.foldAll
      (fun (at_ : Place × Bool) line =>
        if at_.2 then takeLine style name isBinary anyShown at_.1 line ended else return at_)
      (p, true) (Octets.splitOn '\x00' text)

/-- What a search found so far: whether a line was selected, whether something went wrong, and whether
lines were shown. -/
structure Outcome where
  found : Bool
  failed : Bool
  shown : Bool
  deriving Repr, Inhabited

def complainAt
    (style : Style)
    (name : Octets)
    (o : Outcome)
    (e : FileFault) :
    Work Outcome := do
  if !style.silent then Work.warn (name ++ ": ".toList ++ e.reason.toList)
  return { o with failed := true }

/-- Shows the name of a file. -/
def sayName
    (style : Style)
    (name : Octets) :
    Work Unit :=
  Work.say (name ++ [if style.zeroNames then '\x00' else '\n'])

def searchOpen
    (style : Style)
    (name : Octets)
    (descriptor : Nat)
    (o : Outcome) :
    Work Outcome := do
  let reader := Reader.of descriptor
  match ← reader.next with
  | .error e => complainAt style name o e
  | .ok (piece, after) => do
      let isBinary := style.binary ≠ .texts && style.stop = '\n' && piece.contains '\x00'
      if isBinary && style.binary = .skipped then return o
      if style.most = some 0 then return o
      let result ← Work.foldRows style.stop (takeRow style name isBinary o.shown)
        ⟨0, 0, 0, [], 0, 0, false, 0⟩ { after with ahead := piece }
      match result with
      | .error e => complainAt style name o e
      | .ok (p, rest) => do
          let isFull := style.most.any fun n => decide (n ≤ p.selected)
          if descriptor = 0 && isFull && !style.quiet then
            let _ ← Work.ask (.seekBack 0 (rest.ahead.length + p.offset - p.behindSelected))
          if style.count && !style.quiet && style.list = .nothing then
            let lead : Octets :=
              if style.names then name ++ [if style.zeroNames then '\x00' else ':'] else []
            Work.say (lead ++ Octets.ofNat p.selected ++ ['\n'])
          if p.toldBinary then Work.warn (name ++ ": binary file matches".toList)
          let isMatch := decide (0 < p.selected)
          let isListed := match style.list with
            | .nothing => false
            | .matching => isMatch
            | .others => !isMatch
          if isListed && !style.quiet then sayName style name
          return { o with found := o.found || isMatch, shown := o.shown || 0 < p.shown }

def isLeftOut
    (style : Style)
    (named : Bool)
    (path : Octets) :
    Bool :=
  let hit (p : Octets) : Bool :=
    Glob.isMatch false p (PathText.last path) || (named && Glob.isMatch false p path)
  style.excluded.any hit || (!style.included.isEmpty && !style.included.any hit)

def isDirectoryLeftOut
    (style : Style)
    (path : Octets) :
    Bool :=
  style.excludedDirectories.any fun p =>
    let pattern := PathText.withoutSlashes p
    Glob.isMatch false pattern (PathText.last path) || Glob.isMatch false pattern path

/-- Whether an open file is the one that the output goes to. -/
def isWritten (descriptor : Nat) : Work Bool := do
  match ← Work.ask (.statusOf descriptor), ← Work.ask (.statusOf 1) with
  | .ok s, .ok t =>
      return s.kind = .file && t.kind = .file && s.identity = t.identity
  | _, _ => return false

/-- Searches a file, or the files below a directory. `named` tells whether the path was given to the
tool. -/
def search
    (style : Style)
    (named : Bool) :
    Nat → Outcome → Octets → Octets → Work Outcome
  | 0, o, _, _ => return o
  | depth + 1, o, path, shown => do
      if style.quiet && o.found then return o
      let isInput := named && path = Work.dash
      let name := if isInput then style.label else shown
      match ← (if isInput then Work.ask (.statusOf 0) else Work.ask (.status path true)) with
      | .error e => do
          if !named then
            let own ← Work.act (Act.entryAt? path)
            if (own.map FileStatus.kind) = some .link then return o
          complainAt style name o e
      | .ok s =>
          if s.kind = .directory then
            match style.directories with
            | .skip => return o
            | .read =>
                if isDirectoryLeftOut style path then return o
                else complainAt style name o .isDirectory
            | .recurse => do
                if isDirectoryLeftOut style path && !(named && path = ['.']) then return o
                let own ← Work.act (Act.entryAt? path)
                if !named && !style.followsLinks && (own.map FileStatus.kind) = some .link then
                  return o
                match ← Work.ask (.list path) with
                | .error e => complainAt style name o e
                | .ok names =>
                    Work.foldAll
                      (fun o entry => do
                        let inner := PathText.join path entry
                        let innerShown := if shown.isEmpty then entry else PathText.join shown entry
                        search style false depth o inner innerShown)
                      o names
          else do
            if isLeftOut style named path && !isInput then return o
            let own ← Work.act (Act.entryAt? path)
            let isLink := (own.map FileStatus.kind) = some .link
            if !named && isLink && !style.followsLinks then return o
            if !named && s.kind ≠ .file then return o
            match ← (if isInput then pure (.ok 0) else Work.ask (.openFile path .reading)) with
            | .error e => complainAt style name o e
            | .ok d => do
                let isLoop ← if style.showsLines && style.most != some 1 then isWritten d
                  else pure false
                if isLoop then
                  if !style.silent then
                    Work.warn (name ++ ": input file is also the output".toList)
                  Work.closeInput d
                  return { o with failed := true }
                let result ← searchOpen style name d o
                Work.closeInput d
                return result

/-- How deep directories are gone through. -/
def depth : Nat := 1000

/-! ## Options -/

def forms : List OptionForm :=
  [ flag "E" ["extended-regexp"], flag "F" ["fixed-strings"], flag "G" ["basic-regexp"],
    flag "P" ["perl-regexp"], valued "e" ["regexp"], valued "f" ["file"],
    flag "i" ["ignore-case"], flag "y" [], flag "noi" ["no-ignore-case"],
    flag "v" ["invert-match"], flag "w" ["word-regexp"], flag "x" ["line-regexp"],
    valued "C" ["context"], ⟨"color", ["color", "colour"], .maybe⟩, flag "c" ["count"],
    flag "L" ["files-without-match"], flag "l" ["files-with-matches"], valued "m" ["max-count"],
    flag "o" ["only-matching"], flag "q" ["quiet", "silent"], flag "s" ["no-messages"],
    flag "b" ["byte-offset"], flag "H" ["with-filename"], flag "h" ["no-filename"],
    valued "label" ["label"], flag "n" ["line-number"], flag "T" ["initial-tab"],
    flag "u" ["unix-byte-offsets"], flag "Z" ["null"], flag "z" ["null-data"],
    valued "A" ["after-context"], valued "B" ["before-context"],
    valued "separator" ["group-separator"], flag "noSeparator" ["no-group-separator"],
    flag "a" ["text"], valued "binary" ["binary-files"], valued "D" ["devices"],
    valued "d" ["directories"], valued "exclude" ["exclude"],
    valued "excludeFrom" ["exclude-from"], valued "excludeDir" ["exclude-dir"], flag "I" [],
    valued "include" ["include"], flag "r" ["recursive"], flag "R" ["dereference-recursive"],
    flag "line" ["line-buffered"], flag "U" ["binary"] ]

/-- Words in which a number behind a dash stands for lines around matches. -/
def spellNumbers (words : List Octets) : List Octets :=
  let before := words.takeWhile fun w => w ≠ "--".toList
  let spelled := before.map fun w => match w with
    | '-' :: digits =>
        if !digits.isEmpty && digits.all Char.isDigit then "-C".toList ++ digits else w
    | _ => w
  spelled ++ words.drop before.length

/-- Shows how the tool is used, and gives up. -/
def usage
    {α : Type}
    (status : Nat) :
    Work α := do
  Work.flush
  Work.act (Act.complain "Usage: grep [OPTION]... PATTERNS [FILE]...\n".toList)
  Work.hint
  Work.giveUp status

def lineCount
    (a : Arguments)
    (key : String) :
    Work (Option Nat) := do
  match a.value? key with
  | none => return none
  | some word =>
      if !word.isEmpty && word.all Char.isDigit then return (String.ofList word).toNat?
      else Work.fail 2 (word ++ ": invalid context length argument".toList)

/-- How many lines may be selected. -/
def mostOf (a : Arguments) : Work (Option Nat) := do
  match a.value? "m" with
  | none => return none
  | some ('-' :: _) => return none
  | some word =>
      if !word.isEmpty && word.all Char.isDigit then return (String.ofList word).toNat?
      else Work.failText 2 "invalid max count"

/-- What an option says about directories. -/
def directoriesOf (a : Arguments) : Work Directories := do
  match a.last? ["d", "r", "R"] with
  | none => return .read
  | some "d" =>
      match chooseAmong [["read"], ["recurse"], ["skip"]] ((a.value? "d").getD []) with
      | .ok "read" => return .read
      | .ok "recurse" => return .recurse
      | .ok _ => return .skip
      | .error wrong => do
          Work.warn (wrong.toList ++ " argument ".toList
            ++ Quoting.plain ((a.value? "d").getD []) ++ " for '--directories'".toList)
          Work.act (Act.complain
            "Valid arguments are:\n  - 'read'\n  - 'recurse'\n  - 'skip'\n".toList)
          usage 1
  | some _ => return .recurse

/-- What options say about files that are no texts. -/
def binaryOf (a : Arguments) : Work BinaryFiles := do
  match a.last? ["a", "I", "binary"] with
  | none => return .told
  | some "a" => return .texts
  | some "I" => return .skipped
  | some _ =>
      match String.ofList ((a.value? "binary").getD []) with
      | "binary" => return .told
      | "text" => return .texts
      | "without-match" => return .skipped
      | _ => Work.failText 2 "unknown binary-files type"

/-- The patterns that options and files give. -/
def givenPatterns (a : Arguments) : Work (List Octets) :=
  Work.foldAll
    (fun (done : List Octets) (g : Given) => do
      if g.key = "e" then return done ++ Octets.splitOn '\n' g.value
      else if g.key = "f" then
        match ← Work.readWhole g.value with
        | .ok data => return done ++ Octets.lines data
        | .error e => Work.fail 2 (g.value ++ ": ".toList ++ e.reason.toList)
      else return done)
    [] a.options

/-- The name patterns of an option and of files. -/
def excludedOf (a : Arguments) : Work (List Octets) := do
  let fromFiles ← Work.foldAll
    (fun (done : List Octets) path => do
      match ← Work.readWhole path with
      | .ok data => return done ++ Octets.lines data
      | .error e => Work.fail 2 (path ++ ": ".toList ++ e.reason.toList))
    [] (a.values "excludeFrom")
  return a.values "exclude" ++ fromFiles

def arguments (words : List Octets) : Work Arguments :=
  match Options.readWords forms false (words.length + 1) ⟨[], []⟩ words with
  | .ok a => pure a
  | .error e => do
      Work.warn e.message
      usage 2

/-- How patterns are written by what the options say. -/
def kindOf
    (standard : PatternKind)
    (a : Arguments) :
    Work PatternKind := do
  let implied := match standard with
    | .basic => []
    | .extended => ["E"]
    | .fixed => ["F"]
  let keys := implied ++ (a.options.map Given.key).filter fun k => ["E", "F", "G", "P"].contains k
  match keys.eraseDups with
  | [] => return standard
  | ["E"] => return .extended
  | ["F"] => return .fixed
  | ["G"] => return .basic
  | ["P"] => return .extended
  | _ => Work.failText 2 "conflicting matchers specified"

def tool (standard : PatternKind) : Tool :=
  fun _ start => Work.perform "grep".toList 2 do
    let a ← arguments (spellNumbers start.arguments)
    let kind ← kindOf standard a
    let around ← lineCount a "C"
    let behind ← lineCount a "A"
    let before ← lineCount a "B"
    let most ← mostOf a
    let binary ← binaryOf a
    let directories ← directoriesOf a
    let given ← givenPatterns a
    let (texts, operands) ←
      if a.has "e" || a.has "f" then pure (given, a.operands)
      else
        match a.operands with
        | [] => usage 2
        | pattern :: rest => pure (Octets.splitOn '\n' pattern, rest)
    if a.has "u" then
      Work.warn "warning: --unix-byte-offsets (-u) is obsolete".toList
    let patterns ← readPatterns kind texts
    let recurses := directories = .recurse
    let style : Style :=
      { query :=
          { patterns := patterns
            foldCase := match a.last? ["i", "y", "noi"] with
              | some "noi" => false
              | some _ => true
              | none => false
            words := a.has "w" && !a.has "x"
            whole := a.has "x" }
        invert := a.has "v"
        count := a.has "c"
        list := match a.last? ["l", "L"] with
          | some "l" => .matching
          | some _ => .others
          | none => .nothing
        quiet := a.has "q"
        silent := a.has "s"
        only := a.has "o"
        numbers := a.has "n"
        bytes := a.has "b"
        names := match a.last? ["H", "h"] with
          | some "H" => true
          | some _ => false
          | none => decide (1 < operands.length)
        most := most
        before := before.getD (around.getD 0)
        behind := behind.getD (around.getD 0)
        context := around.isSome || behind.isSome || before.isSome
        separator := match a.last? ["separator", "noSeparator"] with
          | some "separator" => a.value? "separator"
          | some _ => none
          | none => some "--".toList
        zeroNames := a.has "Z"
        stop := if a.has "z" then '\x00' else '\n'
        binary := binary
        label := (a.value? "label").getD "(standard input)".toList
        tab := a.has "T"
        directories := directories
        followsLinks := a.has "R"
        included := a.values "include"
        excluded := ← excludedOf a
        excludedDirectories := a.values "excludeDir" }
    let files : List (Octets × Octets) :=
      if !operands.isEmpty then operands.map fun p => (p, p)
      else if recurses then [(['.'], [])]
      else [(Work.dash, Work.dash)]
    let o ← Work.foldAll
      (fun o (file : Octets × Octets) => do
        let isDirectory ← Work.act (Act.isDirectory file.1)
        let named := a.last? ["H", "h"] != some "h"
          && (style.names || (recurses && isDirectory && file.1 ≠ Work.dash))
        search { style with names := named } true depth o file.1 file.2)
      ⟨false, false, false⟩ files
    if o.found && (!o.failed || style.quiet) then pure ()
    else Work.setStatus (if o.failed then 2 else 1)

end Searching
end Tool
end Runbook
