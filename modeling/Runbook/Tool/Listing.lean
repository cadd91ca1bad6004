import Runbook.Tool.Calendar
import Runbook.Shell.Pattern
import Runbook.Tool.Input
import Runbook.Tool.Mode
import Runbook.Tool.Target
import Runbook.Tool.Sorting.Key

/-!
# Listing directories

The tool that shows which files there are, one below the other, side by side, or with all that is
known of them.
-/

namespace Runbook
namespace Tool

namespace Listing

/-- How names are laid out. -/
inductive Layout where
  | single
  | long
  | commas
  | down
  | across
  deriving DecidableEq, Repr, Inhabited

/-- By what entries are sorted. -/
inductive SortKey where
  | name
  | nothing
  | size
  | time
  | ending
  | version
  | width
  deriving DecidableEq, Repr, Inhabited

/-- Which signs tell what an entry is. -/
inductive Signs where
  | nothing
  | directories
  | kinds
  | all
  deriving DecidableEq, Repr, Inhabited

/-- Which entries are shown whose names start with a point. -/
inductive Hidden where
  | nothing
  | almostAll
  | all
  deriving DecidableEq, Repr, Inhabited

/-- Which links are followed. -/
inductive Links where
  | nothing
  | toDirectories
  | named
  | all
  deriving DecidableEq, Repr, Inhabited

/-- How names are quoted. -/
inductive NameStyle where
  | literal
  | shell
  | shellAlways
  | shellEscape
  | shellEscapeAlways
  | doubleQuotes
  | escapes
  deriving DecidableEq, Repr, Inhabited

/-- How a directory is listed. -/
structure Style where
  layout : Layout
  sortKey : SortKey
  signs : Signs
  hidden : Hidden
  links : Links
  names : NameStyle
  plainMarks : Bool
  backwards : Bool
  deep : Bool
  directoriesFirst : Bool
  numbers : Bool
  owner : Bool
  group : Bool
  human : Bool
  blocks : Bool
  ids : Bool
  width : Nat
  tab : Nat
  stop : Octets
  dates : Octets
  ignored : List Octets
  hiddenOnes : List Octets
  deriving Repr, Inhabited

/-- An entry to be shown. -/
structure Entry where
  name : Octets
  path : Octets
  status : FileStatus
  target : Option (Octets × Option FileStatus)
  deriving Repr, Inhabited

/-! ## Names -/

/-- A name between double quotes or with backslashes; `blank` tells whether blanks are marked. -/
def escapedName
    (blank quote : Bool)
    (name : Octets) :
    Octets :=
  name.flatMap fun c =>
    if c = '\\' then "\\\\".toList
    else if c = '"' && quote then "\\\"".toList
    else if c = ' ' && blank then "\\ ".toList
    else if Quoting.isPrintable c then [c]
    else Quoting.escaped c

/-- A name between quotes of the shell, whatever is in it. -/
def rawShell (name : Octets) : Octets :=
  '\'' :: name.flatMap (fun c => if c = '\'' then "'\\''".toList else [c]) ++ ['\'']

def Style.name
    (style : Style)
    (name : Octets) :
    Octets :=
  let shown (s : Octets) : Octets :=
    if style.plainMarks then s.map fun c => if Quoting.isPrintable c then c else '?' else s
  match style.names with
  | .literal => shown name
  | .shell => shown (if Quoting.isPlain name then name else rawShell name)
  | .shellAlways => shown (rawShell name)
  | .shellEscape => Quoting.shell name
  | .shellEscapeAlways => Quoting.shellAlways name
  | .doubleQuotes => '"' :: escapedName false true name ++ ['"']
  | .escapes => escapedName true false name

/-- The sign behind a name. -/
def Style.sign
    (style : Style)
    (s : FileStatus) :
    Octets :=
  let kindSign : Octets := match s.kind with
    | .directory => ['/']
    | .link => ['@']
    | .pipe => ['|']
    | _ => []
  match style.signs with
  | .nothing => []
  | .directories => if s.kind = .directory then ['/'] else []
  | .kinds => kindSign
  | .all => if s.kind = .file && s.mode &&& 0o111 ≠ 0 then ['*'] else kindSign

/-! ## Order -/

/-- The ending of a name, from the last point on. -/
def endingOf (name : Octets) : Octets :=
  let tail := name.reverse.takeWhile (· ≠ '.')
  if tail.length < name.length then '.' :: tail.reverse else []

/-- The order of two numbers, the greater one first. -/
def greaterFirst (a b : Nat) : Ordering :=
  compareOfLessAndEq b a

/-- The order of two entries. -/
def Style.compare
    (style : Style)
    (a b : Entry) :
    Ordering :=
  let byName := Octets.compare a.name b.name
  let main : Ordering := match style.sortKey with
    | .nothing => .eq
    | .name => byName
    | .time => byName
    | .size => (greaterFirst a.status.size b.status.size).then byName
    | .ending => (Octets.compare (endingOf a.name) (endingOf b.name)).then byName
    | .version => (VersionOrder.compare a.name b.name).then byName
    | .width => (greaterFirst b.name.length a.name.length).then byName
  if style.backwards then main.swap else main

def Entry.leadsToDirectory (e : Entry) : Bool :=
  match e.target with
  | some (_, some s) => s.kind = .directory
  | _ => e.status.kind = .directory

def Style.sorted
    (style : Style)
    (entries : List Entry) :
    List Entry :=
  let all :=
    if style.sortKey = .nothing then entries
    else entries.mergeSort fun a b => style.compare a b != .gt
  if style.directoriesFirst then
    all.filter Entry.leadsToDirectory ++ all.filter fun e => !e.leadsToDirectory
  else all

/-! ## Sizes -/

/-- How many blocks of a thousand bytes a file takes. -/
def blocksOf (s : FileStatus) : Nat :=
  match s.kind with
  | .file => (s.size + 4095) / 4096 * 4
  | .directory => 4
  | _ => 0

/-- A size with a letter for thousands, rounded up. -/
def humanSize : Nat → Nat → List Char → Octets
  | 0, n, _ => Octets.ofNat n
  | fuel + 1, n, letters =>
      match letters with
      | [] => Octets.ofNat n
      | letter :: rest =>
          if n < 1024 then Octets.ofNat n
          else if n < 10 * 1024 then
            let tenths := (n * 10 + 1023) / 1024
            if tenths < 100 then
              Octets.ofNat (tenths / 10) ++ '.' :: Octets.ofNat (tenths % 10) ++ [letter]
            else "10".toList ++ [letter]
          else
            let whole := (n + 1023) / 1024
            if whole < 1024 then Octets.ofNat whole ++ [letter]
            else if whole = 1024 && n ≤ 1024 * 1024 then
              match rest with
              | next :: _ => "1.0".toList ++ [next]
              | [] => Octets.ofNat whole ++ [letter]
            else humanSize fuel ((n + 1023) / 1024) rest

def Style.size
    (style : Style)
    (n : Nat) :
    Octets :=
  if style.human then humanSize 10 n "KMGTPE".toList else Octets.ofNat n

/-- A number of blocks as it is shown. -/
def Style.blockCount
    (style : Style)
    (n : Nat) :
    Octets :=
  if style.human then humanSize 10 (n * 1024) "KMGTPE".toList else Octets.ofNat n

/-! ## Layouts -/

/-- Blanks and tabs from one column to another. -/
def indent
    (tab : Nat) :
    Nat → Nat → Nat → Octets
  | 0, _, _ => []
  | fuel + 1, place, target =>
      if target ≤ place then []
      else if tab ≠ 0 && (place + 1) / tab < target / tab then
        '\t' :: indent tab fuel (place + tab - place % tab) target
      else ' ' :: indent tab fuel (place + 1) target

/-- The widths of columns, if the lines are short enough with so many of them. -/
def columnWidths?
    (down : Bool)
    (limit count : Nat)
    (lengths : List Nat) :
    Option (List Nat) :=
  let rows := (lengths.length + count - 1) / count
  let indexed := lengths.zipIdx
  let widths := (List.range count).map fun column =>
    let inColumn := indexed.filter fun e =>
      (if down then e.2 / rows else e.2 % count) = column
    (inColumn.map fun e => e.1 + (if column = count - 1 then 0 else 2)).foldl max 3
  if widths.foldl (· + ·) 0 < limit then some widths else none

/-- The widths of as many columns as possible. -/
def bestWidths
    (down : Bool)
    (limit : Nat)
    (lengths : List Nat) :
    Nat → List Nat
  | 0 => [limit]
  | count + 1 =>
      match columnWidths? down limit (count + 1) lengths with
      | some widths => widths
      | none => bestWidths down limit lengths count

def layRow
    (tab : Nat) :
    Nat → List (Octets × Nat) → Octets
  | _, [] => []
  | _, [(text, _)] => text
  | start, (text, width) :: rest =>
      text ++ indent tab (width + 1) (start + text.length) (start + width)
        ++ layRow tab (start + width) rest

def layColumns
    (style : Style)
    (texts : List Octets) :
    List Octets :=
  let down := style.layout = .down
  let most := max 1 (min (style.width / 3) texts.length)
  let widths := bestWidths down style.width (texts.map List.length) most
  let count := widths.length
  let rows := (texts.length + count - 1) / count
  (List.range rows).map fun row =>
    let cells := (List.range count).filterMap fun column =>
      let index := if down then column * rows + row else row * count + column
      (texts[index]?).map fun text => (text, (widths[column]?).getD 0)
    layRow style.tab 0 cells

/-- Texts with commas between them. -/
def layCommas
    (width : Nat) :
    Nat → List Octets → Octets
  | _, [] => []
  | place, [text] =>
      if place ≠ 0 && width ≤ place + text.length then '\n' :: text else
      (if place = 0 then [] else [' ']) ++ text
  | place, text :: rest =>
      let newLine := place ≠ 0 && width ≤ place + text.length + 1
      let lead : Octets := if place = 0 then [] else if newLine then ['\n'] else [' ']
      let start := if place = 0 || newLine then 0 else place + 1
      lead ++ text ++ ',' :: layCommas width (start + text.length + 1) rest

/-! ## All that is known -/

def kindLetter : NodeKind → Char
  | .file => '-'
  | .directory => 'd'
  | .link => 'l'
  | .device => 'c'
  | .pipe => 'p'

/-- The fields in front of a name in the long layout, all but the date. -/
def longFields
    (style : Style)
    (e : Entry) :
    List (Octets × Bool) :=
  let who : Octets := if style.numbers then ['0'] else "root".toList
  (if style.ids then [("1".toList, true)] else [])
    ++ (if style.blocks then [(style.blockCount (blocksOf e.status), true)] else [])
    ++ [ (kindLetter e.status.kind :: Mode.text e.status.mode, false),
         (Octets.ofNat e.status.names, true) ]
    ++ (if style.owner then [(who, false)] else [])
    ++ (if style.group then [(who, false)] else [])
    ++ [(if e.status.kind = .device then "1, 3".toList else style.size e.status.size, true)]

/-- Fields filled up to the widths of their columns. -/
def alignFields
    (rows : List (List (Octets × Bool))) :
    List Octets :=
  let count := (rows.map List.length).foldl max 0
  let widths := (List.range count).map fun i =>
    (rows.map fun row => ((row[i]?).map fun f => f.1.length).getD 0).foldl max 0
  rows.map fun row =>
    Octets.intercalate [' '] ((row.zip widths).map fun p =>
      if p.1.2 then Octets.padLeft p.2 ' ' p.1.1 else Octets.padRight p.2 p.1.1)

def longName
    (style : Style)
    (e : Entry) :
    Octets :=
  match e.status.kind, e.target with
  | .link, some (target, status?) =>
      style.name e.name ++ " -> ".toList ++ style.name target
        ++ (match status? with
          | some s => if style.signs = .nothing then [] else style.sign s
          | none => [])
  | _, _ => style.name e.name ++ style.sign e.status

def writeLong
    (style : Style)
    (entries : List Entry) :
    Work Unit := do
  let clock : Nat ← Work.ask .clock
  let date := Calendar.format (Moment.ofSeconds (clock / 1000000)) 0 style.dates
  let rows := alignFields (entries.map (longFields style))
  Work.forAll
    (fun p => Work.say (p.1 ++ ' ' :: date ++ ' ' :: longName style p.2 ++ style.stop))
    (rows.zip entries)

def shortText
    (style : Style)
    (blockWidth : Nat)
    (e : Entry) :
    Octets :=
  (if style.ids then "1 ".toList else [])
    ++ (if style.blocks then
          Octets.padLeft blockWidth ' ' (style.blockCount (blocksOf e.status)) ++ [' ']
        else [])
    ++ style.name e.name ++ style.sign e.status

def write
    (style : Style)
    (entries : List Entry) :
    Work Unit := do
  if entries.isEmpty then return
  let blockWidth := (entries.map fun e => (style.blockCount (blocksOf e.status)).length).foldl max 0
  let narrow := if style.layout = .commas then 0 else blockWidth
  let texts := entries.map (shortText style narrow)
  match style.layout with
  | .single => Work.forAll (fun text => Work.say (text ++ style.stop)) texts
  | .long => writeLong style entries
  | .commas => Work.say (layCommas style.width 0 texts ++ style.stop)
  | _ => Work.forAll (fun text => Work.say (text ++ style.stop)) (layColumns style texts)

/-! ## Going through directories -/

/-- Complains about a path; a fault that concerns a named file is worse. -/
def complainAt
    (status : Nat)
    (words : String)
    (path : Octets)
    (e : FileFault) :
    Work Unit := do
  Work.warn (words.toList ++ ' ' :: Quoting.shellAlways path ++ ": ".toList ++ e.reason.toList)
  Work.setStatus (max status (← get).status)

def look
    (style : Style)
    (named : Bool)
    (name path : Octets) :
    Work (Except FileFault Entry) := do
  let own ← Work.ask (.status path false)
  let behind ← Work.ask (.status path true)
  let toDirectory : Bool := match behind with
    | .ok s => s.kind = .directory
    | .error _ => false
  let follows := match style.links with
    | .all => true
    | .named => named
    | .toDirectories => named && toDirectory
    | .nothing => false
  let status : Except FileFault FileStatus :=
    match own with
    | .error e => .error e
    | .ok s =>
        if follows then
          match behind with
          | .ok t => .ok t
          | .error e => if named && style.links = .named then .ok s else .error e
        else .ok s
  match status with
  | .error e => return .error e
  | .ok s =>
      if s.kind = .link then
        match ← Work.ask (.targetOf path) with
        | .ok target => return .ok ⟨name, path, s, some (target, behind.toOption)⟩
        | .error _ => return .ok ⟨name, path, s, none⟩
      else return .ok ⟨name, path, s, none⟩

def Style.shows
    (style : Style)
    (name : Octets) :
    Bool :=
  let isPoint := name.head? = some '.'
  let byPoint := match style.hidden with
    | .nothing => !isPoint
    | _ => true
  byPoint && !(style.ignored.any fun p => Glob.isNameMatch p name)
    && (style.hidden ≠ .nothing || !(style.hiddenOnes.any fun p => Glob.isNameMatch p name))

/-- Lists a directory, and those below it if asked. `first` tells whether nothing was written yet. -/
def listDirectory
    (style : Style)
    (headed : Bool) :
    Nat → Bool → Octets → Work Bool
  | 0, first, _ => return first
  | depth + 1, first, path => do
      match ← Work.ask (.list path) with
      | .error e => do
          complainAt 2 "cannot open directory" path e
          return first
      | .ok names => do
          if !first then Work.say ['\n']
          if headed then Work.say (style.name path ++ ":\n".toList)
          let dots : List Octets := if style.hidden = .all then [['.'], ['.', '.']] else []
          let looked ← Work.foldAll
            (fun (done : List Entry) name => do
              let inner := PathText.join path name
              match ← look style false name inner with
              | .ok e => return e :: done
              | .error e => do
                  complainAt 1 "cannot access" (if path = ['.'] then name else inner) e
                  match ← look { style with links := .nothing } false name inner with
                  | .ok entry => return entry :: done
                  | .error _ => return done)
            [] ((dots ++ names).filter style.shows)
          let entries := style.sorted looked.reverse
          if style.layout = .long || style.blocks then
            let total := (entries.map fun e => blocksOf e.status).foldl (· + ·) 0
            Work.say ("total ".toList ++ style.blockCount total ++ ['\n'])
          write style entries
          if style.deep then
            let inner := entries.filter fun e =>
              e.status.kind = .directory && e.name ≠ ['.'] && e.name ≠ ['.', '.']
            Work.foldAll (fun first (e : Entry) => listDirectory style headed depth first e.path)
              false inner
          else return false

/-! ## Options -/

/-- The options of the tool that lists directories. -/
def forms : List OptionForm :=
  flags "cCfgGklmnopqtuUvxX1QNbrsSFLdHiADZ" ++
    [ flag "a" ["all"], flag "almost" ["almost-all"], flag "author" ["author"],
      flag "escape" ["escape"], valued "blockSize" ["block-size"], flag "B" ["ignore-backups"],
      ⟨"color", ["color"], .maybe⟩, flag "directory" ["directory"],
      ⟨"classify", ["classify"], .maybe⟩, flag "fileType" ["file-type"],
      valued "format" ["format"], flag "fullTime" ["full-time"],
      flag "group1" ["group-directories-first"], flag "noGroup" ["no-group"],
      flag "h" ["human-readable", "si"], flag "deref" ["dereference-command-line"],
      flag "derefDir" ["dereference-command-line-symlink-to-dir"], valued "hide" ["hide"],
      ⟨"hyperlink", ["hyperlink"], .maybe⟩, valued "indicator" ["indicator-style"],
      flag "inode" ["inode"], valued "I" ["ignore"], flag "kib" ["kibibytes"],
      flag "derefAll" ["dereference"], flag "numeric" ["numeric-uid-gid"],
      flag "literal" ["literal"], flag "hideControl" ["hide-control-chars"],
      flag "show" ["show-control-chars"], flag "quoteName" ["quote-name"],
      valued "quoting" ["quoting-style"], flag "reverse" ["reverse"], flag "R" ["recursive"],
      flag "sizeBlocks" ["size"], valued "sort" ["sort"], valued "time" ["time"],
      valued "timeStyle" ["time-style"], valued "T" ["tabsize"], valued "w" ["width"],
      flag "zero" ["zero"] ]

/-- The layout that options ask for; the long one needs no other words. -/
def layoutOf (a : Arguments) : Work Layout := do
  let keys := ["1", "l", "m", "C", "x", "g", "o", "n", "numeric", "format", "fullTime", "zero"]
  Work.foldAll
    (fun (layout : Layout) (g : Given) => do
      match g.key with
      | "1" => return if layout = .long then .long else .single
      | "zero" => return if layout = .long then .long else .single
      | "m" => return .commas
      | "C" => return .down
      | "x" => return .across
      | "format" => do
          let word ← Work.choice "--format"
            [ ["verbose", "long"], ["commas"], ["horizontal", "across"], ["vertical"],
              ["single-column"] ] g.value
          return match word with
            | "verbose" => .long
            | "commas" => .commas
            | "horizontal" => .across
            | "vertical" => .down
            | _ => .single
      | _ => return .long)
    .single (a.options.filter fun g => keys.contains g.key)

/-- The order that options ask for. -/
def sortKeyOf (a : Arguments) : Work SortKey := do
  match a.last? ["S", "t", "X", "v", "U", "f", "sort"] with
  | some "S" => return .size
  | some "t" => return .time
  | some "X" => return .ending
  | some "v" => return .version
  | some "U" => return .nothing
  | some "f" => return .nothing
  | some _ =>
      match ← Work.choice "--sort"
          [ ["none"], ["time"], ["size"], ["extension"], ["version"], ["width"] ]
          ((a.value? "sort").getD []) with
      | "none" => return .nothing
      | "time" => return .time
      | "size" => return .size
      | "extension" => return .ending
      | "version" => return .version
      | _ => return .width
  | none => return .name

/-- The signs that options ask for. -/
def signsOf (a : Arguments) : Work Signs := do
  match a.last? ["F", "p", "classify", "fileType", "indicator"] with
  | some "p" => return .directories
  | some "fileType" => return .kinds
  | some "indicator" =>
      match ← Work.choice "--indicator-style" [["none"], ["slash"], ["file-type"], ["classify"]]
          ((a.value? "indicator").getD []) with
      | "none" => return .nothing
      | "slash" => return .directories
      | "file-type" => return .kinds
      | _ => return .all
  | some "classify" =>
      let word := (a.value? "classify").getD []
      return if word = "never".toList || word = "auto".toList then .nothing else .all
  | some _ => return .all
  | none => return .nothing

/-- How options ask names to be quoted. -/
def nameStyleOf (a : Arguments) : Work NameStyle := do
  match a.last? ["Q", "quoteName", "b", "escape", "N", "literal", "quoting"] with
  | some "Q" => return .doubleQuotes
  | some "quoteName" => return .doubleQuotes
  | some "b" => return .escapes
  | some "escape" => return .escapes
  | some "quoting" =>
      match ← Work.choice "--quoting-style"
          [ ["literal"], ["shell"], ["shell-always"], ["shell-escape"], ["shell-escape-always"],
            ["c"], ["c-maybe"], ["escape"], ["locale"], ["clocale"] ]
          ((a.value? "quoting").getD []) with
      | "literal" => return .literal
      | "shell" => return .shell
      | "shell-always" => return .shellAlways
      | "shell-escape" => return .shellEscape
      | "shell-escape-always" => return .shellEscapeAlways
      | "escape" => return .escapes
      | _ => return .doubleQuotes
  | _ => return .literal

def datesOf (a : Arguments) : Octets :=
  if a.has "fullTime" then "%Y-%m-%d %H:%M:%S.%N %z".toList
  else
    match a.value? "timeStyle" with
    | some ('+' :: format) => format
    | some word =>
        if word = "full-iso".toList then "%Y-%m-%d %H:%M:%S.%N %z".toList
        else if word = "long-iso".toList then "%Y-%m-%d %H:%M".toList
        else if word = "iso".toList then "%m-%d %H:%M".toList
        else "%b %e %H:%M".toList
    | none => "%b %e %H:%M".toList

def styleOf
    (environment : Variables)
    (a : Arguments) :
    Work Style := do
  let layout ← layoutOf a
  let signs ← signsOf a
  let number (word : Option Octets) (standard : Nat) : Nat :=
    (word.bind fun w => (String.ofList w).toNat?).getD standard
  let hidden : Hidden := match a.last? ["a", "f", "A", "almost"] with
    | some "a" => .all
    | some "f" => .all
    | some _ => .almostAll
    | none => .nothing
  let justNames := a.has "d" || a.has "directory"
  let links : Links := match a.last? ["L", "derefAll", "H", "deref", "derefDir"] with
    | some "L" => .all
    | some "derefAll" => .all
    | some "derefDir" => .toDirectories
    | some _ => .named
    | none =>
        if justNames || signs = .all || layout = .long then .nothing else .toDirectories
  let columns := number (environment.lookup "COLUMNS".toList) 80
  return {
    layout := layout
    sortKey := ← sortKeyOf a
    signs := signs
    hidden := hidden
    links := links
    names := ← nameStyleOf a
    plainMarks := a.last? ["q", "hideControl", "show"] != some "show"
      && (a.has "q" || a.has "hideControl")
    backwards := a.has "r" || a.has "reverse"
    deep := a.has "R" && !justNames
    directoriesFirst := a.has "group1"
    numbers := a.has "n" || a.has "numeric"
    owner := !a.has "g"
    group := !(a.has "o" || a.has "G" || a.has "noGroup")
    human := a.has "h"
    blocks := a.has "s" || a.has "sizeBlocks"
    ids := a.has "i" || a.has "inode"
    width := let w := number (a.value? "w") columns; if w = 0 then Nat.pow 10 9 else w
    tab := number (a.value? "T") 8
    stop := if a.has "zero" then ['\x00'] else ['\n']
    dates := datesOf a
    ignored := (if a.has "B" then ["*~".toList, ".*~".toList] else []) ++ a.values "I"
    hiddenOnes := a.values "hide" }

/-- How deep directories are gone through. -/
def depth : Nat := 1000

end Listing

def ls : Tool :=
  fun _ start => Work.perform start.name 2 do
    let a ← Work.arguments Listing.forms 2 start.arguments
    let style ← Listing.styleOf start.environment a
    let justNames := a.has "d" || a.has "directory"
    let operands := if a.operands.isEmpty then [['.']] else a.operands
    let looked ← Work.foldAll
      (fun (done : List Listing.Entry) path => do
        match ← Listing.look style true path path with
        | .ok e => return e :: done
        | .error e => do
            Listing.complainAt 2 "cannot access" path e
            return done)
      [] operands
    let entries := style.sorted looked.reverse
    let isOpened (e : Listing.Entry) : Bool := !justNames && e.status.kind = .directory
    let files := entries.filter fun e => !isOpened e
    Listing.write style files
    let headed := style.deep || 1 < operands.length
    let _ ← Work.foldAll
      (fun first (e : Listing.Entry) =>
        Listing.listDirectory style headed Listing.depth first e.path)
      files.isEmpty (entries.filter isOpened)

end Tool
end Runbook
