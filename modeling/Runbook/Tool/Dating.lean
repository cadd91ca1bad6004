import Runbook.Number.Reading
import Runbook.Text.Pieces
import Runbook.Tool.Calendar
import Runbook.Tool.Input
import Runbook.Tool.Target

/-!
# Dates

How dates are read, and the tool that shows them.
-/

namespace Runbook
namespace Tool
namespace Dating

/-!
## Reading dates

A date is written as a row of items: a day of a month, a time of a day, a zone, a day of the week, or a
distance from all that. What is not said is taken from the present, or is the start of the day.
-/

/-- What a distance is counted in. -/
inductive Span where
  | year
  | month
  | day
  | second
  deriving DecidableEq, Repr, Inhabited

/-- What a word means in a date: a month, a day of the week, a half of the day, a span of so many years,
months, days or seconds, a day so far from the present one, a number, a distance backwards, a zone that
is so many minutes ahead, or the sign between a date and a time. -/
inductive Word where
  | month (n : Nat)
  | weekday (n : Nat)
  | half (afternoon : Bool)
  | span (s : Span) (count : Int)
  | shift (days : Int)
  | ordinal (n : Int)
  | ago
  | zone (minutes : Int)
  | between
  deriving DecidableEq, Repr, Inhabited

/-- A part of a date: a number with its sign, how many digits it has and its billionths, a word, or a
sign. -/
inductive Token where
  | number (sign : Option Bool) (n digits : Nat) (billionths : Option Nat)
  | word (w : Word)
  | sign (c : Char)
  deriving DecidableEq, Repr, Inhabited

/-! ### Tokens -/

def spans : List (String × Span × Int) :=
  [ ("year", .year, 1), ("month", .month, 1), ("fortnight", .day, 14), ("week", .day, 7),
    ("day", .day, 1), ("hour", .second, 3600), ("minute", .second, 60), ("min", .second, 60),
    ("second", .second, 1), ("sec", .second, 1) ]

/-- Words for numbers. -/
def ordinals : List (String × Int) :=
  [ ("last", -1), ("this", 0), ("next", 1), ("first", 1), ("third", 3), ("fourth", 4), ("fifth", 5),
    ("sixth", 6), ("seventh", 7), ("eighth", 8), ("ninth", 9), ("tenth", 10), ("eleventh", 11),
    ("twelfth", 12) ]

/-- Words for zones, with how many hours they are ahead. -/
def zones : List (String × Int) :=
  [ ("gmt", 0), ("ut", 0), ("utc", 0), ("z", 0), ("wet", 0), ("west", 1), ("bst", 1), ("cet", 1),
    ("cest", 2), ("eet", 2), ("eest", 3), ("msk", 3), ("ist", 5), ("jst", 9), ("est", -5),
    ("edt", -4), ("cst", -6), ("cdt", -5), ("mst", -7), ("mdt", -6), ("pst", -8), ("pdt", -7) ]

/-- How many hours the zone of a letter is ahead. -/
def letterZone? (c : Char) : Option Int :=
  match "abcdefghiklm".toList.findIdx? (· = c), "nopqrsuvwxy".toList.findIdx? (· = c) with
  | some i, _ => some (i + 1)
  | none, some i => some (-((if i < 6 then i else i + 1 : Nat) + 1))
  | none, none => none

def others : List (String × Word) :=
  [ ("am", .half false), ("a.m.", .half false), ("pm", .half true), ("p.m.", .half true),
    ("today", .shift 0), ("now", .shift 0), ("tomorrow", .shift 1), ("yesterday", .shift (-1)),
    ("ago", .ago), ("t", .between), ("sept", .month 9), ("tues", .weekday 2), ("wednes", .weekday 3),
    ("thur", .weekday 4), ("thurs", .weekday 4) ]

/-- The place in a list of names where one is written in full or by its first three letters. -/
def placeOf? (names : List String) (word : Octets) : Option Nat :=
  names.findIdx? fun n =>
    let name := n.toList.map Char.toLower
    name = word || (word.length = 3 && name.take 3 = word)

/-- What a word in small letters means. -/
def wordOf? (word : Octets) : Option Word :=
  let text := String.ofList word
  let single := if word.getLast? = some 's' then String.ofList word.dropLast else text
  let bare := word.filter (· ≠ '.')
  match others.lookup text with
  | some w => some w
  | none =>
      match placeOf? Calendar.monthNames bare, placeOf? Calendar.dayNames bare with
      | some i, _ => some (.month (i + 1))
      | none, some i => some (.weekday i)
      | none, none =>
          match (spans.lookup text).orElse fun _ => spans.lookup single with
          | some (s, count) => some (.span s count)
          | none =>
              let zone? : Option Int := match zones.lookup (String.ofList bare), bare with
                | some hours, _ => some hours
                | none, [c] => letterZone? c
                | none, _ => none
              match ordinals.lookup text, zone? with
              | some n, _ => some (.ordinal n)
              | none, some hours => some (.zone (60 * hours))
              | none, none => none

/-- Billionths from the digits behind a point. -/
def billionthsOf (digits : Octets) : Nat :=
  ((digits ++ List.replicate 9 '0').take 9).foldl (fun n c => 10 * n + (c.toNat - 48)) 0

/-- The token for a number that begins at a digit, and what follows it. -/
def numberToken (sign : Option Bool) (s : Octets) : Token × Octets :=
  let digits := s.takeWhile isDigit
  let n := (digitsIn? 10 digits).getD 0
  match s.drop digits.length with
  | mark :: rest =>
      let fraction := rest.takeWhile isDigit
      if (mark = '.' || mark = ',') && !fraction.isEmpty then
        (.number sign n digits.length (some (billionthsOf fraction)), rest.drop fraction.length)
      else (.number sign n digits.length none, mark :: rest)
  | [] => (.number sign n digits.length none, [])

/-- What follows the end of a remark in parentheses, where so many are open. -/
def behindRemark : Nat → Octets → Octets
  | _, [] => []
  | depth, '(' :: s => behindRemark (depth + 1) s
  | depth, ')' :: s => if depth ≤ 1 then s else behindRemark (depth - 1) s
  | depth, _ :: s => behindRemark depth s

/-- Whether a character stands between items. -/
def isGap (c : Char) : Bool :=
  c = ' ' || ('\t' ≤ c && c ≤ '\r')

/-- Cuts a text into tokens, unless it has a word without a meaning. -/
def tokensOf : Nat → Octets → Option (List Token)
  | 0, _ => some []
  | _, [] => some []
  | fuel + 1, c :: s =>
      if isGap c then tokensOf fuel s
      else if isDigit c then
        let (t, rest) := numberToken none (c :: s)
        (tokensOf fuel rest).map (t :: ·)
      else if c = '-' || c = '+' then
        let rest := s.dropWhile isGap
        if rest.head?.any isDigit then
          let (t, behind) := numberToken (some (c = '-')) rest
          (tokensOf fuel behind).map (t :: ·)
        else tokensOf fuel rest
      else if c.isAlpha then
        let word := (c :: s).takeWhile fun d => d.isAlpha || d = '.'
        match wordOf? (word.map Char.toLower) with
        | none => none
        | some w => (tokensOf fuel (s.drop (word.length - 1))).map (.word w :: ·)
      else if c = '(' then tokensOf fuel (behindRemark 1 s)
      else (tokensOf fuel s).map (.sign c :: ·)

/-! ### Items -/

/-- What was read of a date so far: the parts of the day and the time, the zone, the day of the week with
its number, the distance, how many items of each kind there were, and how many digits the year has. -/
structure Draft where
  year : Int
  yearDigits : Nat
  month : Nat
  day : Nat
  hour : Nat
  minute : Nat
  second : Nat
  billionths : Nat
  half : Option Bool
  zone : Int
  weekday : Nat
  ordinal : Int
  years : Int
  months : Int
  days : Int
  seconds : Int
  instant : Option (Int × Nat)
  dates : Nat
  times : Nat
  zones : Nat
  weekdays : Nat
  distances : Nat
  deriving DecidableEq, Repr, Inhabited

/-- The draft of which only the present moment is known. -/
def Draft.of (m : Moment) (billionths : Nat) : Draft :=
  ⟨m.year, 0, m.month, m.day, m.hour, m.minute, m.second, billionths, none, 0, 0, 0, 0, 0, 0, 0, none,
    0, 0, 0, 0, 0⟩

namespace Draft

def withDate (d : Draft) (year : Int) (digits month day : Nat) : Draft :=
  { d with year := year, yearDigits := digits, month := month, day := day, dates := d.dates + 1 }

/-- With a date in the year that is known. -/
def withDay (d : Draft) (month day : Nat) : Draft :=
  { d with month := month, day := day, dates := d.dates + 1 }

def withTime
    (d : Draft)
    (hour minute second billionths : Nat)
    (half : Option Bool) :
    Draft :=
  { d with
    hour := hour
    minute := minute
    second := second
    billionths := billionths
    half := half
    times := d.times + 1 }

def withZone (d : Draft) (minutes : Int) : Draft :=
  { d with zone := minutes, zones := d.zones + 1 }

/-- With a day of the week. -/
def withWeekday (d : Draft) (ordinal : Int) (weekday : Nat) : Draft :=
  { d with ordinal := ordinal, weekday := weekday, weekdays := d.weekdays + 1 }

def farther (d : Draft) (s : Span) (count : Int) : Draft :=
  let e := { d with distances := d.distances + 1 }
  match s with
  | .year => { e with years := e.years + count }
  | .month => { e with months := e.months + count }
  | .day => { e with days := e.days + count }
  | .second => { e with seconds := e.seconds + count }

end Draft

/-- The minutes of a zone that is written as a number of hours, or of hours and minutes. -/
def zoneMinutes (negative : Bool) (n digits : Nat) (minutes : Option Nat) : Int :=
  let all : Nat := match minutes with
    | some m => 60 * n + m
    | none => if digits ≤ 2 then 60 * n else 60 * (n / 100) + n % 100
  if negative then -(all : Int) else all

/-- Reads the zone that may follow a time. -/
def zoneBehind (d : Draft) : List Token → Draft × List Token
  | .number (some negative) n digits none :: .sign ':' :: .number none m _ none :: rest =>
      (d.withZone (zoneMinutes negative n digits (some m)), rest)
  | .number (some negative) n digits none :: rest =>
      (d.withZone (zoneMinutes negative n digits none), rest)
  | rest => (d, rest)

/-- A distance, which is counted backwards if that is said behind it. -/
def distance (d : Draft) (s : Span) (count : Int) : List Token → Draft × List Token
  | .word .ago :: rest => (d.farther s (-count), rest)
  | rest => (d.farther s count, rest)

def signed (sign : Option Bool) (n : Nat) : Int :=
  if sign = some true then -(n : Int) else n

/-- A number that stands alone: a year, a day as eight digits, or a time. -/
def loneNumber (d : Draft) (n digits : Nat) : Draft :=
  if d.dates ≠ 0 && d.yearDigits = 0 && d.distances = 0 && (d.times ≠ 0 || 2 < digits) then
    { d with year := n, yearDigits := digits }
  else if 4 < digits then d.withDate (n / 10000 : Nat) (digits - 4) (n / 100 % 100) (n % 100)
  else if digits ≤ 2 then d.withTime n 0 0 0 none
  else d.withTime (n / 100) (n % 100) 0 0 none

def readItem (d : Draft) (tokens : List Token) : Option (Draft × List Token) :=
  match tokens with
  | .number none h _ none :: .sign ':' :: .number none m _ none :: .sign ':' ::
      .number none s _ fraction :: rest =>
      let part := fraction.getD 0
      match rest with
      | .word (.half b) :: more => some (d.withTime h m s part (some b), more)
      | _ => some (zoneBehind (d.withTime h m s part none) rest)
  | .number none h _ none :: .sign ':' :: .number none m _ none :: rest =>
      match rest with
      | .word (.half b) :: more => some (d.withTime h m 0 0 (some b), more)
      | _ => some (zoneBehind (d.withTime h m 0 0 none) rest)
  | .number none h _ none :: .word (.half b) :: rest => some (d.withTime h 0 0 0 (some b), rest)
  | .number none a digits none :: .sign '/' :: .number none b _ none :: .sign '/' ::
      .number none c more none :: rest =>
      if 4 ≤ digits then some (d.withDate a digits b c, rest)
      else some (d.withDate c more a b, rest)
  | .number none a _ none :: .sign '/' :: .number none b _ none :: rest =>
      some (d.withDay a b, rest)
  | .number none y digits none :: .number (some true) m _ none :: .number (some true) day _ none ::
      rest =>
      match rest with
      | .word .between :: more => some (d.withDate y digits m day, more)
      | _ => some (d.withDate y digits m day, rest)
  | .number none day _ none :: .word (.month m) :: .number (some true) y digits none :: rest =>
      some (d.withDate y digits m day, rest)
  | .number none day _ none :: .word (.month m) :: .number none y digits none :: rest =>
      match rest with
      | .sign ':' :: _ => some (d.withDay m day, .number none y digits none :: rest)
      | .word (.half _) :: _ => some (d.withDay m day, .number none y digits none :: rest)
      | .word (.span _ _) :: _ => some (d.withDay m day, .number none y digits none :: rest)
      | _ => some (d.withDate y digits m day, rest)
  | .number none day _ none :: .word (.month m) :: rest => some (d.withDay m day, rest)
  | .word (.month m) :: .number none day _ none :: .sign ',' :: .number none y digits none :: rest =>
      some (d.withDate y digits m day, rest)
  | .word (.month m) :: .number none day _ none :: rest => some (d.withDay m day, rest)
  | .number sign n _ none :: .word (.span s count) :: rest =>
      some (distance d s (signed sign n * count) rest)
  | .number none n _ none :: .word (.weekday w) :: rest => some (d.withWeekday n w, rest)
  | .word (.ordinal n) :: .word (.span s count) :: rest => some (distance d s (n * count) rest)
  | .word (.ordinal n) :: .word (.weekday w) :: rest => some (d.withWeekday n w, rest)
  | .word (.span s count) :: rest => some (distance d s count rest)
  | .word (.weekday w) :: .sign ',' :: rest => some (d.withWeekday 0 w, rest)
  | .word (.weekday w) :: rest => some (d.withWeekday 0 w, rest)
  | .word (.shift n) :: rest => some (d.farther .day n, rest)
  | .word (.zone minutes) :: .number (some negative) n digits none :: rest =>
      match rest with
      | .word (.span _ _) :: _ =>
          some (d.withZone minutes, .number (some negative) n digits none :: rest)
      | _ => some (d.withZone (minutes + zoneMinutes negative n digits none), rest)
  | .word (.zone minutes) :: rest => some (d.withZone minutes, rest)
  | .word .between :: rest => if d.dates = 0 then none else some (d, rest)
  | .number none n digits none :: rest => some (loneNumber d n digits, rest)
  | _ => none

def readItems : Nat → Draft → List Token → Option Draft
  | _, d, [] => some d
  | 0, _, _ => none
  | fuel + 1, d, tokens => do
      let (next, rest) ← readItem d tokens
      readItems fuel next rest

/-! ### Moments -/

def hourOf? (hour : Nat) (half : Option Bool) : Option Nat :=
  match half with
  | none => if hour < 24 then some hour else none
  | some afternoon =>
      if 1 ≤ hour && hour ≤ 12 then some (hour % 12 + if afternoon then 12 else 0) else none

def yearOf (year : Int) (digits : Nat) : Int :=
  if digits = 2 then if 69 ≤ year then 1900 + year else 2000 + year else year

/-- The seconds and billionths of a draft, if it is a moment. -/
def momentOf? (d : Draft) : Option (Int × Nat) := do
  if 1 < d.dates || 1 < d.times || 1 < d.zones || 1 < d.weekdays then none
  let isFree := d.times ≠ 0 || (d.distances ≠ 0 && d.dates = 0 && d.weekdays = 0)
  let hour ← if isFree then hourOf? d.hour d.half else some 0
  let minute := if isFree then d.minute else 0
  let second := if isFree then d.second else 0
  let part := if isFree then d.billionths else 0
  let year := yearOf d.year d.yearDigits
  let start := Calendar.dayNumber year d.month d.day
  if Calendar.dateOf start ≠ (year, d.month, d.day) || 60 ≤ minute || 60 ≤ second then none
  let weekday := (start + 4) % 7
  let ahead := if d.weekdays ≠ 0 && d.dates = 0 then
      ((d.weekday : Int) - weekday + 7) % 7
        + 7 * (d.ordinal - (if 0 < d.ordinal && weekday ≠ d.weekday then 1 else 0))
    else 0
  let last := Calendar.dayNumber (year + d.years) (d.month + d.months) 1 + d.day - 1 + d.days + ahead
  let time := last * Calendar.daySeconds + 3600 * hour + 60 * minute + second
  return (time - 60 * d.zone + d.seconds, part)

/-- The text without the name of a zone in front of it, which does not matter here. -/
def withoutZoneName (s : Octets) : Octets :=
  let t := s.dropWhile isGap
  match Text.dropPrefix? "TZ=\"".toList t with
  | some rest => (rest.dropWhile (· ≠ '"')).drop 1
  | none => t

/-- The seconds since the first of January 1970, and billionths, that a text stands for in the present. -/
def read? (now : Moment) (billionths : Nat) (text : Octets) : Option (Int × Nat) := do
  let s := withoutZoneName text
  match s with
  | '@' :: rest =>
      let (sign, digits) : Option Bool × Octets := match rest.dropWhile isGap with
        | '-' :: t => (some true, t.dropWhile isGap)
        | '+' :: t => (some false, t.dropWhile isGap)
        | t => (none, t)
      if !digits.head?.any isDigit then none
      match numberToken sign digits with
      | (.number _ n _ fraction, behind) =>
          if !(behind.dropWhile isGap).isEmpty then none
          let part := fraction.getD 0
          if sign = some true && part ≠ 0 then return (-(n : Int) - 1, 1000000000 - part)
          else return (signed sign n, part)
      | _ => none
  | _ =>
      let tokens ← tokensOf (s.length + 1) s
      let d ← readItems (tokens.length + 1) (Draft.of now billionths) tokens
      momentOf? d

/-!
## Showing dates

The tool that shows the present moment, or another one, in a format.
-/

def forms : List OptionForm :=
  [ valued "d" ["date"], flag "debug" ["debug"], valued "f" ["file"],
    ⟨"I", ["iso-8601"], .maybe⟩, flag "resolution" ["resolution"],
    flag "R" ["rfc-email", "rfc-822", "rfc-2822"], valued "rfc-3339" ["rfc-3339"],
    valued "r" ["reference"], valued "s" ["set"], flag "u" ["utc", "universal", "uct"] ]

/-- The format that is used unless another one is asked for. -/
def standardFormat : String :=
  "%a %b %e %H:%M:%S %Z %Y"

def partFormat (between : String) (mark : String) (part : String) : String :=
  match part with
  | "hours" => "%Y-%m-%d" ++ between ++ "%H%:z"
  | "minutes" => "%Y-%m-%d" ++ between ++ "%H:%M%:z"
  | "seconds" => "%Y-%m-%d" ++ between ++ "%H:%M:%S%:z"
  | "ns" => "%Y-%m-%d" ++ between ++ "%H:%M:%S" ++ mark ++ "%N%:z"
  | _ => "%Y-%m-%d"

def formatOf? (g : Given) : Work (Option Octets) := do
  match g.key with
  | "R" => return some "%a, %d %b %Y %H:%M:%S %z".toList
  | "I" =>
      if g.value.isEmpty then return some (partFormat "T" "," "date").toList
      else
        let part ← Work.choice "--iso-8601"
          [["hours"], ["minutes"], ["date"], ["seconds"], ["ns"]] g.value
        return some (partFormat "T" "," part).toList
  | "rfc-3339" =>
      let part ← Work.choice "--rfc-3339" [["date"], ["seconds"], ["ns"]] g.value
      return some (partFormat " " "." part).toList
  | _ => return none

def onlyFormat (options : List Given) (operand : Option Octets) : Work Octets := do
  let found ← Work.foldAll
    (fun (before : Option Octets) g => do
      match ← formatOf? g with
      | none => return before
      | some f => do
          if before.isSome then Work.fail 1 "multiple output formats specified".toList
          return some f)
    none options
  match found, operand with
  | some _, some _ => Work.fail 1 "multiple output formats specified".toList
  | some f, none => return f
  | none, some f => return f
  | none, none => return standardFormat.toList

def show_ (format : Octets) (time : Int × Nat) : Work Unit :=
  Work.sayLine (Calendar.format (Moment.ofSeconds time.1) time.2 format)

/-- Shows the moment that a text stands for. -/
def showText (clock : Nat) (format text : Octets) : Work Unit := do
  match read? (Moment.ofSeconds (clock / 1000000)) (clock % 1000000 * 1000) text with
  | some time => show_ format time
  | none => Work.complain ("invalid date ".toList ++ Quoting.plain text)

def tool : Tool :=
  simple 1 fun words => do
    let a ← Work.arguments forms 1 words
    let clock : Nat ← Work.ask .clock
    let sources := ["d", "f", "r"].filter a.has
    if 1 < sources.length then
      Work.misuse 1 "the options to specify dates for printing are mutually exclusive".toList
    let operand : Option Octets ← match a.operands with
      | [] => pure none
      | _ :: extra :: _ => Work.extraOperand 1 extra
      | ['+' :: format] => pure (some format)
      | [word] =>
          if !sources.isEmpty then
            Work.misuse 1 ("the argument ".toList ++ Quoting.plain word
              ++ (" lacks a leading '+';\nwhen using an option to specify date(s), any non-option\n"
                ++ "argument must be a format string beginning with '+'").toList)
          else Work.fail 1 ("invalid date ".toList ++ Quoting.plain word)
    let format ← onlyFormat a.options operand
    match a.value? "d", a.value? "f", a.value? "r", a.value? "s" with
    | some text, _, _, _ => showText clock format text
    | none, some file, _, _ => do
        match ← Work.readWhole file with
        | .error e => Work.fail 1 (file ++ ": ".toList ++ e.reason.toList)
        | .ok data => Work.forAll (showText clock format) (Octets.lines data)
    | none, none, some file, _ => do
        match ← Work.ask (.status file true) with
        | .error e => Work.fail 1 (file ++ ": ".toList ++ e.reason.toList)
        | .ok _ => show_ format (clock / 1000000, 0)
    | none, none, none, some text => showText clock format text
    | none, none, none, none => show_ format (clock / 1000000, clock % 1000000 * 1000)

end Dating
end Tool
end Runbook
