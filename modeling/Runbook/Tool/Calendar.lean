import Runbook.Format.Field

/-!
# The calendar

Seconds since the first of January 1970 as dates, dates as seconds, and the ways to write them.
-/

namespace Runbook
namespace Tool

/-- A second of the calendar. Months and days count from one, the days of a week from Sunday, which is
zero. -/
structure Moment where
  year : Int
  month : Nat
  day : Nat
  hour : Nat
  minute : Nat
  second : Nat
  deriving DecidableEq, Repr, Inhabited

namespace Calendar

def daySeconds : Int := 86400

/-- The number of a day since the first of January 1970; months and days beyond their ranges count on. -/
def dayNumber (year month day : Int) : Int :=
  let y := year + (month - 1) / 12
  let m := (month - 1) % 12 + 1
  let shifted := if m ≤ 2 then y - 1 else y
  let era := shifted / 400
  let ofEra := shifted - era * 400
  let ofYear := (153 * (if 2 < m then m - 3 else m + 9) + 2) / 5
  era * 146097 + ofEra * 365 + ofEra / 4 - ofEra / 100 + ofYear + (day - 1) - 719468

/-- The year, the month and the day of a number. -/
def dateOf (number : Int) : Int × Nat × Nat :=
  let z := number + 719468
  let era := z / 146097
  let ofEra := z - era * 146097
  let years := (ofEra - ofEra / 1460 + ofEra / 36524 - ofEra / 146096) / 365
  let ofYear := ofEra - (365 * years + years / 4 - years / 100)
  let m := (5 * ofYear + 2) / 153
  let day := ofYear - (153 * m + 2) / 5 + 1
  let month := if m < 10 then m + 3 else m - 9
  (years + era * 400 + (if month ≤ 2 then 1 else 0), month.toNat, day.toNat)

end Calendar

namespace Moment

/-- The moment of a second since the first of January 1970. -/
def ofSeconds (seconds : Int) : Moment :=
  let (year, month, day) := Calendar.dateOf (seconds / Calendar.daySeconds)
  let s := (seconds % Calendar.daySeconds).toNat
  ⟨year, month, day, s / 3600, s / 60 % 60, s % 60⟩

def dayNumber (m : Moment) : Int :=
  Calendar.dayNumber m.year m.month m.day

/-- The seconds since the first of January 1970. -/
def seconds (m : Moment) : Int :=
  m.dayNumber * Calendar.daySeconds + m.hour * 3600 + m.minute * 60 + m.second

/-- The day of the week, where Sunday is zero. -/
def weekday (m : Moment) : Nat :=
  ((m.dayNumber + 4) % 7).toNat

/-- The day of the year, where the first one is zero. -/
def yearday (m : Moment) : Nat :=
  (m.dayNumber - Calendar.dayNumber m.year 1 1).toNat

end Moment

namespace Calendar

def dayNames : List String :=
  ["Sunday", "Monday", "Tuesday", "Wednesday", "Thursday", "Friday", "Saturday"]

def monthNames : List String :=
  [ "January", "February", "March", "April", "May", "June", "July", "August", "September",
    "October", "November", "December" ]

def dayName (weekday : Nat) : Octets :=
  ((dayNames[weekday]?).getD "").toList

def monthName (month : Nat) : Octets :=
  ((monthNames[month - 1]?).getD "").toList

/-- The number of a week that starts with a day of the week. -/
def weekFrom
    (m : Moment)
    (start : Nat) :
    Nat :=
  (m.yearday + 7 - (m.weekday + 7 - start) % 7) / 7

/-- The week of a moment and the year it belongs to, where weeks start with Monday and belong to the
year that has their Thursday. -/
def isoWeek (m : Moment) : Int × Nat :=
  let thursday := m.dayNumber + 3 - (((m.weekday + 6) % 7 : Nat) : Int)
  let (year, _, _) := dateOf thursday
  (year, ((thursday - dayNumber year 1 1) / 7 + 1).toNat)

/-- How a part of a date is filled up. -/
inductive Filling where
  | standard
  | nothing
  | blanks
  | zeros
  deriving DecidableEq, Repr, Inhabited

def number
    (filling : Filling)
    (width : Nat)
    (standard : Char)
    (n : Int) :
    Octets :=
  let digits := Octets.ofNat n.natAbs
  let sign : Octets := if n < 0 then ['-'] else []
  match filling with
  | .nothing => sign ++ digits
  | .blanks => Octets.padLeft width ' ' (sign ++ digits)
  | .zeros => sign ++ Octets.padLeft (width - sign.length) '0' digits
  | .standard =>
      if standard = '0' then sign ++ Octets.padLeft (width - sign.length) '0' digits
      else Octets.padLeft width standard (sign ++ digits)

def hourOfTwelve (hour : Nat) : Nat :=
  if hour % 12 = 0 then 12 else hour % 12

/-- What a letter stands for that is made of others. -/
def combined? : Char → Option String
  | 'c' => some "%a %b %e %H:%M:%S %Y"
  | 'D' => some "%m/%d/%y"
  | 'x' => some "%m/%d/%y"
  | 'F' => some "%Y-%m-%d"
  | 'r' => some "%I:%M:%S %p"
  | 'R' => some "%H:%M"
  | 'T' => some "%H:%M:%S"
  | 'X' => some "%H:%M:%S"
  | _ => none

/-- The part of a date that a letter stands for. -/
def part?
    (m : Moment)
    (nanoseconds : Nat)
    (filling : Filling)
    (letter : Char) :
    Option Octets :=
  let two (n : Nat) : Option Octets := some (number filling 2 '0' n)
  match letter with
  | 'a' => some ((dayName m.weekday).take 3)
  | 'A' => some (dayName m.weekday)
  | 'b' => some ((monthName m.month).take 3)
  | 'h' => some ((monthName m.month).take 3)
  | 'B' => some (monthName m.month)
  | 'C' => some (number filling 2 '0' (m.year / 100))
  | 'd' => two m.day
  | 'e' => some (number filling 2 ' ' m.day)
  | 'g' => some (number filling 2 '0' ((isoWeek m).1 % 100))
  | 'G' => some (number filling 4 '0' (isoWeek m).1)
  | 'H' => two m.hour
  | 'I' => two (hourOfTwelve m.hour)
  | 'j' => some (number filling 3 '0' (m.yearday + 1))
  | 'k' => some (number filling 2 ' ' m.hour)
  | 'l' => some (number filling 2 ' ' (hourOfTwelve m.hour))
  | 'm' => two m.month
  | 'M' => two m.minute
  | 'n' => some ['\n']
  | 'N' => some (number .zeros 9 '0' nanoseconds)
  | 'p' => some (if m.hour < 12 then "AM".toList else "PM".toList)
  | 'P' => some (if m.hour < 12 then "am".toList else "pm".toList)
  | 'q' => some (Octets.ofNat ((m.month + 2) / 3))
  | 's' => some (Octets.ofInt m.seconds)
  | 'S' => two m.second
  | 't' => some ['\t']
  | 'u' => some (Octets.ofNat (if m.weekday = 0 then 7 else m.weekday))
  | 'U' => two (weekFrom m 0)
  | 'V' => two (isoWeek m).2
  | 'w' => some (Octets.ofNat m.weekday)
  | 'W' => two (weekFrom m 1)
  | 'y' => some (number filling 2 '0' (m.year % 100))
  | 'Y' => some (number filling 4 '0' m.year)
  | 'z' => some "+0000".toList
  | 'Z' => some "UTC".toList
  | '%' => some ['%']
  | _ => none

/-- How letters are changed. -/
inductive Lettering where
  | asIs
  | capitals
  | opposite
  deriving DecidableEq, Repr, Inhabited

/-- The signs behind a percent sign that say how a part is filled up, and how its letters are changed. -/
def readSigns : Filling × Lettering → Octets → (Filling × Lettering) × Octets
  | f, '-' :: s => readSigns (.nothing, f.2) s
  | f, '_' :: s => readSigns (.blanks, f.2) s
  | f, '0' :: s => readSigns (.zeros, f.2) s
  | f, '+' :: s => readSigns (.zeros, f.2) s
  | f, '^' :: s => readSigns (f.1, .capitals) s
  | f, '#' :: s => readSigns (f.1, .opposite) s
  | f, s => (f, s)

/-- A part with its letters changed. -/
def lettered (l : Lettering) (letter : Char) (s : Octets) : Octets :=
  match l with
  | .asIs => s
  | .capitals => s.map Char.toUpper
  | .opposite => s.map (if letter = 'p' || letter = 'Z' then Char.toLower else Char.toUpper)

/-- What follows the letter for another calendar or other digits, which are not different here. -/
def withoutVariant (s : Octets) : Octets :=
  match s with
  | 'E' :: c :: rest => if "cCxXyY".toList.contains c then c :: rest else s
  | 'O' :: c :: rest => if "deHIklmMSuUVwWy".toList.contains c then c :: rest else s
  | _ => s

/-- Writes a moment. What is not understood stays as it is. -/
def write
    (m : Moment)
    (nanoseconds : Nat) :
    Nat → Octets → Octets
  | 0, s => s
  | _, [] => []
  | fuel + 1, '%' :: s =>
      let ((filling, change), behind) := readSigns (.standard, .asIs) s
      let widthDigits := behind.takeWhile Char.isDigit
      let rest := withoutVariant (behind.drop widthDigits.length)
      let zoneMarks := rest.takeWhile (· = ':')
      match rest.drop zoneMarks.length with
      | [] => ['%'] ++ s
      | letter :: after =>
          let width := ((String.ofList widthDigits).toNat?).getD 0
          let value? : Option Octets :=
            if !zoneMarks.isEmpty then
              if letter ≠ 'z' || 3 < zoneMarks.length then none
              else
                some (if zoneMarks.length = 1 then "+00:00".toList
                  else if zoneMarks.length = 2 then "+00:00:00".toList else "+00".toList)
            else if letter = 'N' && 0 < width then
              some ((number .zeros 9 '0' nanoseconds ++ List.replicate width '0').take width)
            else
              match combined? letter with
              | some text => some (write m nanoseconds fuel text.toList)
              | none => part? m nanoseconds filling letter
          match value? with
          | none =>
              '%' :: s.take (s.length - after.length) ++ write m nanoseconds fuel after
          | some value =>
              let shown := lettered change letter value
              let isNumber := !value.isEmpty && value.all Char.isDigit
              let filler := if isNumber && filling ≠ .blanks || filling = .zeros then '0' else ' '
              let room := if filling = .nothing then 0 else width
              Octets.padLeft room filler shown ++ write m nanoseconds fuel after
  | fuel + 1, c :: s => c :: write m nanoseconds fuel s

def format
    (m : Moment)
    (nanoseconds : Nat)
    (text : Octets) :
    Octets :=
  write m nanoseconds (text.length + 40) text

end Calendar
end Tool
end Runbook
