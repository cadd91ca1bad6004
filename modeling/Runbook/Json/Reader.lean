import Runbook.Json.Basic
import Runbook.Number.Reading

/-!
# Reading JSON

A value is read from the front of a text, and what is left is returned with it. A text is a document
when nothing but blanks follows its value. Values may be nested at most 127 deep.

Numbers without fraction and exponent that fit 64 bits stay integers. Any other number is read as a
mantissa of at most 64 bits and a power of ten, multiplied or divided in double precision.
-/

namespace Runbook
namespace Json

/-- A text without the blanks that JSON allows before a value. -/
def skipBlanks (s : List Char) : List Char :=
  s.dropWhile fun c => c = ' ' || c = '\n' || c = '\t' || c = '\r'

/-- The code unit written by four digits of base sixteen, and the text after them. -/
def readUnit? : List Char → Option (Nat × List Char)
  | a :: b :: c :: d :: rest =>
      match digitValue? a, digitValue? b, digitValue? c, digitValue? d with
      | some w, some x, some y, some z => some (((w * 16 + x) * 16 + y) * 16 + z, rest)
      | _, _, _, _ => none
  | _ => none

/-- The character of one escape after its backslash, and the text after it. Code points beyond the
basic plane are written as two units. -/
def readEscape? : List Char → Option (Char × List Char)
  | '"' :: rest => some ('"', rest)
  | '\\' :: rest => some ('\\', rest)
  | '/' :: rest => some ('/', rest)
  | 'b' :: rest => some ('\x08', rest)
  | 'f' :: rest => some ('\x0c', rest)
  | 'n' :: rest => some ('\n', rest)
  | 'r' :: rest => some ('\r', rest)
  | 't' :: rest => some ('\t', rest)
  | 'u' :: rest =>
      match readUnit? rest with
      | none => none
      | some (unit, after) =>
          if 0xdc00 ≤ unit && unit ≤ 0xdfff then none
          else if 0xd800 ≤ unit && unit ≤ 0xdbff then
            match after with
            | '\\' :: 'u' :: more =>
                match readUnit? more with
                | some (low, last) =>
                    if 0xdc00 ≤ low && low ≤ 0xdfff then
                      some (Char.ofNat (0x10000 + (unit - 0xd800) * 0x400 + (low - 0xdc00)), last)
                    else none
                | none => none
            | _ => none
          else some (Char.ofNat unit, after)
  | _ => none

/-- The rest of a quoted string after its opening mark, and the text after its closing one. -/
def readString? : Nat → List Char → Option (List Char × List Char)
  | 0, _ => none
  | _, [] => none
  | _ + 1, '"' :: rest => some ([], rest)
  | fuel + 1, '\\' :: rest =>
      match readEscape? rest with
      | none => none
      | some (c, after) => (readString? fuel after).map fun p => (c :: p.1, p.2)
  | fuel + 1, c :: rest =>
      if c.toNat < 0x20 then none
      else (readString? fuel rest).map fun p => (c :: p.1, p.2)

def powerOfTen (n : Nat) : Binary :=
  FloatFormat.double.round false (Nat.pow 10 n) 1

/-- `significand * 10 ^ scale` in double precision; `none` when it is out of range. Scales beyond
308 are reached in steps. -/
def scaled? : Nat → Binary → Int → Option Binary
  | 0, _, _ => none
  | fuel + 1, x, scale =>
      if scale.natAbs ≤ 308 then
        if 0 ≤ scale then
          let y := x.mulDouble (powerOfTen scale.natAbs)
          if y.isFinite then some y else none
        else
          some (x.divDouble (powerOfTen scale.natAbs))
      else if x.isZero then some x
      else if 0 ≤ scale then none
      else scaled? fuel (x.divDouble (powerOfTen 308)) (scale + 308)

/-- The double for a mantissa and a power of ten. Scales below `-2000` leave zero in any case. -/
def floatOf?
    (negative : Bool)
    (significand : Nat)
    (scale : Int) :
    Option JsonNumber :=
  let start := FloatFormat.double.round false significand 1
  (scaled? 16 start (max scale (-2000))).map fun x => .float (x.withSign negative)

/-- The exponent part after its letter: its sign, its digits and the text after them. -/
def readExponent? : List Char → Option (Bool × Nat × List Char)
  | s =>
      let negative := s.head? = some '-'
      let body := match s with
        | '-' :: t => t
        | '+' :: t => t
        | t => t
      let digits := body.takeWhile isDigit
      (digitsIn? 10 digits).map fun n => (negative, n, body.dropWhile isDigit)

/-- Digits taken into a mantissa while it fits 64 bits: the mantissa, how many were taken, and the
text from the first digit that does not fit. -/
def takeDigits : Nat → Nat → List Char → Nat × Nat × List Char
  | mantissa, taken, [] => (mantissa, taken, [])
  | mantissa, taken, c :: s =>
      if isDigit c then
        let next := mantissa * 10 + (c.toNat - 48)
        if next < Nat.pow 2 64 then takeDigits next (taken + 1) s else (mantissa, taken, c :: s)
      else
        (mantissa, taken, c :: s)

/-- A number from its mantissa and scale, with the exponent part that may follow. -/
def finishFloat?
    (negative : Bool)
    (significand : Nat)
    (scale : Int)
    (s : List Char) :
    Option (JsonNumber × List Char) :=
  match s with
  | c :: t =>
      if c = 'e' || c = 'E' then
        match readExponent? t with
        | none => none
        | some (expNegative, e, rest) =>
            if Nat.pow 2 31 ≤ e then
              if significand ≠ 0 && !expNegative then none
              else some (.float (.finite negative 0 FloatFormat.double.least), rest)
            else
              let total := if expNegative then scale - (e : Int) else scale + (e : Int)
              (floatOf? negative significand total).map fun n => (n, rest)
      else
        (floatOf? negative significand scale).map fun n => (n, s)
  | [] => (floatOf? negative significand scale).map fun n => (n, [])

/-- The fraction after its point: at least one digit; digits that no longer fit are dropped. -/
def readFraction?
    (negative : Bool)
    (significand : Nat)
    (scale : Int)
    (s : List Char) :
    Option (JsonNumber × List Char) :=
  let (mantissa, taken, rest) := takeDigits significand 0 s
  if taken = 0 && !(rest.head?.any isDigit) then
    none
  else
    finishFloat? negative mantissa (scale - (taken : Int)) (rest.dropWhile isDigit)

/-- A number after its sign. -/
def readUnsigned?
    (negative : Bool)
    (s : List Char) :
    Option (JsonNumber × List Char) :=
  match s with
  | [] => none
  | c :: t =>
      if !isDigit c then none
      else if c = '0' && t.head?.any isDigit then none
      else
        let (mantissa, _, rest) := takeDigits 0 0 s
        if rest.head?.any isDigit then
          let extra := (rest.takeWhile isDigit).length
          match rest.dropWhile isDigit with
          | '.' :: u => readFraction? negative mantissa extra u
          | u => finishFloat? negative mantissa extra u
        else
          match rest with
          | '.' :: u => readFraction? negative mantissa 0 u
          | 'e' :: _ => finishFloat? negative mantissa 0 rest
          | 'E' :: _ => finishFloat? negative mantissa 0 rest
          | _ =>
              if !negative then some (.int mantissa, rest)
              else if mantissa = 0 || Nat.pow 2 63 < mantissa then
                (floatOf? true mantissa 0).map fun n => (n, rest)
              else some (.int (-(mantissa : Int)), rest)

/-- A number and the text after it. -/
def readNumber? : List Char → Option (JsonNumber × List Char)
  | '-' :: t => readUnsigned? true t
  | s => readUnsigned? false s

mutual

/-- A value and the text after it; `depth` bounds how deep it may nest. -/
def readValue? : Nat → Nat → List Char → Option (Json × List Char)
  | 0, _, _ => none
  | fuel + 1, depth, s =>
      match skipBlanks s with
      | 'n' :: 'u' :: 'l' :: 'l' :: rest => some (.null, rest)
      | 't' :: 'r' :: 'u' :: 'e' :: rest => some (.bool true, rest)
      | 'f' :: 'a' :: 'l' :: 's' :: 'e' :: rest => some (.bool false, rest)
      | '"' :: rest =>
          (readString? (rest.length + 1) rest).map fun p => (.string (String.ofList p.1), p.2)
      | '[' :: rest =>
          if depth ≤ 1 then none
          else
            match skipBlanks rest with
            | ']' :: after => some (.array [], after)
            | _ => (readItems? fuel (depth - 1) rest).map fun p => (.array p.1, p.2)
      | '\x7b' :: rest =>
          if depth ≤ 1 then none
          else
            match skipBlanks rest with
            | '\x7d' :: after => some (.object [], after)
            | _ => (readFields? fuel (depth - 1) rest).map fun p => (ofFields p.1, p.2)
      | t => (readNumber? t).map fun p => (.number p.1, p.2)

/-- The items of an array up to its closing bracket. -/
def readItems? : Nat → Nat → List Char → Option (List Json × List Char)
  | 0, _, _ => none
  | fuel + 1, depth, s =>
      match readValue? fuel depth s with
      | none => none
      | some (v, rest) =>
          match skipBlanks rest with
          | ',' :: more => (readItems? fuel depth more).map fun p => (v :: p.1, p.2)
          | ']' :: after => some ([v], after)
          | _ => none

/-- The fields of an object up to its closing brace, in the order written. -/
def readFields? : Nat → Nat → List Char → Option (List (String × Json) × List Char)
  | 0, _, _ => none
  | fuel + 1, depth, s =>
      match skipBlanks s with
      | '"' :: rest =>
          match readString? (rest.length + 1) rest with
          | none => none
          | some (key, afterKey) =>
              match skipBlanks afterKey with
              | ':' :: value =>
                  match readValue? fuel depth value with
                  | none => none
                  | some (v, afterValue) =>
                      match skipBlanks afterValue with
                      | ',' :: more =>
                          (readFields? fuel depth more).map fun p =>
                            ((String.ofList key, v) :: p.1, p.2)
                      | '\x7d' :: after => some ([(String.ofList key, v)], after)
                      | _ => none
              | _ => none
      | _ => none

end

/-- The value that a whole text is the written form of. -/
def parse? (s : String) : Option Json :=
  let text := s.toList
  match readValue? (2 * text.length + 2) 128 text with
  | some (v, rest) => if (skipBlanks rest).isEmpty then some v else none
  | none => none

end Json
end Runbook
