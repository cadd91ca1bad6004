import Runbook.Number.Reading
import Runbook.Tool.Options
import Runbook.Tool.Digest
import Runbook.Tool.Input

/-!
# Bytes as text and as numbers

The tools that write bytes with letters and digits only, and that read them back, and the tool that
shows the bytes of files, or the words they make, as numbers or as characters.
-/

namespace Runbook
namespace Tool
namespace Encoding

/-- An alphabet whose letters stand for some bits each, and the length of a group of letters that
stands for whole bytes. -/
structure Alphabet where
  letters : String
  bits : Nat
  group : Nat

/-- The alphabet with six bits a letter. -/
def base64 : Alphabet :=
  ⟨"ABCDEFGHIJKLMNOPQRSTUVWXYZabcdefghijklmnopqrstuvwxyz0123456789+/", 6, 4⟩

/-- The alphabet with five bits a letter. -/
def base32 : Alphabet :=
  ⟨"ABCDEFGHIJKLMNOPQRSTUVWXYZ234567", 5, 8⟩

/-- How many bytes a group of letters stands for. -/
def Alphabet.bytes (x : Alphabet) : Nat :=
  x.bits * x.group / 8

def Alphabet.letter
    (x : Alphabet)
    (n : Nat) :
    Char :=
  (x.letters.toList[n]?).getD '='

/-- The letters for some bytes, at most those of one group. -/
def Alphabet.encodeGroup
    (x : Alphabet)
    (s : Octets) :
    Octets :=
  let n := Digest.bigNumber (s ++ List.replicate (x.bytes - s.length) '\x00')
  let count := (8 * s.length + x.bits - 1) / x.bits
  let letters := (List.range x.group).map fun i =>
    if i < count then
      x.letter (n / Nat.pow 2 (x.bits * (x.group - 1 - i)) % Nat.pow 2 x.bits)
    else
      '='
  letters

/-- The letters for a text. -/
def Alphabet.encode
    (x : Alphabet)
    (s : Octets) :
    Octets :=
  (Digest.chunks x.bytes (s.length + 1) s).flatMap x.encodeGroup

/-- The bytes that a group of letters stands for, and whether it is one. -/
def Alphabet.decodeGroup
    (x : Alphabet)
    (s : Octets) :
    Octets × Bool :=
  let letters := s.takeWhile (· ≠ '=')
  let values := (letters.takeWhile x.letters.toList.contains).filterMap fun c =>
    x.letters.toList.findIdx? (· = c)
  let isWhole := s.length = x.group && values.length = letters.length &&
    (s.drop letters.length).all (· = '=')
  let count := values.length * x.bits / 8
  let n := (values ++ List.replicate (x.group - values.length) 0).foldl
    (fun n v => n * Nat.pow 2 x.bits + v) 0
  let bytes := (Digest.bigBytes x.bytes n).take count
  let isExact := values.length * x.bits % 8 < x.bits && (values.length = 0 || 0 < count)
  (bytes, isWhole && isExact && !letters.isEmpty)

/-- The bytes that letters stand for, up to the first fault, and whether there is none. -/
def Alphabet.decode
    (x : Alphabet) :
    Nat → Octets → Octets × Bool
  | 0, _ => ([], true)
  | _, [] => ([], true)
  | fuel + 1, s =>
      match x.decodeGroup (s.take x.group) with
      | (bytes, true) =>
          let (more, good) := decode x fuel (s.drop x.group)
          (bytes ++ more, good)
      | (bytes, false) => (bytes, false)

/-- Letters in lines of a width; nothing cuts them if the width is zero. -/
def wrapped
    (width : Nat)
    (s : Octets) :
    Octets :=
  if width = 0 || s.isEmpty then s
  else ((Digest.chunks width (s.length + 1) s).map (· ++ ['\n'])).flatten

def tool (x : Alphabet) : Tool :=
  simple 1 fun words => do
    let a ← Work.arguments
      [flag "d" ["decode"], flag "i" ["ignore-garbage"], valued "w" ["wrap"]] 1 words
    match a.operands.drop 1 with
    | extra :: _ => Work.extraOperand 1 extra
    | [] => pure ()
    let width ← match a.value? "w" with
      | none => pure 76
      | some word =>
          match digitsIn? 10 word with
          | some n => pure n
          | none => Work.fail 1 ("invalid wrap size: ".toList ++ Quoting.plain word)
    let path := a.operands.headD Work.dash
    match ← Work.openInput path with
    | .error e => Work.fail 1 (Quoting.shellBeforeColon path ++ ": ".toList ++ e.reason.toList)
    | .ok d => do
        match ← Work.act (Act.readAll d) with
        | .error e => Work.fail 1 ("read error: ".toList ++ e.reason.toList)
        | .ok data =>
            if a.has "d" then do
              let letters := data.filter fun c =>
                if a.has "i" then c = '=' || x.letters.toList.contains c else c ≠ '\n'
              let (bytes, good) := x.decode (letters.length + 1) letters
              Work.say bytes
              if !good then Work.failText 1 "invalid input"
            else Work.say (wrapped width (x.encode data))

end Encoding

/-! ## Bytes as numbers -/

namespace Dump

/-- How items are shown. -/
inductive Notation where
  | signed
  | octal
  | unsigned
  | hexadecimal
  | char
  | name
  deriving DecidableEq, Repr, Inhabited

/-- A row of items: how they are shown, how many bytes each has, and whether the characters stand behind
the row. -/
structure Row where
  shown : Notation
  size : Nat
  trailer : Bool
  deriving DecidableEq, Repr, Inhabited

/-- How wide an item is. -/
def Row.width (r : Row) : Nat :=
  let bits := 8 * r.size
  match r.shown with
  | .octal => (bits + 2) / 3
  | .hexadecimal => 2 * r.size
  | .unsigned => (Octets.ofNat (Nat.pow 2 bits - 1)).length
  | .signed => (Octets.ofNat (Nat.pow 2 (bits - 1))).length + 1
  | .char => 3
  | .name => 3

/-- The character that a byte stands for, as it is shown. -/
def charText (c : Char) : Octets :=
  match c with
  | '\x00' => "\\0".toList
  | '\x07' => "\\a".toList
  | '\x08' => "\\b".toList
  | '\x0c' => "\\f".toList
  | '\n' => "\\n".toList
  | '\r' => "\\r".toList
  | '\t' => "\\t".toList
  | '\x0b' => "\\v".toList
  | d => if ' ' ≤ d && d ≤ '~' then [d] else Octets.padLeft 3 '0' (Nat.toDigits 8 d.toNat)

/-- The names of the characters that do not show. -/
def charNames : List String :=
  [ "nul", "soh", "stx", "etx", "eot", "enq", "ack", "bel", "bs", "ht", "nl", "vt", "ff", "cr", "so",
    "si", "dle", "dc1", "dc2", "dc3", "dc4", "nak", "syn", "etb", "can", "em", "sub", "esc", "fs",
    "gs", "rs", "us", "sp" ]

/-- The name of the character of a byte, of which seven bits count. -/
def charName (c : Char) : Octets :=
  let n := c.toNat % 128
  if n = 127 then "del".toList
  else
    match charNames[n]? with
    | some name => name.toList
    | none => [Char.ofNat n]

def Row.item
    (r : Row)
    (bytes : Octets) :
    Octets :=
  let n := Digest.bigNumber bytes.reverse
  let bits := 8 * r.size
  match r.shown with
  | .octal => Octets.padLeft r.width '0' (Nat.toDigits 8 n)
  | .hexadecimal => Octets.padLeft r.width '0' (Nat.toDigits 16 n)
  | .unsigned => Octets.ofNat n
  | .signed =>
      if n < Nat.pow 2 (bits - 1) then Octets.ofNat n else '-' :: Octets.ofNat (Nat.pow 2 bits - n)
  | .char => bytes.flatMap charText
  | .name => bytes.flatMap charName

/-- The items of a line, each in a field that has a blank before it; `spread` is the width of a line in
all rows, for so many bytes. -/
def Row.line
    (r : Row)
    (perLine spread : Nat)
    (bytes : Octets) :
    Octets :=
  let count := perLine / r.size
  let own := count * (r.width + 1)
  let pad := spread - own
  let items := Digest.chunks r.size (bytes.length + 1) bytes
  let text := items.zipIdx.flatMap fun e =>
    let item := e.1 ++ List.replicate (r.size - e.1.length) '\x00'
    let before := pad * (count - e.2) / count - pad * (count - e.2 - 1) / count
    List.replicate before ' ' ++ ' ' :: Octets.padLeft r.width ' ' (r.item item)
  let text :=
    if r.trailer then
      let used := items.zipIdx.foldl
        (fun n e => n + r.width + 1 + (pad * (count - e.2) / count - pad * (count - e.2 - 1) / count))
        0
      text ++ List.replicate (spread - used) ' ' ++ "  >".toList
        ++ bytes.map (fun c => if ' ' ≤ c && c ≤ '~' then c else '.') ++ ['<']
    else text
  text ++ ['\n']

/-- The base of addresses; none are shown if there is none. -/
structure Addresses where
  base : Option Nat
  deriving DecidableEq, Repr, Inhabited

def Addresses.text
    (x : Addresses)
    (n : Nat) :
    Octets :=
  match x.base with
  | none => []
  | some 16 => Octets.padLeft 6 '0' (Nat.toDigits 16 n)
  | some b => Octets.padLeft 7 '0' (Nat.toDigits b n)

/-- The lines for a text: those that repeat the line before are shown by a star. -/
def lines
    (x : Addresses)
    (rows : List Row)
    (perLine : Nat)
    (all : Bool) :
    Nat → Nat → Option Octets → Bool → Octets → List Octets
  | 0, _, _, _, _ => []
  | fuel + 1, address, before, starred, s =>
      if s.isEmpty then []
      else
        let bytes := s.take perLine
        let rest := s.drop perLine
        if !all && before = some bytes && bytes.length = perLine && !rest.isEmpty then
          (if starred then [] else ["*\n".toList])
            ++ lines x rows perLine all fuel (address + perLine) before true rest
        else
          let spread := (rows.map fun r => perLine / r.size * (r.width + 1)).foldl max 0
          let shown := rows.zipIdx.flatMap fun e =>
            let lead := if e.2 = 0 then x.text address
              else List.replicate (x.text address).length ' '
            lead ++ e.1.line perLine spread bytes
          shown :: lines x rows perLine all fuel (address + bytes.length) (some bytes) false rest

/-- Reads one row that a word asks for, and gives what follows it. -/
def readRow
    (word : Octets)
    (c : Char)
    (s : Octets) :
    Work (Row × Octets) := do
  let trailed (shown : Notation) (size : Nat) (rest : Octets) : Row × Octets :=
    let trailer := rest.head? = some 'z'
    (⟨shown, size, trailer⟩, if trailer then rest.drop 1 else rest)
  let sized (shown : Notation) : Work (Row × Octets) := do
    let digits := s.takeWhile Char.isDigit
    let (size, rest) : Nat × Octets := match digits, s with
      | [], 'C' :: t => (1, t)
      | [], 'S' :: t => (2, t)
      | [], 'I' :: t => (4, t)
      | [], 'L' :: t => (8, t)
      | [], t => (4, t)
      | d, t => ((digitsIn? 10 d).getD 4, t.drop d.length)
    if !([1, 2, 4, 8].contains size) then
      Work.fail 1 ("invalid type string ".toList ++ Quoting.plain word
        ++ ";\nthis system doesn't provide a ".toList ++ Octets.ofNat size
        ++ "-byte integral type".toList)
    return trailed shown size rest
  match c with
  | 'd' => sized .signed
  | 'o' => sized .octal
  | 'u' => sized .unsigned
  | 'x' => sized .hexadecimal
  | 'c' => return trailed .char 1 s
  | 'a' => return trailed .name 1 s
  | _ =>
      Work.fail 1 ("invalid character '".toList ++ c :: "' in type string ".toList
        ++ Quoting.plain word)

def readRows
    (word : Octets) :
    Nat → Octets → Work (List Row)
  | 0, _ => return []
  | _, [] => return []
  | fuel + 1, c :: s => do
      let (r, rest) ← readRow word c s
      return r :: (← readRows word fuel rest)

/-- The rows for the letters of options. -/
def letterRow? (key : String) : Option Row :=
  match key with
  | "a" => some ⟨.name, 1, false⟩
  | "b" => some ⟨.octal, 1, false⟩
  | "c" => some ⟨.char, 1, false⟩
  | "d" => some ⟨.unsigned, 2, false⟩
  | "i" => some ⟨.signed, 4, false⟩
  | "l" => some ⟨.signed, 8, false⟩
  | "o" => some ⟨.octal, 2, false⟩
  | "s" => some ⟨.signed, 2, false⟩
  | "x" => some ⟨.hexadecimal, 2, false⟩
  | _ => none

def forms : List OptionForm :=
  [ valued "A" ["address-radix"], valued "j" ["skip-bytes"], valued "N" ["read-bytes"],
    valued "t" ["format"], flag "v" ["output-duplicates"], ⟨"w", ["width"], .maybe⟩ ]
    ++ flags "abcdilosx"

/-- Shows bytes. -/
def tool : Tool :=
  simple 1 fun words => do
    let a ← Work.arguments forms 1 words
    let rows ← Work.foldAll
      (fun (rows : List Row) g => do
        if g.key = "t" then return rows ++ (← readRows g.value (g.value.length + 1) g.value)
        else
          match letterRow? g.key with
          | some r => return rows ++ [r]
          | none => return rows)
      [] a.options
    let rows := if rows.isEmpty then [⟨.octal, 2, false⟩] else rows
    let addresses : Addresses ← match a.value? "A" with
      | none => pure ⟨some 8⟩
      | some ['d'] => pure ⟨some 10⟩
      | some ['o'] => pure ⟨some 8⟩
      | some ['x'] => pure ⟨some 16⟩
      | some ['n'] => pure ⟨none⟩
      | some word =>
          Work.fail 1 ("invalid output address radix '".toList ++ word.take 1
            ++ "'; it must be one character from [doxn]".toList)
    let numberOf (key what : String) : Work (Option Nat) := do
      match a.value? key with
      | none => return none
      | some word => return some (← Work.amount s!"invalid -{what} argument" word)
    let skipped := (← numberOf "j" "j").getD 0
    let limit ← numberOf "N" "N"
    let perLine ← match a.value? "w" with
      | none => pure 16
      | some [] => pure 32
      | some word => Work.amount "invalid -w argument" word
    let (data, any) ← Work.foldAll
      (fun (done : Octets × Bool) path => do
        match ← Work.readWhole path with
        | .ok more => return (done.1 ++ more, true)
        | .error e => do
            Work.complainOf path e
            return done)
      ([], false) (Work.inputs a.operands)
    if !any then Work.giveUp 1
    if data.length < skipped then
      Work.failText 1 "cannot skip past end of combined input"
    let kept := data.drop skipped
    let shown := match limit with
      | some n => kept.take n
      | none => kept
    Work.forAll Work.say
      (lines addresses rows perLine (a.has "v") (shown.length + 1) skipped none false shown)
    if addresses.base.isSome then
      Work.say (addresses.text (skipped + shown.length) ++ ['\n'])

end Dump
end Tool
end Runbook
