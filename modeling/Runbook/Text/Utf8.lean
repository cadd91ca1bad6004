/-!
# UTF-8

Texts as bytes and back. Bytes that are no text are read with a replacement character for each
longest run that could have begun a character. Positions in a document are counted in bytes as well: a
position counts only where a character begins or the text ends, so cutting a text at a position may
fail.
-/

namespace Runbook
namespace Utf8

/-- The bytes of one character. -/
def encodeChar (c : Char) : List UInt8 :=
  let n := c.toNat
  if n < 0x80 then [n.toUInt8]
  else if n < 0x800 then [(0xc0 + n / 64).toUInt8, (0x80 + n % 64).toUInt8]
  else if n < 0x10000 then
    [(0xe0 + n / 4096).toUInt8, (0x80 + n / 64 % 64).toUInt8, (0x80 + n % 64).toUInt8]
  else
    [ (0xf0 + n / 262144).toUInt8, (0x80 + n / 4096 % 64).toUInt8, (0x80 + n / 64 % 64).toUInt8,
      (0x80 + n % 64).toUInt8 ]

def encode (s : List Char) : List UInt8 :=
  s.flatMap encodeChar

/-- What the first byte of a character announces: how many bytes follow, the bounds of the first of
them, and the bits it carries itself. -/
def lead? (b : UInt8) : Option (Nat × Nat × Nat × Nat) :=
  let n := b.toNat
  if n < 0x80 then some (0, 0, 0, n)
  else if 0xc2 ≤ n && n ≤ 0xdf then some (1, 0x80, 0xbf, n - 0xc0)
  else if n = 0xe0 then some (2, 0xa0, 0xbf, 0)
  else if n = 0xed then some (2, 0x80, 0x9f, 13)
  else if 0xe1 ≤ n && n ≤ 0xef then some (2, 0x80, 0xbf, n - 0xe0)
  else if n = 0xf0 then some (3, 0x90, 0xbf, 0)
  else if 0xf1 ≤ n && n ≤ 0xf3 then some (3, 0x80, 0xbf, n - 0xf0)
  else if n = 0xf4 then some (3, 0x80, 0x8f, 4)
  else none

/-- Reads the bytes that follow the first one: the code point, if all are there, and the bytes after
those that belong together. -/
def continuation : Nat → Nat → Nat → Nat → List UInt8 → Option Nat × List UInt8
  | 0, _, _, code, s => (some code, s)
  | _ + 1, _, _, _, [] => (none, [])
  | n + 1, low, high, code, b :: s =>
      if low ≤ b.toNat && b.toNat ≤ high then
        continuation n 0x80 0xbf (code * 64 + (b.toNat - 0x80)) s
      else
        (none, b :: s)

/-- The characters of bytes after those already read, which are held in reverse; `none` for each run
of bytes that is no character. -/
def readFrom
    (done : List (Option Char)) :
    Nat → List UInt8 → List (Option Char)
  | 0, _ => done.reverse
  | _, [] => done.reverse
  | fuel + 1, b :: s =>
      match lead? b with
      | none => readFrom (none :: done) fuel s
      | some (count, low, high, bits) =>
          let (code, rest) := continuation count low high bits s
          readFrom (code.map Char.ofNat :: done) fuel rest

/-- The characters of bytes, `none` for each run of bytes that is no character. -/
def readAll (bytes : List UInt8) : List (Option Char) :=
  readFrom [] bytes.length bytes

/-- The text that bytes are; `none` for bytes that are no text. -/
def decode? (bytes : List UInt8) : Option (List Char) :=
  let read := readAll bytes
  if read.all Option.isSome then some (read.filterMap id) else none

/-- The text of bytes, with a replacement character for what is none. -/
def decodeLossy (bytes : List UInt8) : List Char :=
  (readAll bytes).map fun c => c.getD '\ufffd'

end Utf8
end Runbook

/-! ## Byte offsets -/

namespace Runbook
namespace Text

def byteSize : List Char → Nat
  | [] => 0
  | c :: s => c.utf8Size + byteSize s

/-- The text before and from a byte offset; `none` unless a character begins or the text ends
there. -/
def splitAt? : Nat → List Char → Option (List Char × List Char)
  | 0, s => some ([], s)
  | _ + 1, [] => none
  | n + 1, c :: s =>
      if c.utf8Size ≤ n + 1 then
        (splitAt? (n + 1 - c.utf8Size) s).map fun p => (c :: p.1, p.2)
      else
        none

/-- A range of byte offsets, from `start` up to `stop`. -/
structure Span where
  start : Nat
  stop : Nat
  deriving DecidableEq, Repr, Inhabited

/-- Whether an offset falls into a range. -/
def Span.covers
    (r : Span)
    (offset : Nat) :
    Bool :=
  r.start ≤ offset && offset < r.stop

/-- The part of a text in a range; `none` when the range runs backwards or an end is not a position
of the text. -/
def slice?
    (s : List Char)
    (r : Span) :
    Option (List Char) :=
  if r.start ≤ r.stop then
    match splitAt? r.start s with
    | none => none
    | some (_, tail) => (splitAt? (r.stop - r.start) tail).map Prod.fst
  else
    none

/-- The part of a text in a range, empty where `slice?` fails. -/
def slice
    (s : List Char)
    (r : Span) :
    List Char :=
  (slice? s r).getD []

/-- The text with a range replaced; a range that does not fit leaves it as it is. -/
def splice
    (s : List Char)
    (r : Span)
    (replacement : List Char) :
    List Char :=
  match splitAt? r.start s, splitAt? r.stop s with
  | some (before, _), some (_, after) =>
      if r.start ≤ r.stop then before ++ replacement ++ after else s
  | _, _ => s

/-- The part of a text after its last line feed. -/
def lastLine (s : List Char) : List Char :=
  s.foldl (fun line c => if c = '\n' then [] else line ++ [c]) []

/-- Where the line that holds an offset begins; 0 when the offset is no position of the text. -/
def lineStart
    (s : List Char)
    (offset : Nat) :
    Nat :=
  match splitAt? offset s with
  | none => 0
  | some (before, _) => offset - byteSize (lastLine before)

/-- The blanks between the start of the line and an offset, when nothing else stands there. -/
def lineIndent
    (s : List Char)
    (offset : Nat) :
    Option (List Char) :=
  match splitAt? offset s with
  | none => none
  | some (before, _) =>
      let indent := lastLine before
      if indent.all (fun c => c = ' ' || c = '\t') then some indent else none

end Text
end Runbook
