import Runbook.Files.Tree

/-!
# Octets

Programs work on bytes, whatever text they stand for. A row of bytes is written as a list of
characters, each of which has the number of its byte.
-/

namespace Runbook

/-- A row of bytes, each written as the character of its number. -/
abbrev Octets := List Char

namespace Octets

def ofBytes (b : List UInt8) : Octets :=
  b.map fun x => Char.ofNat x.toNat

def toBytes (s : Octets) : List UInt8 :=
  s.map fun c => c.toNat.toUInt8

def slice
    (b : ByteArray)
    (start stop : Nat) :
    Octets :=
  ofBytes (b.extract start stop).toList

def ofText (s : String) : Octets :=
  slice s.toUTF8 0 s.utf8ByteSize

/-- The text that bytes stand for, with a replacement character for what is none. -/
def toText (s : Octets) : String :=
  if s.all fun c => c.toNat < 128 then String.ofList s
  else String.ofList (Utf8.decodeLossy (toBytes s))

/-- What a file holds, as an array. -/
def ofContent : Content → ByteArray
  | .text s => s.toUTF8
  | .bytes b => ⟨b.toArray⟩

def toContent (b : ByteArray) : Content :=
  match String.fromUTF8? b with
  | some s => .text s
  | none => .bytes b.toList

def toArray (s : Octets) : ByteArray :=
  ⟨(toBytes s).toArray⟩

/-- Parts of a row between the occurrences of a character, after those already found, which are held
in reverse, and the reversed start of the current one. -/
def splitFrom
    (sep : Char)
    (done : List Octets)
    (part : Octets) :
    Octets → List Octets
  | [] => (part.reverse :: done).reverse
  | c :: s =>
      if c = sep then splitFrom sep (part.reverse :: done) [] s
      else splitFrom sep done (c :: part) s

/-- The parts of a row between the occurrences of a character; there is always one. -/
def splitOn
    (sep : Char)
    (s : Octets) :
    List Octets :=
  splitFrom sep [] [] s

/-- The lines of a row without their ends, which are a given character. What follows the last end is
a line only if there is something. -/
def linesBy
    (sep : Char)
    (s : Octets) :
    List Octets :=
  let parts := splitOn sep s
  if parts.getLast? = some [] then parts.dropLast else parts

/-- The lines of a row without their line feeds. -/
def lines (s : Octets) : List Octets :=
  linesBy '\n' s

/-- Whether a row ends with a line feed, or is empty. -/
def isWhole (s : Octets) : Bool :=
  s.isEmpty || s.getLast? = some '\n'

/-- The order of rows by their bytes. -/
def compare : Octets → Octets → Ordering
  | [], [] => .eq
  | [], _ :: _ => .lt
  | _ :: _, [] => .gt
  | a :: s, b :: t => if a = b then compare s t else if a < b then .lt else .gt

/-- Whether a row comes before another one or is the same. -/
def le (a b : Octets) : Bool :=
  compare a b != .gt

def startsWith (start s : Octets) : Bool :=
  start.isPrefixOf s

/-- A row with characters in front of it up to a width. -/
def padLeft
    (width : Nat)
    (c : Char)
    (s : Octets) :
    Octets :=
  List.replicate (width - s.length) c ++ s

/-- A row with blanks behind it up to a width. -/
def padRight
    (width : Nat)
    (s : Octets) :
    Octets :=
  s ++ List.replicate (width - s.length) ' '

/-- The digits of a number. -/
def ofNat (n : Nat) : Octets :=
  (toString n).toList

/-- The digits of a number after its sign, if it is negative. -/
def ofInt (n : Int) : Octets :=
  (toString n).toList

/-- Rows one after the other, with another one between each two. -/
def intercalate
    (sep : Octets) :
    List Octets → Octets
  | [] => []
  | first :: rest => first ++ rest.flatMap fun s => sep ++ s

end Octets

end Runbook
