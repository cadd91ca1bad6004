import Runbook.Number.Reading
import Runbook.Text.Utf8

/-!
# Words of YAML

A place in a stream; the tokens of a stream, and how names, tags and directives are read.
-/

namespace Runbook
namespace Yaml

/-!
## A place in a YAML stream

A cursor is the text still ahead with the place where it starts. Lines end at a line feed, a carriage
return, both in this order, or one of three further break characters.
-/

/-- The characters that end a line. -/
def isBreak (c : Char) : Bool :=
  c = '\n' || c = '\r' || c = '\u0085' || c = '\u2028' || c = '\u2029'

/-- A space or a tab. -/
def isGap (c : Char) : Bool :=
  c = ' ' || c = '\t'

/-- The characters of names: ASCII letters, digits, the underscore and the hyphen. -/
def isNameChar (c : Char) : Bool :=
  c.isAlphanum || c = '_' || c = '-'

/-- The characters a stream may hold. -/
def isAllowed (c : Char) : Bool :=
  c = '\t' || c = '\n' || c = '\r' || (' ' ≤ c && c ≤ '~') || c = '\u0085'
    || ('\u00a0' ≤ c && c ≤ '\ud7ff') || ('\ue000' ≤ c && c ≤ '\ufffd') || 0x10000 ≤ c.toNat

/-- Whether a text is at its end, at a gap or at the end of a line. -/
def endsWord (s : List Char) : Bool :=
  match s with
  | [] => true
  | c :: _ => isGap c || isBreak c

/-- The text ahead, how many characters were passed, and the line and column reached. -/
structure Cursor where
  rest : List Char
  index : Nat
  line : Nat
  column : Nat
  deriving Repr, Inhabited

namespace Cursor

def ofText (s : List Char) : Cursor :=
  ⟨s, 0, 0, 0⟩

/-- Passes characters of one line. -/
def advance
    (c : Cursor)
    (n : Nat) :
    Cursor :=
  ⟨c.rest.drop n, c.index + n, c.line, c.column + n⟩

/-- Whether there is a next character with a property. -/
def sees
    (c : Cursor)
    (p : Char → Bool) :
    Bool :=
  c.rest.head?.any p

/-- Whether the text ahead is empty or starts a new line. -/
def atLineEnd (c : Cursor) : Bool :=
  match c.rest with
  | [] => true
  | ch :: _ => isBreak ch

/-- The characters of this line with a property, up to the first without it. -/
def takeWhile
    (c : Cursor)
    (p : Char → Bool) :
    List Char × Cursor :=
  let taken := c.rest.takeWhile p
  (taken, c.advance taken.length)

/-- Passes the characters of this line with a property. -/
def dropWhile
    (c : Cursor)
    (p : Char → Bool) :
    Cursor :=
  (c.takeWhile p).2

/-- The break at the cursor as it counts in a scalar, and the start of the next line. Three of the
breaks count as a line feed. -/
def takeBreak (c : Cursor) : List Char × Cursor :=
  match c.rest with
  | '\r' :: '\n' :: s => (['\n'], ⟨s, c.index + 2, c.line + 1, 0⟩)
  | ch :: s =>
      if isBreak ch then
        let kept := if ch = '\u2028' || ch = '\u2029' then ch else '\n'
        ([kept], ⟨s, c.index + 1, c.line + 1, 0⟩)
      else
        ([], c)
  | [] => ([], c)

def dropComment (c : Cursor) : Cursor :=
  if c.sees (· = '#') then c.dropWhile fun ch => !isBreak ch else c

/-- Whether a line starts here with three hyphens or three points and nothing attached. -/
def atDocumentMark (c : Cursor) : Bool :=
  if c.column = 0 then
    match c.rest with
    | '-' :: '-' :: '-' :: s => endsWord s
    | '.' :: '.' :: '.' :: s => endsWord s
    | _ => false
  else
    false

end Cursor

/-!
## YAML tokens

The words of a YAML stream once its layout has been read: indentation has become explicit starts and
ends, and the keys of mappings are marked.
-/

/-- How a scalar is written. -/
inductive ScalarStyle where
  | plain
  | singleQuoted
  | doubleQuoted
  | literal
  | folded
  deriving DecidableEq, Repr, Inhabited

/-- One token of a stream. A tag is its handle and the octets that follow it. -/
inductive Token where
  | version (major minor : Nat)
  | tagHandle (handle : String) (lead : List UInt8)
  | documentStart
  | documentEnd
  | blockSequence
  | blockMapping
  | blockEnd
  | flowSequence
  | flowSequenceEnd
  | flowMapping
  | flowMappingEnd
  | item
  | comma
  | key
  | value
  | alias (name : String)
  | anchor (name : String)
  | tag (handle : String) (suffix : List UInt8)
  | scalar (style : ScalarStyle) (text : String)
  deriving DecidableEq, Repr, Inhabited

/-!
## YAML tags

A tag is a row of octets, since its escapes name octets and not characters. It ends at the first zero
octet. The tags of the core schema demand a type; a tag that starts with an exclamation mark is local
and names itself, as long as its octets are a text.
-/

/-- What a tag says about its node. -/
inductive Tag where
  | truth
  | whole
  | float
  | null
  | named (name : String)
  | other (marked : Bool)
  deriving DecidableEq, Repr, Inhabited

namespace Tag

/-- The octets of a tag up to the first zero. -/
def clip (octets : List UInt8) : List UInt8 :=
  octets.takeWhile (· ≠ 0)

def octetsOf (s : String) : List UInt8 :=
  Utf8.encode s.toList

/-- What the tag with these octets says. A local tag whose octets are no text has no name. -/
def ofOctets (octets : List UInt8) : Tag :=
  if octets = octetsOf "tag:yaml.org,2002:bool" then .truth
  else if octets = octetsOf "tag:yaml.org,2002:int" then .whole
  else if octets = octetsOf "tag:yaml.org,2002:float" then .float
  else if octets = octetsOf "tag:yaml.org,2002:null" then .null
  else
    match octets with
    | 33 :: name =>
        match Utf8.decode? name with
        | some s => .named (String.ofList s)
        | none => .other true
    | _ => .other false

def name? : Tag → Option String
  | .named s => some s
  | _ => none

/-- Whether a tag starts with an exclamation mark. -/
def isMarked : Tag → Bool
  | .named _ => true
  | .other marked => marked
  | _ => false

end Tag

/-!
## Names, tags and directives of YAML

Anchors and aliases, the tags that stand before a node, and the directives that stand before a
document.
-/

/-- The characters a tag may be written with, escapes included. -/
def isTagChar (c : Char) : Bool :=
  isNameChar c || ";/?:@&=+$.%!~*'()".toList.contains c

/-- An escaped octet and the text after it. -/
def escapedOctet? : List Char → Option (UInt8 × List Char)
  | '%' :: a :: b :: s =>
      match digitValue? a, digitValue? b with
      | some x, some y => some ((16 * x + y).toUInt8, s)
      | _, _ => none
  | _ => none

/-- Further octets of an escaped row. -/
def escapedTail? : Nat → List Char → Option (List UInt8 × List Char)
  | 0, s => some ([], s)
  | n + 1, s =>
      match escapedOctet? s with
      | some (octet, t) =>
          if 0x80 ≤ octet && octet < 0xc0 then
            (escapedTail? n t).map fun p => (octet :: p.1, p.2)
          else
            none
      | none => none

/-- A row of escaped octets, as many as the first one announces, and the text after them. -/
def escapedRow?
    (s : List Char) :
    Option (List UInt8 × List Char) :=
  match escapedOctet? s with
  | none => none
  | some (first, t) =>
      let tail : Option (List UInt8 × List Char) :=
        if first < 0x80 then some ([], t)
        else if first < 0xc0 then none
        else if first < 0xe0 then escapedTail? 1 t
        else if first < 0xf0 then escapedTail? 2 t
        else if first < 0xf8 then escapedTail? 3 t
        else none
      tail.map fun p => (first :: p.1, p.2)

/-- The longest tag text ahead and the text after it. Commas and brackets belong to it where
`verbatim` says so. -/
def readTagText
    (verbatim : Bool) :
    Nat → List Char → Option (List UInt8 × List Char)
  | 0, _ => none
  | _, [] => some ([], [])
  | fuel + 1, c :: s =>
      if c = '%' then
        match escapedRow? (c :: s) with
        | some (octets, t) => (readTagText verbatim fuel t).map fun p => (octets ++ p.1, p.2)
        | none => none
      else if isTagChar c || (verbatim && (c = ',' || c = '[' || c = ']')) then
        (readTagText verbatim fuel s).map fun p => (c.toNat.toUInt8 :: p.1, p.2)
      else
        some ([], c :: s)

/-- Tag text at a cursor and the place after it. -/
def tagText?
    (verbatim : Bool)
    (c : Cursor) :
    Option (List UInt8 × Cursor) :=
  (readTagText verbatim (c.rest.length + 1) c.rest).map fun p =>
    (p.1, c.advance (c.rest.length - p.2.length))

/-- The handle that starts with an exclamation mark: the name after it and a closing mark, if there
are any. -/
def tagHandle?
    (c : Cursor) :
    Option (List Char × Cursor) :=
  if c.sees (· = '!') then
    let (name, next) := (c.advance 1).takeWhile isNameChar
    if next.sees (· = '!') then some ('!' :: name ++ ['!'], next.advance 1)
    else some ('!' :: name, next)
  else
    none

def tagEnds
    (inFlow : Bool)
    (c : Cursor) :
    Bool :=
  endsWord c.rest || (inFlow && c.sees (· = ','))

/-- The tag at a cursor: verbatim between angle brackets, a handle with a suffix, or one mark with a
local name. -/
def readTag
    (inFlow : Bool)
    (c : Cursor) :
    Option (Token × Cursor) :=
  let found : Option (Token × Cursor) :=
    if c.rest[1]? = some '<' then
      match tagText? true (c.advance 2) with
      | some (uri, next) =>
          if !uri.isEmpty && next.sees (· = '>') then
            some (.tag "" uri, next.advance 1)
          else
            none
      | none => none
    else
      match tagHandle? c with
      | none => none
      | some (handle, next) =>
          match tagText? false next with
          | none => none
          | some (suffix, after) =>
              if 1 < handle.length && handle.getLast? = some '!' then
                if suffix.isEmpty then none
                else some (.tag (String.ofList handle) suffix, after)
              else
                let name := Utf8.encode (handle.drop 1) ++ suffix
                if (Tag.clip name).isEmpty then some (.tag "" (Tag.octetsOf "!"), after)
                else some (.tag "!" name, after)
  found.bind fun p => if tagEnds inFlow p.2 then some p else none

/-- The name of an anchor or alias after its sign. -/
def readName
    (c : Cursor) :
    Option (String × Cursor) :=
  let (name, next) := (c.advance 1).takeWhile isNameChar
  let ends := endsWord next.rest || next.sees fun ch => "?:,]\x7d%@\x60".toList.contains ch
  if !name.isEmpty && ends then some (String.ofList name, next) else none

/-- A number of at most nine digits. -/
def readVersionPart
    (c : Cursor) :
    Option (Nat × Cursor) :=
  let (digits, next) := c.takeWhile isDigit
  if digits.length ≤ 9 then (digitsIn? 10 digits).map fun n => (n, next) else none

/-- The version directive after its name. -/
def readVersion
    (c : Cursor) :
    Option (Token × Cursor) :=
  match readVersionPart (c.dropWhile isGap) with
  | none => none
  | some (major, next) =>
      if next.sees (· = '.') then
        (readVersionPart (next.advance 1)).map fun p => (.version major p.1, p.2)
      else
        none

/-- The directive that declares a tag handle, after its name. -/
def readTagHandle
    (c : Cursor) :
    Option (Token × Cursor) :=
  match tagHandle? (c.dropWhile isGap) with
  | none => none
  | some (handle, next) =>
      let closed := handle = ['!'] || handle.getLast? = some '!'
      if !closed || !next.sees isGap then
        none
      else
        match tagText? true (next.dropWhile isGap) with
        | some (lead, after) =>
            if !lead.isEmpty && endsWord after.rest then
              some (.tagHandle (String.ofList handle) lead, after)
            else
              none
        | none => none

/-- The directive at a cursor, up to the start of the next line. Only the two directives that YAML
defines are known. -/
def readDirective
    (c : Cursor) :
    Option (Token × Cursor) :=
  let (name, next) := (c.advance 1).takeWhile isNameChar
  let found : Option (Token × Cursor) :=
    if !endsWord next.rest then none
    else if name = "YAML".toList then readVersion next
    else if name = "TAG".toList then readTagHandle next
    else none
  match found with
  | none => none
  | some (token, after) =>
      let last := (after.dropWhile isGap).dropComment
      if last.atLineEnd then some (token, last.takeBreak.2) else none

end Yaml
end Runbook
