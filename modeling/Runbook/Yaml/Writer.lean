import Runbook.Json.Basic
import Runbook.Yaml.Value

/-!
# Writing YAML

A dictionary of strings is written as a block mapping. A string is written plain where that reads
back as the same string, between single quotes where it would read as something else, as a literal
block where it has line feeds, and between double quotes where no other form can hold it.
-/

namespace Runbook
namespace Yaml

/-- What decides how a string may be written. -/
structure Analysis where
  multiline : Bool
  plainAllowed : Bool
  singleAllowed : Bool
  blockAllowed : Bool
  deriving DecidableEq, Repr, Inhabited

/-- The characters that are written as they are. -/
def isPrintable (c : Char) : Bool :=
  c = '\n' || (' ' ≤ c && c ≤ '~') || ('\u00a0' ≤ c && c ≤ '\ud7ff')
    || ('\ue000' ≤ c && c ≤ '\ufffd' && c ≠ '\ufeff') || 0x10000 ≤ c.toNat

/-- The characters that a plain scalar cannot start with. -/
def isIndicator (c : Char) : Bool :=
  "#,[]\x7b\x7d&*!|>'\"%@\x60".toList.contains c

/-- Whether the character after `before`, with `after` behind it, would end a plain scalar or turn
it into something else. -/
def breaksPlain
    (before : Option Char)
    (c : Char)
    (after : List Char) :
    Bool :=
  match before with
  | none =>
      isIndicator c || ((c = '?' || c = ':' || c = '-') && endsWord after)
  | some b =>
      (c = ':' && endsWord after) || (c = '#' && (isGap b || isBreak b))

/-- Whether any character of a text breaks a plain scalar. -/
def anyBreaksPlain
    (before : Option Char) :
    List Char → Bool
  | [] => false
  | c :: s => breaksPlain before c s || anyBreaksPlain (some c) s

/-- Whether somewhere in a text two neighbours have two properties. -/
def anyNeighbours
    (p q : Char → Bool) :
    List Char → Bool
  | [] => false
  | [_] => false
  | c :: d :: s => (p c && q d) || anyNeighbours p q (d :: s)

/-- Whether a text starts with the mark of a document. -/
def startsWithMark (s : List Char) : Bool :=
  s.take 3 = ['-', '-', '-'] || s.take 3 = ['.', '.', '.']

/-- What a text allows. -/
def analyse (s : List Char) : Analysis :=
  if s.isEmpty then
    ⟨false, true, true, false⟩
  else
    let isSpace : Char → Bool := fun c => c = ' '
    let edges := s.head?.toList ++ s.getLast?.toList
    let multiline := s.any isBreak
    let breakSpace := anyNeighbours isBreak isSpace s
    let special := anyNeighbours isSpace isBreak s || s.any fun c => !isPrintable c
    { multiline := multiline
      plainAllowed := !(startsWithMark s || anyBreaksPlain none s || multiline || breakSpace
        || special || edges.any fun c => isSpace c || isBreak c)
      singleAllowed := !(breakSpace || special)
      blockAllowed := !(s.getLast? = some ' ' || special) }

def wantedStyle (s : String) : ScalarStyle :=
  if s.toList.contains '\n' then
    .literal
  else
    match Value.ofPlain? s with
    | some (.string _) => if isZeroPadded s.toList then .singleQuoted else .plain
    | _ => .singleQuoted

/-- The style that a text is written in, as a key on one line or anywhere else. -/
def chosenStyle
    (asKey : Bool)
    (a : Analysis)
    (wanted : ScalarStyle) :
    ScalarStyle :=
  let quoted := if a.singleAllowed then ScalarStyle.singleQuoted else .doubleQuoted
  match wanted with
  | .plain => if a.plainAllowed then .plain else quoted
  | .singleQuoted => quoted
  | .literal => if a.blockAllowed && !asKey then .literal else .doubleQuoted
  | other => other

/-- The digits of a number in base sixteen, with zeros up to a width. -/
def hexText
    (width code : Nat) :
    List Char :=
  let digits := (Nat.toDigits 16 code).map Char.toUpper
  List.replicate (width - digits.length) '0' ++ digits

/-- A character in double quotes. -/
def escapeChar (c : Char) : List Char :=
  let code := c.toNat
  if isPrintable c && !isBreak c && c ≠ '"' && c ≠ '\\' then
    [c]
  else if c = '\x00' then ['\\', '0']
  else if c = '\x07' then ['\\', 'a']
  else if c = '\x08' then ['\\', 'b']
  else if c = '\t' then ['\\', 't']
  else if c = '\n' then ['\\', 'n']
  else if c = '\x0b' then ['\\', 'v']
  else if c = '\x0c' then ['\\', 'f']
  else if c = '\r' then ['\\', 'r']
  else if c = '\x1b' then ['\\', 'e']
  else if c = '"' || c = '\\' then ['\\', c]
  else if c = '\u0085' then ['\\', 'N']
  else if c = '\u00a0' then ['\\', '_']
  else if c = '\u2028' then ['\\', 'L']
  else if c = '\u2029' then ['\\', 'P']
  else if code ≤ 0xff then '\\' :: 'x' :: hexText 2 code
  else if code ≤ 0xffff then '\\' :: 'u' :: hexText 4 code
  else '\\' :: 'U' :: hexText 8 code

/-- Lines below a key, each with an indentation of two. `atStart` says that a line starts here. -/
def indented
    (atStart : Bool) :
    List Char → List Char
  | [] => []
  | c :: s =>
      if isBreak c then c :: indented true s
      else if atStart then ' ' :: ' ' :: c :: indented false s
      else c :: indented false s

/-- A text between single quotes. After a break the closing quote is indented as well. -/
def singleQuoted (s : List Char) : List Char :=
  let body := (indented false s).flatMap fun c => if c = '\'' then ['\'', '\''] else [c]
  let closing := if s.getLast?.any isBreak then [' ', ' ', '\''] else ['\'']
  '\'' :: body ++ closing

/-- The hints after the indicator of a literal block: its indentation where it starts with blank, and
what becomes of its last breaks. -/
def literalHints (s : List Char) : List Char :=
  let indentation := if s.head?.any fun c => c = ' ' || isBreak c then ['2'] else []
  let chomping := match s.reverse with
    | c :: before =>
        if !isBreak c then ['-']
        else if before.isEmpty || before.head?.any isBreak then ['+']
        else []
    | [] => ['-']
  indentation ++ chomping

def scalarText
    (style : ScalarStyle)
    (s : List Char) :
    List Char :=
  match style with
  | .plain => s
  | .singleQuoted => singleQuoted s
  | .doubleQuoted => '"' :: s.flatMap escapeChar ++ ['"']
  | _ => '|' :: literalHints s ++ '\n' :: indented true s

/-- Ends the line that a text ends in, unless it is ended. -/
def endLine (s : List Char) : List Char :=
  if s.getLast?.any isBreak then s else s ++ ['\n']

/-- The most bytes that a key on one line may have. -/
def maxKeySize : Nat := 128

/-- One entry of a block mapping. A key of several lines, or a long one, is announced by a question
mark. -/
def entryLines
    (key value : String) :
    List Char :=
  let keyAnalysis := analyse key.toList
  let isShort := !keyAnalysis.multiline && key.utf8ByteSize ≤ maxKeySize
  let keyText := scalarText (chosenStyle isShort keyAnalysis (wantedStyle key)) key.toList
  let valueText :=
    scalarText (chosenStyle false (analyse value.toList) (wantedStyle value)) value.toList
  if isShort then
    endLine (keyText ++ ':' :: ' ' :: valueText)
  else
    endLine ('?' :: ' ' :: keyText) ++ endLine (':' :: ' ' :: valueText)

/-- A dictionary of strings as a document. -/
def printDict (d : Dict String) : String :=
  match d with
  | [] => "\x7b\x7d\n"
  | _ => String.ofList (d.flatMap fun e => entryLines e.1 e.2)

def readDict (n : Node) : Reading (Dict String) := do
  let fields ← n.fields
  let texts ← fields.mapM fun f => do
    let text ← f.2.text
    return (f.1, text)
  return Dict.ofList texts

/-- The dictionary of strings that a document is; `none` for any other document. -/
def parseDict? (s : String) : Option (Dict String) :=
  (Node.read? (Node.optional readDict) s.toList).map fun d => d.getD []

end Yaml
end Runbook
