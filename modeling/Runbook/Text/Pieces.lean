/-!
# Blank characters and pieces of a text

Which characters count as blank, and the three ways of cutting them off the ends of a text; lines, parts
between separators, occurrences of one text inside another, and their replacement. The algorithms work
on lists of characters; `trim` and its companions on strings wrap them.
-/

namespace Runbook
namespace Text

/-- A character with the Unicode property `White_Space`. -/
def isBlank (c : Char) : Bool :=
  let n := c.toNat
  n == 0x20 || (0x09 ≤ n && n ≤ 0x0d) || n == 0x85 || n == 0xa0 || n == 0x1680 ||
    (0x2000 ≤ n && n ≤ 0x200a) || n == 0x2028 || n == 0x2029 || n == 0x202f ||
    n == 0x205f || n == 0x3000

/-- The text without its leading blanks. -/
def trimLeft (s : List Char) : List Char :=
  s.dropWhile isBlank

/-- The text without its trailing blanks. -/
def trimRight : List Char → List Char
  | [] => []
  | c :: s =>
      match trimRight s with
      | [] => if isBlank c then [] else [c]
      | t => c :: t

/-- The text without its leading and trailing blanks. -/
def trim (s : List Char) : List Char :=
  trimRight (trimLeft s)

def allBlank (s : List Char) : Bool :=
  s.all isBlank

def trimString (s : String) : String :=
  String.ofList (trim s.toList)

def trimStringRight (s : String) : String :=
  String.ofList (trimRight s.toList)

/-! ## Pieces of a text -/

/-- The parts of a text between the occurrences of `sep`; there is always at least one. -/
def splitOn
    (sep : Char) :
    List Char → List (List Char)
  | [] => [[]]
  | c :: s =>
      if c = sep then
        [] :: splitOn sep s
      else
        match splitOn sep s with
        | [] => [[c]]
        | part :: parts => (c :: part) :: parts

/-- The lines of a text, each with its line feed; only the last one may lack it. -/
def lineSegments : List Char → List (List Char)
  | [] => []
  | c :: s =>
      if c = '\n' then
        ['\n'] :: lineSegments s
      else
        match lineSegments s with
        | [] => [[c]]
        | line :: rest => (c :: line) :: rest

/-- A line without its terminator, which is a line feed or a carriage return and a line feed. -/
def withoutTerminator (line : List Char) : List Char :=
  if line.getLast? = some '\n' then
    let body := line.dropLast
    if body.getLast? = some '\r' then body.dropLast else body
  else
    line

/-- The lines of a text without their terminators. -/
def lines (s : List Char) : List (List Char) :=
  (lineSegments s).map withoutTerminator

/-- What follows `pre`, when the text starts with it. -/
def dropPrefix? : List Char → List Char → Option (List Char)
  | [], s => some s
  | _ :: _, [] => none
  | p :: pre, c :: s => if p = c then dropPrefix? pre s else none

/-- What precedes `suf`, when the text ends with it. -/
def dropSuffix?
    (suf s : List Char) :
    Option (List Char) :=
  (dropPrefix? suf.reverse s.reverse).map List.reverse

def occursIn
    (part : List Char) :
    List Char → Bool
  | [] => part.isEmpty
  | c :: s => part.isPrefixOf (c :: s) || occursIn part s

def endsWith
    (suf s : List Char) :
    Bool :=
  suf.isSuffixOf s

/-- Every leftmost, non-overlapping occurrence of `pattern` replaced by a text; the first argument
counts the characters of the last occurrence that are still to be dropped. -/
def replaceFrom
    (pattern replacement : List Char) :
    Nat → List Char → List Char
  | _, [] => []
  | skip + 1, _ :: s => replaceFrom pattern replacement skip s
  | 0, c :: s =>
      if pattern.isPrefixOf (c :: s) then
        replacement ++ replaceFrom pattern replacement (pattern.length - 1) s
      else
        c :: replaceFrom pattern replacement 0 s

/-- Replacement of every occurrence of a non-empty pattern, from left to right. -/
def replaceAll
    (pattern replacement s : List Char) :
    List Char :=
  replaceFrom pattern replacement 0 s

/-- Texts joined with a separator between neighbours. -/
def joinWith
    (sep : List Char) :
    List (List Char) → List Char
  | [] => []
  | [t] => t
  | t :: u :: rest => t ++ sep ++ joinWith sep (u :: rest)

/-- Strings joined with a separator between neighbours. -/
def joinStrings
    (sep : String)
    (parts : List String) :
    String :=
  sep.intercalate parts

def occursInString
    (part s : String) :
    Bool :=
  occursIn part.toList s.toList

end Text
end Runbook
