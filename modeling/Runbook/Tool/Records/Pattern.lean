import Runbook.Regex.Matching
import Runbook.Regex.Basic
import Runbook.Tool.Records.Syntax

/-!
# Patterns, records and fields

The patterns of programs, and how they cut a text into records and fields.
-/

namespace Runbook
namespace Tool
namespace Records

/-!
## Patterns of programs

A pattern is a regular expression in the extended notation with escapes. Every sign needs what it works
on, so that there is no empty branch and no empty group.
-/

namespace Pattern

/-- What stands in front of a place in a pattern: nothing that a sign could work on, the start of the
text, or something else. -/
inductive Before where
  | nothing
  | start
  | operand
  deriving DecidableEq, Repr, Inhabited

/-- What is said about a class or a set that is not right. -/
def badSet : String :=
  "bad class -- [], [^] or ["

/-- What is said about something missing. -/
def missingOperand : String :=
  "missing operand"

/-- What is said about an error. -/
def messageOf : RegexError → String
  | .openGroup => "missing ')'"
  | .openInterval => "bad interval expression"
  | .badInterval => "bad interval expression"
  | .badRepeat => missingOperand
  | .tooBig => "resource exhaustion -- regular expression too large"
  | _ => badSet

/-- The first fault of a pattern from a place on, where so many groups are open. -/
def faultFrom : Nat → Before → Nat → Octets → Option String
  | 0, _, _, _ => none
  | _, .nothing, _, [] => some missingOperand
  | _, _, open_, [] => if open_ = 0 then none else some (messageOf .openGroup)
  | fuel + 1, before, open_, c :: s =>
      let bare := before = .nothing
      match c with
      | '(' =>
          if s.isEmpty then some (messageOf .openGroup) else faultFrom fuel .nothing (open_ + 1) s
      | ')' =>
          if open_ = 0 then faultFrom fuel .operand 0 s
          else if bare then some missingOperand
          else faultFrom fuel .operand (open_ - 1) s
      | '|' => if bare then some missingOperand else faultFrom fuel .nothing open_ s
      | '?' => if bare then some missingOperand else faultFrom fuel .operand open_ s
      | '^' => faultFrom fuel .start open_ s
      | '\\' => faultFrom fuel .operand open_ (Regex.escapedChar (s.headD '\\') (s.drop 1)).2
      | '[' =>
          match Regex.readSet .escaped s with
          | .error e => some (messageOf e)
          | .ok (_, rest) => faultFrom fuel .operand open_ rest
      | _ =>
          if c = '*' || c = '+' then
            match before with
            | .nothing => some missingOperand
            | .start => some "syntax error ^* or ^+"
            | .operand => faultFrom fuel .operand open_ s
          else faultFrom fuel .operand open_ s

/-- Reads a pattern, or tells what is wrong with it. -/
def read (s : Octets) : Except String Regex :=
  if s.isEmpty then .ok .empty
  else
    match faultFrom (s.length + 1) .nothing 0 s with
    | some message => .error message
    | none =>
        match Regex.parse .escaped s with
        | .ok (r, _) => .ok r
        | .error e => .error (messageOf e)

/-- What is said about a pattern that cannot be read. -/
def complaint
    (message : String)
    (source : Octets) :
    Octets :=
  "regular expression compile failed (".toList ++ message.toList ++ ")\n".toList ++ source

/-- What the text of a separator separates by: a blank stands for gaps of any length, another single
character for itself, and nothing for every place between characters. -/
def separator (s : Octets) : Except String Separator :=
  match s with
  | [] => .ok .each
  | [' '] => .ok .gaps
  | [c] => .ok (.char c)
  | _ => (read s).map .pattern

end Pattern

/-!
## Records, fields and matches

How a text is cut into fields, how records are cut off the front of what was read, and how matches are
replaced.
-/

/-! ### Fields -/

/-- Whether a character is a gap between fields. -/
def isFieldGap (c : Char) : Bool :=
  c = ' ' || c = '\t' || c = '\n'

/-- The words of a text between gaps, behind those already found, which are held in reverse. -/
def wordsFrom : Nat → List Octets → Octets → List Octets
  | 0, done, _ => done.reverse
  | fuel + 1, done, s =>
      match s.dropWhile isFieldGap with
      | [] => done.reverse
      | c :: t =>
          let word := c :: t.takeWhile fun d => !isFieldGap d
          wordsFrom fuel (word :: done) (t.drop (word.length - 1))

/-- The parts of a text between the matches of an expression, from a place on, behind those already
found, which are held in reverse. A match of nothing separates nothing. -/
def partsBetween
    (r : Regex)
    (t : Regex.Subject) :
    Nat → Nat → Nat → List Octets → List Octets
  | 0, start, _, done => (t.slice start t.chars.size :: done).reverse
  | fuel + 1, start, from_, done =>
      match Regex.search? r t from_ with
      | none => (t.slice start t.chars.size :: done).reverse
      | some (a, b, _) =>
          if a = b then partsBetween r t fuel start (a + 1) done
          else partsBetween r t fuel b b (t.slice start a :: done)

/-- The parts that a separator cuts a text into. -/
def Separator.split (sep : Separator) (s : Octets) : List Octets :=
  if s.isEmpty then []
  else
    match sep with
    | .gaps => wordsFrom (s.length + 1) [] s
    | .each => s.map fun c => [c]
    | .char c => Octets.splitOn c s
    | .pattern r => partsBetween r (Regex.subject false s) (2 * s.length + 2) 0 0 []

/-! ### Records -/

/-- What ends a record: a character, empty lines, or a match of an expression. -/
inductive RecordEnd where
  | char (c : Char)
  | paragraphs
  | pattern (r : Regex)
  deriving Repr, Inhabited

/-- The first match of an expression that is not empty. -/
def firstMatch?
    (r : Regex)
    (t : Regex.Subject) :
    Nat → Nat → Option (Nat × Nat)
  | 0, _ => none
  | fuel + 1, start =>
      match Regex.search? r t start with
      | some (a, b, _) => if a = b then firstMatch? r t fuel (a + 1) else some (a, b)
      | none => none

/-- What stands in front of the first empty line, and what follows the empty lines. -/
def paragraph? : Octets → Octets → Option (Octets × Octets)
  | _, [] => none
  | done, '\n' :: '\n' :: s => some (done.reverse, s.dropWhile (· = '\n'))
  | done, c :: s => paragraph? (c :: done) s

/-- The first record of what was read, and what follows it; nothing if more must be read to tell. At the
end what is left is a record, if there is anything. -/
def RecordEnd.take? (e : RecordEnd) (isEnd : Bool) (s : Octets) : Option (Octets × Octets) :=
  match e with
  | .char c =>
      let row := s.takeWhile (· ≠ c)
      match s.drop row.length with
      | _ :: rest => some (row, rest)
      | [] => if isEnd && !s.isEmpty then some (s, []) else none
  | .paragraphs =>
      let t := s.dropWhile (· = '\n')
      let found := paragraph? [] t
      let isSure := found.any fun p => !p.2.isEmpty
      if isSure then found
      else if !isEnd then none
      else
        match found with
        | some p => some p
        | none =>
            if t.isEmpty then none
            else some (if t.getLast? = some '\n' then t.dropLast else t, [])
  | .pattern r =>
      let t := Regex.subject false s
      match firstMatch? r t (s.length + 2) 0 with
      | some (a, b) =>
          if b < s.length || isEnd then some (t.slice 0 a, s.drop b) else none
      | none => if isEnd && !s.isEmpty then some (s, []) else none

/-! ### Matches -/

/-- A part of a replacement: a text, or the match. -/
inductive ReplacementPart where
  | text (s : Octets)
  | found
  deriving DecidableEq, Repr, Inhabited

/-- The parts of a replacement. An ampersand is the match, unless a backslash stands in front of it; two
backslashes there stand for one. -/
def replacementFrom : Nat → Octets → Octets → List ReplacementPart
  | 0, done, _ => [.text done.reverse]
  | _, done, [] => [.text done.reverse]
  | fuel + 1, done, '&' :: s => .text done.reverse :: .found :: replacementFrom fuel [] s
  | fuel + 1, done, c :: s =>
      if c = '\\' then
        let count := (c :: s).takeWhile (· = '\\') |>.length
        let rest := (c :: s).drop count
        match rest with
        | '&' :: behind =>
            let kept := List.replicate (count / 2) '\\' ++ done
            if count % 2 = 0 then .text kept.reverse :: .found :: replacementFrom fuel [] behind
            else replacementFrom fuel ('&' :: kept) behind
        | _ => replacementFrom fuel (List.replicate count '\\' ++ done) rest
      else replacementFrom fuel (c :: done) s

/-- The text that a replacement puts in the place of a match. -/
def fillReplacement (parts : List ReplacementPart) (found : Octets) : Octets :=
  parts.flatMap fun p => match p with
    | .text s => s
    | .found => found

/-- Replaces matches from a place on. `behind` is the end of the last match if it was not empty: no empty
match is looked at there. The result is in pieces, the last one first, with the number of
replacements. -/
def replaceFrom
    (r : Regex)
    (t : Regex.Subject)
    (all : Bool)
    (fill : Octets → Octets) :
    Nat → Nat → Option Nat → List Octets → Nat → List Octets × Nat
  | 0, start, _, done, count => (t.slice start t.chars.size :: done, count)
  | fuel + 1, start, behind, done, count =>
      let size := t.chars.size
      match Regex.search? r t start with
      | none => (t.slice start size :: done, count)
      | some (a, b, _) =>
          let lead := t.slice start a
          if a = b && behind = some a then
            replaceFrom r t all fill fuel (a + 1) none (t.slice a (a + 1) :: lead :: done) count
          else
            let text := fill (t.slice a b)
            if !all then (t.slice b size :: text :: lead :: done, count + 1)
            else if a = b then
              replaceFrom r t all fill fuel (a + 1) none
                (t.slice a (a + 1) :: text :: lead :: done) (count + 1)
            else replaceFrom r t all fill fuel b (some b) (text :: lead :: done) (count + 1)

/-- A text with its first match or all of its matches replaced, and how many there were. -/
def replaceMatches
    (r : Regex)
    (all : Bool)
    (replacement s : Octets) :
    Octets × Nat :=
  let parts := replacementFrom (replacement.length + 1) [] replacement
  let (pieces, count) := replaceFrom r (Regex.subject false s) all (fillReplacement parts)
    (2 * s.length + 3) 0 none [] 0
  (pieces.reverse.flatten, count)

end Records
end Tool
end Runbook
