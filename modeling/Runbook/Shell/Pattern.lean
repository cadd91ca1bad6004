import Runbook.Text.Octets

/-!
# Patterns of the shell and of tools

The patterns of the shell, and patterns for names as tools read them.
-/

namespace Runbook

/-!
## Patterns

The patterns of the shell: a star stands for anything, a question mark for one character, brackets
for one of several. A character that is quoted stands for itself.
-/

namespace Shell

/-- A character of a pattern, and whether it is quoted. -/
abbrev PatternChar := Char × Bool

abbrev Pattern := List PatternChar

namespace Pattern

/-- A row of bytes as a pattern, quoted or not. -/
def ofOctets (quoted : Bool) (s : Octets) : Pattern :=
  s.map fun c => (c, quoted)

def chars (p : Pattern) : Octets :=
  p.map Prod.fst

/-- Whether a character belongs to a class. -/
def inClass (name : String) (c : Char) : Bool :=
  match name with
  | "alpha" => c.isAlpha
  | "digit" => c.isDigit
  | "alnum" => c.isAlphanum
  | "upper" => c.isUpper
  | "lower" => c.isLower
  | "space" => c = ' ' || ('\t' ≤ c && c ≤ '\r')
  | "blank" => c = ' ' || c = '\t'
  | "punct" => '!' ≤ c && c ≤ '~' && !c.isAlphanum
  | "print" => ' ' ≤ c && c ≤ '~'
  | "graph" => '!' ≤ c && c ≤ '~'
  | "cntrl" => c < ' ' || c = '\x7f'
  | "xdigit" => c.isDigit || ('a' ≤ c && c ≤ 'f') || ('A' ≤ c && c ≤ 'F')
  | _ => false

/-- What stands between brackets. -/
inductive Member where
  | range (low high : Char)
  | named (name : String)
  deriving Repr, Inhabited

def Member.has (m : Member) (c : Char) : Bool :=
  match m with
  | .range low high => low ≤ c && c ≤ high
  | .named name => inClass name c

/-- The members between brackets, up to the closing one, and what follows it. -/
def members? :
    Nat → Bool → List Member → Pattern → Option (List Member × Pattern)
  | 0, _, _, _ => none
  | _, _, _, [] => none
  | fuel + 1, first, done, (c, quoted) :: s =>
      if c = ']' && !quoted && !first then some (done, s)
      else
        match c = '[' && !quoted, s with
        | true, (':', false) :: rest =>
            let name := rest.takeWhile fun e => e.1 ≠ ':'
            match rest.drop name.length with
            | _ :: (']', _) :: more =>
                members? fuel false (.named (String.ofList (chars name)) :: done) more
            | _ => members? fuel false (.range c c :: done) s
        | _, ('-', false) :: (d, dq) :: rest =>
            if d = ']' && !dq then members? fuel false (.range c c :: done) s
            else members? fuel false (.range c d :: done) rest
        | _, _ => members? fuel false (.range c c :: done) s

/-- Reads a set after its opening bracket: whether it has a character, and what follows it. -/
def set? (p : Pattern) : Option ((Char → Bool) × Pattern) :=
  let (negated, body) : Bool × Pattern := match p with
    | ('!', false) :: rest => (true, rest)
    | ('^', false) :: rest => (true, rest)
    | rest => (false, rest)
  (members? (body.length + 1) true [] body).map fun r =>
    (fun c => (r.1.any fun m => m.has c) != negated, r.2)

/-- The rests of a text that are left when a pattern matches a first part of it. Quoted characters
stand for themselves. -/
def rests : Nat → Pattern → Octets → List Octets
  | 0, _, _ => []
  | _, [], s => [s]
  | fuel + 1, ('*', false) :: p, s =>
      let rec tails : Octets → List Octets
        | [] => [[]]
        | c :: t => (c :: t) :: tails t
      let p := p.dropWhile fun e => e = ('*', false)
      if p.isEmpty then tails s
      else
        (tails s).foldl
          (fun found t =>
            (rests fuel p t).foldl
              (fun f r => if f.any fun q => q.length = r.length then f else f ++ [r]) found)
          []
  | fuel + 1, ('?', false) :: p, s =>
      match s with
      | [] => []
      | _ :: t => rests fuel p t
  | fuel + 1, ('[', false) :: p, s =>
      match set? p, s with
      | some (has, after), c :: t => if has c then rests fuel after t else []
      | some _, [] => []
      | none, '[' :: t => rests fuel p t
      | none, _ => []
  | fuel + 1, (c, _) :: p, s =>
      match s with
      | d :: t => if c = d then rests fuel p t else []
      | [] => []

/-- The rests of a text behind a first part that a pattern matches. -/
def restsOf (p : Pattern) (s : Octets) : List Octets :=
  rests (p.length + 1) p s

/-- Whether a pattern matches a whole text. -/
def isMatch (p : Pattern) (s : Octets) : Bool :=
  (restsOf p s).any List.isEmpty

/-- A text without the shortest or longest first part that a pattern matches. -/
def cutStart (longest : Bool) (p : Pattern) (s : Octets) : Octets :=
  let isBetter (r q : Octets) : Bool :=
    if longest then r.length < q.length else q.length < r.length
  let chosen := (restsOf p s).foldl
    (fun (best : Option Octets) r =>
      match best with
      | none => some r
      | some q => if isBetter r q then some r else some q)
    none
  chosen.getD s

/-- A text without the shortest or longest last part that a pattern matches. -/
def cutEnd (longest : Bool) (p : Pattern) (s : Octets) : Octets :=
  let places := List.range (s.length + 1)
  let tried := if longest then places else places.reverse
  match tried.find? fun n => isMatch p (s.drop n) with
  | some n => s.take n
  | none => s

/-- Whether a pattern has a sign that stands for other characters. -/
def isSpecial (p : Pattern) : Bool :=
  p.any fun e => !e.2 && (e.1 = '*' || e.1 = '?' || e.1 = '[')

end Pattern

end Shell

/-!
## Patterns for names

Patterns as tools read them: like those of the shell, with a backslash in front of characters that stand
for themselves.
-/

namespace Tool
namespace Glob

def read : Octets → Shell.Pattern
  | '\\' :: c :: s => (c, true) :: read s
  | c :: s => (c, false) :: read s
  | [] => []

/-- Letters without capitals. -/
def folded (s : Octets) : Octets :=
  s.map Char.toLower

/-- Whether a pattern matches a text, with or without regard to capitals. -/
def isMatch
    (foldCase : Bool)
    (pattern text : Octets) :
    Bool :=
  if foldCase then (read (folded pattern)).isMatch (folded text)
  else (read pattern).isMatch text

/-- Whether a pattern matches a name, of which a point in front has to be met by a point. -/
def isNameMatch (pattern name : Octets) : Bool :=
  (name.head? ≠ some '.' || pattern.head? = some '.') && isMatch false pattern name

end Glob
end Tool
end Runbook
