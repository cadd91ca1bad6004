import Runbook.Number.Reading
import Runbook.Text.Octets

/-!
# Regular expressions

The expressions that tools search by, and how they are read. There are two notations: in the basic
one the special marks need a backslash, in the extended one they are special as they stand.
-/

namespace Runbook

/-- A set of characters, given by ranges. -/
structure CharSet where
  negated : Bool
  ranges : List (Char × Char)
  deriving DecidableEq, Repr, Inhabited

namespace CharSet

/-- Whether a character belongs to a set. -/
def has (s : CharSet) (c : Char) : Bool :=
  (s.ranges.any fun r => r.1 ≤ c && c ≤ r.2) != s.negated

/-- The characters of a named class. -/
def named? (name : String) : Option (List (Char × Char)) :=
  match name with
  | "alpha" => some [('A', 'Z'), ('a', 'z')]
  | "digit" => some [('0', '9')]
  | "alnum" => some [('0', '9'), ('A', 'Z'), ('a', 'z')]
  | "upper" => some [('A', 'Z')]
  | "lower" => some [('a', 'z')]
  | "space" => some [('\t', '\r'), (' ', ' ')]
  | "blank" => some [('\t', '\t'), (' ', ' ')]
  | "punct" => some [('!', '/'), (':', '@'), ('[', '\x60'), ('\x7b', '~')]
  | "print" => some [(' ', '~')]
  | "graph" => some [('!', '~')]
  | "cntrl" => some [('\x00', '\x1f'), ('\x7f', '\x7f')]
  | "xdigit" => some [('0', '9'), ('A', 'F'), ('a', 'f')]
  | _ => none

def wordRanges : List (Char × Char) :=
  [('0', '9'), ('A', 'Z'), ('_', '_'), ('a', 'z')]

/-- The characters between words. -/
def spaceRanges : List (Char × Char) :=
  [('\t', '\r'), (' ', ' ')]

/-- Whether a character belongs to words. -/
def isWordChar (c : Char) : Bool :=
  wordRanges.any fun r => r.1 ≤ c && c ≤ r.2

end CharSet

/-- A place that an expression may ask for without taking any character. -/
inductive Edge where
  | lineStart
  | lineEnd
  | textStart
  | textEnd
  | wordStart
  | wordEnd
  | wordEdge
  | inside
  deriving DecidableEq, Repr, Inhabited

/-- A regular expression. -/
inductive Regex where
  | empty
  | char (c : Char)
  | any
  | set (s : CharSet)
  | edge (e : Edge)
  | back (group : Nat)
  | group (number : Nat) (r : Regex)
  | seq (a b : Regex)
  | alt (a b : Regex)
  | rep (r : Regex) (least : Nat) (most : Option Nat)
  deriving Repr, Inhabited

/-- Why an expression cannot be read. -/
inductive RegexError where
  | openGroup
  | closeGroup
  | openSet
  | openInterval
  | badInterval
  | badClass
  | badRange
  | badBack
  | badRepeat
  | badElement
  | badPattern
  | bareClass
  | trailingBackslash
  | tooBig
  deriving DecidableEq, Repr, Inhabited

def RegexError.message : RegexError → String
  | .openGroup => "Unmatched ( or \\("
  | .closeGroup => "Unmatched ) or \\)"
  | .openSet => "Unmatched [, [^, [:, [., or [="
  | .openInterval => "Unmatched \\\x7b"
  | .badInterval => "Invalid content of \\\x7b\\\x7d"
  | .badClass => "Invalid character class name"
  | .badRange => "Invalid range end"
  | .badBack => "Invalid back reference"
  | .badRepeat => "Invalid preceding regular expression"
  | .badElement => "Invalid collation character"
  | .badPattern => "Invalid regular expression"
  | .bareClass => "character class syntax is [[:space:]], not [:space:]"
  | .trailingBackslash => "Trailing backslash"
  | .tooBig => "Regular expression too big"

/-- A sign of a notation. -/
inductive RegexSign where
  | item (r : Regex)
  | repeat_ (least : Nat) (most : Option Nat)
  | open_
  | close_
  | bar
  | ignored (c : Char)
  deriving Repr, Inhabited

/-- What becomes of a sign for repetition that has nothing to repeat. -/
inductive BareRepeat where
  | literal
  | ignored
  | invalid
  deriving DecidableEq, Repr, Inhabited

/-- How expressions are written. With `escapes`, a backslash and a letter may stand for a control
character, also in sets, and sets are read leniently. `looseGroups` lets a closing parenthesis stand for
itself that closes nothing, and `looseIntervals` lets a brace stand for itself that opens no interval.
With `singleRepeats`, nothing is repeated twice in the basic notation. With `checksClasses`, a class
outside of brackets is an error. With `looseEdges`, what asks for a place may be repeated. -/
structure RegexStyle where
  extended : Bool
  escapes : Bool
  bareRepeat : BareRepeat
  looseGroups : Bool
  looseIntervals : Bool
  singleRepeats : Bool
  checksClasses : Bool
  looseEdges : Bool
  deriving DecidableEq, Repr, Inhabited

namespace RegexStyle

def basic : RegexStyle :=
  ⟨false, false, .literal, false, false, false, false, false⟩

/-- The basic notation for searching lines. -/
def searchBasic : RegexStyle :=
  { basic with checksClasses := true, looseEdges := true }

/-- The basic notation for editing lines. -/
def editBasic : RegexStyle :=
  { basic with singleRepeats := true, checksClasses := true }

/-- The extended notation for searching lines. -/
def searchExtended : RegexStyle :=
  ⟨true, false, .ignored, true, true, false, true, true⟩

/-- The extended notation for editing lines. -/
def editExtended : RegexStyle :=
  ⟨true, false, .invalid, false, false, false, true, false⟩

/-- The extended notation with escapes for control characters. -/
def escaped : RegexStyle :=
  ⟨true, true, .invalid, true, true, false, false, true⟩

end RegexStyle

/-!
## Reading regular expressions

An expression is cut into signs first, since in the basic notation some characters are special only
beside others, and the signs are put together then.
-/

namespace Regex

/-- The member of a set in brackets between a mark and itself, such as a class between colons. -/
def bracketed?
    (mark : Char) :
    Nat → Octets → Octets → Option (Octets × Octets)
  | 0, _, _ => none
  | _, _, [] => none
  | fuel + 1, done, c :: s =>
      if c = mark && s.head? = some ']' then some (done.reverse, s.drop 1)
      else bracketed? mark fuel (c :: done) s

/-- The characters that escapes in sets stand for. -/
def controlChar? : Char → Option Char
  | 'n' => some '\n'
  | 't' => some '\t'
  | 'r' => some '\r'
  | 'f' => some '\x0c'
  | 'v' => some '\x0b'
  | 'a' => some '\x07'
  | 'b' => some '\x08'
  | _ => none

/-- The character that an escape stands for, by what follows its backslash, and what follows the escape:
a control character, one by its number in base eight or sixteen, or the next character itself. -/
def escapedChar
    (c : Char)
    (s : Octets) :
    Char × Octets :=
  let byNumber (base most : Nat) (digits : Octets) : Option (Char × Octets) :=
    let found := (digits.take most).takeWhile fun d => (digitValue? d).any (· < base)
    (digitsIn? base found).map fun n => (Char.ofNat (n % 256), digits.drop found.length)
  match controlChar? c with
  | some d => (d, s)
  | none =>
      if c = 'x' then (byNumber 16 2 s).getD (c, s)
      else (byNumber 8 3 (c :: s)).getD (c, s)

/-- One end of a range in a set, and what follows it. -/
def setChar
    (escapes : Bool)
    (c : Char)
    (s : Octets) :
    Except RegexError (Char × Octets) :=
  match escapes && c = '\\', s with
  | true, e :: rest => .ok (escapedChar e rest)
  | _, _ =>
      match c, s with
      | '[', mark :: rest =>
          if !escapes && (mark = '.' || mark = '=') then
            match bracketed? mark (rest.length + 1) [] rest with
            | some ([d], after) => .ok (d, after)
            | some _ => .error .badElement
            | none => .error .openSet
          else .ok (c, s)
      | _, _ => .ok (c, s)

/-- Whether a hyphen at the front of a text stands between the ends of a range. -/
def startsRange : Octets → Bool
  | '-' :: c :: _ => c ≠ ']'
  | _ => false

/-- The members of a set up to the closing bracket, and what follows it. -/
def setMembers
    (escapes : Bool) :
    Nat → Bool → List (Char × Char) → Octets → Except RegexError (List (Char × Char) × Octets)
  | 0, _, _, _ => .error .openSet
  | _, _, _, [] => .error .openSet
  | fuel + 1, first, done, c :: s =>
      if c = ']' && !first then .ok (done, s)
      else if c = '[' && s.head? = some ':' then
        match bracketed? ':' (s.length + 1) [] (s.drop 1) with
        | none => .error .openSet
        | some (name, rest) =>
            match CharSet.named? (String.ofList name) with
            | none => .error .badClass
            | some ranges =>
                if !escapes && startsRange rest then .error .badRange
                else setMembers escapes fuel false (done ++ ranges) rest
      else if !escapes && c = '-' && !first && s.head? ≠ some ']' && !s.isEmpty then
        .error .badRange
      else
        match setChar escapes c s with
        | .error e => .error e
        | .ok (low, rest) =>
            match rest with
            | '-' :: e :: more =>
                if e = ']' then setMembers escapes fuel false (done ++ [(low, low)]) rest
                else if e = '[' && more.head? = some ':' then .error .badRange
                else
                  match setChar escapes e more with
                  | .error f => .error f
                  | .ok (high, after) =>
                      if high < low then
                        if escapes then
                          setMembers escapes fuel false
                            (done ++ [(low, low), ('-', '-'), (high, high)]) after
                        else .error .badRange
                      else setMembers escapes fuel false (done ++ [(low, high)]) after
            | _ => setMembers escapes fuel false (done ++ [(low, low)]) rest

/-- Whether what stands between brackets looks like a class. -/
def isBareClass (body : Octets) : Bool :=
  let content := body.takeWhile (· ≠ ']')
  content.head? = some ':' && content.getLast? = some ':' && content.any (· ≠ ':')
    && content.length < body.length

/-- A set after its opening bracket. -/
def readSet
    (style : RegexStyle)
    (s : Octets) :
    Except RegexError (Regex × Octets) :=
  let (negated, body) := match s with
    | '^' :: t => (true, t)
    | t => (false, t)
  if body.isEmpty then .error .badPattern
  else if style.checksClasses && isBareClass s then .error .bareClass
  else
    (setMembers style.escapes (body.length + 1) true [] body).map fun p =>
      (.set ⟨negated, p.1⟩, p.2)

/-- The decimal number at the front of a text, if there is one, and what follows it. -/
def leadingNat? (s : Octets) : Option Nat × Octets :=
  let digits := s.takeWhile Char.isDigit
  ((String.ofList digits).toNat?, s.drop digits.length)

/-- The text up to the sign that closes an interval, and what follows it. -/
def intervalText?
    (extended : Bool) :
    Octets → Octets → Option (Octets × Octets)
  | _, [] => none
  | done, '\x7d' :: s =>
      if extended then some (done.reverse, s) else intervalText? extended ('\x7d' :: done) s
  | done, '\\' :: '\x7d' :: s =>
      if extended then intervalText? extended ('\\' :: done) ('\x7d' :: s)
      else some (done.reverse, s)
  | done, c :: s => intervalText? extended (c :: done) s

/-- How often an interval allows its expression, after the opening brace; and what follows it. -/
def readInterval
    (extended : Bool)
    (s : Octets) :
    Except RegexError ((Nat × Option Nat) × Octets) :=
  match intervalText? extended [] s with
  | none => .error .openInterval
  | some (text, rest) =>
      let bounds? : Option (Nat × Option Nat) := match leadingNat? text with
        | (some n, []) => some (n, some n)
        | (some n, [',']) => some (n, none)
        | (none, [',']) => some (0, none)
        | (least?, ',' :: t) =>
            match leadingNat? t with
            | (some most, []) => some (least?.getD 0, some most)
            | _ => none
        | _ => none
      match bounds? with
      | none => .error .badInterval
      | some (least, most) =>
          if most.any fun m => decide (m < least) then .error .badInterval
          else if 32767 < most.getD least then .error .tooBig
          else .ok ((least, most), rest)

/-- What a backslash and a character stand for in the notations without other escapes, apart from
groups. -/
def escapedItem (c : Char) : Regex :=
  match c with
  | 'w' => .set ⟨false, CharSet.wordRanges⟩
  | 'W' => .set ⟨true, CharSet.wordRanges⟩
  | 's' => .set ⟨false, CharSet.spaceRanges⟩
  | 'S' => .set ⟨true, CharSet.spaceRanges⟩
  | 'b' => .edge .wordEdge
  | 'B' => .edge .inside
  | '<' => .edge .wordStart
  | '>' => .edge .wordEnd
  | '\x60' => .edge .textStart
  | '\'' => .edge .textEnd
  | _ => if '1' ≤ c && c ≤ '9' then .back (c.toNat - 48) else .char c

/-- Whether a sign could be repeated by what follows it. -/
def isRepeatable (style : RegexStyle) : Option RegexSign → Bool
  | none => false
  | some .open_ => false
  | some .bar => false
  | some (.ignored _) => false
  | some (.item (.edge .lineStart)) => false
  | some (.item (.edge _)) => style.looseEdges
  | some _ => true

/-- Whether a dollar sign of the basic notation ends its branch before this text. -/
def endsBranch : Octets → Bool
  | [] => true
  | '\\' :: ')' :: _ => true
  | '\\' :: '|' :: _ => true
  | _ => false

/-- The next sign of the basic notation, and what follows it. -/
def basicSign
    (style : RegexStyle)
    (before : Option RegexSign)
    (c : Char)
    (s : Octets) :
    Except RegexError (RegexSign × Octets) :=
  let starts : Bool := match before with
    | none => true
    | some .open_ => true
    | some .bar => true
    | _ => false
  let isSecond : Bool := style.singleRepeats && match before with
    | some (.repeat_ _ _) => true
    | _ => false
  match c, s with
  | '\\', [] => .error .trailingBackslash
  | '\\', '(' :: rest => .ok (.open_, rest)
  | '\\', ')' :: rest => .ok (.close_, rest)
  | '\\', '|' :: rest => .ok (.bar, rest)
  | '\\', '\x7b' :: rest =>
      if isSecond then .error .badRepeat
      else if isRepeatable style before then
        (readInterval false rest).map fun p => (.repeat_ p.1.1 p.1.2, p.2)
      else if style.singleRepeats then .error .badRepeat
      else .ok (.item (.char '\x7b'), rest)
  | '\\', '+' :: rest =>
      .ok (if isRepeatable style before then .repeat_ 1 none else .item (.char '+'), rest)
  | '\\', '?' :: rest =>
      .ok (if isRepeatable style before then .repeat_ 0 (some 1) else .item (.char '?'), rest)
  | '\\', d :: rest => .ok (.item (escapedItem d), rest)
  | '*', rest =>
      if isSecond then .error .badRepeat
      else .ok (if isRepeatable style before then .repeat_ 0 none else .item (.char '*'), rest)
  | '^', rest => .ok (.item (if starts then .edge .lineStart else .char '^'), rest)
  | '$', rest => .ok (.item (if endsBranch rest then .edge .lineEnd else .char '$'), rest)
  | '.', rest => .ok (.item .any, rest)
  | '[', rest => (readSet style rest).map fun p => (.item p.1, p.2)
  | d, rest => .ok (.item (.char d), rest)

/-- Whether an interval has two numbers, so that it is wrong only by their order. -/
def startsOrdered (s : Octets) : Bool :=
  match intervalText? true [] s with
  | none => false
  | some (text, _) =>
      match leadingNat? text with
      | (some _, ',' :: t) => (leadingNat? t).1.isSome && (leadingNat? t).2.isEmpty
      | _ => false

/-- The next sign of the extended notation, and what follows it. -/
def extendedSign
    (style : RegexStyle)
    (before : Option RegexSign)
    (c : Char)
    (s : Octets) :
    Except RegexError (RegexSign × Octets) :=
  let repeatable := isRepeatable style before
  let repeated (least : Nat) (most : Option Nat) (c : Char) (rest : Octets) :
      Except RegexError (RegexSign × Octets) :=
    if repeatable then .ok (.repeat_ least most, rest)
    else
      match style.bareRepeat with
      | .literal => .ok (.item (.char c), rest)
      | .ignored => .ok (.ignored c, rest)
      | .invalid => .error .badRepeat
  match c, s with
  | '\\', [] => if style.escapes then .ok (.item (.char '\\'), []) else .error .trailingBackslash
  | '\\', d :: rest =>
      if style.escapes then
        let (e, after) := escapedChar d rest
        .ok (.item (.char e), after)
      else .ok (.item (escapedItem d), rest)
  | '(', rest => .ok (.open_, rest)
  | ')', rest => .ok (.close_, rest)
  | '|', rest => .ok (.bar, rest)
  | '*', rest => repeated 0 none '*' rest
  | '+', rest => repeated 1 none '+' rest
  | '?', rest => repeated 0 (some 1) '?' rest
  | '\x7b', rest =>
      let isEmpty := rest.head? = some '\x7d'
      match readInterval true rest with
      | .ok (bounds, after) => repeated bounds.1 bounds.2 '\x7b' after
      | .error e =>
          let isLoose := style.looseIntervals && !isEmpty
            && (e = .openInterval || e = .badInterval) && !startsOrdered rest
          if isLoose then .ok (.item (.char '\x7b'), rest) else .error e
  | '^', rest => .ok (.item (.edge .lineStart), rest)
  | '$', rest => .ok (.item (.edge .lineEnd), rest)
  | '.', rest => .ok (.item .any, rest)
  | '[', rest => (readSet style rest).map fun p => (.item p.1, p.2)
  | d, rest => .ok (.item (.char d), rest)

/-- The signs of an expression, after those already read, which are held in reverse. -/
def signsFrom
    (style : RegexStyle) :
    Nat → List RegexSign → Octets → Except RegexError (List RegexSign)
  | 0, done, _ => .ok done.reverse
  | _, done, [] => .ok done.reverse
  | fuel + 1, done, c :: s =>
      let next := if style.extended then extendedSign style done.head? c s
        else basicSign style done.head? c s
      match next, done with
      | .error e, _ => .error e
      | .ok (.ignored d, rest), .item (.edge .lineStart) :: before =>
          signsFrom style fuel (.ignored d :: before) rest
      | .ok (sign, rest), _ => signsFrom style fuel (sign :: done) rest

/-- Applies the repetitions ahead to an expression. -/
def repeated : Regex → List RegexSign → Regex × List RegexSign
  | r, .repeat_ least most :: rest => repeated (.rep r least most) rest
  | r, rest => (r, rest)

/-- Two expressions one after the other. -/
def then_ : Regex → Regex → Regex
  | .empty, b => b
  | a, .empty => a
  | a, b => .seq a b

/-- An expression up to the end of its group, the signs after it, and how many groups there are. -/
def ofSigns : Nat → Nat → List RegexSign → Except RegexError (Regex × List RegexSign × Nat)
  | 0, groups, signs => .ok (.empty, signs, groups)
  | _, groups, [] => .ok (.empty, [], groups)
  | _, groups, .close_ :: rest => .ok (.empty, .close_ :: rest, groups)
  | fuel + 1, groups, .bar :: rest => do
      let (r, after, count) ← ofSigns fuel groups rest
      return (.alt .empty r, after, count)
  | fuel + 1, groups, .open_ :: rest => do
      let (r, after, count) ← ofSigns fuel (groups + 1) rest
      match after with
      | .close_ :: more =>
          let (whole, behind) := repeated (.group (groups + 1) r) more
          following fuel whole count behind
      | _ => .error .openGroup
  | fuel + 1, groups, .item r :: rest =>
      let (whole, behind) := repeated r rest
      following fuel whole groups behind
  | fuel + 1, groups, .repeat_ _ _ :: rest => ofSigns fuel groups rest
  | fuel + 1, groups, .ignored _ :: rest => ofSigns fuel groups rest
where
  /-- What follows an expression in its branch, and the branches after it. -/
  following (fuel : Nat) (r : Regex) (groups : Nat) (signs : List RegexSign) :
      Except RegexError (Regex × List RegexSign × Nat) := do
    let (rest, after, count) ← ofSigns fuel groups signs
    return (beside r rest, after, count)
  /-- An expression in front of the first branch of another one. -/
  beside (r : Regex) : Regex → Regex
    | .alt a b => .alt (then_ r a) b
    | rest => then_ r rest

/-- The greatest number of a group that an expression refers to. -/
def greatestBack : Regex → Nat
  | .back n => n
  | .group _ r => greatestBack r
  | .seq a b => max (greatestBack a) (greatestBack b)
  | .alt a b => max (greatestBack a) (greatestBack b)
  | .rep r _ _ => greatestBack r
  | _ => 0

/-- The signs of an expression, where a closing parenthesis that closes nothing stands for itself;
`depth` is the number of groups that are open. -/
def settleGroups : Nat → List RegexSign → List RegexSign
  | _, [] => []
  | depth, .open_ :: rest => .open_ :: settleGroups (depth + 1) rest
  | 0, .close_ :: rest => .item (.char ')') :: settleGroups 0 rest
  | depth + 1, .close_ :: rest => .close_ :: settleGroups depth rest
  | depth, sign :: rest => sign :: settleGroups depth rest

def signs
    (style : RegexStyle)
    (pattern : Octets) :
    Except RegexError (List RegexSign) :=
  (signsFrom style (pattern.length + 1) [] pattern).map fun found =>
    if style.looseGroups then settleGroups 0 found else found

/-- Reads an expression, and counts its groups. -/
def parse
    (style : RegexStyle)
    (pattern : Octets) :
    Except RegexError (Regex × Nat) := do
  let signs ← signs style pattern
  let (r, rest, groups) ← ofSigns (2 * signs.length + 2) 0 signs
  if !rest.isEmpty then .error .closeGroup
  else if groups < greatestBack r then .error .badBack
  else return (r, groups)

end Regex

end Runbook
