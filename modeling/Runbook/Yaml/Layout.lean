import Runbook.Yaml.ScalarText
import Runbook.Yaml.Property

/-!
# The layout of a YAML stream

Text becomes tokens here. Indentation opens and closes block collections, and a colon turns what
stands before it on its line into a key, so that the token that opens the key is put in after the
key has been read. A key may lie back at most 1024 characters.
-/

namespace Runbook
namespace Yaml

/-- A token that may turn out to start a key: how many tokens stand before it, and where it starts.
A required one must turn out to be a key. -/
structure PossibleKey where
  required : Bool
  number : Nat
  index : Nat
  line : Nat
  column : Nat
  deriving Repr, Inhabited

/-- A stream read up to the cursor. The newest token comes first. `level` is the column right of the
indentation of the innermost block, zero outside all blocks, and `levels` those around it. `key` is
the possible key of the innermost brackets, and `outerKeys` has one entry for each pair of brackets
around it. -/
structure Layout where
  cursor : Cursor
  tokens : List Token
  count : Nat
  level : Nat
  levels : List Nat
  keyAllowed : Bool
  key : Option PossibleKey
  outerKeys : List (Option PossibleKey)
  deriving Repr, Inhabited

namespace Layout

def start (s : List Char) : Layout :=
  ⟨Cursor.ofText s, [], 0, 0, [], true, none, []⟩

/-- Whether the cursor is inside brackets. -/
def inFlow (l : Layout) : Bool :=
  !l.outerKeys.isEmpty

/-- Adds a token at the end. -/
def push
    (l : Layout)
    (t : Token) :
    Layout :=
  { l with tokens := t :: l.tokens, count := l.count + 1 }

/-- Adds a token before the token with a number. -/
def insertAt
    (l : Layout)
    (number : Nat)
    (t : Token) :
    Layout :=
  let newer := l.count - number
  { l with
    tokens := l.tokens.take newer ++ t :: l.tokens.drop newer
    count := l.count + 1 }

/-- Passes blanks, comments and breaks. Outside brackets a break makes a key possible, and a tab is
no indentation. A mark of byte order may start a line, where it takes a column. -/
def skipToToken : Nat → Layout → Layout
  | 0, l => l
  | fuel + 1, l =>
      let c := l.cursor
      let c := if c.column = 0 && c.sees (· = '\ufeff') then c.advance 1 else c
      let tabs := l.inFlow || !l.keyAllowed
      let c := (c.dropWhile fun ch => ch = ' ' || (tabs && ch = '\t')).dropComment
      if c.sees isBreak then
        skipToToken fuel
          { l with cursor := c.takeBreak.2, keyAllowed := l.keyAllowed || !l.inFlow }
      else
        { l with cursor := c }

/-- Whether a possible key lies too far back. -/
def PossibleKey.isStale
    (k : PossibleKey)
    (c : Cursor) :
    Bool :=
  k.line < c.line || k.index + 1024 < c.index

/-- Gives up a possible key that lies too far back; `none` when it was required. -/
def freshKey
    (c : Cursor) :
    Option PossibleKey → Option (Option PossibleKey)
  | none => some none
  | some k =>
      if PossibleKey.isStale k c then
        if k.required then none else some none
      else
        some (some k)

/-- Gives up all possible keys that lie too far back. -/
def dropStaleKeys
    (l : Layout) :
    Option Layout :=
  match freshKey l.cursor l.key, l.outerKeys.mapM (freshKey l.cursor) with
  | some key, some outer => some { l with key := key, outerKeys := outer }
  | _, _ => none

/-- Gives up the possible key of the innermost brackets; `none` when it was required. -/
def dropKey
    (l : Layout) :
    Option Layout :=
  if l.key.any PossibleKey.required then none else some { l with key := none }

/-- Notes that a key may start here. -/
def noteKey
    (l : Layout) :
    Option Layout :=
  if l.keyAllowed then
    let c := l.cursor
    let required := !l.inFlow && l.level = c.column + 1
    l.dropKey.map fun m =>
      { m with key := some ⟨required, l.count, c.index, c.line, c.column⟩ }
  else
    some l

/-- Closes the blocks whose indentation is not below `level`. -/
def closeBlocks
    (level : Nat) :
    List Nat → Layout → Layout
  | [], l => l
  | outer :: rest, l =>
      if level < l.level then
        closeBlocks level rest { l.push .blockEnd with level := outer, levels := rest }
      else
        l

/-- Closes blocks, which only happens outside brackets. -/
def unindent
    (l : Layout)
    (level : Nat) :
    Layout :=
  if l.inFlow then l else closeBlocks level l.levels l

/-- Opens a block at a column before the token with a number, unless one is open there already. -/
def indent
    (l : Layout)
    (column : Nat)
    (number : Nat)
    (t : Token) :
    Layout :=
  if !l.inFlow && l.level < column + 1 then
    { l.insertAt number t with level := column + 1, levels := l.level :: l.levels }
  else
    l

/-- Adds a token of `n` characters and passes them. -/
def take
    (l : Layout)
    (n : Nat)
    (t : Token) :
    Layout :=
  { l.push t with cursor := l.cursor.advance n }

/-- Adds a token that was read up to a cursor. -/
def takeTo
    (l : Layout)
    (c : Cursor)
    (t : Token) :
    Layout :=
  { l.push t with cursor := c }

/-- Sets whether a key may start at the next token. -/
def allowKey
    (l : Layout)
    (allowed : Bool) :
    Layout :=
  { l with keyAllowed := allowed }

def openFlow
    (l : Layout)
    (t : Token) :
    Option Layout :=
  l.noteKey.map fun m =>
    ({ m with key := none, outerKeys := m.key :: m.outerKeys }.allowKey true).take 1 t

def closeFlow
    (l : Layout)
    (t : Token) :
    Option Layout :=
  l.dropKey.map fun m =>
    let outer := match m.outerKeys with
      | [] => m
      | k :: rest => { m with key := k, outerKeys := rest }
    (outer.allowKey false).take 1 t

/-- The hyphen of a block sequence. -/
def takeItem (l : Layout) : Option Layout :=
  if !l.inFlow && !l.keyAllowed then
    none
  else
    (l.indent l.cursor.column l.count .blockSequence).dropKey.map fun m =>
      (m.allowKey true).take 1 .item

/-- The question mark of a key. -/
def takeKey (l : Layout) : Option Layout :=
  if !l.inFlow && !l.keyAllowed then
    none
  else
    (l.indent l.cursor.column l.count .blockMapping).dropKey.map fun m =>
      (m.allowKey (!l.inFlow)).take 1 .key

/-- The colon of a value. A possible key becomes a key. -/
def takeValue (l : Layout) : Option Layout :=
  match l.key with
  | some k =>
      let keyed := (l.insertAt k.number .key).indent k.column k.number .blockMapping
      some (({ keyed with key := none }.allowKey false).take 1 .value)
  | none =>
      if !l.inFlow && !l.keyAllowed then
        none
      else
        let opened := l.indent l.cursor.column l.count .blockMapping
        some ((opened.allowKey (!l.inFlow)).take 1 .value)

/-- A directive, a mark of a document, or any other token at the start of a line outside brackets
closes all blocks. -/
def takeMark
    (l : Layout)
    (token : Token × Cursor) :
    Option Layout :=
  (l.unindent 0).dropKey.map fun m => (m.allowKey false).takeTo token.2 token.1

/-- A property, alias or scalar that may start a key. -/
def takeNode
    (l : Layout)
    (read : Cursor → Option (Token × Cursor)) :
    Option Layout :=
  match l.noteKey, read l.cursor with
  | some m, some (t, c) => some ((m.allowKey false).takeTo c t)
  | _, _ => none

def takeBlock
    (l : Layout)
    (style : ScalarStyle) :
    Option Layout :=
  match l.dropKey, readBlock (style = .folded) l.level (l.cursor.advance 1) with
  | some m, some (text, c) => some ((m.allowKey true).takeTo c (.scalar style (String.ofList text)))
  | _, _ => none

def takePlain (l : Layout) : Option Layout :=
  let c := l.cursor
  match l.noteKey, readPlain l.inFlow l.level (c.rest.length + 1) Gap.none [] c with
  | some m, some (text, broken, next) =>
      some ((m.allowKey broken).takeTo next (.scalar .plain (String.ofList text)))
  | _, _ => none

def quoted
    (mark : Char)
    (style : ScalarStyle)
    (c : Cursor) :
    Option (Token × Cursor) :=
  (readQuoted mark (c.rest.length + 1) [] (c.advance 1)).map fun p =>
    (.scalar style (String.ofList p.1), p.2)

/-- Whether a plain scalar may start with a text. -/
def startsPlain
    (inFlow : Bool)
    (s : List Char) :
    Bool :=
  match s with
  | [] => false
  | c :: t =>
      if c = '-' then !(t.head?.any isGap)
      else if c = '?' || c = ':' then !inFlow && !endsWord t
      else !(isGap c || isBreak c || ",[]\x7b\x7d#&*!|>'\"%@\x60".toList.contains c)

/-- The next token, which starts at the cursor. -/
def takeToken (l : Layout) : Option Layout :=
  let c := l.cursor
  let tail := c.rest.drop 1
  if c.column = 0 && c.sees (· = '%') then
    (readDirective c).bind l.takeMark
  else if c.atDocumentMark then
    l.takeMark (if c.sees (· = '-') then .documentStart else .documentEnd, c.advance 3)
  else
    match c.rest.head? with
    | none => none
    | some '[' => l.openFlow .flowSequence
    | some '\x7b' => l.openFlow .flowMapping
    | some ']' => l.closeFlow .flowSequenceEnd
    | some '\x7d' => l.closeFlow .flowMappingEnd
    | some ',' => l.dropKey.map fun m => (m.allowKey true).take 1 .comma
    | some '*' => l.takeNode fun c => (readName c).map fun p => (.alias p.1, p.2)
    | some '&' => l.takeNode fun c => (readName c).map fun p => (.anchor p.1, p.2)
    | some '!' => l.takeNode (readTag l.inFlow)
    | some '\'' => l.takeNode (quoted '\'' .singleQuoted)
    | some '"' => l.takeNode (quoted '"' .doubleQuoted)
    | some ch =>
        if ch = '-' && endsWord tail then l.takeItem
        else if ch = '?' && (l.inFlow || endsWord tail) then l.takeKey
        else if ch = ':' && (l.inFlow || endsWord tail) then l.takeValue
        else if ch = '|' && !l.inFlow then l.takeBlock .literal
        else if ch = '>' && !l.inFlow then l.takeBlock .folded
        else if startsPlain l.inFlow c.rest then l.takePlain
        else none

/-- The end of the stream closes all blocks. -/
def finish (l : Layout) : Option (List Token) :=
  (l.unindent 0).dropKey.map fun m => m.tokens.reverse

def run : Nat → Layout → Option (List Token)
  | 0, _ => none
  | fuel + 1, l =>
      match (skipToToken (l.cursor.rest.length + 1) l).dropStaleKeys with
      | none => none
      | some m =>
          let settled := m.unindent (m.cursor.column + 1)
          if settled.cursor.rest.isEmpty then settled.finish
          else settled.takeToken.bind (run fuel)

end Layout

/-- The tokens of a stream; `none` for a text that is no stream of tokens. -/
def tokens?
    (s : List Char) :
    Option (List Token) :=
  if s.all isAllowed then Layout.run (s.length + 1) (Layout.start s) else none

end Yaml
end Runbook
