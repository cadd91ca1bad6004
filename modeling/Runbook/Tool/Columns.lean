import Runbook.Tool.Input
import Runbook.Tool.Options

/-!
# Lines side by side

The tools that put lines of several files next to each other, that tell which lines two files share,
and that put lines of two ordered files together which share a field.
-/

namespace Runbook
namespace Tool

/-! ## Pasting -/

/-- The separators of a list with escapes; an escaped zero is none. -/
def separators : Nat → Octets → List Octets
  | 0, _ => []
  | _, [] => []
  | fuel + 1, '\\' :: c :: s =>
      let one : Octets := match c with
        | '0' => []
        | 'b' => ['\x08']
        | 'f' => ['\x0c']
        | 'n' => ['\n']
        | 'r' => ['\r']
        | 't' => ['\t']
        | 'v' => ['\x0b']
        | d => [d]
      one :: separators fuel s
  | fuel + 1, c :: s => [c] :: separators fuel s

/-- The separator of a number, where the list starts anew after its end. -/
def separatorAt
    (list : List Octets)
    (n : Nat) :
    Octets :=
  if list.isEmpty then [] else (list[n % list.length]?).getD []

/-- Rows with separators between them. -/
def withSeparators
    (list : List Octets) :
    Nat → List Octets → Octets
  | _, [] => []
  | _, [s] => s
  | n, s :: rest => s ++ separatorAt list n ++ withSeparators list (n + 1) rest

/-- Writes the lines of files next to each other, until all have ended. -/
def pasteAcross
    (stop : Char)
    (list : List Octets)
    (files : List Reader) :
    Work Unit :=
  Work.repeat_ ()
    (fun (readers : List Reader) => do
      let (_, rows) ← Work.foldAll takeRow (readers.find? isShared, []) readers
      if rows.all fun e => e.1.isEmpty then return .inr ()
      else do
        let texts := rows.map fun e => (cutRow stop e.1).1
        Work.say (withSeparators list 0 texts ++ [stop])
        let shared := (rows.map Prod.snd).reverse.find? isShared
        return .inl (rows.map fun e => if isShared e.2 then shared.getD e.2 else e.2))
    Act.rounds files
where
  /-- Whether a reader reads the standard input, which several of them may do. -/
  isShared (r : Reader) : Bool := r.descriptor = 0
  /-- Takes a row from a reader, or from the one that all readers of the standard input share. -/
  takeRow (at_ : Option Reader × List (Octets × Reader)) (r : Reader) :
      Work (Option Reader × List (Octets × Reader)) := do
    let source := if isShared r then at_.1.getD r else r
    let (row, after) ← do
      match ← source.row stop with
      | .ok (row, after) => pure (row, after)
      | .error _ => pure ([], source)
    return (if isShared r then some after else at_.1, at_.2 ++ [(row, after)])

/-- Writes the lines of each file next to each other. -/
def pasteDown
    (stop : Char)
    (list : List Octets)
    (d : Nat) :
    Work (Except FileFault Unit) := do
  match ← Work.act (Act.readAll d) with
  | .error e => return .error e
  | .ok data => do
      Work.say (withSeparators list 0 (Octets.linesBy stop data) ++ [stop])
      return .ok ()

/-- Puts lines next to each other. -/
def paste : Tool :=
  simple 1 fun words => do
    let a ← Work.arguments
      [valued "d" ["delimiters"], flag "s" ["serial"], flag "z" ["zero-terminated"]] 1 words
    let stop : Char := if a.has "z" then '\x00' else '\n'
    let given := (a.value? "d").getD ['\t']
    if given.getLast? = some '\\' && (given.reverse.takeWhile (· = '\\')).length % 2 = 1 then
      Work.fail 1 ("delimiter list ends with an unescaped backslash: ".toList ++ given)
    let list := separators (given.length + 1) given
    let files := Work.inputs a.operands
    if a.has "s" then
      Work.forAll
        (fun path => do
          match ← Work.openInput path with
          | .error e => Work.complainOf path e
          | .ok d => do
              match ← pasteDown stop list d with
              | .ok () => pure ()
              | .error e => Work.complainOf path e
              Work.closeInput d)
        files
    else
      let readers ← files.mapM fun path => do
        match ← Work.openInput path with
        | .ok d => return Reader.of d
        | .error e =>
            Work.fail 1 (Quoting.shellBeforeColon path ++ ": ".toList ++ e.reason.toList)
      pasteAcross stop list readers

/-! ## Shared lines -/

def rowsOfFile
    (stop : Char)
    (path : Octets) :
    Work (List Octets) := do
  match ← Work.readWhole path with
  | .ok data => return Octets.linesBy stop data
  | .error e => Work.fail 1 (Quoting.shellBeforeColon path ++ ": ".toList ++ e.reason.toList)

/-- What is done about lines that are not in order. -/
inductive Watch where
  | never
  | unpaired
  | always
  deriving DecidableEq, Repr, Inhabited

/-- How shared lines are shown: which columns are left out, and what is written between columns and
behind lines. -/
structure Comparison where
  hidesFirst : Bool
  hidesSecond : Bool
  hidesBoth : Bool
  between : Octets
  watch : Watch
  stop : Char
  deriving Repr, Inhabited

/-- One of two files: its number, the line at hand, the one before, and whether it was complained
about. -/
structure Side where
  number : String
  line : Option Octets
  before : Option Octets
  blamed : Bool
  deriving Repr, Inhabited

/-- Two files that are compared: what is to be read of each, both from the same source if that is so,
whether a line was seen that only one of them has, and the counts. -/
structure Sharing where
  first : Side
  second : Side
  firstRows : List Octets
  secondRows : List Octets
  isOne : Bool
  unpaired : Bool
  counts : Nat × Nat × Nat
  deriving Repr, Inhabited

/-- Complains about a file if a line is less than the one before. -/
def Comparison.watchOver
    (c : Comparison)
    (unpaired : Bool)
    (side : Side)
    (before line : Octets) :
    Work Side := do
  let watches := c.watch = .always || (c.watch = .unpaired && unpaired)
  if watches && !side.blamed && Octets.compare before line = .gt then
    let number := side.number
    let message := (s!"file {number} is not in sorted order").toList
    if c.watch = .always then Work.fail 1 message
    Work.complain message
    return { side with blamed := true }
  else return side

/-- Takes the next line of a file, if there is one. -/
def Comparison.step
    (c : Comparison)
    (unpaired : Bool)
    (side : Side)
    (next : Option Octets) :
    Work Side := do
  match next, side.line, side.before with
  | some line, some at_, _ =>
      c.watchOver unpaired { side with line := some line, before := some at_ } at_ line
  | none, some at_, some before =>
      c.watchOver unpaired { side with line := none, before := some at_ } before at_
  | next, at_, _ => return { side with line := next, before := at_ }

namespace Sharing

/-- Goes on in the first file. -/
def stepFirst
    (c : Comparison)
    (s : Sharing) :
    Work Sharing := do
  let side ← c.step s.unpaired s.first s.firstRows.head?
  return { s with
    first := side
    firstRows := s.firstRows.drop 1
    secondRows := if s.isOne then s.firstRows.drop 1 else s.secondRows }

/-- Goes on in the second file. -/
def stepSecond
    (c : Comparison)
    (s : Sharing) :
    Work Sharing := do
  let side ← c.step s.unpaired s.second s.secondRows.head?
  return { s with
    second := side
    secondRows := s.secondRows.drop 1
    firstRows := if s.isOne then s.secondRows.drop 1 else s.firstRows }

/-- Shows the lesser of the two lines at hand, or the one that both are, and goes on behind it. -/
def advance
    (c : Comparison)
    (s : Sharing) :
    Work (Sharing ⊕ Sharing) := do
  let one := if c.hidesFirst then [] else c.between
  let two := if c.hidesSecond then [] else c.between
  let sayFirst (line : Octets) : Work Sharing := do
    if !c.hidesFirst then Work.say (line ++ [c.stop])
    stepFirst c { s with unpaired := true, counts := (s.counts.1 + 1, s.counts.2) }
  let saySecond (line : Octets) : Work Sharing := do
    if !c.hidesSecond then Work.say (one ++ line ++ [c.stop])
    stepSecond c { s with
      unpaired := true, counts := (s.counts.1, s.counts.2.1 + 1, s.counts.2.2) }
  match s.first.line, s.second.line with
  | none, none => return .inr s
  | some a, none => return .inl (← sayFirst a)
  | none, some b => return .inl (← saySecond b)
  | some a, some b =>
      match Octets.compare a b with
      | .lt => return .inl (← sayFirst a)
      | .gt => return .inl (← saySecond b)
      | .eq => do
          if !c.hidesBoth then Work.say (one ++ two ++ b ++ [c.stop])
          let s := { s with counts := (s.counts.1, s.counts.2.1, s.counts.2.2 + 1) }
          return .inl (← stepSecond c (← stepFirst c s))

end Sharing

/-- What a table of shared lines looks like. -/
def comparisonOf (a : Arguments) : Work Comparison := do
  let between ← match (a.values "output-delimiter").eraseDups with
    | [] => pure ['\t']
    | [word] => pure (if word.isEmpty then ['\x00'] else word)
    | _ => Work.failText 1 "multiple output delimiters specified"
  return {
    hidesFirst := a.has "1"
    hidesSecond := a.has "2"
    hidesBoth := a.has "3"
    between := between
    watch := match a.last? ["check-order", "nocheck-order"] with
      | some "check-order" => .always
      | some _ => .never
      | none => .unpaired
    stop := if a.has "z" then '\x00' else '\n' }

/-- Shows which lines two ordered files share. The standard input, if it is both of them, cannot be
closed twice, which is complained about in the end. -/
def comm : Tool :=
  simple 1 fun words => do
    let a ← Work.arguments
      (flags "123" ++ [flag "check-order" ["check-order"], flag "nocheck-order" ["nocheck-order"],
        valued "output-delimiter" ["output-delimiter"], flag "total" ["total"],
        flag "z" ["zero-terminated"]]) 1 words
    let c ← comparisonOf a
    match a.operands with
    | [] => Work.missingOperand 1 none
    | [word] => Work.missingOperand 1 (some word)
    | _ :: _ :: extra :: _ => Work.extraOperand 1 extra
    | [first, second] => do
        let isOne := first = Work.dash && second = Work.dash
        let rows₁ ← rowsOfFile c.stop first
        let rows₂ ← if isOne then pure (rows₁.drop 1) else rowsOfFile c.stop second
        let start : Sharing :=
          { first := ⟨"1", rows₁.head?, none, false⟩
            second := ⟨"2", rows₂.head?, none, false⟩
            firstRows := if isOne then rows₂.drop 1 else rows₁.drop 1
            secondRows := rows₂.drop 1
            isOne := isOne
            unpaired := false
            counts := (0, 0, 0) }
        let total := rows₁.length + rows₂.length + 1
        let done ← Work.repeat_ start (Sharing.advance c) total start
        if isOne then Work.fail 1 (Work.dash ++ ": Bad file descriptor".toList)
        if a.has "total" then
          let number := Octets.ofNat
          Work.say (number done.counts.1 ++ c.between ++ number done.counts.2.1 ++ c.between
            ++ number done.counts.2.2 ++ c.between ++ "total".toList ++ [c.stop])
        if done.first.blamed || done.second.blamed then
          Work.failText 1 "input is not in sorted order"

/-! ## Joining -/

namespace Join

/-- What is written of a field: the shared one, or the one of a number in a file. -/
inductive Output where
  | shared
  | field (second : Bool) (number : Nat)
  deriving DecidableEq, Repr, Inhabited

/-- How lines are joined. -/
structure Plan where
  field₁ : Nat
  field₂ : Nat
  separator : Option Char
  empty : Octets
  outputs : List Output
  folds : Bool
  pairs : Bool
  rest₁ : Bool
  rest₂ : Bool
  stop : Char
  deriving Repr, Inhabited

def Plan.fields
    (p : Plan)
    (line : Octets) :
    List Octets :=
  match p.separator with
  | some c => Octets.splitOn c line
  | none =>
      ((Octets.splitOn ' ' (line.map fun c => if c = '\t' || c = '\n' then ' ' else c)).filter
        fun f => !f.isEmpty)

/-- What stands between fields. -/
def Plan.between (p : Plan) : Octets :=
  [p.separator.getD ' ']

def fieldOf
    (n : Nat)
    (fields : List Octets) :
    Octets :=
  (fields[n]?).getD []

/-- The order of two shared fields. -/
def Plan.compare
    (p : Plan)
    (a b : Octets) :
    Ordering :=
  if p.folds then Octets.compare (a.map Char.toUpper) (b.map Char.toUpper) else Octets.compare a b

/-- The line for fields of either or both files. -/
def Plan.line
    (p : Plan)
    (first second : Option (List Octets)) :
    Octets :=
  let filled (s : Octets) : Octets := if s.isEmpty then p.empty else s
  let key := match first, second with
    | some f, _ => fieldOf p.field₁ f
    | none, some s => fieldOf p.field₂ s
    | none, none => []
  let others (n : Nat) (fields : Option (List Octets)) : List Octets :=
    (fields.getD []).eraseIdx n
  let row :=
    if p.outputs.isEmpty then key :: others p.field₁ first ++ others p.field₂ second
    else p.outputs.map fun
      | .shared => key
      | .field false n => fieldOf n (first.getD [])
      | .field true n => fieldOf n (second.getD [])
  Octets.intercalate p.between (row.map filled) ++ [p.stop]

/-- Puts lines together; `left` and `right` are in order. -/
def Plan.lines (p : Plan) : Nat → List (List Octets) → List (List Octets) → List Octets
  | 0, _, _ => []
  | _, [], right => if p.rest₂ then right.map fun s => p.line none (some s) else []
  | _, left, [] => if p.rest₁ then left.map fun f => p.line (some f) none else []
  | fuel + 1, f :: left, s :: right =>
      let a := fieldOf p.field₁ f
      let b := fieldOf p.field₂ s
      match p.compare a b with
      | .lt => (if p.rest₁ then [p.line (some f) none] else []) ++ lines p fuel left (s :: right)
      | .gt => (if p.rest₂ then [p.line none (some s)] else []) ++ lines p fuel (f :: left) right
      | .eq =>
          let isSame (n : Nat) (row : List Octets) : Bool := p.compare (fieldOf n row) a = .eq
          let group₁ := f :: left.takeWhile (isSame p.field₁)
          let group₂ := s :: right.takeWhile (isSame p.field₂)
          (if p.pairs then
            group₁.flatMap fun x => group₂.map fun y => p.line (some x) (some y) else [])
            ++ lines p fuel ((f :: left).drop group₁.length) ((s :: right).drop group₂.length)

def readField (word : Octets) : Work Nat := do
  match digitsIn? 10 word with
  | some 0 => Work.fail 1 ("invalid field number: ".toList ++ Quoting.plain word)
  | some n => return n - 1
  | none => Work.fail 1 ("invalid field number: ".toList ++ Quoting.plain word)

def readOutputs (word : Octets) : Work (List Output) := do
  let parts := ((word.map fun c => if c = ',' || c = '\t' then ' ' else c))
  let items := (Octets.splitOn ' ' parts).filter fun s => !s.isEmpty
  items.mapM fun item => do
    match item with
    | ['0'] => return .shared
    | '1' :: '.' :: n => return .field false (← readField n)
    | '2' :: '.' :: n => return .field true (← readField n)
    | _ => Work.fail 1 ("invalid field specifier: ".toList ++ Quoting.plain item)

def forms : List OptionForm :=
  [ valued "a" [], valued "e" [], flag "i" ["ignore-case"], valued "j" [], valued "o" [],
    valued "t" [], valued "v" [], valued "1" [], valued "2" [], flag "check" ["check-order"],
    flag "nocheck" ["nocheck-order"], flag "header" ["header"], flag "z" ["zero-terminated"] ]

/-- Whether a list of numbers of files has one. -/
def chosen
    (a : Arguments)
    (keys : List String)
    (number : String) :
    Bool :=
  keys.any fun k => (a.values k).contains number.toList

/-- Joins two files. -/
def tool : Tool :=
  simple 1 fun words => do
    let a ← Work.arguments forms 1 words
    match a.operands with
    | [] => Work.missingOperand 1 none
    | [word] => Work.missingOperand 1 (some word)
    | first :: second :: rest => do
        match rest with
        | extra :: _ => Work.extraOperand 1 extra
        | [] => pure ()
        let fieldFor (key : String) : Work Nat := do
          match a.value? key, a.value? "j" with
          | some word, _ => readField word
          | none, some word => readField word
          | none, none => return 0
        let separator : Option Char ← match a.value? "t" with
          | none => pure none
          | some [c] => pure (some c)
          | some [] => pure (some '\n')
          | some ['\\', '0'] => pure (some '\x00')
          | some word => Work.fail 1 ("multi-character tab ".toList ++ Quoting.plain word)
        let p : Plan :=
          { field₁ := ← fieldFor "1"
            field₂ := ← fieldFor "2"
            separator := separator
            empty := (a.value? "e").getD []
            outputs := ← match a.value? "o" with
              | some word => if word = "auto".toList then pure [] else readOutputs word
              | none => pure []
            folds := a.has "i"
            pairs := (a.values "v").isEmpty
            rest₁ := chosen a ["a", "v"] "1"
            rest₂ := chosen a ["a", "v"] "2"
            stop := if a.has "z" then '\x00' else '\n' }
        let rows₁ ← rowsOfFile p.stop first
        let rows₂ ← rowsOfFile p.stop second
        let left := rows₁.map p.fields
        let right := rows₂.map p.fields
        let (heads, left, right) : List Octets × List (List Octets) × List (List Octets) :=
          match a.has "header", left, right with
          | true, f :: s, g :: t => ([p.line (some f) (some g)], s, t)
          | _, _, _ => ([], left, right)
        let lines := heads ++ p.lines (left.length + right.length + 1) left right
        Work.forAll Work.say lines
        let wrong? (n : Nat) (rows : List (List Octets)) : Option Nat :=
          ((rows.zip (rows.drop 1)).findIdx? fun e =>
            p.compare (fieldOf n e.1) (fieldOf n e.2) = .gt).map (· + 2)
        let complainOf (path : Octets) (n : Nat) (rows : List Octets) : Work Unit :=
          Work.complain (path ++ ':' :: Octets.ofNat n ++ ": is not sorted: ".toList
            ++ (rows[n - 1]?).getD [])
        if !a.has "nocheck" && !a.has "header" then
          match wrong? p.field₁ left with
          | some n => complainOf first n rows₁
          | none => pure ()
          match wrong? p.field₂ right with
          | some n => complainOf second n rows₂
          | none => pure ()
          if (wrong? p.field₁ left).isSome || (wrong? p.field₂ right).isSome then
            Work.complain "input is not in sorted order".toList

end Join
end Tool
end Runbook
