import Runbook.Tool.Input
import Runbook.Tool.Options

/-!
# Passing files on

The tools that write what they read: as it is, with marks for what does not show, line by line
backwards, or to several files at once.
-/

namespace Runbook
namespace Tool

/-! ## Forwards -/

/-- How files are shown: which lines are numbered, whether empty lines are shown once only, and which
characters are shown by marks. -/
structure CatStyle where
  numbers : Bool
  numbersFilled : Bool
  squeezes : Bool
  ends : Bool
  tabs : Bool
  marks : Bool
  deriving DecidableEq, Repr, Inhabited

/-- Whether files are shown as they are. -/
def CatStyle.isPlain (s : CatStyle) : Bool :=
  !(s.numbers || s.numbersFilled || s.squeezes || s.ends || s.tabs || s.marks)

/-- A character with marks for what does not show. -/
def marked (c : Char) : Octets :=
  let low (n : Nat) : Octets :=
    if n < 32 then ['^', Char.ofNat (n + 64)] else if n = 127 then ['^', '?'] else [Char.ofNat n]
  if c.toNat < 128 then low c.toNat else 'M' :: '-' :: low (c.toNat - 128)

/-- A character as a style shows it. -/
def CatStyle.char
    (s : CatStyle)
    (c : Char) :
    Octets :=
  if c = '\t' then (if s.tabs then ['^', 'I'] else [c])
  else if s.marks then marked c
  else [c]

/-- Where in the lines of all files the work is: the number of the next line, how many empty lines came
last, and whether a line has been begun. -/
structure CatPlace where
  number : Nat
  empties : Nat
  inLine : Bool
  deriving DecidableEq, Repr, Inhabited

def CatStyle.line
    (s : CatStyle)
    (at_ : CatPlace)
    (text : Octets)
    (ended : Bool) :
    Octets × CatPlace :=
  let isEmpty := text.isEmpty && !at_.inLine
  let empties := if isEmpty then at_.empties + 1 else 0
  if isEmpty && s.squeezes && 1 < empties then ([], { at_ with empties := empties })
  else
    let isNumbered := !at_.inLine && (if s.numbersFilled then !isEmpty else s.numbers)
    let number := if isNumbered then Octets.padLeft 6 ' ' (Octets.ofNat at_.number) ++ ['\t'] else []
    let text := if s.ends && ended && text.getLast? = some '\r' && !s.marks then
      text.dropLast.flatMap s.char ++ ['^', 'M'] else text.flatMap s.char
    let stop : Octets := if !ended then [] else if s.ends then ['$', '\n'] else ['\n']
    (number ++ text ++ stop,
      ⟨if isNumbered then at_.number + 1 else at_.number, empties, !ended⟩)

def catForms : List OptionForm :=
  [ flag "b" ["number-nonblank"], flag "n" ["number"], flag "s" ["squeeze-blank"],
    flag "v" ["show-nonprinting"], flag "E" ["show-ends"], flag "T" ["show-tabs"],
    flag "A" ["show-all"] ] ++ flags "etu"

/-- Whether an open file is the one that output goes to, with something in it to be read. -/
def isOutput (descriptor : Nat) : Work Bool := do
  match ← Work.ask (.statusOf descriptor), ← Work.ask (.statusOf 1) with
  | .ok s, .ok t =>
      return s.kind = .file && t.kind = .file && s.identity = t.identity && 0 < s.size
  | _, _ => return false

/-- Writes files one after the other. -/
def cat : Tool :=
  simple 1 fun words => do
    let a ← Work.arguments catForms 1 words
    let style : CatStyle :=
      { numbers := a.has "n"
        numbersFilled := a.has "b"
        squeezes := a.has "s"
        ends := a.has "A" || a.has "e" || a.has "E"
        tabs := a.has "A" || a.has "t" || a.has "T"
        marks := a.has "A" || a.has "e" || a.has "t" || a.has "v" }
    let showPlain (d : Nat) : Work (Except FileFault Unit) := do
      Work.foldPieces (fun _ data => Work.say data) () (Reader.of d)
    let showStyled (at_ : CatPlace) (d : Nat) : Work (Except FileFault CatPlace) := do
      let step (at_ : CatPlace) (text : Octets) (ended : Bool) : Work (CatPlace × Bool) := do
        let (shown, next) := style.line at_ text ended
        Work.say shown
        return (next, true)
      return (← Work.foldRows '\n' step at_ (Reader.of d)).map Prod.fst
    let _ ← Work.foldAll
      (fun (at_ : CatPlace) path => do
        match ← Work.openInput path with
        | .error e => do
            Work.complainOf path e
            return at_
        | .ok d => do
            Work.flush
            let next ←
              if ← isOutput d then do
                Work.complain (Quoting.shellBeforeColon path
                  ++ ": input file is output file".toList)
                pure at_
              else if style.isPlain then do
                match ← showPlain d with
                | .ok () => pure at_
                | .error e => do
                    Work.complainOf path e
                    pure at_
              else do
                match ← showStyled at_ d with
                | .ok next => pure next
                | .error e => do
                    Work.complainOf path e
                    pure at_
            Work.closeInput d
            return next)
      ⟨1, 0, false⟩ (Work.inputs a.operands)

/-- Writes its input to the output and to files. -/
def tee : Tool :=
  simple 1 fun words => do
    let a ← Work.arguments
      [flag "a" ["append"], flag "i" ["ignore-interrupts"], flag "p" []] 1 words
    let mode : OpenMode := if a.has "a" then .appending else .writing
    let targets ← Work.foldAll
      (fun (targets : List (Octets × Nat)) path => do
        match ← Work.ask (.openFile path mode) with
        | .ok d => return targets ++ [(path, d)]
        | .error e => do
            Work.complainOf path e
            return targets)
      [] a.operands
    let step (_ : Unit) (data : Octets) : Work Unit := do
      Work.say data
      Work.flush
      Work.forAll
        (fun t => do
          match ← Work.act (Act.writeTo t.2 data) with
          | .ok () => pure ()
          | .error e => Work.complainOf t.1 e)
        targets
    match ← Work.foldPieces step () (Reader.of 0) with
    | .ok () => pure ()
    | .error e => Work.complain ("read error: ".toList ++ e.reason.toList)

/-! ## Backwards -/

/-- Writes lines with their characters in reverse. -/
def rev : Tool :=
  simple 1 fun words => do
    let a ← Work.arguments [flag "0" ["zero"]] 1 words
    let stop : Char := if a.has "0" then '\x00' else '\n'
    let step (_ : Unit) (text : Octets) (ended : Bool) : Work (Unit × Bool) := do
      Work.say (text.reverse ++ if ended then [stop] else [])
      return ((), true)
    Work.forAll
      (fun path => do
        match ← Work.openInput path with
        | .error e =>
            Work.complain ("cannot open ".toList ++ path ++ ": ".toList ++ e.reason.toList)
        | .ok d => do
            match ← Work.foldRows stop step () (Reader.of d) with
            | .ok _ => pure ()
            | .error e => Work.complain (path ++ ": ".toList ++ e.reason.toList)
            Work.closeInput d)
      (Work.inputs a.operands)

/-- Cuts a text at a row of characters, which stays at the end of each part. -/
def partsWithEnd
    (stop : Octets) :
    Nat → Octets → Octets → List Octets
  | 0, part, _ => [part.reverse]
  | _, part, [] => if part.isEmpty then [] else [part.reverse]
  | fuel + 1, part, c :: s =>
      if stop.isPrefixOf (c :: s) then
        (stop.reverse ++ part).reverse :: partsWithEnd stop fuel [] ((c :: s).drop stop.length)
      else partsWithEnd stop fuel (c :: part) s

/-- Writes the lines of files, the last one first. -/
def tac : Tool :=
  simple 1 fun words => do
    let a ← Work.arguments
      [flag "b" ["before"], flag "r" ["regex"], valued "s" ["separator"]] 1 words
    let stop := (a.value? "s").getD ['\n']
    let stop : Octets := if stop.isEmpty then ['\x00'] else stop
    Work.forAll
      (fun path => do
        match ← Work.openInput path with
        | .error e =>
            Work.complain ("failed to open ".toList ++ Quoting.shellAlways path
              ++ " for reading: ".toList ++ e.reason.toList)
        | .ok d => do
            match ← Work.act (Act.readAll d) with
            | .error e =>
                let e : FileFault := if e = .isDirectory then .invalid else e
                Work.complain (Quoting.shellBeforeColon path ++ ": read error: ".toList
                  ++ e.reason.toList)
            | .ok data =>
                if a.has "b" then
                  let parts := partsWithEnd stop (data.length + 1) [] data
                  let heads : List Octets := [] :: parts.map fun p =>
                    if stop.isSuffixOf p then stop else []
                  let bodies := parts.map fun p =>
                    if stop.isSuffixOf p then p.take (p.length - stop.length) else p
                  let ends := stop.isSuffixOf data
                  let rows := (heads.zip (bodies ++ if ends then [[]] else [])).map fun r =>
                    r.1 ++ r.2
                  Work.forAll Work.say rows.reverse
                else
                  Work.forAll Work.say (partsWithEnd stop (data.length + 1) [] data).reverse
            Work.closeInput d)
      (Work.inputs a.operands)

end Tool
end Runbook
