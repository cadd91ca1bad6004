import Runbook.Tool.Work

/-!
# The input of tools

A tool reads files piece by piece and hands out lines, so that it may stop before the end. A dash
stands for the standard input.
-/

namespace Runbook
namespace Tool

/-- A file that is being read: what was read of it and not handed out yet, and whether its end was
seen. -/
structure Reader where
  descriptor : Nat
  ahead : Octets
  ended : Bool
  deriving Repr, Inhabited

namespace Reader

/-- A file of which nothing was read. -/
def of (descriptor : Nat) : Reader :=
  ⟨descriptor, [], false⟩

/-- How many bytes are asked for at a time. -/
def piece : Nat := 32768

/-- Hands out what comes next, as it comes; nothing at the end. -/
def next (r : Reader) : Work (Except FileFault (Octets × Reader)) := do
  if !r.ahead.isEmpty then return .ok (r.ahead, { r with ahead := [] })
  else if r.ended then return .ok ([], r)
  else
    match ← Work.ask (.read r.descriptor piece) with
    | .error e => return .error e
    | .ok data => return .ok (data, { r with ended := data.isEmpty })

/-- Hands out a row up to and including its end, which is a given character, behind pieces of it that
were read before and are held in reverse; the last row may have no end, and none follows it. -/
def rowBehind
    (stop : Char)
    (r : Reader) :
    Nat → List Octets → Work (Except FileFault (Octets × Reader))
  | 0, before => return .ok (before.reverse.flatten, r)
  | fuel + 1, before => do
      match ← r.next with
      | .error e => return .error e
      | .ok (data, after) =>
          if data.isEmpty then return .ok (before.reverse.flatten, after)
          else
            let row := data.takeWhile (· ≠ stop)
            match data.drop row.length with
            | c :: rest =>
                return .ok (((row ++ [c]) :: before).reverse.flatten, { after with ahead := rest })
            | [] => rowBehind stop after fuel (row :: before)

/-- Hands out a row up to and including its end. -/
def row
    (stop : Char)
    (r : Reader) :
    Work (Except FileFault (Octets × Reader)) :=
  rowBehind stop r Act.rounds []

/-- Gives back what was read and not handed out, so that another program may read it; that fails
quietly where there is no way back. -/
def giveBack (r : Reader) : Work Unit := do
  if !r.ahead.isEmpty then
    let _ ← Work.ask (.seekBack r.descriptor r.ahead.length)

end Reader

/-- A row without its end, and whether it had one. -/
def cutRow
    (stop : Char)
    (row : Octets) :
    Octets × Bool :=
  if row.getLast? = some stop then (row.dropLast, true) else (row, false)

namespace Work

/-- What stands for the standard input. -/
def dash : Octets := ['-']

def openInput (path : Octets) : Work (Except FileFault Nat) := do
  if path = dash then return .ok 0 else ask (.openFile path .reading)

/-- Closes a file that was opened for reading. -/
def closeInput (descriptor : Nat) : Work Unit := do
  if descriptor ≠ 0 then
    let _ ← ask (.close descriptor)

/-- The files to read: the standard input if none is named. -/
def inputs (operands : List Octets) : List Octets :=
  if operands.isEmpty then [dash] else operands

def readWhole (path : Octets) : Work (Except FileFault Octets) := do
  match ← openInput path with
  | .error e => return .error e
  | .ok d =>
      let data ← act (Act.readAll d)
      closeInput d
      return data

/-- Complains about a file by its name. -/
def complainOf
    (path : Octets)
    (fault : FileFault) :
    Work Unit :=
  complain (Quoting.shellBeforeColon path ++ ": ".toList ++ fault.reason.toList)

/-- Opens a file and does something with it, or complains. -/
def withInput
    (path : Octets)
    (body : Nat → Work Unit) :
    Work Unit := do
  match ← openInput path with
  | .error e => complainOf path e
  | .ok d => do
      body d
      closeInput d

/-- Goes through the rows of an open file with a value that changes on the way, until it is told to stop
or the file ends. A row is given without its end, with whether it had one. -/
def foldRows
    {β : Type}
    (stop : Char)
    (body : β → Octets → Bool → Work (β × Bool))
    (first : β)
    (r : Reader) :
    Work (Except FileFault (β × Reader)) :=
  repeat_ (.error .invalid) step Act.rounds (first, r)
where
  /-- Takes one row. -/
  step (at_ : β × Reader) : Work ((β × Reader) ⊕ Except FileFault (β × Reader)) := do
    match ← at_.2.row stop with
    | .error e => return .inr (.error e)
    | .ok (row, after) =>
        if row.isEmpty then return .inr (.ok (at_.1, after))
        else
          let (text, ended) := cutRow stop row
          let (b, goesOn) ← body at_.1 text ended
          if goesOn then return .inl (b, after) else return .inr (.ok (b, after))

/-- Goes through the rows of files, which are read as one; a file that cannot be read is complained
about. -/
def foldFiles
    {β : Type}
    (stop : Char)
    (body : β → Octets → Bool → Work (β × Bool)) :
    β → List Octets → Work β
  | b, [] => pure b
  | b, path :: rest => do
      match ← openInput path with
      | .error e => do
          complainOf path e
          foldFiles stop body b rest
      | .ok d => do
          match ← foldRows stop body b (Reader.of d) with
          | .error e => do
              complainOf path e
              closeInput d
              foldFiles stop body b rest
          | .ok (after, _) => do
              closeInput d
              foldFiles stop body after rest

/-- Goes through the pieces of an open file, as they come. -/
def foldPieces
    {β : Type}
    (body : β → Octets → Work β)
    (first : β)
    (r : Reader) :
    Work (Except FileFault β) :=
  repeat_ (.error .invalid) step Act.rounds (first, r)
where
  /-- Takes one piece. -/
  step (at_ : β × Reader) : Work ((β × Reader) ⊕ Except FileFault β) := do
    match ← at_.2.next with
    | .error e => return .inr (.error e)
    | .ok (data, after) =>
        if data.isEmpty then return .inr (.ok at_.1) else return .inl (← body at_.1 data, after)

end Work

end Tool
end Runbook
