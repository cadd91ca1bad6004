import Runbook.Machine.Basic

/-!
# Answers

How a machine answers the calls of a process. A call is answered at once, or has to wait for another
process or for the clock, or it ends its process by a signal.
-/

namespace Runbook

/-- What becomes of a call. -/
inductive Served (α : Type) where
  | done (m : Machine) (p : Process) (answer : α)
  | waits (p : Process)
  | dies (signal : Nat)

namespace Machine

/-- The signal for writing to a pipe that nobody reads. -/
def pipeSignal : Nat := 13

/-- How many bytes a pipe holds before a writer has to wait. -/
def pipeRoom : Nat := 65536

/-- An answer that changes nothing but what it says. -/
def answered
    {α : Type}
    (m : Machine)
    (p : Process)
    (a : α) :
    Served α :=
  .done m p a

/-- An answer that something was done, or why not. -/
def changed
    (m : Machine)
    (p : Process)
    (result : Except FileFault Machine) :
    Served (Except FileFault Unit) :=
  match result with
  | .ok n => .done n p (.ok ())
  | .error e => .done m p (.error e)

def spot
    (m : Machine)
    (p : Process)
    (final : Bool)
    (path : Octets) :
    Except FileFault Spot :=
  m.disk.locateFrom p.directory final (Octets.toText path)

/-- A path without the slashes at its end, and whether there were any; slashes alone stay. -/
def trimmed (path : Octets) : Octets × Bool :=
  let name := (path.reverse.dropWhile (· = '/')).reverse
  if name.isEmpty then (path, false) else (name, decide (name.length < path.length))

/-! ## Open files -/

def descriptorNamed? (path : Octets) : Option Nat :=
  if path = "/dev/stdin".toList then some 0
  else if path = "/dev/stdout".toList then some 1
  else if path = "/dev/stderr".toList then some 2
  else
    match Text.dropPrefix? "/dev/fd/".toList path with
    | some digits => (String.ofList digits).toNat?
    | none =>
        (Text.dropPrefix? "/proc/self/fd/".toList path).bind fun d => (String.ofList d).toNat?

def opened
    (m : Machine)
    (p : Process)
    (source : Source)
    (mode : OpenMode) :
    Served (Except FileFault Nat) :=
  let (n, number) := m.addFile ⟨source, 0, mode⟩
  let descriptor := p.free
  .done n (p.with_ descriptor number) (.ok descriptor)

def openAt
    (m : Machine)
    (p : Process)
    (path : Octets)
    (mode : OpenMode) :
    Served (Except FileFault Nat) :=
  match descriptorNamed? path with
  | some d =>
      match (p.file? d).bind m.file? with
      | some f => opened m p f.source mode
      | none => answered m p (.error .noEntry)
  | none =>
      let (name, slashed) := trimmed path
      let isMarked := slashed && mode.create
      match spot m p (!mode.exclusive && !isMarked) (if isMarked then name else path) with
      | .error e => answered m p (.error e)
      | .ok (.found place t) =>
          if isMarked then answered m p (.error .isDirectory)
          else if mode.exclusive then answered m p (.error .taken)
          else
            match t with
            | .directory _ =>
                if mode.writable then answered m p (.error .isDirectory)
                else opened m p (.directory place) mode
            | .device kind => opened m p (.device kind) mode
            | .link _ => answered m p (.error .tooManyLinks)
            | .file _ _ =>
                let d := if mode.truncate then m.disk.store place (.text "") else m.disk
                opened (m.onDisk d) p (.file place) mode
      | .ok (.free parent name slash) =>
          if !mode.create then answered m p (.error .noEntry)
          else if isMarked || slash then answered m p (.error .isDirectory)
          else
            let place := parent ++ [name]
            let traits : Traits := ⟨0o666 &&& (0o777 ^^^ p.mask), none, none⟩
            opened (m.onDisk (m.disk.put place (.file (.text "") traits))) p (.file place) mode

def stored?
    (m : Machine)
    (f : OpenFile) :
    Option ByteArray :=
  match f.source with
  | .file place =>
      match m.disk.get? place with
      | some (.file c _) => some (Octets.ofContent c)
      | _ => some (Octets.ofContent (.text ""))
  | .nameless c => some (Octets.ofContent c)
  | _ => none

/-- How many bytes an open file may have, where that is limited. -/
def room?
    (m : Machine)
    (f : OpenFile) :
    Option Nat :=
  match f.source with
  | .file place => (m.disk.get? place).bind FileTree.room?
  | _ => none

/-- Lets an open file hold bytes. -/
def restore
    (m : Machine)
    (number : Nat)
    (f : OpenFile)
    (bytes : ByteArray) :
    Machine :=
  let c := Octets.toContent bytes
  match f.source with
  | .file place => (m.onDisk (m.disk.store place c)).setFile number f
  | .nameless _ => m.setFile number { f with source := .nameless c }
  | _ => m.setFile number f

/-- The bytes before a place in an array, filled up with zeros, then others, then those behind. -/
def overwrite
    (bytes : ByteArray)
    (offset : Nat)
    (data : ByteArray) :
    ByteArray :=
  let gap : ByteArray := ⟨(List.replicate (offset - bytes.size) 0).toArray⟩
  bytes.extract 0 offset ++ gap ++ data ++ bytes.extract (offset + data.size) bytes.size

/-- How many bytes there are up to and including the next line feed. -/
def lineLength
    (bytes : ByteArray)
    (offset : Nat) :
    Nat → Nat → Nat
  | 0, count => count
  | fuel + 1, count =>
      if offset + count < bytes.size then
        if bytes.get! (offset + count) = 10 then count + 1
        else lineLength bytes offset fuel (count + 1)
      else count

/-- Takes bytes from the chunks of a pipe. -/
def takeChunks
    (count : Nat) :
    List Octets → Octets × List Octets
  | [] => ([], [])
  | chunk :: rest =>
      if chunk.length ≤ count then (chunk, rest)
      else (chunk.take count, chunk.drop count :: rest)

/-- Takes a line from the chunks of a pipe, if one is complete or no more may come. -/
def takeLine?
    (final : Bool)
    (chunks : List Octets) :
    Option (Octets × List Octets) :=
  let all := chunks.flatten
  let line := all.takeWhile (· ≠ '\n')
  match all.drop line.length with
  | c :: rest => some (line ++ [c], if rest.isEmpty then [] else [rest])
  | [] => if final || pipeRoom ≤ all.length then some (all, []) else none

def setPipe
    (m : Machine)
    (number : Nat)
    (chunks : List Octets) :
    Machine :=
  { m with jobs := { m.jobs with pipes := setAt number chunks m.jobs.pipes } }

/-- Reads a pipe: what is there, or nothing if no more may come. -/
def readPipe
    (m : Machine)
    (p : Process)
    (number : Nat)
    (take : Bool → List Octets → Option (Octets × List Octets)) :
    Served (Except FileFault Octets) :=
  let chunks := (m.jobs.pipes.lookup number).getD []
  let final := !m.anyOpen m.jobs.processes (isPipeEnd number true)
  match chunks, final with
  | [], true => answered m p (.ok [])
  | [], false => .waits p
  | _, _ =>
      match take final chunks with
      | none => .waits p
      | some (data, rest) => .done (m.setPipe number rest) p (.ok data)

/-- Reads from a descriptor, as many bytes as `count` says or one line. -/
def readFrom
    (m : Machine)
    (p : Process)
    (descriptor : Nat)
    (count? : Option Nat) :
    Served (Except FileFault Octets) :=
  match p.file? descriptor with
  | none => answered m p (.error .badDescriptor)
  | some number =>
      match m.file? number with
      | none => answered m p (.error .badDescriptor)
      | some f =>
          if !f.mode.readable then answered m p (.error .badDescriptor)
          else
            match f.source with
            | .directory _ => answered m p (.error .isDirectory)
            | .captured _ => answered m p (.error .badDescriptor)
            | .device .null => answered m p (.ok [])
            | .device _ => answered m p (.ok (List.replicate (count?.getD 1) '\x00'))
            | .pipe n =>
                readPipe m p n fun final chunks =>
                  match count? with
                  | some count => some (takeChunks count chunks)
                  | none => takeLine? final chunks
            | _ =>
                let bytes := (stored? m f).getD .empty
                let length := match count? with
                  | some count => min count (bytes.size - f.offset)
                  | none => lineLength bytes f.offset (bytes.size + 1) 0
                let data := Octets.slice bytes f.offset (f.offset + length)
                .done (m.setFile number { f with offset := f.offset + length }) p (.ok data)

def writePipe
    (m : Machine)
    (p : Process)
    (number : Nat)
    (data : Octets) :
    Served (Except FileFault Unit) :=
  let chunks := (m.jobs.pipes.lookup number).getD []
  if !m.anyOpen m.jobs.processes (isPipeEnd number false) then
    if p.ignored.contains pipeSignal || p.caught.contains pipeSignal then
      answered m p (.error .brokenPipe)
    else .dies pipeSignal
  else if pipeRoom ≤ chunks.flatten.length then .waits p
  else .done (m.setPipe number (chunks ++ [data])) p (.ok ())

def writeTo
    (m : Machine)
    (p : Process)
    (descriptor : Nat)
    (data : Octets) :
    Served (Except FileFault Unit) :=
  match p.file? descriptor with
  | none => answered m p (.error .badDescriptor)
  | some number =>
      match m.file? number with
      | none => answered m p (.error .badDescriptor)
      | some f =>
          if !f.mode.writable then answered m p (.error .badDescriptor)
          else
            match f.source with
            | .directory _ => answered m p (.error .badDescriptor)
            | .device .full => answered m p (.error .noRoom)
            | .device _ => answered m p (.ok ())
            | .captured n =>
                let chunks := (m.jobs.captures.lookup n).getD []
                let captures := setAt n (data :: chunks) m.jobs.captures
                .done { m with jobs := { m.jobs with captures := captures } } p (.ok ())
            | .pipe n => writePipe m p n data
            | _ =>
                let bytes := (stored? m f).getD .empty
                let offset := if f.mode.append then bytes.size else f.offset
                let added := Octets.toArray data
                let all := overwrite bytes offset added
                let written : Served (Except FileFault Unit) :=
                  .done (restore m number { f with offset := offset + added.size } all) p (.ok ())
                match room? m f with
                | none => written
                | some n =>
                    if all.size ≤ n then written
                    else
                      let cut := restore m number { f with offset := n } (all.extract 0 n)
                      .done cut p (.error .noRoom)

/-- Does something to the open file behind a descriptor. -/
def onFile
    (m : Machine)
    (p : Process)
    (descriptor : Nat)
    (change : Nat → OpenFile → Except FileFault Machine) :
    Served (Except FileFault Unit) :=
  changed m p <|
    match p.file? descriptor with
    | none => .error .badDescriptor
    | some number =>
        match m.file? number with
        | none => .error .badDescriptor
        | some f => change number f

/-- Moves the place of an open file back. -/
def seekBack
    (m : Machine)
    (count number : Nat)
    (f : OpenFile) :
    Except FileFault Machine :=
  match f.source with
  | .pipe _ => .error .illegalSeek
  | .captured _ => .error .illegalSeek
  | _ => .ok (m.setFile number { f with offset := f.offset - count })

def resize
    (m : Machine)
    (size number : Nat)
    (f : OpenFile) :
    Except FileFault Machine :=
  match stored? m f with
  | none => .error .invalid
  | some bytes => .ok (restore m number f ((overwrite bytes size .empty).extract 0 size))

def closeOne
    (m : Machine)
    (p : Process)
    (descriptor : Nat) :
    Served (Except FileFault Unit) :=
  match p.file? descriptor with
  | none => answered m p (.error .badDescriptor)
  | some _ => .done m (p.without descriptor) (.ok ())

end Machine

end Runbook
