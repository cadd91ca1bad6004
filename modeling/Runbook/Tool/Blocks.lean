import Runbook.Tool.Options
import Runbook.Tool.Input
import Runbook.Tool.Target

/-!
# Copying by blocks

The tool that copies a part of its input by blocks of bytes, and tells how many there were.
-/

namespace Runbook
namespace Tool
namespace Blocks

/-- How many of something: blocks, or bytes. -/
structure Extent where
  count : Nat
  inBytes : Bool
  deriving DecidableEq, Repr, Inhabited

/-- What is asked for: the files, the sizes of the blocks that are read and written, whether there is one
size for both, what is passed over and how much is copied, the conversions, and how much is told. -/
structure Wish where
  input : Option Octets
  output : Option Octets
  inputSize : Nat
  outputSize : Nat
  oneSize : Bool
  skip : Extent
  seek : Extent
  count : Option Extent
  conversions : List String
  level : String
  flags : List String
  deriving Repr, Inhabited

/-- What is asked for when nothing is said. -/
def Wish.plain : Wish :=
  ⟨none, none, 512, 512, false, ⟨0, false⟩, ⟨0, false⟩, none, [], "default", []⟩

/-! ## Words -/

/-- A number with letters behind it, or several to be multiplied. -/
def numberIn? (s : Octets) : Option (Nat × Bool) :=
  let parts := Octets.splitOn 'x' s
  let inBytes := s.getLast? = some 'B' && (s.dropLast.getLast?.any Char.isDigit)
  let clean := if inBytes then (parts.dropLast ++ [(parts.getLastD []).dropLast]) else parts
  let values := clean.map fun p => if p.head?.any Char.isDigit then (Amount.read p).toOption else none
  values.foldl
    (fun n v => match n, v with
      | some (x, b), some y => some (x * y, b)
      | _, _ => none)
    (some (1, inBytes))

def number (positive : Bool) (word : Octets) : Work (Nat × Bool) := do
  match numberIn? word with
  | some (n, inBytes) =>
      if Nat.pow 2 63 ≤ n then
        Work.fail 1 ("invalid number: ".toList ++ Quoting.plain word
          ++ ": Value too large for defined data type".toList)
      if positive && n = 0 then Work.fail 1 ("invalid number: ".toList ++ Quoting.plain word)
      return (n, inBytes)
  | none =>
      let digits := word.takeWhile Char.isDigit
      if !digits.isEmpty && Nat.pow 2 64 ≤ (digitsIn? 10 digits).getD 0 then
        Work.fail 1 ("invalid number: ".toList ++ Quoting.plain word
          ++ ": Value too large for defined data type".toList)
      else Work.fail 1 ("invalid number: ".toList ++ Quoting.plain word)

/-- The words with commas between them, each of which must be known. -/
def known (what : String) (all : List String) (text : Octets) : Work (List String) := do
  let parts := (Octets.splitOn ',' text).map String.ofList
  match parts.find? fun p => !all.contains p with
  | some p => Work.misuse 1 ("invalid ".toList ++ what.toList ++ ": ".toList ++ Quoting.plain p.toList)
  | none => return parts

def conversions : List String :=
  [ "ascii", "ebcdic", "ibm", "block", "unblock", "lcase", "ucase", "sparse", "swab", "sync", "excl",
    "nocreat", "notrunc", "noerror", "fdatasync", "fsync" ]

def flagNames : List String :=
  [ "append", "direct", "directory", "dsync", "sync", "fullblock", "nonblock", "noatime", "nocache",
    "noctty", "nofollow", "skip_bytes", "seek_bytes", "count_bytes" ]

def readWord (w : Wish) (word : Octets) : Work Wish := do
  let name := word.takeWhile (· ≠ '=')
  let value := word.drop (name.length + 1)
  let extent : Work Extent := do
    let (n, inBytes) ← number false value
    return ⟨n, inBytes⟩
  if name.length = word.length then
    Work.misuse 1 ("unrecognized operand ".toList ++ Quoting.plain word)
  match String.ofList name with
  | "if" => return { w with input := some value }
  | "of" => return { w with output := some value }
  | "ibs" => return { w with inputSize := (← number true value).1 }
  | "obs" => return { w with outputSize := (← number true value).1 }
  | "bs" => do
      let n := (← number true value).1
      return { w with inputSize := n, outputSize := n, oneSize := true }
  | "cbs" => do
      let _ ← number true value
      return w
  | "skip" => return { w with skip := ← extent }
  | "iseek" => return { w with skip := ← extent }
  | "seek" => return { w with seek := ← extent }
  | "oseek" => return { w with seek := ← extent }
  | "count" => return { w with count := some (← extent) }
  | "conv" => return { w with conversions := w.conversions ++ (← known "conversion" conversions value) }
  | "status" => do
      let level ← known "status level" ["none", "noxfer", "progress", "default"] value
      return { w with level := level.headD "default" }
  | "iflag" => do
      let found ← known "input flag" flagNames value
      let w := if found.contains "skip_bytes" then { w with flags := "skip_bytes" :: w.flags } else w
      return if found.contains "count_bytes" then { w with flags := "count_bytes" :: w.flags } else w
  | "oflag" => do
      let found ← known "output flag" flagNames value
      let w := if found.contains "append" then { w with flags := "append" :: w.flags } else w
      return if found.contains "seek_bytes" then { w with flags := "seek_bytes" :: w.flags } else w
  | _ => Work.misuse 1 ("unrecognized operand ".toList ++ Quoting.plain word)

/-! ## Blocks -/

/-- How many blocks there were, whole and other ones. -/
structure Counts where
  wholeIn : Nat
  partIn : Nat
  wholeOut : Nat
  partOut : Nat
  bytes : Nat
  deriving DecidableEq, Repr, Inhabited

/-- The bytes of a block with its halves of words exchanged. -/
def swapped : Octets → Octets
  | a :: b :: rest => b :: a :: swapped rest
  | rest => rest

def converted (w : Wish) (block : Octets) : Octets :=
  let filled := if w.conversions.contains "sync" then
      block ++ List.replicate (w.inputSize - block.length) '\x00' else block
  let exchanged := if w.conversions.contains "swab" then swapped filled else filled
  if w.conversions.contains "lcase" then exchanged.map Char.toLower
  else if w.conversions.contains "ucase" then exchanged.map Char.toUpper
  else exchanged

def bytesOf (e : Extent) (size : Nat) (inBytes : Bool) : Nat :=
  if e.inBytes || inBytes then e.count else e.count * size

/-- Passes over so many bytes of the input, and tells how many were not there. -/
def passOver (d : Nat) : Nat → Nat → Work Nat
  | 0, left => return left
  | fuel + 1, left => do
      if left = 0 then return 0
      match ← Work.ask (.read d (min left 65536)) with
      | .ok [] => return left
      | .ok data => passOver d fuel (left - data.length)
      | .error _ => return left

/-- What was copied so far: how many blocks, and what is held back for a file, the newest first. -/
structure Progress where
  counts : Counts
  held : List Octets
  deriving Inhabited

/-- Copies one block that was read. -/
def copyBlock (w : Wish) (p : Progress) (block : Octets) : Work Progress := do
  let data := converted w block
  let isWhole := block.length = w.inputSize
  let c := { p.counts with bytes := p.counts.bytes + data.length }
  let counts := if isWhole then { c with wholeIn := c.wholeIn + 1 } else { c with partIn := c.partIn + 1 }
  let all := if data.length = w.outputSize then { counts with wholeOut := counts.wholeOut + 1 }
    else { counts with partOut := counts.partOut + 1 }
  if w.output.isSome then return ⟨all, data :: p.held⟩
  else do
    Work.say data
    return ⟨all, []⟩

/-- Copies blocks, and gives the fault that ended the reading. -/
def copyBlocks
    (w : Wish)
    (d : Nat) :
    Nat → Nat → Option Nat → Progress → Work (Progress × Option FileFault)
  | 0, _, _, p => return (p, none)
  | fuel + 1, blocks, bytes, p => do
      let limit := match bytes with
        | some n => min n w.inputSize
        | none => w.inputSize
      if blocks = 0 || limit = 0 then return (p, none)
      match ← Work.ask (.read d limit) with
      | .error e => return (p, some e)
      | .ok [] => return (p, none)
      | .ok data =>
          copyBlocks w d fuel (blocks - 1) (bytes.map (· - data.length)) (← copyBlock w p data)

/-- A number of bytes with as much of a unit as there is. -/
def amountText (n : Nat) : Octets :=
  let base := Octets.ofNat n ++ (if n = 1 then " byte".toList else " bytes".toList)
  if n < 1000 then base
  else
    let tenth (unit : Nat) : Octets :=
      let t := (10 * n + unit / 2) / unit
      if t < 100 then Octets.ofNat (t / 10) ++ '.' :: Octets.ofNat (t % 10) else Octets.ofNat ((t + 5) / 10)
    let small : Octets := if n < 1000000 then tenth 1000 ++ " kB".toList
      else if n < 1000000000 then tenth 1000000 ++ " MB".toList
      else tenth 1000000000 ++ " GB".toList
    let binary : Octets := if n < 1024 then []
      else if n < 1048576 then ", ".toList ++ tenth 1024 ++ " KiB".toList
      else if n < 1073741824 then ", ".toList ++ tenth 1048576 ++ " MiB".toList
      else ", ".toList ++ tenth 1073741824 ++ " GiB".toList
    base ++ " (".toList ++ small ++ binary ++ [')']

/-- Tells how much was copied. -/
def tell (level : String) (c : Counts) : Work Unit := do
  Work.flush
  if level ≠ "none" then
    Work.act (Act.complain (Octets.ofNat c.wholeIn ++ '+' :: Octets.ofNat c.partIn
      ++ " records in\n".toList ++ Octets.ofNat c.wholeOut ++ '+' :: Octets.ofNat c.partOut
      ++ " records out\n".toList))
    if level ≠ "noxfer" then
      Work.act (Act.complain (amountText c.bytes ++ " copied, 0.0001 s, ".toList
        ++ Octets.ofNat (c.bytes * 10) ++ " kB/s\n".toList))

/-- What the output holds in the end: what was there before and is kept, and what was copied. -/
def outcome (w : Wish) (before data : Octets) : Octets :=
  let place := if w.flags.contains "append" then before.length
    else bytesOf w.seek w.outputSize (w.flags.contains "seek_bytes")
  let front := before.take place ++ List.replicate (place - before.length) '\x00'
  front ++ data
    ++ (if w.conversions.contains "notrunc" then before.drop (place + data.length) else [])

/-- Writes what was copied. -/
def deliver (w : Wish) (data : Octets) : Work Unit := do
  match w.output with
  | none => pure ()
  | some path => do
      let before ← Work.act (Act.readFile path)
      match ← Work.act (Act.writeFile path (outcome w (before.toOption.getD []) data)) with
      | .ok () => pure ()
      | .error e =>
          Work.fail 1 ("error writing ".toList ++ Quoting.shellAlways path ++ ": ".toList
            ++ e.reason.toList)

/-- Makes sure that the output can be written. -/
def checkOutput (w : Wish) : Work Unit := do
  match w.output with
  | none => pure ()
  | some path => do
      let complain (e : FileFault) : Work Unit :=
        Work.fail 1 ("failed to open ".toList ++ Quoting.shellAlways path ++ ": ".toList
          ++ e.reason.toList)
      let there ← Work.ask (.status path true)
      match there with
      | .ok s =>
          if w.conversions.contains "excl" then complain .taken
          if s.kind = .directory then complain .isDirectory
      | .error _ =>
          if w.conversions.contains "nocreat" then complain .noEntry
          match ← Work.act (Act.writeFile path []) with
          | .ok () => pure ()
          | .error e => complain e

def copy (w : Wish) : Work Unit := do
  let input ← match w.input with
    | none => pure 0
    | some path => do
        match ← Work.ask (.openFile path .reading) with
        | .ok d => pure d
        | .error e =>
            Work.fail 1 ("failed to open ".toList ++ Quoting.shellAlways path ++ ": ".toList
              ++ e.reason.toList)
  checkOutput w
  let name := match w.input with
    | some path => path
    | none => "standard input".toList
  let skipped := bytesOf w.skip w.inputSize (w.flags.contains "skip_bytes")
  let missing ← passOver input (skipped + 1) skipped
  if missing ≠ 0 then
    Work.warn (Quoting.shellBeforeColon name ++ ": cannot skip to specified offset".toList)
  let inBytes : Bool := match w.count with
    | some e => e.inBytes || w.flags.contains "count_bytes"
    | none => false
  let (blocks, bytes) : Nat × Option Nat := match w.count with
    | none => (Act.rounds, none)
    | some e => if inBytes then (Act.rounds, some e.count) else (e.count, none)
  let (p, wrong) ← copyBlocks w input Act.rounds blocks bytes default
  match wrong with
  | some e =>
      Work.complain ("error reading ".toList ++ Quoting.shellAlways name ++ ": ".toList
        ++ e.reason.toList)
  | none => pure ()
  Work.closeInput input
  deliver w p.held.reverse.flatten
  let direct := w.oneSize && !(w.conversions.any ["swab", "lcase", "ucase"].contains)
  let n := p.counts.bytes
  tell w.level (if direct then p.counts
    else
      { p.counts with
        wholeOut := n / w.outputSize
        partOut := if n % w.outputSize = 0 then 0 else 1 })

def tool : Tool :=
  simple 1 fun words => do
    let a ← Work.arguments [] 1 words
    let w ← Work.foldAll readWord .plain a.operands
    if w.conversions.contains "lcase" && w.conversions.contains "ucase" then
      Work.failText 1 "cannot combine lcase and ucase"
    copy w

end Blocks
end Tool
end Runbook
