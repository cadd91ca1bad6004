import Runbook.Tool.Environment
import Runbook.Tool.Input

/-!
# Feeding words to commands

The tool that reads words and runs a command with them, with as many as possible at a time or with as
many as it was told to.
-/

namespace Runbook
namespace Tool
namespace Feeding

/-- How words are fed to a command. -/
structure Style where
  perCall : Option Nat
  perLines : Option Nat
  mark : Option Octets
  limit : Nat
  strict : Bool
  tells : Bool
  stop : Option Char
  lastWord : Option Octets
  command : List Octets
  keepsInput : Bool
  deriving Repr, Inhabited

/-- Where the reading of words is. -/
inductive Phase where
  | gap
  | word
  | quoted (mark : Char)
  | escaped
  deriving DecidableEq, Repr, Inhabited

/-- What was read: the phase, the characters of the word at hand in reverse, whether there is a word at
hand though it may be empty, the words that wait for the command in reverse, with their size, and how
many lines they come from. `ended` tells that no more is to be read, `ran` that the command was run, and
`warned` that a warning about zero bytes was given. -/
structure State where
  phase : Phase
  part : Octets
  seen : Bool
  words : List Octets
  size : Nat
  lines : Nat
  ended : Bool
  ran : Bool
  firstOfLine : Bool
  warned : Bool
  deriving Repr, Inhabited

/-- A state before anything was read. -/
def State.start : State :=
  ⟨.gap, [], false, [], 0, 0, false, false, true, false⟩

/-- The size of words on a command line. -/
def sizeOf (words : List Octets) : Nat :=
  (words.map fun w => w.length + 1).foldl (· + ·) 0

/-- Runs a command. Each word ends at its first zero byte, as no command can be given more of it. -/
def run
    (launcher : Launcher)
    (environment : Variables)
    (style : Style)
    (words : List Octets) :
    Work Unit := do
  let words := words.map fun word => word.takeWhile (· ≠ '\x00')
  Work.flush
  if style.tells then
    Work.act (Act.complain (Octets.intercalate [' '] (words.map Quoting.shell) ++ ['\n']))
  let name := (← get).name
  let program := words.headD []
  match ← Starting.fault? environment program with
  | some e =>
      Work.fail (Starting.statusFor e)
        (Quoting.shellBeforeColon program ++ ": ".toList ++ e.reason.toList)
  | none => pure ()
  let child : Work Unit := do
    if !style.keepsInput then
      match ← Work.ask (.openFile "/dev/null".toList .reading) with
      | .ok d => do
          let _ ← Work.ask (.copy d 0)
          let _ ← Work.ask (.close d)
      | .error _ => pure ()
    Starting.become launcher environment Quoting.shellBeforeColon program (words.drop 1)
  let process : Nat ← Work.act (Act.fork (Act.toProgram (Work.perform name 1 child)))
  match ← Starting.wait process with
  | .exited 0 => pure ()
  | .exited 255 =>
      Work.fail 124 (program ++ ": exited with status 255; aborting".toList)
  | .exited _ => Work.setStatus 123
  | .signalled signal =>
      Work.fail 125 (program ++ ": terminated by signal ".toList ++ Octets.ofNat signal)

/-- Runs the command with the words that wait. -/
def runWaiting
    (run : List Octets → Work Unit)
    (style : Style)
    (st : State) :
    Work State := do
  run (style.command ++ st.words.reverse)
  return { st with words := [], size := 0, lines := 0, ran := true }

/-- Takes a word, and runs the command as soon as it has enough of them. -/
def take
    (run : List Octets → Work Unit)
    (style : Style)
    (word : Octets)
    (st : State) :
    Work State := do
  match style.mark with
  | some mark => do
      let filled := style.command.take 1 ++ (style.command.drop 1).map (Text.replaceAll mark word)
      run filled
      return { st with ran := true }
  | none => do
      let base := sizeOf style.command
      if style.limit < base + word.length + 1 then
        Work.failText 1 "argument line too long"
      let tooLong := style.limit < base + st.size + word.length + 1
      if tooLong && style.strict then Work.failText 1 "argument line too long"
      let st ← if tooLong && !st.words.isEmpty then runWaiting run style st else pure st
      let st := { st with words := word :: st.words, size := st.size + word.length + 1 }
      if style.perCall.any fun n => decide (n ≤ st.words.length) then runWaiting run style st
      else return st

def endWord
    (run : List Octets → Work Unit)
    (style : Style)
    (st : State) :
    Work State := do
  let word := st.part.reverse
  let cleared := { st with part := [], seen := false }
  if style.lastWord = some word then return { cleared with ended := true }
  else take run style word cleared

def endLine
    (run : List Octets → Work Unit)
    (style : Style)
    (st : State) :
    Work State := do
  let st := { st with lines := st.lines + 1, firstOfLine := true }
  if style.perLines.any fun n => decide (n ≤ st.lines) then
    if st.words.isEmpty then return st else runWaiting run style st
  else return st

/-- Complains about a quote that is not closed, behind the words that were read. -/
def failOpen
    (run : List Octets → Work Unit)
    (style : Style)
    (mark : Char)
    (st : State) :
    Work State := do
  if !st.words.isEmpty then
    let _ ← runWaiting run style st
  Work.fail 1 ("unmatched ".toList ++ (if mark = '"' then "double".toList else "single".toList)
    ++ " quote; by default quotes are special to xargs unless you use the -0 option".toList)

/-- Whether a character stands between words. -/
def isGap (c : Char) : Bool :=
  c = ' ' || ('\t' ≤ c && c ≤ '\r')

/-- Warns once about a zero byte. -/
def warnOfZero
    (c : Char)
    (st : State) :
    Work State := do
  if c = '\x00' && !st.warned then
    Work.warn ("WARNING: a NUL character occurred in the input.  It cannot be passed through in the "
      ++ "argument list.  Did you mean to use the --null option?").toList
    return { st with warned := true }
  else return st

/-- Takes a character of words that may be quoted. -/
def takeChar
    (run : List Octets → Work Unit)
    (style : Style)
    (st : State)
    (c : Char) :
    Work State := do
  let add (phase : Phase) : Work State :=
    warnOfZero c { st with phase := phase, part := c :: st.part }
  match st.phase with
  | .escaped => add .word
  | .quoted mark =>
      if c = '\n' then failOpen run style mark st
      else if c = mark then return { st with phase := .word, seen := true }
      else add (.quoted mark)
  | phase =>
      if phase = .gap && isGap c then return st
      else if c = '\n' then
        if st.part.isEmpty && !st.seen then return { st with phase := .gap }
        else endLine run style (← endWord run style { st with phase := .gap })
      else if style.mark.isNone && isGap c then
        endWord run style { st with phase := .gap, seen := true }
      else
        match c with
        | '\\' => return { st with phase := .escaped, seen := true }
        | '\'' => return { st with phase := .quoted c, seen := true }
        | '"' => return { st with phase := .quoted c, seen := true }
        | _ => return { ← add .word with seen := true }

/-- Takes a character of words that a given one ends. -/
def takeRaw
    (run : List Octets → Work Unit)
    (style : Style)
    (stop : Char)
    (st : State)
    (c : Char) :
    Work State := do
  if c = stop then endLine run style (← endWord run { style with lastWord := none } st)
  else return { st with part := c :: st.part }

def readWords
    (run : List Octets → Work Unit)
    (style : Style)
    (descriptor : Nat) :
    Work State := do
  let step (st : State) (c : Char) : Work State :=
    if st.ended then return st
    else
      match style.stop with
      | some stop => takeRaw run style stop st c
      | none => takeChar run style st c
  let result ← Work.foldPieces (fun st piece => Work.foldAll step st piece) State.start
    (Reader.of descriptor)
  match result with
  | .error e => Work.fail 1 ("read error: ".toList ++ e.reason.toList)
  | .ok st =>
      if st.ended || st.part.isEmpty then
        match st.phase, st.ended with
        | .quoted _, false => return st
        | _, _ => return st
      else
        match st.phase with
        | .quoted mark => failOpen run style mark st
        | _ => endWord run (if style.stop.isSome then { style with lastWord := none } else style) st

/-- The character that a word names as the end of words. -/
def stopOf? (word : Octets) : Option Char :=
  match word with
  | [c] => some c
  | ['\\', c] =>
      match c with
      | 'n' => some '\n'
      | 't' => some '\t'
      | '0' => some '\x00'
      | 'a' => some '\x07'
      | 'b' => some '\x08'
      | 'f' => some '\x0c'
      | 'r' => some '\r'
      | 'v' => some '\x0b'
      | '\\' => some '\\'
      | _ => none
  | '\\' :: 'x' :: digits => (digitsIn? 16 digits).map Char.ofNat
  | '\\' :: digits => (digitsIn? 8 digits).map Char.ofNat
  | _ => none

def number
    (letter : Char)
    (word : Octets) :
    Work Nat := do
  match (if word.isEmpty || !(word.all Char.isDigit) then none else (String.ofList word).toNat?) with
  | none =>
      Work.misuse 1 ("invalid number \"".toList ++ word ++ "\" for -".toList ++ [letter]
        ++ " option".toList)
  | some 0 =>
      if letter = 'P' then return 0
      else
        Work.misuse 1 ("value ".toList ++ word ++ " for -".toList ++ [letter]
          ++ " option should be >= 1".toList)
  | some n => return n

def forms : List OptionForm :=
  [ flag "0" ["null"], valued "a" ["arg-file"], valued "d" ["delimiter"], valued "E" [],
    ⟨"e", ["eof"], .maybe⟩, valued "I" [], ⟨"i", ["replace"], .maybe⟩, valued "L" [],
    ⟨"l", ["max-lines"], .maybe⟩, valued "n" ["max-args"], flag "o" ["open-tty"],
    valued "P" ["max-procs"], flag "p" ["interactive"], flag "r" ["no-run-if-empty"],
    valued "s" ["max-chars"], flag "t" ["verbose"], flag "x" ["exit"],
    valued "slot" ["process-slot-var"], flag "limits" ["show-limits"] ]

def takeOption
    (style : Style)
    (g : Given) :
    Work Style := do
  let dropsCount : Work Unit := do
    if style.perCall.isSome then
      Work.warn ("warning: options --max-args and --replace/-I/-i are mutually exclusive, ".toList
        ++ "ignoring previous --max-args value".toList)
  match g.key with
  | "0" => return { style with stop := some '\x00' }
  | "d" =>
      match stopOf? g.value with
      | some c => return { style with stop := some c }
      | none =>
          Work.fail 1 ("Invalid input delimiter specification ".toList ++ g.value
            ++ ": the delimiter must be either a single character or ".toList
            ++ "an escape sequence starting with \\.".toList)
  | "E" => return { style with lastWord := if g.value.isEmpty then none else some g.value }
  | "e" => return { style with lastWord := if g.value.isEmpty then none else some g.value }
  | "I" => do
      dropsCount
      return { style with mark := some g.value, perCall := none, perLines := none }
  | "i" => do
      dropsCount
      let mark := if g.value.isEmpty then "\x7b\x7d".toList else g.value
      return { style with mark := some mark, perCall := none, perLines := none }
  | "L" => return { style with perLines := some (← number 'L' g.value), perCall := none, mark := none }
  | "l" => do
      let n ← if g.value.isEmpty then pure 1 else number 'l' g.value
      return { style with perLines := some n, perCall := none, mark := none }
  | "n" => do
      let n ← number 'n' g.value
      if style.perLines.isSome then
        Work.warn ("warning: options --max-lines and --max-args/-n are mutually exclusive, ".toList
          ++ "ignoring previous --max-lines value".toList)
      if n = 1 && style.mark.isSome then return style
      else if style.mark.isSome then
        Work.warn ("warning: options --replace and --max-args/-n are mutually exclusive, ".toList
          ++ "ignoring previous --replace value".toList)
        return { style with perCall := some n, perLines := none, mark := none }
      else return { style with perCall := some n, perLines := none }
  | "s" => return { style with limit := ← number 's' g.value }
  | "P" => do
      let _ ← number 'P' g.value
      return style
  | "t" => return { style with tells := true }
  | "p" => return { style with tells := true }
  | "x" => return { style with strict := true }
  | _ => return style

/-- How long a command line may be. -/
def longest : Nat := 131072

end Feeding

/-- Runs a command with words that are read. -/
def xargs : Tool :=
  fun launcher start => Work.perform start.name 1 do
    let a ← Work.leadingArguments Feeding.forms 1 start.arguments
    let command := if a.operands.isEmpty then ["echo".toList] else a.operands
    let plain : Feeding.Style :=
      ⟨none, none, none, Feeding.longest, false, false, none, none, command, a.has "a"⟩
    let style ← Work.foldAll Feeding.takeOption plain a.options
    let descriptor ← match a.value? "a" with
      | none => pure 0
      | some path =>
          match ← Work.openInput path with
          | .ok d => pure d
          | .error e =>
              Work.fail 1 ("Cannot open input file ".toList ++ Quoting.shellAlways path
                ++ ": ".toList ++ e.reason.toList)
    let run := Feeding.run launcher start.environment style
    let st ← Feeding.readWords run style descriptor
    let isNeeded := !st.words.isEmpty || (!st.ran && style.mark.isNone && !a.has "r")
    if isNeeded then run (style.command ++ st.words.reverse)

end Tool
end Runbook
