import Runbook.Shell.Builtin.Table
import Runbook.Shell.Expansion

/-!
# Running commands

Commands run with their redirections in place, each kind of command by its own case.
-/

namespace Runbook
namespace Shell

/-!
## Redirections

A redirection lets a descriptor stand for another file while a command runs. What the descriptor stood
for before is saved and put back afterwards.
-/

/-- What a descriptor is to stand for: the file at a path, what another descriptor stands for, nothing
at all, or a document to be read. -/
inductive Target where
  | file (path : Octets) (mode : OpenMode) (keeps : Bool)
  | copy (source : Nat)
  | close
  | document (text : Octets)
  deriving Repr, Inhabited

/-- A redirection whose words are expanded. -/
structure Redirection where
  descriptor : Nat
  target : Target
  deriving Repr, Inhabited

/-- What a descriptor stood for: the descriptor it was saved under, or nothing. -/
structure Saved where
  descriptor : Nat
  under : Option Nat
  deriving DecidableEq, Repr, Inhabited

namespace Eval

def expandRedirect
    (runner : Runner) :
    Redirect → Eval Redirection
  | .mk descriptor kind word => do
      let file (mode : OpenMode) (keeps : Bool) : Eval Redirection := do
        return ⟨descriptor, .file (← expandText runner .start word) mode keeps⟩
      let copy : Eval Redirection := do
        match (← expandWord runner word).headD [] with
        | ['-'] => return ⟨descriptor, .close⟩
        | [c] =>
            if c.isDigit then return ⟨descriptor, .copy (c.toNat - 48)⟩
            else failText "Syntax error: Bad fd number"
        | _ => failText "Syntax error: Bad fd number"
      match kind with
      | .input => file .reading false
      | .output => file .writing true
      | .clobber => file .writing false
      | .append => file .appending false
      | .both => file .both false
      | .copyInput => copy
      | .copyOutput => copy
      | .document number => do
          let body := ((← get).documents.find? fun d => d.number = number).map Document.body
          return ⟨descriptor, .document (← expandText runner .none (body.getD []))⟩

/-- Opens the file at a path for a redirection. -/
def openTarget
    (path : Octets)
    (mode : OpenMode)
    (keeps : Bool) :
    Eval Nat := do
  let isGuarded : Bool ←
    if keeps && (← get).has 'C' then do
      pure (((← act (Act.statusAt? path)).map FileStatus.kind) = some .file)
    else pure false
  let opened ← if isGuarded then pure (.error .taken) else ask (.openFile path mode)
  match opened with
  | .ok d => return d
  | .error e =>
      if mode.create then
        fail ("cannot create ".toList ++ path ++ ": ".toList ++ (createReason e).toList)
      else fail ("cannot open ".toList ++ path ++ ": ".toList ++ (openReason e).toList)

/-- Saves what a descriptor stands for, unless that was done before. -/
def saveDescriptor
    (descriptor : Nat)
    (saved : List Saved) :
    Eval (List Saved) := do
  if saved.any fun s => s.descriptor = descriptor then return saved
  else
    match ← ask (.save descriptor) with
    | .ok under => return ⟨descriptor, some under⟩ :: saved
    | .error _ => return ⟨descriptor, none⟩ :: saved

/-- Lets a descriptor stand for what an open one stands for, which is closed then. -/
def moveDescriptor (source target : Nat) : Eval Unit := do
  if source ≠ target then
    let _ ← ask (.copy source target)
    let _ ← ask (.close source)

/-- Does a redirection. What descriptors stood for is added to what is saved, if anything is to be
saved at all. -/
def redirectOne
    (saves : Bool)
    (saved : List Saved)
    (r : Redirection) :
    Eval (List Saved) := do
  let keep (opened : Option Nat) : Eval (List Saved) := do
    if !saves then return saved
    else if opened = some r.descriptor then
      return if saved.any fun s => s.descriptor = r.descriptor then saved
        else ⟨r.descriptor, none⟩ :: saved
    else saveDescriptor r.descriptor saved
  match r.target with
  | .file path mode keeps => do
      let opened ← openTarget path mode keeps
      let kept ← keep (some opened)
      moveDescriptor opened r.descriptor
      return kept
  | .copy source => do
      if source = r.descriptor then return saved
      else
        match ← ask (.statusOf source) with
        | .error e => fail (Octets.ofNat source ++ ": ".toList ++ e.reason.toList)
        | .ok _ =>
            let kept ← keep none
            let _ ← ask (.copy source r.descriptor)
            return kept
  | .close => do
      let kept ← keep none
      let _ ← ask (.close r.descriptor)
      return kept
  | .document text => do
      let (out, into) ← ask .pipe
      let _ ← act (Act.writeTo into text)
      let _ ← ask (.close into)
      let kept ← keep (some out)
      moveDescriptor out r.descriptor
      return kept

/-- Does redirections in order. The result says what was saved, also when one of them fails. -/
def redirectAll
    (saves : Bool) :
    List Saved → List Redirection → Eval (List Saved × Option Raise)
  | saved, [] => return (saved, none)
  | saved, r :: rest => do
      match ← guarded (redirectOne saves saved r) with
      | .ok kept => redirectAll saves kept rest
      | .error e => return (saved, some e)

/-- Puts back what descriptors stood for. -/
def restoreAll : List Saved → Eval Unit
  | [] => pure ()
  | s :: rest => do
      match s.under with
      | some under => moveDescriptor under s.descriptor
      | none =>
          let _ ← ask (.close s.descriptor)
      restoreAll rest

/-- Forgets what was saved, so that redirections stay. -/
def forgetAll : List Saved → Eval Unit
  | [] => pure ()
  | s :: rest => do
      match s.under with
      | some under =>
          let _ ← ask (.close under)
      | none => pure ()
      forgetAll rest

end Eval

/-!
## Commands

A command is run by cases. How the commands inside of it are run is a parameter here, and is settled
at the end by the depth to which commands may run inside of each other. Before and after each command
the traps of signals that have arrived are run.
-/

/-- How commands inside of a command are run, and how programs are started. -/
structure Within where
  runner : Runner
  launcher : Launcher

namespace Eval

/-! ### Programs -/

/-- The shell that reads scripts without a line that names their reader. -/
def shellPath : Octets :=
  "/bin/sh".toList

/-- Puts a program in the place of the shell; breaks off if that is not possible. -/
def replaceBy
    (launcher : Launcher)
    (path name : Octets)
    (arguments : List Octets) :
    Eval Nat := do
  let environment := (← get).environment
  let tried ← act (launcher path ⟨name, arguments, environment⟩)
  let fault ←
    if tried = .notRunnable then
      act (launcher shellPath ⟨shellPath, path :: arguments, environment⟩)
    else pure tried
  let isAbsent := Launch.isMissing fault || fault = .tooManyLinks || fault = .nameTooLong
  setStatus (if isAbsent then 127 else 126)
  warn (name ++ ": ".toList ++ (startReason fault).toList)
  raise .end_

/-- Runs a program, in the place of the shell if nothing follows. -/
def runProgram
    (w : Within)
    (last : Bool)
    (path name : Octets)
    (arguments : List Octets) :
    Eval Nat := do
  let body : Eval Unit := do
    let _ ← replaceBy w.launcher path name arguments
  if last && !(← get).hasTraps then
    body
    return 0
  else runApart w.runner body

/-- Finds a program in the search path; complains if there is none. -/
def findProgram (name : Octets) : Eval (Option Octets) := do
  match ← programPath name (← get).path with
  | .ok path =>
      if !name.contains '/' then
        modify fun s =>
          { s with hashed := if s.hashed.contains name then s.hashed else s.hashed ++ [name] }
      return some path
  | .error e =>
      warn (name ++ ": ".toList ++ (startReason e).toList)
      return none

/-! ### Functions and built-in commands -/

/-- How deep functions may call each other. -/
def maxCalls : Nat := 1000

def runFunction
    (w : Within)
    (tested : Bool)
    (body : Command)
    (arguments : List Octets) :
    Eval Nat := do
  let s ← get
  if maxCalls ≤ s.calls then
    failText s!"Maximum function recursion depth ({maxCalls}) reached"
  set
    { s with
      parameters := arguments
      optionPlace := ⟨1, none⟩
      loops := 0
      calls := s.calls + 1 }
  pushFrame
  let result ← guarded (w.runner tested false body)
  modify fun t =>
    { t with
      parameters := s.parameters
      optionPlace := s.optionPlace
      loops := s.loops
      calls := s.calls
      skip := match t.skip with
        | .return_ _ => .none
        | skip => skip }
  match result with
  | .ok _ =>
      popFrames s.saved.length
      return (← get).status
  | .error r => raise r

/-- Runs a built-in command. A fault in one that is not special only fails. -/
def runBuiltin
    (w : Within)
    (tested special : Bool)
    (name : Octets)
    (b : Builtin)
    (arguments : List Octets) :
    Eval Nat := do
  let s ← get
  set { s with speaker := some name }
  let runner : Runner :=
    if name = "eval".toList then fun t last c => w.runner (t || tested) last c else w.runner
  let result ← guarded (b.run runner arguments)
  modify fun t => { t with speaker := s.speaker }
  match result with
  | .ok status =>
      setStatus status
      return status
  | .error .error =>
      if special then raise .error
      else
        popFrames s.saved.length
        return (← get).status
  | .error r => raise r

/-- Puts a program in the place of the shell, found by the search path. -/
def runExec
    (w : Within)
    (arguments : List Octets) :
    Eval Nat := do
  match (← Builtin.options "" arguments).2 with
  | [] => return 0
  | name :: rest => do
      match ← programPath name (← get).path with
      | .ok path => replaceBy w.launcher path name rest
      | .error e =>
          setStatus (if Launch.isMissing e then 127 else 126)
          warn (name ++ ": ".toList ++ (startReason e).toList)
          raise .end_

/-- The built-in command of a name. -/
def builtin?
    (w : Within)
    (name : Octets) :
    Option Builtin :=
  if name = "exec".toList then some ⟨true, false, fun _ arguments => runExec w arguments⟩
  else Builtin.named? (String.ofList name)

/-! ### Simple commands -/

/-- What the first word of a command stands for. -/
inductive Meaning where
  | nothing
  | function (body : Command)
  | builtin (b : Builtin)
  | program
  deriving Inhabited

/-- What a name stands for; functions may be left aside. -/
def meaningOf
    (w : Within)
    (functions : Bool)
    (name : Octets) :
    Eval Meaning := do
  let s ← get
  match if functions then s.function? name else none with
  | some body => return .function body
  | none =>
      match builtin? w name with
      | some b => return .builtin b
      | none => return .program

/-- Expands words until there is one, and gives the words that are left. -/
def firstWords (w : Within) : List Word → Eval (List Octets × List Word)
  | [] => return ([], [])
  | word :: rest => do
      match ← expandWord w.runner word with
      | [] => firstWords w rest
      | found => return (found, rest)

/-- Whether an argument of the command that leaves functions aside is only about the search path. -/
def isPathOption (word : Octets) : Bool :=
  match word with
  | '-' :: c :: more => (c :: more).all (· = 'p')
  | _ => false

/-- Passes the options of the command that leaves functions aside; `none` if it runs nothing. -/
def passOptions
    (w : Within) :
    Nat → List Octets → List Word → Eval (Option (List Octets × List Word))
  | 0, _, _ => return none
  | fuel + 1, found, rest => do
      match found with
      | [] => do
          let (more, left) ← firstWords w rest
          if more.isEmpty then return none else passOptions w fuel more left
      | ['-', '-'] :: more => do
          if more.isEmpty then
            let (next, left) ← firstWords w rest
            return if next.isEmpty then none else some (next, left)
          else return some (more, rest)
      | word :: more =>
          if isPathOption word then passOptions w fuel more rest
          else if word.head? = some '-' && 1 < word.length then return none
          else return some (found, rest)

/-- What is known of the words of a command before all of them are expanded: the words found, those
left, what the command stands for, whether it is special, and whether functions count. -/
structure Opening where
  found : List Octets
  rest : List Word
  meaning : Meaning
  special : Option Bool
  functions : Bool
  deriving Inhabited

/-- Finds out what a command stands for. -/
def openCommand
    (w : Within) :
    Nat → Opening → Eval Opening
  | 0, o => return o
  | fuel + 1, o => do
      match o.found with
      | [] => return o
      | name :: more => do
          let meaning ← meaningOf w o.functions name
          match meaning with
          | .builtin b =>
              let special := some (o.special.getD b.special)
              let next : Opening := { o with meaning := meaning, special := special }
              if name = "command".toList then
                match ← passOptions w (o.rest.length + more.length + 2) more o.rest with
                | none => do
                    let (extra, left) ← firstWords w []
                    return { next with found := o.found ++ extra, rest := o.rest ++ left }
                | some (found, rest) =>
                    openCommand w fuel { next with found := found, rest := rest, functions := false }
              else return next
          | _ => return { o with meaning := meaning }

/-- Whether a word is written as an assignment. -/
def looksAssigned (word : Word) : Bool :=
  match word with
  | .text s :: _ =>
      let name := s.takeWhile (· ≠ '=')
      isName name && name.length < s.length
  | _ => false

/-- Expands the words behind those found. -/
def expandRest
    (w : Within)
    (assigns : Bool) :
    List Word → Eval (List Octets)
  | [] => return []
  | word :: rest => do
      let found ←
        if assigns && looksAssigned word then do
          match word with
          | .text s :: more =>
              let name := s.takeWhile (· ≠ '=')
              let value : Word := .text (s.drop (name.length + 1)) :: more
              pure [name ++ '=' :: (← expandText w.runner .value value)]
          | _ => pure []
        else expandWord w.runner word
      return found ++ (← expandRest w assigns rest)

/-- Shows a command before it is run, if that is asked for. -/
def trace
    (saved : List Saved)
    (assigned : List (Octets × Octets))
    (words : List Octets) :
    Eval Unit := do
  let s ← get
  if s.has 'x' then
    let shown := assigned.map (fun a => a.1 ++ '=' :: a.2) ++ words
    let line := s.valueOr "PS4" "+ ".toList ++ Octets.intercalate [' '] shown ++ ['\n']
    let descriptor := match saved.find? fun e => e.descriptor = 2 with
      | some e => e.under.getD 2
      | none => 2
    let _ ← act (Act.writeTo descriptor line)

/-- Sets the variables of a command, for the command only if `isLocal` is set. -/
def assignAll
    (w : Within)
    (isLocal exported : Bool) :
    List (Octets × Word) → Eval (List (Octets × Octets))
  | [] => return []
  | (name, word) :: rest => do
      let value ← expandText w.runner .value word
      if isLocal then makeLocal name
      assign name value (isLocal || exported)
      return (name, value) :: (← assignAll w isLocal exported rest)

/-- Runs what a command stands for. -/
def runMeaning
    (w : Within)
    (tested last : Bool)
    (o : Opening)
    (words : List Octets) :
    Eval Nat := do
  match o.meaning, words with
  | .function body, _ :: arguments => runFunction w tested body arguments
  | .builtin b, name :: arguments =>
      runBuiltin w tested (o.special = some true) name b arguments
  | .program, name :: arguments => do
      match ← findProgram name with
      | none => return 127
      | some path => runProgram w last path name arguments
  | _, _ =>
      let status := (← get).substituted
      setStatus status
      return status

def runSimple
    (w : Within)
    (tested last : Bool)
    (line : Nat)
    (assignments : List (Octets × Word))
    (words : List Word)
    (redirects : List Redirect) :
    Eval Nat := do
  modify fun s => { s with line := line, substituted := 0 }
  let (found, rest) ← firstWords w words
  let o ← openCommand w (words.length + found.length + 1)
    ⟨found, rest, .nothing, none, true⟩
  let assigns := match o.meaning with
    | .builtin b => b.assigns
    | _ => false
  let all := o.found ++ (← expandRest w assigns o.rest)
  let isExec := o.meaning matches .builtin _ && all.head? = some "exec".toList
  let isLocal := match o.meaning, o.special with
    | .nothing, _ => false
    | .builtin _, some special => !special
    | _, _ => true
  let depth := (← get).saved.length
  if isLocal then pushFrame
  let targets ← forEach (expandRedirect w.runner) redirects
  let (saved, fault) ← redirectAll true [] targets
  let status ←
    match fault with
    | some r => do
        if o.special = some true || r ≠ .error then raise r
        setStatus 2
        pure 2
    | none => do
        let assigned ← assignAll w isLocal (isExec && 1 < all.length) assignments
        trace saved assigned all
        runMeaning w tested last o all
  if isExec && fault.isNone then forgetAll saved else restoreAll saved
  if isLocal then popFrames depth
  return status

/-! ### Commands made of commands -/

/-- Goes on behind a command in a loop: the skip that ends the loop, if there is one. -/
def afterRound : Eval Skip := do
  let s ← get
  let (left, shown) : Skip × Skip := match s.skip with
    | .break_ n => if n ≤ 1 then (.none, .break_ 1) else (.break_ (n - 1), .break_ 1)
    | .continue_ n => if n ≤ 1 then (.none, .continue_ 1) else (.continue_ (n - 1), .break_ 1)
    | skip => (skip, skip)
  set { s with skip := left }
  return shown

def endsLoop : Skip → Bool
  | .none => false
  | .continue_ _ => false
  | _ => true

/-- Does something inside of a loop. -/
def inLoop
    {α : Type}
    (body : Eval α) :
    Eval α := do
  modify fun s => { s with loops := s.loops + 1 }
  let a ← body
  modify fun s => { s with loops := s.loops - 1 }
  return a

/-- Runs a loop as long as a test says. -/
def runWhile
    (w : Within)
    (tested untilTrue : Bool)
    (test body : Command) :
    Eval Nat :=
  inLoop (repeat_ 0 step Act.rounds 0)
where
  /-- Goes round once, behind a round that ended with a status. -/
  step (status : Nat) : Eval (Nat ⊕ Nat) := do
    let i ← w.runner true false test
    let skip ← afterRound
    match skip with
    | .none =>
        if (i = 0) = untilTrue then return .inr status
        else
          let j ← w.runner tested false body
          if endsLoop (← afterRound) then return .inr j else return .inl j
    | .return_ _ => return .inr i
    | skip => return if endsLoop skip then .inr status else .inl status

/-- Runs a loop over words. -/
def runFor
    (w : Within)
    (tested : Bool)
    (name : Octets)
    (words : List Octets)
    (body : Command) :
    Eval Nat :=
  inLoop (go 0 words)
where
  /-- Goes round for the words that are left. -/
  go : Nat → List Octets → Eval Nat
    | status, [] => return status
    | _, word :: rest => do
        assign name word false
        let status ← w.runner tested false body
        if endsLoop (← afterRound) then return status else go status rest

/-- The body of the first branch with a pattern that matches. -/
def chosenBranch
    (w : Within)
    (subject : Octets) :
    List (List Word × Command) → Eval (Option Command)
  | [] => return none
  | (patterns, body) :: rest => do
      if ← anyMatch patterns then return some body else chosenBranch w subject rest
where
  /-- Whether one of some patterns matches. -/
  anyMatch : List Word → Eval Bool
    | [] => return false
    | p :: rest => do
        if Pattern.isMatch (← expandPattern w.runner p) subject then return true
        else anyMatch rest

/-- Runs a command in this process to its end, with its redirections. -/
def runToEnd
    (w : Within)
    (tested : Bool)
    (targets : List Redirection)
    (body : Command) :
    Eval Unit := do
  let (_, fault) ← redirectAll false [] targets
  match fault with
  | some r => raise r
  | none => do
      let _ ← w.runner tested true body
      raise .end_

/-- Runs a command in a process of its own. -/
def runSubshell
    (w : Within)
    (tested last : Bool)
    (line : Nat)
    (body : Command)
    (redirects : List Redirect) :
    Eval Nat := do
  modify fun s => { s with line := line }
  let targets ← forEach (expandRedirect w.runner) redirects
  if last && !(← get).hasTraps then
    runToEnd w tested targets body
    return 0
  else runApart w.runner (runToEnd w tested targets body)

/-- Starts the processes of a pipeline, of which the first one reads from a descriptor. -/
def startPipes
    (w : Within)
    (tested background : Bool) :
    Option Nat → List Nat → List Command → Eval (List Nat)
  | _, ids, [] => return ids.reverse
  | input, ids, c :: rest => do
      let pipe ← if rest.isEmpty then pure none else some <$> ask .pipe
      let child : Eval Unit := do
        if background then inBackground ids.isEmpty
        match pipe with
        | some (out, _) =>
            let _ ← ask (.close out)
        | none => pure ()
        match input with
        | some d => moveDescriptor d 0
        | none => pure ()
        match pipe with
        | some (_, into) => moveDescriptor into 1
        | none => pure ()
        let _ ← w.runner tested true c
        raise .end_
      let id ← fork w.runner child
      match input with
      | some d =>
          let _ ← ask (.close d)
      | none => pure ()
      match pipe with
      | some (_, into) =>
          let _ ← ask (.close into)
      | none => pure ()
      startPipes w tested background (pipe.map Prod.fst) (id :: ids) rest

/-- Notes a job that runs in the background. -/
def noteBackground (ids : List Nat) : Eval Unit := do
  let _ ← addJob ids true
  modify fun s => { s with lastBackground := ids.getLast? }

def runBackground
    (w : Within)
    (body : Command) :
    Eval Nat := do
  match body with
  | .pipeline commands =>
      noteBackground (← startPipes w false true none [] commands)
  | .redirected _ inner redirects => do
      let targets ← forEach (expandRedirect w.runner) redirects
      noteBackground [← fork w.runner do
        inBackground true
        runToEnd w false targets inner]
  | body => do
      noteBackground [← fork w.runner do
        inBackground true
        runToEnd w false [] body]
  return 0

/-- Runs a command with redirections around it. -/
def runRedirected
    (w : Within)
    (tested : Bool)
    (line : Nat)
    (body : Command)
    (redirects : List Redirect) :
    Eval Nat := do
  modify fun s => { s with line := line }
  let targets ← forEach (expandRedirect w.runner) redirects
  let (saved, fault) ← redirectAll true [] targets
  let status ← match fault with
    | some .error => pure 2
    | some r => raise r
    | none => w.runner tested false body
  restoreAll saved
  return status

/-! ### All commands -/

/-- Runs a command: its status, and whether a status other than zero may end the shell. -/
def runKind
    (w : Within)
    (tested last : Bool) :
    Command → Eval (Nat × Bool)
  | .nothing => return ((← get).status, false)
  | .simple line assignments words redirects => do
      return (← runSimple w tested last line assignments words redirects, !tested)
  | .not_ body => do
      return (if (← w.runner true false body) = 0 then 1 else 0, false)
  | .and_ first second => do
      let status ← w.runner true false first
      if status ≠ 0 || (← isSkipping) then return (status, false)
      else return (← w.runner tested last second, false)
  | .or_ first second => do
      let status ← w.runner true false first
      if status = 0 || (← isSkipping) then return (status, false)
      else return (← w.runner tested last second, false)
  | .sequence first second => do
      let status ← w.runner tested false first
      if ← isSkipping then return (status, false)
      else return (← w.runner tested last second, false)
  | .if_ test body other => do
      let status ← w.runner true false test
      if ← isSkipping then return (status, false)
      else if status = 0 then return (← w.runner tested last body, false)
      else if isNothing other then return (0, false)
      else return (← w.runner tested last other, false)
  | .while_ untilTrue test body => do
      return (← runWhile w tested untilTrue test body, false)
  | .for_ line name words body => do
      modify fun s => { s with line := line }
      let all ← match words with
        | some ws => expandWords w.runner ws
        | none => pure (← get).parameters
      return (← runFor w tested name all body, false)
  | .case_ line word branches => do
      modify fun s => { s with line := line }
      let subject ← expandText w.runner .start word
      match ← chosenBranch w subject branches with
      | some body =>
          if isNothing body then return (0, false)
          else return (← w.runner tested last body, false)
      | none => return (0, false)
  | .function name body => do
      modify fun s =>
        { s with functions := (name, body) :: s.functions.filter fun f => f.1 ≠ name }
      return (0, false)
  | .redirected line body redirects => do
      return (← runRedirected w tested line body redirects, false)
  | .subshell line body redirects => do
      return (← runSubshell w tested last line body redirects, !tested)
  | .background body => do return (← runBackground w body, !tested)
  | .pipeline commands => do
      let ids ← startPipes w tested false none [] commands
      return (← waitJob (← addJob ids false), !tested)

/-- Runs a command, with the traps before and after it, and ends the shell if nothing follows, or if
the command fails where it must not. -/
def runAny
    (w : Within)
    (tested last : Bool)
    (c : Command) :
    Eval Nat := do
  runTraps w.runner
  let (status, mayEnd) ← runKind w tested last c
  setStatus status
  runTraps w.runner
  if mayEnd && status ≠ 0 && (← get).has 'e' then raise .end_
  if last then raise .end_
  return (← get).status

/-- Runs commands, inside of each other as deep as given. -/
def runnerOf (launcher : Launcher) : Nat → Runner
  | 0 => fun _ _ _ => failText "Too deep"
  | depth + 1 => fun tested last c =>
      runAny ⟨fun t l d => runnerOf launcher depth t l d, launcher⟩ tested last c

end Eval

end Shell
end Runbook
