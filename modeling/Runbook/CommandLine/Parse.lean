import Runbook.Command.Registry
import Runbook.Number.Binary
import Runbook.Number.Reading

/-!
# Command lines

The commands with their arguments, and how the words of a command line are read as them.
-/

namespace Runbook

/-!
## Grammar

What may be written after the name of the program: a tree of commands with their arguments, and what
each argument takes for a value.
-/

/-- Why a command line is not accepted, or what it asks for instead of a run. -/
inductive UsageError where
  | unknownArgument
  | invalidValue
  | valueValidation
  | tooManyValues
  | missingRequiredArgument
  | invalidSubcommand
  | argumentConflict
  | displayHelp
  | displayVersion
  | displayHelpOnMissing
  deriving DecidableEq, Repr, Inhabited

def UsageError.message : UsageError → String
  | .unknownArgument => "unexpected argument"
  | .invalidValue => "invalid value for an argument"
  | .valueValidation => "malformed value for an argument"
  | .tooManyValues => "unexpected value for a flag"
  | .missingRequiredArgument => "a required argument was not provided"
  | .invalidSubcommand => "unrecognized subcommand"
  | .argumentConflict => "an argument cannot be used several times"
  | _ => "usage: crank <command> <subcommand> [options]"

/-- The values an argument takes. -/
inductive ValueRule where
  | text
  | whole (bits : Nat)
  | decimal (f : FloatFormat)
  | truth
  | choice (keys : List String)
  deriving DecidableEq, Repr

/-- The text that a value is kept as, once it is accepted. -/
def ValueRule.read
    (rule : ValueRule)
    (value : String) :
    Except UsageError String :=
  match rule with
  | .text => .ok value
  | .whole bits =>
      match intIn? 10 (Nat.pow 2 (bits - 1)) value.toList with
      | some n => .ok (toString n)
      | none => .error .valueValidation
  | .decimal f =>
      match readFloat? f value.toList with
      | some x => .ok (FloatLayout.plain.text f x)
      | none => .error .valueValidation
  | .truth =>
      if value = "true" || value = "false" then .ok value else .error .invalidValue
  | .choice keys => if keys.contains value then .ok value else .error .invalidValue

/-- What an argument does: it takes a value, which may be left out where one is known for that case,
or it is a switch, or it asks for help or for the version. -/
inductive ArgumentRole where
  | value (rule : ValueRule) (whenMissing : Option String)
  | switch
  | help
  | version
  deriving DecidableEq, Repr

/-- An argument of a command. -/
structure Argument where
  id : String
  long : Option String
  short : Option Char
  role : ArgumentRole
  required : Bool
  default : Option String
  deriving DecidableEq, Repr

/-- A command: its names, the arguments given by flags and by position, and its sub-commands. One
that has sub-commands may demand one, and may offer one for help. -/
inductive CommandForm where
  | form
      (names : List String)
      (flags positionals : List Argument)
      (subcommands : List CommandForm)
      (demandsSubcommand offersHelp : Bool)
  deriving Repr

namespace CommandForm

def names : CommandForm → List String
  | .form names _ _ _ _ _ => names

def name (c : CommandForm) : String :=
  c.names.headD ""

def flags : CommandForm → List Argument
  | .form _ flags _ _ _ _ => flags

def positionals : CommandForm → List Argument
  | .form _ _ positionals _ _ _ => positionals

def subcommands : CommandForm → List CommandForm
  | .form _ _ _ subs _ _ => subs

/-- Whether a sub-command must follow. -/
def demandsSubcommand : CommandForm → Bool
  | .form _ _ _ _ demands _ => demands

/-- Whether the word for help stands for a sub-command. -/
def offersHelp : CommandForm → Bool
  | .form _ _ _ subs _ offers => offers && !subs.isEmpty

/-- The sub-command that a word names. -/
def subcommand?
    (c : CommandForm)
    (word : String) :
    Option CommandForm :=
  c.subcommands.find? fun sub => sub.names.contains word

end CommandForm

def helpArgument : Argument :=
  ⟨"help", some "help", some 'h', .help, false, none⟩

def versionArgument : Argument :=
  ⟨"version", some "version", some 'V', .version, false, none⟩

def BoundOption.role (b : BoundOption) : ArgumentRole :=
  match b.kind with
  | .int => .value (.whole 32) none
  | .long => .value (.whole 64) none
  | .short => .value (.whole 16) none
  | .double => .value (.decimal .double) none
  | .float => .value (.decimal .single) none
  | .bool => .value .truth (some "true")
  | .text =>
      if b.option.choices.isEmpty then .value .text none
      else .value (.choice (b.option.choices.map Prod.fst)) none

/-- The argument of an option. One with a default is never missing. -/
def BoundOption.argument (b : BoundOption) : Argument :=
  ⟨b.flag, some b.flag, none, b.role, b.option.required && b.option.default.isNone,
    b.option.default⟩

/-- The form of a unit below its command. -/
def Invocable.form
    (offersHelp : Bool)
    (u : Invocable) :
    CommandForm :=
  .form [u.subcommand.name] (u.options.map BoundOption.argument ++ [helpArgument]) [] [] false
    offersHelp

/-- The forms of units, those of one command below one form. -/
def unitForms
    (offersHelp : Bool)
    (units : List Invocable) :
    List CommandForm :=
  (units.map fun u => u.command.name).eraseDups.map fun name =>
    let below := units.filter fun u => u.command.name = name
    .form [name] [helpArgument] [] (below.map (Invocable.form offersHelp)) true offersHelp

def managementForm : CommandForm :=
  .form [reservedNamespace] [helpArgument] []
    [ .form ["list", "ls"] [⟨"paths", some "paths", some 'p', .switch, false, none⟩, helpArgument]
        [] [] false false,
      .form ["new"] [helpArgument]
        [ ⟨"name", none, none, .value .text none, true, none⟩,
          ⟨"sub", none, none, .value .text none, false, some "run"⟩ ]
        [] false false ]
    true false

/-- The whole program: its management commands and those of the user. -/
def programForm (units : List Invocable) : CommandForm :=
  .form ["crank"] [helpArgument, versionArgument] [] (managementForm :: unitForms false units) true
    false

def userForm (units : List Invocable) : CommandForm :=
  .form ["crank"] [helpArgument] [] (unitForms true units) false true

/-!
## Parsing

Words are taken one by one. A flag waits for its value, which is the next word unless that is a flag
itself, and is settled when the next argument starts; so the first fault in the order of the words
decides. After two hyphens all words are values. In the end defaults are filled in, and required
arguments must be there.
-/

/-- A flag that was given, with the values collected for it. -/
structure PendingFlag where
  argument : Argument
  values : List String
  deriving DecidableEq, Repr

/-- The words of one command taken so far: the arguments settled, the flag not settled yet and
whether it still waits for a value, whether only values follow, and the positions left. -/
structure ParseState where
  settled : Dict String
  pending : Option PendingFlag
  waiting : Bool
  valuesOnly : Bool
  positions : List Argument
  deriving DecidableEq, Repr

namespace ParseState

def start (c : CommandForm) : ParseState :=
  ⟨[], none, false, false, c.positionals⟩

/-- Settles an argument with its values; each argument is given at most once. -/
def settle
    (s : ParseState)
    (a : Argument)
    (values : List String) :
    Except UsageError ParseState :=
  let given := Dict.has s.settled a.id
  match a.role with
  | .help => .error .displayHelp
  | .version => .error .displayVersion
  | .switch =>
      if given then .error .argumentConflict
      else .ok { s with settled := Dict.insert s.settled a.id "true" }
  | .value rule whenMissing =>
      match values.head? <|> whenMissing with
      | none => .error .invalidValue
      | some value =>
          if given then .error .argumentConflict
          else
            match rule.read value with
            | .error e => .error e
            | .ok text => .ok { s with settled := Dict.insert s.settled a.id text }

/-- Settles the flag that is not settled yet. -/
def settlePending (s : ParseState) : Except UsageError ParseState :=
  match s.pending with
  | none => .ok s
  | some p => settle { s with pending := none, waiting := false } p.argument p.values

def takeFlag
    (s : ParseState)
    (a : Argument)
    (attached : Option String) :
    Except UsageError ParseState :=
  match a.role, attached with
  | .value _ _, none =>
      (settlePending s).map fun t => { t with pending := some ⟨a, []⟩, waiting := true }
  | .value _ _, some value =>
      match settlePending s with
      | .error e => .error e
      | .ok t => settle t a [value]
  | _, some _ => .error .tooManyValues
  | _, none =>
      match settlePending s with
      | .error e => .error e
      | .ok t => settle t a []

/-- A word that starts with two hyphens, after them. -/
def takeLong
    (c : CommandForm)
    (s : ParseState)
    (body : List Char) :
    Except UsageError ParseState :=
  let name := String.ofList (body.takeWhile (· ≠ '='))
  let attached := match body.dropWhile (· ≠ '=') with
    | [] => none
    | _ :: value => some (String.ofList value)
  match c.flags.find? fun a => a.long = some name with
  | none => .error .unknownArgument
  | some a => takeFlag s a attached

/-- Letters after one hyphen. -/
def takeShort
    (c : CommandForm) :
    ParseState → List Char → Except UsageError ParseState
  | s, [] => .ok s
  | s, letter :: rest =>
      match c.flags.find? fun a => a.short = some letter with
      | none => .error .unknownArgument
      | some a =>
          match takeFlag s a none with
          | .error e => .error e
          | .ok t => takeShort c t rest

/-- A value by position. Where none is expected, a word may have been meant as a sub-command. -/
def takePositional
    (c : CommandForm)
    (s : ParseState)
    (word : String) :
    Except UsageError ParseState :=
  match s.positions with
  | a :: rest =>
      match settlePending s with
      | .error e => .error e
      | .ok t => settle { t with positions := rest } a [word]
  | [] =>
      if s.valuesOnly && ((c.subcommand? word).isSome || (c.offersHelp && word = "help")) then
        .error .unknownArgument
      else if !c.subcommands.isEmpty && c.positionals.isEmpty then .error .invalidSubcommand
      else .error .unknownArgument

/-- One word that names no sub-command. -/
def takeWord
    (c : CommandForm)
    (s : ParseState)
    (word : String) :
    Except UsageError ParseState :=
  if s.valuesOnly then
    takePositional c s word
  else
    match word.toList, s.waiting, s.pending with
    | ['-', '-'], _, _ => .ok { s with valuesOnly := true }
    | '-' :: '-' :: body, _, _ => takeLong c s body
    | '-' :: letter :: rest, _, _ => takeShort c s (letter :: rest)
    | _, true, some p => .ok { s with pending := some ⟨p.argument, [word]⟩, waiting := false }
    | _, _, _ => takePositional c s word

def withDefault
    (s : ParseState)
    (a : Argument) :
    Except UsageError ParseState :=
  match a.default, Dict.has s.settled a.id with
  | some value, false => settle s a [value]
  | _, _ => .ok s

/-- The arguments of a command whose words are all taken. -/
def finish
    (c : CommandForm)
    (s : ParseState) :
    Except UsageError (Dict String) :=
  match settlePending s with
  | .error e => .error e
  | .ok t =>
      let arguments := c.flags ++ c.positionals
      match arguments.foldlM withDefault t with
      | .error e => .error e
      | .ok u =>
          if c.demandsSubcommand then .error .displayHelpOnMissing
          else if arguments.any fun a => a.required && !Dict.has u.settled a.id then
            .error .missingRequiredArgument
          else
            .ok u.settled

end ParseState

/-- A command line that was understood: the names of the commands, each below the one before it, and
the arguments of the last one. -/
structure ParsedLine where
  path : List String
  values : Dict String
  deriving DecidableEq, Repr, Inhabited

/-- Words after the sub-command for help name the command that help is wanted for. -/
def helpFor
    (c : CommandForm) :
    List String → UsageError
  | [] => .displayHelp
  | word :: rest =>
      match c.subcommand? word with
      | some sub => helpFor sub rest
      | none =>
          if c.offersHelp && word = "help" then
            if rest.isEmpty then .displayHelp else .invalidSubcommand
          else .invalidSubcommand

/-- Understands the rest of the words for a command. -/
def parseWords
    (c : CommandForm)
    (s : ParseState) :
    List String → Except UsageError ParsedLine
  | [] => (s.finish c).map fun values => ⟨[], values⟩
  | word :: rest =>
      let mayDescend := !s.valuesOnly && !s.waiting
      match mayDescend, c.subcommand? word with
      | true, some sub =>
          (parseWords sub (.start sub) rest).map fun p => ⟨sub.name :: p.path, p.values⟩
      | _, _ =>
          if mayDescend && c.offersHelp && word = "help" then
            .error (helpFor c rest)
          else
            match s.takeWord c word with
            | .error e => .error e
            | .ok t => parseWords c t rest

def parseLine
    (c : CommandForm)
    (words : List String) :
    Except UsageError ParsedLine :=
  parseWords c (.start c) words

end Runbook
