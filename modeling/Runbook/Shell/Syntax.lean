import Runbook.Text.Octets

/-!
# The language of the shell

A word is made of parts that are taken as they stand and parts that are replaced when the word is
used. A command is a simple one, which runs a program or a function with words, or it puts commands
together.
-/

namespace Runbook
namespace Shell

/-- What a parameter between braces is used for. -/
inductive Use where
  | plain
  | length
  | default
  | assign
  | demand
  | alternative
  | cutEnd (longest : Bool)
  | cutStart (longest : Bool)
  | bad
  deriving DecidableEq, Repr, Inhabited

/-- How a stream is redirected. -/
inductive RedirectKind where
  | input
  | output
  | clobber
  | append
  | both
  | copyInput
  | copyOutput
  | document (number : Nat)
  deriving DecidableEq, Repr, Inhabited

mutual

/-- A part of a word. `quoted` says that what replaces it is taken as it stands; `emptyCounts` that
an empty value counts like none. -/
inductive Part where
  | text (s : Octets)
  | quoted (s : Octets)
  | parameter (quoted : Bool) (name : Octets) (use : Use) (emptyCounts : Bool) (word : List Part)
  | command (quoted : Bool) (body : Command)
  | arithmetic (quoted : Bool) (parts : List Part)

/-- A command. Numbers of lines are those that complaints name. -/
inductive Command where
  | nothing
  | simple (line : Nat) (assignments : List (Octets × List Part)) (words : List (List Part))
      (redirects : List Redirect)
  | pipeline (commands : List Command)
  | not_ (body : Command)
  | and_ (first second : Command)
  | or_ (first second : Command)
  | sequence (first second : Command)
  | background (body : Command)
  | redirected (line : Nat) (body : Command) (redirects : List Redirect)
  | subshell (line : Nat) (body : Command) (redirects : List Redirect)
  | if_ (test body other : Command)
  | while_ (until_ : Bool) (test body : Command)
  | for_ (line : Nat) (variable_ : Octets) (words : Option (List (List Part))) (body : Command)
  | case_ (line : Nat) (word : List Part) (branches : List (List (List Part) × Command))
  | function (name : Octets) (body : Command)

/-- A redirection: the descriptor, and what it is to stand for. -/
inductive Redirect where
  | mk (descriptor : Nat) (kind : RedirectKind) (target : List Part)

end

abbrev Word := List Part

instance : Inhabited Part :=
  ⟨.text []⟩

instance : Inhabited Command :=
  ⟨.nothing⟩

instance : Inhabited Redirect :=
  ⟨.mk 0 .input []⟩

/-- A document that stands in a script behind the line that uses it. -/
structure Document where
  number : Nat
  body : Word
  deriving Inhabited

def isNameStart (c : Char) : Bool :=
  c.isAlpha || c = '_'

def isNameChar (c : Char) : Bool :=
  c.isAlphanum || c = '_'

/-- Whether a row of bytes is a name. -/
def isName (s : Octets) : Bool :=
  match s with
  | [] => false
  | c :: rest => isNameStart c && rest.all isNameChar

/-- The parameters that have a sign for a name. -/
def isSpecial (c : Char) : Bool :=
  "!#$*-?@".toList.contains c || c.isDigit

/-- The words that mean something where a command could start. -/
inductive Keyword where
  | bang
  | case_
  | do_
  | done
  | elif
  | else_
  | esac
  | fi
  | for_
  | if_
  | in_
  | then_
  | until_
  | while_
  | begin_
  | end_
  deriving DecidableEq, Repr, Inhabited

namespace Keyword

def all : List (String × Keyword) :=
  [ ("!", .bang), ("case", .case_), ("do", .do_), ("done", .done), ("elif", .elif),
    ("else", .else_), ("esac", .esac), ("fi", .fi), ("for", .for_), ("if", .if_), ("in", .in_),
    ("then", .then_), ("until", .until_), ("while", .while_), ("\x7b", .begin_), ("\x7d", .end_) ]

def of? (word : Octets) : Option Keyword :=
  (all.find? fun e => e.1.toList = word).map Prod.snd

def text (k : Keyword) : String :=
  ((all.find? fun e => e.2 = k).map Prod.fst).getD ""

end Keyword

/-- A token of a script. -/
inductive Token where
  | eof
  | newline
  | semicolon
  | ampersand
  | and_
  | or_
  | pipe
  | open_
  | close_
  | caseEnd
  | backquote
  | word (parts : Word) (raw : Octets) (quoted : Bool)
  | redirect (descriptor : Option Nat) (operator : Octets)
  | keyword (k : Keyword)
  deriving Inhabited

namespace Token

/-- A token as complaints show it. -/
def shown : Token → String
  | .eof => "end of file"
  | .newline => "newline"
  | .semicolon => "\";\""
  | .ampersand => "\"&\""
  | .and_ => "\"&&\""
  | .or_ => "\"||\""
  | .pipe => "\"|\""
  | .open_ => "\"(\""
  | .close_ => "\")\""
  | .caseEnd => "\";;\""
  | .backquote => "\"\x60\""
  | .word _ _ _ => "word"
  | .redirect _ _ => "redirection"
  | .keyword k => "\"" ++ k.text ++ "\""

/-- Whether a token ends a list of commands inside of another command. -/
def endsList : Token → Bool
  | .eof => true
  | .close_ => true
  | .caseEnd => true
  | .backquote => true
  | .keyword k => [Keyword.do_, .done, .elif, .else_, .esac, .fi, .then_, .end_].contains k
  | _ => false

end Token

/-- A fault of form, with the number of the line where it was found. -/
structure SyntaxFault where
  line : Nat
  message : String
  deriving DecidableEq, Repr, Inhabited

end Shell
end Runbook
