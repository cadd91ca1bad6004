import Runbook.Json.Basic
import Runbook.Text.Letter
import Runbook.Text.Pieces

/-!
# Paths and their templates

Paths as they are written, and templates that become paths.
-/

namespace Runbook

/-!
## Paths

A path is kept as it is written, because messages show it that way. Its meaning is its list of
components: empty parts say nothing, and a point says something only at the very start.
-/

/-- One component of a path. -/
inductive PathPart where
  | root
  | here
  | up
  | name (s : String)
  deriving DecidableEq, Repr

/-- The place of a kind of component in the order of paths. -/
def PathPart.rank : PathPart → Nat
  | .root => 0
  | .here => 1
  | .up => 2
  | .name _ => 3

/-- Whether a component comes before another one: names stand behind all other components. -/
def PathPart.precedes : PathPart → PathPart → Bool
  | .name a, .name b => a < b
  | a, b => a.rank < b.rank

namespace Path

/-- Whether a path starts at the root. -/
def isAbsolute (path : String) : Bool :=
  path.toList.head? = some '/'

/-- The component that a part between slashes stands for. -/
def partOf?
    (part : List Char) :
    Option PathPart :=
  if part.isEmpty || part = ['.'] then none
  else if part = ['.', '.'] then some .up
  else some (.name (String.ofList part))

def components (path : String) : List PathPart :=
  let parts := Text.splitOn '/' path.toList
  let start : List PathPart :=
    if isAbsolute path then [.root]
    else if parts.head? = some ['.'] then [.here]
    else []
  start ++ parts.filterMap partOf?

/-- Whether components come before others: the first difference decides, and a path comes before what
lies below it. -/
def partsPrecede : List PathPart → List PathPart → Bool
  | _, [] => false
  | [], _ :: _ => true
  | a :: s, b :: t => a.precedes b || (a = b && partsPrecede s t)

/-- Whether a path comes before another one, component by component. -/
def precedes (p q : String) : Bool :=
  partsPrecede (components p) (components q)

/-- A path below another one; an absolute path stands for itself. -/
def join
    (base path : String) :
    String :=
  if isAbsolute path then path
  else if base.isEmpty || base.toList.getLast? = some '/' then base ++ path
  else base ++ "/" ++ path

def fileName? (path : String) : Option String :=
  match (components path).getLast? with
  | some (.name s) => some s
  | _ => none

/-- Drops slashes and points from the front of the rest of a path. -/
def skipEmptyParts : List Char → List Char
  | [] => []
  | '/' :: s => skipEmptyParts s
  | ['.'] => []
  | '.' :: '/' :: s => skipEmptyParts s
  | s => s

/-- Drops what says nothing at the end of a path, given in reverse. -/
def skipEmptyPartsReversed : List Char → List Char
  | ['/'] => ['/']
  | '/' :: s => skipEmptyPartsReversed s
  | '.' :: '/' :: s => if s.isEmpty then ['/'] else skipEmptyPartsReversed s
  | s => s

/-- A path without slashes and points at its end. -/
def trimEnd (path : String) : String :=
  String.ofList (skipEmptyPartsReversed path.toList.reverse).reverse

/-- The path without its last component; the root and the empty path have no parent. -/
def parent? (path : String) : Option String :=
  match (components path).getLast? with
  | none => none
  | some .root => none
  | some _ =>
      let reversed := skipEmptyPartsReversed path.toList.reverse
      let rest := reversed.dropWhile (· ≠ '/')
      some (String.ofList (skipEmptyPartsReversed rest).reverse)

/-- The rest of a path after leading components, as text. -/
def dropComponents : List PathPart → List Char → Option (List Char)
  | [], s => some (skipEmptyParts s)
  | .root :: parts, '/' :: s => dropComponents parts s
  | .root :: _, _ => none
  | .here :: parts, '.' :: s => dropComponents parts s
  | .here :: _, _ => none
  | part :: parts, s =>
      let body := skipEmptyParts s
      let first := body.takeWhile (· ≠ '/')
      if partOf? first = some part then
        dropComponents parts (body.dropWhile (· ≠ '/'))
      else
        none

/-- The path relative to a base that it lies below. -/
def stripPrefix?
    (base path : String) :
    Option String :=
  match dropComponents (components base) path.toList with
  | none => none
  | some rest => some (String.ofList (skipEmptyPartsReversed rest.reverse).reverse)

/-- A path as messages show it: relative to a base where it lies below it. -/
def shownFrom
    (base path : String) :
    String :=
  (stripPrefix? base path).getD path

/-- Whether the name of a path starts with a point. -/
def isHidden (path : String) : Bool :=
  (fileName? path).any fun name => name.toList.head? = some '.'

end Path

/-!
## Path templates

A configured path may name the home directory by a tilde at its start and variables of the
environment anywhere: a dollar sign with a name, or with a name between braces that may be followed
by a default. Two dollar signs stand for one.
-/

abbrev Environment := Dict String

/-- The home directory, unless it is not known. -/
def Environment.home? (env : Environment) : Option String :=
  (Dict.get? env "HOME").filter fun s => !s.isEmpty

/-- A variable that a path template names is not set. -/
structure UnsetVariable where
  template : String
  name : String
  deriving DecidableEq, Repr, Inhabited

/-- The text of the error. -/
def UnsetVariable.message (e : UnsetVariable) : String :=
  "Failed to expand path template '" ++ e.template ++ "': error looking key '" ++ e.name
    ++ "' up: environment variable not found"

namespace PathTemplate

/-- The text before the first occurrence of a colon and a hyphen, and the text after it. -/
def splitDefault : List Char → Option (List Char × List Char)
  | [] => none
  | ':' :: '-' :: s => some ([], s)
  | c :: s => (splitDefault s).map fun p => (c :: p.1, p.2)

/-- The value of what stands between braces: a variable, or its default when it is not set. A
default needs a name before it. The error is the name that is not set. -/
def braced
    (env : Environment)
    (body : List Char) :
    Except String (List Char) :=
  let named : List Char × Option (List Char) := match splitDefault body with
    | some (c :: name, value) => (c :: name, some value)
    | _ => (body, none)
  let name := String.ofList named.1
  match Dict.get? env name, named.2 with
  | some value, _ => .ok value.toList
  | none, some value => .ok value
  | none, none => .error name

/-- A character of a variable's name that stands without braces. -/
def isNameChar (c : Char) : Bool :=
  Text.isAlphanumeric c || c = '_'

/-- Replaces the variables of a template. The error is the first name that is not set. -/
def substituted
    (env : Environment) :
    Nat → List Char → Except String (List Char)
  | 0, s => .ok s
  | _, [] => .ok []
  | fuel + 1, '$' :: '\x7b' :: s =>
      match s.dropWhile (· ≠ '\x7d') with
      | [] => (substituted env fuel s).map fun t => '$' :: '\x7b' :: t
      | _ :: rest =>
          match braced env (s.takeWhile (· ≠ '\x7d')) with
          | .error name => .error name
          | .ok value => (substituted env fuel rest).map (value ++ ·)
  | fuel + 1, '$' :: '$' :: s => (substituted env fuel s).map ('$' :: ·)
  | fuel + 1, '$' :: s =>
      let name := s.takeWhile isNameChar
      if name.isEmpty then
        (substituted env fuel s).map ('$' :: ·)
      else
        match Dict.get? env (String.ofList name) with
        | none => .error (String.ofList name)
        | some value => (substituted env fuel (s.drop name.length)).map (value.toList ++ ·)
  | fuel + 1, c :: s => (substituted env fuel s).map (c :: ·)

/-- Replaces a tilde that stands for the home directory. -/
def tilde
    (env : Environment)
    (s : List Char) :
    List Char :=
  match s, Environment.home? env with
  | ['~'], some home => home.toList
  | '~' :: '/' :: rest, some home => home.toList ++ '/' :: rest
  | _, _ => s

/-- The path that a template stands for. A tilde counts only where the template itself starts with
one. -/
def expand
    (env : Environment)
    (template : String) :
    Except UnsetVariable String :=
  let s := template.toList
  match substituted env (s.length + 1) s with
  | .error name => .error ⟨template, name⟩
  | .ok t => .ok (String.ofList (if s.head? = some '~' then tilde env t else t))

/-- The path that a template stands for, below a directory unless it is absolute. -/
def resolve
    (env : Environment)
    (directory template : String) :
    Except UnsetVariable String :=
  (expand env template).map (Path.join directory)

end PathTemplate

end Runbook
