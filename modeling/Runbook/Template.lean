import Runbook.Json.Printer
import Runbook.Number.Reading
import Runbook.Text.Pieces

/-!
# Templates

A template is a text with placeholders, a key between double braces. Rendering cuts it into pieces
once, from left to right, and replaces every placeholder by the text of the value that the context
holds under its key. A backslash before a placeholder keeps it as it is.
-/

namespace Runbook

/-- A piece of a template. -/
inductive Piece where
  | literal (c : Char)
  | placeholder (key : String)
  | escaped (inside : List Char)
  deriving DecidableEq, Repr

/-- Why a template has no text in a context. -/
inductive TemplateError where
  | unresolved (key : String)
  deriving DecidableEq, Repr

def TemplateError.message : TemplateError → String
  | .unresolved key =>
      "Placeholder '\x7b\x7b" ++ key ++
        "\x7d\x7d' could not be resolved from the current context."

namespace Context

/-- The value reached from a value through keys of objects and indices of arrays. -/
def descend : List String → Json → Option Json
  | [], v => some v
  | part :: rest, .object fields => (Dict.get? fields part).bind (descend rest)
  | part :: rest, .array items =>
      match index? part.toList with
      | some i => items[i]?.bind (descend rest)
      | none => none
  | _ :: _, _ => none

/-- The value under a key. A key that the context holds as it stands wins; otherwise the parts of
the key between points lead into nested values. -/
def lookup
    (context : Context)
    (key : String) :
    Option Json :=
  match Dict.get? context key with
  | some v => some v
  | none =>
      match (Text.splitOn '.' key.toList).map String.ofList with
      | [] => none
      | first :: rest => (Dict.get? context first).bind (descend rest)

end Context

namespace Template

def isBrace (c : Char) : Bool :=
  c = '\x7b' || c = '\x7d'

/-- The key inside a placeholder: its text without the blanks around it. Blanks alone stand for the
last one of them. -/
def keyOf (inside : List Char) : List Char :=
  if Text.allBlank inside then
    inside.drop (inside.length - 1)
  else
    Text.trim inside

/-- The text between the braces of a placeholder that a text starts with. -/
def placeholderInside? : List Char → Option (List Char)
  | '\x7b' :: '\x7b' :: s =>
      let inside := s.takeWhile fun c => !isBrace c
      match s.dropWhile fun c => !isBrace c with
      | '\x7d' :: '\x7d' :: _ => if inside.isEmpty then none else some inside
      | _ => none
  | _ => none

/-- The piece that a text starts with and the number of characters it takes, when that is a
placeholder, escaped or not. -/
def pieceAt? : List Char → Option (Piece × Nat)
  | '\\' :: s =>
      (placeholderInside? s).map fun inside => (.escaped inside, inside.length + 5)
  | s =>
      (placeholderInside? s).map fun inside =>
        (.placeholder (String.ofList (keyOf inside)), inside.length + 4)

/-- The pieces of a template, of which the first characters may belong to an earlier piece. -/
def piecesFrom : Nat → List Char → List Piece
  | _, [] => []
  | skip + 1, _ :: s => piecesFrom skip s
  | 0, c :: s =>
      match pieceAt? (c :: s) with
      | some (piece, size) => piece :: piecesFrom (size - 1) s
      | none => .literal c :: piecesFrom 0 s

def pieces (s : List Char) : List Piece :=
  piecesFrom 0 s

def renderPiece
    (context : Context) :
    Piece → Except TemplateError (List Char)
  | .literal c => .ok [c]
  | .escaped inside => .ok ("\x7b\x7b".toList ++ inside ++ "\x7d\x7d".toList)
  | .placeholder key =>
      match context.lookup key with
      | some v => .ok v.plainText.toList
      | none => .error (.unresolved key)

/-- The text of pieces in a context; the first piece without a text decides the error. -/
def renderPieces
    (context : Context) :
    List Piece → Except TemplateError (List Char)
  | [] => .ok []
  | p :: rest =>
      match renderPiece context p with
      | .error e => .error e
      | .ok t =>
          match renderPieces context rest with
          | .error e => .error e
          | .ok u => .ok (t ++ u)

def render
    (context : Context)
    (template : String) :
    Except TemplateError String :=
  (renderPieces context (pieces template.toList)).map String.ofList

end Template
end Runbook
