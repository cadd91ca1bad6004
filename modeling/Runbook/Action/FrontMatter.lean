import Runbook.Text.Pieces
import Runbook.Text.Utf8

/-!
# Front matter

A document may carry its definitions in front of other text, between two lines of three hyphens.
-/

namespace Runbook
namespace FrontMatter

/-- Whether a line is a fence: three hyphens, and blanks after them at most. -/
def isFence (line : List Char) : Bool :=
  Text.trimRight line = ['-', '-', '-']

/-- Where the first fence among lines begins, when they begin at an offset. -/
def fenceFrom? (offset : Nat) : List (List Char) → Option Nat
  | [] => none
  | line :: rest =>
      if isFence line then some offset
      else fenceFrom? (offset + Text.byteSize line) rest

/-- A text without one leading byte order mark. -/
def withoutMark : List Char → List Char
  | '\ufeff' :: s => s
  | s => s

/-- The text between an opening fence on the first line and the next fence. -/
def extract? (s : List Char) : Option (List Char) :=
  match Text.lineSegments (withoutMark s) with
  | [] => none
  | first :: rest =>
      if isFence first then
        let start := Text.byteSize first
        match fenceFrom? start rest with
        | none => none
        | some stop => Text.slice? (withoutMark s) ⟨start, stop⟩
      else
        none

end FrontMatter
end Runbook
