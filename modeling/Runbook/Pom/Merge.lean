import Runbook.Pom.Entry
import Runbook.Markup.Element

/-!
# Merging entries into a descriptor

An entry is merged by one edit of the text, planned on the document as it stands: it goes into its
section, or the sections that are missing are created around it. An entry whose key its section
already has needs no edit. Everything outside the edit stays as it is.
-/

/-!
## The layout of a descriptor

A descriptor keeps the look that it was given: its unit of indentation and its line endings are
read from it, and new text is brought into that form.
-/

namespace Runbook
namespace Pom

open Markup

/-- One level of indentation and the line ending of a document. -/
structure Layout where
  unit : List Char
  newline : List Char
  deriving DecidableEq, Repr

namespace Layout

/-- The unit of indentation of a document that shows none. -/
def defaultUnit : List Char :=
  [' ', ' ', ' ', ' ']

/-- The indentation of the first of several elements, when it begins its line. -/
def firstIndent?
    (doc : List Char)
    (elements : List Element) :
    Option (List Char) :=
  elements.head?.bind fun e => Text.lineIndent doc e.outer.start

/-- The layout of a document. The unit is what the first child of the root is indented beyond the
root itself. -/
def detect
    (doc : List Char)
    (project : Element) :
    Layout :=
  let base := (Text.lineIndent doc project.outer.start).getD []
  let beyond := (firstIndent? doc (project.children doc)).bind (Text.dropPrefix? base)
  { unit := (beyond.filter fun u => !u.isEmpty).getD defaultUnit
    newline := if Text.occursIn ['\r', '\n'] doc then ['\r', '\n'] else ['\n'] }

/-- The indentation of a new child: that of the first child there is, else one level more than the
parent's. -/
def childIndent
    (l : Layout)
    (doc : List Char)
    (parent : Element) :
    List Char :=
  (firstIndent? doc (parent.children doc)).getD
    ((Text.lineIndent doc parent.outer.start).getD [] ++ l.unit)

/-- The number of bytes of blanks that a line begins with. -/
def blankWidth (line : List Char) : Nat :=
  Text.byteSize (line.takeWhile Text.isBlank)

/-- How the lines of an entry after the first are indented: the least width, and the least width
beyond it, by which levels are counted. -/
structure Steps where
  base : Nat
  step : Nat

/-- The steps of the lines after the first, blank lines aside. -/
def stepsOf
    (lines : List (List Char)) :
    Steps :=
  let widths := ((lines.drop 1).filter fun l => !Text.allBlank l).map blankWidth
  let base := widths.min?.getD 0
  let beyond := (widths.map (· - base)).filter (0 < ·)
  ⟨base, beyond.min?.getD 1⟩

def Steps.level
    (s : Steps)
    (line : List Char) :
    Nat :=
  (blankWidth line - s.base) / s.step

def repeated
    (n : Nat)
    (s : List Char) :
    List Char :=
  (List.replicate n s).flatten

/-- An entry of one line whose children are all leaves, with one child to a line. -/
def expandLine?
    (l : Layout)
    (entry indent : List Char) :
    Option (List Char) :=
  match root? entry with
  | none => none
  | some root =>
      let children := root.children entry
      if children.isEmpty || !children.all fun c => (c.children entry).isEmpty then
        none
      else
        let piece (start stop : Nat) := Text.slice? entry ⟨start, stop⟩
        match piece root.outer.start root.inner.start, piece root.inner.stop root.outer.stop,
            children.mapM fun c => Text.slice? entry c.outer with
        | some opening, some closing, some bodies =>
            some <|
              Text.joinWith l.newline <|
                [indent ++ opening] ++ bodies.map (fun b => indent ++ l.unit ++ b) ++
                  [indent ++ closing]
        | _, _, _ => none

/-- The lines of an entry brought to an indentation, with their levels kept and blank lines
dropped. -/
def reindent
    (l : Layout)
    (lines : List (List Char))
    (indent : List Char) :
    List Char :=
  let steps := stepsOf lines
  let place (level : Nat) (line : List Char) : Option (List Char) :=
    if Text.allBlank line then none
    else some (indent ++ repeated level l.unit ++ Text.trim line)
  let placed := match lines with
    | [] => []
    | first :: rest =>
        (place 0 first).toList ++ rest.filterMap fun line => place (steps.level line) line
  Text.joinWith l.newline placed

/-- An entry brought to an indentation; one line of leaves is spread over lines. -/
def renderEntry
    (l : Layout)
    (entry indent : List Char) :
    List Char :=
  let lines := Text.lines entry
  let expanded := if lines.length = 1 then l.expandLine? entry indent else none
  expanded.getD (l.reindent lines indent)

/-- An entry inside sections that do not exist yet. -/
def renderChain
    (l : Layout)
    (entry : List Char) :
    List String → List Char → List Char
  | [], indent => l.renderEntry entry indent
  | name :: rest, indent =>
      indent ++ '<' :: name.toList ++ ['>'] ++ l.newline ++
        l.renderChain entry rest (indent ++ l.unit) ++ l.newline ++
        indent ++ '<' :: '/' :: name.toList ++ ['>']

end Layout

/-! ## Planning and making edits -/

/-- The order of the elements below `project`. -/
def projectOrder : List String :=
  [ "modelVersion", "parent", "groupId", "artifactId", "version", "packaging", "name",
    "description", "url", "inceptionYear", "organization", "licenses", "developers",
    "contributors", "mailingLists", "prerequisites", "modules", "scm", "issueManagement",
    "ciManagement", "distributionManagement", "properties", "dependencyManagement",
    "dependencies", "repositories", "pluginRepositories", "build", "reporting", "profiles" ]

/-- The order of the elements below `build`. -/
def buildOrder : List String :=
  [ "defaultGoal", "directory", "finalName", "sourceDirectory", "scriptSourceDirectory",
    "testSourceDirectory", "outputDirectory", "testOutputDirectory", "extensions", "resources",
    "testResources", "filters", "pluginManagement", "plugins" ]

/-- The order of the children of an element, where it has one. -/
def childOrder : String → List String
  | "project" => projectOrder
  | "build" => buildOrder
  | _ => []

/-- The elements that lead from `project` to the section of a kind. -/
def EntryKind.sectionPath : EntryKind → List String
  | .dependency => ["dependencies"]
  | .managed => ["dependencyManagement", "dependencies"]
  | .repository => ["repositories"]
  | .plugin => ["build", "plugins"]

/-- A range of a document with the text that takes its place. -/
structure Edit where
  span : Text.Span
  text : List Char
  deriving DecidableEq, Repr

/-- The document after an edit. -/
def Edit.apply
    (e : Edit)
    (doc : List Char) :
    List Char :=
  Text.splice doc e.span e.text

def Edit.insertion
    (position : Nat)
    (text : List Char) :
    Edit :=
  ⟨⟨position, position⟩, text⟩

/-- An element opened around a block that stands on lines of its own. -/
def enclosed
    (l : Layout)
    (name : String)
    (block indent : List Char) :
    List Char :=
  '<' :: name.toList ++ ['>'] ++ l.newline ++ block ++ l.newline ++ indent ++
    '<' :: '/' :: name.toList ++ ['>']

/-- Where a new section goes among the children of an element: after the last one that comes before
it in the order of its siblings, in front if there is none, and at the end if it has no place in that
order. -/
def sectionPosition
    (parent : Element)
    (children : List Element)
    (name : String) :
    Nat :=
  let order := childOrder parent.name
  let rank (n : String) : Option Nat := order.findIdx? (· = n)
  let precedes (c : Element) : Bool :=
    match rank c.name, rank name with
    | some r, some t => r < t
    | _, _ => false
  match (children.filter precedes).getLast?, rank name with
  | some anchor, _ => anchor.outer.stop
  | none, some _ => parent.inner.start
  | none, none =>
      match children.getLast? with
      | some c => c.outer.stop
      | none => parent.inner.start

/-- The edit that creates a section with its block below an element. -/
def sectionEdit
    (l : Layout)
    (doc : List Char)
    (parent : Element)
    (name : String)
    (block : List Char) :
    Edit :=
  let indent := (Text.lineIndent doc parent.outer.start).getD []
  if parent.selfClosing then
    ⟨parent.outer, enclosed l parent.name block indent⟩
  else
    let children := parent.children doc
    if children.isEmpty then
      ⟨parent.inner, l.newline ++ block ++ l.newline ++ indent⟩
    else
      Edit.insertion (sectionPosition parent children name) (l.newline ++ block)

/-- The edit that makes an entry the last child of a section. -/
def entryEdit
    (l : Layout)
    (doc : List Char)
    (parent : Element)
    (entry : List Char) :
    Edit :=
  let indent := (Text.lineIndent doc parent.outer.start).getD []
  if parent.selfClosing then
    ⟨parent.outer, enclosed l parent.name entry indent⟩
  else if (Text.lineIndent doc parent.inner.stop).isSome then
    Edit.insertion (Text.lineStart doc parent.inner.stop) (entry ++ l.newline)
  else
    Edit.insertion parent.inner.stop (l.newline ++ entry ++ l.newline ++ indent)

/-- The deepest element that exists on a path of sections, and the names still missing. -/
def descend
    (doc : List Char)
    (parent : Element) :
    List String → Element × List String
  | [] => (parent, [])
  | name :: rest =>
      match parent.child? doc name with
      | some child => descend doc child rest
      | none => (parent, name :: rest)

def sectionHas
    (doc : List Char)
    (parent : Element)
    (entry : Entry) :
    Bool :=
  (parent.childrenNamed doc entry.kind.element).any fun e =>
    (Entry.ofElement entry.kind doc e).key = entry.key

def editFor
    (l : Layout)
    (doc : List Char)
    (project : Element)
    (entry : Entry) :
    Option Edit :=
  match descend doc project entry.kind.sectionPath with
  | (parent, name :: rest) =>
      let block := l.renderChain entry.xml.toList (name :: rest) (l.childIndent doc parent)
      some (sectionEdit l doc parent name block)
  | (parent, []) =>
      if sectionHas doc parent entry then
        none
      else
        some <|
          entryEdit l doc parent (l.renderEntry entry.xml.toList (l.childIndent doc parent))

/-- The document with an entry merged into it; `none` when it has no project any more. -/
def mergeOne
    (l : Layout)
    (doc : List Char)
    (entry : Entry) :
    Option (List Char) :=
  (project? doc).map fun project =>
    match editFor l doc project entry with
    | some e => e.apply doc
    | none => doc

/-- The document with entries merged into it one after another. -/
def mergeAll
    (l : Layout) :
    List Char → List Entry → Option (List Char)
  | doc, [] => some doc
  | doc, e :: rest => (mergeOne l doc e).bind fun next => mergeAll l next rest

/-- The document with entries merged into it; `none` when its root is not `project`. The layout is
read once, from the document as given. -/
def merge
    (doc : List Char)
    (entries : List Entry) :
    Option (List Char) :=
  (project? doc).bind fun project => mergeAll (Layout.detect doc project) doc entries

end Pom
end Runbook
