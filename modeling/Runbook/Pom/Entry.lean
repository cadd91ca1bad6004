import Runbook.Pom.Model

/-!
# Entries of a descriptor

An entry is a dependency, a managed dependency, a repository or a plugin that is to stand in a
descriptor. Entries are read from text: as elements, or for dependencies as coordinates
`groupId:artifactId[:version[:scope]]`, one to a line. Two entries are the same when their keys are.
-/

namespace Runbook
namespace Pom

open Markup

/-- What an entry is, which decides the section it belongs to. -/
inductive EntryKind where
  | dependency
  | managed
  | repository
  | plugin
  deriving DecidableEq, Repr, Inhabited

/-- The name of the element that holds an entry. -/
def EntryKind.element : EntryKind → String
  | .dependency => "dependency"
  | .managed => "dependency"
  | .repository => "repository"
  | .plugin => "plugin"

/-- What an entry is called in messages. -/
def EntryKind.label : EntryKind → String
  | .dependency => "dependency"
  | .managed => "managed dependency"
  | .repository => "repository"
  | .plugin => "plugin"

/-- Whether entries of a kind may be written as coordinates. -/
def EntryKind.hasCoordinates : EntryKind → Bool
  | .dependency => true
  | .managed => true
  | _ => false

/-- Why a text holds no entries of a kind. -/
inductive EntryError where
  | noEntries (element : String)
  | missingField (element field : String)
  | badCoordinate (line : String)
  deriving DecidableEq, Repr

def EntryError.message : EntryError → String
  | .noEntries element => "No <" ++ element ++ "> element found in the injected text."
  | .missingField element field =>
      "A <" ++ element ++ "> entry is missing its <" ++ field ++ ">."
  | .badCoordinate line =>
      "'" ++ line ++ "' is not a 'groupId:artifactId[:version[:scope]]' coordinate."

/-- An entry with its fields and the text of its element. -/
structure Entry where
  kind : EntryKind
  groupId : Option String
  artifactId : Option String
  version : Option String
  scope : Option String
  packaging : Option String
  classifier : Option String
  id : Option String
  url : Option String
  xml : String
  deriving DecidableEq, Repr

namespace Entry

/-- The entry that an element of a document is, complete or not. -/
def ofElement
    (kind : EntryKind)
    (doc : List Char)
    (e : Element) :
    Entry :=
  let field (name : String) := e.childText? doc name
  { kind := kind
    groupId := field "groupId"
    artifactId := field "artifactId"
    version := field "version"
    scope := field "scope"
    packaging := field "type"
    classifier := field "classifier"
    id := field "id"
    url := field "url"
    xml := String.ofList (Text.slice doc e.outer) }

/-- The field that an entry needs and lacks. -/
def missing?
    (e : Entry) :
    Option String :=
  match e.kind with
  | .dependency | .managed =>
      if e.groupId.isNone then some "groupId"
      else if e.artifactId.isNone then some "artifactId"
      else none
  | .plugin => if e.artifactId.isNone then some "artifactId" else none
  | .repository => if e.id.isNone && e.url.isNone then some "id" else none

def ofElement?
    (kind : EntryKind)
    (doc : List Char)
    (e : Element) :
    Except EntryError Entry :=
  let entry := ofElement kind doc e
  match entry.missing? with
  | some field => .error (.missingField kind.element field)
  | none => .ok entry

/-- The element that coordinates stand for, one field to a line. -/
def coordinateXml
    (group artifact : String)
    (version scope : Option String) :
    String :=
  let line (tag : String) : Option String → String
    | none => ""
    | some v => "\n    <" ++ tag ++ ">" ++ v ++ "</" ++ tag ++ ">"
  "<dependency>" ++ line "groupId" (some group) ++ line "artifactId" (some artifact) ++
    line "version" version ++ line "scope" scope ++ "\n</dependency>"

/-- The entry of coordinates whose parts are given; an empty version or scope is none. -/
def ofParts
    (kind : EntryKind)
    (group artifact : String)
    (version scope : Option String) :
    Entry :=
  let version := version.filter (· ≠ "")
  let scope := scope.filter (· ≠ "")
  { kind := kind
    groupId := some group
    artifactId := some artifact
    version := version
    scope := scope
    packaging := none
    classifier := none
    id := none
    url := none
    xml := coordinateXml group artifact version scope }

def ofCoordinate?
    (kind : EntryKind)
    (line : List Char) :
    Except EntryError Entry :=
  let bad : Except EntryError Entry := .error (.badCoordinate (String.ofList line))
  let made (group artifact : String) (version scope : Option String) :=
    if group = "" || artifact = "" then bad
    else .ok (ofParts kind group artifact version scope)
  match (Text.splitOn ':' line).map fun part => String.ofList (Text.trim part) with
  | [g, a] => made g a none none
  | [g, a, v] => made g a (some v) none
  | [g, a, v, s] => made g a (some v) (some s)
  | _ => bad

def parseAll
    (kind : EntryKind)
    (text : List Char) :
    Except EntryError (List Entry) :=
  let body := Text.trim text
  if kind.hasCoordinates && body.head? ≠ some '<' then
    (((Text.lines body).map Text.trim).filter fun l => !l.isEmpty).mapM (ofCoordinate? kind)
  else
    let elements := (elementsIn body ⟨0, Text.byteSize body⟩).filter fun e =>
      e.name = kind.element
    match elements.mapM (ofElement? kind body) with
    | .error e => .error e
    | .ok [] => .error (.noEntries kind.element)
    | .ok entries => .ok entries

/-- The group of a plugin that names none. -/
def defaultPluginGroup : String :=
  "org.apache.maven.plugins"

/-- A packaging that differs from the default one. -/
def unusualPackaging? : Option String → Option String
  | some "jar" => none
  | p => p

/-- What tells an entry from the others of its kind. Version and scope take no part. -/
def key
    (e : Entry) :
    String :=
  match e.kind with
  | .repository => (e.id.or e.url).getD ""
  | .plugin => e.groupId.getD defaultPluginGroup ++ ":" ++ e.artifactId.getD ""
  | .dependency | .managed =>
      e.groupId.getD "" ++ ":" ++ e.artifactId.getD "" ++
        (match unusualPackaging? e.packaging with
          | some t => ":" ++ t
          | none => "") ++
        (match e.classifier with
          | some c => ":" ++ c
          | none => "")

/-- Whether an artifact has the coordinates of an entry, version and scope aside. -/
def matchesArtifact
    (e : Entry)
    (a : Artifact) :
    Bool :=
  a.groupId = e.groupId && some a.artifactId = e.artifactId &&
    unusualPackaging? a.packaging = unusualPackaging? e.packaging &&
    a.classifier = e.classifier

def isDeclaredIn
    (e : Entry)
    (m : Model) :
    Bool :=
  match e.kind with
  | .dependency => m.dependencies.any e.matchesArtifact
  | .managed => m.dependencyManagement.any e.matchesArtifact
  | .plugin =>
      m.plugins.any fun p =>
        p.groupId.getD defaultPluginGroup ++ ":" ++ p.artifactId = e.key
  | .repository =>
      m.repositories.any fun r =>
        match e.id with
        | some id => r.id = some id
        | none => r.url = e.url

end Entry
end Pom
end Runbook
