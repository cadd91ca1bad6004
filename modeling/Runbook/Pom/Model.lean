import Runbook.Json.Basic
import Runbook.Markup.Element

/-!
# The project model

What a build descriptor says about its project, as far as templates and conditions ask for it. A
descriptor is a document whose root element is `project`. The model has a JSON form, under which a
run keeps it in its context, and reading that form gives the model back.
-/

namespace Runbook
namespace Pom

/-- The coordinates of a dependency or a plugin. -/
structure Artifact where
  groupId : Option String
  artifactId : String
  version : Option String
  scope : Option String
  packaging : Option String
  classifier : Option String
  deriving DecidableEq, Repr, Inhabited

/-- A repository that a project names. -/
structure Repository where
  id : Option String
  url : Option String
  deriving DecidableEq, Repr, Inhabited

/-- What a descriptor says about its project. -/
structure Model where
  groupId : Option String
  artifactId : Option String
  version : Option String
  packaging : String
  name : Option String
  description : Option String
  properties : Dict String
  dependencies : List Artifact
  dependencyManagement : List Artifact
  repositories : List Repository
  plugins : List Artifact
  deriving DecidableEq, Repr

open Markup

/-- The artifact that an entry declares; an entry without an artifact name declares none. -/
def Artifact.ofElement?
    (doc : List Char)
    (e : Element) :
    Option Artifact :=
  (e.childText? doc "artifactId").map fun artifactId =>
    { groupId := e.childText? doc "groupId"
      artifactId := artifactId
      version := e.childText? doc "version"
      scope := e.childText? doc "scope"
      packaging := e.childText? doc "type"
      classifier := e.childText? doc "classifier" }

/-- The artifacts that the entries of a section below an element declare. -/
def artifactsIn
    (doc : List Char)
    (parent : Element)
    (sectionName entry : String) :
    List Artifact :=
  match parent.child? doc sectionName with
  | none => []
  | some s => (s.childrenNamed doc entry).filterMap (Artifact.ofElement? doc)

/-- The root element of a descriptor. -/
def project? (doc : List Char) : Option Element :=
  (root? doc).filter fun e => e.name = "project"

def Model.ofProject
    (doc : List Char)
    (project : Element) :
    Model :=
  let parent := project.child? doc "parent"
  let own (field : String) := project.childText? doc field
  let inherited (field : String) :=
    (own field).or (parent.bind fun p => p.childText? doc field)
  let artifactsBelow (outer inner entry : String) :=
    match project.child? doc outer with
    | none => []
    | some e => artifactsIn doc e inner entry
  { groupId := inherited "groupId"
    artifactId := own "artifactId"
    version := inherited "version"
    packaging := (own "packaging").getD "jar"
    name := own "name"
    description := own "description"
    properties :=
      match project.child? doc "properties" with
      | none => []
      | some e => Dict.ofList ((e.children doc).map fun p => (p.name, p.text doc))
    dependencies := artifactsIn doc project "dependencies" "dependency"
    dependencyManagement := artifactsBelow "dependencyManagement" "dependencies" "dependency"
    repositories :=
      match project.child? doc "repositories" with
      | none => []
      | some e =>
          (e.childrenNamed doc "repository").map fun r =>
            ⟨r.childText? doc "id", r.childText? doc "url"⟩
    plugins := artifactsBelow "build" "plugins" "plugin" }

/-- The model of a descriptor; `none` when its root element is not `project`. -/
def Model.parse?
    (doc : List Char) :
    Option Model :=
  (project? doc).map (Model.ofProject doc)

/-- Whether an artifact is declared as a direct dependency. -/
def Model.hasDependency
    (m : Model)
    (artifactId : String) :
    Bool :=
  m.dependencies.any fun d => d.artifactId = artifactId

/-- The Java release that a project targets, by the first of the usual properties that is set. -/
def Model.javaVersion?
    (m : Model) :
    Option String :=
  ["java.version", "maven.compiler.release", "maven.compiler.source"].findSome?
    (Dict.get? m.properties)

/-! ## The JSON form -/

/-- A field that is left out where it has no value. -/
def optionalField
    (key : String) :
    Option String → List (String × Json)
  | none => []
  | some s => [(key, .string s)]

/-- The JSON form of an artifact; absent fields are left out. -/
def Artifact.toJson
    (a : Artifact) :
    Json :=
  Json.ofFields <|
    optionalField "groupId" a.groupId ++ [("artifactId", .string a.artifactId)] ++
      optionalField "version" a.version ++ optionalField "scope" a.scope ++
      optionalField "type" a.packaging ++ optionalField "classifier" a.classifier

/-- The JSON form of a repository; absent fields are left out. -/
def Repository.toJson
    (r : Repository) :
    Json :=
  Json.ofFields (optionalField "id" r.id ++ optionalField "url" r.url)

/-- The JSON form of a model; absent fields are null. -/
def Model.toJson
    (m : Model) :
    Json :=
  Json.ofFields
    [ ("groupId", Json.ofString? m.groupId),
      ("artifactId", Json.ofString? m.artifactId),
      ("version", Json.ofString? m.version),
      ("packaging", .string m.packaging),
      ("name", Json.ofString? m.name),
      ("description", Json.ofString? m.description),
      ("properties", Json.ofFields (m.properties.map fun p => (p.1, .string p.2))),
      ("dependencies", .array (m.dependencies.map Artifact.toJson)),
      ("dependencyManagement", .array (m.dependencyManagement.map Artifact.toJson)),
      ("repositories", .array (m.repositories.map Repository.toJson)),
      ("plugins", .array (m.plugins.map Artifact.toJson)) ]

/-- A record in JSON: an object with fields by name, or an array with fields by position. -/
inductive RecordForm where
  | named (fields : List (String × Json))
  | positional (items : List Json)

/-- The record that a value is, of at most `size` fields. -/
def RecordForm.of?
    (size : Nat) :
    Json → Option RecordForm
  | .object fields => some (.named fields)
  | .array items => if items.length ≤ size then some (.positional items) else none
  | _ => none

/-- The value of a field by its name and position. -/
def RecordForm.get?
    (r : RecordForm)
    (key : String)
    (position : Nat) :
    Option Json :=
  match r with
  | .named fields => Dict.get? fields key
  | .positional items => items[position]?

/-- An optional text: null or nothing is none; any other value than a string is refused. -/
def readText? : Option Json → Option (Option String)
  | none => some none
  | some .null => some none
  | some (.string s) => some (some s)
  | some _ => none

/-- A text with a default for an absent field; null is refused. -/
def readTextOr?
    (default : String) :
    Option Json → Option String
  | none => some default
  | some (.string s) => some s
  | some _ => none

/-- A list of records with a default of none; null is refused. -/
def readList?
    {α : Type}
    (read? : Json → Option α) :
    Option Json → Option (List α)
  | none => some []
  | some (.array items) => items.mapM read?
  | some _ => none

/-- A map of texts with a default of none. -/
def readTexts? : Option Json → Option (Dict String)
  | none => some []
  | some (.object fields) =>
      fields.mapM fun p =>
        match p.2 with
        | .string s => some (p.1, s)
        | _ => none
  | some _ => none

/-- Reads an artifact; absent fields have no value, and an absent name is empty. -/
def Artifact.ofJson?
    (v : Json) :
    Option Artifact := do
  let r ← RecordForm.of? 6 v
  let groupId ← readText? (r.get? "groupId" 0)
  let artifactId ← readTextOr? "" (r.get? "artifactId" 1)
  let version ← readText? (r.get? "version" 2)
  let scope ← readText? (r.get? "scope" 3)
  let packaging ← readText? (r.get? "type" 4)
  let classifier ← readText? (r.get? "classifier" 5)
  return ⟨groupId, artifactId, version, scope, packaging, classifier⟩

def Repository.ofJson?
    (v : Json) :
    Option Repository := do
  let r ← RecordForm.of? 2 v
  let id ← readText? (r.get? "id" 0)
  let url ← readText? (r.get? "url" 1)
  return ⟨id, url⟩

/-- Reads a model; absent fields are empty, and unknown ones are passed over. -/
def Model.ofJson?
    (v : Json) :
    Option Model := do
  let r ← RecordForm.of? 11 v
  let groupId ← readText? (r.get? "groupId" 0)
  let artifactId ← readText? (r.get? "artifactId" 1)
  let version ← readText? (r.get? "version" 2)
  let packaging ← readTextOr? "" (r.get? "packaging" 3)
  let name ← readText? (r.get? "name" 4)
  let description ← readText? (r.get? "description" 5)
  let properties ← readTexts? (r.get? "properties" 6)
  let dependencies ← readList? Artifact.ofJson? (r.get? "dependencies" 7)
  let dependencyManagement ← readList? Artifact.ofJson? (r.get? "dependencyManagement" 8)
  let repositories ← readList? Repository.ofJson? (r.get? "repositories" 9)
  let plugins ← readList? Artifact.ofJson? (r.get? "plugins" 10)
  return {
    groupId := groupId
    artifactId := artifactId
    version := version
    packaging := packaging
    name := name
    description := description
    properties := properties
    dependencies := dependencies
    dependencyManagement := dependencyManagement
    repositories := repositories
    plugins := plugins }

end Pom
end Runbook
