import Runbook.Pom.Merge
import Runbook.Proofs.Markup.Reading

/-!
# What a project document says

The entries of a section and the model of a project, said of the tree of a document. Reading them
from the written document gives the same: the entries that stand in a section are those of its
elements, and the model is put together from fields and entries.

A row of nodes grows by an element at the end of the row that a path of names leads to, with the
elements that are missing on the path created around it. Everything that does not lie on the path
stays: a project that grows in the section of one kind has one entry more there, and is the same in
the sections of the other kinds and in every other field.

Main statements: `parse?_write`, `sectionHas_eq`, `sectionEntries_grown` and `modelOf_grown`.
-/

namespace Runbook
namespace Pom

open Text Markup

/-- A document whose root element is a project. -/
structure ProjectDocument extends Document where
  named : root.name? = some "project"

namespace ProjectDocument

/-- The row of nodes inside the project. -/
def content (d : ProjectDocument) : List Node :=
  d.root.content

end ProjectDocument

/-! ## Entries -/

/-- The entry that an element is. -/
def entryOf
    (kind : EntryKind)
    (n : Node) :
    Entry :=
  { kind := kind
    groupId := field? n.content "groupId"
    artifactId := field? n.content "artifactId"
    version := field? n.content "version"
    scope := field? n.content "scope"
    packaging := field? n.content "type"
    classifier := field? n.content "classifier"
    id := field? n.content "id"
    url := field? n.content "url"
    xml := String.ofList n.write }

/-- The row inside the element that a path leads to; empty where it leads nowhere. -/
def rowAt : List String → List Node → List Node
  | [], row => row
  | name :: rest, row =>
      match child? row name with
      | some n => rowAt rest n.content
      | none => []

/-- The entries of a kind that stand in their section, in order. -/
def sectionEntries
    (kind : EntryKind)
    (row : List Node) :
    List Entry :=
  (childrenNamed (rowAt kind.sectionPath row) kind.element).map (entryOf kind)

namespace Entry

/-- The artifact that an entry declares, if it has a name. -/
def artifact? (e : Entry) : Option Artifact :=
  e.artifactId.map fun artifactId =>
    { groupId := e.groupId
      artifactId := artifactId
      version := e.version
      scope := e.scope
      packaging := e.packaging
      classifier := e.classifier }

/-- The artifact of an entry that has the name of one. -/
def artifact (e : Entry) : Artifact where
  groupId := e.groupId
  artifactId := e.artifactId.getD ""
  version := e.version
  scope := e.scope
  packaging := e.packaging
  classifier := e.classifier

/-- A complete entry declares an artifact, unless it is a repository. -/
theorem artifact?_of_complete
    {e : Entry}
    (h : e.missing? = none)
    (hkind : e.kind ≠ .repository) :
    e.artifact? = some e.artifact := by
  cases hid : e.artifactId with
  | some a => simp [artifact?, artifact, hid]
  | none =>
      cases hk : e.kind with
      | repository => exact absurd hk hkind
      | dependency =>
          by_cases hg : e.groupId.isNone <;> simp [missing?, hk, hg, hid] at h
      | managed =>
          by_cases hg : e.groupId.isNone <;> simp [missing?, hk, hg, hid] at h
      | plugin => simp [missing?, hk, hid] at h

/-- The repository that an entry declares. -/
def repository (e : Entry) : Repository :=
  ⟨e.id, e.url⟩

end Entry

/-- The model of a project with a row of nodes in it. -/
def modelOf (row : List Node) : Model :=
  let inherited (field : String) :=
    (field? row field).or ((child? row "parent").bind fun p => field? p.content field)
  { groupId := inherited "groupId"
    artifactId := field? row "artifactId"
    version := inherited "version"
    packaging := (field? row "packaging").getD "jar"
    name := field? row "name"
    description := field? row "description"
    properties :=
      match child? row "properties" with
      | none => []
      | some n => Dict.ofList ((elements n.content).map fun p => (p.name?.getD "", p.text))
    dependencies := (sectionEntries .dependency row).filterMap Entry.artifact?
    dependencyManagement := (sectionEntries .managed row).filterMap Entry.artifact?
    repositories := (sectionEntries .repository row).map Entry.repository
    plugins := (sectionEntries .plugin row).filterMap Entry.artifact? }

/-! ## Reading them from the document -/

section Reading

variable {doc : List Char}
variable {e : Element}
variable {n : Node}

theorem ofElement_eq
    (h : Represents doc e n)
    (kind : EntryKind) :
    Entry.ofElement kind doc e = entryOf kind n := by
  simp [Entry.ofElement, entryOf, h.childText?_eq, slice, h.slice?_outer]

theorem artifact?_ofElement
    (h : Represents doc e n)
    (kind : EntryKind) :
    Artifact.ofElement? doc e = (entryOf kind n).artifact? := by
  simp [Artifact.ofElement?, Entry.artifact?, entryOf, h.childText?_eq]

/-- A child is read as a child, or is missing in both. -/
theorem child?_cases
    (h : Represents doc e n)
    (name : String) :
    (e.child? doc name = none ∧ child? n.content name = none) ∨
      ∃ c m, e.child? doc name = some c ∧ child? n.content name = some m ∧
        Represents doc c m := by
  have hrel := h.child? name
  generalize e.child? doc name = o at hrel ⊢
  generalize child? n.content name = o' at hrel ⊢
  cases hrel with
  | none => exact Or.inl ⟨rfl, rfl⟩
  | some hcm => exact Or.inr ⟨_, _, rfl, rfl, hcm⟩

/-- The artifacts of the entries below an element. -/
theorem filterMap_artifacts
    (h : Represents doc e n)
    (name : String)
    (kind : EntryKind) :
    (e.childrenNamed doc name).filterMap (Artifact.ofElement? doc) =
      ((childrenNamed n.content name).map (entryOf kind)).filterMap Entry.artifact? := by
  have hmap :=
    map_represents (fun c m hcm => artifact?_ofElement hcm kind) (h.childrenNamed name)
  have hsplit : ∀ {α β : Type} (f : α → Option β) (xs : List α),
      xs.filterMap f = (xs.map f).filterMap id := by
    intro α β f xs
    rw [List.filterMap_map]
    rfl
  rw [hsplit (Artifact.ofElement? doc), hmap, List.filterMap_map, List.filterMap_map]
  rfl

theorem artifactsIn_eq
    (h : Represents doc e n)
    (kind : EntryKind)
    (sectionName entry : String) :
    artifactsIn doc e sectionName entry =
      ((childrenNamed (rowAt [sectionName] n.content) entry).map (entryOf kind)).filterMap
        Entry.artifact? := by
  rcases child?_cases h sectionName with ⟨hc, hm⟩ | ⟨c, m, hc, hm, hcm⟩
  · simp [artifactsIn, hc, rowAt, hm, childrenNamed]
  · simp only [artifactsIn, hc, rowAt, hm]
    exact filterMap_artifacts hcm entry kind

/-- A nested section is looked up one step at a time. -/
theorem artifactsBelow_eq
    (h : Represents doc e n)
    (kind : EntryKind)
    (outer inner entry : String) :
    (match e.child? doc outer with
      | none => []
      | some c => artifactsIn doc c inner entry) =
      ((childrenNamed (rowAt [outer, inner] n.content) entry).map (entryOf kind)).filterMap
        Entry.artifact? := by
  rcases child?_cases h outer with ⟨hc, hm⟩ | ⟨c, m, hc, hm, hcm⟩
  · simp [hc, rowAt, hm, childrenNamed]
  · simp only [hc]
    rw [artifactsIn_eq hcm kind]
    simp [rowAt, hm]

theorem repositories_eq
    (h : Represents doc e n) :
    (match e.child? doc "repositories" with
      | none => []
      | some c => (c.childrenNamed doc "repository").map fun r =>
          (⟨r.childText? doc "id", r.childText? doc "url"⟩ : Repository)) =
      (sectionEntries .repository n.content).map Entry.repository := by
  rcases child?_cases h "repositories" with ⟨hc, hm⟩ | ⟨c, m, hc, hm, hcm⟩
  · simp [hc, sectionEntries, EntryKind.sectionPath, rowAt, hm, childrenNamed]
  · simp only [hc, sectionEntries, EntryKind.sectionPath, EntryKind.element, rowAt, hm,
      List.map_map]
    refine map_represents (fun r k hr => ?_) (hcm.childrenNamed "repository")
    simp [Entry.repository, entryOf, hr.childText?_eq]

theorem properties_eq
    (h : Represents doc e n) :
    (match e.child? doc "properties" with
      | none => ([] : Dict String)
      | some c => Dict.ofList ((c.children doc).map fun p : Element => (p.name, p.text doc))) =
      match child? n.content "properties" with
      | none => []
      | some m =>
          Dict.ofList
            ((elements m.content).map fun p : Node => (p.name?.getD "", p.text)) := by
  rcases child?_cases h "properties" with ⟨hc, hm⟩ | ⟨c, m, hc, hm, hcm⟩
  · simp [hc, hm]
  · simp only [hc, hm]
    congr 1
    refine map_represents (fun p k hp => ?_) hcm.children
    simp [hp.name?_eq, hp.text_eq]

theorem inherited_eq
    (h : Represents doc e n)
    (field : String) :
    (e.childText? doc field).or
        ((e.child? doc "parent").bind fun p => p.childText? doc field) =
      (field? n.content field).or
        ((child? n.content "parent").bind fun p => field? p.content field) := by
  rw [h.childText?_eq]
  rcases child?_cases h "parent" with ⟨hc, hm⟩ | ⟨c, m, hc, hm, hcm⟩
  · simp [hc, hm]
  · simp [hc, hm, hcm.childText?_eq]

/-- The model read below a project element is that of its node. -/
theorem ofProject_eq
    (h : Represents doc e n) :
    Model.ofProject doc e = modelOf n.content := by
  simp only [Model.ofProject, modelOf, Model.mk.injEq]
  refine ⟨inherited_eq h _, h.childText?_eq _, inherited_eq h _, ?_, h.childText?_eq _,
    h.childText?_eq _, properties_eq h, artifactsIn_eq h .dependency _ _,
    artifactsBelow_eq h .managed _ _ _, repositories_eq h, artifactsBelow_eq h .plugin _ _ _⟩
  rw [h.childText?_eq]

/-- Whether a section has the key of an entry is decided by the entries of its elements. -/
theorem sectionHas_eq
    (h : Represents doc e n)
    (entry : Entry) :
    sectionHas doc e entry =
      ((childrenNamed n.content entry.kind.element).map (entryOf entry.kind)).any
        fun x => x.key = entry.key := by
  have hmap :=
    map_represents
      (fun c m hcm => congrArg (fun x : Entry => decide (x.key = entry.key))
        (ofElement_eq hcm entry.kind))
      (h.childrenNamed entry.kind.element)
  have hany := congrArg (fun bs => bs.any id) hmap
  simpa [sectionHas, List.any_map, Function.comp_def] using hany

end Reading

namespace ProjectDocument

variable (d : ProjectDocument)

/-- The project of a written document is found. -/
theorem project?_write :
    ∃ e, project? d.write = some e ∧ Represents d.write e d.root ∧
      d.root.element? (byteSize (writeRow d.before)) = some e := by
  obtain ⟨e, he⟩ := Node.exists_element d.root_element (byteSize (writeRow d.before))
  have hrep : Represents d.write e d.root :=
    ⟨_, ⟨writeRow d.before, writeRow d.after, by simp [Document.write], rfl⟩, he⟩
  have hname : e.name = "project" := by
    have h := hrep.name?_eq
    rw [d.named] at h
    exact (Option.some.inj h).symm
  refine ⟨e, ?_, hrep, he⟩
  simp [project?, root?_write, he, hname]

/-- The model of a written document. -/
theorem parse?_write :
    Model.parse? d.write = some (modelOf d.content) := by
  obtain ⟨e, he, hrep, -⟩ := d.project?_write
  simp [Model.parse?, he, ofProject_eq hrep, content]

end ProjectDocument

/-! ## Growth -/

/-- A row grows by an element at the end of a path: the path ends here, goes on below an element
that is there, or goes on below one that is created. -/
inductive Grown (x : Node) : List String → List Node → List Node → Prop
  | last {row row' : List Node}
      (grown : elements row' = elements row ++ [x]) :
      Grown x [] row row'
  | within {name : String} {rest : List String} {row row' before after : List Node} {n n' : Node}
      (was : elements row = before ++ n :: after)
      (first : ∀ m ∈ before, m.isNamed name = false)
      (named : n.isNamed name = true)
      (kept : n'.isNamed name = true)
      (below : Grown x rest n.content n'.content)
      (grown : elements row' = before ++ n' :: after) :
      Grown x (name :: rest) row row'
  | created {name : String} {rest : List String} {row row' before after : List Node} {n : Node}
      (was : elements row = before ++ after)
      (missing : ∀ m ∈ elements row, m.isNamed name = false)
      (named : n.isNamed name = true)
      (below : Grown x rest [] n.content)
      (grown : elements row' = before ++ n :: after) :
      Grown x (name :: rest) row row'

/-! ## The element of a path -/

/-- The first element of a name, where it stands. -/
theorem child?_eq_some
    {row before after : List Node}
    {name : String}
    {n : Node}
    (hrow : elements row = before ++ n :: after)
    (hfirst : ∀ m ∈ before, m.isNamed name = false)
    (hn : n.isNamed name = true) :
    child? row name = some n := by
  have hnone : before.find? (Node.isNamed name) = none := by
    rw [List.find?_eq_none]
    intro m hm
    simp [hfirst m hm]
  simp [child?, hrow, List.find?_append, hnone, hn]

theorem child?_eq_none
    {row : List Node}
    {name : String}
    (h : ∀ m ∈ elements row, m.isNamed name = false) :
    child? row name = none := by
  rw [child?, List.find?_eq_none]
  intro m hm
  simp [h m hm]

/-- An element of one name has no other. -/
theorem isNamed_eq_false
    {n : Node}
    {name other : String}
    (hn : n.isNamed name = true)
    (hne : other ≠ name) :
    n.isNamed other = false := by
  simp only [Node.isNamed, decide_eq_true_eq] at hn
  simp only [Node.isNamed, hn, Option.some.injEq, decide_eq_false_iff_not]
  exact fun h => hne h.symm

namespace Grown

variable {x : Node}
variable {name : String}
variable {path rest : List String}
variable {row row' : List Node}

/-- The row at the end of the path has one element more. -/
theorem elements_rowAt
    (h : Grown x path row row') :
    elements (rowAt path row') = elements (rowAt path row) ++ [x] := by
  induction h with
  | last grown => exact grown
  | within was first named kept below grown ih =>
      rw [rowAt, rowAt, child?_eq_some was first named, child?_eq_some grown first kept]
      exact ih
  | created was missing named below grown ih =>
      have hfirst := fun m hm => missing m (was ▸ List.mem_append_left _ hm)
      rw [rowAt, rowAt, child?_eq_none missing, child?_eq_some grown hfirst named]
      rename_i rest _ _ _ _ _
      have hnone : ∀ p : List String, elements (rowAt p []) = [] := by
        intro p
        cases p with
        | nil => rfl
        | cons q p => rfl
      rw [hnone] at ih
      exact ih

/-- Off the path a row stays. -/
theorem child?_of_ne
    (h : Grown x (name :: rest) row row')
    {other : String}
    (hne : other ≠ name) :
    child? row' other = child? row other := by
  cases h with
  | within was first named kept below grown =>
      have h₁ := isNamed_eq_false named hne
      have h₂ := isNamed_eq_false kept hne
      simp [child?, was, grown, List.find?_append, h₁, h₂]
  | created was missing named below grown =>
      have h₁ := isNamed_eq_false named hne
      simp [child?, was, grown, List.find?_append, h₁]

end Grown

/-! ## Sections -/

section Sections

variable {x : Node}
variable {kind : EntryKind}
variable {row row' : List Node}

/-- The section of a kind has one entry more. -/
theorem sectionEntries_grown
    (h : Grown x kind.sectionPath row row')
    (hx : x.isNamed kind.element = true) :
    sectionEntries kind row' = sectionEntries kind row ++ [entryOf kind x] := by
  simp [sectionEntries, childrenNamed, h.elements_rowAt, hx]

/-- What lies at the ends of the other paths stays: no two kinds have paths that begin alike. -/
theorem rowAt_of_ne
    (h : Grown x kind.sectionPath row row')
    {other : EntryKind}
    (hne : other ≠ kind) :
    rowAt other.sectionPath row' = rowAt other.sectionPath row := by
  cases kind <;> cases other <;>
    first
      | exact absurd rfl hne
      | simp only [EntryKind.sectionPath, rowAt] at h ⊢
        rw [h.child?_of_ne (by decide)]

/-- The sections of the other kinds stay. -/
theorem sectionEntries_of_ne
    (h : Grown x kind.sectionPath row row')
    {other : EntryKind}
    (hne : other ≠ kind) :
    sectionEntries other row' = sectionEntries other row := by
  rw [sectionEntries, rowAt_of_ne h hne, sectionEntries]

end Sections

/-! ## The model -/

/-- The model with one entry more in the list of its kind. -/
def Model.add
    (m : Model)
    (e : Entry) :
    Model :=
  match e.kind with
  | .dependency => { m with dependencies := m.dependencies ++ [e.artifact] }
  | .managed => { m with dependencyManagement := m.dependencyManagement ++ [e.artifact] }
  | .repository => { m with repositories := m.repositories ++ [e.repository] }
  | .plugin => { m with plugins := m.plugins ++ [e.artifact] }

/-- What a project says beside its sections is the same after it has grown in one. -/
theorem modelOf_congr
    {row row' : List Node}
    (hfield : ∀ name, name ∉ ["dependencies", "dependencyManagement", "repositories", "build"] →
      child? row' name = child? row name) :
    modelOf row' =
      { modelOf row with
        dependencies := (sectionEntries .dependency row').filterMap Entry.artifact?
        dependencyManagement := (sectionEntries .managed row').filterMap Entry.artifact?
        repositories := (sectionEntries .repository row').map Entry.repository
        plugins := (sectionEntries .plugin row').filterMap Entry.artifact? } := by
  simp only [modelOf, field?, Model.mk.injEq]
  rw [hfield "groupId" (by decide), hfield "artifactId" (by decide),
    hfield "version" (by decide), hfield "packaging" (by decide), hfield "name" (by decide),
    hfield "description" (by decide), hfield "properties" (by decide),
    hfield "parent" (by decide)]
  simp

/-- A project that has grown by a complete entry says what it said, and that entry. -/
theorem modelOf_grown
    {x : Node}
    {kind : EntryKind}
    {row row' : List Node}
    (h : Grown x kind.sectionPath row row')
    (hx : x.isNamed kind.element = true)
    (hcomplete : (entryOf kind x).missing? = none) :
    modelOf row' = (modelOf row).add (entryOf kind x) := by
  have hsame := sectionEntries_grown h hx
  have hother : ∀ other, other ≠ kind → sectionEntries other row' = sectionEntries other row :=
    fun _ hne => sectionEntries_of_ne h hne
  have hhead : ∃ name rest, kind.sectionPath = name :: rest ∧
      name ∈ ["dependencies", "dependencyManagement", "repositories", "build"] := by
    cases kind <;> exact ⟨_, _, rfl, by decide⟩
  obtain ⟨name, rest, hpath, hname⟩ := hhead
  have hfield : ∀ other, other ∉ ["dependencies", "dependencyManagement", "repositories", "build"] →
      child? row' other = child? row other := by
    intro other hout
    rw [hpath] at h
    refine h.child?_of_ne fun heq => hout ?_
    rw [heq]
    exact hname
  have hone : kind ≠ .repository →
      [entryOf kind x].filterMap Entry.artifact? = [(entryOf kind x).artifact] := by
    intro hkind
    rw [List.filterMap_cons_some (Entry.artifact?_of_complete hcomplete hkind), List.filterMap_nil]
  rw [modelOf_congr hfield]
  cases kind with
  | dependency =>
      rw [hsame, hother .managed (by decide), hother .repository (by decide),
        hother .plugin (by decide), List.filterMap_append, hone (by decide)]
      rfl
  | managed =>
      rw [hsame, hother .dependency (by decide), hother .repository (by decide),
        hother .plugin (by decide), List.filterMap_append, hone (by decide)]
      rfl
  | repository =>
      rw [hsame, hother .dependency (by decide), hother .managed (by decide),
        hother .plugin (by decide), List.map_append]
      rfl
  | plugin =>
      rw [hsame, hother .dependency (by decide), hother .managed (by decide),
        hother .repository (by decide), List.filterMap_append, hone (by decide)]
      rfl

end Pom
end Runbook
