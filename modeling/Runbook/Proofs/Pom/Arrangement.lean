import Runbook.Proofs.Pom.Acceptance

/-!
# Sections that are created keep the order

A merge gives a project and its `build` new sections, each at its place among the others. All other
steps leave the names of the siblings as they are. So the children of the two stay in order.

Main statements: `Sectioned.ordered`, `KeepsOrder.of_reached` and `exists_merge_inOrder`.
-/

namespace Runbook
namespace Pom

open Text Markup

/-- The children of a node stand in the order that it has for them. -/
def Ordered (n : Node) : Prop :=
  InOrder (childOrder (n.name?.getD "")) (names n.content)

section Steps

variable {l : Layout}
variable {hl : l.IsBlank}
variable {front back front' back' indent outer : List Char}
variable {hindent : allBlank indent = true}
variable {houter : allBlank outer = true}
variable {path missing : List String}
variable {n n' t t' x root root' : Node}

theorem ordered_of_elements_eq_singleton
    (h : elements n.content = [x]) :
    Ordered n := by
  refine inOrder_of_length_le_one ?_
  rw [← names_elements, h]
  exact List.length_filterMap_le _ _

/-! ## What one step does to siblings -/

/-- A section that is put among the children of an element has its place there. -/
theorem Sectioned.ordered
    (h : Sectioned l hl x hindent houter n n')
    (hx : x.isElement = true)
    (hn : Ordered n) :
    Ordered n' := by
  cases h with
  | opened name attributes =>
      exact ordered_of_elements_eq_singleton (elements_linedUp hl hindent houter hx)
  | alone childless =>
      exact ordered_of_elements_eq_singleton (elements_linedUp hl hindent houter hx)
  | @between name attributes closing before after section_ behind named placed =>
      have hname : x.name? = some section_ := by simpa [Node.isNamed] using named
      have hline : names (lineAfter l hl x hindent) = [section_] := by
        rw [← names_elements, elements_lineAfter hl hindent hx]
        simp [names, hname]
      have hwas : InOrder (childOrder (String.ofList name.chars)) (names before ++ names after) := by
        simpa [Ordered, Node.content, Node.name?] using hn
      have hnow := hwas.insert placed
      simpa [Ordered, Node.content, Node.name?, hline] using hnow

namespace Replaced

variable {name : String}
variable {rest : List String}

/-- A node on a path keeps the names of its children, unless it is the one at the end. -/
theorem ordered
    (h : Replaced missing t t' front' back' (name :: rest) n n' front back)
    (ht : t'.name? = t.name?)
    (hend : missing = name :: rest → Ordered t → Ordered t')
    (hn : Ordered n) :
    Ordered n' := by
  cases h with
  | here => exact hend rfl hn
  | @along _ _ nm _ _ before after m m' _ _ first named inside =>
      have hnames : names (before ++ m' :: after) = names (before ++ m :: after) := by
        simp only [names, List.filterMap_append, List.filterMap_cons, inside.name?_eq ht]
      simpa [Ordered, Node.content, Node.name?, hnames] using hn

/-- The first node on a path takes the place of the one that was there. -/
theorem exists_child
    (h : Replaced missing t t' front' back' (name :: rest) n n' front back)
    (ht : t'.name? = t.name?)
    (hmissing : missing = name :: rest → ∀ m ∈ elements t.content, m.isNamed name = false)
    {m : Node}
    (hm : child? n.content name = some m) :
    ∃ m' front₁ back₁, child? n'.content name = some m' ∧
      Replaced missing t t' front' back' rest m m' front₁ back₁ := by
  cases h with
  | here =>
      rw [child?_eq_none (hmissing rfl)] at hm
      cases hm
  | along first named inside =>
      rw [Node.content, child?_eq_some (elements_around named) first named] at hm
      cases hm
      have hkept := (inside.isNamed_eq ht _).trans named
      exact ⟨_, _, _, child?_eq_some (elements_around hkept) first hkept, inside⟩

end Replaced

/-- A step keeps the children in order of a node that its path leads through. -/
theorem Step.ordered
    {path : List String}
    (h : Step l hl x path front back root root')
    (hpath : path ≠ [])
    (hroot : Ordered root) :
    Ordered root' := by
  obtain ⟨name, rest, rfl⟩ := List.exists_cons_of_ne_nil hpath
  cases h with
  | entry reached put => exact reached.ordered put.name?_eq (fun h => by cases h) hroot
  | created reached put _ _ _ _ named =>
      have hs := Node.isElement_of_isNamed named
      exact reached.ordered put.name?_eq (fun _ => put.ordered hs) hroot

/-- The same below: the first section on a path that leads further keeps its children in order. -/
theorem Step.exists_child_ordered
    {name : String}
    {rest : List String}
    (h : Step l hl x (name :: rest) front back root root')
    (hrest : rest ≠ [])
    {m : Node}
    (hm : child? root.content name = some m) :
    ∃ m', child? root'.content name = some m' ∧ (Ordered m → Ordered m') := by
  obtain ⟨next, rest', rfl⟩ := List.exists_cons_of_ne_nil hrest
  cases h with
  | entry reached put =>
      obtain ⟨m', _, _, hm', hinside⟩ :=
        reached.exists_child put.name?_eq (fun h => by cases h) hm
      exact ⟨m', hm', hinside.ordered put.name?_eq fun h => by cases h⟩
  | created reached put _ _ missing _ named =>
      have hs := Node.isElement_of_isNamed named
      obtain ⟨m', _, _, hm', hinside⟩ :=
        reached.exists_child put.name?_eq (fun h => by cases h; exact missing) hm
      exact ⟨m', hm', hinside.ordered put.name?_eq fun _ => put.ordered hs⟩

end Steps

/-! ## What a merge does to siblings -/

/-- A project keeps its children in order, and so does its `build`, which stays there. -/
def KeepsOrder (d d' : ProjectDocument) : Prop :=
  (Ordered d.root → Ordered d'.root) ∧
    ∀ m, child? d.content "build" = some m →
      ∃ m', child? d'.content "build" = some m' ∧ (Ordered m → Ordered m')

namespace KeepsOrder

variable {d d₁ d' : ProjectDocument}

theorem refl (d : ProjectDocument) :
    KeepsOrder d d :=
  ⟨id, fun m hm => ⟨m, hm, id⟩⟩

theorem trans
    (h : KeepsOrder d d₁)
    (h' : KeepsOrder d₁ d') :
    KeepsOrder d d' := by
  refine ⟨fun hd => h'.1 (h.1 hd), fun m hm => ?_⟩
  obtain ⟨m₁, hm₁, hfirst⟩ := h.2 m hm
  obtain ⟨m', hm', hthen⟩ := h'.2 m₁ hm₁
  exact ⟨m', hm', fun h => hthen (hfirst h)⟩

/-- One step keeps the order: it leads through `build` or leaves it as it is. -/
theorem of_stepped
    {l : Layout}
    {hl : l.IsBlank}
    (h : Stepped hl d d') :
    KeepsOrder d d' := by
  obtain ⟨n, kind, root', named, hn, hstep, rfl⟩ := h
  refine ⟨hstep.ordered (sectionPath_ne_nil kind), fun m hm => ?_⟩
  cases kind with
  | plugin => exact hstep.exists_child_ordered (by simp) hm
  | dependency | managed | repository =>
      obtain ⟨x, -, hgrown⟩ := hstep.exists_grown hn
      refine ⟨m, ?_, id⟩
      rw [← hm]
      exact hgrown.child?_of_ne (by decide)

/-- So does a run of steps. -/
theorem of_reached
    {l : Layout}
    {hl : l.IsBlank}
    (h : Relation.ReflTransGen (Stepped hl) d d') :
    KeepsOrder d d' := by
  induction h with
  | refl => exact refl d
  | tail _ hstep ih => exact ih.trans (of_stepped hstep)

end KeepsOrder

/-! ## The order of a text -/

/-- The names of the children of an element, in the order of the text. -/
def childNames
    (doc : List Char)
    (e : Element) :
    List String :=
  (e.children doc).map Element.name

/-- The children of an element are in order exactly when those of the node are that it is read from. -/
theorem inOrder_childNames_iff
    {doc : List Char}
    {d : ProjectDocument}
    (h : Veiled doc d.write)
    {e : Element}
    (he : e.Fits d.write)
    {n : Node}
    (hn : Represents d.write e n)
    {name : String}
    (hname : n.name? = some name) :
    InOrder (childOrder name) (childNames doc e) ↔ Ordered n := by
  rw [childNames, children_eq_of_veiled h he, hn.children_eq, map_name_rowElements, Ordered, hname]
  rfl

/-- A text that is read as a tree has the project and the `build` of the tree, with the order of their
children. -/
theorem exists_project_inOrder_iff
    {doc : List Char}
    {d : ProjectDocument}
    (h : Veiled doc d.write) :
    ∃ project, project? doc = some project ∧
      (InOrder projectOrder (childNames doc project) ↔ Ordered d.root) ∧
      Option.Rel (fun build m => InOrder buildOrder (childNames doc build) ↔ Ordered m)
        (project.child? doc "build") (child? d.content "build") := by
  obtain ⟨project, hproject, hsite⟩ := d.exists_site
  have hfits : project.Fits d.write := (found_project? hproject).fits
  have hchild : project.child? doc "build" = project.child? d.write "build" := by
    rw [Element.child?, Element.child?, children_eq_of_veiled h hfits]
  refine ⟨project, (project?_eq_of_veiled h).trans hproject,
    inOrder_childNames_iff h hfits hsite.represents d.named, ?_⟩
  rw [hchild, ProjectDocument.content]
  rcases child?_cases hsite.represents "build" with ⟨hnone, hnone'⟩ | ⟨build, m, hbuild, hm, hread⟩
  · rw [hnone, hnone']
    exact .none
  · rw [hbuild, hm]
    have hnamed : m.name? = some "build" := by
      simpa [Node.isNamed] using List.find?_some hm
    have hbuildFits : build.Fits d.write :=
      fits_of_mem_elementsIn (List.mem_of_find?_eq_some hbuild)
    exact .some (inOrder_childNames_iff h hbuildFits hread hnamed)

/-- Elements are merged into a text that is read as a project. If the children of the project stand in
the order that it has for them, they do afterwards, and so do those of its `build`, where there is one. -/
theorem exists_merge_inOrder
    {doc : List Char}
    {d : ProjectDocument}
    (h : Veiled doc d.write)
    {es : List Entry}
    (hes : ∀ e ∈ es, e.IsElement) :
    ∃ out project project', merge doc es = some out ∧
      project? doc = some project ∧ project? out = some project' ∧
      (InOrder projectOrder (childNames doc project) →
        InOrder projectOrder (childNames out project')) ∧
      ∀ build, project.child? doc "build" = some build →
        ∃ build', project'.child? out "build" = some build' ∧
          (InOrder buildOrder (childNames doc build) →
            InOrder buildOrder (childNames out build')) := by
  obtain ⟨project, hproject, hroot, hbuilds⟩ := exists_project_inOrder_iff h
  obtain ⟨out, d', hall, hout, hreached⟩ :=
    exists_mergeAll_of_veiled (isBlank_detect doc project) es h hes
  obtain ⟨project', hproject', hroot', hbuilds'⟩ := exists_project_inOrder_iff hout
  obtain ⟨hkept, hbelow⟩ := KeepsOrder.of_reached hreached
  refine ⟨out, project, project', by rw [merge, hproject, Option.bind_some, hall], hproject,
    hproject', fun hin => hroot'.mpr (hkept (hroot.mp hin)), fun build hbuild => ?_⟩
  rw [hbuild] at hbuilds
  generalize hm : child? d.content "build" = o at hbuilds
  cases hbuilds with
  | some hiff =>
      obtain ⟨m', hm', hsection⟩ := hbelow _ hm
      rw [hm'] at hbuilds'
      generalize hbuild' : project'.child? out "build" = o' at hbuilds'
      cases hbuilds' with
      | some hiff' => exact ⟨_, rfl, fun hin => hiff'.mpr (hsection (hiff.mp hin))⟩

/-- A `build` with one child. -/
def builtSection : Node :=
  .element (.ofString "build" (by decide)) .none
    [.empty (.ofString "finalName" (by decide)) .none] .none

/-- A project with a name and the `build`. -/
def builtProject : ProjectDocument where
  before := []
  root :=
    .element (.ofString "project" isName_project) .none
      [.empty (.ofString "name" (by decide)) .none, builtSection] .none
  after := []
  before_plain := elements_nil
  root_element := rfl
  after_plain := elements_nil
  named := by simp [Node.name?, Name.ofString]

theorem ordered_builtProject :
    Ordered builtProject.root ∧ Ordered builtSection ∧
      child? builtProject.content "build" = some builtSection := by
  refine ⟨?_, ?_, ?_⟩
  · unfold Ordered InOrder
    decide
  · unfold Ordered InOrder
    decide
  · rfl

/-- The small entry as a plugin. -/
def smallPlugin : Entry :=
  { smallEntry with kind := .plugin }

/-- A dependency and a plugin are merged into the project. -/
theorem exists_merge_inOrder_small :
    (∀ e ∈ [smallEntry, smallPlugin], e.IsElement) ∧
    ∃ out project', merge builtProject.write [smallEntry, smallPlugin] = some out ∧
      project? out = some project' ∧
      InOrder projectOrder (childNames out project') ∧
      ∃ build', project'.child? out "build" = some build' ∧
        InOrder buildOrder (childNames out build') := by
  have hsmall : smallEntry.IsElement := proper_smallEntry.written.isElement
  have hes : ∀ e ∈ [smallEntry, smallPlugin], e.IsElement := by
    intro e he
    simp only [List.mem_cons, List.not_mem_nil, or_false] at he
    rcases he with rfl | rfl <;> exact hsmall
  have hveil := Veiled.refl builtProject.write
  obtain ⟨hroot, hsection, hchild⟩ := ordered_builtProject
  obtain ⟨project, hproject, hiff, hbuilds⟩ := exists_project_inOrder_iff hveil
  obtain ⟨out, found, project', hmerge, hfound, hproject', hkept, hbelow⟩ :=
    exists_merge_inOrder hveil hes
  obtain rfl : project = found := Option.some.inj (hproject.symm.trans hfound)
  rw [hchild] at hbuilds
  generalize hbuild : project.child? builtProject.write "build" = o at hbuilds
  cases hbuilds with
  | some hiff' =>
      obtain ⟨build', hbuild', hinside⟩ := hbelow _ hbuild
      exact ⟨hes, out, project', hmerge, hproject', hkept (hiff.mpr hroot), build', hbuild',
        hinside (hiff'.mpr hsection)⟩

end Pom
end Runbook
