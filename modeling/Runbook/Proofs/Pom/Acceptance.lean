import Mathlib.Logic.Relation
import Runbook.Proofs.Markup.Clean
import Runbook.Proofs.Markup.Readability
import Runbook.Proofs.Pom.Merging
import Runbook.Proofs.Pom.Stability

/-!
# Which descriptors are accepted

A document of XML with the root `project` has a model, and entries can be merged into it, unless an
attribute value of an empty tag holds a `>` without a slash before it. The reader ends such a tag at the
`>`, takes it for an opening tag, and finds no root then. Merging makes the edits that it would make on
the tree that the document is read as, so that the document is read as a tree after every edit.

Main statement: `accepted_iff`.
-/

namespace Runbook
namespace Pom

open Text Markup

/-! ## Edits of texts that are read alike -/

section Alike

variable {s t : List Char}
variable (h : Veiled s t)

include h

theorem project?_eq_of_veiled :
    project? s = project? t := by
  rw [project?, project?, h.root?_eq]

theorem children_eq_of_veiled
    {e : Element}
    (he : e.Fits t) :
    e.children s = e.children t :=
  h.elementsIn_eq he.inner_start he.inner_stop

theorem firstIndent?_eq_of_veiled
    (elements : List Element) :
    Layout.firstIndent? s elements = Layout.firstIndent? t elements := by
  simp only [Layout.firstIndent?, h.lineIndent_eq]

theorem childIndent_eq_of_veiled
    (l : Layout)
    {e : Element}
    (he : e.Fits t) :
    l.childIndent s e = l.childIndent t e := by
  simp only [Layout.childIndent, h.lineIndent_eq, children_eq_of_veiled h he,
    firstIndent?_eq_of_veiled h]

/-- A path of sections ends at the same element. -/
theorem descend_eq_of_veiled
    (path : List String)
    {e : Element}
    (he : e.Fits t) :
    descend s e path = descend t e path ∧ (descend t e path).1.Fits t := by
  induction path generalizing e with
  | nil => exact ⟨rfl, he⟩
  | cons name rest ih =>
      have hchild : e.child? s name = e.child? t name := by
        rw [Element.child?, Element.child?, children_eq_of_veiled h he]
      simp only [descend, hchild]
      cases hc : e.child? t name with
      | none => exact ⟨rfl, he⟩
      | some c => exact ih (fits_of_mem_elementsIn (List.mem_of_find?_eq_some hc))

theorem sectionEdit_eq_of_veiled
    (l : Layout)
    {e : Element}
    (he : e.Fits t)
    (name : String)
    (block : List Char) :
    sectionEdit l s e name block = sectionEdit l t e name block := by
  simp only [sectionEdit, h.lineIndent_eq, children_eq_of_veiled h he]

theorem entryEdit_eq_of_veiled
    (l : Layout)
    (e : Element)
    (entry : List Char) :
    entryEdit l s e entry = entryEdit l t e entry := by
  simp only [entryEdit, h.lineIndent_eq, h.lineStart_eq]

/-- An entry is put into texts that are read alike by the same edit. -/
theorem placement_eq_of_veiled
    (l : Layout)
    {e : Element}
    (he : e.Fits t)
    (entry : Entry) :
    placement l s e entry = placement l t e entry := by
  obtain ⟨hdescend, hfits⟩ := descend_eq_of_veiled h entry.kind.sectionPath he
  rw [placement, placement, hdescend]
  rcases hend : descend t e entry.kind.sectionPath with ⟨parent, _ | ⟨name, rest⟩⟩
  · rw [hend] at hfits
    simp only [entryEdit_eq_of_veiled h, childIndent_eq_of_veiled h l hfits]
  · rw [hend] at hfits
    simp only [sectionEdit_eq_of_veiled h l hfits, childIndent_eq_of_veiled h l hfits]

end Alike

/-! ## Edits are made at clean positions -/

section Positions

variable {doc : List Char}
variable {e : Element}
variable (l : Layout)

/-- An element that is found somewhere in a text. -/
def Found
    (doc : List Char)
    (e : Element) :
    Prop :=
  ∃ range, e ∈ elementsIn doc range

/-- The sections of an element that is found are found. -/
theorem found_descend
    (path : List String)
    (he : Found doc e) :
    Found doc (descend doc e path).1 := by
  induction path generalizing e with
  | nil => exact he
  | cons name rest ih =>
      rw [descend]
      cases hchild : e.child? doc name with
      | none => exact he
      | some c => exact ih ⟨e.inner, List.mem_of_find?_eq_some hchild⟩

theorem found_project?
    (h : project? doc = some e) :
    Found doc e :=
  ⟨_, List.mem_of_head? (Option.mem_filter_iff.mp h).1⟩

theorem Found.fits
    (h : Found doc e) :
    e.Fits doc := by
  obtain ⟨_, hmem⟩ := h
  exact fits_of_mem_elementsIn hmem

/-- An edit between clean positions. -/
def Edit.IsClean
    (x : Edit)
    (doc : List Char) :
    Prop :=
  Clean doc x.span.start ∧ Clean doc x.span.stop

theorem clean_sectionPosition
    (he : e.Fits doc)
    (name : String) :
    Clean doc (sectionPosition e (e.children doc) name) := by
  have hchild : ∀ c ∈ e.children doc, Clean doc c.outer.stop := fun c hc =>
    (fits_of_mem_elementsIn hc).outer_stop
  simp only [sectionPosition]
  split
  · rename_i anchor hlast
    exact hchild anchor (List.mem_of_mem_filter (List.mem_of_getLast? hlast))
  · exact he.inner_start
  · split
    · rename_i c hlast
      exact hchild c (List.mem_of_getLast? hlast)
    · exact he.inner_start

theorem isClean_sectionEdit
    (he : e.Fits doc)
    (name : String)
    (block : List Char) :
    (sectionEdit l doc e name block).IsClean doc := by
  simp only [sectionEdit]
  split
  · exact ⟨he.outer_start, he.outer_stop⟩
  · split
    · exact ⟨he.inner_start, he.inner_stop⟩
    · exact ⟨clean_sectionPosition he name, clean_sectionPosition he name⟩

/-- The line that holds a position of a text begins at a clean position. -/
theorem clean_lineStart
    {position : Nat}
    (h : Clean doc position) :
    Clean doc (lineStart doc position) := by
  obtain ⟨u, v, rfl, rfl, -⟩ := h
  obtain ⟨front, hu, -, hfront⟩ := exists_eq_append_lastLine u
  refine ⟨front, lastLine u ++ v, ?_, ?_, ?_⟩
  · rw [← List.append_assoc, ← hu]
  · have hsize := congrArg byteSize hu
    rw [byteSize_append] at hsize
    rw [lineStart_append]
    omega
  · rcases hfront with h | h
    · exact Or.inl h
    · exact Or.inr (Or.inr (Or.inr (Or.inr h)))

theorem isClean_entryEdit
    (he : e.Fits doc)
    (entry : List Char) :
    (entryEdit l doc e entry).IsClean doc := by
  simp only [entryEdit]
  split
  · exact ⟨he.outer_start, he.outer_stop⟩
  · split
    · exact ⟨clean_lineStart he.inner_stop, clean_lineStart he.inner_stop⟩
    · exact ⟨he.inner_stop, he.inner_stop⟩

theorem isClean_placement
    (he : e.Fits doc)
    (entry : Entry) :
    (placement l doc e entry).IsClean doc := by
  have hfits := (descend_eq_of_veiled (Veiled.refl doc) entry.kind.sectionPath he).2
  rw [placement]
  rcases hend : descend doc e entry.kind.sectionPath with ⟨parent, _ | ⟨name, rest⟩⟩
  · rw [hend] at hfits
    exact isClean_entryEdit l hfits _
  · rw [hend] at hfits
    exact isClean_sectionEdit l hfits _ _

end Positions

/-! ## Merging into a text that is read as a tree -/

/-- A document comes from another one by a step that puts an element into it. -/
def Stepped
    {l : Layout}
    (hl : l.IsBlank)
    (d d' : ProjectDocument) :
    Prop :=
  ∃ (n : Node) (kind : EntryKind) (root' : Node) (named : root'.name? = some "project"),
    n.isElement = true ∧
    Step l hl n kind.sectionPath (writeRow d.before) (writeRow d.after) d.root root' ∧
    d' = d.withRoot root' named

/-- One step of a merge makes a text that is read as a tree of such a text, by a step on the tree or by
none. -/
theorem exists_mergeOne_of_veiled
    {l : Layout}
    (hl : l.IsBlank)
    {doc : List Char}
    {d : ProjectDocument}
    (h : Veiled doc d.write)
    {e : Entry}
    (he : e.IsElement) :
    ∃ (next : List Char) (d' : ProjectDocument), mergeOne l doc e = some next ∧
      Veiled next d'.write ∧ Relation.ReflTransGen (Stepped hl) d d' := by
  obtain ⟨n, hn, hxml⟩ := he
  obtain ⟨project, hproject, hsite⟩ := d.exists_site
  obtain ⟨root', named, hplaced, hstep⟩ := exists_placement hl d hn hxml hsite
  have hfits : project.Fits d.write := (found_project? hproject).fits
  have hclean := isClean_placement l hfits e
  have hfound := (project?_eq_of_veiled h).trans hproject
  rw [mergeOne, hfound, Option.map_some, editFor_eq]
  by_cases hthere : (descend doc project e.kind.sectionPath).2 = [] ∧
      sectionHas doc (descend doc project e.kind.sectionPath).1 e = true
  · rw [if_pos hthere]
    exact ⟨doc, d, rfl, h, .refl⟩
  · rw [if_neg hthere, placement_eq_of_veiled h l hfits]
    refine ⟨_, d.withRoot root' named, rfl, ?_, .single ⟨n, e.kind, root', named, hn, hstep, rfl⟩⟩
    rw [← hplaced]
    exact h.splice hclean.1 hclean.2 _

/-- A merge of elements into a text that is read as a tree succeeds, and makes steps on the tree. -/
theorem exists_mergeAll_of_veiled
    {l : Layout}
    (hl : l.IsBlank) :
    ∀ (es : List Entry) {doc : List Char} {d : ProjectDocument}, Veiled doc d.write →
      (∀ e ∈ es, e.IsElement) →
      ∃ (out : List Char) (d' : ProjectDocument), mergeAll l doc es = some out ∧
        Veiled out d'.write ∧ Relation.ReflTransGen (Stepped hl) d d'
  | [], doc, d, h, _ => ⟨doc, d, rfl, h, .refl⟩
  | e :: rest, doc, d, h, hes => by
      obtain ⟨next, d₁, hstep, hnext, hfirst⟩ := exists_mergeOne_of_veiled hl h (hes e (by simp))
      obtain ⟨out, d', hmerge, hout, hothers⟩ :=
        exists_mergeAll_of_veiled hl rest hnext fun x hx => hes x (List.mem_cons_of_mem _ hx)
      refine ⟨out, d', ?_, hout, hfirst.trans hothers⟩
      rw [mergeAll, hstep, Option.bind_some, hmerge]

/-- A text that is read as a project has a model, and elements can be merged into it. -/
theorem isSome_of_veiled
    {doc : List Char}
    {d : ProjectDocument}
    (h : Veiled doc d.write) :
    (Model.parse? doc).isSome = true ∧
      ∀ es : List Entry, (∀ e ∈ es, e.IsElement) → (merge doc es).isSome = true := by
  obtain ⟨project, hproject, -⟩ := d.exists_site
  have hfound := (project?_eq_of_veiled h).trans hproject
  refine ⟨by rw [Model.parse?, hfound]; rfl, fun es hes => ?_⟩
  obtain ⟨out, -, hmerge, -⟩ := exists_mergeAll_of_veiled (isBlank_detect doc project) es h hes
  rw [merge, hfound, Option.bind_some, hmerge]
  rfl

/-- A text without a root has no model, and nothing can be merged into it. -/
theorem eq_none_of_root?
    {doc : List Char}
    (h : root? doc = none) :
    Model.parse? doc = none ∧ ∀ es : List Entry, merge doc es = none := by
  have hproject : project? doc = none := by rw [project?, h]; rfl
  exact ⟨by rw [Model.parse?, hproject]; rfl, fun es => by rw [merge, hproject]; rfl⟩

/-! ## Documents of XML -/

/-- A document of XML with the root `project`, in which the first `>` of no opening tag stands behind a
slash and that of no empty tag behind two, has a model exactly when the reader takes no empty tag for an
opening one, and exactly then elements can be merged into it. -/
theorem accepted_iff
    (d : Xml.Document)
    (hname : d.rootName = "project".toList)
    (hempty : ∀ t ∈ d.openingTags, ¬ t.EndsEmpty)
    (hdouble : ∀ t ∈ d.emptyTags, ¬ t.EndsDoubled) :
    ((Model.parse? d.write).isSome = true ↔ ∀ t ∈ d.emptyTags, ¬ t.EndsOpen) ∧
      ∀ es : List Entry, (∀ e ∈ es, e.IsElement) →
        ((merge d.write es).isSome = true ↔ ∀ t ∈ d.emptyTags, ¬ t.EndsOpen) := by
  have hread : isName d.rootName = true := by
    rw [hname]
    decide
  by_cases hopen : ∀ t ∈ d.emptyTags, ¬ t.EndsOpen
  · obtain ⟨tree, hveil, hroot⟩ := d.exists_veiled hread hempty hdouble hopen
    rw [hname, String.ofList_toList] at hroot
    obtain ⟨hparse, hmerge⟩ := isSome_of_veiled (d := ⟨tree, hroot⟩) hveil
    exact ⟨iff_of_true hparse hopen, fun es hes => iff_of_true (hmerge es hes) hopen⟩
  · have hsome : ∃ t ∈ d.emptyTags, t.EndsOpen := by
      simpa only [not_forall, not_not, exists_prop] using hopen
    obtain ⟨hparse, hmerge⟩ := eq_none_of_root? (d.root?_eq_none hread hempty hdouble hsome)
    refine ⟨iff_of_false ?_ hopen, fun es _ => iff_of_false ?_ hopen⟩
    · simp [hparse]
    · simp [hmerge es]

/-- A tag with one attribute. -/
def echoTag
    (value : String)
    (plain : '<' ∉ value.toList := by decide)
    (closed : '"' ∉ value.toList := by decide) :
    Xml.Tag where
  name := ⟨"echo".toList, by decide⟩
  attributes :=
    [ { lead := ⟨[' '], by decide⟩
        name := ⟨"t".toList, by decide⟩
        left := .none
        right := .none
        quote := '"'
        value := value.toList
        apart := by simp
        quoted := Or.inl rfl
        plain
        closed } ]
  gap := .none

/-- A tag whose only attribute value holds an arrow. -/
def arrowTag : Xml.Tag :=
  echoTag "a -> b"

/-- A tag whose only attribute value holds an arrow behind a slash. -/
def slashTag : Xml.Tag :=
  echoTag "a/>b"

theorem not_endsDoubled_of_body
    {t : Xml.Tag}
    (h : ¬ ['/', '/'] <:+: t.body) :
    ¬ t.EndsDoubled := by
  rintro ⟨-, u, v, hbody, -⟩
  exact h ⟨u, '>' :: v, by simp [hbody]⟩

theorem not_endsEmpty_arrowTag :
    ¬ arrowTag.EndsEmpty := by
  rintro ⟨-, u, v, hbody, -⟩
  have hslash : '/' ∈ arrowTag.body := by simp [hbody]
  exact absurd hslash (by decide)

theorem endsOpen_arrowTag :
    arrowTag.EndsOpen :=
  ⟨⟨by decide, _, List.mem_singleton_self _, by decide⟩, not_endsEmpty_arrowTag⟩

theorem endsEmpty_slashTag :
    slashTag.EndsEmpty :=
  ⟨by decide, " t=\"a".toList, "b\"".toList, by decide, by decide⟩

/-- A project around one node. -/
def projectAround (x : Xml.Node) : Xml.Document where
  before := []
  root := .element ⟨⟨"project".toList, by decide⟩, [], .none⟩ [x] .none
  after := []
  root_element := rfl

/-- The tag of the project has no attributes. -/
theorem not_endsEmpty_projectAround
    {x : Xml.Node}
    (h : ∀ t ∈ x.openingTags, ¬ t.EndsEmpty) :
    ∀ t ∈ (projectAround x).openingTags, ¬ t.EndsEmpty := by
  intro t ht hslash
  simp only [Xml.Document.openingTags, projectAround, Xml.Node.openingTags, Xml.openingTagsOf,
    List.append_nil, List.mem_cons] at ht
  rcases ht with rfl | ht
  · obtain ⟨-, u, v, hbody, -⟩ := hslash
    simp [Xml.Tag.body, Xml.Gap.none] at hbody
  · exact h t ht hslash

/-- A project with the arrow in an empty tag. -/
def arrowAlone : Xml.Document :=
  projectAround (.empty arrowTag)

/-- A project with the arrow in an opening tag. -/
def arrowOpened : Xml.Document :=
  projectAround (.element arrowTag [] .none)

/-- A project with the slash and the arrow in an empty tag. -/
def slashAlone : Xml.Document :=
  projectAround (.empty slashTag)

theorem not_endsEmpty_arrowOpened :
    ∀ t ∈ arrowOpened.openingTags, ¬ t.EndsEmpty :=
  not_endsEmpty_projectAround fun t ht => by
    rw [List.mem_singleton.mp ht]
    exact not_endsEmpty_arrowTag

theorem emptyTags_arrowOpened :
    arrowOpened.emptyTags = [] :=
  rfl

/-- The arrow does no harm in an opening tag, and in an empty tag it hides the project, unless there is a
slash before it. -/
theorem accepted_iff_arrow :
    (arrowAlone.write = "<project><echo t=\"a -> b\"/></project>".toList ∧
      (Model.parse? arrowAlone.write).isSome = false ∧
      (merge arrowAlone.write [smallEntry]).isSome = false) ∧
    (arrowOpened.write = "<project><echo t=\"a -> b\"></echo></project>".toList ∧
      (Model.parse? arrowOpened.write).isSome = true ∧
      (merge arrowOpened.write [smallEntry]).isSome = true) ∧
    slashAlone.write = "<project><echo t=\"a/>b\"/></project>".toList ∧
      (Model.parse? slashAlone.write).isSome = true ∧
      (merge slashAlone.write [smallEntry]).isSome = true := by
  have hentry : ∀ e ∈ [smallEntry], e.IsElement := by
    intro e he
    rw [List.mem_singleton.mp he]
    exact proper_smallEntry.written.isElement
  have hnone : ∀ t ∈ ([] : List Xml.Tag), ¬ t.EndsEmpty := by simp
  have hdouble : ∀ t ∈ arrowAlone.emptyTags ++ slashAlone.emptyTags, ¬ t.EndsDoubled := by
    intro t ht
    simp only [arrowAlone, slashAlone, projectAround, Xml.Document.emptyTags, Xml.Node.emptyTags,
      Xml.emptyTagsOf, List.append_nil, List.cons_append, List.nil_append, List.mem_cons,
      List.not_mem_nil, or_false] at ht
    rcases ht with rfl | rfl <;> exact not_endsDoubled_of_body (by decide)
  have hlost : ¬ ∀ t ∈ arrowAlone.emptyTags, ¬ t.EndsOpen := fun h =>
    h arrowTag (List.mem_singleton_self _) endsOpen_arrowTag
  have hkept : ∀ t ∈ arrowOpened.emptyTags, ¬ t.EndsOpen := by
    simp [emptyTags_arrowOpened]
  have hslash : ∀ t ∈ slashAlone.emptyTags, ¬ t.EndsOpen := by
    intro t ht hopen
    rw [List.mem_singleton.mp ht] at hopen
    exact hopen.2 endsEmpty_slashTag
  obtain ⟨hparse, hmerge⟩ :=
    accepted_iff arrowAlone rfl (not_endsEmpty_projectAround hnone)
      fun t ht => hdouble t (List.mem_append_left _ ht)
  obtain ⟨hparse', hmerge'⟩ :=
    accepted_iff arrowOpened rfl not_endsEmpty_arrowOpened (by simp [emptyTags_arrowOpened])
  obtain ⟨hparse'', hmerge''⟩ :=
    accepted_iff slashAlone rfl (not_endsEmpty_projectAround hnone)
      fun t ht => hdouble t (List.mem_append_right _ ht)
  refine ⟨⟨by decide, ?_, ?_⟩, ⟨by decide, hparse'.mpr hkept, (hmerge' _ hentry).mpr hkept⟩,
    by decide, hparse''.mpr hslash, (hmerge'' _ hentry).mpr hslash⟩
  · exact Bool.eq_false_iff.mpr fun h => hlost (hparse.mp h)
  · exact Bool.eq_false_iff.mpr fun h => hlost ((hmerge _ hentry).mp h)

end Pom
end Runbook
