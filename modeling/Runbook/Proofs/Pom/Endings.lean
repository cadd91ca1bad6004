import Runbook.Proofs.Markup.Excerpts
import Runbook.Proofs.Pom.Acceptance

/-!
# A merge keeps the line endings

What a merge puts into a document is made of lines and of the line breaks of the document. In a document
with breaks of two characters only, this leaves a carriage return before every line feed: an edit is made
at a clean position, where no such break is cut apart. In a document without carriage returns those of
the entries stay inside of their lines, so none comes to stand before a line feed.

Main statement: `exists_merge_endings`.
-/

namespace Runbook

/-! ## Texts that are read alike have the same breaks -/

namespace Markup.Veiled

open Text

variable {s t : List Char}

theorem occursIn_eq
    (h : Veiled s t)
    (part : List Char)
    (h₁ : '<' ∉ part)
    (h₂ : '=' ∉ part) :
    occursIn part s = occursIn part t := by
  refine h.apply_eq (f := fun s => occursIn part s) fun s => ?_
  induction s with
  | nil => rfl
  | cons c s ih =>
      have hprefix := isPrefixOf_map_dim h₁ h₂ (c :: s)
      rw [List.map_cons] at hprefix ⊢
      simp only [occursIn, hprefix, ih]

theorem unbroken_iff
    (h : Veiled s t) :
    Unbroken s ↔ Unbroken t := by
  rw [Unbroken, Unbroken, ← occursIn_iff, ← occursIn_iff, h.occursIn_eq _ (by decide) (by decide)]

theorem return_not_mem
    (h : Veiled s t)
    (hs : '\r' ∉ s) :
    '\r' ∉ t := by
  rw [← List.singleton_infix_iff, ← occursIn_iff] at hs ⊢
  rwa [← h.occursIn_eq _ (by decide) (by decide)]

end Markup.Veiled

namespace Pom

open Text Markup

/-! ## What is put in -/

section Planned

variable {l : Layout}
variable {doc : List Char}
variable {e : Element}

/-- A tag without attributes is a line. -/
theorem isLine_bracketed
    {s : List Char}
    (hs : '\n' ∉ s) :
    IsLine ('<' :: s ++ ['>']) := by
  refine ⟨by simp [hs], ?_⟩
  rw [List.getLast?_concat]
  decide

theorem lined_enclosed
    {name : String}
    (hname : ∀ c ∈ name.toList, continuesName c = true)
    {block indent : List Char}
    (hblock : Lined l.newline block)
    (hindent : indent.all indents = true) :
    Lined l.newline (enclosed l name block indent) := by
  have hfeed : '\n' ∉ name.toList := fun hmem => absurd (hname _ hmem) (by decide)
  have hopen := isLine_bracketed hfeed
  have hclose := isLine_bracketed (s := '/' :: name.toList) (by simp [hfeed])
  have hlast := (isLine_of_indents hindent).append hclose
  have hall := (((Lined.line hopen).append .newline).append hblock).append
    (Lined.newline.append (.line hlast))
  simpa [enclosed] using hall

theorem lined_sectionEdit
    (he : Found doc e)
    (name : String)
    {block : List Char}
    (hblock : Lined l.newline block) :
    Lined l.newline (sectionEdit l doc e name block).text := by
  obtain ⟨range, hmem⟩ := he
  have hindent := all_indents_lineIndent doc e.outer.start
  have hlast : Lined l.newline _ := .line (isLine_of_indents hindent)
  simp only [sectionEdit]
  split
  · exact lined_enclosed (continues_of_mem_elementsIn hmem) hblock hindent
  · split
    · exact ((Lined.newline.append hblock).append .newline).append hlast
    · exact Lined.newline.append hblock

theorem lined_entryEdit
    (he : Found doc e)
    {entry : List Char}
    (hentry : Lined l.newline entry) :
    Lined l.newline (entryEdit l doc e entry).text := by
  obtain ⟨range, hmem⟩ := he
  have hindent := all_indents_lineIndent doc e.outer.start
  have hlast : Lined l.newline _ := .line (isLine_of_indents hindent)
  simp only [entryEdit]
  split
  · exact lined_enclosed (continues_of_mem_elementsIn hmem) hentry hindent
  · split
    · exact hentry.append .newline
    · exact ((Lined.newline.append hentry).append .newline).append hlast

theorem all_indents_childIndent
    (hunit : l.unit.all indents = true)
    (doc : List Char)
    (e : Element) :
    (l.childIndent doc e).all indents = true := by
  rw [Layout.childIndent]
  cases hfirst : Layout.firstIndent? doc (e.children doc) with
  | none => exact all_indents_append (all_indents_lineIndent doc e.outer.start) hunit
  | some indent =>
      obtain ⟨c, -, hc⟩ := Option.bind_eq_some_iff.mp hfirst
      exact all_indents_of_lineIndent hc

/-- Only sections of the path can be missing. -/
theorem mem_of_descend
    (path : List String)
    {name : String}
    (h : name ∈ (descend doc e path).2) :
    name ∈ path := by
  induction path generalizing e with
  | nil => exact h
  | cons first rest ih =>
      rw [descend] at h
      cases hchild : e.child? doc first with
      | none => simpa [hchild] using h
      | some c =>
          rw [hchild] at h
          exact List.mem_cons_of_mem _ (ih h)

/-- What is put into a text for an element is made of lines and of line breaks of the layout. -/
theorem lined_placement
    (hunit : l.unit.all indents = true)
    (he : Found doc e)
    {entry : Entry}
    (hentry : entry.IsElement) :
    Lined l.newline (placement l doc e entry).text := by
  obtain ⟨n, hn, hxml⟩ := hentry
  have hfound := found_descend entry.kind.sectionPath he
  rw [placement, hxml]
  rcases hend : descend doc e entry.kind.sectionPath with ⟨parent, _ | ⟨name, rest⟩⟩
  · rw [hend] at hfound
    have hindent := all_indents_childIndent hunit doc parent
    exact lined_entryEdit hfound (lined_renderEntry hunit hn hindent)
  · have hnames : ∀ other ∈ name :: rest, isName other.toList = true := fun other hmem =>
      isName_of_mem_sectionPath (mem_of_descend entry.kind.sectionPath (by rwa [hend]))
    rw [hend] at hfound
    have hindent := all_indents_childIndent hunit doc parent
    exact lined_sectionEdit hfound name (lined_renderChain hunit hn _ hnames hindent)

end Planned

/-! ## Documents with breaks of two characters only -/

section Coupled

variable {l : Layout}
variable {doc out : List Char}

/-- No break of two characters is cut at a clean position. -/
theorem coupled_right_of_cleanCut
    {u v : List Char}
    (h : Coupled (u ++ v))
    (hcut : CleanCut u v) :
    Coupled v := by
  have hbehind : ∀ c, c ≠ '\r' → u.getLast? = some c → Coupled v := by
    intro c hc hlast
    refine h.right fun hhead => ?_
    obtain ⟨rest, rfl⟩ := List.head?_eq_some_iff.mp hhead
    have hreturn := h u rest rfl
    rw [hlast] at hreturn
    exact hc (Option.some.inj hreturn)
  rcases hcut with rfl | rfl | hhead | hlast | hlast
  · exact h
  · exact Coupled.of_not_mem (by simp)
  · exact h.right (by simp [hhead])
  · exact hbehind _ (by decide) hlast
  · exact hbehind _ (by decide) hlast

theorem coupled_splice
    {r : Span}
    {new : List Char}
    (h : Coupled doc)
    (hstop : Clean doc r.stop)
    (hnew : Coupled new) :
    Coupled (splice doc r new) := by
  obtain ⟨u', v', rfl, hsize, hcut⟩ := hstop
  have hback := splitAt?_append u' v'
  rw [splice, ← hsize, hback]
  split
  · rename_i before _ _ after hstart hsame
    obtain ⟨rfl, rfl⟩ := Prod.mk.inj (Option.some.inj hsame)
    obtain ⟨hdoc, -⟩ := splitAt?_eq_some hstart
    have hbefore : Coupled before := (hdoc ▸ h).left
    split
    · exact (hbefore.append hnew).append (coupled_right_of_cleanCut h hcut)
    · exact h
  · exact h

theorem coupled_mergeOne
    (hpair : l.newline = ['\r', '\n'])
    (hunit : l.unit.all indents = true)
    {entry : Entry}
    (hentry : entry.IsElement)
    (h : Coupled doc)
    (hmerge : mergeOne l doc entry = some out) :
    Coupled out := by
  obtain ⟨project, hproject, rfl⟩ := Option.map_eq_some_iff.mp hmerge
  have hfound := found_project? hproject
  rw [editFor_eq]
  split_ifs
  · exact h
  · have hnew := lined_placement hunit hfound hentry
    rw [hpair] at hnew
    exact coupled_splice h (isClean_placement l hfound.fits entry).2 hnew.coupled

/-- A merge into a document with breaks of two characters only makes no other ones. -/
theorem coupled_mergeAll
    (hpair : l.newline = ['\r', '\n'])
    (hunit : l.unit.all indents = true)
    {es : List Entry}
    (hes : ∀ e ∈ es, e.IsElement)
    (h : Coupled doc)
    (hmerge : mergeAll l doc es = some out) :
    Coupled out := by
  induction es generalizing doc with
  | nil =>
      cases hmerge
      exact h
  | cons e rest ih =>
      obtain ⟨next, hfirst, hothers⟩ := Option.bind_eq_some_iff.mp hmerge
      have hnext := coupled_mergeOne hpair hunit (hes e List.mem_cons_self) h hfirst
      exact ih (fun x hx => hes x (List.mem_cons_of_mem _ hx)) hnext hothers

end Coupled

/-! ## The line endings after a merge -/

/-- The layout that is read from a text is that of the tree it is read as. -/
theorem detect_eq_of_veiled
    {doc : List Char}
    {d : ProjectDocument}
    (h : Veiled doc d.write)
    {project : Element}
    (hproject : project? d.write = some project)
    (hsite : Site d.write project d.root (writeRow d.before) (writeRow d.after)) :
    Layout.detect doc project = d.layout := by
  have hfits : project.Fits d.write := (found_project? hproject).fits
  rw [← d.detect_eq hsite]
  simp only [Layout.detect, h.lineIndent_eq, children_eq_of_veiled h hfits,
    firstIndent?_eq_of_veiled h, h.occursIn_eq ['\r', '\n'] (by decide) (by decide)]

namespace ProjectDocument

theorem unbroken_iff_of_layout_eq
    {d d' : ProjectDocument}
    (h : d'.layout = d.layout) :
    Unbroken d.write ↔ Unbroken d'.write := by
  rcases d.newline_cases with ⟨hdoc, hfeed⟩ | ⟨hdoc, hpair⟩ <;>
    rcases d'.newline_cases with ⟨hdoc', hfeed'⟩ | ⟨hdoc', hpair'⟩
  · exact iff_of_true hdoc hdoc'
  · rw [h, hfeed] at hpair'
    cases hpair'
  · rw [h, hpair] at hfeed'
    cases hfeed'
  · exact iff_of_false hdoc hdoc'

/-- All steps of a merge leave the layout as it is. -/
theorem layout_of_reached
    {l : Layout}
    {hl : l.IsBlank}
    {d d' : ProjectDocument}
    (hlayout : d.layout = l)
    (hsettled : d.Settled)
    (h : Relation.ReflTransGen (Stepped hl) d d') :
    d'.layout = l ∧ d'.Settled := by
  induction h with
  | refl => exact ⟨hlayout, hsettled⟩
  | tail _ hstep ih =>
      obtain ⟨n, kind, root', named, hn, hput, rfl⟩ := hstep
      obtain ⟨rfl, hafter⟩ := ih
      exact layout_withRoot hput hn hafter named

end ProjectDocument

/-- Elements are merged into a text that is read as a project. If it has breaks of two characters and no
line feed without a carriage return before it, so has what comes of it; if it has no carriage returns,
what comes of it has no break of two characters, whatever breaks the entries have. -/
theorem exists_merge_endings
    {doc : List Char}
    {d : ProjectDocument}
    (h : Veiled doc d.write)
    {es : List Entry}
    (hes : ∀ e ∈ es, e.IsElement) :
    ∃ out, merge doc es = some out ∧
      (¬ Unbroken doc ∧ Coupled doc → ¬ Unbroken out ∧ Coupled out) ∧
      ('\r' ∉ doc → Unbroken out) := by
  obtain ⟨project, hproject, hsite⟩ := d.exists_site
  have hdetect := detect_eq_of_veiled h hproject hsite
  obtain ⟨out, d', hall, hout, hreached⟩ := exists_mergeAll_of_veiled d.isBlank_layout es h hes
  have hkept : d.Settled → (Unbroken doc ↔ Unbroken out) := by
    intro hsettled
    obtain ⟨hlayout, -⟩ := ProjectDocument.layout_of_reached rfl hsettled hreached
    rw [h.unbroken_iff, hout.unbroken_iff]
    exact ProjectDocument.unbroken_iff_of_layout_eq hlayout
  refine ⟨out, ?_, ?_, ?_⟩
  · rw [merge, project?_eq_of_veiled h, hproject, Option.bind_some, hdetect, hall]
  · rintro ⟨hbroken, hcoupled⟩
    have hnot : ¬ Unbroken d.write := fun hfree => hbroken (h.unbroken_iff.mpr hfree)
    have hpair : d.layout.newline = ['\r', '\n'] := by
      rcases d.newline_cases with ⟨hfree, -⟩ | ⟨-, hpair⟩
      · exact absurd hfree hnot
      · exact hpair
    have hsettled : d.Settled := fun hfree => absurd hfree hnot
    exact ⟨fun hfree => hbroken ((hkept hsettled).mpr hfree),
      coupled_mergeAll hpair d.all_indents_unit hes hcoupled hall⟩
  · intro hreturn
    have hreturn' := h.return_not_mem hreturn
    have hpaired : Paired d.write := by
      intro u v hsplit
      exact absurd (by simp [hsplit]) hreturn'
    have hfree : Unbroken doc := fun hpair => hreturn (hpair.subset (by simp))
    exact (hkept (ProjectDocument.settled_of_paired hpaired)).mp hfree

/-- A project with a blank in it. -/
def blankProject
    (s : List Char)
    (hs : allBlank s = true) : ProjectDocument where
  before := []
  root := .element (.ofString "project" isName_project) .none [blankNode s hs] .none
  after := []
  before_plain := elements_nil
  root_element := rfl
  after_plain := elements_nil
  named := by simp [Node.name?, Name.ofString]

/-- An entry is merged into a project with a break of two characters, and into one with a line feed. -/
theorem exists_merge_endings_small :
    (∀ e ∈ [smallEntry], e.IsElement) ∧
    (∃ out, merge (blankProject ['\r', '\n'] rfl).write [smallEntry] = some out ∧
      ¬ Unbroken out ∧ Coupled out) ∧
    ∃ out, merge (blankProject ['\n'] rfl).write [smallEntry] = some out ∧ Unbroken out := by
  have hes : ∀ e ∈ [smallEntry], e.IsElement := by
    intro e he
    rw [List.mem_singleton.mp he]
    exact proper_smallEntry.written.isElement
  have hpair : (blankProject ['\r', '\n'] rfl).write =
      "<project>".toList ++ ['\r', '\n'] ++ "</project>".toList := by decide
  have hlined : Lined ['\r', '\n'] (blankProject ['\r', '\n'] rfl).write := by
    rw [hpair]
    exact ((Lined.line ⟨by decide, by decide⟩).append .newline).append
      (.line ⟨by decide, by decide⟩)
  have hbroken : ¬ Unbroken (blankProject ['\r', '\n'] rfl).write := by
    rw [hpair]
    exact fun hfree => hfree ⟨"<project>".toList, "</project>".toList, rfl⟩
  obtain ⟨out, hmerge, hkept, -⟩ :=
    exists_merge_endings (Veiled.refl (blankProject ['\r', '\n'] rfl).write) hes
  obtain ⟨out', hmerge', -, hfree⟩ :=
    exists_merge_endings (Veiled.refl (blankProject ['\n'] rfl).write) hes
  exact ⟨hes, ⟨out, hmerge, hkept ⟨hbroken, hlined.coupled⟩⟩, out', hmerge', hfree (by decide)⟩

end Pom
end Runbook
