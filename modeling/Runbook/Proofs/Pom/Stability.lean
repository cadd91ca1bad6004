import Runbook.Proofs.Pom.Breaks
import Runbook.Proofs.Pom.Steps

/-!
# A merge keeps the layout

The layout that is read from a document is read from it again after a step of a merge. The unit stays
because a new first child of the project is indented by the unit, and the line ending stays because no
step brings a carriage return and a line feed together unless the document has both already. So a merge
of many entries is the same as merges of some of them, one after another.

Main statement: `exists_merge_append`.
-/

namespace Runbook
namespace Pom

open Text Markup

/-! ## The unit -/

/-- A first child that is indented as a new child would be shows the unit. -/
theorem unitBeyond_getD
    (base : List Char)
    (first : Option (List Char)) :
    unitBeyond base (some (first.getD (base ++ unitBeyond base first))) = unitBeyond base first := by
  cases first with
  | some indent => rfl
  | none =>
      have hnone : unitBeyond base none = Layout.defaultUnit := rfl
      have hsome : (some Layout.defaultUnit).filter (fun u => !u.isEmpty) =
          some Layout.defaultUnit := rfl
      have hdrop : dropPrefix? base (base ++ Layout.defaultUnit) = some Layout.defaultUnit :=
        dropPrefix?_eq_some_iff.mpr rfl
      rw [hnone, unitBeyond, Option.getD_none, Option.bind_some, hdrop, hsome, Option.getD_some]

theorem all_indents_unitBeyond
    {base : List Char}
    {first : Option (List Char)}
    (h : ∀ indent, first = some indent → indent.all indents = true) :
    (unitBeyond base first).all indents = true := by
  unfold unitBeyond
  cases hunit : (first.bind (dropPrefix? base)).filter fun u => !u.isEmpty with
  | none => decide
  | some u =>
      obtain ⟨hbeyond, -⟩ := Option.filter_eq_some_iff.mp hunit
      obtain ⟨indent, hindent, hdrop⟩ := Option.bind_eq_some_iff.mp hbeyond
      have hall := h indent hindent
      rw [dropPrefix?_eq_some_iff.mp hdrop, List.all_append, Bool.and_eq_true] at hall
      exact hall.2

theorem all_indents_firstIndent?
    {front indent : List Char}
    {n : Node}
    (h : n.firstIndent? front = some indent) :
    indent.all indents = true := by
  obtain ⟨lead, -, hlead⟩ := Option.bind_eq_some_iff.mp h
  exact all_indents_of_indentAfter hlead

theorem all_indents_getD
    (s : List Char) :
    ((indentAfter s).getD []).all indents = true := by
  cases h : indentAfter s with
  | none => rfl
  | some indent => exact all_indents_of_indentAfter h

theorem all_indents_indentBelow
    {l : Layout}
    (hunit : l.unit.all indents = true)
    (front : List Char)
    (n : Node) :
    (l.indentBelow front n).all indents = true := by
  unfold Layout.indentBelow
  cases h : n.firstIndent? front with
  | none => exact all_indents_append (all_indents_getD front) hunit
  | some indent => exact all_indents_firstIndent? h

/-! ## The first child -/

/-- A node that takes a change up somewhere inside has its first child where it was. -/
theorem Replaced.lead?_eq
    {missing path : List String}
    {t t' n n' : Node}
    {front back front' back' : List Char}
    (h : Replaced missing t t' front' back' path n n' front back)
    (ht : t'.name? = t.name?) :
    (n = t ∧ n' = t' ∧ front = front' ∧ path = missing) ∨ n'.lead? = n.lead? := by
  cases h with
  | here => exact Or.inl ⟨rfl, rfl, rfl, rfl⟩
  | @along name rest nm attributes closing before after m m' _ _ first named inside =>
      right
      have helem := Node.isElement_of_isNamed named
      have helem' := Node.isElement_of_isNamed ((inside.isNamed_eq ht name).trans named)
      have hlead : leadOf (before ++ m' :: after) = leadOf (before ++ m :: after) := by
        by_cases hnone : elements before = []
        · rw [leadOf_append_cons hnone helem, leadOf_append_cons hnone helem']
        · rw [leadOf_append_of_elements hnone, leadOf_append_of_elements hnone]
      simp only [Node.lead?, hlead]

section Sections

variable {l : Layout}
variable {hl : l.IsBlank}
variable {x n n' : Node}
variable {indent outer : List Char}
variable {hindent : allBlank indent = true}
variable {houter : allBlank outer = true}

/-- An element behind a line break and an indentation has that indentation. -/
theorem firstIndent?_of_lead
    (hlast : l.newline.getLast? = some '\n')
    (hinside : indent.all indents = true)
    (front : List Char)
    {lead : List Char}
    (h : n.lead? = some (lead ++ (l.newline ++ indent))) :
    n.firstIndent? front = some indent := by
  obtain ⟨before, hbefore⟩ := List.getLast?_eq_some_iff.mp hlast
  have hsplit : front ++ (lead ++ (l.newline ++ indent)) =
      front ++ lead ++ before ++ '\n' :: indent := by
    rw [hbefore]
    simp
  rw [Node.firstIndent?, h, Option.bind_some, hsplit, indentAfter_feed _ hinside]

theorem leadOf_linedUp
    (hx : x.isElement = true) :
    leadOf (linedUp l hl x hindent houter) = some (l.newline ++ indent) := by
  have hnone : elements [blankNode (l.newline ++ indent) (by simp [hl.newline.1, hindent])] = [] :=
    rfl
  have hlead := leadOf_append_cons hnone hx
    [blankNode (l.newline ++ outer) (by simp [hl.newline.1, houter])]
  simpa [linedUp] using hlead

theorem leadOf_lineAfter
    (hx : x.isElement = true)
    (after : List Node) :
    leadOf (lineAfter l hl x hindent ++ after) = some (l.newline ++ indent) := by
  have hnone : elements [blankNode (l.newline ++ indent) (by simp [hl.newline.1, hindent])] = [] :=
    rfl
  have hlead := leadOf_append_cons hnone hx after
  simpa [lineAfter] using hlead

theorem EndsInElement.eq_nil
    {row : List Node}
    (h : EndsInElement row)
    (hnone : elements row = []) :
    row = [] := by
  rcases List.eq_nil_or_concat row with rfl | ⟨before, m, rfl⟩
  · rfl
  · have hm : m.isElement = true := h m (by simp)
    rw [List.concat_eq_append, elements_append, elements_cons_of hm] at hnone
    simp at hnone

/-- After a section has been put into an element the first child is where it was, or it is the section
and stands at its indentation. -/
theorem Sectioned.firstIndent?_eq
    (h : Sectioned l hl x hindent houter n n')
    (hx : x.isElement = true)
    (hlast : l.newline.getLast? = some '\n')
    (hinside : indent.all indents = true)
    (front : List Char) :
    n'.firstIndent? front = n.firstIndent? front ∨ n'.firstIndent? front = some indent := by
  cases h with
  | opened name attributes =>
      right
      exact firstIndent?_of_lead hlast hinside front
        (by rw [Node.lead?, leadOf_linedUp hx, Option.map_some])
  | @alone name attributes closing content childless =>
      right
      exact firstIndent?_of_lead hlast hinside front
        (by rw [Node.lead?, leadOf_linedUp hx, Option.map_some])
  | @between name attributes closing before after _ behind named placed =>
      by_cases hnone : elements before = []
      · obtain rfl := behind.eq_nil hnone
        right
        exact firstIndent?_of_lead hlast hinside front
          (by rw [Node.lead?, List.nil_append, leadOf_lineAfter hx, Option.map_some])
      · left
        simp only [Node.firstIndent?, Node.lead?, leadOf_append_of_elements hnone]

end Sections

/-! ## The layout after a step -/

namespace ProjectDocument

variable (d : ProjectDocument)

theorem isBlank_layout :
    d.layout.IsBlank := by
  obtain ⟨project, -, hsite⟩ := d.exists_site
  rw [← d.detect_eq hsite]
  exact isBlank_detect d.write project

theorem all_indents_unit :
    d.layout.unit.all indents = true :=
  all_indents_unitBeyond fun _ h => all_indents_firstIndent? h

theorem newline_cases :
    (Unbroken d.write ∧ d.layout.newline = ['\n']) ∨
      (¬ Unbroken d.write ∧ d.layout.newline = ['\r', '\n']) := by
  simp only [Unbroken, not_not, ← occursIn_iff, layout]
  by_cases h : occursIn ['\r', '\n'] d.write = true
  · right
    exact ⟨h, if_pos h⟩
  · left
    exact ⟨h, if_neg h⟩

theorem last_newline :
    d.layout.newline.getLast? = some '\n' := by
  rcases d.newline_cases with ⟨-, h⟩ | ⟨-, h⟩ <;> rw [h] <;> rfl

/-- A document in which a line feed at the end of a section makes no break of two characters, unless
there is one already. -/
def Settled : Prop :=
  Unbroken d.write →
    ∀ kind : EntryKind, (writeRow (rowAt kind.sectionPath d.content)).getLast? ≠ some '\r'

end ProjectDocument

theorem sectionPath_ne_nil
    (kind : EntryKind) :
    kind.sectionPath ≠ [] := by
  cases kind <;> exact List.cons_ne_nil _ _

namespace Step

variable {l : Layout}
variable {hl : l.IsBlank}
variable {n root root' : Node}
variable {path : List String}
variable {front back : List Char}

/-- The first child of the project is where it was, or it is new and indented as a new child. -/
theorem firstIndent?_eq
    (h : Step l hl n path front back root root')
    (hpath : path ≠ [])
    (hlast : l.newline.getLast? = some '\n')
    (hunit : l.unit.all indents = true) :
    root'.firstIndent? front = root.firstIndent? front ∨
      root'.firstIndent? front = some (l.indentBelow front root) := by
  cases h with
  | entry reached put inside around rendered same =>
      left
      rcases reached.lead?_eq put.name?_eq with ⟨-, -, -, hend⟩ | hlead
      · exact absurd hend hpath
      · rw [Node.firstIndent?, hlead, Node.firstIndent?]
  | created reached put inside around missing rendered named names same grown housed =>
      rcases reached.lead?_eq put.name?_eq with ⟨rfl, rfl, rfl, -⟩ | hlead
      · have helem := Node.isElement_of_isNamed named
        have hinside := all_indents_indentBelow hunit front root
        rw [← inside] at hinside ⊢
        exact put.firstIndent?_eq helem hlast hinside front
      · left
        rw [Node.firstIndent?, hlead, Node.firstIndent?]

/-- The line break of the layout is in the document after a step. -/
theorem newline_within
    (h : Step l hl n path front back root root') :
    l.newline <:+: front ++ (root'.write ++ back) := by
  cases h with
  | @entry t t' x front' back' _ _ _ _ reached put inside around rendered same =>
      rw [← reached.written]
      exact put.newline_within.trans ⟨front', back', by simp⟩
  | @created t t' s x name rest front' back' _ _ _ _ reached put inside around missing rendered
      named names same grown housed =>
      rw [← reached.written]
      exact put.newline_within.trans ⟨front', back', by simp⟩

/-- A step makes no break of two characters. -/
theorem unbroken
    (h : Step l hl n path front back root root')
    (hn : n.isElement = true)
    (hfeed : l.newline = ['\n'])
    (hunit : l.unit.all indents = true)
    (hend : (writeRow (rowAt path root.content)).getLast? ≠ some '\r')
    (hdoc : Unbroken (front ++ (root.write ++ back))) :
    Unbroken (front ++ (root'.write ++ back)) := by
  cases h with
  | @entry t t' x front' back' indent outer _ _ reached put inside around rendered same =>
      have hback := reached.symm put.name?_eq
      rw [hback.rowAt_eq put.name?_eq.symm, rowAt] at hend
      rw [← hback.written] at hdoc
      rw [← reached.written]
      have hinside : indent.all indents = true := inside ▸ all_indents_indentBelow hunit front' t
      have hblock := lined_renderEntry hunit hn hinside
      rw [rendered, hfeed] at hblock
      exact put.unbroken hfeed (same.isElement hn) hblock.lone hinside around hend hdoc
  | @created t t' s x name rest front' back' indent outer _ _ reached put inside around missing
      rendered named names same grown housed =>
      have hback := reached.symm put.name?_eq
      rw [← hback.written] at hdoc
      rw [← reached.written]
      have hinside : indent.all indents = true := inside ▸ all_indents_indentBelow hunit front' t
      have hblock := lined_renderChain hunit hn _ names hinside
      rw [rendered, hfeed] at hblock
      exact put.unbroken hfeed hblock.lone around hdoc

/-- The section that a step puts an entry into does not end in a carriage return. -/
theorem last_rowAt
    (h : Step l hl n path front back root root')
    (hlast : l.newline.getLast? = some '\n')
    (hunit : l.unit.all indents = true) :
    (writeRow (rowAt path root'.content)).getLast? ≠ some '\r' := by
  cases h with
  | @entry t t' x front' back' indent outer _ _ reached put inside around rendered same =>
      rw [reached.rowAt_eq put.name?_eq, rowAt]
      exact put.last_content hlast around
  | @created t t' s x name rest front' back' indent outer _ _ reached put inside around missing
      rendered named names same grown housed =>
      obtain ⟨before, after, hwas, helems⟩ :=
        put.exists_elements_eq (Node.isElement_of_isNamed named)
      have hfirst := fun m hm => missing m (hwas ▸ List.mem_append_left _ hm)
      obtain ⟨level, inner, hinner, houter, hrow⟩ := housed
      have hinside : indent.all indents = true := inside ▸ all_indents_indentBelow hunit front' t
      rw [reached.rowAt_eq put.name?_eq, rowAt, child?_eq_some helems hfirst named]
      simp only [hrow]
      exact last_linedUp hlast (all_indents_append hinside (all_indents_repeated hunit level))

end Step

/-- A step leaves the layout as it is. -/
theorem layout_withRoot
    {d : ProjectDocument}
    {hl : d.layout.IsBlank}
    {n root' : Node}
    {kind : EntryKind}
    (h : Step d.layout hl n kind.sectionPath (writeRow d.before) (writeRow d.after) d.root root')
    (hn : n.isElement = true)
    (hsettled : d.Settled)
    (named : root'.name? = some "project") :
    (d.withRoot root' named).layout = d.layout ∧ (d.withRoot root' named).Settled := by
  have hlast := d.last_newline
  have hunit := d.all_indents_unit
  have hunbroken : Unbroken d.write → Unbroken (d.withRoot root' named).write := by
    intro hdoc
    rcases d.newline_cases with ⟨-, hfeed⟩ | ⟨hnot, -⟩
    · exact h.unbroken hn hfeed hunit (hsettled hdoc kind) hdoc
    · exact absurd hdoc hnot
  have hbroken : ¬ Unbroken d.write → ¬ Unbroken (d.withRoot root' named).write := by
    intro hnot hdoc
    rcases d.newline_cases with ⟨hyes, -⟩ | ⟨-, hpair⟩
    · exact hnot hyes
    · exact hdoc (hpair ▸ h.newline_within)
  have hunits : (d.withRoot root' named).layout.unit = d.layout.unit := by
    have hunit' : (d.withRoot root' named).layout.unit =
        unitBeyond ((indentAfter (writeRow d.before)).getD [])
          (root'.firstIndent? (writeRow d.before)) := rfl
    rw [hunit']
    rcases h.firstIndent?_eq (sectionPath_ne_nil kind) hlast hunit with hfirst | hfirst
    · rw [hfirst]
      rfl
    · rw [hfirst]
      exact unitBeyond_getD _ _
  have hnewlines : (d.withRoot root' named).layout.newline = d.layout.newline := by
    rcases d.newline_cases with ⟨hdoc, hfeed⟩ | ⟨hnot, hpair⟩ <;>
      rcases (d.withRoot root' named).newline_cases with ⟨hdoc', hfeed'⟩ | ⟨hnot', hpair'⟩
    · rw [hfeed, hfeed']
    · exact absurd (hunbroken hdoc) hnot'
    · exact absurd hdoc' (hbroken hnot)
    · rw [hpair, hpair']
  refine ⟨?_, fun hdoc other => ?_⟩
  · have hparts : ∀ l : Layout, l = ⟨l.unit, l.newline⟩ := fun _ => rfl
    rw [hparts (d.withRoot root' named).layout, hunits, hnewlines]
  · by_cases hkind : other = kind
    · subst hkind
      exact h.last_rowAt hlast hunit
    · obtain ⟨x, -, hgrown⟩ := h.exists_grown hn
      have hrow : rowAt other.sectionPath root'.content = rowAt other.sectionPath d.root.content :=
        rowAt_of_ne hgrown hkind
      have hold := hsettled (by_contra fun hnot => hbroken hnot hdoc) other
      exact fun hend => hold (hrow ▸ hend)

/-! ## A whole merge -/

/-- An entry whose text is an element that can be written. -/
def Entry.IsElement (e : Entry) : Prop :=
  ∃ n : Node, n.isElement = true ∧ e.xml.toList = n.write

theorem Entry.Written.isElement
    {e : Entry}
    (he : e.Written) :
    e.IsElement := by
  obtain ⟨n, hn, hentry⟩ := he.node
  refine ⟨n, Node.isElement_of_isNamed hn, ?_⟩
  rw [hentry]
  simp [entryOf]

/-- The number of elements in the section of each kind. -/
def sectionSizes
    (row : List Node)
    (kind : EntryKind) :
    Nat :=
  (elements (rowAt kind.sectionPath row)).length

theorem sectionSizes_grown
    {x : Node}
    {kind : EntryKind}
    {row row' : List Node}
    (h : Grown x kind.sectionPath row row') :
    sectionSizes row < sectionSizes row' := by
  have hkind : sectionSizes row' kind = sectionSizes row kind + 1 := by
    simp [sectionSizes, h.elements_rowAt]
  refine Pi.lt_def.mpr ⟨fun other => ?_, kind, by omega⟩
  by_cases hne : other = kind
  · rw [hne, hkind]
    exact Nat.le_succ _
  · simp only [sectionSizes, rowAt_of_ne h hne, le_refl]

/-- The sizes of the sections are those of the elements that are found in the written document. -/
theorem sectionSizes_eq
    (d : ProjectDocument)
    {project : Element}
    (h : Site d.write project d.root (writeRow d.before) (writeRow d.after))
    (kind : EntryKind) :
    sectionSizes d.content kind =
      match descend d.write project kind.sectionPath with
      | (section_, []) => (section_.children d.write).length
      | _ => 0 := by
  obtain ⟨te, missing, t, front, back, hdescend, htarget, hpath⟩ :=
    exists_descent kind.sectionPath h
  have hrow : rowAt kind.sectionPath d.content = rowAt missing t.content := hpath.row
  rw [hdescend, sectionSizes, hrow]
  cases missing with
  | nil =>
      rw [rowAt]
      exact htarget.represents.children.length_eq.symm
  | cons name rest =>
      rw [rowAt_eq_nil (hpath.stops name rest rfl)]
      rfl

theorem sectionSizes_congr
    {d d' : ProjectDocument}
    (h : d.write = d'.write) :
    sectionSizes d.content = sectionSizes d'.content := by
  obtain ⟨project, hproject, hsite⟩ := d.exists_site
  obtain ⟨project', hproject', hsite'⟩ := d'.exists_site
  obtain rfl : project = project' := by
    rw [h, hproject'] at hproject
    exact (Option.some.inj hproject).symm
  funext kind
  rw [sectionSizes_eq d hsite, sectionSizes_eq d' hsite', h]

/-- One step of a merge with the layout of the document: nothing, or a document with the same layout
and a larger section. -/
theorem mergeOne_layout_cases
    (d : ProjectDocument)
    (hsettled : d.Settled)
    {e : Entry}
    (he : e.IsElement) :
    mergeOne d.layout d.write e = some d.write ∨
      ∃ d' : ProjectDocument, mergeOne d.layout d.write e = some d'.write ∧ d'.layout = d.layout ∧
        d'.Settled ∧ sectionSizes d.content < sectionSizes d'.content := by
  obtain ⟨n, hn, hxml⟩ := he
  rcases exists_step d.isBlank_layout d hn hxml with ⟨-, hsame⟩ | ⟨-, root', named, hmerge, hstep⟩
  · exact Or.inl hsame
  · obtain ⟨hlayout, hafter⟩ := layout_withRoot hstep hn hsettled named
    obtain ⟨x, -, hgrown⟩ := hstep.exists_grown hn
    exact Or.inr ⟨_, hmerge, hlayout, hafter, sectionSizes_grown hgrown⟩

/-- A whole merge leaves the layout as it is. -/
theorem exists_mergeAll_layout :
    ∀ (es : List Entry) (d : ProjectDocument), d.Settled → (∀ e ∈ es, e.IsElement) →
      ∃ d' : ProjectDocument, mergeAll d.layout d.write es = some d'.write ∧
        d'.layout = d.layout ∧ d'.Settled ∧
        (d' = d ∨ sectionSizes d.content < sectionSizes d'.content)
  | [], d, hsettled, _ => ⟨d, rfl, rfl, hsettled, Or.inl rfl⟩
  | e :: rest, d, hsettled, hes => by
      have hrest : ∀ x ∈ rest, x.IsElement := fun x hx => hes x (List.mem_cons_of_mem _ hx)
      rcases mergeOne_layout_cases d hsettled (hes e List.mem_cons_self) with hsame |
        ⟨d₁, hstep, hlayout, hafter, hless⟩
      · obtain ⟨d', hmerge, hrun⟩ := exists_mergeAll_layout rest d hsettled hrest
        exact ⟨d', by simp [mergeAll, hsame, hmerge], hrun⟩
      · obtain ⟨d', hmerge, hlayout', hafter', hmore⟩ :=
          exists_mergeAll_layout rest d₁ hafter hrest
        rw [hlayout] at hmerge hlayout'
        refine ⟨d', by simp [mergeAll, hstep, hmerge], hlayout', hafter', Or.inr ?_⟩
        rcases hmore with rfl | hmore
        · exact hless
        · exact hless.trans hmore

theorem merge_eq_mergeAll
    (d : ProjectDocument)
    (es : List Entry) :
    merge d.write es = mergeAll d.layout d.write es := by
  obtain ⟨project, hproject, hsite⟩ := d.exists_site
  rw [merge, hproject, Option.bind_some, d.detect_eq hsite]

theorem mergeAll_append
    (l : Layout)
    (a b : List Entry)
    (doc : List Char) :
    mergeAll l doc (a ++ b) = (mergeAll l doc a).bind fun next => mergeAll l next b := by
  induction a generalizing doc with
  | nil => rfl
  | cons e a ih =>
      simp only [List.cons_append, mergeAll]
      cases mergeOne l doc e with
      | none => rfl
      | some next => exact ih next

/-- A merge of many entries is a merge of some of them, and a merge of the others into what comes of
it. -/
theorem exists_merge_append
    (d : ProjectDocument)
    (hsettled : d.Settled)
    {a : List Entry}
    (ha : ∀ e ∈ a, e.IsElement)
    (b : List Entry) :
    ∃ d' : ProjectDocument, merge d.write a = some d'.write ∧ d'.Settled ∧
      (d' = d ∨ sectionSizes d.content < sectionSizes d'.content) ∧
      merge d.write (a ++ b) = merge d'.write b := by
  obtain ⟨d', hmerge, hlayout, hafter, hmore⟩ := exists_mergeAll_layout a d hsettled ha
  refine ⟨d', (merge_eq_mergeAll d a).trans hmerge, hafter, hmore, ?_⟩
  rw [merge_eq_mergeAll, merge_eq_mergeAll, mergeAll_append, hmerge, Option.bind_some, hlayout]

/-! ## Documents to begin with -/

theorem content_infix_write
    (n : Node) :
    writeRow n.content <:+: n.write := by
  cases n with
  | piece p => exact List.nil_infix
  | empty name attributes => exact List.nil_infix
  | element name attributes content closing => exact infix_write_element (List.infix_refl _)

theorem writeRow_rowAt_within
    (path : List String)
    (row : List Node) :
    writeRow (rowAt path row) <:+: writeRow row := by
  induction path generalizing row with
  | nil => exact List.infix_refl _
  | cons name rest ih =>
      rw [rowAt]
      cases hchild : child? row name with
      | none => exact List.nil_infix
      | some m =>
          have hmem : m ∈ row := (List.mem_filter.mp (List.mem_of_find?_eq_some hchild)).1
          exact ((ih m.content).trans (content_infix_write m)).trans (write_infix_of_mem hmem)

/-- A document in which a line feed stands behind every carriage return is one to begin with. -/
theorem ProjectDocument.settled_of_paired
    {d : ProjectDocument}
    (h : Paired d.write) :
    d.Settled := by
  intro hfree kind hend
  have hroot : d.root.write <:+: d.write :=
    ⟨writeRow d.before, writeRow d.after, by simp [Document.write]⟩
  have hrow := ((writeRow_rowAt_within kind.sectionPath d.content).trans
    (content_infix_write d.root)).trans hroot
  exact h.return_not_mem hfree (hrow.subset (List.mem_of_getLast? hend))

end Pom
end Runbook
