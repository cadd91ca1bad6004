import Runbook.Proofs.Pom.Losses

/-!
# What a merge keeps of a document

A merge extends a document as long as none of its steps discards something visible. Whether one
does can be told from the tree of the document and the kinds of the entries before any step is
taken: only what stands in the document itself can be lost, for what a merge writes has no attributes
and no empty content.

Main statement: `merge_extends`.
-/

namespace Runbook
namespace Pom

open Text Markup

/-! ## What can be lost -/

/-- An edit at a node, with the sections still missing below it, loses something visible. -/
def LosesAt : Node → List String → Prop
  | .piece _, _ => False
  | .empty _ attributes, _ => allBlank attributes.chars = false
  | .element _ _ content _, missing =>
      missing ≠ [] ∧ elements content = [] ∧ allBlank (writeRow content) = false

/-- An entry of a kind that is put into a project loses something visible. -/
def Loses
    (kind : EntryKind)
    (root : Node) :
    Prop :=
  LosesAt (reach kind.sectionPath root).1 (reach kind.sectionPath root).2

/-- What an edit discards where a node stands is what can be lost at the node. -/
theorem discards_iff
    {doc front back : List Char}
    {e : Element}
    {n : Node}
    (h : Site doc e n front back)
    (missing : List String) :
    Discards doc e missing ↔ LosesAt n missing := by
  have hself := h.represents.selfClosing_eq
  cases n with
  | piece p =>
      have hread := h.read
      cases hread
  | empty name attributes =>
      have hname : e.name = String.ofList name.chars := by
        have hread := h.read
        cases hread
        rfl
      have hslice := h.represents.slice?_outer
      have hbare : IsBareTag e.name (emptyTag name attributes) ↔
          allBlank attributes.chars = true := by
        simp only [IsBareTag, hname, String.toList_ofList, emptyTag, List.cons.injEq, true_and,
          List.append_cancel_left_eq, List.append_cancel_right_eq]
        constructor
        · rintro ⟨gap, hgap, rfl⟩
          exact hgap
        · intro hblank
          exact ⟨attributes.chars, hblank, rfl⟩
      have hvisible : allBlank (emptyTag name attributes) = false := by
        simp [emptyTag, Text.isBlank]
      simp [Discards, hself, Node.isEmptyTag, hslice, hvisible, hbare, LosesAt]
  | element name attributes content closing =>
      have hinner : slice? doc e.inner = some (writeRow content) := by
        obtain ⟨hstands, hstop⟩ := h.represents.inner_stands
        have hrange : e.inner = ⟨e.inner.start, e.inner.start + byteSize (writeRow content)⟩ := by
          rw [Node.content] at hstop
          rw [← hstop]
        rw [hrange]
        exact hstands.slice?_eq
      have hchildren : (e.children doc).isEmpty = true ↔ elements content = [] := by
        have hall := h.represents.children
        rw [List.isEmpty_iff]
        constructor
        · intro hnil
          rw [hnil] at hall
          exact List.forall₂_nil_left_iff.mp hall
        · intro hnil
          rw [show elements (Node.element name attributes content closing).content = [] from hnil]
            at hall
          exact List.forall₂_nil_right_iff.mp hall
      simp only [Discards, hself, Node.isEmptyTag, LosesAt, hinner, hchildren]
      simp

/-! ## After a step -/

/-- A row that has grown has elements. -/
theorem Grown.elements_ne_nil
    {x : Node}
    {path : List String}
    {row row' : List Node}
    (h : Grown x path row row') :
    elements row' ≠ [] := by
  cases h with
  | last grown => simp [grown]
  | within was first named kept below grown => simp [grown]
  | created was missing named below grown => simp [grown]

/-- Nothing is lost at a node with elements in it, where a path ends. -/
theorem not_losesAt_of_elements
    {n : Node}
    (h : elements n.content ≠ []) :
    ∀ missing, ¬ LosesAt n missing := by
  intro missing hloses
  cases n with
  | piece p => exact hloses
  | empty name attributes => exact h rfl
  | element name attributes content closing => exact h hloses.2.1

/-- A path leads through to the element that has grown. -/
theorem Grown.exists_reach
    {x : Node}
    {path : List String}
    {row row' : List Node}
    (h : Grown x path row row') :
    ∀ n : Node, n.content = row' →
      ∃ t, reach path n = (t, []) ∧ elements t.content ≠ [] := by
  induction h with
  | last grown =>
      rintro n rfl
      exact ⟨n, rfl, by simp [grown]⟩
  | within was first named kept below grown ih =>
      rename_i rest row row' before after m m'
      rintro n rfl
      obtain ⟨t, ht, hne⟩ := ih m' rfl
      refine ⟨t, ?_, hne⟩
      rw [reach, child?_eq_some grown first kept]
      exact ht
  | created was missing named below grown ih =>
      rename_i rest row row' before after m
      rintro n rfl
      obtain ⟨t, ht, hne⟩ := ih m rfl
      refine ⟨t, ?_, hne⟩
      have hfirst := fun k hk => missing k (was ▸ List.mem_append_left _ hk)
      rw [reach, child?_eq_some grown hfirst named]
      exact ht

/-- Where an entry has been put nothing can be lost by another one. -/
theorem not_loses_of_grown
    {x n : Node}
    {kind : EntryKind}
    {row : List Node}
    (h : Grown x kind.sectionPath row n.content) :
    ¬ Loses kind n := by
  obtain ⟨t, ht, hne⟩ := h.exists_reach n rfl
  rw [Loses, ht]
  exact not_losesAt_of_elements hne []

/-- What the other kinds can lose is the same after a step that has lost nothing. -/
theorem loses_iff_of_grown
    {x n n' : Node}
    {kind other : EntryKind}
    (h : Grown x kind.sectionPath n.content n'.content)
    (hkeeps : ¬ Loses kind n)
    (hne : other ≠ kind) :
    Loses other n' ↔ Loses other n := by
  obtain ⟨name, rest, hpath⟩ : ∃ name rest, kind.sectionPath = name :: rest := by
    cases kind <;> exact ⟨_, _, rfl⟩
  obtain ⟨name', rest', hpath'⟩ : ∃ name' rest', other.sectionPath = name' :: rest' := by
    cases other <;> exact ⟨_, _, rfl⟩
  have hnames : name' ≠ name := by
    cases kind <;> cases other <;>
      first
        | exact absurd rfl hne
        | (cases hpath; cases hpath'; decide)
  have hgrown := h.elements_ne_nil
  rw [hpath] at h
  have hchild := h.child?_of_ne hnames
  simp only [Loses, hpath, hpath', reach] at hkeeps ⊢
  rw [hchild]
  cases hc : child? n.content name' with
  | some m => rfl
  | none =>
      refine iff_of_false (not_losesAt_of_elements hgrown _) fun hloses => hkeeps ?_
      -- Whatever is lost at the project itself is lost by every kind.
      cases n with
      | piece p => exact hloses.elim
      | empty nm attributes => exact hloses
      | element nm attributes content closing =>
          have hnone : child? content name = none := by
            simp [child?, hloses.2.1]
          simp only [Node.content, hnone]
          exact ⟨by simp, hloses.2⟩

/-! ## Steps on a project document -/

/-- A step discards something exactly when an entry of its kind loses something. -/
theorem stepDiscards_iff
    (l : Layout)
    (d : ProjectDocument)
    (e : Entry) :
    StepDiscards l d.write e ↔ Loses e.kind d.root := by
  obtain ⟨project, hproject, -, hread⟩ := d.project?_write
  have hsite : Site d.write project d.root (writeRow d.before) (writeRow d.after) := ⟨rfl, hread⟩
  obtain ⟨te, missing, t, front, back, hdescend, htarget, hpath⟩ :=
    exists_descent e.kind.sectionPath hsite
  have hloses : Loses e.kind d.root ↔ LosesAt t missing := by
    rw [Loses, hpath.reached]
  rw [hloses, ← discards_iff htarget missing]
  constructor
  · rintro ⟨project', parent, missing', hproject', hdescend', -, hdiscards⟩
    cases hproject.symm.trans hproject'
    cases hdescend.symm.trans hdescend'
    exact hdiscards
  · intro hdiscards
    refine ⟨project, te, missing, hproject, hdescend, ?_, hdiscards⟩
    cases missing with
    | cons name rest => simp [editFor, hdescend]
    | nil =>
        -- A section with the key has an element, and then nothing is discarded.
        have hnone : sectionHas d.write te e = false := by
          by_contra hhas
          rw [Bool.not_eq_false, sectionHas, List.any_eq_true] at hhas
          obtain ⟨child, hchild, -⟩ := hhas
          have hchildren : te.children d.write ≠ [] :=
            List.ne_nil_of_mem (List.mem_of_mem_filter hchild)
          have hne : elements t.content ≠ [] := by
            intro hnil
            have hall := htarget.represents.children
            rw [hnil] at hall
            exact hchildren (List.forall₂_nil_right_iff.mp hall)
          exact not_losesAt_of_elements hne [] ((discards_iff htarget []).mp hdiscards)
        simp [editFor, hdescend, hnone]

/-- No step discards anything exactly when no entry, put into the document as it is given, loses
something. -/
theorem allSteps_iff
    {l : Layout}
    (hl : l.IsBlank) :
    ∀ (es : List Entry) (d : ProjectDocument), (∀ e ∈ es, e.Written) →
      (AllSteps l (fun doc e => ¬ StepDiscards l doc e) d.write es ↔
        ∀ e ∈ es, ¬ Loses e.kind d.root)
  | [], d, _ => by simp [AllSteps]
  | e :: rest, d, hes => by
      have hrest : ∀ x ∈ rest, x.Written := fun x hx => hes x (List.mem_cons_of_mem _ hx)
      obtain ⟨n, hn, hentry⟩ := (hes e (by simp)).node
      have hxml : e.xml.toList = n.write := by
        rw [hentry]
        simp [entryOf]
      rw [AllSteps, List.forall_mem_cons, stepDiscards_iff l d e]
      refine and_congr_right fun hkeeps => ?_
      rcases mergeOne_cases hl d hn hxml with ⟨-, hsame⟩ | ⟨-, d', x, hd', -, hgrown⟩
      · simpa [hsame] using allSteps_iff hl rest d hrest
      · have hafter : ∀ y : Entry, Loses y.kind d'.root ↔ Loses y.kind d.root := by
          intro y
          by_cases hkind : y.kind = e.kind
          · rw [hkind]
            exact iff_of_false (not_loses_of_grown hgrown) hkeeps
          · exact loses_iff_of_grown hgrown hkeeps hkind
        have ih := allSteps_iff hl rest d' hrest
        simp only [hafter] at ih
        simpa [hd'] using ih

/-! ## A whole merge -/

/-- No step of a merge discards anything visible. -/
def NothingDiscarded
    (doc : List Char)
    (es : List Entry) :
    Prop :=
  ∀ project, project? doc = some project →
    AllSteps (Layout.detect doc project)
      (fun next e => ¬ StepDiscards (Layout.detect doc project) next e) doc es

/-- Every edit of a merge keeps what it replaces. -/
def EveryEditKeeps
    (doc : List Char)
    (es : List Entry) :
    Prop :=
  ∀ project, project? doc = some project →
    AllSteps (Layout.detect doc project) (StepKeeps (Layout.detect doc project)) doc es

/-- A merge of any entries extends a project document when none of its steps discards anything,
that is, when every edit keeps what it replaces. For entries that can be written this is the case
exactly when no section they go to is an empty tag with attributes, or is missing below an element
that has visible content but no children. -/
theorem merge_extends
    (d : ProjectDocument)
    (es : List Entry)
    {out : List Char}
    (h : merge d.write es = some out) :
    (NothingDiscarded d.write es ↔ EveryEditKeeps d.write es) ∧
      (NothingDiscarded d.write es →
        Extended d.write out ∧ (visible d.write).Sublist (visible out)) ∧
      ((∀ e ∈ es, e.Proper) →
        (NothingDiscarded d.write es ↔ ∀ e ∈ es, ¬ Loses e.kind d.root)) := by
  obtain ⟨project, hproject, -, -⟩ := d.project?_write
  have hl := isBlank_detect d.write project
  have hmerge : mergeAll (Layout.detect d.write project) d.write es = some out := by
    simpa [merge, hproject] using h
  have hsteps : NothingDiscarded d.write es ↔ EveryEditKeeps d.write es := by
    refine forall_congr' fun other => imp_congr_right fun _ => ?_
    exact allSteps_congr (fun doc e => (stepKeeps_iff (isBlank_detect _ _) doc e).symm) es d.write
  refine ⟨hsteps, fun hnothing => ?_, fun hes => ?_⟩
  · have hkeeps := hsteps.mp hnothing project hproject
    have hextended := extended_mergeAll es d.write Extended.same hkeeps hmerge
    exact ⟨hextended, hextended.visible_sublist⟩
  · have hiff := allSteps_iff hl es d fun e he => (hes e he).written
    constructor
    · intro hnothing
      exact hiff.mp (hnothing project hproject)
    · intro hkeeps other hother
      cases hproject.symm.trans hother
      exact hiff.mpr hkeeps

theorem merge_extends_small :
    ∃ out, merge smallProject.write [smallEntry] = some out ∧
      NothingDiscarded smallProject.write [smallEntry] ∧ Extended smallProject.write out ∧
      (visible smallProject.write).Sublist (visible out) := by
  have hproper : ∀ e ∈ [smallEntry], e.Proper := by
    intro e he
    rw [List.mem_singleton.mp he]
    exact proper_smallEntry
  have hkeeps : ∀ e ∈ [smallEntry], ¬ Loses e.kind smallProject.root := by
    intro e he hloses
    rw [List.mem_singleton.mp he] at hloses
    cases hloses
  obtain ⟨l, hl, hmerge⟩ := merge_write smallProject [smallEntry]
  obtain ⟨d', hd', -⟩ :=
    exists_mergeAll hl [smallEntry] smallProject fun e he => (hproper e he).written
  obtain ⟨-, hextends, hnothing⟩ := merge_extends smallProject [smallEntry] (hmerge.trans hd')
  have hdiscards := (hnothing hproper).mpr hkeeps
  exact ⟨d'.write, hmerge.trans hd', hdiscards, hextends hdiscards⟩

end Pom
end Runbook
