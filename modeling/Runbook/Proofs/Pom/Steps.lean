import Runbook.Proofs.Pom.Insertion
import Runbook.Proofs.Pom.Outline

/-!
# Steps of a merge

One step of a merge leaves a document whose section has the key of the entry as it is, and makes any
other document grow by the entry. A whole merge therefore keeps what was there, and in the end each
section has the keys of all entries that were merged into it.

A merge of one entry leaves a project document as it is exactly when the section of the entry has
its key. This holds for any text of the entry: every edit that is planned changes the document.

Main statements: `mergeOne_cases`, `exists_mergeAll` and `mergeOne_eq_self_iff`.
-/

namespace Runbook
namespace Pom

open Text Markup

/-! ## Entries that can be written -/

namespace Entry

/-- The texts of the fields of an entry. -/
def texts (e : Entry) : List String :=
  [e.groupId, e.artifactId, e.version, e.scope, e.packaging, e.classifier, e.id, e.url].filterMap
    fun field : Option String => field

theorem mem_texts
    {e : Entry}
    {v : String} :
    v ∈ e.texts ↔
      some v ∈ [e.groupId, e.artifactId, e.version, e.scope, e.packaging, e.classifier, e.id,
        e.url] := by
  simp only [texts, List.mem_filterMap, exists_eq_right]

/-- No field of an entry holds a line feed. -/
def OneLine (e : Entry) : Prop :=
  ∀ v ∈ e.texts, '\n' ∉ v.toList

/-- A complete entry whose text is an element of its kind that says what its fields say. -/
structure Written (e : Entry) : Prop where
  oneLine : e.OneLine
  complete : e.missing? = none
  node : ∃ n : Node, n.isNamed e.kind.element = true ∧ e = entryOf e.kind n

/-- Two entries with the same fields; their texts may differ. -/
def Agrees (e e' : Entry) : Prop :=
  { e' with xml := e.xml } = e

namespace Agrees

variable {e e' : Entry}

theorem kind_eq
    (h : e.Agrees e') :
    e'.kind = e.kind := by
  rw [← h]

theorem key_eq
    (h : e.Agrees e') :
    e'.key = e.key := by
  rw [← h]
  rfl

theorem missing?_eq
    (h : e.Agrees e') :
    e'.missing? = e.missing? := by
  rw [← h]
  rfl

theorem artifact_eq
    (h : e.Agrees e') :
    e'.artifact = e.artifact := by
  rw [← h]
  rfl

theorem repository_eq
    (h : e.Agrees e') :
    e'.repository = e.repository := by
  rw [← h]
  rfl

end Agrees

end Entry

theorem Model.add_congr
    {e e' : Entry}
    (h : e.Agrees e')
    (m : Model) :
    m.add e' = m.add e := by
  simp only [Model.add, h.kind_eq, h.artifact_eq, h.repository_eq]

/-- An element with the same fields is the same entry, with another text. -/
theorem agrees_of_sameFields
    {n x : Node}
    (h : SameFields n x)
    {kind : EntryKind}
    (hline : (entryOf kind n).OneLine) :
    (entryOf kind n).Agrees (entryOf kind x) := by
  have hfield : ∀ name, (∀ v, field? n.content name = some v → v ∈ (entryOf kind n).texts) →
      field? x.content name = field? n.content name :=
    fun name hmem => h.2 name fun v hv => hline v (hmem v hv)
  simp only [Entry.Agrees, entryOf, Entry.mk.injEq, true_and, and_true]
  refine ⟨hfield _ ?_, hfield _ ?_, hfield _ ?_, hfield _ ?_, hfield _ ?_, hfield _ ?_,
    hfield _ ?_, hfield _ ?_⟩ <;>
    · intro v hv
      refine Entry.mem_texts.mpr ?_
      simp [entryOf, hv]

/-! ## One step -/

/-- The keys that a section has. -/
def keysOf
    (row : List Node)
    (kind : EntryKind) :
    List String :=
  (sectionEntries kind row).map Entry.key

namespace ProjectDocument

/-- The document with another project element. -/
def withRoot
    (d : ProjectDocument)
    (root : Node)
    (named : root.name? = some "project") :
    ProjectDocument where
  before := d.before
  root := root
  after := d.after
  before_plain := d.before_plain
  root_element := by simp [Node.isElement, named]
  after_plain := d.after_plain
  named := named

theorem write_withRoot
    (d : ProjectDocument)
    (root : Node)
    (named : root.name? = some "project") :
    (d.withRoot root named).write = writeRow d.before ++ (root.write ++ writeRow d.after) := by
  rfl

end ProjectDocument

/-- Where a path ends early there is nothing. -/
theorem rowAt_eq_nil
    {row : List Node}
    {name : String}
    (h : ∀ m ∈ elements row, m.isNamed name = false)
    (rest : List String) :
    rowAt (name :: rest) row = [] := by
  rw [rowAt, child?_eq_none h]

namespace Descent

variable {doc front back front' back' : List Char}
variable {n t : Node}

/-- Where the path of a kind is there, the section at its end has the keys of the kind. -/
theorem sectionHas_eq
    {e : Entry}
    {te : Element}
    (hpath : Descent e.kind.sectionPath [] n front back t front' back')
    (htarget : Site doc te t front' back') :
    sectionHas doc te e = decide (e.key ∈ keysOf n.content e.kind) := by
  rw [Pom.sectionHas_eq htarget.represents, keysOf, sectionEntries, hpath.row]
  simp [rowAt, List.any_eq]

/-- Where the path of a kind is not there, the kind has no keys. -/
theorem keysOf_eq_nil
    {kind : EntryKind}
    {name : String}
    {rest : List String}
    (hpath : Descent kind.sectionPath (name :: rest) n front back t front' back') :
    keysOf n.content kind = [] := by
  rw [keysOf, sectionEntries, hpath.row, rowAt_eq_nil (hpath.stops name rest rfl)]
  rfl

end Descent

/-- What a step that changes a document makes of its root, for an entry that is written like a node.
Where the path of the kind ends the entry is appended; where a section is missing it is put among the
children of the last element that is there, with the entry inside. -/
inductive Step (l : Layout) (hl : l.IsBlank) (n : Node) (path : List String)
    (front back : List Char) (root root' : Node) : Prop
  | entry {t t' x : Node} {front' back' indent outer : List Char}
      {hindent : allBlank indent = true} {houter : allBlank outer = true}
      (reached : Replaced [] t t' front' back' path root root' front back)
      (put : Appended l hl x hindent houter t t')
      (inside : indent = l.indentBelow front' t)
      (around : outer.all indents = true)
      (rendered : l.renderEntry n.write indent = indent ++ x.write)
      (same : SameFields n x)
  | created {t t' s x : Node} {name : String} {rest : List String}
      {front' back' indent outer : List Char}
      {hindent : allBlank indent = true} {houter : allBlank outer = true}
      (reached : Replaced (name :: rest) t t' front' back' path root root' front back)
      (put : Sectioned l hl s hindent houter t t')
      (inside : indent = l.indentBelow front' t)
      (around : outer.all indents = true)
      (missing : ∀ m ∈ elements t.content, m.isNamed name = false)
      (rendered : l.renderChain n.write (name :: rest) indent = indent ++ s.write)
      (named : s.isNamed name = true)
      (names : ∀ other ∈ name :: rest, isName other.toList = true)
      (same : SameFields n x)
      (grown : Grown x rest [] s.content)
      (housed : Housed l hl x indent (rowAt rest s.content))

/-- A step that changes a document makes it grow by the entry. -/
theorem Step.exists_grown
    {l : Layout}
    {hl : l.IsBlank}
    {n root root' : Node}
    {path : List String}
    {front back : List Char}
    (h : Step l hl n path front back root root')
    (hn : n.isElement = true) :
    ∃ x, SameFields n x ∧ Grown x path root.content root'.content := by
  cases h with
  | @entry t t' x _ _ _ _ _ _ reached put inside around rendered same =>
      have hx := same.isElement hn
      exact ⟨x, same, reached.grown put.name?_eq (Grown.last (put.elements_eq hx))⟩
  | @created t t' s x _ _ _ _ _ _ _ _ reached put inside around missing rendered named names same
      grown housed =>
      obtain ⟨before, after, hwas, helems⟩ :=
        put.exists_elements_eq (Node.isElement_of_isNamed named)
      exact ⟨x, same,
        reached.grown put.name?_eq (Grown.created hwas missing named grown helems)⟩

theorem all_indents_lineIndent
    (doc : List Char)
    (offset : Nat) :
    ((lineIndent doc offset).getD []).all indents = true := by
  cases h : lineIndent doc offset with
  | none => rfl
  | some indent => exact all_indents_of_lineIndent h

/-- The edit that puts an entry into a document, whether its key is there or not. -/
def placement
    (l : Layout)
    (doc : List Char)
    (project : Element)
    (entry : Entry) :
    Edit :=
  match descend doc project entry.kind.sectionPath with
  | (parent, name :: rest) =>
      sectionEdit l doc parent name
        (l.renderChain entry.xml.toList (name :: rest) (l.childIndent doc parent))
  | (parent, []) =>
      entryEdit l doc parent (l.renderEntry entry.xml.toList (l.childIndent doc parent))

/-- A merge puts an entry into a document unless it finds the section with the key. -/
theorem editFor_eq
    (l : Layout)
    (doc : List Char)
    (project : Element)
    (entry : Entry) :
    editFor l doc project entry =
      if (descend doc project entry.kind.sectionPath).2 = [] ∧
          sectionHas doc (descend doc project entry.kind.sectionPath).1 entry = true then
        none
      else
        some (placement l doc project entry) := by
  rw [editFor, placement]
  rcases descend doc project entry.kind.sectionPath with ⟨parent, _ | ⟨name, rest⟩⟩
  · simp
  · simp

/-- An element that is put into a document makes a document of it again. -/
theorem exists_placement
    {l : Layout}
    (hl : l.IsBlank)
    (d : ProjectDocument)
    {e : Entry}
    {n : Node}
    {project : Element}
    (hn : n.isElement = true)
    (hxml : e.xml.toList = n.write)
    (hsite : Site d.write project d.root (writeRow d.before) (writeRow d.after)) :
    ∃ (root' : Node) (named : root'.name? = some "project"),
      (placement l d.write project e).apply d.write = (d.withRoot root' named).write ∧
      Step l hl n e.kind.sectionPath (writeRow d.before) (writeRow d.after) d.root root' := by
  obtain ⟨te, missing, t, front, back, hdescend, htarget, hpath⟩ :=
    exists_descent e.kind.sectionPath hsite
  have hindent := allBlank_childIndent hl d.write te
  have hinside := childIndent_eq htarget l
  have haround := all_indents_lineIndent d.write te.outer.start
  cases missing with
  | nil =>
      obtain ⟨x, hx, hsame⟩ := exists_renderEntry hl hn hindent
      obtain ⟨t', happly, hput⟩ := exists_entryEdit hl htarget hindent x
      obtain ⟨root', hreached⟩ := hpath.lift t'
      have hname := (hreached.name?_eq hput.name?_eq).trans d.named
      refine ⟨root', hname, ?_, Step.entry hreached hput hinside haround hx hsame⟩
      rw [hreached.written, ← d.write_withRoot root' hname] at happly
      simp [placement, hdescend, hxml, hx, happly]
  | cons name rest =>
      have hnone := hpath.stops name rest rfl
      have hnames : ∀ s ∈ name :: rest, isName s.toList = true := fun s hs =>
        isName_of_mem_sectionPath (hpath.names s hs)
      obtain ⟨s, x, hchain, hs, hsame, hbelow, hhoused⟩ :=
        exists_renderChain hl hn rest name _ hnames hindent
      obtain ⟨t', happly, hput⟩ := exists_sectionEdit hl htarget hindent hs
      obtain ⟨root', hreached⟩ := hpath.lift t'
      have hname := (hreached.name?_eq hput.name?_eq).trans d.named
      refine ⟨root', hname, ?_, Step.created hreached hput hinside haround hnone hchain hs
        hnames hsame hbelow hhoused⟩
      rw [hreached.written, ← d.write_withRoot root' hname] at happly
      simp [placement, hdescend, hxml, hchain, happly]

/-- One step of a merge: nothing where the section has the key, and else the entry is put there. -/
theorem exists_step
    {l : Layout}
    (hl : l.IsBlank)
    (d : ProjectDocument)
    {e : Entry}
    {n : Node}
    (hn : n.isElement = true)
    (hxml : e.xml.toList = n.write) :
    (e.key ∈ keysOf d.content e.kind ∧ mergeOne l d.write e = some d.write) ∨
      (e.key ∉ keysOf d.content e.kind ∧ ∃ (root' : Node) (named : root'.name? = some "project"),
        mergeOne l d.write e = some (d.withRoot root' named).write ∧
        Step l hl n e.kind.sectionPath (writeRow d.before) (writeRow d.after) d.root root') := by
  obtain ⟨project, hproject, hsite⟩ := d.exists_site
  obtain ⟨te, missing, t, front, back, hdescend, htarget, hpath⟩ :=
    exists_descent e.kind.sectionPath hsite
  obtain ⟨root', hname, hplaced, hstep⟩ := exists_placement hl d hn hxml hsite
  cases missing with
  | nil =>
      have hhas : sectionHas d.write te e = decide (e.key ∈ keysOf d.content e.kind) :=
        hpath.sectionHas_eq htarget
      by_cases hkey : e.key ∈ keysOf d.content e.kind
      · left
        refine ⟨hkey, ?_⟩
        simp [mergeOne, hproject, editFor_eq, hdescend, hhas, hkey]
      · right
        refine ⟨hkey, root', hname, ?_, hstep⟩
        simp [mergeOne, hproject, editFor_eq, hdescend, hhas, hkey, hplaced]
  | cons name rest =>
      have hkey : e.key ∉ keysOf d.content e.kind := by
        rw [show keysOf d.content e.kind = [] from hpath.keysOf_eq_nil]
        simp
      right
      refine ⟨hkey, root', hname, ?_, hstep⟩
      simp [mergeOne, hproject, editFor_eq, hdescend, hplaced]

/-- One step of a merge: nothing where the section has the key, and growth by the entry else. -/
theorem mergeOne_cases
    {l : Layout}
    (hl : l.IsBlank)
    (d : ProjectDocument)
    {e : Entry}
    {n : Node}
    (hn : n.isNamed e.kind.element = true)
    (hxml : e.xml.toList = n.write) :
    (e.key ∈ keysOf d.content e.kind ∧ mergeOne l d.write e = some d.write) ∨
      (e.key ∉ keysOf d.content e.kind ∧ ∃ (d' : ProjectDocument) (x : Node),
        mergeOne l d.write e = some d'.write ∧ SameFields n x ∧
        Grown x e.kind.sectionPath d.content d'.content) := by
  have helem := Node.isElement_of_isNamed hn
  rcases exists_step hl d helem hxml with hsame | ⟨hkey, root', named, hmerge, hstep⟩
  · exact Or.inl hsame
  · obtain ⟨x, hsame, hgrown⟩ := hstep.exists_grown helem
    exact Or.inr ⟨hkey, d.withRoot root' named, x, hmerge, hsame, hgrown⟩

/-- The keys of the sections after an entry has been put into its own. -/
def withKey
    (keys : EntryKind → List String)
    (e : Entry) :
    EntryKind → List String :=
  Function.update keys e.kind (keys e.kind ++ [e.key])

theorem keysOf_grown
    {row row' : List Node}
    {e : Entry}
    {x : Node}
    (h : Grown x e.kind.sectionPath row row')
    (hx : x.isNamed e.kind.element = true)
    (hkey : (entryOf e.kind x).key = e.key) :
    keysOf row' = withKey (keysOf row) e := by
  funext kind
  by_cases hkind : kind = e.kind
  · subst hkind
    simp [keysOf, withKey, sectionEntries_grown h hx, hkey]
  · simp [keysOf, withKey, hkind, sectionEntries_of_ne h hkind]

section Steps

variable {l : Layout}
variable {e : Entry}

/-- An entry whose key is there changes nothing. -/
theorem mergeOne_of_mem
    (hl : l.IsBlank)
    (he : e.Written)
    (d : ProjectDocument)
    (hkey : e.key ∈ keysOf d.content e.kind) :
    mergeOne l d.write e = some d.write := by
  obtain ⟨n, hn, hentry⟩ := he.node
  have hxml : e.xml.toList = n.write := by
    rw [hentry]
    simp [entryOf]
  rcases mergeOne_cases hl d hn hxml with ⟨-, hsame⟩ | ⟨hnot, -⟩
  · exact hsame
  · exact absurd hkey hnot

/-- An entry whose key is not there is added to the model, and its key to its section. -/
theorem exists_mergeOne_of_not_mem
    (hl : l.IsBlank)
    (he : e.Written)
    (d : ProjectDocument)
    (hkey : e.key ∉ keysOf d.content e.kind) :
    ∃ d' : ProjectDocument, mergeOne l d.write e = some d'.write ∧
      modelOf d'.content = (modelOf d.content).add e ∧
      keysOf d'.content = withKey (keysOf d.content) e := by
  obtain ⟨n, hn, hentry⟩ := he.node
  have hxml : e.xml.toList = n.write := by
    rw [hentry]
    simp [entryOf]
  rcases mergeOne_cases hl d hn hxml with ⟨hmem, -⟩ | ⟨-, d', x, hd', hsame, hgrown⟩
  · exact absurd hmem hkey
  · have hx : x.isNamed e.kind.element = true := by
      simpa [Node.isNamed, hsame.1] using hn
    have hline := he.oneLine
    rw [hentry] at hline
    have hagrees := agrees_of_sameFields hsame hline
    rw [← hentry] at hagrees
    have hcomplete := hagrees.missing?_eq.trans he.complete
    refine ⟨d', hd', ?_, keysOf_grown hgrown hx hagrees.key_eq⟩
    rw [modelOf_grown hgrown hx hcomplete, Model.add_congr hagrees]

end Steps

/-! ## All steps -/

/-- The model with entries appended to the lists of their kinds, one after another, each where its
key is not among the keys of its section. -/
def Model.addMissing
    (m : Model)
    (keys : EntryKind → List String) :
    List Entry → Model
  | [] => m
  | e :: rest =>
      if e.key ∈ keys e.kind then
        m.addMissing keys rest
      else
        (m.add e).addMissing (withKey keys e) rest

/-- A merge makes a project document of a project document. Its model has the missing entries
appended, no key is lost, and every entry has its key in its section. -/
theorem exists_mergeAll
    {l : Layout}
    (hl : l.IsBlank) :
    ∀ (es : List Entry) (d : ProjectDocument), (∀ e ∈ es, e.Written) →
      ∃ d' : ProjectDocument, mergeAll l d.write es = some d'.write ∧
        modelOf d'.content = (modelOf d.content).addMissing (keysOf d.content) es ∧
        (∀ kind, keysOf d.content kind ⊆ keysOf d'.content kind) ∧
        ∀ e ∈ es, e.key ∈ keysOf d'.content e.kind
  | [], d, _ => ⟨d, rfl, rfl, fun _ _ hk => hk, by simp⟩
  | e :: rest, d, hes => by
      have he := hes e (by simp)
      have hrest : ∀ x ∈ rest, x.Written := fun x hx => hes x (List.mem_cons_of_mem _ hx)
      by_cases hkey : e.key ∈ keysOf d.content e.kind
      · have hstep := mergeOne_of_mem hl he d hkey
        obtain ⟨d', hmerge, hmodel, hkept, hall⟩ := exists_mergeAll hl rest d hrest
        refine ⟨d', by simp [mergeAll, hstep, hmerge], ?_, hkept, ?_⟩
        · rw [hmodel, Model.addMissing, if_pos hkey]
        · intro x hx
          rcases List.mem_cons.mp hx with rfl | hx
          · exact hkept _ hkey
          · exact hall x hx
      · obtain ⟨d₁, hstep, hadd, hkeys⟩ := exists_mergeOne_of_not_mem hl he d hkey
        obtain ⟨d', hmerge, hmodel, hkept, hall⟩ := exists_mergeAll hl rest d₁ hrest
        have hgrown : ∀ kind, keysOf d.content kind ⊆ keysOf d₁.content kind := by
          intro kind k hk
          rw [hkeys, withKey]
          by_cases hkind : kind = e.kind
          · subst hkind
            simp [hk]
          · simpa [hkind] using hk
        refine ⟨d', by simp [mergeAll, hstep, hmerge], ?_,
          fun kind => List.Subset.trans (hgrown kind) (hkept kind), ?_⟩
        · rw [hmodel, hadd, hkeys, Model.addMissing, if_neg hkey]
        · intro x hx
          rcases List.mem_cons.mp hx with rfl | hx
          · refine hkept _ ?_
            rw [hkeys]
            simp [withKey]
          · exact hall x hx

/-- Entries whose keys are all there change nothing. -/
theorem mergeAll_of_mem
    {l : Layout}
    (hl : l.IsBlank)
    (d : ProjectDocument) :
    ∀ es : List Entry, (∀ e ∈ es, e.Written ∧ e.key ∈ keysOf d.content e.kind) →
      mergeAll l d.write es = some d.write
  | [], _ => rfl
  | e :: rest, h => by
      obtain ⟨he, hkey⟩ := h e (by simp)
      have hstep := mergeOne_of_mem hl he d hkey
      have hrest := mergeAll_of_mem hl d rest fun x hx => h x (List.mem_cons_of_mem _ hx)
      simp [mergeAll, hstep, hrest]

/-- The layout of a merge is read from the document that is given. -/
theorem merge_write
    (d : ProjectDocument)
    (es : List Entry) :
    ∃ l : Layout, l.IsBlank ∧ merge d.write es = mergeAll l d.write es := by
  obtain ⟨project, hproject, -, -⟩ := d.project?_write
  exact ⟨_, isBlank_detect d.write project, by simp [merge, hproject]⟩

/-! ## Texts without tags -/

/-- Where no element is, the first bracket begins a comment, character data or a declaration. -/
theorem eq_mark_of_elements_eq_nil
    {row : List Node}
    (h : elements row = []) :
    ∀ {u v : List Char} {c : Char}, writeRow row = u ++ '<' :: c :: v → '<' ∉ u →
      c = '!' ∨ c = '?' := by
  induction row with
  | nil =>
      intro u v c hrow _
      simp at hrow
  | cons n row ih =>
      intro u v c hrow hu
      cases n with
      | empty name attributes => simp [elements, Node.isElement, Node.name?] at h
      | element name attributes content closing =>
          simp [elements, Node.isElement, Node.name?] at h
      | piece p =>
          rw [elements_cons_piece] at h
          have hfirst : ∀ d s, (Node.piece p).write = '<' :: d :: s → (d = '!' ∨ d = '?') →
              c = '!' ∨ c = '?' := by
            intro d s hp hd
            rw [writeRow_cons, hp] at hrow
            cases u with
            | nil =>
                have hc : d = c := (List.cons_eq_cons.mp (List.cons_eq_cons.mp hrow).2).1
                exact hc ▸ hd
            | cons e u =>
                have he : '<' = e := (List.cons_eq_cons.mp hrow).1
                exact absurd (he ▸ List.mem_cons_self) hu
          cases p with
          | text s plain =>
              -- The text holds no bracket, so it lies in front of the first one.
              have hs : (Node.piece (.text s plain)).write = s := rfl
              rw [writeRow_cons, hs] at hrow
              rcases List.append_eq_append_iff.mp hrow with ⟨a, rfl, hrest⟩ | ⟨b, hcut, hrest⟩
              · exact ih h hrest fun hlt => hu (by simp [hlt])
              · cases b with
                | nil => exact ih h (u := []) hrest.symm (by simp)
                | cons d b =>
                    have hd : '<' = d := (List.cons_eq_cons.mp hrest).1
                    refine absurd ?_ plain
                    rw [hcut, ← hd]
                    simp
          | comment body open_ => exact hfirst '!' _ rfl (Or.inl rfl)
          | characterData body open_ => exact hfirst '!' _ rfl (Or.inl rfl)
          | declaration body plain => exact hfirst '?' _ rfl (Or.inr rfl)

/-! ## Edits that change the document -/

section Edits

variable {l : Layout}
variable {doc front back : List Char}
variable {e : Element}
variable {n : Node}

/-- An element around a block is not an empty tag. -/
theorem enclosed_ne_emptyTag
    (l : Layout)
    (name : Name)
    (attributes : Attributes)
    (other : String)
    (block indent : List Char) :
    enclosed l other block indent ≠ emptyTag name attributes := by
  intro h
  have hname : '<' ∉ name.chars := fun hlt => absurd (name.continues hlt) (by decide)
  simp only [enclosed, emptyTag, List.cons_append, List.cons.injEq, true_and] at h
  have hmem : '<' ∈ name.chars ++ (attributes.chars ++ ['/', '>']) := by
    rw [← h]
    simp
  simp [hname, attributes.lt_not_mem] at hmem

/-- An empty tag does not stay when it is opened. -/
theorem splice_enclosed_ne
    {name : Name}
    {attributes : Attributes}
    (h : Site doc e (.empty name attributes) front back)
    (l : Layout)
    (other : String)
    (block indent : List Char) :
    splice doc e.outer (enclosed l other block indent) ≠ doc := by
  intro heq
  rw [h.splice_outer, h.written] at heq
  exact enclosed_ne_emptyTag l name attributes other block indent
    (List.append_cancel_right (List.append_cancel_left heq))

/-- The edit for an entry changes the document, whatever the entry is. -/
theorem entryEdit_apply_ne
    (hl : l.IsBlank)
    (h : Site doc e n front back)
    (entry : List Char) :
    (entryEdit l doc e entry).apply doc ≠ doc := by
  have hself := h.represents.selfClosing_eq
  have hbreak := hl.newline.ne_nil
  cases n with
  | piece p =>
      have hread := h.read
      cases hread
  | empty name attributes =>
      have hempty : e.selfClosing = true := hself
      rw [entryEdit, if_pos hempty, Edit.apply]
      exact splice_enclosed_ne h l _ _ _
  | element name attributes content closing =>
      have hopen : ¬ e.selfClosing = true := by simp [hself, Node.isEmptyTag]
      by_cases hline : (lineIndent doc e.inner.stop).isSome = true
      · obtain ⟨content', lead, hlead, hsame, -, hstart, -⟩ := exists_line_before_closing h hline
        have hsite : Site doc e
            (.element name attributes (content' ++ ([] ++ [blankNode lead hlead])) closing)
            front back := h.congr_content (by simpa using hsame)
        rw [entryEdit, if_neg hopen, if_pos hline, hstart, Edit.apply, Edit.insertion]
        intro heq
        have hnil := (hsite.splice_text_eq_iff _).mp (by simpa using heq)
        simp [hbreak] at hnil
      · have hsite : Site doc e (.element name attributes (content ++ ([] ++ [])) closing)
            front back := h.congr_content (by simp)
        have hstop : e.inner.stop = e.inner.start + byteSize (writeRow content) :=
          h.represents.inner_stands.2
        rw [entryEdit, if_neg hopen, if_neg hline, Edit.apply, Edit.insertion, hstop]
        intro heq
        have hnil := (hsite.splice_text_eq_iff _).mp (by simpa using heq)
        simp [hbreak] at hnil

/-- The edit for a section changes the document, whatever is put into the section. -/
theorem sectionEdit_apply_ne
    (hl : l.IsBlank)
    (h : Site doc e n front back)
    {indent : List Char}
    (hindent : allBlank indent = true)
    {section_ : String}
    (hname : isName section_.toList = true)
    (inside : List Char) :
    (sectionEdit l doc e section_ (indent ++ '<' :: (section_.toList ++ inside))).apply doc ≠
      doc := by
  have hself := h.represents.selfClosing_eq
  have hbreak := hl.newline.ne_nil
  cases n with
  | piece p =>
      have hread := h.read
      cases hread
  | empty name attributes =>
      have hempty : e.selfClosing = true := hself
      rw [sectionEdit, if_pos hempty, Edit.apply]
      exact splice_enclosed_ne h l _ _ _
  | element name attributes content closing =>
      have hopen : ¬ e.selfClosing = true := by simp [hself, Node.isEmptyTag]
      by_cases hchildren : (e.children doc).isEmpty = true
      · have hnone : elements content = [] := by
          have hall := h.represents.children
          rw [List.isEmpty_iff.mp hchildren] at hall
          exact List.forall₂_nil_left_iff.mp hall
        have hsite : Site doc e (.element name attributes ([] ++ (content ++ [])) closing)
            front back := h.congr_content (by simp)
        have hinner :
            e.inner = ⟨e.inner.start, e.inner.start + byteSize (writeRow content)⟩ := by
          have hstop := h.represents.inner_stands.2
          rw [Node.content] at hstop
          rw [← hstop]
        simp only [sectionEdit, if_neg hopen, if_pos hchildren, Edit.apply]
        rw [hinner]
        intro heq
        have hsame := (hsite.splice_text_eq_iff _).mp (by simpa using heq)
        -- The first bracket of the new content begins a tag, which the old content does not have.
        obtain ⟨c, t, hchars, hc, -⟩ := exists_cons_of_isName hname
        have hlead : '<' ∉ l.newline ++ indent := by
          intro hlt
          have hblank : allBlank (l.newline ++ indent) = true := by simp [hl.newline.1, hindent]
          exact absurd (isBlank_of_mem hblank hlt) (by decide)
        have hcut : ∃ v, writeRow content = (l.newline ++ indent) ++ '<' :: c :: v := by
          refine ⟨t ++ (inside ++ (l.newline ++ (lineIndent doc e.outer.start).getD [])), ?_⟩
          rw [← hsame, hchars]
          simp
        obtain ⟨v, hv⟩ := hcut
        rcases eq_mark_of_elements_eq_nil hnone hv hlead with rfl | rfl
        · exact absurd hc (by decide)
        · exact absurd hc (by decide)
      · obtain ⟨before, after, rfl, hposition, -, -⟩ := exists_sectionPosition h section_
        have hsite : Site doc e (.element name attributes (before ++ ([] ++ after)) closing)
            front back := h.congr_content (by simp)
        simp only [sectionEdit, if_neg hopen, if_neg hchildren, Edit.apply, Edit.insertion]
        rw [hposition]
        intro heq
        have hnil := (hsite.splice_text_eq_iff _).mp (by simpa using heq)
        simp [hbreak] at hnil

end Edits

/-! ## Steps that change the document -/

/-- A merge of one entry leaves a document as it is exactly when its section has the key. -/
theorem mergeOne_eq_self_iff
    {l : Layout}
    (hl : l.IsBlank)
    (d : ProjectDocument)
    (e : Entry) :
    mergeOne l d.write e = some d.write ↔ e.key ∈ keysOf d.content e.kind := by
  obtain ⟨project, hproject, -, hread⟩ := d.project?_write
  have hsite : Site d.write project d.root (writeRow d.before) (writeRow d.after) := ⟨rfl, hread⟩
  obtain ⟨te, missing, t, front, back, hdescend, htarget, hpath⟩ :=
    exists_descent e.kind.sectionPath hsite
  cases missing with
  | nil =>
      have hhas : sectionHas d.write te e = decide (e.key ∈ keysOf d.content e.kind) :=
        hpath.sectionHas_eq htarget
      by_cases hkey : e.key ∈ keysOf d.content e.kind
      · simp [mergeOne, hproject, editFor, hdescend, hhas, hkey]
      · have hne := entryEdit_apply_ne hl htarget
          (l.renderEntry e.xml.toList (l.childIndent d.write te))
        simpa [mergeOne, hproject, editFor, hdescend, hhas, hkey] using hne
  | cons name rest =>
      have hkey : e.key ∉ keysOf d.content e.kind := by
        rw [show keysOf d.content e.kind = [] from hpath.keysOf_eq_nil]
        simp
      have hname : isName name.toList = true :=
        isName_of_mem_sectionPath (hpath.names name List.mem_cons_self)
      have hindent := allBlank_childIndent hl d.write te
      have hne := sectionEdit_apply_ne hl htarget hindent hname
      simp only [mergeOne, hproject, editFor, hdescend, Option.map_some, Option.some.injEq, hkey,
        iff_false]
      simp only [Layout.renderChain, List.append_assoc, List.cons_append, List.nil_append]
      exact hne _

end Pom
end Runbook
