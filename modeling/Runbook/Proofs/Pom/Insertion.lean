import Runbook.Pom.Merge
import Runbook.Proofs.Markup.Sites
import Runbook.Proofs.Pom.Rendering
import Runbook.Proofs.Pom.Contents
import Runbook.Proofs.Pom.Order

/-!
# Inserting one entry

What the edits of a merge make of the tree of a document. The element where a path of sections ends
is replaced by one of the same name that holds one element more, and the elements around it take the
replacement up.

Main statements: `exists_descent`, `exists_entryEdit` and `exists_sectionEdit`.
-/

namespace Runbook
namespace Pom

open Text Markup

/-! ## The element where a path ends -/

/-- The node where a path of names ends, and the names still missing. -/
def reach : List String → Node → Node × List String
  | [], n => (n, [])
  | name :: rest, n =>
      match child? n.content name with
      | some m => reach rest m
      | none => (n, name :: rest)

/-- The node where the part of a path ends that is there has been replaced. The nodes on the path take
the new one up, and everything beside the path stays. -/
inductive Replaced (missing : List String) (t t' : Node) (front' back' : List Char) :
    List String → Node → Node → List Char → List Char → Prop
  | here :
      Replaced missing t t' front' back' missing t t' front' back'
  | along {name : String} {rest : List String} {nm : Name} {attributes closing : Attributes}
      {before after : List Node} {m m' : Node} {front back : List Char}
      (first : ∀ k ∈ elements before, k.isNamed name = false)
      (named : m.isNamed name = true)
      (inside : Replaced missing t t' front' back' rest m m'
        (front ++ openingTag nm attributes ++ writeRow before)
        (writeRow after ++ closingTag nm closing ++ back)) :
      Replaced missing t t' front' back' (name :: rest)
        (.element nm attributes (before ++ m :: after) closing)
        (.element nm attributes (before ++ m' :: after) closing) front back

namespace Replaced

variable {path missing : List String}
variable {t t' n n' : Node}
variable {front back front' back' : List Char}

theorem name?_eq
    (h : Replaced missing t t' front' back' path n n' front back)
    (ht : t'.name? = t.name?) :
    n'.name? = n.name? := by
  cases h with
  | here => exact ht
  | along first named inside => rfl

/-- The document with the new node in the place of the old one. -/
theorem written
    (h : Replaced missing t t' front' back' path n n' front back) :
    front' ++ (t'.write ++ back') = front ++ (n'.write ++ back) := by
  induction h with
  | here => rfl
  | along first named inside ih =>
      rw [ih]
      simp

theorem isNamed_eq
    (h : Replaced missing t t' front' back' path n n' front back)
    (ht : t'.name? = t.name?)
    (name : String) :
    n'.isNamed name = n.isNamed name := by
  simp only [Node.isNamed, h.name?_eq ht]

theorem elements_around
    {name : String}
    {before after : List Node}
    (hn : n.isNamed name = true) :
    elements (before ++ n :: after) = elements before ++ n :: elements after := by
  rw [elements_append, elements_cons_of (Node.isElement_of_isNamed hn)]

/-- The new node has been replaced by the old one. -/
theorem symm
    (h : Replaced missing t t' front' back' path n n' front back)
    (ht : t'.name? = t.name?) :
    Replaced missing t' t front' back' path n' n front back := by
  induction h with
  | here => exact here
  | along first named inside ih => exact along first ((inside.isNamed_eq ht _).trans named) ih

/-- A node grows as the one does that is replaced. -/
theorem grown
    {x : Node}
    (h : Replaced missing t t' front' back' path n n' front back)
    (ht : t'.name? = t.name?)
    (hx : Grown x missing t.content t'.content) :
    Grown x path n.content n'.content := by
  induction h with
  | here => exact hx
  | along first named inside ih =>
      have hkept := (inside.isNamed_eq ht _).trans named
      exact Grown.within (elements_around named) first named hkept ih (elements_around hkept)

/-- What lies at the end of the path lies there below the new node. -/
theorem rowAt_eq
    (h : Replaced missing t t' front' back' path n n' front back)
    (ht : t'.name? = t.name?) :
    rowAt path n'.content = rowAt missing t'.content := by
  induction h with
  | here => rfl
  | along first named inside ih =>
      have hkept := (inside.isNamed_eq ht _).trans named
      rw [← ih, Node.content, rowAt, child?_eq_some (elements_around hkept) first hkept]

end Replaced

/-- The part of a path that is there leads from a node to a target, and whatever takes the place of
the target, the node takes it up. -/
structure Descent
    (path missing : List String)
    (n : Node)
    (front back : List Char)
    (t : Node)
    (front' back' : List Char) : Prop where
  reached : reach path n = (t, missing)
  names : ∀ s ∈ missing, s ∈ path
  row : rowAt path n.content = rowAt missing t.content
  stops : ∀ name rest, missing = name :: rest → ∀ m ∈ elements t.content, m.isNamed name = false
  lift : ∀ t' : Node, ∃ n' : Node, Replaced missing t t' front' back' path n n' front back

/-- The descent along a path ends at the site of an element. -/
theorem exists_descent
    {doc : List Char} :
    ∀ (path : List String) {e : Element} {n : Node} {front back : List Char},
      Site doc e n front back →
      ∃ te missing t front' back', descend doc e path = (te, missing) ∧
        Site doc te t front' back' ∧ Descent path missing n front back t front' back'
  | [], e, n, front, back, h => by
      exact ⟨e, [], n, front, back, rfl, h, rfl, fun s hs => hs, rfl, by simp,
        fun t' => ⟨t', Replaced.here⟩⟩
  | name :: rest, e, n, front, back, h => by
      rcases find?_rowElements n.content e.inner.start name with ⟨hfind, hall⟩ |
        ⟨before, m, after, c, hrow, hfirst, hm, hc, hfind⟩
      · have hdescend : descend doc e (name :: rest) = (e, name :: rest) := by
          simp [descend, Element.child?, h.represents.children_eq, hfind]
        refine ⟨e, name :: rest, n, front, back, hdescend, h, ?_, fun s hs => hs, rfl, ?_,
          fun t' => ⟨t', Replaced.here⟩⟩
        · rw [reach, child?_eq_none hall]
        · intro other rest' heq
          cases heq
          exact hall
      · have hdescend : descend doc e (name :: rest) = descend doc c rest := by
          simp [descend, Element.child?, h.represents.children_eq, hfind]
        cases n with
        | piece p => simp [Node.content] at hrow
        | empty nm attributes => simp [Node.content] at hrow
        | element nm attributes content closing =>
            have hcontent : content = before ++ m :: after := hrow
            subst hcontent
            obtain ⟨te, missing, t, front', back', hte, hsite, hpath⟩ :=
              exists_descent rest (h.child hc)
            have hchild : child? (before ++ m :: after) name = some m :=
              child?_eq_some (Replaced.elements_around hm) hfirst hm
            refine ⟨te, missing, t, front', back', hdescend.trans hte, hsite,
              by simpa [reach, Node.content, hchild] using hpath.reached,
              fun s hs => List.mem_cons_of_mem _ (hpath.names s hs), ?_, hpath.stops,
              fun t' => ?_⟩
            · rw [← hpath.row]
              simp [Node.content, rowAt, hchild]
            · obtain ⟨m', hinside⟩ := hpath.lift t'
              exact ⟨_, Replaced.along hfirst hm hinside⟩

/-! ## The edits -/

section Edits

variable {l : Layout}
variable {doc front back indent : List Char}
variable {e : Element}
variable {n x : Node}

theorem elements_between_blanks
    {u v : List Char}
    (hu : allBlank u = true)
    (hv : allBlank v = true)
    (hx : x.isElement = true) :
    elements [blankNode u hu, x, blankNode v hv] = [x] := by
  rw [elements_cons_blankNode, elements_cons_of hx, elements_cons_blankNode, elements_nil]

/-- An element on a line of its own, with a line break after it. -/
def linedUp
    (l : Layout)
    (hl : l.IsBlank)
    (x : Node)
    {indent outer : List Char}
    (hindent : allBlank indent = true)
    (houter : allBlank outer = true) :
    List Node :=
  [ blankNode (l.newline ++ indent) (by simp [hl.newline.1, hindent]), x,
    blankNode (l.newline ++ outer) (by simp [hl.newline.1, houter]) ]

theorem write_linedUp
    (hl : l.IsBlank)
    {outer : List Char}
    (hindent : allBlank indent = true)
    (houter : allBlank outer = true) :
    writeRow (linedUp l hl x hindent houter) =
      l.newline ++ (indent ++ x.write) ++ l.newline ++ outer := by
  simp [linedUp]

theorem elements_linedUp
    (hl : l.IsBlank)
    {outer : List Char}
    (hindent : allBlank indent = true)
    (houter : allBlank outer = true)
    (hx : x.isElement = true) :
    elements (linedUp l hl x hindent houter) = [x] :=
  elements_between_blanks _ _ hx

/-- An element on a line that is put before another one. -/
def lineBefore
    (l : Layout)
    (hl : l.IsBlank)
    (x : Node)
    {indent : List Char}
    (hindent : allBlank indent = true) :
    List Node :=
  [blankNode indent hindent, x, blankNode l.newline hl.newline.1]

theorem write_lineBefore
    (hl : l.IsBlank)
    (hindent : allBlank indent = true) :
    writeRow (lineBefore l hl x hindent) = indent ++ x.write ++ l.newline := by
  simp [lineBefore]

theorem elements_lineBefore
    (hl : l.IsBlank)
    (hindent : allBlank indent = true)
    (hx : x.isElement = true) :
    elements (lineBefore l hl x hindent) = [x] :=
  elements_between_blanks hindent hl.newline.1 hx

/-- An element on a line that is begun after another one. -/
def lineAfter
    (l : Layout)
    (hl : l.IsBlank)
    (x : Node)
    {indent : List Char}
    (hindent : allBlank indent = true) :
    List Node :=
  [blankNode (l.newline ++ indent) (by simp [hl.newline.1, hindent]), x]

theorem write_lineAfter
    (hl : l.IsBlank)
    (hindent : allBlank indent = true) :
    writeRow (lineAfter l hl x hindent) = l.newline ++ (indent ++ x.write) := by
  simp [lineAfter]

theorem elements_lineAfter
    (hl : l.IsBlank)
    (hindent : allBlank indent = true)
    (hx : x.isElement = true) :
    elements (lineAfter l hl x hindent) = [x] := by
  rw [lineAfter, elements_cons_blankNode, elements_cons_of hx, elements_nil]

/-- An element opened around another one. -/
theorem enclosed_eq
    (hl : l.IsBlank)
    (name : Name)
    {outer : List Char}
    (hindent : allBlank indent = true)
    (houter : allBlank outer = true) :
    enclosed l (String.ofList name.chars) (indent ++ x.write) outer =
      (Node.element name .none (linedUp l hl x hindent houter) .none).write := by
  simp [enclosed, write_linedUp, openingTag, closingTag, Attributes.none]

/-- An empty tag gives way to an element around the new one. -/
theorem splice_opened
    (hl : l.IsBlank)
    {name : Name}
    {attributes : Attributes}
    (h : Site doc e (.empty name attributes) front back)
    {outer : List Char}
    (hindent : allBlank indent = true)
    (houter : allBlank outer = true) :
    splice doc e.outer (enclosed l e.name (indent ++ x.write) outer) =
      front ++
        ((Node.element name .none (linedUp l hl x hindent houter) .none).write ++ back) := by
  have hname : e.name = String.ofList name.chars := by
    have hread := h.read
    cases hread
    rfl
  rw [h.splice_outer, hname, enclosed_eq hl name hindent houter]

/-- What stands in front of the closing tag on its line, when it is indentation only. -/
theorem exists_line_before_closing
    {name : Name}
    {attributes closing : Attributes}
    {content : List Node}
    (h : Site doc e (.element name attributes content closing) front back)
    (hline : (lineIndent doc e.inner.stop).isSome = true) :
    ∃ content' lead, ∃ hlead : allBlank lead = true,
      writeRow (content' ++ [blankNode lead hlead]) = writeRow content ∧
      elements content' = elements content ∧
      lineStart doc e.inner.stop = e.inner.start + byteSize (writeRow content') ∧
      lead.all indents = true := by
  have hdoc : doc = front ++ openingTag name attributes ++ writeRow content ++
      (closingTag name closing ++ back) := by
    simp [h.written]
  rw [h.inner_stop_eq, hdoc, lineIndent_append] at hline
  rw [h.inner_stop_eq, hdoc, lineStart_append]
  obtain ⟨before, hcut, -, -⟩ :=
    exists_eq_append_lastLine (front ++ openingTag name attributes ++ writeRow content)
  generalize lastLine (front ++ openingTag name attributes ++ writeRow content) = lead at hline hcut ⊢
  have hindents : lead.all indents = true := by
    by_contra hnot
    simp [hnot] at hline
  have hlead := allBlank_of_indents hindents
  -- The opening tag ends visibly, so the line begins inside the content.
  have hinside : ∃ u, writeRow content = u ++ lead := by
    rcases List.append_eq_append_iff.mp hcut with ⟨a, -, hrow⟩ | ⟨b, hopen, hlead'⟩
    · exact ⟨a, hrow⟩
    · rcases List.eq_nil_or_concat b with rfl | ⟨b', c, rfl⟩
      · exact ⟨[], by simpa using hlead'.symm⟩
      · have hlast : (front ++ openingTag name attributes).getLast? = some c := by
          rw [hopen, List.concat_eq_append, ← List.append_assoc, List.getLast?_concat]
        rw [openingTag, ← List.append_assoc, ← List.cons_append, ← List.append_assoc,
          List.getLast?_concat] at hlast
        have hc : isBlank c = true := by
          refine isBlank_of_mem hlead ?_
          rw [hlead']
          simp
        cases hlast
        exact absurd hc (by decide)
  obtain ⟨u, hu⟩ := hinside
  obtain ⟨content', rfl, hsame⟩ := exists_row_of_blank_end hu hlead
  refine ⟨content', lead, hlead, by simp [hu], hsame, ?_, hindents⟩
  rw [h.inner_start_eq, hu]
  simp only [byteSize_append]
  omega

/-- A section has a new element as its last one. An empty tag is opened around it. Where the closing
tag begins its line the element is put on a line before it, else it gets a line of its own. -/
inductive Appended (l : Layout) (hl : l.IsBlank) (x : Node) {indent outer : List Char}
    (hindent : allBlank indent = true) (houter : allBlank outer = true) : Node → Node → Prop
  | opened (name : Name) (attributes : Attributes) :
      Appended l hl x hindent houter (.empty name attributes)
        (.element name .none (linedUp l hl x hindent houter) .none)
  | onLine {name : Name} {attributes closing : Attributes} {content before : List Node}
      {lead : List Char} (hlead : allBlank lead = true)
      (cut : writeRow (before ++ [blankNode lead hlead]) = writeRow content)
      (same : elements before = elements content) (flat : lead.all indents = true) :
      Appended l hl x hindent houter (.element name attributes content closing)
        (.element name attributes
          (before ++ (lineBefore l hl x hindent ++ [blankNode lead hlead])) closing)
  | atEnd {name : Name} {attributes closing : Attributes} {content : List Node} :
      Appended l hl x hindent houter (.element name attributes content closing)
        (.element name attributes (content ++ linedUp l hl x hindent houter) closing)

namespace Appended

variable {hl : l.IsBlank}
variable {outer : List Char}
variable {hindent : allBlank indent = true}
variable {houter : allBlank outer = true}
variable {n' : Node}

theorem name?_eq
    (h : Appended l hl x hindent houter n n') :
    n'.name? = n.name? := by
  cases h <;> rfl

theorem elements_eq
    (h : Appended l hl x hindent houter n n')
    (hx : x.isElement = true) :
    elements n'.content = elements n.content ++ [x] := by
  cases h with
  | opened name attributes => exact elements_linedUp hl hindent houter hx
  | onLine hlead cut same flat =>
      simp [Node.content, same, elements_lineBefore hl hindent hx]
  | atEnd => simp [Node.content, elements_linedUp hl hindent houter hx]

end Appended

/-- The edit for an entry makes it the last element of its section. -/
theorem exists_entryEdit
    (hl : l.IsBlank)
    (h : Site doc e n front back)
    (hindent : allBlank indent = true)
    (x : Node) :
    ∃ n' : Node, (entryEdit l doc e (indent ++ x.write)).apply doc = front ++ (n'.write ++ back) ∧
      Appended l hl x hindent (allBlank_lineIndent doc e.outer.start) n n' := by
  have houter := allBlank_lineIndent doc e.outer.start
  have hself := h.represents.selfClosing_eq
  cases n with
  | piece p =>
      have hread := h.read
      cases hread
  | empty name attributes =>
      refine ⟨_, ?_, Appended.opened name attributes⟩
      have hempty : e.selfClosing = true := hself
      rw [entryEdit, if_pos hempty, Edit.apply]
      exact splice_opened hl h hindent houter
  | element name attributes content closing =>
      have hopen : ¬ e.selfClosing = true := by simp [hself, Node.isEmptyTag]
      by_cases hline : (lineIndent doc e.inner.stop).isSome = true
      · obtain ⟨content', lead, hlead, hsame, helems, hstart, hflat⟩ :=
          exists_line_before_closing h hline
        have hsite : Site doc e
            (.element name attributes (content' ++ ([] ++ [blankNode lead hlead])) closing)
            front back := h.congr_content (by simpa using hsame)
        have hsplice := hsite.splice_content (lineBefore l hl x hindent)
        refine ⟨_, ?_, Appended.onLine hlead hsame helems hflat⟩
        rw [entryEdit, if_neg hopen, if_pos hline, hstart, Edit.apply, Edit.insertion,
          ← write_lineBefore hl hindent]
        simpa using hsplice
      · have hsite : Site doc e (.element name attributes (content ++ ([] ++ [])) closing)
            front back := h.congr_content (by simp)
        have hsplice := hsite.splice_content (linedUp l hl x hindent houter)
        have hstop : e.inner.stop = e.inner.start + byteSize (writeRow content) :=
          h.represents.inner_stands.2
        refine ⟨_, ?_, Appended.atEnd⟩
        rw [entryEdit, if_neg hopen, if_neg hline, Edit.apply, Edit.insertion, hstop,
          ← write_linedUp hl hindent houter]
        simpa using hsplice

/-- A row that is empty or ends in an element. -/
def EndsInElement (row : List Node) : Prop :=
  ∀ m, row.getLast? = some m → m.isElement = true

/-- The position of a new section lies at the front of the content or behind an element in it, where the
section has its place among the siblings. -/
theorem exists_sectionPosition
    {name : Name}
    {attributes closing : Attributes}
    {content : List Node}
    (h : Site doc e (.element name attributes content closing) front back)
    (section_ : String) :
    ∃ before after, content = before ++ after ∧
      sectionPosition e (e.children doc) section_ =
        e.inner.start + byteSize (writeRow before) ∧
      EndsInElement before ∧
      Placed (childOrder (String.ofList name.chars)) section_ (names before) (names after) := by
  have hname : String.ofList name.chars = e.name :=
    Option.some.inj (Node.name?_of_element? h.read)
  obtain ⟨front', back', hchildren, hposition, hplaced⟩ :=
    exists_sectionPosition_split e (e.children doc) section_
  have hrow : rowElements e.inner.start content = front' ++ back' :=
    h.represents.children_eq.symm.trans hchildren
  rw [← hname] at hplaced
  rcases List.eq_nil_or_concat front' with rfl | ⟨earlier, c, rfl⟩
  · refine ⟨[], content, rfl, by simpa using hposition, by simp [EndsInElement], ?_⟩
    rw [List.nil_append] at hrow
    rwa [← hrow, map_name_rowElements] at hplaced
  · rw [List.concat_eq_append] at hrow hposition hplaced
    obtain ⟨before, m, after, rfl, hm, hbefore, hafter⟩ :=
      exists_of_rowElements_eq_append (by simpa using hrow)
    refine ⟨before ++ [m], after, by simp, ?_, ?_, ?_⟩
    · rw [hposition, List.getLast?_concat, Option.map_some, Option.getD_some,
        (h.child hm).outer_eq, h.inner_start_eq]
      simp [Nat.add_assoc]
    · intro k hk
      obtain rfl : m = k := by simpa using hk
      simp [Node.isElement, Node.name?_of_element? hm]
    · have hlast : names (before ++ [m]) = (earlier ++ [c]).map Element.name := by
        rw [names_append, hbefore, List.map_append]
        simp [names, Node.name?_of_element? hm]
      rwa [hlast, hafter]

/-- An element has a new one among its children. An empty tag is opened around it. Where there are no
children it takes the place of what is there, else it gets a line of its own at the front or behind
a child. -/
inductive Sectioned (l : Layout) (hl : l.IsBlank) (x : Node) {indent outer : List Char}
    (hindent : allBlank indent = true) (houter : allBlank outer = true) : Node → Node → Prop
  | opened (name : Name) (attributes : Attributes) :
      Sectioned l hl x hindent houter (.empty name attributes)
        (.element name .none (linedUp l hl x hindent houter) .none)
  | alone {name : Name} {attributes closing : Attributes} {content : List Node}
      (childless : elements content = []) :
      Sectioned l hl x hindent houter (.element name attributes content closing)
        (.element name attributes (linedUp l hl x hindent houter) closing)
  | between {name : Name} {attributes closing : Attributes} {before after : List Node}
      {section_ : String}
      (behind : EndsInElement before)
      (named : x.isNamed section_ = true)
      (placed : Placed (childOrder (String.ofList name.chars)) section_ (names before)
        (names after)) :
      Sectioned l hl x hindent houter (.element name attributes (before ++ after) closing)
        (.element name attributes (before ++ (lineAfter l hl x hindent ++ after)) closing)

namespace Sectioned

variable {hl : l.IsBlank}
variable {outer : List Char}
variable {hindent : allBlank indent = true}
variable {houter : allBlank outer = true}
variable {n' : Node}

theorem name?_eq
    (h : Sectioned l hl x hindent houter n n') :
    n'.name? = n.name? := by
  cases h <;> rfl

theorem exists_elements_eq
    (h : Sectioned l hl x hindent houter n n')
    (hx : x.isElement = true) :
    ∃ before after, elements n.content = before ++ after ∧
      elements n'.content = before ++ x :: after := by
  cases h with
  | opened name attributes => exact ⟨[], [], rfl, elements_linedUp hl hindent houter hx⟩
  | alone childless => exact ⟨[], [], childless, elements_linedUp hl hindent houter hx⟩
  | @between _ _ _ before after _ behind named placed =>
      refine ⟨elements before, elements after, by simp [Node.content], ?_⟩
      simp [Node.content, elements_lineAfter hl hindent hx]

end Sectioned

/-- The edit for a section puts it among the elements of its parent. -/
theorem exists_sectionEdit
    (hl : l.IsBlank)
    (h : Site doc e n front back)
    (hindent : allBlank indent = true)
    {section_ : String}
    (hx : x.isNamed section_ = true) :
    ∃ n' : Node,
      (sectionEdit l doc e section_ (indent ++ x.write)).apply doc =
        front ++ (n'.write ++ back) ∧
      Sectioned l hl x hindent (allBlank_lineIndent doc e.outer.start) n n' := by
  have houter := allBlank_lineIndent doc e.outer.start
  have hself := h.represents.selfClosing_eq
  cases n with
  | piece p =>
      have hread := h.read
      cases hread
  | empty name attributes =>
      refine ⟨_, ?_, Sectioned.opened name attributes⟩
      have hempty : e.selfClosing = true := hself
      rw [sectionEdit, if_pos hempty, Edit.apply]
      exact splice_opened hl h hindent houter
  | element name attributes content closing =>
      have hopen : ¬ e.selfClosing = true := by simp [hself, Node.isEmptyTag]
      by_cases hchildren : (e.children doc).isEmpty = true
      · have hnone : elements content = [] := by
          have hall := h.represents.children
          rw [List.isEmpty_iff.mp hchildren] at hall
          exact List.forall₂_nil_left_iff.mp hall
        have hsite : Site doc e (.element name attributes ([] ++ (content ++ [])) closing)
            front back := h.congr_content (by simp)
        have hsplice := hsite.splice_content (linedUp l hl x hindent houter)
        have hinner :
            e.inner = ⟨e.inner.start, e.inner.start + byteSize (writeRow content)⟩ := by
          have hstop := h.represents.inner_stands.2
          rw [Node.content] at hstop
          rw [← hstop]
        refine ⟨_, ?_, Sectioned.alone hnone⟩
        simp only [sectionEdit, if_neg hopen, if_pos hchildren, Edit.apply]
        rw [hinner, ← write_linedUp hl hindent houter]
        simpa using hsplice
      · obtain ⟨before, after, rfl, hposition, hbehind, hplaced⟩ :=
          exists_sectionPosition h section_
        have hsite : Site doc e (.element name attributes (before ++ ([] ++ after)) closing)
            front back := h.congr_content (by simp)
        have hsplice := hsite.splice_content (lineAfter l hl x hindent)
        refine ⟨_, ?_, Sectioned.between hbehind hx hplaced⟩
        simp only [sectionEdit, if_neg hopen, if_neg hchildren, Edit.apply, Edit.insertion]
        rw [hposition, ← write_lineAfter hl hindent]
        simpa using hsplice

end Edits

/-! ## New sections -/

/-- The names that lead to a section can name elements. -/
theorem isName_of_mem_sectionPath
    {kind : EntryKind}
    {name : String}
    (h : name ∈ kind.sectionPath) :
    isName name.toList = true := by
  have hall : ∀ s ∈ ["dependencies", "dependencyManagement", "repositories", "build", "plugins"],
      isName s.toList = true := by
    decide
  refine hall name ?_
  cases kind <;> simp only [EntryKind.sectionPath, List.mem_cons] at h ⊢ <;> tauto

/-- What an entry is brought to: the same element, with the same fields where they are of one
line. -/
def SameFields (n x : Node) : Prop :=
  x.name? = n.name? ∧
    ∀ name, (∀ v, field? n.content name = some v → '\n' ∉ v.toList) →
      field? x.content name = field? n.content name

theorem SameFields.isElement
    {n x : Node}
    (h : SameFields n x)
    (hn : n.isElement = true) :
    x.isElement = true := by
  simpa [Node.isElement, h.1] using hn

/-- A row with nothing but an element that stands on a line of its own, some levels in. -/
def Housed
    (l : Layout)
    (hl : l.IsBlank)
    (x : Node)
    (indent : List Char)
    (row : List Node) :
    Prop :=
  ∃ (level : Nat) (inside : List Char) (hinside : allBlank inside = true)
    (houter : allBlank (indent ++ Layout.repeated level l.unit) = true),
    row = linedUp l hl x hinside houter

/-- Sections that are missing are created around an entry. -/
theorem exists_renderChain
    {l : Layout}
    (hl : l.IsBlank)
    {n : Node}
    (hn : n.isElement = true) :
    ∀ (rest : List String) (name : String) (indent : List Char),
      (∀ s ∈ name :: rest, isName s.toList = true) → allBlank indent = true →
      ∃ s x : Node, l.renderChain n.write (name :: rest) indent = indent ++ s.write ∧
        s.isNamed name = true ∧ SameFields n x ∧ Grown x rest [] s.content ∧
        Housed l hl x indent (rowAt rest s.content)
  | [], name, indent, hnames, hindent => by
      have hinside : allBlank (indent ++ l.unit) = true := by simp [hindent, hl.unit]
      obtain ⟨x, hx, hsame⟩ := exists_renderEntry hl hn hinside
      have helem := SameFields.isElement hsame hn
      let section_ := Name.ofString name (hnames name (by simp))
      refine ⟨.element section_ .none (linedUp l hl x hinside hindent) .none, x, ?_, ?_, hsame, ?_,
        ?_⟩
      · simp [Layout.renderChain, hx, write_linedUp, openingTag, closingTag, Attributes.none,
          section_, Name.ofString]
      · simp [Node.isNamed, Node.name?, section_, Name.ofString]
      · exact Grown.last (elements_linedUp hl hinside hindent helem)
      · have hlevel : indent ++ Layout.repeated 0 l.unit = indent := List.append_nil _
        exact ⟨0, _, hinside, by rw [hlevel, hindent], by simp only [rowAt, Node.content, hlevel]⟩
  | next :: rest, name, indent, hnames, hindent => by
      have hinside : allBlank (indent ++ l.unit) = true := by simp [hindent, hl.unit]
      have hnames' : ∀ s ∈ next :: rest, isName s.toList = true :=
        fun s hs => hnames s (List.mem_cons_of_mem _ hs)
      obtain ⟨s, x, hs, hnamed, hsame, hgrown, level, inside, hblank, houter, hrow⟩ :=
        exists_renderChain hl hn rest next (indent ++ l.unit) hnames' hinside
      have helem := Node.isElement_of_isNamed hnamed
      have helems := elements_linedUp hl hinside hindent helem
      let section_ := Name.ofString name (hnames name (by simp))
      refine ⟨.element section_ .none (linedUp l hl s hinside hindent) .none, x, ?_, ?_, hsame, ?_,
        ?_⟩
      · rw [Layout.renderChain, hs]
        simp [write_linedUp, openingTag, closingTag, Attributes.none, section_, Name.ofString]
      · simp [Node.isNamed, Node.name?, section_, Name.ofString]
      · have hnone : elements [] = [] ++ [] := rfl
        exact Grown.created hnone (by simp) hnamed hgrown helems
      · have hlevel : indent ++ l.unit ++ Layout.repeated level l.unit =
            indent ++ Layout.repeated (level + 1) l.unit := by
          simp [Layout.repeated, List.replicate_succ]
        refine ⟨level + 1, inside, hblank, hlevel ▸ houter, ?_⟩
        have hone : elements (linedUp l hl s hinside hindent) = [] ++ s :: [] := helems
        rw [rowAt, Node.content, child?_eq_some hone (by simp) hnamed]
        simp only [hrow, hlevel]

end Pom
end Runbook
