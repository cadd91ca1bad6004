import Runbook.Proofs.Pom.Acceptance
import Runbook.Proofs.Text.Lines

/-!
# What shows of a rendered entry

An entry is brought to its indentation line by line, which leaves all that shows in it. But an element of
one line whose children are leaves is spread over lines, and then only its tags and its children are
written: what else stands between the tags is lost.

Main statements: `visible_renderEntry` and `visible_renderEntry_iff`.
-/

namespace Runbook
namespace Pom

open Text Markup

/-! ## What stands beside the children -/

/-- An element of one line with children, all of them leaves. -/
structure IsSpread (n : Node) : Prop where
  flat : '\n' ∉ n.write
  children : elements n.content ≠ []
  leaves : ∀ c ∈ elements n.content, elements c.content = []

/-- A node with its children and nothing else between its tags. -/
def bare : Node → Node
  | .element name attributes content closing =>
      .element name attributes (elements content) closing
  | n => n

/-- Something that shows stands between the tags of a node beside its children: a text, a comment or
character data. -/
def HasBeside (n : Node) : Prop :=
  ∃ m ∈ n.content, m.isElement = false ∧ visible m.write ≠ []

theorem visible_elements_sublist
    (row : List Node) :
    (visible (writeRow (elements row))).Sublist (visible (writeRow row)) := by
  induction row with
  | nil => exact List.Sublist.refl _
  | cons n row ih =>
      rw [writeRow_cons, visible_append]
      cases hn : n.isElement with
      | true =>
          rw [elements_cons_of hn, writeRow_cons, visible_append]
          exact ih.append_left _
      | false =>
          rw [elements_cons_of_not hn]
          exact ih.trans (List.sublist_append_right _ _)

/-- The elements of a row show what the row does exactly when nothing else in it shows. -/
theorem visible_elements_iff
    (row : List Node) :
    visible (writeRow (elements row)) = visible (writeRow row) ↔
      ∀ m ∈ row, m.isElement = false → visible m.write = [] := by
  induction row with
  | nil => simp
  | cons n row ih =>
      rw [writeRow_cons, visible_append, List.forall_mem_cons, ← ih]
      cases hn : n.isElement with
      | true =>
          rw [elements_cons_of hn, writeRow_cons, visible_append, List.append_cancel_left_eq]
          simp
      | false =>
          rw [elements_cons_of_not hn]
          constructor
          · intro h
            -- The elements show no more than the row behind the node, so the node shows nothing.
            have hle := (visible_elements_sublist row).length_le
            have hlength := congrArg List.length h
            rw [List.length_append] at hlength
            have hnil : visible n.write = [] := List.eq_nil_of_length_eq_zero (by omega)
            exact ⟨fun _ => hnil, by rw [h, hnil, List.nil_append]⟩
          · rintro ⟨hnil, h⟩
            rw [h, hnil rfl, List.nil_append]

theorem visible_bare_iff
    (n : Node) :
    visible (bare n).write = visible n.write ↔ ¬ HasBeside n := by
  have hrow : ¬ HasBeside n ↔ ∀ m ∈ n.content, m.isElement = false → visible m.write = [] := by
    simp [HasBeside]
  rw [hrow]
  cases n with
  | piece p => simp [bare, Node.content]
  | empty name attributes => simp [bare, Node.content]
  | element name attributes content closing =>
      simp only [bare, Node.write_element, visible_append, List.append_cancel_left_eq,
        List.append_cancel_right_eq]
      exact visible_elements_iff content

/-! ## Rendered entries -/

section Rendering

variable {l : Layout}
variable {n : Node}
variable {indent r : List Char}

theorem isEmpty_children_eq
    {doc : List Char}
    {e : Element}
    (h : Represents doc e n) :
    (e.children doc).isEmpty = (elements n.content).isEmpty := by
  rw [Bool.eq_iff_iff, List.isEmpty_iff_length_eq_zero, List.isEmpty_iff_length_eq_zero,
    h.children.length_eq]

/-- An element is spread over lines exactly when it has children and they are leaves. -/
theorem isSome_expandLine?_iff
    (hn : n.isElement = true)
    (l : Layout)
    (indent : List Char) :
    (l.expandLine? n.write indent).isSome = true ↔
      elements n.content ≠ [] ∧ ∀ c ∈ elements n.content, elements c.content = [] := by
  obtain ⟨e, hroot, hread⟩ := root?_write_node hn
  have hchildren := hread.children
  have hempty := isEmpty_children_eq hread
  have hleaves : ((e.children n.write).all fun c => (c.children n.write).isEmpty) =
      (elements n.content).all fun c => (elements c.content).isEmpty := by
    have hmap := map_represents (fun c m hc => isEmpty_children_eq hc) hchildren
    have hall := congrArg (fun bs => bs.all id) hmap
    simpa [List.all_map, Function.comp_def] using hall
  have hcond : (elements n.content ≠ [] ∧ ∀ c ∈ elements n.content, elements c.content = []) ↔
      ¬ ((elements n.content).isEmpty ||
        !(elements n.content).all fun c => (elements c.content).isEmpty) = true := by
    simp
  rw [hcond]
  simp only [Layout.expandLine?, hroot, hempty, hleaves]
  split
  · rename_i h
    simp [h]
  · rename_i h
    refine iff_of_true ?_ h
    cases n with
    | piece p => cases hn
    | empty name attributes => simp [Node.content] at h
    | element name attributes content closing =>
        obtain ⟨hopen, hclose⟩ := hread.slice?_tags
        rw [hopen, hclose, mapM_slice?_represents hchildren]
        rfl

variable (hunit : allBlank l.unit = true)
variable (hnewline : allBlank l.newline = true)
variable (hindent : allBlank indent = true)

include hunit hnewline hindent

/-- All that shows in a text shows in its lines when they are brought to an indentation. -/
theorem visible_reindent
    (s : List Char) :
    visible (l.reindent (lines s) indent) = visible s := by
  have hflat := lineSegments_flatten s
  rw [lines]
  cases hsegments : lineSegments s with
  | nil =>
      rw [← hflat, hsegments]
      rfl
  | cons first rest =>
      obtain ⟨lead, hlead, hjoin⟩ := l.reindent_eq first rest indent
      have hblank : ∀ p ∈ (indent, first) :: rest.map fun line => (lead line, line),
          allBlank p.1 = true := by
        intro p hp
        rw [List.mem_cons, List.mem_map] at hp
        rcases hp with rfl | ⟨line, -, rfl⟩
        · exact hindent
        · exact hlead hunit hindent line
      rw [hjoin, visible_joinWith hnewline, visible_placed hblank, ← hflat, hsegments]
      simp [Function.comp_def]

/-- Only the tags and the children show of an element that is spread over lines. -/
theorem visible_expandLine
    (hn : n.isElement = true)
    (h : l.expandLine? n.write indent = some r) :
    visible r = visible (bare n).write := by
  obtain ⟨name, attributes, content, closing, rfl, rfl⟩ := exists_joined_of_expandLine hn h
  have hchildren : visible (((elements content).map fun c => indent ++ l.unit ++ c.write).flatten) =
      visible (writeRow (elements content)) := by
    induction elements content with
    | nil => rfl
    | cons c row ih =>
        rw [List.map_cons, List.flatten_cons, writeRow_cons, visible_append, ih]
        simp [visible_eq_nil hindent, visible_eq_nil hunit]
  rw [visible_joinWith hnewline]
  rw [List.cons_append, List.flatten_cons, List.flatten_append, visible_append,
    visible_append (List.flatten _), hchildren]
  simp [bare, visible_eq_nil hindent]

/-- What shows of a rendered entry: all that shows in it, or of an element that is spread over lines the
tags and the children. -/
theorem visible_renderEntry
    (hn : n.isElement = true) :
    (¬ IsSpread n → visible (l.renderEntry n.write indent) = visible n.write) ∧
      (IsSpread n → visible (l.renderEntry n.write indent) = visible (bare n).write) := by
  have hlast : n.write.getLast? ≠ some '\n' := by
    rw [last_write hn]
    decide
  have hone := length_lines_eq_one_iff (Node.write_ne_nil hn) hlast
  have hexpands := isSome_expandLine?_iff hn l indent
  rw [Layout.renderEntry]
  by_cases hline : (lines n.write).length = 1
  · rw [if_pos hline]
    cases hexpanded : l.expandLine? n.write indent with
    | some r =>
        have hspread : IsSpread n := by
          obtain ⟨hsome, hleaves⟩ := hexpands.mp (by rw [hexpanded]; rfl)
          exact ⟨hone.mp hline, hsome, hleaves⟩
        exact ⟨fun h => absurd hspread h,
          fun _ => visible_expandLine hunit hnewline hindent hn hexpanded⟩
    | none =>
        refine ⟨fun _ => visible_reindent hunit hnewline hindent _, fun h => ?_⟩
        have hsome := hexpands.mpr ⟨h.children, h.leaves⟩
        rw [hexpanded] at hsome
        cases hsome
  · rw [if_neg hline]
    exact ⟨fun _ => visible_reindent hunit hnewline hindent _,
      fun h => absurd (hone.mpr h.flat) hline⟩

end Rendering

/-! ## The text that an edit puts in -/

/-- The sections around an entry hold the entry at an indentation of its own. -/
theorem exists_rendered_of_renderChain
    {l : Layout}
    (hunit : allBlank l.unit = true)
    (s : List Char) :
    ∀ (names : List String) {indent : List Char}, allBlank indent = true →
      ∃ inside, allBlank inside = true ∧
        l.renderEntry s inside <:+: l.renderChain s names indent
  | [], indent, hindent => ⟨indent, hindent, List.infix_refl _⟩
  | name :: rest, indent, hindent => by
      have hdeeper : allBlank (indent ++ l.unit) = true := by simp [hindent, hunit]
      obtain ⟨inside, hinside, u, v, hrest⟩ := exists_rendered_of_renderChain hunit s rest hdeeper
      refine ⟨inside, hinside, indent ++ '<' :: name.toList ++ ['>'] ++ l.newline ++ u,
        v ++ l.newline ++ indent ++ '<' :: '/' :: name.toList ++ ['>'], ?_⟩
      rw [Layout.renderChain, ← hrest]
      simp

theorem infix_enclosed
    (l : Layout)
    (name : String)
    (block indent : List Char) :
    block <:+: enclosed l name block indent :=
  ⟨'<' :: name.toList ++ ['>'] ++ l.newline,
    l.newline ++ indent ++ '<' :: '/' :: name.toList ++ ['>'], by simp [enclosed]⟩

theorem infix_text_sectionEdit
    (l : Layout)
    (doc : List Char)
    (parent : Element)
    (name : String)
    (block : List Char) :
    block <:+: (sectionEdit l doc parent name block).text := by
  simp only [sectionEdit]
  split
  · exact infix_enclosed _ _ _ _
  · split
    · exact ⟨l.newline, l.newline ++ (lineIndent doc parent.outer.start).getD [], by simp⟩
    · exact (List.suffix_append _ _).isInfix

theorem infix_text_entryEdit
    (l : Layout)
    (doc : List Char)
    (parent : Element)
    (entry : List Char) :
    entry <:+: (entryEdit l doc parent entry).text := by
  simp only [entryEdit]
  split
  · exact infix_enclosed _ _ _ _
  · split
    · exact (List.prefix_append _ _).isInfix
    · exact ⟨l.newline, l.newline ++ (lineIndent doc parent.outer.start).getD [], by
        simp [Edit.insertion]⟩

/-- The text that puts an entry into a document holds the rendered entry. -/
theorem exists_rendered_of_placement
    {l : Layout}
    (hl : l.IsBlank)
    (doc : List Char)
    (project : Element)
    (e : Entry) :
    ∃ indent, allBlank indent = true ∧
      l.renderEntry e.xml.toList indent <:+: (placement l doc project e).text := by
  rw [placement]
  rcases descend doc project e.kind.sectionPath with ⟨parent, _ | ⟨name, rest⟩⟩
  · exact ⟨_, allBlank_childIndent hl doc parent, infix_text_entryEdit _ _ _ _⟩
  · obtain ⟨indent, hindent, hchain⟩ :=
      exists_rendered_of_renderChain hl.unit e.xml.toList (name :: rest)
        (allBlank_childIndent hl doc parent)
    exact ⟨indent, hindent, hchain.trans (infix_text_sectionEdit _ _ _ _ _)⟩

/-- An entry that is an element shows unchanged when it is brought to an indentation, but for one case:
it is of one line, its children are leaves, and something else that shows stands beside them. Where this is
not so, what is put into a document for the entry shows all of it, without a gap. -/
theorem visible_renderEntry_iff
    {n : Node}
    (hn : n.isElement = true)
    {e : Entry}
    (hxml : e.xml.toList = n.write) :
    (∀ (l : Layout) (indent : List Char), allBlank l.unit = true → allBlank l.newline = true →
      allBlank indent = true →
        (visible (l.renderEntry e.xml.toList indent) = visible e.xml.toList ↔
          ¬ (IsSpread n ∧ HasBeside n))) ∧
      (¬ (IsSpread n ∧ HasBeside n) →
        ∀ doc out, merge doc [e] = some out → out = doc ∨
          ∃ project edit, project? doc = some project ∧
            editFor (Layout.detect doc project) doc project e = some edit ∧
            out = edit.apply doc ∧ visible e.xml.toList <:+: visible edit.text) := by
  have hrendered : ∀ (l : Layout) (indent : List Char), allBlank l.unit = true →
      allBlank l.newline = true → allBlank indent = true →
        (visible (l.renderEntry e.xml.toList indent) = visible e.xml.toList ↔
          ¬ (IsSpread n ∧ HasBeside n)) := by
    intro l indent hunit hnewline hindent
    obtain ⟨hplain, hbare⟩ := visible_renderEntry hunit hnewline hindent hn
    rw [hxml, not_and]
    by_cases hspread : IsSpread n
    · rw [hbare hspread, visible_bare_iff]
      exact ⟨fun h _ => h, fun h => h hspread⟩
    · exact iff_of_true (hplain hspread) fun h => absurd h hspread
  refine ⟨hrendered, fun hkept doc out hmerge => ?_⟩
  obtain ⟨project, hproject, hall⟩ := Option.bind_eq_some_iff.mp hmerge
  have hl := isBlank_detect doc project
  have hone : mergeOne (Layout.detect doc project) doc e = some out := by
    simpa [mergeAll] using hall
  rw [mergeOne, hproject, Option.map_some, Option.some.injEq] at hone
  cases hedit : editFor (Layout.detect doc project) doc project e with
  | none =>
      rw [hedit] at hone
      exact Or.inl hone.symm
  | some edit =>
      rw [hedit] at hone
      refine Or.inr ⟨project, edit, hproject, hedit, hone.symm, ?_⟩
      obtain ⟨indent, hindent, hinside⟩ := exists_rendered_of_placement hl doc project e
      rw [editFor_eq] at hedit
      split at hedit
      · cases hedit
      · cases hedit
        rw [← (hrendered _ indent hl.unit hl.newline.1 hindent).mpr hkept]
        exact hinside.filter _

/-- A plugin of one line with a comment before its only field. -/
def commentedNode : Node :=
  .element (.ofString "plugin" (by decide)) .none
    [ .piece (.comment " keep ".toList (by decide)),
      .element artifactName .none [.piece (.text ['a'] (by decide))] .none ]
    .none

/-- The entry of the plugin. -/
def commentedEntry : Entry :=
  entryOf .plugin commentedNode

/-- Lines as a document has them that shows no unit of its own. -/
def plainLayout : Layout :=
  ⟨Layout.defaultUnit, ['\n']⟩

/-- The comment is lost, while an entry of several lines keeps all that shows. -/
theorem visible_renderEntry_iff_commented :
    (commentedNode.write =
        "<plugin><!-- keep --><artifactId>a</artifactId></plugin>".toList ∧
      visible (plainLayout.renderEntry commentedEntry.xml.toList []) ≠
        visible commentedEntry.xml.toList) ∧
    visible (plainLayout.renderEntry smallEntry.xml.toList []) = visible smallEntry.xml.toList := by
  refine ⟨⟨by decide, fun h => ?_⟩, ?_⟩
  · have hlost : IsSpread commentedNode ∧ HasBeside commentedNode := by
      refine ⟨⟨by decide, by simp [commentedNode, Node.content, elements, Node.isElement, Node.name?],
        by decide⟩, _, List.mem_cons_self, rfl, by decide⟩
    have hxml : commentedEntry.xml.toList = commentedNode.write := String.toList_ofList
    obtain ⟨hiff, -⟩ := visible_renderEntry_iff (n := commentedNode) rfl hxml
    exact (hiff plainLayout [] (by decide) (by decide) rfl).mp h hlost
  · obtain ⟨n, hn, hxml⟩ := proper_smallEntry.written.isElement
    obtain ⟨hiff, -⟩ := visible_renderEntry_iff hn hxml
    refine (hiff plainLayout [] (by decide) (by decide) rfl).mpr fun h => ?_
    have hbroken : '\n' ∈ smallEntry.xml.toList := by decide
    exact h.1.flat (hxml ▸ hbroken)

end Pom
end Runbook
