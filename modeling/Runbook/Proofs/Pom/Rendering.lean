import Runbook.Pom.Merge
import Runbook.Proofs.Markup.Respacing
import Runbook.Proofs.Text.Lines
import Runbook.Proofs.Text.Positions
import Runbook.Proofs.Text.Respacing

/-!
# Indentation and rendered entries

A layout read from a document adds nothing but blanks, and so do the indentations that are taken
from the lines of the document. An entry brought to an indentation is that indentation and the written
form of an element again: its lines respaced, or one child to a line. Either way the element keeps its
name and every field that is of one line.

Main statements: `isBlank_detect` and `exists_renderEntry`.
-/

namespace Runbook
namespace Pom

open Text Markup

/-- A layout that adds nothing but blanks, and breaks lines. -/
structure Layout.IsBlank (l : Layout) : Prop where
  unit : allBlank l.unit = true
  newline : IsBreak l.newline

theorem allBlank_repeated
    {s : List Char}
    (hs : allBlank s = true)
    (n : Nat) :
    allBlank (Layout.repeated n s) = true := by
  induction n with
  | zero => rfl
  | succ n ih =>
      have hstep : Layout.repeated (n + 1) s = s ++ Layout.repeated n s := by
        simp [Layout.repeated, List.replicate_succ]
      simp [hstep, hs, ih]

theorem allBlank_of_indents
    {s : List Char}
    (h : s.all indents = true) :
    allBlank s = true := by
  rw [allBlank, List.all_eq_true]
  intro c hc
  have hindents := List.all_eq_true.mp h c hc
  simp only [indents, Bool.or_eq_true, decide_eq_true_eq] at hindents
  rcases hindents with rfl | rfl <;> decide

/-- The indentation of a line, or none, is blank. -/
theorem allBlank_lineIndent
    (doc : List Char)
    (offset : Nat) :
    allBlank ((lineIndent doc offset).getD []) = true := by
  cases h : lineIndent doc offset with
  | none => rfl
  | some indent => exact allBlank_of_indents (all_indents_of_lineIndent h)

theorem firstIndent?_blank
    {doc indent : List Char}
    {es : List Element}
    (h : Layout.firstIndent? doc es = some indent) :
    indent.all indents = true := by
  obtain ⟨e, -, he⟩ := Option.bind_eq_some_iff.mp h
  exact all_indents_of_lineIndent he

/-- The indentation of a new child is blank. -/
theorem allBlank_childIndent
    {l : Layout}
    (hl : l.IsBlank)
    (doc : List Char)
    (parent : Element) :
    allBlank (l.childIndent doc parent) = true := by
  rw [Layout.childIndent]
  cases h : Layout.firstIndent? doc (parent.children doc) with
  | none => simp [allBlank_lineIndent, hl.unit]
  | some indent => exact allBlank_of_indents (firstIndent?_blank h)

/-- The layout that is read from a document adds nothing but blanks. -/
theorem isBlank_detect
    (doc : List Char)
    (project : Element) :
    (Layout.detect doc project).IsBlank := by
  refine ⟨?_, ?_⟩
  · simp only [Layout.detect]
    cases hunit : ((Layout.firstIndent? doc (project.children doc)).bind
        (dropPrefix? ((lineIndent doc project.outer.start).getD []))).filter
        fun u => !u.isEmpty with
    | none => decide
    | some u =>
        obtain ⟨hbeyond, -⟩ := Option.filter_eq_some_iff.mp hunit
        obtain ⟨indent, hindent, hdrop⟩ := Option.bind_eq_some_iff.mp hbeyond
        have hblank := allBlank_of_indents (firstIndent?_blank hindent)
        have hsplit := dropPrefix?_eq_some_iff.mp hdrop
        rw [hsplit, allBlank_append, Bool.and_eq_true] at hblank
        exact hblank.2
  · simp only [Layout.detect]
    by_cases h : occursIn ['\r', '\n'] doc = true
    · rw [if_pos h]
      exact ⟨by decide, by decide⟩
    · rw [if_neg h]
      exact ⟨by decide, by decide⟩

/-! ## Rendered entries -/

open Text Markup

/-- A text that begins with something visible. -/
def StartsVisibly (s : List Char) : Prop :=
  ∃ c, s.head? = some c ∧ Text.isBlank c = false

namespace Layout

variable {l : Layout}

/-- Lines brought to an indentation are lines behind leads. -/
theorem reindent_eq
    (l : Layout)
    (first : List Char)
    (rest : List (List Char))
    (indent : List Char) :
    ∃ lead : List Char → List Char, (allBlank l.unit = true → allBlank indent = true →
        ∀ line, allBlank (lead line) = true) ∧
      l.reindent ((first :: rest).map withoutTerminator) indent =
        joinWith l.newline
          (((indent, first) :: rest.map fun line => (lead line, line)).filterMap placed) := by
  let steps := stepsOf ((first :: rest).map withoutTerminator)
  let lead (line : List Char) := indent ++ repeated (steps.level (withoutTerminator line)) l.unit
  refine ⟨lead, fun hunit hindent line => ?_, ?_⟩
  · simp [lead, hindent, allBlank_repeated hunit]
  · have hfirst :
        (if allBlank (withoutTerminator first) then none
          else some (indent ++ repeated 0 l.unit ++ trim (withoutTerminator first))) =
          placed (indent, first) := by
      simp [placed, allBlank_withoutTerminator, trim_withoutTerminator, repeated]
    have hrest :
        ((rest.map withoutTerminator).filterMap fun line =>
          if allBlank line then none
          else some (indent ++ repeated (steps.level line) l.unit ++ trim line)) =
          (rest.map fun line => (lead line, line)).filterMap placed := by
      rw [List.filterMap_map, List.filterMap_map]
      refine List.filterMap_congr fun line _ => ?_
      simp [placed, allBlank_withoutTerminator, trim_withoutTerminator, lead]
    rw [List.filterMap_cons, ← hrest]
    simp only [reindent, List.map_cons]
    cases hplaced : placed (indent, first) with
    | none =>
        rw [hplaced] at hfirst
        rw [hfirst]
        rfl
    | some line =>
        rw [hplaced] at hfirst
        rw [hfirst]
        rfl

/-- A text that begins and ends visibly is respaced when it is brought to an indentation. -/
theorem exists_reindent
    (hl : l.IsBlank)
    {s indent : List Char}
    (hstart : StartsVisibly s)
    (hend : EndsVisibly s)
    (hindent : allBlank indent = true) :
    ∃ t, l.reindent (lines s) indent = indent ++ t ∧ Respaced s t := by
  have hflat := lineSegments_flatten s
  have hfeeds := getLast?_of_mem_dropLast s
  rw [lines]
  cases hsegments : lineSegments s with
  | nil =>
      obtain ⟨c, hc, -⟩ := hstart
      rw [hsegments] at hflat
      simp [← hflat] at hc
  | cons first rest =>
      rw [hsegments] at hflat hfeeds
      obtain ⟨lead, hlead, hjoin⟩ := reindent_eq l first rest indent
      have hleads := hlead hl.unit hindent
      generalize hpairs : (indent, first) :: rest.map (fun line => (lead line, line)) = pairs at hjoin
      have hsnd : pairs.map Prod.snd = first :: rest := by
        simp [← hpairs, Function.comp_def]
      have hblank : ∀ p ∈ pairs, allBlank p.1 = true := by
        intro p hp
        rw [← hpairs, List.mem_cons, List.mem_map] at hp
        rcases hp with rfl | ⟨line, -, rfl⟩
        · exact hindent
        · exact hleads line
      have hfed : ∀ p ∈ pairs.dropLast, p.2.getLast? = some '\n' := by
        intro p hp
        refine hfeeds p.2 ?_
        rw [← hsnd, ← List.map_dropLast]
        exact List.mem_map_of_mem hp
      have hvisible : EndsVisibly (pairs.map Prod.snd).flatten := by
        rw [hsnd, hflat]
        exact hend
      obtain ⟨a, s', b, t, hs, ha, hj, -, hrespaced, -, hfront⟩ :=
        exists_respaced_join hl.newline pairs hblank hfed hvisible
      rw [hsnd, hflat] at hs
      obtain ⟨c, hc, hcvisible⟩ := hstart
      -- The text begins visibly, so no blanks are cut off in front and the first lead stays.
      have hnil : a = [] := by
        cases a with
        | nil => rfl
        | cons d a =>
            rw [hs] at hc
            cases hc
            simp [hcvisible] at ha
      have hfirst : allBlank first = false := by
        cases first with
        | nil =>
            have hmem : [] ∈ ([] :: rest).dropLast ∨ rest = [] := by
              cases rest with
              | nil => exact Or.inr rfl
              | cons r rest => exact Or.inl (by simp)
            rcases hmem with hmem | rfl
            · have hbad := hfeeds [] hmem
              simp at hbad
            · rw [← hflat] at hc
              simp at hc
        | cons d first =>
            rw [← hflat] at hc
            have hd : d = c := by simpa using hc
            simp [hd, hcvisible]
      have hb : b = indent := hfront (indent, first) (by simp [← hpairs]) hfirst
      subst hnil hb
      rw [List.nil_append] at hs
      exact ⟨t, by rw [hjoin, hj], hs ▸ hrespaced⟩

end Layout

/-! ## One child to a line -/

/-- A stretch of blanks as a node. -/
def blankNode
    (s : List Char)
    (hs : allBlank s = true) :
    Node :=
  .piece (.text s fun hlt => absurd (isBlank_of_mem hs hlt) (by decide))

@[simp] theorem write_blankNode
    (s : List Char)
    (hs : allBlank s = true) :
    (blankNode s hs).write = s := by
  rfl

@[simp] theorem elements_cons_blankNode
    (s : List Char)
    (hs : allBlank s = true)
    (row : List Node) :
    elements (blankNode s hs :: row) = elements row := by
  rfl

/-- Nodes with a stretch of blanks before each of them. -/
def spread
    (s : List Char)
    (hs : allBlank s = true) :
    List Node → List Node
  | [] => []
  | n :: ns => blankNode s hs :: n :: spread s hs ns

theorem elements_spread
    {s : List Char}
    (hs : allBlank s = true)
    (ns : List Node) :
    elements (spread s hs ns) = elements ns := by
  induction ns with
  | nil => rfl
  | cons n ns ih =>
      rw [spread, elements_cons_blankNode]
      cases hn : n.isElement with
      | true => rw [elements_cons_of hn, elements_cons_of hn, ih]
      | false => rw [elements_cons_of_not hn, elements_cons_of_not hn, ih]

theorem elements_elements
    (row : List Node) :
    elements (elements row) = elements row := by
  simp [elements, List.filter_filter]

/-- Joined lines of which each stands behind the same lead. -/
theorem joinWith_spread
    {newline lead : List Char}
    (hs : allBlank (newline ++ lead) = true)
    (first last : List Char)
    (ns : List Node) :
    joinWith newline (first :: (ns.map fun n => lead ++ n.write) ++ [last]) =
      first ++ writeRow (spread (newline ++ lead) hs ns) ++ newline ++ last := by
  induction ns generalizing first with
  | nil => simp [joinWith, spread]
  | cons n ns ih =>
      rw [List.map_cons, List.cons_append, joinWith_cons _ _ (by simp), ih (lead ++ n.write)]
      simp [spread]

/-- The node as the only element of a document. -/
def soleDocument
    (n : Node)
    (hn : n.isElement = true) :
    Document where
  before := []
  root := n
  after := []
  before_plain := elements_nil
  root_element := hn
  after_plain := elements_nil

/-- A written element is found as the root of its text. -/
theorem root?_write_node
    {n : Node}
    (hn : n.isElement = true) :
    ∃ e, root? n.write = some e ∧ Represents n.write e n := by
  have h := root?_represents (soleDocument n hn)
  simpa [soleDocument, Document.write] using h

theorem mapM_slice?_represents
    {doc : List Char}
    {es : List Element}
    {ns : List Node}
    (h : List.Forall₂ (Represents doc) es ns) :
    es.mapM (fun e => slice? doc e.outer) = some (ns.map Node.write) := by
  induction h with
  | nil => rfl
  | cons hfirst hrest ih => simp [hfirst.slice?_outer, ih]

/-- Only an element with content is spread over lines: its tags and its children have a line each. -/
theorem exists_joined_of_expandLine
    {l : Layout}
    {n : Node}
    (hn : n.isElement = true)
    {indent r : List Char}
    (h : l.expandLine? n.write indent = some r) :
    ∃ name attributes content closing, n = .element name attributes content closing ∧
      r = joinWith l.newline
        ((indent ++ openingTag name attributes) ::
            ((elements content).map fun c => indent ++ l.unit ++ c.write) ++
          [indent ++ closingTag name closing]) := by
  obtain ⟨e, hroot, hrep⟩ := root?_write_node hn
  have hmap := mapM_slice?_represents hrep.children
  cases n with
  | piece p => simp [Node.isElement, Node.name?] at hn
  | empty name attributes =>
      have hnone : e.children (Node.empty name attributes).write = [] := by
        have hall := hrep.children
        simpa [Node.content] using hall
      simp only [Layout.expandLine?, hroot, hnone, List.isEmpty_nil, Bool.true_or, if_true] at h
      cases h
  | element name attributes content closing =>
      obtain ⟨hopen, hclose⟩ := hrep.slice?_tags
      simp only [Layout.expandLine?, hroot] at h
      split at h
      · cases h
      · simp only [hopen, hclose, hmap, Option.some.injEq, Node.content] at h
        refine ⟨name, attributes, content, closing, rfl, ?_⟩
        rw [← h]
        simp [Function.comp_def]

/-- The children of an element, one to a line. -/
theorem exists_expandLine
    {l : Layout}
    (hl : l.IsBlank)
    {n : Node}
    (hn : n.isElement = true)
    {indent r : List Char}
    (hindent : allBlank indent = true)
    (h : l.expandLine? n.write indent = some r) :
    ∃ n' : Node, r = indent ++ n'.write ∧ n'.name? = n.name? ∧
      elements n'.content = elements n.content := by
  obtain ⟨name, attributes, content, closing, rfl, rfl⟩ := exists_joined_of_expandLine hn h
  have hlead : allBlank (l.newline ++ (indent ++ l.unit)) = true := by
    simp [hl.unit, hl.newline.1, hindent]
  have hback : allBlank (l.newline ++ indent) = true := by
    simp [hl.newline.1, hindent]
  refine ⟨.element name attributes
    (spread _ hlead (elements content) ++ [blankNode _ hback]) closing, ?_, rfl, ?_⟩
  · rw [joinWith_spread hlead]
    simp
  · simp [Node.content, elements_spread, elements_elements]

/-- An entry brought to an indentation is an element with the same name, and with the same fields
where they are of one line. -/
theorem exists_renderEntry
    {l : Layout}
    (hl : l.IsBlank)
    {n : Node}
    (hn : n.isElement = true)
    {indent : List Char}
    (hindent : allBlank indent = true) :
    ∃ n' : Node, l.renderEntry n.write indent = indent ++ n'.write ∧ n'.name? = n.name? ∧
      ∀ name, (∀ v, field? n.content name = some v → '\n' ∉ v.toList) →
        field? n'.content name = field? n.content name := by
  obtain ⟨hhead, hlast⟩ := Node.write_bracketed (Node.isText_of_isElement hn)
  rw [Layout.renderEntry]
  cases hexpanded : (if (lines n.write).length = 1 then l.expandLine? n.write indent else none) with
  | some r =>
      have hline : l.expandLine? n.write indent = some r := by
        by_cases hone : (lines n.write).length = 1
        · simpa [hone] using hexpanded
        · simp [hone] at hexpanded
      obtain ⟨n', hr, hname, hsame⟩ := exists_expandLine hl hn hindent hline
      refine ⟨n', hr, hname, fun name _ => ?_⟩
      simp [field?, child?, hsame]
  | none =>
      obtain ⟨t, ht, hrespaced⟩ :=
        Layout.exists_reindent hl ⟨'<', hhead, by decide⟩ ⟨'>', hlast, by decide⟩ hindent
      obtain ⟨n', rfl, halike, hchildren⟩ := exists_node_of_respaced n t hrespaced
      exact ⟨n', ht, halike.1, fun name hline => field?_alike hchildren name hline⟩

end Pom
end Runbook
