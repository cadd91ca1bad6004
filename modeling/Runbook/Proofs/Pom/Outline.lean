import Runbook.Proofs.Markup.Sites
import Runbook.Proofs.Pom.Contents
import Runbook.Proofs.Pom.Rendering

/-!
# The look of a document

How a document is indented, said of its tree: the indentation of an element is what its line begins
with, and the indentation inside it is that of its first child. The layout that is read from the
written document is the layout of the tree.

Main statements: `childIndent_eq` and `detect_eq`.
-/

namespace Runbook
namespace Markup

open Text

/-! ## What stands in front of the first child -/

/-- The text of a row up to its first element. -/
def leadOf : List Node → Option (List Char)
  | [] => none
  | n :: row => if n.isElement then some [] else (leadOf row).map (n.write ++ ·)

/-- The text of a node up to its first child. -/
def Node.lead? : Node → Option (List Char)
  | .element name attributes content _ =>
      (leadOf content).map (openingTag name attributes ++ ·)
  | _ => none

/-- Where the first element of a row is one of its front part, what follows does not count. -/
theorem leadOf_append_of_elements
    {row : List Node}
    (h : elements row ≠ [])
    (after : List Node) :
    leadOf (row ++ after) = leadOf row := by
  induction row with
  | nil => exact absurd rfl h
  | cons n row ih =>
      cases hn : n.isElement with
      | true => simp [leadOf, hn]
      | false =>
          rw [elements_cons_of_not hn] at h
          simp [leadOf, hn, ih h]

/-- Up to the first element nothing is left out. -/
theorem leadOf_append_cons
    {row : List Node}
    (h : elements row = [])
    {n : Node}
    (hn : n.isElement = true)
    (after : List Node) :
    leadOf (row ++ n :: after) = some (writeRow row) := by
  induction row with
  | nil => simp [leadOf, hn]
  | cons m row ih =>
      cases hm : m.isElement with
      | true =>
          rw [elements_cons_of hm] at h
          cases h
      | false =>
          rw [elements_cons_of_not hm] at h
          simp [leadOf, hm, ih h]

/-- The first element found in a row stands behind the lead of the row. -/
theorem head?_rowElements
    (row : List Node)
    (offset : Nat) :
    ((rowElements offset row).head? = none ∧ leadOf row = none) ∨
      ∃ e lead rest, (rowElements offset row).head? = some e ∧ leadOf row = some lead ∧
        writeRow row = lead ++ rest ∧ e.outer.start = offset + byteSize lead := by
  induction row generalizing offset with
  | nil => exact Or.inl ⟨rfl, rfl⟩
  | cons n row ih =>
      cases hn : n.isElement with
      | true =>
          right
          obtain ⟨e, he⟩ := Node.exists_element hn offset
          refine ⟨e, [], writeRow (n :: row), by simp [rowElements, he], by simp [leadOf, hn], rfl,
            ?_⟩
          cases n with
          | piece p => cases he
          | empty name attributes =>
              cases he
              rfl
          | element name attributes content closing =>
              cases he
              rfl
      | false =>
          have hnone := n.element?_eq_none hn offset
          rcases ih (offset + byteSize n.write) with ⟨hhead, hlead⟩ |
            ⟨e, lead, rest, hhead, hlead, hrow, hstart⟩
          · left
            exact ⟨by simpa [rowElements, hnone] using hhead, by simp [leadOf, hn, hlead]⟩
          · right
            refine ⟨e, n.write ++ lead, rest, by simpa [rowElements, hnone] using hhead,
              by simp [leadOf, hn, hlead], by simp [hrow], ?_⟩
            rw [hstart, byteSize_append, Nat.add_assoc]

/-- The indentation of the first child of a node that stands behind a text. -/
def Node.firstIndent?
    (front : List Char)
    (n : Node) :
    Option (List Char) :=
  n.lead?.bind fun lead => indentAfter (front ++ lead)

end Markup

namespace Pom

open Text Markup

section Sites

variable {doc front back : List Char}
variable {e : Element}
variable {n : Node}

/-- The indentation of an element. -/
theorem lineIndent_outer
    (h : Site doc e n front back) :
    lineIndent doc e.outer.start = indentAfter front := by
  rw [h.outer_eq, h.written, lineIndent_eq_indentAfter]

/-- The indentation of the first child of an element. -/
theorem firstIndent?_eq
    (h : Site doc e n front back) :
    Layout.firstIndent? doc (e.children doc) = n.firstIndent? front := by
  rw [Layout.firstIndent?, h.represents.children_eq]
  cases n with
  | piece p => rfl
  | empty name attributes => rfl
  | element name attributes content closing =>
      rw [Node.content]
      rcases head?_rowElements content e.inner.start with ⟨hhead, hlead⟩ |
        ⟨c, lead, rest, hhead, hlead, hrow, hstart⟩
      · simp [hhead, Node.firstIndent?, Node.lead?, hlead]
      · have hdoc : doc = front ++ (openingTag name attributes ++ lead) ++
            (rest ++ closingTag name closing ++ back) := by
          simp [h.written, hrow]
        have hsize : c.outer.start = byteSize (front ++ (openingTag name attributes ++ lead)) := by
          rw [hstart, h.inner_start_eq]
          simp [Nat.add_assoc]
        simp only [hhead, Node.firstIndent?, Node.lead?, hlead, Option.bind_some, Option.map_some]
        rw [hsize, hdoc, lineIndent_eq_indentAfter]

/-- The indentation of a new child of a node that stands behind a text. -/
def Layout.indentBelow
    (l : Layout)
    (front : List Char)
    (n : Node) :
    List Char :=
  (n.firstIndent? front).getD ((indentAfter front).getD [] ++ l.unit)

theorem childIndent_eq
    (h : Site doc e n front back)
    (l : Layout) :
    l.childIndent doc e = l.indentBelow front n := by
  rw [Layout.childIndent, Layout.indentBelow, firstIndent?_eq h, lineIndent_outer h]

end Sites

/-! ## The layout of a tree -/

/-- The unit of a document whose root has an indentation, and whose first child below the root may
have one. -/
def unitBeyond
    (base : List Char)
    (first : Option (List Char)) :
    List Char :=
  ((first.bind (dropPrefix? base)).filter fun u => !u.isEmpty).getD Layout.defaultUnit

namespace ProjectDocument

/-- The layout of a document. -/
def layout (d : ProjectDocument) : Layout where
  unit :=
    unitBeyond ((indentAfter (writeRow d.before)).getD [])
      (d.root.firstIndent? (writeRow d.before))
  newline := if occursIn ['\r', '\n'] d.write then ['\r', '\n'] else ['\n']

/-- The project of a document is found at the root of the tree. -/
theorem exists_site (d : ProjectDocument) :
    ∃ project, project? d.write = some project ∧
      Site d.write project d.root (writeRow d.before) (writeRow d.after) := by
  obtain ⟨project, hproject, -, hread⟩ := d.project?_write
  exact ⟨project, hproject, rfl, hread⟩

/-- The layout is read from the written document. -/
theorem detect_eq
    (d : ProjectDocument)
    {project : Element}
    (h : Site d.write project d.root (writeRow d.before) (writeRow d.after)) :
    Layout.detect d.write project = d.layout := by
  simp only [Layout.detect, layout, unitBeyond, firstIndent?_eq h, lineIndent_outer h]

end ProjectDocument

end Pom
end Runbook
