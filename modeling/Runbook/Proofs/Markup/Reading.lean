import Runbook.Proofs.Markup.Recovery

/-!
# Reading a tree

Children and texts of an element, said of its node. An element found in a document stands for a
node when the node is written where the element is; then what the reader takes from the document
through the element is what the tree says of the node.
-/

namespace Runbook
namespace Markup

open Text

/-- The content of a node as text. -/
def Node.text (n : Node) : String :=
  String.ofList (decodeEntities (trim (writeRow n.content)))

/-- Whether a node is an element of a name. -/
def Node.isNamed
    (name : String)
    (n : Node) :
    Bool :=
  n.name? = some name

theorem Node.isElement_of_isNamed
    {n : Node}
    {name : String}
    (h : n.isNamed name = true) :
    n.isElement = true := by
  simp only [Node.isNamed, decide_eq_true_eq] at h
  simp [Node.isElement, h]

/-- The first element of a name in a row. -/
def child?
    (row : List Node)
    (name : String) :
    Option Node :=
  (elements row).find? (Node.isNamed name)

/-- The elements of a name in a row. -/
def childrenNamed
    (row : List Node)
    (name : String) :
    List Node :=
  (elements row).filter (Node.isNamed name)

/-- The text of the first element of a name in a row, unless it is empty. -/
def field?
    (row : List Node)
    (name : String) :
    Option String :=
  ((child? row name).map Node.text).filter fun t => t ≠ ""

/-- Whether a node is written as an empty tag. -/
def Node.isEmptyTag : Node → Bool
  | .empty _ _ => true
  | _ => false

theorem Node.name?_of_element?
    {n : Node}
    {offset : Nat}
    {e : Element}
    (h : n.element? offset = some e) :
    n.name? = some e.name := by
  cases n with
  | piece p => simp [Node.element?] at h
  | empty name attributes =>
      cases h
      rfl
  | element name attributes content closing =>
      cases h
      rfl

/-- An element of a document stands for a node. -/
def Represents
    (doc : List Char)
    (e : Element)
    (n : Node) :
    Prop :=
  ∃ offset, StandsAt doc offset n.write ∧ n.element? offset = some e

namespace Represents

variable {doc : List Char}
variable {e : Element}
variable {n : Node}

theorem name?_eq
    (h : Represents doc e n) :
    n.name? = some e.name := by
  obtain ⟨offset, -, he⟩ := h
  exact Node.name?_of_element? he

theorem isNamed_eq
    (h : Represents doc e n)
    (name : String) :
    n.isNamed name = decide (e.name = name) := by
  simp [Node.isNamed, h.name?_eq]

theorem selfClosing_eq
    (h : Represents doc e n) :
    e.selfClosing = n.isEmptyTag := by
  obtain ⟨offset, -, he⟩ := h
  cases n with
  | piece p => simp [Node.element?] at he
  | empty name attributes =>
      cases he
      rfl
  | element name attributes content closing =>
      cases he
      rfl

theorem outer_stands
    (h : Represents doc e n) :
    StandsAt doc e.outer.start n.write ∧
      e.outer.stop = e.outer.start + byteSize n.write := by
  obtain ⟨offset, hstands, he⟩ := h
  cases n with
  | piece p => simp [Node.element?] at he
  | empty name attributes =>
      cases he
      exact ⟨hstands, rfl⟩
  | element name attributes content closing =>
      cases he
      exact ⟨hstands, by simp [Nat.add_assoc]⟩

/-- The content of a node stands in the inner range of its element. -/
theorem inner_stands
    (h : Represents doc e n) :
    StandsAt doc e.inner.start (writeRow n.content) ∧
      e.inner.stop = e.inner.start + byteSize (writeRow n.content) := by
  obtain ⟨offset, hstands, he⟩ := h
  cases n with
  | piece p => simp [Node.element?] at he
  | empty name attributes =>
      cases he
      have hend : StandsAt doc offset (emptyTag name attributes ++ []) := by
        simpa using hstands
      exact ⟨hend.right, rfl⟩
  | element name attributes content closing =>
      cases he
      exact ⟨hstands.right.left, rfl⟩

theorem slice?_outer
    (h : Represents doc e n) :
    slice? doc e.outer = some n.write := by
  obtain ⟨hstands, hstop⟩ := h.outer_stands
  have hrange : e.outer = ⟨e.outer.start, e.outer.start + byteSize n.write⟩ := by
    rw [← hstop]
  rw [hrange]
  exact hstands.slice?_eq

/-- The ranges of the tags around the content of an element. -/
theorem slice?_tags
    {name : Name}
    {attributes closing : Attributes}
    {content : List Node}
    (h : Represents doc e (.element name attributes content closing)) :
    slice? doc ⟨e.outer.start, e.inner.start⟩ = some (openingTag name attributes) ∧
      slice? doc ⟨e.inner.stop, e.outer.stop⟩ = some (closingTag name closing) := by
  obtain ⟨offset, hstands, he⟩ := h
  cases he
  exact ⟨hstands.left.slice?_eq, hstands.right.right.slice?_eq⟩

theorem slice_inner
    (h : Represents doc e n) :
    slice doc e.inner = writeRow n.content := by
  obtain ⟨hstands, hstop⟩ := h.inner_stands
  have hrange : e.inner = ⟨e.inner.start, e.inner.start + byteSize (writeRow n.content)⟩ := by
    rw [← hstop]
  rw [hrange]
  exact hstands.slice_eq

theorem text_eq
    (h : Represents doc e n) :
    e.text doc = n.text := by
  simp [Element.text, Node.text, h.slice_inner]

theorem children_eq
    (h : Represents doc e n) :
    e.children doc = rowElements e.inner.start n.content := by
  obtain ⟨hstands, hstop⟩ := h.inner_stands
  have hrange : e.inner = ⟨e.inner.start, e.inner.start + byteSize (writeRow n.content)⟩ := by
    rw [← hstop]
  rw [Element.children, hrange]
  exact elementsIn_row hstands

end Represents

/-- The elements found in a row stand for its elements, one by one. -/
theorem rowElements_represent
    {doc : List Char}
    {row : List Node}
    {offset : Nat}
    (h : StandsAt doc offset (writeRow row)) :
    List.Forall₂ (Represents doc) (rowElements offset row) (elements row) := by
  induction row generalizing offset with
  | nil => exact List.Forall₂.nil
  | cons n row ih =>
      have hrest := ih h.right
      cases hn : n.isElement with
      | false =>
          have hnone : n.element? offset = none := by
            cases n with
            | piece p => rfl
            | empty name attributes => simp [Node.isElement, Node.name?] at hn
            | element name attributes content closing =>
                simp [Node.isElement, Node.name?] at hn
          simpa [rowElements, hnone, elements, hn] using hrest
      | true =>
          obtain ⟨e, he⟩ := Node.exists_element hn offset
          have hfirst : Represents doc e n := ⟨offset, h.left, he⟩
          simpa [rowElements, he, elements, hn] using List.Forall₂.cons hfirst hrest

section Correspondence

variable {doc : List Char}
variable {es : List Element}
variable {ns : List Node}

/-- Corresponding rows have corresponding elements of a name. -/
theorem filter_represents
    (h : List.Forall₂ (Represents doc) es ns)
    (name : String) :
    List.Forall₂ (Represents doc) (es.filter fun e => e.name = name)
      (ns.filter (Node.isNamed name)) := by
  induction h with
  | nil => exact List.Forall₂.nil
  | cons hfirst hrest ih =>
      rename_i e n es ns
      have hname := hfirst.isNamed_eq name
      by_cases heq : e.name = name
      · simpa [hname, heq] using List.Forall₂.cons hfirst ih
      · simpa [hname, heq] using ih

/-- The first of a name is found in both rows or in neither. -/
theorem find?_represents
    (h : List.Forall₂ (Represents doc) es ns)
    (name : String) :
    Option.Rel (Represents doc) (es.find? fun e => e.name = name)
      (ns.find? (Node.isNamed name)) := by
  induction h with
  | nil => exact Option.Rel.none
  | cons hfirst hrest ih =>
      rename_i e n es ns
      have hname := hfirst.isNamed_eq name
      by_cases heq : e.name = name
      · simpa [hname, heq] using Option.Rel.some hfirst
      · simpa [hname, heq] using ih

/-- What agrees on corresponding elements agrees on corresponding rows. -/
theorem map_represents
    {α : Type}
    {f : Element → α}
    {g : Node → α}
    (hfg : ∀ e n, Represents doc e n → f e = g n)
    (h : List.Forall₂ (Represents doc) es ns) :
    es.map f = ns.map g := by
  induction h with
  | nil => rfl
  | cons hfirst hrest ih => simp [hfg _ _ hfirst, ih]

end Correspondence

namespace Represents

variable {doc : List Char}
variable {e : Element}
variable {n : Node}

theorem children
    (h : Represents doc e n) :
    List.Forall₂ (Represents doc) (e.children doc) (elements n.content) := by
  rw [h.children_eq]
  exact rowElements_represent h.inner_stands.1

theorem child?
    (h : Represents doc e n)
    (name : String) :
    Option.Rel (Represents doc) (e.child? doc name) (Markup.child? n.content name) :=
  find?_represents h.children name

theorem childrenNamed
    (h : Represents doc e n)
    (name : String) :
    List.Forall₂ (Represents doc) (e.childrenNamed doc name)
      (Markup.childrenNamed n.content name) :=
  filter_represents h.children name

theorem childText?_eq
    (h : Represents doc e n)
    (name : String) :
    e.childText? doc name = field? n.content name := by
  have hchild := h.child? name
  simp only [Element.childText?, field?]
  generalize e.child? doc name = o at hchild ⊢
  generalize Markup.child? n.content name = o' at hchild ⊢
  cases hchild with
  | none => rfl
  | some hcm => simp [hcm.text_eq]

end Represents

/-- The root of a written document stands for the root of its tree. -/
theorem root?_represents (d : Document) :
    ∃ e, root? d.write = some e ∧ Represents d.write e d.root := by
  obtain ⟨e, he⟩ := Node.exists_element d.root_element (byteSize (writeRow d.before))
  refine ⟨e, by rw [root?_write, he], byteSize (writeRow d.before), ?_, he⟩
  exact ⟨writeRow d.before, writeRow d.after, by simp [Document.write], rfl⟩

end Markup
end Runbook
