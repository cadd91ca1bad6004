import Runbook.Proofs.Markup.Respacing

/-!
# Where elements stand

An element that is read from a document stands between a text before it and a text after it. The
site of an element names both texts and the node that is written there, so that what replaces the
element, or a part of its content, can be written as a document again.
-/

namespace Runbook
namespace Markup

open Text

/-- A node stands in a document between two texts, and is read there as an element. -/
structure Site
    (doc : List Char)
    (e : Element)
    (n : Node)
    (front back : List Char) : Prop where
  written : doc = front ++ (n.write ++ back)
  read : n.element? (byteSize front) = some e

namespace Site

variable {doc front back : List Char}
variable {e : Element}
variable {n : Node}

theorem represents
    (h : Site doc e n front back) :
    Represents doc e n :=
  ⟨byteSize front, ⟨front, back, by simp [h.written], rfl⟩, h.read⟩

theorem outer_eq
    (h : Site doc e n front back) :
    e.outer = ⟨byteSize front, byteSize front + byteSize n.write⟩ := by
  have hread := h.read
  cases n with
  | piece p => simp [Node.element?] at hread
  | empty name attributes =>
      cases hread
      rfl
  | element name attributes content closing =>
      cases hread
      simp [Nat.add_assoc]

/-- Something else in the place of an element. -/
theorem splice_outer
    (h : Site doc e n front back)
    (new : List Char) :
    splice doc e.outer new = front ++ (new ++ back) := by
  have hdoc : doc = front ++ n.write ++ back := by simp [h.written]
  rw [h.outer_eq, hdoc, splice_middle, List.append_assoc]

section Content

variable {name : Name}
variable {attributes closing : Attributes}
variable {content : List Node}

theorem inner_start_eq
    (h : Site doc e (.element name attributes content closing) front back) :
    e.inner.start = byteSize (front ++ openingTag name attributes) := by
  have hread := h.read
  cases hread
  simp

theorem inner_stop_eq
    (h : Site doc e (.element name attributes content closing) front back) :
    e.inner.stop = byteSize (front ++ openingTag name attributes ++ writeRow content) := by
  have hread := h.read
  cases hread
  simp [Nat.add_assoc]

/-- A row written alike may stand for the content. -/
theorem congr_content
    {content' : List Node}
    (h : Site doc e (.element name attributes content closing) front back)
    (hsame : writeRow content' = writeRow content) :
    Site doc e (.element name attributes content' closing) front back := by
  refine ⟨by simp [h.written, hsame], ?_⟩
  rw [← h.read]
  simp [Node.element?, hsame]

/-- Another text in the place of a part of the content. -/
theorem splice_text
    {before old after : List Node}
    (h : Site doc e (.element name attributes (before ++ (old ++ after)) closing) front back)
    (new : List Char) :
    splice doc
        ⟨e.inner.start + byteSize (writeRow before),
          e.inner.start + byteSize (writeRow before) + byteSize (writeRow old)⟩
        new =
      front ++ openingTag name attributes ++ writeRow before ++ new ++
        (writeRow after ++ closingTag name closing ++ back) := by
  have hstart : e.inner.start + byteSize (writeRow before) =
      byteSize (front ++ openingTag name attributes ++ writeRow before) := by
    rw [h.inner_start_eq, byteSize_append (front ++ _)]
  have hdoc : doc =
      front ++ openingTag name attributes ++ writeRow before ++ writeRow old ++
        (writeRow after ++ closingTag name closing ++ back) := by
    simp [h.written]
  rw [hstart, hdoc, splice_middle]

/-- Other nodes in the place of a part of the content. -/
theorem splice_content
    {before old after : List Node}
    (h : Site doc e (.element name attributes (before ++ (old ++ after)) closing) front back)
    (new : List Node) :
    splice doc
        ⟨e.inner.start + byteSize (writeRow before),
          e.inner.start + byteSize (writeRow before) + byteSize (writeRow old)⟩
        (writeRow new) =
      front ++ ((Node.element name attributes (before ++ (new ++ after)) closing).write ++ back) := by
  rw [h.splice_text]
  simp

/-- Only the same text in the place of a part of the content leaves the document as it is. -/
theorem splice_text_eq_iff
    {before old after : List Node}
    (h : Site doc e (.element name attributes (before ++ (old ++ after)) closing) front back)
    (new : List Char) :
    splice doc
        ⟨e.inner.start + byteSize (writeRow before),
          e.inner.start + byteSize (writeRow before) + byteSize (writeRow old)⟩
        new = doc ↔
      new = writeRow old := by
  have hdoc : doc =
      front ++ openingTag name attributes ++ writeRow before ++ writeRow old ++
        (writeRow after ++ closingTag name closing ++ back) := by
    simp [h.written]
  rw [h.splice_text]
  constructor
  · intro heq
    rw [hdoc] at heq
    exact List.append_cancel_left (List.append_cancel_right heq)
  · intro heq
    rw [heq, ← hdoc]

end Content

end Site

/-! ## Elements of a row -/

theorem Node.element?_eq_none
    {n : Node}
    (h : n.isElement = false)
    (offset : Nat) :
    n.element? offset = none := by
  cases n with
  | piece p => rfl
  | empty name attributes => simp [Node.isElement, Node.name?] at h
  | element name attributes content closing => simp [Node.isElement, Node.name?] at h

/-- The names of the elements of a row, in order. -/
def names (row : List Node) : List String :=
  row.filterMap Node.name?

@[simp] theorem names_append
    (row row' : List Node) :
    names (row ++ row') = names row ++ names row' :=
  List.filterMap_append

/-- Only elements have names. -/
theorem names_elements
    (row : List Node) :
    names (elements row) = names row := by
  induction row with
  | nil => rfl
  | cons n row ih =>
      cases hn : n.isElement with
      | true =>
          rw [elements_cons_of hn, names, names, List.filterMap_cons, List.filterMap_cons]
          rw [names, names] at ih
          rw [ih]
      | false =>
          have hname : n.name? = none := by simpa [Node.isElement] using hn
          rw [elements_cons_of_not hn, ih, names, names, List.filterMap_cons_none hname]

/-- The names of a row are those of the elements that are found in it. -/
theorem map_name_rowElements
    (row : List Node)
    (offset : Nat) :
    (rowElements offset row).map Element.name = names row := by
  induction row generalizing offset with
  | nil => rfl
  | cons n row ih =>
      cases hn : n.isElement with
      | true =>
          obtain ⟨e, he⟩ := Node.exists_element hn offset
          simp [rowElements, names, he, Node.name?_of_element? he, ih]
      | false =>
          have hname : n.name? = none := by simpa [Node.isElement] using hn
          simp [rowElements, names, n.element?_eq_none hn, hname, ih]

/-- Each element found in a row is read from a node of the row, and the others from the nodes before and
after it. -/
theorem exists_of_rowElements_eq_append
    {row : List Node}
    {offset : Nat}
    {front back : List Element}
    {e : Element}
    (h : rowElements offset row = front ++ e :: back) :
    ∃ before n after, row = before ++ n :: after ∧
      n.element? (offset + byteSize (writeRow before)) = some e ∧
      names before = front.map Element.name ∧ names after = back.map Element.name := by
  induction row generalizing offset front with
  | nil => simp [rowElements] at h
  | cons n row ih =>
      have hlater : ∀ front', rowElements (offset + byteSize n.write) row = front' ++ e :: back →
          (n.name?).toList ++ front'.map Element.name = front.map Element.name →
          ∃ before m after, n :: row = before ++ m :: after ∧
            m.element? (offset + byteSize (writeRow before)) = some e ∧
            names before = front.map Element.name ∧ names after = back.map Element.name := by
        intro front' hrow hnames
        obtain ⟨before, m, after, rfl, hm, hfront, hback⟩ := ih hrow
        refine ⟨n :: before, m, after, rfl, ?_, ?_, hback⟩
        · rw [writeRow_cons, byteSize_append, ← Nat.add_assoc]
          exact hm
        · rw [← hnames, ← hfront]
          cases hn : n.name? <;> simp [names, hn]
      cases helem : n.isElement with
      | false =>
          have hname : n.name? = none := by simpa [Node.isElement] using helem
          refine hlater front ?_ (by simp [hname])
          simpa [rowElements, n.element?_eq_none helem] using h
      | true =>
          obtain ⟨c, hn⟩ := Node.exists_element helem offset
          have hrow : c :: rowElements (offset + byteSize n.write) row = front ++ e :: back := by
            simpa [rowElements, hn] using h
          rcases List.cons_eq_append_iff.mp hrow with ⟨rfl, heq⟩ | ⟨front', rfl, hrest⟩
          · obtain ⟨rfl, rfl⟩ := List.cons.inj heq
            exact ⟨[], n, row, rfl, hn, rfl, (map_name_rowElements row _).symm⟩
          · exact hlater front' hrest (by simp [Node.name?_of_element? hn])

/-- The first element of a name is read from the first node of that name, or there is neither. -/
theorem find?_rowElements
    (row : List Node)
    (offset : Nat)
    (name : String) :
    ((rowElements offset row).find? (fun e => e.name = name) = none ∧
      ∀ m ∈ elements row, m.isNamed name = false) ∨
    ∃ before n after e, row = before ++ n :: after ∧
      (∀ m ∈ elements before, m.isNamed name = false) ∧ n.isNamed name = true ∧
      n.element? (offset + byteSize (writeRow before)) = some e ∧
      (rowElements offset row).find? (fun e => e.name = name) = some e := by
  induction row generalizing offset with
  | nil => exact Or.inl ⟨rfl, by simp⟩
  | cons n row ih =>
      cases hn : n.isElement with
      | false =>
          have hnone := n.element?_eq_none hn offset
          rcases ih (offset + byteSize n.write) with ⟨hfind, hall⟩ |
            ⟨before, m, after, e, rfl, hfirst, hm, he, hfind⟩
          · left
            exact ⟨by simpa [rowElements, hnone] using hfind,
              by simpa [elements_cons_of_not hn] using hall⟩
          · right
            refine ⟨n :: before, m, after, e, rfl, ?_, hm, ?_, ?_⟩
            · simpa [elements_cons_of_not hn] using hfirst
            · simpa [Nat.add_assoc] using he
            · simpa [rowElements, hnone] using hfind
      | true =>
          obtain ⟨e, he⟩ := Node.exists_element hn offset
          have hname := Node.name?_of_element? he
          by_cases heq : e.name = name
          · right
            refine ⟨[], n, row, e, rfl, by simp, by simp [Node.isNamed, hname, heq], by simpa using he,
              by simp [rowElements, he, heq]⟩
          · have hother : n.isNamed name = false := by simp [Node.isNamed, hname, heq]
            rcases ih (offset + byteSize n.write) with ⟨hfind, hall⟩ |
              ⟨before, m, after, f, rfl, hfirst, hm, hf, hfind⟩
            · left
              refine ⟨by simpa [rowElements, he, heq] using hfind, ?_⟩
              rw [elements_cons_of hn]
              intro m hm
              rcases List.mem_cons.mp hm with rfl | hm
              · exact hother
              · exact hall m hm
            · right
              refine ⟨n :: before, m, after, f, rfl, ?_, hm, ?_, ?_⟩
              · rw [elements_cons_of hn]
                intro k hk
                rcases List.mem_cons.mp hk with rfl | hk
                · exact hother
                · exact hfirst k hk
              · simpa [Nat.add_assoc] using hf
              · simpa [rowElements, he, heq] using hfind

namespace Site

variable {doc front back : List Char}
variable {e c : Element}
variable {name : Name}
variable {attributes closing : Attributes}
variable {before after : List Node}
variable {m : Node}

/-- A node of the content stands where its element is read. -/
theorem child
    (h : Site doc e (.element name attributes (before ++ m :: after) closing) front back)
    (hread : m.element? (e.inner.start + byteSize (writeRow before)) = some c) :
    Site doc c m (front ++ openingTag name attributes ++ writeRow before)
      (writeRow after ++ closingTag name closing ++ back) := by
  refine ⟨by simp [h.written], ?_⟩
  rw [byteSize_append, ← h.inner_start_eq]
  exact hread

end Site

/-! ## Blanks at the end of a row -/

/-- Blanks hold no elements. -/
theorem elements_eq_nil_of_allBlank
    {row : List Node}
    (h : allBlank (writeRow row) = true) :
    elements row = [] := by
  induction row with
  | nil => rfl
  | cons n row ih =>
      rw [writeRow_cons, allBlank_append, Bool.and_eq_true] at h
      cases hn : n.isElement with
      | false => rw [elements_cons_of_not hn, ih h.2]
      | true =>
          have hhead := (Node.write_bracketed (Node.isText_of_isElement hn)).1
          have hblank := isBlank_of_mem h.1 (List.mem_of_head? hhead)
          exact absurd hblank (by decide)

/-- Blanks at the end of a row may be cut off, and its elements stay. -/
theorem exists_row_of_blank_end
    {row : List Node}
    {u w : List Char}
    (h : writeRow row = u ++ w)
    (hw : allBlank w = true) :
    ∃ row', writeRow row' = u ∧ elements row' = elements row := by
  induction row generalizing u with
  | nil =>
      obtain ⟨rfl, -⟩ := List.append_eq_nil_iff.mp h.symm
      exact ⟨[], rfl, rfl⟩
  | cons n row ih =>
      rw [writeRow_cons] at h
      rcases List.append_eq_append_iff.mp h with ⟨a, rfl, hrow⟩ | ⟨b, hn, rfl⟩
      · obtain ⟨row', rfl, hsame⟩ := ih hrow
        refine ⟨n :: row', rfl, ?_⟩
        cases helem : n.isElement with
        | false => rw [elements_cons_of_not helem, elements_cons_of_not helem, hsame]
        | true => rw [elements_cons_of helem, elements_cons_of helem, hsame]
      · rw [allBlank_append, Bool.and_eq_true] at hw
        have hrest := elements_eq_nil_of_allBlank hw.2
        cases hmarkup : n.isText with
        | true =>
            obtain ⟨s, hs, rfl⟩ := Node.exists_of_isText hmarkup
            have hs' : s = u ++ b := hn
            have hu : '<' ∉ u := fun hlt => hs (by simp [hs', hlt])
            exact ⟨[.piece (.text u hu)], by simp [Piece.write], by simp [hrest]⟩
        | false =>
            -- Markup ends with a bracket, so no blank is cut off it.
            have hb : b = [] := by
              rcases List.eq_nil_or_concat b with rfl | ⟨b', c, rfl⟩
              · rfl
              · have hlast : n.write.getLast? = some c := by
                  rw [hn, List.concat_eq_append, ← List.append_assoc, List.getLast?_concat]
                have hvisible := Node.last_not_blank hmarkup c hlast
                have hblank : isBlank c = true := isBlank_of_mem hw.1 (by simp)
                rw [hblank] at hvisible
                cases hvisible
            rw [hb, List.append_nil] at hn
            refine ⟨[n], by simp [hn], ?_⟩
            have hcons : elements [n] = elements (n :: row) := by
              cases helem : n.isElement with
              | false => rw [elements_cons_of_not helem, elements_cons_of_not helem, hrest]; rfl
              | true => rw [elements_cons_of helem, elements_cons_of helem, hrest]; rfl
            exact hcons

end Markup
end Runbook
