import Runbook.Proofs.Markup.Scanning

/-!
# Recovering elements from written trees

The reader finds in a written row exactly the elements of the row, each with its name, its kind of
tag and the ranges of its tags and of its content. Elements are found wherever the row stands in a
document, so the children of an element are found from its range alone.

Main statements: `elementsIn_row` and `root?_write`.
-/

namespace Runbook
namespace Markup

open Text

/-! ## The tags of a row -/

mutual

/-- The tags of a node that stands at an offset. -/
def Node.tags
    (offset : Nat) :
    Node → List Tag
  | .piece _ => []
  | .empty name attributes =>
      [⟨String.ofList name.chars,
        ⟨offset, offset + byteSize (emptyTag name attributes)⟩, false, true⟩]
  | .element name attributes content closing =>
      let start := offset + byteSize (openingTag name attributes)
      let stop := start + byteSize (writeRow content)
      ⟨String.ofList name.chars, ⟨offset, start⟩, false, false⟩ ::
        (rowTags start content ++
          [⟨String.ofList name.chars,
            ⟨stop, stop + byteSize (closingTag name closing)⟩, true, false⟩])

/-- The tags of a row that begins at an offset. -/
def rowTags
    (offset : Nat) :
    List Node → List Tag
  | [] => []
  | n :: row => n.tags offset ++ rowTags (offset + byteSize n.write) row

end

namespace Scans

/-- Text without a `<` has no tags. -/
theorem of_plain
    {s : List Char}
    (hs : '<' ∉ s) :
    Scans s (fun _ => []) := by
  intro offset rest
  exact ⟨[], [], tagsFrom_plain s rest offset hs, shieldsFrom_plain s rest offset hs, by simp,
    by simp, rfl⟩

/-- What is read as a shield has no tags. -/
theorem of_shield
    {s : List Char}
    (hread : ∀ rest, shieldAt? (s ++ rest) = some s.length)
    (hlast : s.getLast? = some '>') :
    Scans s (fun _ => []) := by
  intro offset rest
  have hs : s ≠ [] := by
    rintro rfl
    simp at hlast
  obtain ⟨inside, hscan, hin⟩ :=
    tagsFrom_closed rest s offset 0 (Nat.zero_le _) (Or.inr hlast)
  have hfrom : ∀ t ∈ inside, offset ≤ t.span.start := fun t ht =>
    start_of_mem_tagsFrom (s ++ rest) offset 0 t (by simp [hscan, ht])
  refine ⟨inside, [⟨offset, offset + byteSize s⟩], hscan,
    shieldsFrom_shield offset (hread rest) hs, fun t ht => ⟨hfrom t ht, hin t ht⟩, by simp, ?_⟩
  rw [List.filter_eq_nil_iff]
  intro t ht
  have h₁ := hfrom t ht
  have h₂ := hin t ht
  simp [Span.covers, h₁, h₂]

/-- What is read as a tag has that tag only. -/
theorem of_tag
    {c : Char}
    {s : List Char}
    {name : List Char}
    {closing selfClosing : Bool}
    (hread : ∀ rest, tagAt? ('<' :: c :: s ++ rest) =
      some ⟨name, closing, selfClosing, ('<' :: c :: s).length⟩)
    (hc : c ≠ '!')
    (hs : '<' ∉ c :: s) :
    Scans ('<' :: c :: s) (fun offset =>
      [⟨String.ofList name, ⟨offset, offset + byteSize ('<' :: c :: s)⟩, closing, selfClosing⟩]) := by
  intro offset rest
  have hpos := byteSize_pos (List.cons_ne_nil '<' (c :: s))
  refine ⟨[_], [], tagsFrom_tag offset (hread rest) rfl (by simp),
    shieldsFrom_markup rest offset hc hs, ?_, by simp, rfl⟩
  intro t ht
  have ht' := List.mem_singleton.mp ht
  subst ht'
  exact ⟨Nat.le_refl _, Nat.lt_add_of_pos_right hpos⟩

theorem piece (p : Piece) :
    Scans p.write (fun _ => []) := by
  cases p with
  | text s plain => exact of_plain plain
  | comment body open_ =>
      exact of_shield (fun rest => shieldAt?_comment body rest open_) (by
        rw [Piece.write, List.getLast?_append]
        rfl)
  | characterData body open_ =>
      exact of_shield (fun rest => shieldAt?_characterData body rest open_) (by
        rw [Piece.write, List.getLast?_append]
        rfl)
  | declaration body plain =>
      intro offset rest
      have hplain : '<' ∉ '?' :: (body ++ ['?', '>']) := by simp [plain]
      refine ⟨[], [], ?_, shieldsFrom_markup rest offset (by decide) hplain, by simp, by simp, rfl⟩
      have hnone : tagAt? ('<' :: '?' :: (body ++ ['?', '>'] ++ rest)) = none := by
        simp [tagAt?, tagBody?, startsName]
      have hrest := tagsFrom_plain ('?' :: (body ++ ['?', '>'])) rest (offset + '<'.utf8Size) hplain
      rw [List.cons_append] at hrest
      simp only [Piece.write, List.cons_append, List.nil_append]
      rw [tagsFrom_of_none offset hnone, hrest]
      simp [Nat.add_assoc]

/-- A name in a tag is no declaration and holds no `<`. -/
theorem name_shape (name : Name) :
    ∃ c s, name.chars = c :: s ∧ c ≠ '!' ∧ '<' ∉ name.chars := by
  obtain ⟨c, s, h, hc, -⟩ := name.named
  refine ⟨c, s, h, startsName_ne hc (by decide), fun hlt => ?_⟩
  have hcont := name.continues hlt
  exact absurd hcont (by decide)

theorem openingTag
    (name : Name)
    (attributes : Attributes) :
    Scans (openingTag name attributes) (fun offset =>
      [⟨String.ofList name.chars,
        ⟨offset, offset + byteSize (Markup.openingTag name attributes)⟩, false, false⟩]) := by
  have hread := tagAt?_openingTag name attributes
  have hlt := attributes.lt_not_mem
  obtain ⟨c, s, h, hc, hname⟩ := name_shape name
  simp only [Markup.openingTag, h, List.cons_append] at hread ⊢
  rw [h] at hname
  exact of_tag hread hc (by simp_all)

theorem emptyTag
    (name : Name)
    (attributes : Attributes) :
    Scans (emptyTag name attributes) (fun offset =>
      [⟨String.ofList name.chars,
        ⟨offset, offset + byteSize (Markup.emptyTag name attributes)⟩, false, true⟩]) := by
  have hread := tagAt?_emptyTag name attributes
  have hlt := attributes.lt_not_mem
  obtain ⟨c, s, h, hc, hname⟩ := name_shape name
  simp only [Markup.emptyTag, h, List.cons_append] at hread ⊢
  rw [h] at hname
  exact of_tag hread hc (by simp_all)

theorem closingTag
    (name : Name)
    (closing : Attributes) :
    Scans (closingTag name closing) (fun offset =>
      [⟨String.ofList name.chars,
        ⟨offset, offset + byteSize (Markup.closingTag name closing)⟩, true, false⟩]) := by
  have hread := tagAt?_closingTag name closing
  have hlt := closing.lt_not_mem
  obtain ⟨c, s, h, hc, hname⟩ := name_shape name
  simp only [Markup.closingTag] at hread ⊢
  exact of_tag hread (by decide) (by simp_all)

end Scans

mutual

/-- A node is scanned on its own. -/
theorem scans_node :
    ∀ n : Node, Scans n.write (fun offset => n.tags offset)
  | .piece p => Scans.piece p
  | .empty name attributes => Scans.emptyTag name attributes
  | .element name attributes content closing => by
      have h :=
        (Scans.openingTag name attributes).append
          ((scans_row content).append (Scans.closingTag name closing))
      exact h

/-- A row is scanned on its own. -/
theorem scans_row :
    ∀ row : List Node, Scans (writeRow row) (fun offset => rowTags offset row)
  | [] => Scans.of_plain (by simp)
  | n :: row => (scans_node n).append (scans_row row)

end

/-- The tags of a written row. -/
theorem tagsOf_row
    (row : List Node)
    (offset : Nat) :
    tagsOf offset (writeRow row) = rowTags offset row := by
  have h := (scans_row row).tagsOf_append offset []
  simpa [tagsOf, tagsFrom] using h

/-! ## The elements of a row -/

/-- An opening tag waits for its closing tag. -/
theorem elementsOf_opening
    {t : Tag}
    (hself : t.selfClosing = false)
    (hclosing : t.closing = false)
    (rest stack : List Tag) :
    elementsOf (t :: rest) stack = elementsOf rest (t :: stack) := by
  simp [elementsOf, hself, hclosing]

/-- A tag completes an element, alone or with a tag that is still open, or the search goes on with tags
open that were open before or this one. -/
theorem mem_elementsOf_cons
    {t : Tag}
    {rest stack : List Tag}
    {e : Element}
    (h : e ∈ elementsOf (t :: rest) stack) :
    e = Element.ofEmptyTag t ∨ (∃ x ∈ stack, e = Element.between x t) ∨
      ∃ stack', stack' ⊆ t :: stack ∧ e ∈ elementsOf rest stack' := by
  simp only [elementsOf] at h
  split at h
  · split at h
    · rcases List.mem_cons.mp h with rfl | h
      · exact Or.inl rfl
      · exact Or.inr (Or.inr ⟨stack, by simp, h⟩)
    · exact Or.inr (Or.inr ⟨stack, by simp, h⟩)
  · split at h
    · exact Or.inr (Or.inr ⟨t :: stack, fun _ hx => hx, h⟩)
    · split at h
      · simp at h
      · rename_i opening outer
        have hsub : outer ⊆ t :: opening :: outer := fun x hx => by simp [hx]
        split at h
        · split at h
          · rcases List.mem_cons.mp h with rfl | h
            · exact Or.inr (Or.inl ⟨opening, by simp, rfl⟩)
            · exact Or.inr (Or.inr ⟨outer, hsub, h⟩)
          · exact Or.inr (Or.inr ⟨outer, hsub, h⟩)
        · simp at h

/-- An element is made of an empty tag or of an opening and a closing one. -/
theorem exists_tags_of_mem_elementsOf
    {tags stack : List Tag}
    {e : Element}
    (h : e ∈ elementsOf tags stack) :
    (∃ x ∈ tags, e = Element.ofEmptyTag x) ∨
      ∃ x ∈ tags ++ stack, ∃ y ∈ tags, e = Element.between x y := by
  induction tags generalizing stack with
  | nil => simp [elementsOf] at h
  | cons t rest ih =>
      rcases mem_elementsOf_cons h with rfl | ⟨x, hx, rfl⟩ | ⟨stack', hsub, hmem⟩
      · exact Or.inl ⟨t, by simp, rfl⟩
      · exact Or.inr ⟨x, by simp [hx], t, by simp, rfl⟩
      · rcases ih hmem with ⟨x, hx, he⟩ | ⟨x, hx, y, hy, he⟩
        · exact Or.inl ⟨x, List.mem_cons_of_mem _ hx, he⟩
        · refine Or.inr ⟨x, ?_, y, List.mem_cons_of_mem _ hy, he⟩
          rcases List.mem_append.mp hx with hx | hx
          · simp [hx]
          · rcases List.mem_cons.mp (hsub hx) with rfl | hx
            · simp
            · simp [hx]

mutual

/-- The tags of an element make one element; inside an open element they make none. -/
theorem elementsOf_node :
    ∀ (n : Node) (offset : Nat) (rest stack : List Tag),
      elementsOf (n.tags offset ++ rest) stack =
        if stack.isEmpty then (n.element? offset).toList ++ elementsOf rest stack
        else elementsOf rest stack
  | .piece p, offset, rest, stack => by
      cases stack <;> rfl
  | .empty name attributes, offset, rest, stack => by
      cases stack <;> rfl
  | .element name attributes content closing, offset, rest, stack => by
      have hinside := elementsOf_row content (offset + byteSize (openingTag name attributes))
      simp only [Node.tags, List.cons_append, List.append_assoc, List.nil_append]
      rw [elementsOf_opening rfl rfl, hinside]
      cases stack <;> simp [elementsOf, Node.element?, Element.between]

/-- The tags of a row make its elements; inside an open element they make none. -/
theorem elementsOf_row :
    ∀ (row : List Node) (offset : Nat) (rest stack : List Tag),
      elementsOf (rowTags offset row ++ rest) stack =
        if stack.isEmpty then rowElements offset row ++ elementsOf rest stack
        else elementsOf rest stack
  | [], offset, rest, stack => by
      cases stack <;> rfl
  | n :: row, offset, rest, stack => by
      have hnode := elementsOf_node n offset (rowTags (offset + byteSize n.write) row ++ rest) stack
      have hrow := elementsOf_row row (offset + byteSize n.write) rest stack
      simp only [rowTags, rowElements, List.append_assoc]
      rw [hnode, hrow]
      cases stack <;> rfl

end

/-- The elements in the range of a row are those of the row, wherever it stands. -/
theorem elementsIn_row
    {doc : List Char}
    {offset : Nat}
    {row : List Node}
    (h : StandsAt doc offset (writeRow row)) :
    elementsIn doc ⟨offset, offset + byteSize (writeRow row)⟩ = rowElements offset row := by
  have hrow := elementsOf_row row offset [] []
  simp only [List.append_nil, elementsOf] at hrow
  simp only [elementsIn, tagsIn, h.slice?_eq, tagsOf_row, hrow]
  rfl

@[simp] theorem rowElements_append
    (row row' : List Node)
    (offset : Nat) :
    rowElements offset (row ++ row') =
      rowElements offset row ++ rowElements (offset + byteSize (writeRow row)) row' := by
  induction row generalizing offset with
  | nil => simp [rowElements]
  | cons n row ih => simp [rowElements, ih, Nat.add_assoc]

/-- A row without elements has none. -/
theorem rowElements_eq_nil
    {row : List Node}
    (h : elements row = [])
    (offset : Nat) :
    rowElements offset row = [] := by
  induction row generalizing offset with
  | nil => rfl
  | cons n row ih =>
      cases n with
      | piece p => exact ih (by simpa [elements, Node.isElement, Node.name?] using h) _
      | empty name attributes => simp [elements, Node.isElement, Node.name?] at h
      | element name attributes content closing =>
          simp [elements, Node.isElement, Node.name?] at h

/-- Where the element that a node is stands. -/
theorem Node.exists_element
    {n : Node}
    (h : n.isElement = true)
    (offset : Nat) :
    ∃ e, n.element? offset = some e := by
  cases n with
  | piece p => simp [Node.isElement, Node.name?] at h
  | empty name attributes => exact ⟨_, rfl⟩
  | element name attributes content closing => exact ⟨_, rfl⟩

/-- The root of a written document is found. -/
theorem root?_write (d : Document) :
    root? d.write = d.root.element? (byteSize (writeRow d.before)) := by
  obtain ⟨e, he⟩ := Node.exists_element d.root_element (byteSize (writeRow d.before))
  have hrow : d.write = writeRow (d.before ++ d.root :: d.after) := by
    simp [Document.write]
  have hstands : StandsAt d.write 0 (writeRow (d.before ++ d.root :: d.after)) :=
    hrow ▸ StandsAt.whole d.write
  have hall := elementsIn_row hstands
  rw [Nat.zero_add, ← hrow] at hall
  rw [root?, hall, rowElements_append, rowElements_eq_nil d.before_plain]
  simp [rowElements, he]

end Markup
end Runbook
