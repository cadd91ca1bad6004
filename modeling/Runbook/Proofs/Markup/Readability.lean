import Runbook.Proofs.Markup.Recovery
import Runbook.Proofs.Markup.Xml

/-!
# Which documents are read

A document of XML is read as a tree unless an attribute value ends a tag too early. A `>` in a value of
an opening tag does no harm: the rest of the value is text. In an empty tag it makes an opening tag of
it that nothing closes, unless a slash stands before it, and then the row of tags never closes the root,
so that no root is found.

Main statements: `Document.exists_veiled` and `Document.root?_eq_none`.
-/

namespace Runbook
namespace Markup

open Text

/-! ## Rows that leave tags open -/

/-- With a number of tags open, a row of tags never closes the last of them. -/
def StaysOpen : Nat → List Tag → Prop
  | n, [] => 0 < n
  | n, t :: rest =>
      if t.selfClosing then StaysOpen n rest
      else if t.closing then 1 < n ∧ StaysOpen (n - 1) rest
      else StaysOpen (n + 1) rest

/-- A row that never closes the first tag makes no element. -/
theorem elementsOf_eq_nil
    {row stack : List Tag}
    (hstack : stack ≠ [])
    (h : StaysOpen stack.length row) :
    elementsOf row stack = [] := by
  induction row generalizing stack with
  | nil => rfl
  | cons t rest ih =>
      have hempty : stack.isEmpty = false := by simpa using hstack
      simp only [StaysOpen] at h
      simp only [elementsOf, hempty]
      cases hself : t.selfClosing with
      | true =>
          rw [hself, if_pos rfl] at h
          simpa using ih hstack h
      | false =>
          rw [hself, if_neg (by simp)] at h
          cases hclosing : t.closing with
          | false =>
              rw [hclosing, if_neg (by simp)] at h
              simpa using ih (List.cons_ne_nil t stack) h
          | true =>
              rw [hclosing, if_pos rfl] at h
              obtain ⟨opening, outer, rfl⟩ := List.exists_cons_of_ne_nil hstack
              have houter : outer ≠ [] := by
                rintro rfl
                simp at h
              have hmore := ih houter (by simpa using h.2)
              simp [houter, hmore]

/-- A row that begins with an opening tag and never closes it makes no element. -/
theorem elementsOf_cons_eq_nil
    {t : Tag}
    {row : List Tag}
    (hself : t.selfClosing = false)
    (hclosing : t.closing = false)
    (h : StaysOpen 1 row) :
    elementsOf (t :: row) [] = [] := by
  rw [elementsOf_opening hself hclosing]
  exact elementsOf_eq_nil (by simp) h

/-- A row of tags that opens `k` tags more than it closes, and closes none that was open before. -/
def Climbs
    (k : Nat)
    (row : List Tag) :
    Prop :=
  ∀ (n : Nat) (rest : List Tag), 0 < n → StaysOpen (n + k) rest → StaysOpen n (row ++ rest)

namespace Climbs

variable {k k' : Nat}
variable {row row' : List Tag}
variable {opening closing : Tag}

theorem nil : Climbs 0 [] := fun _ _ _ h => h

theorem append
    (h : Climbs k row)
    (h' : Climbs k' row') :
    Climbs (k + k') (row ++ row') := by
  intro n rest hn hrest
  rw [List.append_assoc]
  refine h n _ hn (h' (n + k) rest (by omega) ?_)
  rwa [Nat.add_assoc]

theorem opened
    (hself : opening.selfClosing = false)
    (hclosing : opening.closing = false) :
    Climbs 1 [opening] := by
  intro n rest hn hrest
  simpa [StaysOpen, hself, hclosing] using hrest

theorem alone
    (hself : opening.selfClosing = true) :
    Climbs 0 [opening] := by
  intro n rest hn hrest
  simpa [StaysOpen, hself] using hrest

/-- Behind an opening tag a closing tag closes nothing else. -/
theorem between
    (hopen : Climbs 1 [opening])
    (h : Climbs k row)
    (hself : closing.selfClosing = false)
    (hclosing : closing.closing = true) :
    Climbs k ([opening] ++ (row ++ [closing])) := by
  intro n rest hn hrest
  rw [← List.append_assoc, List.append_assoc]
  refine (hopen.append h) n _ hn ?_
  have hpred : n + (1 + k) - 1 = n + k := by omega
  have hmore : 1 < n + (1 + k) := by omega
  simp only [List.cons_append, List.nil_append, StaysOpen, hself, hclosing, if_true, hpred, hmore,
    hrest, true_and, Bool.false_eq_true, if_false]

end Climbs

/-- A text whose tags open `k` tags more than they close. -/
def LeavesOpen
    (k : Nat)
    (s : List Char) :
    Prop :=
  ∃ (t : List Char) (tags : Nat → List Tag), Veiled s t ∧ Scans t tags ∧
    ∀ offset, Climbs k (tags offset)

namespace LeavesOpen

variable {k k' : Nat}
variable {s u : List Char}

theorem append
    (h : LeavesOpen k s)
    (h' : LeavesOpen k' u) :
    LeavesOpen (k + k') (s ++ u) := by
  obtain ⟨t, tags, hveil, hscan, hclimb⟩ := h
  obtain ⟨t', tags', hveil', hscan', hclimb'⟩ := h'
  exact ⟨t ++ t', _, hveil.append hveil', hscan.append hscan',
    fun offset => (hclimb offset).append (hclimb' _)⟩

theorem piece
    {p : Piece}
    (h : Veiled s p.write) :
    LeavesOpen 0 s :=
  ⟨p.write, _, h, Scans.piece p, fun _ => Climbs.nil⟩

theorem plain
    (h : '<' ∉ s) :
    LeavesOpen 0 s :=
  piece (p := .text s h) (Veiled.refl s)

end LeavesOpen

namespace Xml

/-! ## Documents that are trees -/

section Elements

variable {t : Tag}

/-- An element with a name that can be read is one node. -/
theorem exists_node_of_element
    (h : t.name.isReadable = true)
    (hempty : ¬ t.EndsEmpty)
    {s : List Char}
    {content : List Markup.Node}
    (hs : Veiled s (writeRow content))
    (gap : Gap) :
    ∃ n : Markup.Node, Veiled (t.opening ++ (s ++ t.closing gap)) n.write ∧
      n.name? = some (String.ofList (t.name.read h).chars) := by
  obtain ⟨a, w, hopen, hw⟩ := t.exists_opening h hempty
  obtain ⟨a', hclose⟩ := t.exists_closing h gap
  refine ⟨.element (t.name.read h) a (.piece (.text w hw) :: content) a', ?_, rfl⟩
  rw [hopen, hclose, List.append_assoc, Markup.Node.write_element, writeRow_cons, Node.write_piece,
    Piece.write, List.append_assoc]
  exact (Veiled.refl _).append ((Veiled.refl w).append (hs.append (Veiled.refl _)))

/-- An empty tag with a name that can be read is one node, maybe with text behind it. -/
theorem exists_node_of_empty
    (h : t.name.isReadable = true)
    (hopen : ¬ t.EndsOpen)
    (hdouble : ¬ t.EndsDoubled) :
    ∃ (n : Markup.Node) (w : List Char), Veiled t.alone (n.write ++ w) ∧ '<' ∉ w ∧
      n.name? = some (String.ofList (t.name.read h).chars) := by
  obtain ⟨a, w, ha, hw⟩ := t.exists_alone_text h hopen hdouble
  refine ⟨.empty (t.name.read h) a, w, ?_, hw, rfl⟩
  rw [ha]
  exact Veiled.refl _

end Elements

mutual

/-- A node whose tags are taken for what they are is read as a row of nodes. -/
theorem exists_row_of_node :
    ∀ x : Node, (∀ t ∈ x.openingTags, ¬ t.EndsEmpty) → (∀ t ∈ x.emptyTags, ¬ t.EndsDoubled) →
      (∀ t ∈ x.emptyTags, ¬ t.EndsOpen) → ∃ row : List Markup.Node, Veiled x.write (writeRow row)
  | .piece p, _, _, _ => ⟨[.piece p], by simpa [Node.write] using Veiled.refl p.write⟩
  | .empty t, _, hdouble, hopen => by
      cases h : t.name.isReadable with
      | true =>
          obtain ⟨n, w, hn, hw, -⟩ := exists_node_of_empty h (hopen t (by simp [Node.emptyTags]))
            (hdouble t (by simp [Node.emptyTags]))
          exact ⟨[n, .piece (.text w hw)], by simpa [Node.write, Piece.write] using hn⟩
      | false =>
          obtain ⟨-, ⟨p, hp⟩, -⟩ := t.exists_pieces h t.gap
          exact ⟨[.piece p], by simpa [Node.write] using hp⟩
  | .element t content gap, hempty, hdouble, hopen => by
      obtain ⟨row, hrow⟩ :=
        exists_row_of_nodes content (fun x hx => hempty x (by simp [Node.openingTags, hx]))
          (fun x hx => hdouble x (by simpa [Node.emptyTags] using hx))
          (fun x hx => hopen x (by simpa [Node.emptyTags] using hx))
      cases h : t.name.isReadable with
      | true =>
          obtain ⟨n, hn, -⟩ :=
            exists_node_of_element h (hempty t (by simp [Node.openingTags])) hrow gap
          exact ⟨[n], by simpa [Node.write] using hn⟩
      | false =>
          obtain ⟨⟨p, hp⟩, -, q, hq⟩ := t.exists_pieces h gap
          refine ⟨.piece p :: (row ++ [.piece q]), ?_⟩
          simpa [Node.write] using hp.append (hrow.append hq)

/-- A row of nodes whose tags are taken for what they are is read as a row of nodes. -/
theorem exists_row_of_nodes :
    ∀ row : List Node, (∀ t ∈ openingTagsOf row, ¬ t.EndsEmpty) →
      (∀ t ∈ emptyTagsOf row, ¬ t.EndsDoubled) → (∀ t ∈ emptyTagsOf row, ¬ t.EndsOpen) →
      ∃ row' : List Markup.Node, Veiled (writeNodes row) (writeRow row')
  | [], _, _, _ => ⟨[], Veiled.nil⟩
  | x :: row, hempty, hdouble, hopen => by
      obtain ⟨r, hr⟩ :=
        exists_row_of_node x (fun t ht => hempty t (by simp [openingTagsOf, ht]))
          (fun t ht => hdouble t (by simp [emptyTagsOf, ht]))
          (fun t ht => hopen t (by simp [emptyTagsOf, ht]))
      obtain ⟨r', hr'⟩ :=
        exists_row_of_nodes row (fun t ht => hempty t (by simp [openingTagsOf, ht]))
          (fun t ht => hdouble t (by simp [emptyTagsOf, ht]))
          (fun t ht => hopen t (by simp [emptyTagsOf, ht]))
      exact ⟨r ++ r', by simpa [writeNodes] using hr.append hr'⟩

end

/-! ## Documents that leave tags open -/

section Surplus

variable {t : Tag}
variable {k : Nat}
variable {s : List Char}

/-- An element leaves as many tags open as its content. -/
theorem leavesOpen_element
    (h : t.name.isReadable = true)
    (hempty : ¬ t.EndsEmpty)
    (hs : LeavesOpen k s)
    (gap : Gap) :
    LeavesOpen k (t.opening ++ (s ++ t.closing gap)) := by
  obtain ⟨a, w, hopen, hw⟩ := t.exists_opening h hempty
  obtain ⟨a', hclose⟩ := t.exists_closing h gap
  obtain ⟨s', tags, hveil, hscan, hclimb⟩ := (LeavesOpen.plain hw).append hs
  rw [hopen, hclose, List.append_assoc, ← List.append_assoc w]
  refine ⟨_, _, (Veiled.refl _).append (hveil.append (Veiled.refl _)),
    (Scans.openingTag _ a).append (hscan.append (Scans.closingTag _ a')), fun offset => ?_⟩
  rw [Nat.zero_add] at hclimb
  exact (Climbs.opened rfl rfl).between (hclimb _) rfl rfl

/-- An empty tag that is taken for an opening one leaves a tag open. -/
theorem leavesOpen_alone_early
    (h : t.name.isReadable = true)
    (hopen : t.EndsOpen) :
    LeavesOpen 1 t.alone := by
  obtain ⟨a, w, ha, hw⟩ := t.exists_alone_early h hopen
  have htag : LeavesOpen 1 (openingTag (t.name.read h) a) :=
    ⟨_, _, Veiled.refl _, Scans.openingTag _ a, fun _ => Climbs.opened rfl rfl⟩
  rw [ha]
  exact htag.append (LeavesOpen.plain hw)

/-- Any other one leaves no tag open. -/
theorem leavesOpen_alone
    (h : t.name.isReadable = true)
    (hopen : ¬ t.EndsOpen)
    (hdouble : ¬ t.EndsDoubled) :
    LeavesOpen 0 t.alone := by
  obtain ⟨a, w, ha, hw⟩ := t.exists_alone_text h hopen hdouble
  have htag : LeavesOpen 0 (emptyTag (t.name.read h) a) :=
    ⟨_, _, Veiled.refl _, Scans.emptyTag _ a, fun _ => Climbs.alone rfl⟩
  rw [ha]
  exact htag.append (LeavesOpen.plain hw)

end Surplus

mutual

/-- A node leaves tags open, if one of its empty tags is taken for an opening one. -/
theorem exists_leavesOpen_node :
    ∀ x : Node, (∀ t ∈ x.openingTags, ¬ t.EndsEmpty) → (∀ t ∈ x.emptyTags, ¬ t.EndsDoubled) →
      ∃ k, LeavesOpen k x.write ∧ ((∃ t ∈ x.emptyTags, t.EndsOpen) → 0 < k)
  | .piece p, _, _ => ⟨0, LeavesOpen.piece (Veiled.refl _), by simp [Node.emptyTags]⟩
  | .empty t, _, hdouble => by
      have hnot := hdouble t (by simp [Node.emptyTags])
      cases h : t.name.isReadable with
      | true =>
          by_cases hopen : t.EndsOpen
          · exact ⟨1, leavesOpen_alone_early h hopen, by simp⟩
          · exact ⟨0, leavesOpen_alone h hopen hnot, by simp [Node.emptyTags, hopen]⟩
      | false =>
          obtain ⟨-, ⟨p, hp⟩, -⟩ := t.exists_pieces h t.gap
          have hopen : ¬ t.EndsOpen := fun he => by
            rw [he.1.1] at h
            cases h
          exact ⟨0, LeavesOpen.piece hp, by simp [Node.emptyTags, hopen]⟩
  | .element t content gap, hempty, hdouble => by
      obtain ⟨k, hk, hopen⟩ :=
        exists_leavesOpen_nodes content (fun x hx => hempty x (by simp [Node.openingTags, hx]))
          (fun x hx => hdouble x (by simpa [Node.emptyTags] using hx))
      cases h : t.name.isReadable with
      | true =>
          have hnot := hempty t (by simp [Node.openingTags])
          exact ⟨k, leavesOpen_element h hnot hk gap, hopen⟩
      | false =>
          obtain ⟨⟨p, hp⟩, -, q, hq⟩ := t.exists_pieces h gap
          have hwhole := (LeavesOpen.piece hp).append (hk.append (LeavesOpen.piece hq))
          rw [Nat.zero_add, Nat.add_zero] at hwhole
          exact ⟨k, hwhole, hopen⟩

/-- A row of nodes leaves tags open, if one of its empty tags is taken for an opening one. -/
theorem exists_leavesOpen_nodes :
    ∀ row : List Node, (∀ t ∈ openingTagsOf row, ¬ t.EndsEmpty) →
      (∀ t ∈ emptyTagsOf row, ¬ t.EndsDoubled) →
      ∃ k, LeavesOpen k (writeNodes row) ∧ ((∃ t ∈ emptyTagsOf row, t.EndsOpen) → 0 < k)
  | [], _, _ => ⟨0, LeavesOpen.plain (by simp [writeNodes]), by simp [emptyTagsOf]⟩
  | x :: row, hempty, hdouble => by
      obtain ⟨k, hk, hx⟩ :=
        exists_leavesOpen_node x (fun t ht => hempty t (by simp [openingTagsOf, ht]))
          (fun t ht => hdouble t (by simp [emptyTagsOf, ht]))
      obtain ⟨k', hk', hrow⟩ :=
        exists_leavesOpen_nodes row (fun t ht => hempty t (by simp [openingTagsOf, ht]))
          (fun t ht => hdouble t (by simp [emptyTagsOf, ht]))
      refine ⟨k + k', hk.append hk', ?_⟩
      rintro ⟨t, ht, hopen⟩
      rcases List.mem_append.mp ht with ht | ht
      · exact Nat.add_pos_left (hx ⟨t, ht, hopen⟩) k'
      · exact Nat.add_pos_right k (hrow ⟨t, ht, hopen⟩)

end

/-! ## Whole documents -/

theorem scans_pieces :
    ∀ pieces : List Piece, Scans (pieces.flatMap Piece.write) (fun _ => [])
  | [] => Scans.of_plain (by simp)
  | p :: pieces => (Scans.piece p).append (scans_pieces pieces)

theorem writeRow_pieces :
    ∀ pieces : List Piece, writeRow (pieces.map .piece) = pieces.flatMap Piece.write
  | [] => rfl
  | p :: pieces => by
      rw [List.map_cons, writeRow_cons, writeRow_pieces pieces, List.flatMap_cons, Node.write_piece]

theorem elements_pieces :
    ∀ pieces : List Piece, elements (pieces.map .piece) = []
  | [] => rfl
  | p :: pieces => by rw [List.map_cons, elements_cons_piece, elements_pieces pieces]

/-- A text has no root, if its first tag is an opening one that nothing closes. -/
theorem root?_eq_none_of_staysOpen
    {u v : List Char}
    {tags : Nat → List Markup.Tag}
    (hu : Scans u (fun _ => []))
    (hv : Scans v tags)
    (h : ∀ offset, StaysOpen 1 (tags offset))
    (name : Markup.Name)
    (attributes : Attributes) :
    root? (u ++ (openingTag name attributes ++ v)) = none := by
  have hscan := hu.append ((Scans.openingTag name attributes).append hv)
  have htags := hscan.tagsOf_append 0 []
  have hwhole := (StandsAt.whole (u ++ (openingTag name attributes ++ v))).slice?_eq
  rw [List.append_nil] at htags
  rw [Nat.zero_add] at hwhole
  simp only [root?, elementsIn, tagsIn, hwhole, htags]
  have hnil : tagsOf (0 + byteSize (u ++ (openingTag name attributes ++ v))) [] = [] := rfl
  rw [hnil, List.append_nil, List.nil_append, List.singleton_append,
    elementsOf_cons_eq_nil rfl rfl (h _)]
  rfl

/-! ## Roots -/

section Roots

variable {x : Node}
variable {t : Tag}

/-- An element with a name that can be read is one node, maybe with text behind it, if its tags are taken
for what they are. -/
theorem exists_node
    (ht : x.tag? = some t)
    (h : t.name.isReadable = true)
    (hempty : ∀ t ∈ x.openingTags, ¬ t.EndsEmpty)
    (hdouble : ∀ t ∈ x.emptyTags, ¬ t.EndsDoubled)
    (hopen : ∀ t ∈ x.emptyTags, ¬ t.EndsOpen) :
    ∃ (n : Markup.Node) (w : List Char), Veiled x.write (n.write ++ w) ∧ '<' ∉ w ∧
      n.name? = some (String.ofList (t.name.read h).chars) := by
  cases x with
  | piece p => cases ht
  | empty t' =>
      obtain rfl : t' = t := Option.some.inj ht
      exact exists_node_of_empty h (hopen t' (by simp [Node.emptyTags]))
        (hdouble t' (by simp [Node.emptyTags]))
  | element t' content gap =>
      obtain rfl : t' = t := Option.some.inj ht
      obtain ⟨row, hrow⟩ :=
        exists_row_of_nodes content (fun y hy => hempty y (by simp [Node.openingTags, hy]))
          (fun y hy => hdouble y (by simpa [Node.emptyTags] using hy))
          (fun y hy => hopen y (by simpa [Node.emptyTags] using hy))
      obtain ⟨n, hn, hnamed⟩ :=
        exists_node_of_element h (hempty t' (by simp [Node.openingTags])) hrow gap
      exact ⟨n, [], by simpa [Node.write] using hn, List.not_mem_nil, hnamed⟩

/-- An element with a name that can be read begins with a tag that nothing in it closes, if one of its
empty tags is taken for an opening one. -/
theorem exists_unclosed
    (ht : x.tag? = some t)
    (h : t.name.isReadable = true)
    (hempty : ∀ t ∈ x.openingTags, ¬ t.EndsEmpty)
    (hdouble : ∀ t ∈ x.emptyTags, ¬ t.EndsDoubled)
    (hopen : ∃ t ∈ x.emptyTags, t.EndsOpen) :
    ∃ (a : Attributes) (v : List Char) (row : Nat → List Markup.Tag),
      Veiled x.write (openingTag (t.name.read h) a ++ v) ∧ Scans v row ∧
        ∀ offset, StaysOpen 1 (row offset) := by
  cases x with
  | piece p => cases ht
  | empty t' =>
      obtain rfl : t' = t := Option.some.inj ht
      obtain ⟨y, hy, hcut⟩ := hopen
      obtain rfl : y = t' := by simpa [Node.emptyTags] using hy
      obtain ⟨a, w, ha, hw⟩ := y.exists_alone_early h hcut
      refine ⟨a, w, _, ?_, Scans.of_plain hw, fun _ => Nat.one_pos⟩
      rw [Node.write, ha]
      exact Veiled.refl _
  | element t' content gap =>
      obtain rfl : t' = t := Option.some.inj ht
      obtain ⟨k, hk, hmore⟩ :=
        exists_leavesOpen_nodes content (fun y hy => hempty y (by simp [Node.openingTags, hy]))
          (fun y hy => hdouble y (by simpa [Node.emptyTags] using hy))
      have hpos : 0 < k := hmore (by simpa [Node.emptyTags] using hopen)
      obtain ⟨a, w, ha, hw⟩ := t'.exists_opening h (hempty t' (by simp [Node.openingTags]))
      obtain ⟨a', hclose⟩ := t'.exists_closing h gap
      obtain ⟨s, row, hveil, hscan, hclimb⟩ := (LeavesOpen.plain hw).append hk
      refine ⟨a, s ++ closingTag (t'.name.read h) a', _, ?_,
        hscan.append (Scans.closingTag _ a'), fun offset => ?_⟩
      · rw [Node.write, ha, hclose, List.append_assoc, ← List.append_assoc w]
        exact (Veiled.refl _).append (hveil.append (Veiled.refl _))
      · refine hclimb offset 1 _ Nat.one_pos ?_
        simpa [StaysOpen] using hpos

end Roots

namespace Document

variable (d : Document)

/-- The root has a tag. -/
theorem exists_tag :
    ∃ t, d.root.tag? = some t ∧ d.rootName = t.name.chars := by
  obtain ⟨t, ht⟩ := Option.isSome_iff_exists.mp d.root_element
  exact ⟨t, ht, by rw [rootName, ht]⟩

/-- A document whose root can be read is read as a tree, if its tags are taken for what they are. -/
theorem exists_veiled
    (hname : isName d.rootName = true)
    (hempty : ∀ t ∈ d.openingTags, ¬ t.EndsEmpty)
    (hdouble : ∀ t ∈ d.emptyTags, ¬ t.EndsDoubled)
    (hopen : ∀ t ∈ d.emptyTags, ¬ t.EndsOpen) :
    ∃ tree : Markup.Document, Veiled d.write tree.write ∧
      tree.root.name? = some (String.ofList d.rootName) := by
  obtain ⟨t, ht, hchars⟩ := d.exists_tag
  rw [hchars] at hname ⊢
  obtain ⟨h, hwhole⟩ := t.name.read_eq_of_isName hname
  obtain ⟨n, w, hn, hw, hnamed⟩ := exists_node ht h hempty hdouble hopen
  rw [hwhole] at hnamed
  have helem : n.isElement = true := by
    rw [Markup.Node.isElement, hnamed]
    rfl
  have hafter : elements (.piece (.text w hw) :: d.after.map .piece) = [] := by
    rw [elements_cons_piece, elements_pieces]
  refine ⟨⟨d.before.map .piece, n, .piece (.text w hw) :: d.after.map .piece, elements_pieces _, helem,
    hafter⟩, ?_, hnamed⟩
  simp only [write, Markup.Document.write, writeRow_pieces, writeRow_cons, Node.write_piece, Piece.write]
  rw [← List.append_assoc n.write]
  exact (Veiled.refl _).append (hn.append (Veiled.refl _))

/-- A document whose root can be read has no root, if one of its empty tags is taken for an opening
one. -/
theorem root?_eq_none
    (hname : isName d.rootName = true)
    (hempty : ∀ t ∈ d.openingTags, ¬ t.EndsEmpty)
    (hdouble : ∀ t ∈ d.emptyTags, ¬ t.EndsDoubled)
    (hopen : ∃ t ∈ d.emptyTags, t.EndsOpen) :
    root? d.write = none := by
  obtain ⟨t, ht, hchars⟩ := d.exists_tag
  rw [hchars] at hname
  obtain ⟨h, -⟩ := t.name.read_eq_of_isName hname
  obtain ⟨a, v, row, hveil, hscan, hstays⟩ := exists_unclosed ht h hempty hdouble hopen
  have hwhole := (Veiled.refl (d.before.flatMap Piece.write)).append
    (hveil.append (Veiled.refl (d.after.flatMap Piece.write)))
  rw [write, hwhole.root?_eq, List.append_assoc]
  exact root?_eq_none_of_staysOpen (scans_pieces d.before) (hscan.append (scans_pieces d.after))
    (fun offset => by simpa using hstays offset) _ a

end Document

end Xml

end Markup
end Runbook
