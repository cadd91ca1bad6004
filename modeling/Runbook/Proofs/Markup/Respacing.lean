import Runbook.Proofs.Markup.Reading
import Runbook.Proofs.Text.Respacing

/-!
# Respacing a tree

Respacing a written tree gives the written form of a tree again: the same elements in the same
order, with names kept and everything else respaced. Texts that are of one line are the same in
both.

A document is walked from its root: the root is found in the whole text, and the children of an
element are found in the range of its content alone. On a written tree every step of such a walk
finds what the tree says, at every depth, whatever comments, character data and attributes hold that
looks like markup.

Main statements: `exists_node_of_respaced`, `field?_alike` and `exists_walked`.
-/

namespace Runbook
namespace Markup

open Text

/-- Two elements of one name, with the content of the one respaced in the other. -/
def Alike (n n' : Node) : Prop :=
  n'.name? = n.name? ∧ Respaced (writeRow n.content) (writeRow n'.content)

/-- Elements alike lead rows alike, and pieces are left out of both. -/
theorem Alike.elements_cons
    {n n' : Node}
    {row row' : List Node}
    (h : Alike n n')
    (hrow : List.Forall₂ Alike (elements row) (elements row')) :
    List.Forall₂ Alike (elements (n :: row)) (elements (n' :: row')) := by
  have hsame : n'.isElement = n.isElement := by simp [Node.isElement, h.1]
  cases hn : n.isElement with
  | false =>
      rw [elements_cons_of_not hn, elements_cons_of_not (hsame.trans hn)]
      exact hrow
  | true =>
      rw [elements_cons_of hn, elements_cons_of (hsame.trans hn)]
      exact List.Forall₂.cons h hrow

theorem Name.isBlank_eq_false
    (name : Name)
    {c : Char}
    (hc : c ∈ name.chars) :
    isBlank c = false := by
  have hcont := name.continues hc
  by_contra hblank
  have hword := isWord_eq_false_of_isBlank (by simpa using hblank)
  simp only [continuesName, hword, Bool.false_or, Bool.or_eq_true, decide_eq_true_eq] at hcont
  rcases hcont with (rfl | rfl) | rfl <;> exact absurd hblank (by decide)

/-- A blank does not go on with a name. -/
theorem continuesName_of_isBlank
    {c : Char}
    (hc : isBlank c = true) :
    continuesName c = false := by
  have hword := isWord_eq_false_of_isBlank hc
  have hne : ∀ d, isBlank d = false → c ≠ d := by
    rintro d hd rfl
    rw [hc] at hd
    cases hd
  simp [continuesName, hword, hne '.' (by decide), hne '-' (by decide), hne ':' (by decide)]

/-- Attributes respaced are attributes. -/
theorem exists_attributes_of_respaced
    {a : Attributes}
    {t : List Char}
    (h : Respaced a.chars t) :
    ∃ a' : Attributes, a'.chars = t := by
  refine ⟨⟨t, ?_, ?_, ?_⟩, rfl⟩
  · intro c hc
    rcases h.head?_eq hc with hhead | hblank
    · exact a.apart c hhead
    · exact continuesName_of_isBlank hblank
  · intro c hc
    constructor
    · rintro rfl
      exact a.lt_not_mem (h.mem_of_mem (by decide) hc)
    · rintro rfl
      exact a.gt_not_mem (h.mem_of_mem (by decide) hc)
  · intro hlast
    rcases h.getLast?_eq hlast with h' | hblank
    · exact a.ended h'
    · exact absurd hblank (by decide)

/-- A stretch between a front and an end without blanks is respaced between them. -/
theorem exists_of_respaced_between
    {front body mark t : List Char}
    (h : Respaced (front ++ (body ++ mark)) t)
    (hfront : ∀ c ∈ front, isBlank c = false)
    (hmark : ∀ c ∈ mark, isBlank c = false) :
    ∃ body', t = front ++ (body' ++ mark) ∧ Respaced body body' := by
  obtain ⟨front', rest, rfl, hf, hrest⟩ :=
    h.split_of_last fun c hc => hfront c (List.mem_of_getLast? hc)
  obtain ⟨body', mark', rfl, hbody, hm⟩ :=
    hrest.split_of_head fun c hc => hmark c (List.mem_of_head? hc)
  rw [hf.eq_of_no_blank hfront, hm.eq_of_no_blank hmark]
  exact ⟨body', rfl, hbody⟩

/-- A comment, character data or declaration respaced is one again. -/
theorem exists_piece_of_respaced
    {p : Piece}
    {t : List Char}
    (h : Respaced p.write t) :
    ∃ p' : Piece, p'.write = t := by
  cases p with
  | text s plain =>
      exact ⟨.text t fun hlt => plain (h.mem_of_mem (by decide) hlt), rfl⟩
  | comment body open_ =>
      rw [Piece.write, List.append_assoc] at h
      obtain ⟨body', rfl, hbody⟩ := exists_of_respaced_between h
        (isBlank_eq_false_of_any (by decide)) (isBlank_eq_false_of_any (by decide))
      refine ⟨.comment body' fun hin => open_ ?_, ?_⟩
      · exact hbody.infix_of_infix (isBlank_eq_false_of_any (by decide)) hin
      rw [Piece.write, List.append_assoc]
  | characterData body open_ =>
      rw [Piece.write, List.append_assoc] at h
      obtain ⟨body', rfl, hbody⟩ := exists_of_respaced_between h
        (isBlank_eq_false_of_any (by decide)) (isBlank_eq_false_of_any (by decide))
      refine ⟨.characterData body' fun hin => open_ ?_, ?_⟩
      · exact hbody.infix_of_infix (isBlank_eq_false_of_any (by decide)) hin
      rw [Piece.write, List.append_assoc]
  | declaration body plain =>
      rw [Piece.write, List.append_assoc] at h
      obtain ⟨body', rfl, hbody⟩ := exists_of_respaced_between h
        (isBlank_eq_false_of_any (by decide)) (isBlank_eq_false_of_any (by decide))
      refine ⟨.declaration body' fun hlt => plain (hbody.mem_of_mem (by decide) hlt), ?_⟩
      rw [Piece.write, List.append_assoc]

/-- A tag is respaced within its attributes. -/
theorem exists_tag_of_respaced
    {front mark t : List Char}
    {name : Name}
    {attributes : Attributes}
    (h : Respaced (front ++ (name.chars ++ (attributes.chars ++ mark))) t)
    (hfront : ∀ c ∈ front, isBlank c = false)
    (hmark : ∀ c ∈ mark, isBlank c = false) :
    ∃ attributes' : Attributes, t = front ++ (name.chars ++ (attributes'.chars ++ mark)) := by
  rw [← List.append_assoc] at h
  have hname : ∀ c ∈ front ++ name.chars, isBlank c = false := by
    intro c hc
    rcases List.mem_append.mp hc with hc | hc
    · exact hfront c hc
    · exact name.isBlank_eq_false hc
  obtain ⟨body', rfl, hbody⟩ := exists_of_respaced_between h hname hmark
  obtain ⟨attributes', rfl⟩ := exists_attributes_of_respaced hbody
  exact ⟨attributes', List.append_assoc _ _ _⟩

/-- Whether a node is plain text. -/
def Node.isText : Node → Bool
  | .piece (.text _ _) => true
  | _ => false

theorem Node.exists_of_isText
    {n : Node}
    (h : n.isText = true) :
    ∃ s hs, n = .piece (.text s hs) := by
  cases n with
  | piece p =>
      cases p with
      | text s hs => exact ⟨s, hs, rfl⟩
      | comment body open_ => simp [Node.isText] at h
      | characterData body open_ => simp [Node.isText] at h
      | declaration body plain => simp [Node.isText] at h
  | empty name attributes => simp [Node.isText] at h
  | element name attributes content closing => simp [Node.isText] at h

theorem Node.isText_of_isElement
    {n : Node}
    (h : n.isElement = true) :
    n.isText = false := by
  cases n with
  | piece p => simp [Node.isElement, Node.name?] at h
  | empty name attributes => rfl
  | element name attributes content closing => rfl

/-- All markup stands between angle brackets. -/
theorem Node.write_bracketed
    {n : Node}
    (h : n.isText = false) :
    n.write.head? = some '<' ∧ n.write.getLast? = some '>' := by
  cases n with
  | piece p =>
      cases p with
      | text s plain => simp [Node.isText] at h
      | comment body open_ =>
          exact ⟨rfl, by rw [Node.write_piece, Piece.write, List.getLast?_append]; rfl⟩
      | characterData body open_ =>
          exact ⟨rfl, by rw [Node.write_piece, Piece.write, List.getLast?_append]; rfl⟩
      | declaration body plain =>
          exact ⟨rfl, by rw [Node.write_piece, Piece.write, List.getLast?_append]; rfl⟩
  | empty name attributes =>
      refine ⟨rfl, ?_⟩
      rw [Node.write_empty, emptyTag, ← List.append_assoc, ← List.cons_append,
        List.getLast?_append]
      rfl
  | element name attributes content closing =>
      refine ⟨rfl, ?_⟩
      rw [Node.write_element, closingTag, List.getLast?_append, List.getLast?_append,
        ← List.append_assoc, ← List.cons_append, ← List.cons_append, List.getLast?_append]
      rfl

theorem Node.last_not_blank
    {n : Node}
    (h : n.isText = false)
    (c : Char)
    (hc : n.write.getLast? = some c) :
    isBlank c = false := by
  rw [(Node.write_bracketed h).2] at hc
  cases hc
  decide

/-- A node that is not text, before a row and after plain text, is respaced on its own. -/
theorem split_at_node
    {n : Node}
    {plain t : List Char}
    {row : List Node}
    (hn : n.isText = false)
    (h : Respaced (plain ++ writeRow (n :: row)) t) :
    ∃ plain' middle rest, t = plain' ++ (middle ++ rest) ∧ Respaced plain plain' ∧
      Respaced n.write middle ∧ Respaced (writeRow row) rest := by
  have hhead : ∀ c, (writeRow (n :: row)).head? = some c → isBlank c = false := by
    intro c hc
    rw [writeRow_cons, List.head?_append, (Node.write_bracketed hn).1] at hc
    cases hc
    decide
  obtain ⟨plain', both, rfl, hplain, hboth⟩ := h.split_of_head hhead
  obtain ⟨middle, rest, rfl, hmiddle, hrest⟩ := hboth.split_of_last (Node.last_not_blank hn)
  exact ⟨plain', middle, rest, rfl, hplain, hmiddle, hrest⟩

mutual

/-- A node respaced is a node alike, with children alike. -/
theorem exists_node_of_respaced :
    ∀ (n : Node) (t : List Char), Respaced n.write t →
      ∃ n' : Node, n'.write = t ∧ Alike n n' ∧
        List.Forall₂ Alike (elements n.content) (elements n'.content)
  | .piece p, t, h => by
      obtain ⟨p', rfl⟩ := exists_piece_of_respaced (by simpa using h)
      exact ⟨.piece p', rfl, ⟨rfl, Respaced.nil⟩, List.Forall₂.nil⟩
  | .empty name attributes, t, h => by
      have htag : Respaced (['<'] ++ (name.chars ++ (attributes.chars ++ ['/', '>']))) t := h
      obtain ⟨attributes', rfl⟩ := exists_tag_of_respaced htag
        (isBlank_eq_false_of_any (by decide)) (isBlank_eq_false_of_any (by decide))
      exact ⟨.empty name attributes', rfl, ⟨rfl, Respaced.nil⟩, List.Forall₂.nil⟩
  | .element name attributes content closing, t, h => by
      rw [Node.write_element] at h
      have hopen : ∀ c, (openingTag name attributes).getLast? = some c → isBlank c = false := by
        intro c hc
        rw [openingTag, ← List.append_assoc, ← List.cons_append, List.getLast?_append] at hc
        cases hc
        decide
      have hclose : ∀ c, (closingTag name closing).head? = some c → isBlank c = false := by
        intro c hc
        cases hc
        decide
      obtain ⟨t₁, rest, rfl, h₁, hrest⟩ := h.split_of_last hopen
      obtain ⟨t₂, t₃, rfl, h₂, h₃⟩ := hrest.split_of_head hclose
      have htag : Respaced (['<'] ++ (name.chars ++ (attributes.chars ++ ['>']))) t₁ := h₁
      obtain ⟨attributes', rfl⟩ := exists_tag_of_respaced htag
        (isBlank_eq_false_of_any (by decide)) (isBlank_eq_false_of_any (by decide))
      have hend : Respaced (['<', '/'] ++ (name.chars ++ (closing.chars ++ ['>']))) t₃ := h₃
      obtain ⟨closing', rfl⟩ := exists_tag_of_respaced hend
        (isBlank_eq_false_of_any (by decide)) (isBlank_eq_false_of_any (by decide))
      obtain ⟨content', rfl, hcontent⟩ :=
        exists_row_of_respaced content [] t₂ (by simp) (by simpa using h₂)
      exact ⟨.element name attributes' content' closing', rfl, ⟨rfl, h₂⟩, hcontent⟩

/-- A row respaced, after some plain text, is a row with elements alike. -/
theorem exists_row_of_respaced :
    ∀ (row : List Node) (plain t : List Char), '<' ∉ plain →
      Respaced (plain ++ writeRow row) t →
      ∃ row' : List Node, writeRow row' = t ∧ List.Forall₂ Alike (elements row) (elements row')
  | [], plain, t, hplain, h => by
      rw [writeRow_nil, List.append_nil] at h
      have ht : '<' ∉ t := fun hlt => hplain (h.mem_of_mem (by decide) hlt)
      exact ⟨[.piece (.text t ht)], by simp [Piece.write], List.Forall₂.nil⟩
  | n :: row, plain, t, hplain, h => by
      cases hn : n.isText with
      | true =>
          -- Stretches of blanks may run from one text into the next, so texts are taken together.
          obtain ⟨s, hs, rfl⟩ := Node.exists_of_isText hn
          have hboth : '<' ∉ plain ++ s := by
            simp only [List.mem_append, not_or]
            exact ⟨hplain, hs⟩
          have hjoin : Respaced (plain ++ s ++ writeRow row) t := by
            simpa [Piece.write] using h
          exact exists_row_of_respaced row (plain ++ s) t hboth hjoin
      | false =>
          obtain ⟨plain', middle, rest, rfl, h₁, h₂, h₃⟩ := split_at_node hn h
          have hp : '<' ∉ plain' := fun hlt => hplain (h₁.mem_of_mem (by decide) hlt)
          obtain ⟨n', rfl, halike, -⟩ := exists_node_of_respaced n middle h₂
          obtain ⟨row', rfl, hrow⟩ :=
            exists_row_of_respaced row [] rest (by simp) (by simpa using h₃)
          refine ⟨.piece (.text plain' hp) :: n' :: row', rfl, ?_⟩
          rw [elements_cons_piece]
          exact halike.elements_cons hrow

end

/-! ## Texts -/

/-- Replacing a pattern keeps the characters that are not in it. -/
theorem mem_replaceFrom
    {pattern replacement : List Char}
    {c : Char}
    (hne : pattern ≠ [])
    (hc : c ∉ pattern) :
    ∀ (s : List Char) (skip : Nat), c ∉ s.take skip → c ∈ s →
      c ∈ replaceFrom pattern replacement skip s
  | [], _, _, h => by simp at h
  | d :: s, skip + 1, hskip, h => by
      simp only [List.take_succ_cons, List.mem_cons, not_or] at hskip
      rcases List.mem_cons.mp h with rfl | h
      · exact absurd rfl hskip.1
      · exact mem_replaceFrom hne hc s skip hskip.2 h
  | d :: s, 0, _, h => by
      rw [replaceFrom]
      split
      · rename_i hprefix
        obtain ⟨rest, hrest⟩ := List.isPrefixOf_iff_prefix.mp hprefix
        cases pattern with
        | nil => exact absurd rfl hne
        | cons e pattern =>
            obtain ⟨rfl, rfl⟩ := List.cons_eq_cons.mp hrest
            simp only [List.mem_cons, not_or] at hc
            rcases List.mem_cons.mp h with rfl | h
            · exact absurd rfl hc.1
            · refine List.mem_append_right _ ?_
              refine mem_replaceFrom (List.cons_ne_nil _ _) (by simpa using hc) _ _ ?_ h
              simpa using hc.2
      · rcases List.mem_cons.mp h with rfl | h
        · simp
        · exact List.mem_cons_of_mem _ (mem_replaceFrom hne hc s 0 (by simp) h)

/-- Decoding entities loses no line feed. -/
theorem mem_decodeEntities
    {s : List Char}
    (h : '\n' ∈ s) :
    '\n' ∈ decodeEntities s := by
  have hstep : ∀ (table : List (String × Char)) (t : List Char),
      (∀ p ∈ table, p.1.toList ≠ [] ∧ '\n' ∉ p.1.toList) → '\n' ∈ t →
        '\n' ∈ table.foldl (fun t p => replaceAll p.1.toList [p.2] t) t := by
    intro table
    induction table with
    | nil => intro t _ ht; exact ht
    | cons p table ih =>
        intro t hall ht
        obtain ⟨hne, hfree⟩ := hall p (by simp)
        have hp : '\n' ∈ replaceAll p.1.toList [p.2] t :=
          mem_replaceFrom hne hfree t 0 (by simp) ht
        exact ih _ (fun q hq => hall q (by simp [hq])) hp
  exact hstep entities s (by decide) h

/-- Text of one line is the same in nodes alike. -/
theorem Alike.text_eq
    {n n' : Node}
    (h : Alike n n')
    (hline : '\n' ∉ n.text.toList) :
    n'.text = n.text := by
  have hfree : '\n' ∉ trim (writeRow n.content) := by
    intro hn
    refine hline ?_
    rw [Node.text, String.toList_ofList]
    exact mem_decodeEntities hn
  rw [Node.text, Node.text, h.2.trim_eq hfree]

/-- The first children of a name are alike. -/
theorem find?_alike
    {ns ns' : List Node}
    (h : List.Forall₂ Alike ns ns')
    (name : String) :
    Option.Rel Alike (ns.find? (Node.isNamed name)) (ns'.find? (Node.isNamed name)) := by
  induction h with
  | nil => exact Option.Rel.none
  | cons hfirst hrest ih =>
      rename_i n n' ns ns'
      have hname : n'.isNamed name = n.isNamed name := by simp [Node.isNamed, hfirst.1]
      by_cases hn : n.isNamed name = true
      · simpa [hname, hn] using Option.Rel.some hfirst
      · simpa [hname, hn] using ih

/-- Fields of one line are the same in rows alike. -/
theorem field?_alike
    {row row' : List Node}
    (h : List.Forall₂ Alike (elements row) (elements row'))
    (name : String)
    (hline : ∀ v, field? row name = some v → '\n' ∉ v.toList) :
    field? row' name = field? row name := by
  have hchild := find?_alike h name
  simp only [field?, child?] at hline ⊢
  generalize (elements row).find? (Node.isNamed name) = o at hchild hline ⊢
  generalize (elements row').find? (Node.isNamed name) = o' at hchild ⊢
  cases hchild with
  | none => rfl
  | @some n n' halike =>
      have hfree : '\n' ∉ n.text.toList := by
        by_cases hempty : n.text = ""
        · simp [hempty]
        · exact hline n.text (by simp [hempty])
      simp [halike.text_eq hfree]

/-! ## Walking a tree -/

/-- Attributes as they are mostly written: nothing, or a blank first. -/
def Attributes.afterBlank
    (chars : List Char)
    (blank : ∀ c, chars.head? = some c → isBlank c = true)
    (plain : ∀ c ∈ chars, c ≠ '<' ∧ c ≠ '>')
    (ended : chars.getLast? ≠ some '/') :
    Attributes where
  chars := chars
  apart c hc := continuesName_of_isBlank (blank c hc)
  plain := plain
  ended := ended

/-- A comment without a double hyphen. -/
def Piece.commentOf
    (body : List Char)
    (plain : ¬ ['-', '-'] <:+: body) :
    Piece :=
  .comment body fun h => plain ((List.infix_append [] ['-', '-'] ['>']).trans h)

/-- An element of a row that begins at an offset, at any depth, with the offset at which it is
written. -/
inductive Within : List Node → Nat → Node → Nat → Prop where
  | here
      {n : Node}
      {row : List Node}
      {offset : Nat} :
      n.isElement = true →
      Within (n :: row) offset n offset
  | later
      {n m : Node}
      {row : List Node}
      {offset position : Nat} :
      Within row (offset + byteSize n.write) m position →
      Within (n :: row) offset m position
  | inside
      {name : Name}
      {attributes closing : Attributes}
      {content row : List Node}
      {m : Node}
      {offset position : Nat} :
      Within content (offset + byteSize (openingTag name attributes)) m position →
      Within (.element name attributes content closing :: row) offset m position

namespace Within

variable {row : List Node}
variable {n : Node}
variable {offset position : Nat}

theorem isElement
    (h : Within row offset n position) :
    n.isElement = true := by
  induction h with
  | here hn => exact hn
  | later _ ih => exact ih
  | inside _ ih => exact ih

/-- An element of a row stands where it is written when the row does. -/
theorem standsAt
    {doc : List Char}
    (h : Within row offset n position)
    (hrow : StandsAt doc offset (writeRow row)) :
    StandsAt doc position n.write := by
  induction h with
  | here hn => exact hrow.left
  | later _ ih => exact ih hrow.right
  | inside _ ih => exact ih hrow.left.right.left

end Within

/-- What the reader says of an element is what the tree says of a node: the name, the kind of tag,
the text of the whole and the text of the content. -/
structure Walked
    (doc : List Char)
    (e : Element)
    (n : Node) :
    Prop where
  name : n.name? = some e.name
  selfClosing : e.selfClosing = n.isEmptyTag
  outer : slice? doc e.outer = some n.write
  inner : slice? doc e.inner = some (writeRow n.content)

theorem Represents.walked
    {doc : List Char}
    {e : Element}
    {n : Node}
    (h : Represents doc e n) :
    Walked doc e n where
  name := h.name?_eq
  selfClosing := h.selfClosing_eq
  outer := h.slice?_outer
  inner := by
    obtain ⟨hstands, hstop⟩ := h.inner_stands
    have hread := hstands.slice?_eq
    rwa [← hstop] at hread

/-- A written tree is walked as it is: the root is found, and every element of the tree has its
place, its name, its kind of tag, its texts, and the elements of its content as children, in order
and where they are written. -/
theorem exists_walked (d : Document) :
    (∃ e, root? d.write = some e ∧
      d.root.element? (byteSize (writeRow d.before)) = some e ∧ Walked d.write e d.root) ∧
    ∀ n position, Within [d.root] (byteSize (writeRow d.before)) n position →
      ∃ e, n.element? position = some e ∧ Walked d.write e n ∧
        e.children d.write = rowElements e.inner.start n.content ∧
        List.Forall₂ (Walked d.write) (e.children d.write) (elements n.content) := by
  have hstands : StandsAt d.write (byteSize (writeRow d.before)) (writeRow [d.root]) :=
    ⟨writeRow d.before, writeRow d.after, by simp [Document.write], rfl⟩
  constructor
  · obtain ⟨e, hroot, hrep⟩ := root?_represents d
    refine ⟨e, hroot, ?_, hrep.walked⟩
    rw [← root?_write, hroot]
  · intro n position hwithin
    obtain ⟨e, he⟩ := Node.exists_element hwithin.isElement position
    have hrep : Represents d.write e n := ⟨position, hwithin.standsAt hstands, he⟩
    exact ⟨e, he, hrep.walked, hrep.children_eq,
      hrep.children.imp fun _ _ hchild => hchild.walked⟩

/-- A module in a catalog, after a declaration and a comment that shows a tag, with a slash in an
attribute and a tag in character data. -/
def smallTree : Document where
  before :=
    [.piece (.declaration "xml version=\"1.0\"".toList (by decide)),
     .piece (.commentOf " <catalog> ".toList (by decide))]
  root :=
    .element (Name.ofString "catalog" (by decide))
      (.afterBlank " path=\"a/b\"".toList (by simp; decide) (by simp) (by decide))
      [.piece (.characterData "</catalog>".toList (by decide)),
       .element (Name.ofString "modules" (by decide)) .none
        [.piece (.text "\n  ".toList (by decide)),
         .empty (Name.ofString "module" (by decide)) .none]
        .none]
      .none
  after := []
  before_plain := rfl
  root_element := rfl
  after_plain := rfl

theorem exists_walked_small :
    ∃ n, Within [smallTree.root] (byteSize (writeRow smallTree.before)) n 93 ∧
      ∃ e, n.element? 93 = some e ∧ Walked smallTree.write e n ∧ e.name = "module" := by
  have hwithin :
      Within [smallTree.root] (byteSize (writeRow smallTree.before))
        (.empty (Name.ofString "module" (by decide)) .none) 93 :=
    .inside (.later (.inside (.later (.here rfl))))
  obtain ⟨e, he, hwalked, -⟩ := (exists_walked smallTree).2 _ _ hwithin
  refine ⟨_, hwithin, e, he, hwalked, ?_⟩
  cases he
  rfl

end Markup
end Runbook
