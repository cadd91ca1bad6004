import Runbook.Proofs.Text.Breaks
import Runbook.Proofs.Pom.Insertion

/-!
# Line breaks of an edit

What is rendered for a document is made of lines and of line breaks of its layout. So where the document
breaks its lines with line feeds alone, nothing that is rendered has a break of two characters, and none
arises where it is put in. Where the document has breaks of two characters, every edit brings one along.

Main statements: `lined_renderChain`, `Appended.unbroken` and `Sectioned.unbroken`.
-/

namespace Runbook
namespace Pom

open Text Markup

/-! ## Indentations -/

theorem isLine_of_indents
    {s : List Char}
    (h : s.all indents = true) :
    IsLine s := by
  have hall := List.all_eq_true.mp h
  refine ⟨feed_not_mem_of_indents h, fun hlast => ?_⟩
  exact absurd (hall _ (List.mem_of_getLast? hlast)) (by decide)

theorem lone_of_indents
    {s : List Char}
    (h : s.all indents = true) :
    Lone s :=
  (Lined.line (isLine_of_indents h)).lone

theorem all_indents_repeated
    {s : List Char}
    (h : s.all indents = true)
    (n : Nat) :
    (Layout.repeated n s).all indents = true := by
  rw [List.all_eq_true] at h ⊢
  intro c hc
  obtain ⟨part, hpart, hmem⟩ := List.mem_flatten.mp hc
  rw [List.eq_of_mem_replicate hpart] at hmem
  exact h c hmem

theorem all_indents_append
    {s t : List Char}
    (hs : s.all indents = true)
    (ht : t.all indents = true) :
    (s ++ t).all indents = true := by
  rw [List.all_append, hs, ht, Bool.and_self]

/-- An element behind an indentation does not begin with a line feed. -/
theorem exists_head_indented
    {indent : List Char}
    (h : indent.all indents = true)
    {x : Node}
    (hx : x.isElement = true)
    (s : List Char) :
    ∃ c, (indent ++ (x.write ++ s)).head? = some c ∧ c ≠ '\n' := by
  cases indent with
  | nil =>
      refine ⟨'<', ?_, by decide⟩
      rw [List.nil_append, List.head?_append,
        (Node.write_bracketed (Node.isText_of_isElement hx)).1]
      rfl
  | cons c indent =>
      refine ⟨c, rfl, ?_⟩
      rintro rfl
      exact feed_not_mem_of_indents h List.mem_cons_self

/-! ## What is rendered -/

section Rendered

variable {l : Layout}

theorem lined_reindent
    (hunit : l.unit.all indents = true)
    {indent : List Char}
    (hindent : indent.all indents = true)
    {lines : List (List Char)}
    (h : ∀ line ∈ lines, '\n' ∉ line) :
    Lined l.newline (l.reindent lines indent) := by
  have hplace : ∀ (level : Nat) (line t : List Char), line ∈ lines →
      (if allBlank line then none
        else some (indent ++ Layout.repeated level l.unit ++ trim line)) = some t → IsLine t := by
    intro level line t hline ht
    cases hblank : allBlank line with
    | true => simp [hblank] at ht
    | false =>
        simp only [hblank, Bool.false_eq_true, if_false, Option.some.injEq] at ht
        have hlead := all_indents_append hindent (all_indents_repeated hunit level)
        exact ht ▸ (isLine_of_indents hlead).append (isLine_trim (h line hline))
  unfold Layout.reindent
  refine lined_joinWith _ fun t ht => ?_
  cases lines with
  | nil => cases ht
  | cons first rest =>
      rcases List.mem_append.mp ht with ht | ht
      · exact hplace 0 first t List.mem_cons_self (Option.mem_toList.mp ht)
      · obtain ⟨line, hline, hsome⟩ := List.mem_filterMap.mp ht
        exact hplace _ line t (List.mem_cons_of_mem _ hline) hsome

/-- The written form of a child lies within that of its parent. -/
theorem write_infix_of_mem
    {row : List Node}
    {n : Node}
    (h : n ∈ row) :
    n.write <:+: writeRow row := by
  obtain ⟨before, after, rfl⟩ := List.append_of_mem h
  exact ⟨writeRow before, writeRow after, by simp⟩

theorem last_write
    {n : Node}
    (h : n.isElement = true) :
    n.write.getLast? = some '>' :=
  (Node.write_bracketed (Node.isText_of_isElement h)).2

theorem last_openingTag
    (name : Name)
    (attributes : Attributes) :
    (openingTag name attributes).getLast? = some '>' := by
  have htag : openingTag name attributes = '<' :: (name.chars ++ attributes.chars) ++ ['>'] := by
    simp [openingTag]
  rw [htag, List.getLast?_concat]

theorem last_closingTag
    (name : Name)
    (closing : Attributes) :
    (closingTag name closing).getLast? = some '>' := by
  have htag : closingTag name closing = '<' :: '/' :: (name.chars ++ closing.chars) ++ ['>'] := by
    simp [closingTag]
  rw [htag, List.getLast?_concat]

/-- A line that is an indentation and a part of a text of one line, up to a bracket. -/
theorem isLine_tagged
    {indent part whole : List Char}
    (hindent : indent.all indents = true)
    (hpart : part <:+: whole)
    (hwhole : '\n' ∉ whole)
    (hlast : part.getLast? = some '>') :
    IsLine (indent ++ part) := by
  refine (isLine_of_indents hindent).append ⟨fun hmem => hwhole (hpart.subset hmem), ?_⟩
  rw [hlast]
  decide

theorem lined_expandLine
    (hunit : l.unit.all indents = true)
    {n : Node}
    (hn : n.isElement = true)
    (hline : '\n' ∉ n.write)
    {indent r : List Char}
    (hindent : indent.all indents = true)
    (h : l.expandLine? n.write indent = some r) :
    Lined l.newline r := by
  obtain ⟨name, attributes, content, closing, rfl, rfl⟩ := exists_joined_of_expandLine hn h
  refine lined_joinWith _ fun line hmem => ?_
  simp only [List.cons_append, List.mem_cons, List.mem_append, List.mem_map, List.not_mem_nil,
    or_false] at hmem
  rw [Node.write_element] at hline
  rcases hmem with rfl | ⟨c, hc, rfl⟩ | rfl
  · have hpart := (List.prefix_append (openingTag name attributes)
      (writeRow content ++ closingTag name closing)).isInfix
    exact isLine_tagged hindent hpart hline (last_openingTag name attributes)
  · have hchild : c ∈ content ∧ c.isElement = true := List.mem_filter.mp hc
    obtain ⟨u, v, hrow⟩ := write_infix_of_mem hchild.1
    have hpart : c.write <:+:
        openingTag name attributes ++ (writeRow content ++ closingTag name closing) :=
      ⟨openingTag name attributes ++ u, v ++ closingTag name closing, by simp [← hrow]⟩
    exact isLine_tagged (all_indents_append hindent hunit) hpart hline (last_write hchild.2)
  · have hpart : closingTag name closing <:+:
        openingTag name attributes ++ (writeRow content ++ closingTag name closing) :=
      ⟨openingTag name attributes ++ writeRow content, [], by simp⟩
    exact isLine_tagged hindent hpart hline (last_closingTag name closing)

/-- An entry is rendered as lines with the line breaks of the layout. -/
theorem lined_renderEntry
    (hunit : l.unit.all indents = true)
    {n : Node}
    (hn : n.isElement = true)
    {indent : List Char}
    (hindent : indent.all indents = true) :
    Lined l.newline (l.renderEntry n.write indent) := by
  have hlines := lined_reindent hunit hindent fun line hmem =>
    feed_not_mem_of_mem_lines (s := n.write) hmem
  rw [Layout.renderEntry]
  split
  · rename_i hone
    cases hexpanded : l.expandLine? n.write indent with
    | none => exact hlines
    | some r =>
        have hlast : n.write.getLast? ≠ some '\n' := by
          rw [last_write hn]
          decide
        have hline := feed_not_mem_of_length_lines hone hlast
        exact lined_expandLine hunit hn hline hindent hexpanded
  · exact hlines

/-- Tags without attributes are lines. -/
theorem isLine_tags (name : Name) :
    IsLine (openingTag name .none) ∧ IsLine (closingTag name .none) := by
  have hfeed : '\n' ∉ name.chars := fun hmem => absurd (name.continues hmem) (by decide)
  refine ⟨⟨by simp [openingTag, Attributes.none, hfeed], ?_⟩,
    ⟨by simp [closingTag, Attributes.none, hfeed], ?_⟩⟩
  · rw [last_openingTag]
    decide
  · rw [last_closingTag]
    decide

/-- So is an entry inside sections. -/
theorem lined_renderChain
    (hunit : l.unit.all indents = true)
    {n : Node}
    (hn : n.isElement = true) :
    ∀ (names : List String) {indent : List Char}, (∀ name ∈ names, isName name.toList = true) →
      indent.all indents = true → Lined l.newline (l.renderChain n.write names indent)
  | [], indent, _, hindent => lined_renderEntry hunit hn hindent
  | name :: rest, indent, hnames, hindent => by
      have hinside := lined_renderChain hunit hn rest
        (fun other hmem => hnames other (List.mem_cons_of_mem _ hmem))
        (all_indents_append hindent hunit)
      obtain ⟨hopen, hclose⟩ := isLine_tags (Name.ofString name (hnames name List.mem_cons_self))
      have hlead := isLine_of_indents hindent
      have hfirst : Lined l.newline _ := .line (hlead.append hopen)
      have hlast : Lined l.newline _ := .line (hlead.append hclose)
      have hall := (((hfirst.append .newline).append hinside).append .newline).append hlast
      simpa [Layout.renderChain, openingTag, closingTag, Name.ofString, Attributes.none] using hall

end Rendered

/-! ## What is put in -/

theorem lone_feed :
    Lone ['\n'] :=
  Lone.of_not_mem (by decide)

section Edits

variable {l : Layout}
variable {hl : l.IsBlank}
variable {x n n' : Node}
variable {indent outer front back : List Char}
variable {hindent : allBlank indent = true}
variable {houter : allBlank outer = true}

/-- An element on a line of its own has no break of two characters when what is rendered has none. -/
theorem lone_linedUp
    (hfeed : l.newline = ['\n'])
    (hx : Lone (indent ++ x.write))
    (hflat : outer.all indents = true) :
    Lone (writeRow (linedUp l hl x hindent houter)) := by
  rw [write_linedUp, hfeed]
  exact ((lone_feed.append hx).append lone_feed).append (lone_of_indents hflat)

/-- A line break and an indentation do not end in a carriage return. -/
theorem last_append_break
    (hlast : l.newline.getLast? = some '\n')
    {lead : List Char}
    (hlead : lead.all indents = true)
    (s : List Char) :
    (s ++ (l.newline ++ lead)).getLast? ≠ some '\r' := by
  rw [List.getLast?_append, List.getLast?_append, hlast]
  cases hend : lead.getLast? with
  | none => simp
  | some c =>
      have hne := (lone_of_indents hlead).last
      rw [hend] at hne
      simpa using hne

theorem last_linedUp
    (hlast : l.newline.getLast? = some '\n')
    (hflat : outer.all indents = true) :
    (writeRow (linedUp l hl x hindent houter)).getLast? ≠ some '\r' := by
  rw [write_linedUp, List.append_assoc]
  exact last_append_break hlast hflat _

/-- An element opened around a new one has none either. -/
theorem lone_opened
    (hfeed : l.newline = ['\n'])
    (name : Name)
    (hx : Lone (indent ++ x.write))
    (hflat : outer.all indents = true) :
    Lone (Node.element name .none (linedUp l hl x hindent houter) .none).write := by
  obtain ⟨hopen, hclose⟩ := isLine_tags name
  exact (Lined.line hopen).lone.append
    ((lone_linedUp hfeed hx hflat).append (Lined.line hclose).lone)

theorem newline_within_linedUp :
    l.newline <:+: writeRow (linedUp l hl x hindent houter) := by
  rw [write_linedUp]
  exact ⟨[], indent ++ x.write ++ l.newline ++ outer, by simp⟩

/-- What is inside an element is inside its written form. -/
theorem infix_write_element
    {name : Name}
    {attributes closing : Attributes}
    {content : List Node}
    {s : List Char}
    (h : s <:+: writeRow content) :
    s <:+: (Node.element name attributes content closing).write := by
  obtain ⟨u, v, hrow⟩ := h
  exact ⟨openingTag name attributes ++ u, v ++ closingTag name closing, by simp [← hrow]⟩

theorem infix_writeRow_append
    {row : List Node}
    {s : List Char}
    (h : s <:+: writeRow row)
    (before after : List Node) :
    s <:+: writeRow (before ++ (row ++ after)) := by
  obtain ⟨u, v, hrow⟩ := h
  exact ⟨writeRow before ++ u, v ++ writeRow after, by simp [← hrow]⟩

/-- Behind an opening tag and a row that is empty or ends in an element there is a bracket. -/
theorem last_of_endsInElement
    {row : List Node}
    (h : EndsInElement row)
    (front : List Char)
    (name : Name)
    (attributes : Attributes) :
    (front ++ openingTag name attributes ++ writeRow row).getLast? = some '>' := by
  rcases List.eq_nil_or_concat row with rfl | ⟨before, m, rfl⟩
  · rw [writeRow_nil, List.append_nil, List.getLast?_append, last_openingTag]
    rfl
  · have hm : m.isElement = true := h m (by simp)
    rw [List.concat_eq_append, writeRow_append, writeRow_cons, writeRow_nil, List.append_nil,
      ← List.append_assoc, List.getLast?_append, last_write hm]
    rfl

namespace Appended

/-- The line break of the layout is among what comes with an entry. -/
theorem newline_within
    (h : Appended l hl x hindent houter n n') :
    l.newline <:+: n'.write := by
  cases h with
  | opened name attributes => exact infix_write_element newline_within_linedUp
  | onLine hlead cut same flat =>
      refine infix_write_element (infix_writeRow_append ?_ _ _)
      rw [write_lineBefore]
      exact ⟨indent ++ x.write, [], by simp⟩
  | @atEnd name attributes closing content =>
      have hbreak : l.newline <:+: writeRow (linedUp l hl x hindent houter) :=
        newline_within_linedUp
      have hrow := infix_writeRow_append hbreak content []
      rw [List.append_nil] at hrow
      exact infix_write_element hrow

/-- The section does not end in a carriage return. -/
theorem last_content
    (h : Appended l hl x hindent houter n n')
    (hlast : l.newline.getLast? = some '\n')
    (hflat : outer.all indents = true) :
    (writeRow n'.content).getLast? ≠ some '\r' := by
  cases h with
  | opened name attributes =>
      rw [Node.content]
      exact last_linedUp hlast hflat
  | @onLine name attributes closing content before lead hlead cut same flat =>
      have hrow : writeRow (before ++ (lineBefore l hl x hindent ++ [blankNode lead hlead])) =
          writeRow before ++ (indent ++ x.write) ++ (l.newline ++ lead) := by
        simp [write_lineBefore]
      rw [Node.content, hrow]
      exact last_append_break hlast flat _
  | @atEnd name attributes closing content =>
      rw [Node.content, writeRow_append, write_linedUp, List.append_assoc, ← List.append_assoc]
      exact last_append_break hlast hflat _

/-- An entry that is appended makes no break of two characters, unless the section ends in a carriage
return. -/
theorem unbroken
    (h : Appended l hl x hindent houter n n')
    (hfeed : l.newline = ['\n'])
    (hx : x.isElement = true)
    (hblock : Lone (indent ++ x.write))
    (hinside : indent.all indents = true)
    (hflat : outer.all indents = true)
    (hend : (writeRow n.content).getLast? ≠ some '\r')
    (hdoc : Unbroken (front ++ (n.write ++ back))) :
    Unbroken (front ++ (n'.write ++ back)) := by
  cases h with
  | opened name attributes =>
      exact hdoc.exchange (lone_opened hfeed name hblock hflat) (Or.inr ⟨'<', rfl, by decide⟩)
  | @onLine name attributes closing content before lead hlead cut same flat =>
      have hline : Lone (writeRow (lineBefore l hl x hindent)) := by
        rw [write_lineBefore, hfeed]
        exact hblock.append lone_feed
      obtain ⟨c, hc, hne⟩ := exists_head_indented hinside hx l.newline
      have hold : front ++ ((Node.element name attributes content closing).write ++ back) =
          front ++ openingTag name attributes ++ writeRow before ++
            ([] ++ (lead ++ closingTag name closing ++ back)) := by
        rw [Node.write_element, ← cut]
        simp
      rw [hold] at hdoc
      have hnew := hdoc.exchange hline (Or.inr ⟨c, by rw [write_lineBefore, List.append_assoc, hc], hne⟩)
      simpa using hnew
  | @atEnd name attributes closing content =>
      have hrow : Lone (writeRow (linedUp l hl x hindent houter)) := lone_linedUp hfeed hblock hflat
      have hmeet : (front ++ openingTag name attributes ++ writeRow content).getLast? ≠
          some '\r' := by
        rw [List.getLast?_append]
        cases hlast : (writeRow content).getLast? with
        | none =>
            rw [List.getLast?_append, last_openingTag]
            simp
        | some c => simpa [Node.content, hlast] using hend
      have hold : front ++ ((Node.element name attributes content closing).write ++ back) =
          front ++ openingTag name attributes ++ writeRow content ++
            ([] ++ (closingTag name closing ++ back)) := by
        simp
      rw [hold] at hdoc
      simpa using hdoc.exchange hrow (Or.inl hmeet)

end Appended

namespace Sectioned

/-- The line break of the layout is among what comes with a section. -/
theorem newline_within
    (h : Sectioned l hl x hindent houter n n') :
    l.newline <:+: n'.write := by
  cases h with
  | opened name attributes => exact infix_write_element newline_within_linedUp
  | alone childless => exact infix_write_element newline_within_linedUp
  | between behind named placed =>
      refine infix_write_element (infix_writeRow_append ?_ _ _)
      rw [write_lineAfter]
      exact ⟨[], indent ++ x.write, by simp⟩

/-- A section that is created makes no break of two characters. -/
theorem unbroken
    (h : Sectioned l hl x hindent houter n n')
    (hfeed : l.newline = ['\n'])
    (hblock : Lone (indent ++ x.write))
    (hflat : outer.all indents = true)
    (hdoc : Unbroken (front ++ (n.write ++ back))) :
    Unbroken (front ++ (n'.write ++ back)) := by
  cases h with
  | opened name attributes =>
      exact hdoc.exchange (lone_opened hfeed name hblock hflat) (Or.inr ⟨'<', rfl, by decide⟩)
  | @alone name attributes closing content childless =>
      have hrow : Lone (writeRow (linedUp l hl x hindent houter)) := lone_linedUp hfeed hblock hflat
      have hmeet : (front ++ openingTag name attributes).getLast? ≠ some '\r' := by
        rw [List.getLast?_append, last_openingTag]
        simp
      have hold : front ++ ((Node.element name attributes content closing).write ++ back) =
          front ++ openingTag name attributes ++
            (writeRow content ++ (closingTag name closing ++ back)) := by
        simp
      rw [hold] at hdoc
      simpa using hdoc.exchange hrow (Or.inl hmeet)
  | @between name attributes closing before after _ behind named placed =>
      have hrow : Lone (writeRow (lineAfter l hl x hindent)) := by
        rw [write_lineAfter, hfeed]
        exact lone_feed.append hblock
      have hmeet : (front ++ openingTag name attributes ++ writeRow before).getLast? ≠
          some '\r' := by
        rw [last_of_endsInElement behind]
        decide
      have hold : front ++ ((Node.element name attributes (before ++ after) closing).write ++ back) =
          front ++ openingTag name attributes ++ writeRow before ++
            ([] ++ (writeRow after ++ closingTag name closing ++ back)) := by
        simp
      rw [hold] at hdoc
      simpa using hdoc.exchange hrow (Or.inl hmeet)

end Sectioned

end Edits

end Pom
end Runbook
