import Mathlib.Data.List.TakeWhile
import Runbook.Proofs.Markup.Veil

/-!
# Documents of XML

The documents that XML 1.0 calls well-formed, without a document type and without processing
instructions. Where a rule of XML makes no difference to where tags stand, the documents here may break
it: texts and values may hold any `&`, and the attributes of a tag may have one name.

The grammar is wider than that of the trees that the reader is known to recover. Names may begin with
any letter and with a colon, and the reader passes over such tags. An attribute value may hold a `>`,
and the reader ends the tag there: an opening tag stays one, with a rest of the value as text behind it,
but an empty tag becomes an opening one, unless a slash stands before the `>`.

Main statements: `Tag.exists_opening`, `Tag.exists_alone_early` and `Tag.exists_alone_text`.
-/

namespace Runbook
namespace Markup
namespace Xml

/-! ## Names -/

/-- The code points that a name may begin with. -/
def beginRanges : List (Nat × Nat) :=
  [ (0x3a, 0x3a), (0x41, 0x5a), (0x5f, 0x5f), (0x61, 0x7a), (0xc0, 0xd6), (0xd8, 0xf6),
    (0xf8, 0x2ff), (0x370, 0x37d), (0x37f, 0x1fff), (0x200c, 0x200d), (0x2070, 0x218f),
    (0x2c00, 0x2fef), (0x3001, 0xd7ff), (0xf900, 0xfdcf), (0xfdf0, 0xfffd), (0x10000, 0xeffff) ]

/-- The code points that a name may go on with, besides those it may begin with. -/
def extendRanges : List (Nat × Nat) :=
  [(0x2d, 0x2e), (0x30, 0x39), (0xb7, 0xb7), (0x300, 0x36f), (0x203f, 0x2040)]

/-- Whether a character lies in one of several ranges of code points. -/
def liesIn
    (ranges : List (Nat × Nat))
    (c : Char) :
    Bool :=
  ranges.any fun r => r.1 ≤ c.toNat && c.toNat ≤ r.2

/-- A character that a name may begin with. -/
def beginsName (c : Char) : Bool :=
  liesIn beginRanges c

/-- A character that may stand in a name. -/
def extendsName (c : Char) : Bool :=
  beginsName c || liesIn extendRanges c

/-- Whether a text is a name. -/
def isNameText : List Char → Bool
  | [] => false
  | c :: s => beginsName c && s.all extendsName

/-- The name of an element or of an attribute. -/
structure Name where
  chars : List Char
  named : isNameText chars = true

/-- Whether the reader takes a tag of the name for a tag. -/
def Name.isReadable (n : Name) : Bool :=
  n.chars.head?.any startsName

/-! ## Tags -/

/-- A blank between the parts of a tag. -/
def isSpace (c : Char) : Bool :=
  c = ' ' || c = '\t' || c = '\r' || c = '\n'

/-- Blanks, or nothing. -/
structure Gap where
  chars : List Char
  blank : chars.all isSpace = true

/-- No blanks. -/
def Gap.none : Gap :=
  ⟨[], rfl⟩

/-- An attribute with the blanks before it. -/
structure Attribute where
  lead : Gap
  name : Name
  left : Gap
  right : Gap
  quote : Char
  value : List Char
  apart : lead.chars ≠ []
  quoted : quote = '"' ∨ quote = '\''
  plain : '<' ∉ value
  closed : quote ∉ value

/-- The written form of an attribute. -/
def Attribute.write (a : Attribute) : List Char :=
  a.lead.chars ++ (a.name.chars ++ (a.left.chars ++ ('=' :: (a.right.chars ++
    (a.quote :: (a.value ++ [a.quote]))))))

/-- What opening tags and empty tags are made of. -/
structure Tag where
  name : Name
  attributes : List Attribute
  gap : Gap

namespace Tag

/-- What stands in a tag after its name. -/
def body (t : Tag) : List Char :=
  t.attributes.flatMap Attribute.write ++ t.gap.chars

/-- An opening tag. -/
def opening (t : Tag) : List Char :=
  '<' :: (t.name.chars ++ (t.body ++ ['>']))

/-- An empty tag. -/
def alone (t : Tag) : List Char :=
  '<' :: (t.name.chars ++ (t.body ++ ['/', '>']))

/-- The closing tag of an element with a tag. -/
def closing
    (t : Tag)
    (gap : Gap) :
    List Char :=
  '<' :: '/' :: (t.name.chars ++ (gap.chars ++ ['>']))

/-- A tag that the reader ends inside an attribute value. -/
def EndsEarly (t : Tag) : Prop :=
  t.name.isReadable = true ∧ ∃ a ∈ t.attributes, '>' ∈ a.value

/-- A tag that the reader takes for an empty one inside an attribute value, where a slash stands before the
first `>`. -/
def EndsEmpty (t : Tag) : Prop :=
  t.name.isReadable = true ∧ ∃ u v, t.body = u ++ '/' :: '>' :: v ∧ '>' ∉ u

/-- A tag in which two slashes stand before the first `>`. -/
def EndsDoubled (t : Tag) : Prop :=
  t.name.isReadable = true ∧ ∃ u v, t.body = u ++ '/' :: '/' :: '>' :: v ∧ '>' ∉ u

/-- An empty tag that the reader takes for an opening one. -/
def EndsOpen (t : Tag) : Prop :=
  t.EndsEarly ∧ ¬ t.EndsEmpty

end Tag

/-! ## Documents -/

/-- A node of a document. An element is written as an empty tag, or as an opening and a closing tag of
one name with a row of nodes between them. -/
inductive Node where
  | piece (p : Piece)
  | empty (tag : Tag)
  | element (tag : Tag) (content : List Node) (gap : Gap)

mutual

/-- The written form of a node. -/
def Node.write : Node → List Char
  | .piece p => p.write
  | .empty tag => tag.alone
  | .element tag content gap => tag.opening ++ (writeNodes content ++ tag.closing gap)

/-- The written form of a row of nodes. -/
def writeNodes : List Node → List Char
  | [] => []
  | n :: row => n.write ++ writeNodes row

end

mutual

/-- The opening tags of a node. -/
def Node.openingTags : Node → List Tag
  | .piece _ => []
  | .empty _ => []
  | .element tag content _ => tag :: openingTagsOf content

/-- The opening tags of a row. -/
def openingTagsOf : List Node → List Tag
  | [] => []
  | n :: row => n.openingTags ++ openingTagsOf row

end

mutual

/-- The empty tags of a node. -/
def Node.emptyTags : Node → List Tag
  | .piece _ => []
  | .empty tag => [tag]
  | .element _ content _ => emptyTagsOf content

/-- The empty tags of a row. -/
def emptyTagsOf : List Node → List Tag
  | [] => []
  | n :: row => n.emptyTags ++ emptyTagsOf row

end

/-- The tag of the element that a node is. -/
def Node.tag? : Node → Option Tag
  | .piece _ => none
  | .empty tag => some tag
  | .element tag _ _ => some tag

/-- A document: one element, with blanks, comments and the declaration around it. -/
structure Document where
  before : List Piece
  root : Node
  after : List Piece
  root_element : root.tag?.isSome = true

namespace Document

/-- The written form of a document. -/
def write (d : Document) : List Char :=
  d.before.flatMap Piece.write ++ (d.root.write ++ d.after.flatMap Piece.write)

/-- The name of the root element. -/
def rootName (d : Document) : List Char :=
  match d.root.tag? with
  | some t => t.name.chars
  | none => []

/-- The opening tags of a document. -/
def openingTags (d : Document) : List Tag :=
  d.root.openingTags

/-- The empty tags of a document. -/
def emptyTags (d : Document) : List Tag :=
  d.root.emptyTags

end Document

/-! ## What names and blanks do not hold -/

theorem extendsName_of_beginsName
    {c : Char}
    (hc : beginsName c = true) :
    extendsName c = true := by
  rw [extendsName, hc, Bool.true_or]

namespace Name

variable (n : Name)

theorem exists_cons :
    ∃ c s, n.chars = c :: s ∧ beginsName c = true ∧ ∀ d ∈ s, extendsName d = true := by
  have hnamed := n.named
  cases hchars : n.chars with
  | nil => simp [hchars, isNameText] at hnamed
  | cons c s =>
      rw [hchars, isNameText, Bool.and_eq_true, List.all_eq_true] at hnamed
      exact ⟨c, s, rfl, hnamed⟩

theorem extends_of_mem
    {c : Char}
    (hc : c ∈ n.chars) :
    extendsName c = true := by
  obtain ⟨d, s, h, hd, hs⟩ := n.exists_cons
  rw [h, List.mem_cons] at hc
  rcases hc with rfl | hc
  · exact extendsName_of_beginsName hd
  · exact hs c hc

theorem not_mem
    {c : Char}
    (hc : extendsName c = false) :
    c ∉ n.chars := fun hmem => by
  rw [n.extends_of_mem hmem] at hc
  cases hc

end Name

namespace Gap

variable (g : Gap)

theorem isSpace_of_mem
    {c : Char}
    (hc : c ∈ g.chars) :
    isSpace c = true :=
  List.all_eq_true.mp g.blank c hc

theorem not_mem
    {c : Char}
    (hc : isSpace c = false) :
    c ∉ g.chars := fun hmem => by
  rw [g.isSpace_of_mem hmem] at hc
  cases hc

end Gap

namespace Attribute

variable (a : Attribute)

/-- An attribute up to the quote that opens its value. -/
def front : List Char :=
  a.lead.chars ++ (a.name.chars ++ (a.left.chars ++ ('=' :: (a.right.chars ++ [a.quote]))))

theorem write_eq :
    a.write = a.front ++ (a.value ++ [a.quote]) := by
  simp [write, front]

theorem quote_ne
    {c : Char}
    (h₁ : c ≠ '"')
    (h₂ : c ≠ '\'') :
    a.quote ≠ c := by
  rintro rfl
  rcases a.quoted with h | h
  · exact h₁ h
  · exact h₂ h

theorem not_mem_front
    {c : Char}
    (hspace : isSpace c = false)
    (hname : extendsName c = false)
    (h₁ : c ≠ '"')
    (h₂ : c ≠ '\'')
    (h₃ : c ≠ '=') :
    c ∉ a.front := by
  simp only [front, List.mem_append, List.mem_cons, List.not_mem_nil, or_false, not_or]
  exact ⟨a.lead.not_mem hspace, a.name.not_mem hname, a.left.not_mem hspace, h₃,
    a.right.not_mem hspace, (a.quote_ne h₁ h₂).symm⟩

theorem gt_not_mem_front :
    '>' ∉ a.front :=
  a.not_mem_front (by decide) (by decide) (by decide) (by decide) (by decide)

theorem lt_not_mem_write :
    '<' ∉ a.write := by
  have hfront := a.not_mem_front (c := '<') (by decide) (by decide) (by decide) (by decide) (by decide)
  have hquote := a.quote_ne (c := '<') (by decide) (by decide)
  rw [write_eq]
  simp [hfront, a.plain, hquote.symm]

theorem gt_mem_write_iff :
    '>' ∈ a.write ↔ '>' ∈ a.value := by
  have hquote := a.quote_ne (c := '>') (by decide) (by decide)
  rw [write_eq]
  simp [a.gt_not_mem_front, hquote.symm]

theorem getLast?_write :
    a.write.getLast? = some a.quote := by
  rw [write_eq, ← List.append_assoc, List.getLast?_concat]

/-- An attribute begins with a blank. -/
theorem exists_write_eq_cons :
    ∃ c r, a.write = c :: r ∧ isSpace c = true := by
  obtain ⟨c, r, hlead⟩ := List.exists_cons_of_ne_nil a.apart
  exact ⟨c, _, by rw [write, hlead, List.cons_append], a.lead.isSpace_of_mem (by simp [hlead])⟩

end Attribute

/-! ## Where the reader ends a tag -/

/-- What stands in a tag after its name begins with a blank. -/
def BeginsApart (s : List Char) : Prop :=
  ∀ c, s.head? = some c → isSpace c = true

theorem beginsApart_append
    (a : Attribute)
    (s : List Char) :
    BeginsApart (a.write ++ s) := by
  obtain ⟨c, r, hwrite, hc⟩ := a.exists_write_eq_cons
  intro d hd
  rw [hwrite, List.cons_append, List.head?_cons, Option.some.injEq] at hd
  exact hd ▸ hc

namespace Name

variable (n : Name)

/-- The part of a name that the reader takes for the whole. -/
def read (h : n.isReadable = true) : Markup.Name where
  chars := n.chars.takeWhile continuesName
  named := by
    obtain ⟨c, s, hs, -⟩ := n.exists_cons
    have hstarts : startsName c = true := by simpa [isReadable, hs] using h
    refine ⟨c, s.takeWhile continuesName, ?_, hstarts, fun d hd => ?_⟩
    · rw [hs, List.takeWhile_cons, if_pos (continuesName_of_startsName hstarts)]
    · exact List.all_eq_true.mp List.all_takeWhile d hd

/-- The part of a name that the reader takes for the beginning of the attributes. -/
def rest : List Char :=
  n.chars.dropWhile continuesName

theorem read_append_rest (h : n.isReadable = true) :
    (n.read h).chars ++ n.rest = n.chars :=
  List.takeWhile_append_dropWhile

/-- A name of letters, digits and the like is read whole. -/
theorem read_eq_of_isName
    (hname : isName n.chars = true) :
    ∃ h : n.isReadable = true, (n.read h).chars = n.chars := by
  obtain ⟨c, s, hs, hc, hall⟩ := exists_cons_of_isName hname
  refine ⟨by simp [isReadable, hs, hc], List.takeWhile_eq_self_iff.mpr fun d hd => ?_⟩
  rw [hs, List.mem_cons] at hd
  rcases hd with rfl | hd
  · exact continuesName_of_startsName hc
  · exact hall d hd

theorem not_mem_rest
    {c : Char}
    (hc : extendsName c = false) :
    c ∉ n.rest := fun hmem =>
  n.not_mem hc ((List.dropWhile_sublist _).subset hmem)

end Name

theorem continuesName_of_isSpace
    {c : Char}
    (hc : isSpace c = true) :
    continuesName c = false := by
  simp only [isSpace, Bool.or_eq_true, decide_eq_true_eq] at hc
  rcases hc with ((rfl | rfl) | rfl) | rfl <;> decide

/-- What follows a name in a tag up to the first `>` is read as attributes. -/
theorem exists_attributes
    (n : Name)
    {u : List Char}
    (hhead : BeginsApart u)
    (hlt : '<' ∉ u)
    (hgt : '>' ∉ u)
    (hlast : u.getLast? ≠ some '/') :
    ∃ a : Attributes, a.chars = n.rest ++ u := by
  refine ⟨⟨n.rest ++ u, fun c hc => ?_, fun c hc => ?_, ?_⟩, rfl⟩
  · cases hrest : n.rest with
    | nil =>
        rw [hrest, List.nil_append] at hc
        exact continuesName_of_isSpace (hhead c hc)
    | cons d r =>
        rw [hrest, List.cons_append, List.head?_cons, Option.some.injEq] at hc
        have hstop := List.head?_dropWhile_not continuesName n.chars
        rw [show n.chars.dropWhile continuesName = d :: r from hrest] at hstop
        simpa [hc] using hstop
  · rcases List.mem_append.mp hc with hc | hc
    · exact ⟨fun h => n.not_mem_rest (by decide) (h ▸ hc), fun h => n.not_mem_rest (by decide) (h ▸ hc)⟩
    · exact ⟨fun h => hlt (h ▸ hc), fun h => hgt (h ▸ hc)⟩
  · rw [List.getLast?_append]
    cases hend : u.getLast? with
    | none =>
        intro hrest
        rw [Option.none_or] at hrest
        exact n.not_mem_rest (by decide) (List.mem_of_getLast? hrest)
    | some c =>
        rw [Option.some_or, ← hend]
        exact hlast

theorem beginsApart_gap (g : Gap) :
    BeginsApart g.chars := fun _ hc =>
  g.isSpace_of_mem (List.mem_of_head? hc)

theorem getLast?_gap_ne (g : Gap) :
    g.chars.getLast? ≠ some '/' := fun h =>
  g.not_mem (by decide) (List.mem_of_getLast? h)

namespace Tag

variable (t : Tag)

theorem lt_not_mem_body :
    '<' ∉ t.body := by
  simp only [body, List.mem_append, List.mem_flatMap, not_or, not_exists, not_and]
  exact ⟨fun a _ => a.lt_not_mem_write, t.gap.not_mem (by decide)⟩

theorem beginsApart_body :
    BeginsApart t.body := by
  rw [body]
  cases t.attributes with
  | nil => exact beginsApart_gap t.gap
  | cons a attributes =>
      rw [List.flatMap_cons, List.append_assoc]
      exact beginsApart_append a _

theorem getLast?_body_ne :
    t.body.getLast? ≠ some '/' := by
  rw [body, List.getLast?_append]
  cases hgap : t.gap.chars.getLast? with
  | some c =>
      rw [Option.some_or, ← hgap]
      exact getLast?_gap_ne t.gap
  | none =>
      rw [Option.none_or]
      rcases List.eq_nil_or_concat t.attributes with h | ⟨attributes, a, h⟩
      · simp [h]
      · rw [h, List.concat_eq_append, List.flatMap_append, List.flatMap_singleton, List.getLast?_append,
          a.getLast?_write]
        simpa using a.quote_ne (c := '/') (by decide) (by decide)

theorem gt_not_mem_body
    (h : ∀ a ∈ t.attributes, '>' ∉ a.value) :
    '>' ∉ t.body := by
  simp only [body, List.mem_append, List.mem_flatMap, not_or, not_exists, not_and]
  exact ⟨fun a ha hmem => h a ha (a.gt_mem_write_iff.mp hmem), t.gap.not_mem (by decide)⟩

theorem gt_mem_body
    (h : ∃ a ∈ t.attributes, '>' ∈ a.value) :
    '>' ∈ t.body := by
  obtain ⟨a, ha, hvalue⟩ := h
  exact List.mem_append_left _ (List.mem_flatMap.mpr ⟨a, ha, a.gt_mem_write_iff.mpr hvalue⟩)

section Readable

variable (h : t.name.isReadable = true)

/-- The reader takes all of a tag for its attributes, if no value holds a `>`. -/
theorem exists_attributes_body
    (hearly : ¬ t.EndsEarly) :
    ∃ a : Attributes, t.name.chars ++ t.body = (t.name.read h).chars ++ a.chars := by
  have hgt := t.gt_not_mem_body fun a ha hmem => hearly ⟨h, a, ha, hmem⟩
  obtain ⟨a, ha⟩ :=
    exists_attributes t.name t.beginsApart_body t.lt_not_mem_body hgt t.getLast?_body_ne
  refine ⟨a, ?_⟩
  rw [ha, ← List.append_assoc, t.name.read_append_rest]

/-- What stands in a tag before its first `>` and the slash there, if there is one, is read as
attributes. -/
theorem exists_attributes_front
    {u v : List Char}
    (hbody : t.body = u ++ v)
    (hgt : '>' ∉ u)
    (hlast : u.getLast? ≠ some '/') :
    ∃ a : Attributes, t.name.chars ++ t.body = (t.name.read h).chars ++ (a.chars ++ v) ∧ '<' ∉ v := by
  have hlt := t.lt_not_mem_body
  have hhead : BeginsApart u := by
    intro c hc
    refine t.beginsApart_body c ?_
    rw [hbody, List.head?_append, hc, Option.some_or]
  rw [hbody, List.mem_append, not_or] at hlt
  obtain ⟨a, ha⟩ := exists_attributes t.name hhead hlt.1 hgt hlast
  refine ⟨a, ?_, hlt.2⟩
  rw [hbody, ha, List.append_assoc, ← List.append_assoc _ _ (u ++ v), t.name.read_append_rest]

/-- The reader ends a tag at the first `>`, if one stands in a value. -/
theorem exists_attributes_cut
    (hearly : t.EndsEarly)
    (hempty : ¬ t.EndsEmpty) :
    ∃ (a : Attributes) (v : List Char),
      t.name.chars ++ t.body = (t.name.read h).chars ++ (a.chars ++ '>' :: v) ∧ '<' ∉ v := by
  obtain ⟨u, v, hbody, hgt⟩ := List.eq_append_cons_of_mem (t.gt_mem_body hearly.2)
  have hlast : u.getLast? ≠ some '/' := by
    intro hslash
    obtain ⟨w, rfl⟩ := List.getLast?_eq_some_iff.mp hslash
    exact hempty ⟨h, w, v, by simp [hbody], fun hmem => hgt (List.mem_append_left _ hmem)⟩
  obtain ⟨a, ha, hv⟩ := t.exists_attributes_front h hbody hgt hlast
  exact ⟨a, v, ha, fun hmem => hv (List.mem_cons_of_mem _ hmem)⟩

/-- The reader takes an opening tag for one, maybe with text behind it. -/
theorem exists_opening
    (hempty : ¬ t.EndsEmpty) :
    ∃ (a : Attributes) (w : List Char),
      t.opening = openingTag (t.name.read h) a ++ w ∧ '<' ∉ w := by
  by_cases hearly : t.EndsEarly
  · obtain ⟨a, v, hcut, hv⟩ := t.exists_attributes_cut h hearly hempty
    refine ⟨a, v ++ ['>'], ?_, by simp [hv]⟩
    rw [opening, openingTag, ← List.append_assoc, hcut]
    simp
  · obtain ⟨a, ha⟩ := t.exists_attributes_body h hearly
    refine ⟨a, [], ?_, by simp⟩
    rw [opening, openingTag, ← List.append_assoc, ha]
    simp

/-- The reader takes an empty tag with no `>` in a value for one. -/
theorem exists_alone
    (hearly : ¬ t.EndsEarly) :
    ∃ a : Attributes, t.alone = emptyTag (t.name.read h) a := by
  obtain ⟨a, ha⟩ := t.exists_attributes_body h hearly
  refine ⟨a, ?_⟩
  rw [alone, emptyTag, ← List.append_assoc, ha]
  simp

/-- The reader takes an empty tag for an opening tag with text behind it, if no slash stands before the
first `>` of its values. -/
theorem exists_alone_early
    (hopen : t.EndsOpen) :
    ∃ (a : Attributes) (w : List Char),
      t.alone = openingTag (t.name.read h) a ++ w ∧ '<' ∉ w := by
  obtain ⟨a, v, hcut, hv⟩ := t.exists_attributes_cut h hopen.1 hopen.2
  refine ⟨a, v ++ ['/', '>'], ?_, by simp [hv]⟩
  rw [alone, openingTag, ← List.append_assoc, hcut]
  simp

/-- The reader takes an empty tag for one with text behind it, if one slash stands there. -/
theorem exists_alone_cut
    (hempty : t.EndsEmpty)
    (hdouble : ¬ t.EndsDoubled) :
    ∃ (a : Attributes) (w : List Char),
      t.alone = emptyTag (t.name.read h) a ++ w ∧ '<' ∉ w := by
  obtain ⟨-, u, v, hbody, hgt⟩ := hempty
  have hlast : u.getLast? ≠ some '/' := by
    intro hslash
    obtain ⟨w, rfl⟩ := List.getLast?_eq_some_iff.mp hslash
    exact hdouble ⟨h, w, v, by simp [hbody], fun hmem => hgt (List.mem_append_left _ hmem)⟩
  obtain ⟨a, ha, hv⟩ := t.exists_attributes_front h hbody hgt hlast
  simp only [List.mem_cons, not_or] at hv
  refine ⟨a, v ++ ['/', '>'], ?_, by simp [hv.2.2]⟩
  rw [alone, emptyTag, ← List.append_assoc, ha]
  simp

/-- So the reader takes an empty tag for one, unless it takes it for an opening one. -/
theorem exists_alone_text
    (hopen : ¬ t.EndsOpen)
    (hdouble : ¬ t.EndsDoubled) :
    ∃ (a : Attributes) (w : List Char),
      t.alone = emptyTag (t.name.read h) a ++ w ∧ '<' ∉ w := by
  by_cases hearly : t.EndsEarly
  · exact t.exists_alone_cut h (not_not.mp fun hempty => hopen ⟨hearly, hempty⟩) hdouble
  · obtain ⟨a, ha⟩ := t.exists_alone h hearly
    exact ⟨a, [], by rw [ha, List.append_nil], List.not_mem_nil⟩

/-- The reader takes a closing tag for one. -/
theorem exists_closing (gap : Gap) :
    ∃ a : Attributes, t.closing gap = closingTag (t.name.read h) a := by
  obtain ⟨a, ha⟩ :=
    exists_attributes t.name (beginsApart_gap gap) (gap.not_mem (by decide)) (gap.not_mem (by decide))
      (getLast?_gap_ne gap)
  refine ⟨a, ?_⟩
  rw [closing, closingTag, ha, ← t.name.read_append_rest h]
  simp

end Readable

section Unreadable

variable (h : t.name.isReadable = false)

include h

/-- A name that the reader does not take for one begins with something that begins nothing. -/
theorem exists_startsNothing :
    ∃ c s, t.name.chars = c :: s ∧ startsNothing c = true := by
  obtain ⟨c, s, hchars, hc, -⟩ := t.name.exists_cons
  refine ⟨c, s, hchars, ?_⟩
  have hstarts : startsName c = false := by simpa [Name.isReadable, hchars] using h
  have hne : ∀ d, beginsName d = false → c ≠ d := by
    rintro d hd rfl
    rw [hc] at hd
    cases hd
  simp [startsNothing, hstarts, hne '/' (by decide), hne '!' (by decide), hne '<' (by decide)]

theorem inert_name (s : List Char) :
    Inert (t.name.chars ++ s) ∧ Inert ('/' :: (t.name.chars ++ s)) := by
  obtain ⟨c, r, hchars, hc⟩ := t.exists_startsNothing h
  rw [hchars]
  exact ⟨Inert.opening hc, Inert.closing hc⟩

/-- The reader takes no tag with such a name for a tag. -/
theorem exists_pieces (gap : Gap) :
    (∃ p : Piece, Veiled t.opening p.write) ∧ (∃ p : Piece, Veiled t.alone p.write) ∧
      ∃ p : Piece, Veiled (t.closing gap) p.write := by
  have hname : '<' ∉ t.name.chars := t.name.not_mem (by decide)
  have hbody := t.lt_not_mem_body
  have hgap : '<' ∉ gap.chars := gap.not_mem (by decide)
  exact ⟨Veiled.exists_piece (t.inert_name h _).1 (by simp [hname, hbody]),
    Veiled.exists_piece (t.inert_name h _).1 (by simp [hname, hbody]),
    Veiled.exists_piece (t.inert_name h _).2 (by simp [hname, hgap])⟩

end Unreadable

end Tag

end Xml
end Markup
end Runbook
