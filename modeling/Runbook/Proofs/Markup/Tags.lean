import Mathlib.Tactic
import Mathlib.Data.List.Basic
import Runbook.Markup.Element
import Runbook.Proofs.Text.Positions

/-!
# Trees of markup and their tags

A well-formed document is a row of nodes: plain text, comments, character data, declarations and
elements. Each part carries the proof that it can be written down without being taken for something
else, so that every tree has a written form. A name begins like a name; what follows a name in a tag
holds no angle brackets, does not go on with the name and does not end in a slash; a comment or
character data does not hold its own end.

What the reader makes of a written tag: an opening, closing or empty tag is read as exactly that,
whatever follows it, and a comment or character data is read up to its own end. Any tag ends at the
first `>` after its name.
-/

namespace Runbook
namespace Markup

/-! ## Trees and their written form -/

/-- The name of an element. -/
structure Name where
  chars : List Char
  named : ∃ c s, chars = c :: s ∧ startsName c = true ∧ ∀ d ∈ s, continuesName d = true

/-- What stands in a tag after its name: attributes, blanks, or nothing. -/
structure Attributes where
  chars : List Char
  apart : ∀ c, chars.head? = some c → continuesName c = false
  plain : ∀ c ∈ chars, c ≠ '<' ∧ c ≠ '>'
  ended : chars.getLast? ≠ some '/'

/-- No attributes. -/
def Attributes.none : Attributes where
  chars := []
  apart := by simp
  plain := by simp
  ended := by simp

/-- A stretch of a document without tags. -/
inductive Piece where
  | text (s : List Char) (plain : '<' ∉ s)
  | comment (body : List Char) (open_ : ¬ ['-', '-', '>'] <:+: body)
  | characterData (body : List Char) (open_ : ¬ [']', ']', '>'] <:+: body)
  | declaration (body : List Char) (plain : '<' ∉ body)

/-- The written form of a piece. -/
def Piece.write : Piece → List Char
  | .text s _ => s
  | .comment body _ => ['<', '!', '-', '-'] ++ body ++ ['-', '-', '>']
  | .characterData body _ =>
      ['<', '!', '[', 'C', 'D', 'A', 'T', 'A', '['] ++ body ++ [']', ']', '>']
  | .declaration body _ => ['<', '?'] ++ body ++ ['?', '>']

/-- A node of a document. An element is written as an empty tag, or as an opening and a closing tag
with a row of nodes between them. -/
inductive Node where
  | piece (p : Piece)
  | empty (name : Name) (attributes : Attributes)
  | element (name : Name) (attributes : Attributes) (content : List Node) (closing : Attributes)

/-- An opening tag. -/
def openingTag
    (name : Name)
    (attributes : Attributes) :
    List Char :=
  '<' :: (name.chars ++ (attributes.chars ++ ['>']))

/-- A closing tag. -/
def closingTag
    (name : Name)
    (closing : Attributes) :
    List Char :=
  '<' :: '/' :: (name.chars ++ (closing.chars ++ ['>']))

/-- An empty tag. -/
def emptyTag
    (name : Name)
    (attributes : Attributes) :
    List Char :=
  '<' :: (name.chars ++ (attributes.chars ++ ['/', '>']))

mutual

/-- The written form of a node. -/
def Node.write : Node → List Char
  | .piece p => p.write
  | .empty name attributes => emptyTag name attributes
  | .element name attributes content closing =>
      openingTag name attributes ++ (writeRow content ++ closingTag name closing)

/-- The written form of a row of nodes. -/
def writeRow : List Node → List Char
  | [] => []
  | n :: row => n.write ++ writeRow row

end

@[simp] theorem writeRow_nil :
    writeRow [] = [] := by
  rfl

@[simp] theorem writeRow_cons
    (n : Node)
    (row : List Node) :
    writeRow (n :: row) = n.write ++ writeRow row := by
  rfl

@[simp] theorem writeRow_append
    (row row' : List Node) :
    writeRow (row ++ row') = writeRow row ++ writeRow row' := by
  induction row with
  | nil => simp
  | cons n row ih => simp [ih]

@[simp] theorem Node.write_piece
    (p : Piece) :
    (Node.piece p).write = p.write := by
  rfl

@[simp] theorem Node.write_empty
    (name : Name)
    (attributes : Attributes) :
    (Node.empty name attributes).write = emptyTag name attributes := by
  rfl

@[simp] theorem Node.write_element
    (name : Name)
    (attributes : Attributes)
    (content : List Node)
    (closing : Attributes) :
    (Node.element name attributes content closing).write =
      openingTag name attributes ++ (writeRow content ++ closingTag name closing) := by
  rfl

/-- The name of the element that a node is. -/
def Node.name? : Node → Option String
  | .piece _ => none
  | .empty name _ => some (String.ofList name.chars)
  | .element name _ _ _ => some (String.ofList name.chars)

/-- The row of nodes between the tags of a node. -/
def Node.content : Node → List Node
  | .element _ _ content _ => content
  | _ => []

/-- Whether a node is an element. -/
def Node.isElement (n : Node) : Bool :=
  n.name?.isSome

theorem Node.write_ne_nil
    {n : Node}
    (h : n.isElement = true) :
    n.write ≠ [] := by
  cases n with
  | piece p => simp [Node.isElement, Node.name?] at h
  | empty name attributes => simp [emptyTag]
  | element name attributes content closing => simp [openingTag]

/-- The elements of a row, in order. -/
def elements (row : List Node) : List Node :=
  row.filter Node.isElement

@[simp] theorem elements_nil :
    elements [] = [] := by
  rfl

@[simp] theorem elements_append
    (row row' : List Node) :
    elements (row ++ row') = elements row ++ elements row' := by
  simp [elements]

@[simp] theorem elements_cons_piece
    (p : Piece)
    (row : List Node) :
    elements (.piece p :: row) = elements row := by
  rfl

theorem elements_cons_of
    {n : Node}
    {row : List Node}
    (h : n.isElement = true) :
    elements (n :: row) = n :: elements row := by
  simp [elements, h]

theorem elements_cons_of_not
    {n : Node}
    {row : List Node}
    (h : n.isElement = false) :
    elements (n :: row) = elements row := by
  simp [elements, h]

/-- The tags of an element where it stands. -/
def Node.element?
    (offset : Nat) :
    Node → Option Element
  | .piece _ => none
  | .empty name attributes =>
      let stop := offset + Text.byteSize (emptyTag name attributes)
      some ⟨String.ofList name.chars, ⟨offset, stop⟩, ⟨stop, stop⟩, true⟩
  | .element name attributes content closing =>
      let start := offset + Text.byteSize (openingTag name attributes)
      let stop := start + Text.byteSize (writeRow content)
      some ⟨String.ofList name.chars,
        ⟨offset, stop + Text.byteSize (closingTag name closing)⟩, ⟨start, stop⟩, false⟩

/-- The elements of a row that begins at an offset. -/
def rowElements
    (offset : Nat) :
    List Node → List Element
  | [] => []
  | n :: row =>
      (n.element? offset).toList ++ rowElements (offset + Text.byteSize n.write) row

/-- A document: one element, with anything but elements before and after it. -/
structure Document where
  before : List Node
  root : Node
  after : List Node
  before_plain : elements before = []
  root_element : root.isElement = true
  after_plain : elements after = []

/-- The written form of a document. -/
def Document.write (d : Document) : List Char :=
  writeRow d.before ++ (d.root.write ++ writeRow d.after)

/-- Whether a text can name an element. -/
def isName : List Char → Bool
  | [] => false
  | c :: s => startsName c && s.all continuesName

theorem exists_cons_of_isName
    {s : List Char}
    (h : isName s = true) :
    ∃ c t, s = c :: t ∧ startsName c = true ∧ ∀ d ∈ t, continuesName d = true := by
  cases s with
  | nil => cases h
  | cons c t =>
      rw [isName, Bool.and_eq_true, List.all_eq_true] at h
      exact ⟨c, t, rfl, h.1, h.2⟩

/-- The name of a text that is one. -/
def Name.ofString
    (s : String)
    (named : isName s.toList = true) :
    Name :=
  ⟨s.toList, exists_cons_of_isName named⟩

/-! ## Reading one tag -/

theorem startsName_ne
    {c d : Char}
    (hc : startsName c = true)
    (hd : startsName d = false) :
    c ≠ d := by
  rintro rfl
  rw [hc] at hd
  cases hd

theorem continuesName_ne
    {c d : Char}
    (hc : continuesName c = true)
    (hd : continuesName d = false) :
    c ≠ d := by
  rintro rfl
  rw [hc] at hd
  cases hd

theorem continuesName_of_startsName
    {c : Char}
    (hc : startsName c = true) :
    continuesName c = true := by
  simp only [startsName, Bool.or_eq_true, decide_eq_true_eq] at hc
  rcases hc with halpha | rfl
  · have hascii : c.toNat < 0x80 := by
      have hval : c.toNat = c.val.toNat := rfl
      have hcase : (c.isUpper || c.isLower) = true := halpha
      rcases Bool.or_eq_true_iff.mp hcase with hupper | hlower
      · have hrange : decide (65 ≤ c.val ∧ c.val ≤ 90) = true := hupper
        have hle := UInt32.le_iff_toNat_le.mp (of_decide_eq_true hrange).2
        simp only [UInt32.reduceToNat] at hle
        omega
      · have hrange : (decide (97 ≤ c.val) && decide (c.val ≤ 122)) = true := hlower
        rw [Bool.and_eq_true] at hrange
        have hle := UInt32.le_iff_toNat_le.mp (of_decide_eq_true hrange.2)
        simp only [UInt32.reduceToNat] at hle
        omega
    simp [continuesName, Text.isWord, hascii, Char.isAlphanum, halpha]
  · decide

namespace Name

variable (name : Name)

/-- Every character of a name may stand in one. -/
theorem continues
    {c : Char}
    (hc : c ∈ name.chars) :
    continuesName c = true := by
  obtain ⟨d, s, h, hd, hs⟩ := name.named
  rw [h, List.mem_cons] at hc
  rcases hc with rfl | hc
  · exact continuesName_of_startsName hd
  · exact hs c hc

end Name

/-! ## The end of a tag -/

/-- A tag ends at the first `>`. -/
theorem tagEnd?_through :
    ∀ (u : List Char) (rest : List Char), '>' ∉ u →
      ∃ selfClosing, tagEnd? (u ++ '>' :: rest) = some (selfClosing, u.length + 1)
  | [], rest, _ => ⟨false, rfl⟩
  | [c], rest, hu => by
      by_cases hc : c = '/'
      · subst hc
        exact ⟨true, rfl⟩
      · have hgt : c ≠ '>' := by
          rintro rfl
          simp at hu
        exact ⟨false, by simp [tagEnd?, hc]⟩
  | c :: d :: u, rest, hu => by
      simp only [List.mem_cons, not_or] at hu
      obtain ⟨hc, hd, hu⟩ := hu
      by_cases hslash : c = '/'
      · subst hslash
        obtain ⟨b, hb⟩ := tagEnd?_through u rest hu
        refine ⟨b, ?_⟩
        have hd' : d ≠ '>' := fun h => hd h.symm
        simp [tagEnd?, hb]
      · obtain ⟨b, hb⟩ := tagEnd?_through (d :: u) rest (by simp [hd, hu])
        refine ⟨b, ?_⟩
        have hc' : c ≠ '>' := fun h => hc h.symm
        have hstep :
            tagEnd? (c :: (d :: u ++ '>' :: rest)) =
              (tagEnd? (d :: u ++ '>' :: rest)).map fun p => (p.1, p.2 + 1) := by
          simp [tagEnd?, hslash]
        rw [List.cons_append, hstep, hb]
        rfl

/-- After attributes that do not end in a slash, `>` ends a tag and `/>` an empty tag. -/
theorem tagEnd?_attributes :
    ∀ (u rest : List Char), '>' ∉ u → u.getLast? ≠ some '/' →
      tagEnd? (u ++ '>' :: rest) = some (false, u.length + 1) ∧
        tagEnd? (u ++ '/' :: '>' :: rest) = some (true, u.length + 2)
  | [], rest, _, _ => ⟨rfl, rfl⟩
  | [c], rest, hu, hlast => by
      have hgt : c ≠ '>' := by
        rintro rfl
        simp at hu
      have hslash : c ≠ '/' := by
        rintro rfl
        simp at hlast
      simp [tagEnd?, hslash]
  | c :: d :: u, rest, hu, hlast => by
      simp only [List.mem_cons, not_or] at hu
      obtain ⟨hc, hd, hu⟩ := hu
      have hc' : c ≠ '>' := fun h => hc h.symm
      have hd' : d ≠ '>' := fun h => hd h.symm
      by_cases hslash : c = '/'
      · subst hslash
        have hlast' : u.getLast? ≠ some '/' := by
          cases u with
          | nil => simp
          | cons e u => simpa using hlast
        obtain ⟨h₁, h₂⟩ := tagEnd?_attributes u rest hu hlast'
        simp [tagEnd?, h₁, h₂]
      · obtain ⟨h₁, h₂⟩ :=
          tagEnd?_attributes (d :: u) rest (by simp [hd, hu]) (by simpa using hlast)
        simp only [List.cons_append] at h₁ h₂
        simp [tagEnd?, hslash, h₁, h₂]

/-! ## Whole tags -/

theorem takeWhile_name
    (s rest : List Char)
    (hs : ∀ c ∈ s, continuesName c = true)
    (hrest : ∀ c, rest.head? = some c → continuesName c = false) :
    (s ++ rest).takeWhile continuesName = s ∧ (s ++ rest).dropWhile continuesName = rest := by
  induction s with
  | nil =>
      cases rest with
      | nil => simp
      | cons c rest =>
          have hc := hrest c rfl
          simp [hc]
  | cons c s ih =>
      have hc := hs c (by simp)
      obtain ⟨h₁, h₂⟩ := ih fun d hd => hs d (by simp [hd])
      simp [hc, h₁, h₂]

/-- The body of a tag: a name, then what `tagEnd?` makes of the rest. -/
theorem tagBody?_name
    (closing : Bool)
    (taken : Nat)
    (name : Name)
    (rest : List Char)
    (hrest : ∀ c, rest.head? = some c → continuesName c = false) :
    tagBody? closing taken (name.chars ++ rest) =
      (tagEnd? rest).map fun p =>
        ⟨name.chars, closing, p.1, taken + name.chars.length + p.2⟩ := by
  obtain ⟨c, s, h, hc, hs⟩ := name.named
  obtain ⟨htake, hdrop⟩ := takeWhile_name s rest hs hrest
  simp [h, tagBody?, hc, htake, hdrop]

namespace Attributes

variable (a : Attributes)

theorem gt_not_mem :
    '>' ∉ a.chars :=
  fun h => (a.plain '>' h).2 rfl

theorem lt_not_mem :
    '<' ∉ a.chars :=
  fun h => (a.plain '<' h).1 rfl

/-- What follows a name does not go on with it. -/
theorem head_append
    {d : Char}
    (hd : continuesName d = false)
    (s : List Char)
    (c : Char)
    (h : (a.chars ++ d :: s).head? = some c) :
    continuesName c = false := by
  cases ha : a.chars with
  | nil =>
      have hc : d = c := by simpa [ha] using h
      exact hc ▸ hd
  | cons d t =>
      rw [ha] at h
      have hd : d = c := by simpa using h
      exact a.apart c (by simp [ha, hd])

end Attributes

/-- An opening tag is read as one. -/
theorem tagAt?_openingTag
    (name : Name)
    (attributes : Attributes)
    (rest : List Char) :
    tagAt? (openingTag name attributes ++ rest) =
      some ⟨name.chars, false, false, (openingTag name attributes).length⟩ := by
  have hends :=
    tagEnd?_attributes attributes.chars rest attributes.gt_not_mem attributes.ended
  have hbody :=
    tagBody?_name false 1 name (attributes.chars ++ '>' :: rest)
      (attributes.head_append (by decide) _)
  have hread :
      tagAt? ('<' :: (name.chars ++ (attributes.chars ++ '>' :: rest))) =
        tagBody? false 1 (name.chars ++ (attributes.chars ++ '>' :: rest)) := by
    obtain ⟨c, s, h, hc, -⟩ := name.named
    have hslash : c ≠ '/' := startsName_ne hc (by decide)
    simp [h, tagAt?, hslash]
  rw [openingTag]
  simp only [List.cons_append, List.append_assoc, List.nil_append]
  rw [hread, hbody, hends.1]
  simp
  omega

/-- An empty tag is read as one. -/
theorem tagAt?_emptyTag
    (name : Name)
    (attributes : Attributes)
    (rest : List Char) :
    tagAt? (emptyTag name attributes ++ rest) =
      some ⟨name.chars, false, true, (emptyTag name attributes).length⟩ := by
  have hends :=
    tagEnd?_attributes attributes.chars rest attributes.gt_not_mem attributes.ended
  have hbody :=
    tagBody?_name false 1 name (attributes.chars ++ '/' :: '>' :: rest)
      (attributes.head_append (by decide) _)
  have hread :
      tagAt? ('<' :: (name.chars ++ (attributes.chars ++ '/' :: '>' :: rest))) =
        tagBody? false 1 (name.chars ++ (attributes.chars ++ '/' :: '>' :: rest)) := by
    obtain ⟨c, s, h, hc, -⟩ := name.named
    have hslash : c ≠ '/' := startsName_ne hc (by decide)
    simp [h, tagAt?, hslash]
  rw [emptyTag]
  simp only [List.cons_append, List.append_assoc, List.nil_append]
  rw [hread, hbody, hends.2]
  simp
  omega

/-- A closing tag is read as one. -/
theorem tagAt?_closingTag
    (name : Name)
    (closing : Attributes)
    (rest : List Char) :
    tagAt? (closingTag name closing ++ rest) =
      some ⟨name.chars, true, false, (closingTag name closing).length⟩ := by
  have hends := tagEnd?_attributes closing.chars rest closing.gt_not_mem closing.ended
  have hbody :=
    tagBody?_name true 2 name (closing.chars ++ '>' :: rest) (closing.head_append (by decide) _)
  rw [closingTag]
  simp only [List.cons_append, List.append_assoc, List.nil_append]
  rw [tagAt?, hbody, hends.1]
  simp
  omega

/-- No tag begins elsewhere than at a `<`. -/
theorem tagAt?_eq_none
    {c : Char}
    (hc : c ≠ '<')
    (s : List Char) :
    tagAt? (c :: s) = none := by
  simp [tagAt?, hc]

/-- The end of a tag is not beyond a `>`. -/
theorem tagEnd?_le
    {u rest : List Char}
    {p : Bool × Nat}
    (h : tagEnd? (u ++ '>' :: rest) = some p) :
    p.2 ≤ u.length + 1 := by
  by_cases hu : '>' ∈ u
  · obtain ⟨u₁, u₂, rfl, hfree⟩ := List.eq_append_cons_of_mem hu
    obtain ⟨b, hb⟩ := tagEnd?_through u₁ (u₂ ++ '>' :: rest) hfree
    simp only [List.append_assoc, List.cons_append, hb, Option.some.injEq] at h
    subst h
    simp
  · obtain ⟨b, hb⟩ := tagEnd?_through u rest hu
    simp only [hb, Option.some.injEq] at h
    subst h
    simp

/-- What is taken from the front of a text stops at a character that is not wanted. -/
theorem takeWhile_stop
    {p : Char → Bool}
    {d : Char}
    (u rest : List Char)
    (hd : p d = false) :
    (u ++ d :: rest).takeWhile p = u.takeWhile p ∧
      (u ++ d :: rest).dropWhile p = u.dropWhile p ++ d :: rest := by
  induction u with
  | nil => simp [hd]
  | cons c u ih =>
      by_cases hc : p c = true
      · simp [hc, ih]
      · simp [hc]

theorem tagBody?_length_le
    {closing : Bool}
    {taken : Nat}
    {u rest : List Char}
    {t : TagForm}
    (h : tagBody? closing taken (u ++ '>' :: rest) = some t) :
    t.length ≤ taken + u.length + 1 := by
  cases u with
  | nil => simp [tagBody?, startsName] at h
  | cons c u =>
      simp only [List.cons_append, tagBody?] at h
      split at h
      · obtain ⟨htake, hdrop⟩ := takeWhile_stop u rest (p := continuesName) (d := '>') (by decide)
        rw [htake, hdrop] at h
        obtain ⟨p, hp, rfl⟩ := Option.map_eq_some_iff.mp h
        have hlen := tagEnd?_le hp
        have hsum : (u.takeWhile continuesName).length + (u.dropWhile continuesName).length =
            u.length := by
          rw [← List.length_append, List.takeWhile_append_dropWhile]
        simp only [List.length_cons]
        omega
      · cases h

/-- A tag that begins before a `>` ends there at the latest. -/
theorem tagAt?_length_le
    {u rest : List Char}
    {t : TagForm}
    (h : tagAt? (u ++ '>' :: rest) = some t) :
    t.length ≤ u.length + 1 := by
  match u, h with
  | [], h => simp [tagAt?] at h
  | [c], h =>
      by_cases hc : c = '<'
      · subst hc
        simp [tagAt?, tagBody?, startsName] at h
      · rw [List.cons_append, tagAt?_eq_none hc] at h
        cases h
  | c :: d :: u, h =>
      by_cases hc : c = '<'
      · subst hc
        by_cases hd : d = '/'
        · subst hd
          have hbody : tagBody? true 2 (u ++ '>' :: rest) = some t := h
          have hlen := tagBody?_length_le hbody
          simp only [List.length_cons]
          omega
        · have hbody : tagBody? false 1 (d :: u ++ '>' :: rest) = some t := by
            simpa [tagAt?, hd] using h
          have hlen := tagBody?_length_le hbody
          simp only [List.length_cons] at hlen ⊢
          omega
      · rw [List.cons_append, tagAt?_eq_none hc] at h
        cases h

end Markup
end Runbook
