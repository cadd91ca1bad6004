import Mathlib.Data.List.TakeWhile
import Runbook.Proofs.Text.Trimming
import Runbook.Template

/-!
# Rendering what a template is written from

A template is written from segments: a literal, a key between double braces, with blanks around it or
not, and such a placeholder behind a backslash. Reading the written text cuts it into the pieces of the
segments again, whatever stands next to what. So rendering replaces each placeholder once, and the first
key that the context does not resolve decides the error.

Any text is what some template renders to: a backslash before every key between double braces keeps it
as it is. The texts between double braces are looked for from the left, and none begins in another one.
A text that is escaped so has no placeholder in it but behind the new backslashes, and each of these is
taken away once, whatever braces and backslashes the text had.

Main statements: `render_write` and `exists_escaped`.
-/

namespace Runbook
namespace Template

open Text

/-! ## Segments -/

/-- A key between double braces, with blanks around it. The key has no brace in it, and no blank at its
ends. -/
structure Slot where
  before : List Char
  key : List Char
  after : List Char
  before_blank : allBlank before = true
  key_ne_nil : key ≠ []
  key_plain : ∀ c ∈ key, isBrace c = false
  key_tight : Tight key
  after_blank : allBlank after = true

namespace Slot

/-- The text between the braces. -/
def inside (slot : Slot) : List Char :=
  slot.before ++ slot.key ++ slot.after

/-- The written placeholder. -/
def write (slot : Slot) : List Char :=
  ['\x7b', '\x7b'] ++ slot.inside ++ ['\x7d', '\x7d']

/-- The key as a context has it. -/
def name (slot : Slot) : String :=
  String.ofList slot.key

end Slot

/-- A part that a template is written from. -/
inductive Segment where
  | literal (text : List Char) (plain : ∀ c ∈ text, c ≠ '\x7b' ∧ c ≠ '\\')
  | placeholder (slot : Slot)
  | escaped (slot : Slot)

namespace Segment

/-- The written segment. -/
def write : Segment → List Char
  | .literal text _ => text
  | .placeholder slot => slot.write
  | .escaped slot => '\\' :: slot.write

/-- The pieces that a segment is read as. -/
def pieces : Segment → List Piece
  | .literal text _ => text.map .literal
  | .placeholder slot => [.placeholder slot.name]
  | .escaped slot => [.escaped slot.inside]

/-- The key that a segment asks a context for. -/
def key? : Segment → Option String
  | .placeholder slot => some slot.name
  | _ => none

/-- What a segment becomes in a context: a literal is itself, a placeholder the text of its value, and
an escaped placeholder loses the backslash. -/
def text (context : Context) : Segment → List Char
  | .literal text _ => text
  | .placeholder slot => ((context.lookup slot.name).map fun v => v.plainText.toList).getD []
  | .escaped slot => slot.write

end Segment

/-- The template that is written from segments. -/
def write (segments : List Segment) : List Char :=
  segments.flatMap Segment.write

/-- The first key of the segments that a context does not resolve. -/
def unresolved?
    (context : Context)
    (segments : List Segment) :
    Option String :=
  (segments.filterMap Segment.key?).find? fun key => (context.lookup key).isNone

/-! ## Reading segments -/

theorem isBrace_eq_false_of_isBlank
    {c : Char}
    (h : isBlank c = true) :
    isBrace c = false := by
  have hcodes : ∀ n ∈ blankCodes, isBrace (Char.ofNat n) = false := by decide
  rw [← Char.ofNat_toNat c]
  exact hcodes _ (toNat_mem_blankCodes h)

/-- A text between double braces, with no brace in it, is found whatever comes behind it. -/
theorem placeholderInside?_between
    {inside : List Char}
    (hne : inside ≠ [])
    (hplain : ∀ c ∈ inside, isBrace c = false)
    (rest : List Char) :
    placeholderInside? (['\x7b', '\x7b'] ++ inside ++ ['\x7d', '\x7d'] ++ rest) = some inside := by
  have hopen : ∀ c ∈ inside, (!isBrace c) = true := by
    intro c hc
    rw [hplain c hc]
    rfl
  have hclose : isBrace '\x7d' = true := rfl
  have htake : (inside ++ '\x7d' :: '\x7d' :: rest).takeWhile (fun c => !isBrace c) = inside := by
    rw [List.takeWhile_append_of_pos hopen, List.takeWhile_cons_of_neg (by simp [hclose]),
      List.append_nil]
  have hdrop : (inside ++ '\x7d' :: '\x7d' :: rest).dropWhile (fun c => !isBrace c) =
      '\x7d' :: '\x7d' :: rest := by
    rw [List.dropWhile_append_of_pos hopen, List.dropWhile_cons_of_neg (by simp [hclose])]
  have hparts : ['\x7b', '\x7b'] ++ inside ++ ['\x7d', '\x7d'] ++ rest =
      '\x7b' :: '\x7b' :: (inside ++ '\x7d' :: '\x7d' :: rest) := by
    simp
  rw [hparts, placeholderInside?]
  simp only [htake, hdrop]
  simp [hne]

/-- What is found between double braces is not empty, and no brace is in it. -/
theorem exists_of_placeholderInside?
    {s inside : List Char}
    (h : placeholderInside? s = some inside) :
    inside ≠ [] ∧ (∀ c ∈ inside, isBrace c = false) ∧
      ∃ rest, s = ['\x7b', '\x7b'] ++ inside ++ ['\x7d', '\x7d'] ++ rest := by
  unfold placeholderInside? at h
  split at h
  · rename_i s
    dsimp only at h
    split at h
    · rename_i rest hdrop
      split at h
      · cases h
      · rename_i hne
        cases h
        refine ⟨by simpa using hne, ?_, rest, ?_⟩
        · intro c hc
          simpa using List.mem_takeWhile_imp hc
        · have hparts := List.takeWhile_append_dropWhile (p := fun c => !isBrace c) (l := s)
          rw [hdrop] at hparts
          simpa using hparts.symm
    · cases h
  · cases h

namespace Slot

variable (slot : Slot)

theorem not_isBrace_of_mem
    {c : Char}
    (h : c ∈ slot.inside) :
    isBrace c = false := by
  simp only [inside, List.mem_append] at h
  rcases h with (h | h) | h
  · exact isBrace_eq_false_of_isBlank (isBlank_of_mem slot.before_blank h)
  · exact slot.key_plain c h
  · exact isBrace_eq_false_of_isBlank (isBlank_of_mem slot.after_blank h)

theorem inside_ne_nil :
    slot.inside ≠ [] := by
  simp [inside, slot.key_ne_nil]

/-- Cutting the blanks off gives the key. -/
theorem keyOf_inside :
    keyOf slot.inside = slot.key := by
  have hkey : allBlank slot.key = false := by
    by_contra hblank
    exact slot.key_ne_nil (slot.key_tight.eq_nil (by simpa using hblank))
  have hinside : allBlank slot.inside = false := by simp [inside, hkey]
  rw [keyOf, hinside, if_neg Bool.false_ne_true]
  exact trim_append slot.before_blank slot.key_tight slot.after_blank

/-- A written placeholder is found whatever comes behind it. -/
theorem placeholderInside?_write (rest : List Char) :
    placeholderInside? (slot.write ++ rest) = some slot.inside :=
  placeholderInside?_between slot.inside_ne_nil (fun _ hc => slot.not_isBrace_of_mem hc) rest

end Slot

/-- What is still to be skipped is dropped. -/
theorem piecesFrom_append
    (u rest : List Char) :
    piecesFrom u.length (u ++ rest) = piecesFrom 0 rest := by
  induction u with
  | nil => rfl
  | cons c u ih =>
      rw [List.cons_append, List.length_cons, piecesFrom]
      exact ih

/-- A piece that is found at the front of a text takes its characters away. -/
theorem piecesFrom_of_pieceAt?
    {u rest : List Char}
    {p : Piece}
    (hu : u ≠ [])
    (h : pieceAt? (u ++ rest) = some (p, u.length)) :
    piecesFrom 0 (u ++ rest) = p :: piecesFrom 0 rest := by
  obtain ⟨c, s, rfl⟩ := List.exists_cons_of_ne_nil hu
  rw [List.cons_append] at h ⊢
  rw [piecesFrom, h]
  exact congrArg (p :: ·) (piecesFrom_append s rest)

/-- Neither an opening brace nor a backslash: no placeholder starts there. -/
theorem pieceAt?_eq_none
    {c : Char}
    (hbrace : c ≠ '\x7b')
    (hslash : c ≠ '\\')
    (s : List Char) :
    pieceAt? (c :: s) = none := by
  have hinside : placeholderInside? (c :: s) = none := by
    unfold placeholderInside?
    split
    · rename_i heq
      exact absurd (List.cons_eq_cons.mp heq).1 hbrace
    · rfl
  unfold pieceAt?
  split
  · rename_i heq
    exact absurd (List.cons_eq_cons.mp heq).1 hslash
  · rw [hinside]
    rfl

namespace Segment

/-- A segment in front of a text is cut off as its pieces. -/
theorem piecesFrom_write
    (segment : Segment)
    (rest : List Char) :
    piecesFrom 0 (segment.write ++ rest) = segment.pieces ++ piecesFrom 0 rest := by
  cases segment with
  | literal text plain =>
      simp only [write, pieces]
      induction text with
      | nil => rfl
      | cons c text ih =>
          obtain ⟨hbrace, hslash⟩ := plain c List.mem_cons_self
          rw [List.cons_append, piecesFrom, pieceAt?_eq_none hbrace hslash]
          exact congrArg (.literal c :: ·) (ih fun d hd => plain d (List.mem_cons_of_mem c hd))
  | placeholder slot =>
      have hlength : slot.write.length = slot.inside.length + 4 := by simp [Slot.write]
      have hfront : slot.write ++ rest = '\x7b' :: (slot.write ++ rest).tail := by
        simp [Slot.write]
      refine piecesFrom_of_pieceAt? (by simp [write, Slot.write]) ?_
      rw [write, hlength, hfront, pieceAt?, ← hfront, slot.placeholderInside?_write,
        Option.map_some, slot.keyOf_inside]
      · rfl
      · intro s hs
        exact absurd (List.cons_eq_cons.mp hs).1 (by decide)
  | escaped slot =>
      have hlength : ('\\' :: slot.write).length = slot.inside.length + 5 := by simp [Slot.write]
      refine piecesFrom_of_pieceAt? (by simp [write]) ?_
      rw [write, hlength, List.cons_append, pieceAt?, slot.placeholderInside?_write,
        Option.map_some]

end Segment

/-- A written template is read as the pieces of its segments. -/
theorem pieces_write (segments : List Segment) :
    pieces (write segments) = segments.flatMap Segment.pieces := by
  induction segments with
  | nil => rfl
  | cons segment rest ih =>
      rw [write, List.flatMap_cons, pieces, segment.piecesFrom_write, List.flatMap_cons]
      exact congrArg (segment.pieces ++ ·) ih

/-! ## Rendering segments -/

/-- Pieces are rendered one after another, up to the first that has no text. -/
theorem renderPieces_append
    (context : Context)
    (ps qs : List Piece) :
    renderPieces context (ps ++ qs) =
      match renderPieces context ps with
      | .error e => .error e
      | .ok t => (renderPieces context qs).map (t ++ ·) := by
  induction ps with
  | nil =>
      rw [List.nil_append, renderPieces]
      cases renderPieces context qs <;> rfl
  | cons p ps ih =>
      rw [List.cons_append, renderPieces, renderPieces, ih]
      cases renderPiece context p with
      | error e => rfl
      | ok t =>
          cases renderPieces context ps with
          | error e => rfl
          | ok u => cases renderPieces context qs <;> simp [Except.map]

theorem renderPieces_literal
    (context : Context)
    (text : List Char) :
    renderPieces context (text.map .literal) = .ok text := by
  induction text with
  | nil => rfl
  | cons c text ih =>
      rw [List.map_cons, renderPieces, ih]
      rfl

/-- A segment is rendered as its text, unless it asks for a key that is not resolved. -/
theorem renderPieces_pieces
    (context : Context)
    (segment : Segment) :
    renderPieces context segment.pieces =
      match segment.key?.filter (fun key => (context.lookup key).isNone) with
      | none => .ok (segment.text context)
      | some key => .error (.unresolved key) := by
  cases segment with
  | literal text plain => exact renderPieces_literal context text
  | placeholder slot =>
      simp only [Segment.pieces, Segment.key?, Segment.text, renderPieces, renderPiece]
      cases hvalue : context.lookup slot.name <;> simp [Option.filter, hvalue]
  | escaped slot => simp [Segment.pieces, Segment.key?, Segment.text, renderPieces, renderPiece,
      Slot.write]

/-- A template that is written from segments is rendered segment by segment: when the context resolves
every key, what comes of it are the literals, the texts of the values, which are not read again, and
the escaped placeholders without their backslash, in order. Otherwise the first key that is not
resolved is the error, whatever follows. -/
theorem render_write
    (context : Context)
    (segments : List Segment) :
    render context (String.ofList (write segments)) =
      match unresolved? context segments with
      | none => .ok (String.ofList (segments.flatMap (Segment.text context)))
      | some key => .error (.unresolved key) := by
  have hpieces : renderPieces context (segments.flatMap Segment.pieces) =
      match unresolved? context segments with
      | none => .ok (segments.flatMap (Segment.text context))
      | some key => .error (.unresolved key) := by
    induction segments with
    | nil => rfl
    | cons segment rest ih =>
        rw [List.flatMap_cons, renderPieces_append, renderPieces_pieces, ih, unresolved?,
          unresolved?, List.flatMap_cons]
        cases hkey : segment.key? with
        | none =>
            rw [List.filterMap_cons_none hkey, Option.filter_none]
            cases (rest.filterMap Segment.key?).find? fun key => (context.lookup key).isNone <;> rfl
        | some key =>
            rw [List.filterMap_cons_some hkey]
            cases hvalue : context.lookup key with
            | none => simp [Option.filter, hvalue]
            | some v =>
                simp only [Option.filter, hvalue, Option.isNone_some, List.find?_cons]
                cases (rest.filterMap Segment.key?).find? fun key => (context.lookup key).isNone <;>
                  rfl
  rw [render, String.toList_ofList, pieces_write, hpieces]
  cases unresolved? context segments <;> rfl

/-! ## Escaped texts -/

/-- A text that may stand between the double braces of a placeholder. -/
structure IsInside (inside : List Char) : Prop where
  ne_nil : inside ≠ []
  plain : ∀ c ∈ inside, isBrace c = false

/-- A text between double braces. -/
def braced (inside : List Char) : List Char :=
  ['\x7b', '\x7b'] ++ inside ++ ['\x7d', '\x7d']

/-- Whether a text starts with what looks like a placeholder. -/
def StartsBraced (s : List Char) : Prop :=
  ∃ inside rest, IsInside inside ∧ s = braced inside ++ rest

/-- The second text is the first one with a backslash before everything that looks like a placeholder.
The text is gone through from the left: where nothing of that kind starts, a character stays as it is. -/
inductive Escapes : List Char → List Char → Prop where
  | done :
      Escapes [] []
  | literal
      {c : Char}
      {s t : List Char}
      (free : ¬ StartsBraced (c :: s))
      (behind : Escapes s t) :
      Escapes (c :: s) (c :: t)
  | slot
      {inside rest t : List Char}
      (fits : IsInside inside)
      (behind : Escapes rest t) :
      Escapes (braced inside ++ rest) ('\\' :: (braced inside ++ t))

/-- What stands between the first double braces is determined. -/
theorem braced_append_inj
    {u v rest rest' : List Char}
    (hu : IsInside u)
    (hv : IsInside v)
    (h : braced u ++ rest = braced v ++ rest') :
    u = v ∧ rest = rest' := by
  have hfound := placeholderInside?_between hu.ne_nil hu.plain rest
  have hfound' := placeholderInside?_between hv.ne_nil hv.plain rest'
  rw [braced, braced] at h
  rw [h, hfound', Option.some_inj] at hfound
  subst hfound
  exact ⟨rfl, List.append_cancel_left h⟩

/-- Every text can be escaped. -/
theorem exists_escapes (s : List Char) :
    ∃ t, Escapes s t := by
  induction hlength : s.length using Nat.strong_induction_on generalizing s with
  | h n ih =>
      by_cases hstarts : StartsBraced s
      · obtain ⟨inside, rest, hinside, rfl⟩ := hstarts
        have hshort : rest.length < n := by
          rw [← hlength]
          simp [braced]
          omega
        obtain ⟨t, ht⟩ := ih rest.length hshort rest rfl
        exact ⟨_, .slot hinside ht⟩
      · cases s with
        | nil => exact ⟨[], .done⟩
        | cons c s =>
            obtain ⟨t, ht⟩ := ih s.length (by rw [← hlength]; simp) s rfl
            exact ⟨c :: t, .literal hstarts ht⟩

namespace Escapes

/-- There is one way to escape a text. -/
theorem unique
    {s t u : List Char}
    (ht : Escapes s t)
    (hu : Escapes s u) :
    u = t := by
  induction ht generalizing u with
  | done =>
      generalize hs : ([] : List Char) = s at hu
      cases hu with
      | done => rfl
      | literal free behind => cases hs
      | slot fits behind => simp [braced] at hs
  | literal free behind ih =>
      rename_i c s t
      generalize hs : c :: s = s' at hu
      cases hu with
      | done => cases hs
      | literal free' behind' =>
          cases hs
          rw [ih behind']
      | slot fits behind' => exact absurd ⟨_, _, fits, hs⟩ free
  | slot fits behind ih =>
      rename_i inside rest t
      generalize hs : braced inside ++ rest = s' at hu
      cases hu with
      | done => simp [braced] at hs
      | literal free behind' => exact absurd ⟨_, _, fits, hs.symm⟩ free
      | slot fits' behind' =>
          obtain ⟨rfl, rfl⟩ := braced_append_inj fits fits' hs
          rw [ih behind']

/-! ## Escaped texts have no placeholder at the front -/

/-- An opening or a closing brace is in an escaped text because it is in the text. -/
theorem exists_of_brace
    {c : Char}
    {s t : List Char}
    (h : Escapes s (c :: t))
    (hc : isBrace c = true) :
    ∃ s', s = c :: s' ∧ ¬ StartsBraced (c :: s') ∧ Escapes s' t := by
  cases h with
  | literal free behind => exact ⟨_, rfl, free, behind⟩
  | slot fits behind => cases hc

/-- Up to two closing braces nothing has been escaped, if no brace comes before them. -/
theorem exists_of_plain
    {s inside rest : List Char}
    (h : Escapes s (inside ++ '\x7d' :: '\x7d' :: rest))
    (hplain : ∀ c ∈ inside, isBrace c = false) :
    ∃ rest', s = inside ++ '\x7d' :: '\x7d' :: rest' := by
  induction inside generalizing s with
  | nil =>
      obtain ⟨s', rfl, -, hbehind⟩ := h.exists_of_brace rfl
      obtain ⟨s'', rfl, -, -⟩ := hbehind.exists_of_brace rfl
      exact ⟨s'', rfl⟩
  | cons c inside ih =>
      have hrest : ∀ d ∈ inside, isBrace d = false := fun d hd =>
        hplain d (List.mem_cons_of_mem c hd)
      generalize ht : c :: inside ++ '\x7d' :: '\x7d' :: rest = t at h
      cases h with
      | done => cases ht
      | literal free behind =>
          obtain ⟨rfl, rfl⟩ := List.cons_eq_cons.mp ht
          obtain ⟨rest', rfl⟩ := ih behind hrest
          exact ⟨rest', rfl⟩
      | slot fits behind =>
          -- Behind a new backslash an opening brace comes at once.
          obtain ⟨-, ht⟩ := List.cons_eq_cons.mp ht
          cases inside with
          | nil => simp [braced] at ht
          | cons d inside =>
              obtain ⟨rfl, -⟩ := List.cons_eq_cons.mp ht
              exact absurd (hrest _ List.mem_cons_self) (by decide)

/-- No placeholder starts an escaped text. -/
theorem placeholderInside?_eq_none
    {s t : List Char}
    (h : Escapes s t) :
    placeholderInside? t = none := by
  by_contra hfound
  obtain ⟨inside, hinside⟩ := Option.ne_none_iff_exists'.mp hfound
  obtain ⟨hne, hplain, rest, rfl⟩ := exists_of_placeholderInside? hinside
  obtain ⟨s', rfl, hfree, hbehind⟩ := h.exists_of_brace rfl
  obtain ⟨s'', rfl, -, hlast⟩ := hbehind.exists_of_brace rfl
  have hplaced : Escapes s'' (inside ++ '\x7d' :: '\x7d' :: rest) := by simpa using hlast
  obtain ⟨rest', rfl⟩ := hplaced.exists_of_plain hplain
  exact hfree ⟨inside, rest', ⟨hne, hplain⟩, by simp [braced]⟩

/-- Where nothing is escaped, a template has a character of the text. -/
theorem pieceAt?_eq_none
    {c : Char}
    {s t : List Char}
    (free : ¬ StartsBraced (c :: s))
    (behind : Escapes s t) :
    pieceAt? (c :: t) = none := by
  have hfront := (Escapes.literal free behind).placeholderInside?_eq_none
  unfold pieceAt?
  split
  · rename_i heq
    obtain ⟨-, rfl⟩ := List.cons_eq_cons.mp heq
    rw [behind.placeholderInside?_eq_none, Option.map_none]
  · rw [hfront, Option.map_none]

/-! ## Rendering escaped texts -/

/-- A backslash before a placeholder is taken away with it. -/
theorem pieceAt?_slot
    {inside : List Char}
    (fits : IsInside inside)
    (rest : List Char) :
    pieceAt? ('\\' :: (braced inside ++ rest)) =
      some (.escaped inside, ('\\' :: braced inside).length) := by
  have hlength : ('\\' :: braced inside).length = inside.length + 5 := by simp [braced]
  rw [pieceAt?, braced, placeholderInside?_between fits.ne_nil fits.plain, Option.map_some,
    ← braced, hlength]

/-- An escaped text is rendered as the text. -/
theorem renderPieces_pieces
    {s t : List Char}
    (h : Escapes s t)
    (context : Context) :
    renderPieces context (pieces t) = .ok s := by
  induction h with
  | done => rfl
  | literal free behind ih =>
      rw [pieces, piecesFrom, pieceAt?_eq_none free behind]
      rw [pieces] at ih
      simp only [renderPieces, renderPiece, ih]
      rfl
  | slot fits behind ih =>
      rename_i inside rest t
      rw [pieces, ← List.cons_append,
        piecesFrom_of_pieceAt? (by simp) (by rw [List.cons_append, pieceAt?_slot fits])]
      rw [pieces] at ih
      simp only [renderPieces, renderPiece, ih]
      simp [braced]

end Escapes

/-- Every text is what a template renders to in any context: the text itself, with a backslash before
each text between double braces. There is one such template for a text. -/
theorem exists_escaped (s : String) :
    ∃ t : List Char, (∀ u, Escapes s.toList u ↔ u = t) ∧
      ∀ context, render context (String.ofList t) = .ok s := by
  obtain ⟨t, ht⟩ := exists_escapes s.toList
  refine ⟨t, fun u => ⟨ht.unique, ?_⟩, fun context => ?_⟩
  · rintro rfl
    exact ht
  · rw [render, String.toList_ofList, ht.renderPieces_pieces context]
    exact congrArg Except.ok String.ofList_toList

end Template
end Runbook
