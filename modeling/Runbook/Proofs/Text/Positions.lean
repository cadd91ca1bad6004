import Mathlib.Data.List.Basic
import Mathlib.Tactic
import Runbook.Proofs.Text.Trimming
import Runbook.Text.Utf8

/-!
# Positions and extensions of a text

Byte offsets fit concatenation: what stands before a text has a size, and that size is where the
text begins. Slices, replacements and line beginnings are read off a text that is written as a
concatenation.

A text is extended by insertions. Beside them blanks may be dropped, and an empty tag may be opened:
its name and attributes stay, and it gets content and a closing tag. None of this removes, alters or
reorders a visible character.

Main statement: `Extended.visible_sublist`.
-/

namespace Runbook
namespace Text

@[simp] theorem byteSize_nil :
    byteSize [] = 0 := by
  rfl

@[simp] theorem byteSize_cons
    (c : Char)
    (s : List Char) :
    byteSize (c :: s) = c.utf8Size + byteSize s := by
  rfl

@[simp] theorem byteSize_append
    (u v : List Char) :
    byteSize (u ++ v) = byteSize u + byteSize v := by
  induction u with
  | nil => simp
  | cons c u ih => simp [ih, Nat.add_assoc]

/-- Only the empty text has no bytes. -/
theorem byteSize_pos
    {s : List Char}
    (hs : s ≠ []) :
    0 < byteSize s := by
  cases s with
  | nil => exact absurd rfl hs
  | cons c s =>
      have hc := c.utf8Size_pos
      simp only [byteSize_cons]
      omega

/-- A text is cut where its front part ends. -/
theorem splitAt?_append
    (u v : List Char) :
    splitAt? (byteSize u) (u ++ v) = some (u, v) := by
  induction u with
  | nil => simp [splitAt?]
  | cons c u ih =>
      have hc := c.utf8Size_pos
      obtain ⟨k, hk⟩ : ∃ k, c.utf8Size + byteSize u = k + 1 :=
        ⟨c.utf8Size + byteSize u - 1, by omega⟩
      have hle : c.utf8Size ≤ k + 1 := by omega
      have hrest : k + 1 - c.utf8Size = byteSize u := by omega
      simp [hk, splitAt?, hle, hrest, ih]

/-- A text that is cut is its two parts. -/
theorem splitAt?_eq_some :
    ∀ {n : Nat} {s u v : List Char}, splitAt? n s = some (u, v) → s = u ++ v ∧ byteSize u = n
  | 0, s, u, v, h => by
      obtain ⟨rfl, rfl⟩ : [] = u ∧ s = v := by simpa [splitAt?] using h
      exact ⟨rfl, rfl⟩
  | n + 1, [], u, v, h => by simp [splitAt?] at h
  | n + 1, c :: s, u, v, h => by
      by_cases hc : c.utf8Size ≤ n + 1
      · simp only [splitAt?, if_pos hc, Option.map_eq_some_iff, Prod.mk.injEq] at h
        obtain ⟨⟨u', v'⟩, hcut, rfl, rfl⟩ := h
        obtain ⟨rfl, hsize⟩ := splitAt?_eq_some hcut
        exact ⟨rfl, by simp only [byteSize_cons, hsize]; omega⟩
      · simp [splitAt?, hc] at h

/-- A part of a text that is found stands in it. -/
theorem exists_of_slice?_eq_some
    {s x : List Char}
    {r : Span}
    (h : slice? s r = some x) :
    ∃ before after, s = before ++ x ++ after ∧ byteSize before = r.start ∧
      byteSize before + byteSize x = r.stop := by
  unfold slice? at h
  by_cases hle : r.start ≤ r.stop
  · rw [if_pos hle] at h
    cases hcut : splitAt? r.start s with
    | none => simp [hcut] at h
    | some p =>
        obtain ⟨before, tail⟩ := p
        simp only [hcut, Option.map_eq_some_iff] at h
        obtain ⟨⟨x', after⟩, hcut', rfl⟩ := h
        obtain ⟨rfl, hbefore⟩ := splitAt?_eq_some hcut
        obtain ⟨rfl, hx⟩ := splitAt?_eq_some hcut'
        exact ⟨before, after, by simp, hbefore, by simp only [hbefore, hx]; omega⟩
  · simp [hle] at h

/-- A text stands at an offset of a document. -/
def StandsAt
    (doc : List Char)
    (offset : Nat)
    (s : List Char) :
    Prop :=
  ∃ before after, doc = before ++ s ++ after ∧ byteSize before = offset

namespace StandsAt

variable {doc u v s : List Char}
variable {offset : Nat}

theorem whole (doc : List Char) :
    StandsAt doc 0 doc :=
  ⟨[], [], by simp, rfl⟩

theorem left
    (h : StandsAt doc offset (u ++ v)) :
    StandsAt doc offset u := by
  obtain ⟨before, after, rfl, hb⟩ := h
  exact ⟨before, v ++ after, by simp, hb⟩

theorem right
    (h : StandsAt doc offset (u ++ v)) :
    StandsAt doc (offset + byteSize u) v := by
  obtain ⟨before, after, rfl, hb⟩ := h
  exact ⟨before ++ u, after, by simp, by simp [hb]⟩

/-- The range of a text is read back as that text. -/
theorem slice?_eq
    (h : StandsAt doc offset s) :
    slice? doc ⟨offset, offset + byteSize s⟩ = some s := by
  obtain ⟨before, after, rfl, rfl⟩ := h
  have hcut := splitAt?_append before (s ++ after)
  simp [slice?, hcut, splitAt?_append]

theorem slice_eq
    (h : StandsAt doc offset s) :
    slice doc ⟨offset, offset + byteSize s⟩ = s := by
  simp [slice, h.slice?_eq]

end StandsAt

/-- Replacing the middle of a text. -/
theorem splice_middle
    (before s after new : List Char) :
    splice (before ++ s ++ after) ⟨byteSize before, byteSize before + byteSize s⟩ new =
      before ++ new ++ after := by
  have hfront : splitAt? (byteSize before) (before ++ (s ++ after)) = some (before, s ++ after) :=
    splitAt?_append before (s ++ after)
  have hback :
      splitAt? (byteSize before + byteSize s) (before ++ (s ++ after)) =
        some (before ++ s, after) := by
    have h := splitAt?_append (before ++ s) after
    simpa using h
  simp [splice, hfront, hback]

/-! ## Lines -/

/-- One character more on the last line, or a new line. -/
theorem lastLine_concat
    (s : List Char)
    (c : Char) :
    lastLine (s ++ [c]) = if c = '\n' then [] else lastLine s ++ [c] := by
  simp [lastLine]

/-- The last line is the end of a text, without a line feed, after nothing or after a line feed. -/
theorem exists_eq_append_lastLine
    (s : List Char) :
    ∃ front, s = front ++ lastLine s ∧ '\n' ∉ lastLine s ∧
      (front = [] ∨ front.getLast? = some '\n') := by
  induction s using List.reverseRecOn with
  | nil => exact ⟨[], by simp [lastLine]⟩
  | append_singleton s c ih =>
      obtain ⟨front, hs, hfree, hfront⟩ := ih
      by_cases hc : c = '\n'
      · subst hc
        exact ⟨s ++ ['\n'], by simp [lastLine_concat]⟩
      · refine ⟨front, ?_, ?_, hfront⟩
        · rw [lastLine_concat, if_neg hc, ← List.append_assoc, ← hs]
        · rw [lastLine_concat, if_neg hc]
          simp only [List.mem_append, List.mem_singleton, not_or]
          exact ⟨hfree, fun h => hc h.symm⟩

/-- A character that indents a line. -/
def indents (c : Char) : Bool :=
  c = ' ' || c = '\t'

theorem lineIndent_append
    (u v : List Char) :
    lineIndent (u ++ v) (byteSize u) =
      if (lastLine u).all indents then some (lastLine u) else none := by
  simp only [lineIndent, splitAt?_append]
  rfl

/-- The indentation of what follows a text, when it begins its line. -/
def indentAfter (s : List Char) : Option (List Char) :=
  if (lastLine s).all indents then some (lastLine s) else none

theorem lineIndent_eq_indentAfter
    (u v : List Char) :
    lineIndent (u ++ v) (byteSize u) = indentAfter u :=
  lineIndent_append u v

theorem all_indents_of_indentAfter
    {s indent : List Char}
    (h : indentAfter s = some indent) :
    indent.all indents = true := by
  unfold indentAfter at h
  split at h
  · cases h
    assumption
  · cases h

/-- The last line begins behind the last line feed. -/
theorem lastLine_append_feed
    (u : List Char)
    {v : List Char}
    (hv : '\n' ∉ v) :
    lastLine (u ++ '\n' :: v) = v := by
  induction v using List.reverseRecOn with
  | nil => simp [lastLine_concat]
  | append_singleton v c ih =>
      simp only [List.mem_append, List.mem_singleton, not_or] at hv
      have hc : c ≠ '\n' := fun h => hv.2 h.symm
      have hsplit : u ++ '\n' :: (v ++ [c]) = u ++ '\n' :: v ++ [c] := by simp
      rw [hsplit, lastLine_concat, if_neg hc, ih hv.1]

theorem feed_not_mem_of_indents
    {s : List Char}
    (h : s.all indents = true) :
    '\n' ∉ s := by
  intro hmem
  have hfeed := List.all_eq_true.mp h _ hmem
  exact absurd hfeed (by decide)

/-- A new line is indented by what it begins with. -/
theorem indentAfter_feed
    (u : List Char)
    {indent : List Char}
    (h : indent.all indents = true) :
    indentAfter (u ++ '\n' :: indent) = some indent := by
  rw [indentAfter, lastLine_append_feed u (feed_not_mem_of_indents h), if_pos h]

theorem lineStart_append
    (u v : List Char) :
    lineStart (u ++ v) (byteSize u) = byteSize u - byteSize (lastLine u) := by
  simp [lineStart, splitAt?_append]

/-- An indentation holds spaces and tabs only. -/
theorem all_indents_of_lineIndent
    {s indent : List Char}
    {offset : Nat}
    (h : lineIndent s offset = some indent) :
    indent.all indents = true := by
  unfold lineIndent at h
  cases hcut : splitAt? offset s with
  | none => simp [hcut] at h
  | some p =>
      obtain ⟨before, after⟩ := p
      simp only [hcut] at h
      by_cases hall : (lastLine before).all indents = true
      · have hsome : some (lastLine before) = some indent := by
          rw [← h]
          exact (if_pos hall).symm
        cases hsome
        exact hall
      · have hnone : (none : Option (List Char)) = some indent := by
          rw [← h]
          exact (if_neg hall).symm
        cases hnone

/-! ## Extensions -/

/-- What may take the place of a part of a text: anything where the part is blank, and the two tags
of an element where it is an empty tag. -/
inductive Kept : List Char → List Char → Prop
  | blank {old new : List Char}
      (blank : allBlank old = true) :
      Kept old new
  | opened {name attributes gap inside : List Char}
      (plain : ∀ c ∈ name ++ attributes, c ≠ '<' ∧ c ≠ '>')
      (blank : allBlank gap = true) :
      Kept ('<' :: (name ++ attributes ++ (gap ++ ['/', '>'])))
        ('<' :: (name ++ attributes ++ '>' :: (inside ++ '<' :: '/' :: (name ++ ['>']))))

/-- The second text is made of the first one by changes that keep what they replace. -/
inductive Extended (s : List Char) : List Char → Prop
  | same : Extended s s
  | step {before old new after : List Char}
      (rest : Extended s (before ++ old ++ after))
      (kept : Kept old new) :
      Extended s (before ++ new ++ after)

/-- The characters of a text that are not blank. -/
def visible (s : List Char) : List Char :=
  s.filter fun c => !isBlank c

@[simp] theorem visible_append
    (s t : List Char) :
    visible (s ++ t) = visible s ++ visible t := by
  simp [visible]

theorem visible_eq_nil
    {s : List Char}
    (h : allBlank s = true) :
    visible s = [] := by
  rw [visible, List.filter_eq_nil_iff]
  intro c hc
  simp [isBlank_of_mem h hc]

/-- What is kept is still there, in order. -/
theorem Kept.visible_sublist
    {old new : List Char}
    (h : Kept old new) :
    (visible old).Sublist (visible new) := by
  cases h with
  | blank hblank =>
      rw [visible_eq_nil hblank]
      exact List.nil_sublist _
  | @opened name attributes gap inside plain hblank =>
      have hcons : ∀ c s, visible (c :: s) = visible [c] ++ visible s := by
        intro c s
        rw [← visible_append]
        rfl
      have hend : (visible (['/', '>'])).Sublist
          (visible ('>' :: (inside ++ '<' :: '/' :: (name ++ ['>'])))) := by
        have hslash : (visible ['/']).Sublist (visible ('>' :: inside ++ '<' :: ['/'])) := by
          rw [show '>' :: inside ++ '<' :: ['/'] = ('>' :: inside ++ ['<']) ++ ['/'] by simp,
            visible_append]
          exact List.sublist_append_right _ _
        have hgt : (visible ['>']).Sublist (visible (name ++ ['>'])) := by
          rw [visible_append]
          exact List.sublist_append_right _ _
        have hboth := hslash.append hgt
        rw [← visible_append, ← visible_append] at hboth
        simpa using hboth
      rw [hcons, hcons '<' (name ++ attributes ++ _), visible_append, visible_append gap,
        visible_eq_nil hblank, visible_append (name ++ attributes)]
      exact (List.Sublist.refl _).append ((List.Sublist.refl _).append hend)

/-- No visible character is removed, altered or reordered in an extension. -/
theorem Extended.visible_sublist
    {s t : List Char}
    (h : Extended s t) :
    (visible s).Sublist (visible t) := by
  induction h with
  | same => exact List.Sublist.refl _
  | step rest kept ih =>
      refine ih.trans ?_
      simp only [visible_append]
      exact ((List.Sublist.refl _).append kept.visible_sublist).append (List.Sublist.refl _)

/-! ## Replacements -/

/-- A replacement changes nothing, or it puts a text in the place of another one. -/
theorem splice_cases
    (s : List Char)
    (r : Span)
    (new : List Char) :
    splice s r new = s ∨
      ∃ before old after, s = before ++ old ++ after ∧ slice? s r = some old ∧
        splice s r new = before ++ new ++ after := by
  unfold splice
  cases hstart : splitAt? r.start s with
  | none => exact Or.inl rfl
  | some p =>
      obtain ⟨before, tail⟩ := p
      cases hstop : splitAt? r.stop s with
      | none => exact Or.inl rfl
      | some q =>
          obtain ⟨front, after⟩ := q
          by_cases hle : r.start ≤ r.stop
          · right
            obtain ⟨hs, hbefore⟩ := splitAt?_eq_some hstart
            obtain ⟨hs', hfront⟩ := splitAt?_eq_some hstop
            have hmiddle : ∃ old, front = before ++ old := by
              rcases List.append_eq_append_iff.mp (hs.symm.trans hs') with
                ⟨a, ha, -⟩ | ⟨b, hb, -⟩
              · exact ⟨a, ha⟩
              · -- The range does not run backwards, so nothing lies between its ends.
                cases b with
                | nil => exact ⟨[], by simpa using hb.symm⟩
                | cons c b =>
                    have hpos := c.utf8Size_pos
                    rw [hb] at hbefore
                    simp only [byteSize_append, byteSize_cons] at hbefore
                    omega
            obtain ⟨old, rfl⟩ := hmiddle
            refine ⟨before, old, after, hs', ?_, by simp [hle]⟩
            have hstands : StandsAt s (byteSize before) old := ⟨before, after, hs', rfl⟩
            have hrange : r = ⟨byteSize before, byteSize before + byteSize old⟩ := by
              rw [← byteSize_append, hfront, hbefore]
            rw [hrange]
            exact hstands.slice?_eq
          · simp [hle]

/-- A replacement that keeps what it replaces is an extension. -/
theorem Extended.splice
    {s t : List Char}
    (h : Extended s t)
    {r : Span}
    {new : List Char}
    (hkept : ∀ old, slice? t r = some old → Kept old new) :
    Extended s (splice t r new) := by
  rcases splice_cases t r new with hsame | ⟨before, old, after, hcut, hslice, hsplice⟩
  · rw [hsame]
    exact h
  · rw [hsplice]
    exact Extended.step (hcut ▸ h) (hkept old hslice)

end Text
end Runbook
