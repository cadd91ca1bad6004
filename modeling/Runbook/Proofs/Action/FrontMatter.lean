import Runbook.Action.FrontMatter
import Runbook.Proofs.Text.Breaks
import Runbook.Proofs.Text.Positions
import Runbook.Proofs.Text.Trimming

/-!
# What stands between two fences

A text carries front matter when its first line is a fence, complete lines that are none come after it,
and the next line is a fence again. One mark of byte order may stand in front of all that. What is
extracted is what stands between the two fences, and nothing else is: a text that does not look like this
carries none, and one that does carries one only.

Main statement: `extract?_eq_some_iff`.
-/

namespace Runbook
namespace Text

/-! ## Lines in front of a text -/

/-- A line with the line feed that ends it. -/
def IsComplete (line : List Char) : Prop :=
  ∃ body, '\n' ∉ body ∧ line = body ++ ['\n']

/-- A line in front of the rest of a text: it is complete, or the text ends with it. -/
def IsLineBefore
    (rest line : List Char) :
    Prop :=
  IsComplete line ∨ ('\n' ∉ line ∧ rest = [])

theorem IsComplete.lineSegments_append
    {line : List Char}
    (h : IsComplete line)
    (rest : List Char) :
    lineSegments (line ++ rest) = line :: lineSegments rest := by
  obtain ⟨body, hfree, rfl⟩ := h
  induction body with
  | nil => rfl
  | cons c body ih =>
      rw [List.mem_cons, not_or] at hfree
      obtain ⟨hc, hbody⟩ := hfree
      have hrest := ih hbody
      simp only [List.cons_append, lineSegments] at hrest ⊢
      rw [if_neg (Ne.symm hc), hrest]

theorem IsLineBefore.lineSegments_append
    {line rest : List Char}
    (h : IsLineBefore rest line)
    (hne : line ≠ []) :
    lineSegments (line ++ rest) = line :: lineSegments rest := by
  rcases h with hcomplete | ⟨hfree, rfl⟩
  · exact hcomplete.lineSegments_append rest
  · rw [List.append_nil, lineSegments_of_feed_not_mem hne hfree]
    rfl

theorem lineSegments_flatten_append
    {front : List (List Char)}
    (h : ∀ line ∈ front, IsComplete line)
    (rest : List Char) :
    lineSegments (front.flatten ++ rest) = front ++ lineSegments rest := by
  induction front with
  | nil => rfl
  | cons line front ih =>
      obtain ⟨hline, hfront⟩ := List.forall_mem_cons.mp h
      rw [List.flatten_cons, List.append_assoc, hline.lineSegments_append, ih hfront,
        List.cons_append]

/-- Every line before another one is complete. -/
theorem isComplete_of_lineSegments_eq
    {s line other : List Char}
    {front rest : List (List Char)}
    (h : lineSegments s = front ++ line :: rest)
    (hother : other ∈ front) :
    IsComplete other := by
  have hbefore : other ∈ (lineSegments s).dropLast := by
    rw [h, List.dropLast_append_cons]
    exact List.mem_append_left _ hother
  have hfeed := getLast?_of_mem_dropLast s other hbefore
  obtain ⟨body, hfree, rfl | rfl⟩ :=
    exists_body_of_mem_lineSegments (List.dropLast_subset _ hbefore)
  · exact absurd (List.mem_of_getLast? hfeed) hfree
  · exact ⟨body, hfree, rfl⟩

/-- Every line is one in front of what comes after it. -/
theorem isLineBefore_of_lineSegments_eq
    {s line : List Char}
    {front rest : List (List Char)}
    (h : lineSegments s = front ++ line :: rest) :
    IsLineBefore rest.flatten line := by
  cases rest with
  | nil =>
      have hline : line ∈ lineSegments s := by simp [h]
      obtain ⟨body, hfree, rfl | rfl⟩ := exists_body_of_mem_lineSegments hline
      · exact Or.inr ⟨hfree, rfl⟩
      · exact Or.inl ⟨body, hfree, rfl⟩
  | cons next rest =>
      have hnext : lineSegments s = (front ++ [line]) ++ next :: rest := by simp [h]
      exact Or.inl (isComplete_of_lineSegments_eq hnext (by simp))

end Text

namespace FrontMatter

open Text

/-! ## Fences -/

/-- A line of three hyphens, with blanks after them at most. -/
def IsFence (line : List Char) : Prop :=
  ∃ blanks, allBlank blanks = true ∧ line = ['-', '-', '-'] ++ blanks

theorem isFence_iff
    {line : List Char} :
    isFence line = true ↔ IsFence line := by
  rw [isFence, decide_eq_true_iff]
  constructor
  · intro h
    obtain ⟨blanks, hline, hblank, -⟩ := exists_trimRight line
    exact ⟨blanks, hblank, by rwa [h] at hline⟩
  · rintro ⟨blanks, hblank, rfl⟩
    rw [trimRight_append hblank]
    decide

theorem IsFence.ne_nil
    {line : List Char}
    (h : IsFence line) :
    line ≠ [] := by
  obtain ⟨blanks, -, rfl⟩ := h
  exact List.cons_ne_nil _ _

/-- The first fence among lines begins behind all bytes of the lines before it. -/
theorem fenceFrom?_eq_some_iff
    {offset stop : Nat}
    {lines : List (List Char)} :
    fenceFrom? offset lines = some stop ↔
      ∃ front closing back, lines = front ++ closing :: back ∧ IsFence closing ∧
        (∀ line ∈ front, ¬ IsFence line) ∧ stop = offset + byteSize front.flatten := by
  induction lines generalizing offset with
  | nil => simp [fenceFrom?]
  | cons first rest ih =>
      rw [fenceFrom?]
      by_cases hfirst : isFence first = true
      · rw [if_pos hfirst]
        have hfence := isFence_iff.mp hfirst
        constructor
        · intro h
          exact ⟨[], first, rest, rfl, hfence, by simp, by simpa using h.symm⟩
        · rintro ⟨front, closing, back, hlines, -, hfront, rfl⟩
          cases front with
          | nil => rfl
          | cons line front =>
              obtain ⟨rfl, -⟩ := List.cons.inj hlines
              exact absurd hfence (hfront first List.mem_cons_self)
      · rw [if_neg hfirst, ih]
        have hnone : ¬ IsFence first := fun h => hfirst (isFence_iff.mpr h)
        constructor
        · rintro ⟨front, closing, back, rfl, hclosing, hfront, rfl⟩
          refine ⟨first :: front, closing, back, rfl, hclosing, ?_, ?_⟩
          · exact List.forall_mem_cons.mpr ⟨hnone, hfront⟩
          · rw [List.flatten_cons, byteSize_append, Nat.add_assoc]
        · rintro ⟨front, closing, back, hlines, hclosing, hfront, rfl⟩
          cases front with
          | nil =>
              obtain ⟨rfl, -⟩ := List.cons.inj hlines
              exact absurd hclosing hnone
          | cons line front =>
              obtain ⟨rfl, rfl⟩ := List.cons.inj hlines
              refine ⟨front, closing, back, rfl, hclosing, ?_, ?_⟩
              · exact (List.forall_mem_cons.mp hfront).2
              · rw [List.flatten_cons, byteSize_append, Nat.add_assoc]

/-! ## Texts with front matter -/

/-- A text and what it is without one leading mark of byte order. -/
inductive Unmarked : List Char → List Char → Prop where
  | marked (t : List Char) : Unmarked ('\ufeff' :: t) t
  | plain {t : List Char} (h : t.head? ≠ some '\ufeff') : Unmarked t t

theorem unmarked_iff
    {s t : List Char} :
    Unmarked s t ↔ withoutMark s = t := by
  constructor
  · rintro (_ | h)
    · rfl
    · rw [withoutMark]
      rintro u rfl
      exact h rfl
  · rintro rfl
    rw [withoutMark.eq_def]
    split
    · exact .marked _
    · rename_i hplain
      refine .plain fun h => ?_
      obtain ⟨u, rfl⟩ := List.head?_eq_some_iff.mp h
      exact hplain u rfl

/-- A text that begins with a text between two fences: the opening one is a complete line, the text is a
row of complete lines without a fence, and whatever comes after the closing one is another line. -/
inductive Fenced (b : List Char) : List Char → Prop where
  | intro
      {opening closing rest : List Char}
      {lines : List (List Char)}
      (complete : IsComplete opening)
      (opens : IsFence opening)
      (body : b = lines.flatten)
      (inside : ∀ line ∈ lines, IsComplete line ∧ ¬ IsFence line)
      (ends : IsLineBefore rest closing)
      (closes : IsFence closing) :
      Fenced b (opening ++ b ++ closing ++ rest)

/-- A text carries front matter, behind one mark of byte order at most. -/
def Carries (s b : List Char) : Prop :=
  ∃ t, Unmarked s t ∧ Fenced b t

theorem Fenced.exists_lines
    {b t : List Char}
    (h : Fenced b t) :
    ∃ opening front closing back, lineSegments t = opening :: (front ++ closing :: back) ∧
      IsFence opening ∧ (∀ line ∈ front, ¬ IsFence line) ∧ IsFence closing ∧
      b = front.flatten := by
  obtain @⟨opening, closing, rest, front, hcomplete, hopens, rfl, hinside, hends, hcloses⟩ := h
  refine ⟨opening, front, closing, lineSegments rest, ?_, hopens, fun line hline =>
    (hinside line hline).2, hcloses, rfl⟩
  simp only [List.append_assoc]
  rw [hcomplete.lineSegments_append,
    lineSegments_flatten_append fun line hline => (hinside line hline).1,
    hends.lineSegments_append hcloses.ne_nil]

theorem fenced_of_lines
    {t opening closing : List Char}
    {front back : List (List Char)}
    (hlines : lineSegments t = opening :: (front ++ closing :: back))
    (hopens : IsFence opening)
    (hfront : ∀ line ∈ front, ¬ IsFence line)
    (hcloses : IsFence closing) :
    Fenced front.flatten t := by
  have hsplit : lineSegments t = (opening :: front) ++ closing :: back := hlines
  have hcomplete : ∀ line ∈ opening :: front, IsComplete line := fun line hline =>
    isComplete_of_lineSegments_eq hsplit hline
  have ht : t = opening ++ front.flatten ++ closing ++ back.flatten := by
    have hflatten := lineSegments_flatten t
    rw [hlines] at hflatten
    simpa using hflatten.symm
  rw [ht]
  exact .intro (hcomplete opening List.mem_cons_self) hopens rfl
    (fun line hline => ⟨hcomplete line (List.mem_cons_of_mem _ hline), hfront line hline⟩)
    (isLineBefore_of_lineSegments_eq hsplit) hcloses

/-- What is cut out between the offsets of two fences is what stands there. -/
theorem slice?_between
    {t opening closing : List Char}
    {front back : List (List Char)}
    (hlines : lineSegments t = opening :: (front ++ closing :: back)) :
    slice? t ⟨byteSize opening, byteSize opening + byteSize front.flatten⟩ =
      some front.flatten := by
  have ht := lineSegments_flatten t
  rw [hlines] at ht
  refine StandsAt.slice?_eq ⟨opening, closing ++ back.flatten, ?_, rfl⟩
  simpa using ht.symm

theorem carries_of_extract?
    {s b : List Char}
    (h : extract? s = some b) :
    Carries s b := by
  refine ⟨withoutMark s, unmarked_iff.mpr rfl, ?_⟩
  unfold extract? at h
  split at h
  · exact absurd h (by simp)
  · rename_i opening rest hlines
    split at h
    · rename_i hopens
      dsimp only at h
      split at h
      · exact absurd h (by simp)
      · rename_i stop hstop
        obtain ⟨front, closing, back, rfl, hcloses, hfront, rfl⟩ := fenceFrom?_eq_some_iff.mp hstop
        rw [slice?_between hlines, Option.some.injEq] at h
        rw [← h]
        exact fenced_of_lines hlines (isFence_iff.mp hopens) hfront hcloses
    · exact absurd h (by simp)

theorem Carries.extract?_eq
    {s b : List Char}
    (h : Carries s b) :
    extract? s = some b := by
  obtain ⟨t, hmark, hfenced⟩ := h
  obtain rfl := unmarked_iff.mp hmark
  obtain ⟨opening, front, closing, back, hlines, hopens, hfront, hcloses, rfl⟩ :=
    hfenced.exists_lines
  have hstop : fenceFrom? (byteSize opening) (front ++ closing :: back) =
      some (byteSize opening + byteSize front.flatten) :=
    fenceFrom?_eq_some_iff.mpr ⟨front, closing, back, rfl, hcloses, hfront, rfl⟩
  simp only [extract?, hlines, if_pos (isFence_iff.mpr hopens), hstop, slice?_between hlines]

/-- A text is extracted exactly from where it is carried, and there is one such text at most. -/
theorem extract?_eq_some_iff
    (s : List Char) :
    (∀ b, extract? s = some b ↔ Carries s b) ∧
      ∀ b other, Carries s b → Carries s other → other = b := by
  refine ⟨fun b => ⟨carries_of_extract?, Carries.extract?_eq⟩, fun b other hb hother => ?_⟩
  have hsame := hb.extract?_eq.symm.trans hother.extract?_eq
  exact (Option.some.inj hsame).symm

example :
    extract? "\ufeff--- \r\né: 1\r\n ---\n---\t".toList = some "é: 1\r\n ---\n".toList := by
  decide

end FrontMatter
end Runbook
