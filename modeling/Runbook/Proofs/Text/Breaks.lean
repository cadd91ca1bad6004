import Runbook.Proofs.Text.Lines

/-!
# Line breaks of two characters

A text has no break of a carriage return and a line feed when none stands in its parts and none
arises where the parts meet. A part that does not end in a carriage return can be followed by
anything without such a break. A text that is made of lines and of breaks of one form has no others.

Main statements: `pair_infix_append`, `Lined.lone` and `Lined.coupled`.
-/

namespace Runbook
namespace Text

theorem occursIn_iff
    {part s : List Char} :
    occursIn part s = true ↔ part <:+: s := by
  induction s with
  | nil => simp [occursIn]
  | cons c s ih =>
      rw [occursIn, Bool.or_eq_true, List.isPrefixOf_iff_prefix, ih, List.infix_cons_iff]

/-- Two characters stand side by side in a text if they do so in a part of it or where two parts
meet. -/
theorem pair_infix_append
    {c d : Char}
    {u v : List Char} :
    [c, d] <:+: u ++ v ↔
      [c, d] <:+: u ∨ [c, d] <:+: v ∨ (u.getLast? = some c ∧ v.head? = some d) := by
  induction u with
  | nil => simp
  | cons e u ih =>
      rw [List.cons_append, List.infix_cons_iff, ih, List.infix_cons_iff]
      cases u with
      | nil =>
          cases v with
          | nil => simp
          | cons f v =>
              simp only [List.nil_append, List.cons_prefix_cons, List.nil_prefix, and_true,
                List.prefix_nil, List.infix_nil, List.getLast?_singleton, List.head?_cons,
                Option.some.injEq, List.getLast?_nil]
              simp
              tauto
      | cons f u =>
          simp only [List.cons_append, List.cons_prefix_cons, List.nil_prefix, and_true,
            List.getLast?_cons_cons]
          tauto

/-- A text without a break of two characters. -/
def Unbroken (s : List Char) : Prop :=
  ¬ ['\r', '\n'] <:+: s

/-- A text in which a line feed stands behind every carriage return. -/
def Paired (s : List Char) : Prop :=
  ∀ u v, s = u ++ '\r' :: v → v.head? = some '\n'

theorem paired_cons_iff
    {c : Char}
    {s : List Char} :
    Paired (c :: s) ↔ (c = '\r' → s.head? = some '\n') ∧ Paired s := by
  constructor
  · intro h
    refine ⟨?_, fun u v hs => h (c :: u) v (by rw [hs, List.cons_append])⟩
    rintro rfl
    exact h [] s rfl
  · rintro ⟨hc, hs⟩ u v heq
    cases u with
    | nil =>
        obtain ⟨rfl, rfl⟩ := List.cons_eq_cons.mp heq
        exact hc rfl
    | cons d u => exact hs u v (List.cons_eq_cons.mp heq).2

instance decidablePaired :
    (s : List Char) → Decidable (Paired s)
  | [] => isTrue fun u v h => by simp at h
  | _ :: s =>
      have := decidablePaired s
      decidable_of_iff' _ paired_cons_iff

/-- A text of that kind without a break of two characters has no carriage returns. -/
theorem Paired.return_not_mem
    {s : List Char}
    (h : Paired s)
    (hfree : Unbroken s) :
    '\r' ∉ s := by
  intro hmem
  obtain ⟨u, v, rfl⟩ := List.append_of_mem hmem
  obtain ⟨rest, rfl⟩ := List.head?_eq_some_iff.mp (h u v rfl)
  exact hfree ⟨u, rest, by simp⟩

/-- A text without a break of two characters, whatever follows it. -/
structure Lone (s : List Char) : Prop where
  unbroken : Unbroken s
  last : s.getLast? ≠ some '\r'

theorem Unbroken.of_infix
    {s t : List Char}
    (h : Unbroken t)
    (hs : s <:+: t) :
    Unbroken s :=
  fun hpair => h (hpair.trans hs)

namespace Lone

variable {u v : List Char}

/-- Anything without a break may follow. -/
theorem append_unbroken
    (hu : Lone u)
    (hv : Unbroken v) :
    Unbroken (u ++ v) := by
  intro h
  rcases pair_infix_append.mp h with h | h | ⟨h, -⟩
  · exact hu.unbroken h
  · exact hv h
  · exact hu.last h

theorem append
    (hu : Lone u)
    (hv : Lone v) :
    Lone (u ++ v) := by
  refine ⟨hu.append_unbroken hv.unbroken, ?_⟩
  rw [List.getLast?_append]
  cases hlast : v.getLast? with
  | none => simpa using hu.last
  | some c => simpa [hlast] using hv.last

/-- A text without carriage returns. -/
theorem of_not_mem
    {s : List Char}
    (h : '\r' ∉ s) :
    Lone s := by
  refine ⟨fun hpair => h (hpair.subset (by simp)), fun hlast => ?_⟩
  exact h (List.mem_of_getLast? hlast)

end Lone

/-- A stretch of a text may give way to one without a break, unless they meet in one. -/
theorem Unbroken.exchange
    {u old v new : List Char}
    (h : Unbroken (u ++ (old ++ v)))
    (hnew : Lone new)
    (hmeet : u.getLast? ≠ some '\r' ∨ ∃ c, new.head? = some c ∧ c ≠ '\n') :
    Unbroken (u ++ (new ++ v)) := by
  have hu : Unbroken u := h.of_infix (List.prefix_append _ _).isInfix
  have hv : Unbroken v := h.of_infix ⟨u ++ old, [], by simp⟩
  have hrest : Unbroken (new ++ v) := hnew.append_unbroken hv
  intro hpair
  rcases pair_infix_append.mp hpair with hpair | hpair | ⟨hlast, hhead⟩
  · exact hu hpair
  · exact hrest hpair
  · rcases hmeet with hmeet | ⟨c, hc, hne⟩
    · exact hmeet hlast
    · rw [List.head?_append, hc] at hhead
      exact hne (Option.some.inj hhead)

/-- A text in which a carriage return stands before every line feed. -/
def Coupled (s : List Char) : Prop :=
  ∀ u v, s = u ++ '\n' :: v → u.getLast? = some '\r'

namespace Coupled

variable {u v : List Char}

/-- A text without line feeds. -/
theorem of_not_mem
    {s : List Char}
    (h : '\n' ∉ s) :
    Coupled s := by
  rintro u v rfl
  exact absurd (by simp) h

theorem pair :
    Coupled ['\r', '\n'] := by
  intro u v h
  rcases List.cons_eq_append_iff.mp h with ⟨-, hfirst⟩ | ⟨u, rfl, hrest⟩
  · exact absurd (List.cons_eq_cons.mp hfirst).1 (by decide)
  · rcases List.cons_eq_append_iff.mp hrest with ⟨rfl, -⟩ | ⟨u, rfl, hend⟩
    · rfl
    · exact absurd hend.symm (by simp)

theorem append
    (hu : Coupled u)
    (hv : Coupled v) :
    Coupled (u ++ v) := by
  intro before after h
  rcases List.append_eq_append_iff.mp h with ⟨a, rfl, hrest⟩ | ⟨a, rfl, hrest⟩
  · rw [List.getLast?_append, hv a after hrest]
    rfl
  · cases a with
    | nil =>
        have hfirst := hv [] after hrest.symm
        cases hfirst
    | cons c a =>
        obtain ⟨rfl, rfl⟩ := List.cons_eq_cons.mp hrest
        exact hu before a rfl

theorem left
    (h : Coupled (u ++ v)) :
    Coupled u := by
  rintro before after rfl
  exact h before (after ++ v) (by simp)

/-- What does not begin with a line feed may be cut off. -/
theorem right
    (h : Coupled (u ++ v))
    (hv : v.head? ≠ some '\n') :
    Coupled v := by
  rintro before after rfl
  have hlast := h (u ++ before) after (by simp)
  cases hbefore : before.getLast? with
  | none =>
      obtain rfl := List.getLast?_eq_none_iff.mp hbefore
      exact absurd rfl hv
  | some c => simpa [hbefore] using hlast

end Coupled

/-- A text without line feeds that does not end in a carriage return. -/
structure IsLine (s : List Char) : Prop where
  feed_not_mem : '\n' ∉ s
  last : s.getLast? ≠ some '\r'

theorem IsLine.append
    {u v : List Char}
    (hu : IsLine u)
    (hv : IsLine v) :
    IsLine (u ++ v) := by
  refine ⟨by simp [hu.feed_not_mem, hv.feed_not_mem], ?_⟩
  rw [List.getLast?_append]
  cases hlast : v.getLast? with
  | none => simpa using hu.last
  | some c => simpa [hlast] using hv.last

/-- A text that is made of lines and line breaks of one form. -/
inductive Lined (newline : List Char) : List Char → Prop
  | line {s : List Char}
      (line : IsLine s) :
      Lined newline s
  | newline : Lined newline newline
  | append {u v : List Char}
      (left : Lined newline u)
      (right : Lined newline v) :
      Lined newline (u ++ v)

/-- Lines and line feeds make no break of two characters. -/
theorem Lined.lone
    {s : List Char}
    (h : Lined ['\n'] s) :
    Lone s := by
  induction h with
  | line hline => exact ⟨fun hpair => hline.feed_not_mem (hpair.subset (by simp)), hline.last⟩
  | newline => exact Lone.of_not_mem (by decide)
  | append _ _ ihu ihv => exact ihu.append ihv

/-- Lines and breaks of two characters make no break of one. -/
theorem Lined.coupled
    {s : List Char}
    (h : Lined ['\r', '\n'] s) :
    Coupled s := by
  induction h with
  | line hline => exact Coupled.of_not_mem hline.feed_not_mem
  | newline => exact Coupled.pair
  | append _ _ ihu ihv => exact ihu.append ihv

theorem lined_joinWith
    (newline : List Char)
    {lines : List (List Char)}
    (h : ∀ line ∈ lines, IsLine line) :
    Lined newline (joinWith newline lines) := by
  induction lines with
  | nil => exact .line ⟨by simp [joinWith], by simp [joinWith]⟩
  | cons line rest ih =>
      have hfirst : Lined newline line := .line (h line List.mem_cons_self)
      have hrest := ih fun other hmem => h other (List.mem_cons_of_mem _ hmem)
      by_cases hnil : rest = []
      · subst hnil
        exact hfirst
      · rw [joinWith_cons _ _ hnil]
        exact (hfirst.append .newline).append hrest

/-! ## Lines -/

/-- A line is a text without line feeds, with or without a line feed behind it. -/
theorem exists_body_of_mem_lineSegments
    {s line : List Char}
    (h : line ∈ lineSegments s) :
    ∃ body, '\n' ∉ body ∧ (line = body ∨ line = body ++ ['\n']) := by
  induction s generalizing line with
  | nil => simp [lineSegments] at h
  | cons c s ih =>
      by_cases hc : c = '\n'
      · rw [lineSegments, if_pos hc, List.mem_cons] at h
        rcases h with rfl | h
        · exact ⟨[], by simp, Or.inr rfl⟩
        · exact ih h
      · rw [lineSegments, if_neg hc] at h
        cases hrest : lineSegments s with
        | nil =>
            rw [hrest, List.mem_singleton] at h
            exact ⟨[c], by simpa using Ne.symm hc, Or.inl h⟩
        | cons first rest =>
            rw [hrest, List.mem_cons] at h
            rcases h with rfl | h
            · obtain ⟨body, hfree, hfirst⟩ := ih (by rw [hrest]; exact List.mem_cons_self)
              refine ⟨c :: body, by simp [hfree, Ne.symm hc], ?_⟩
              rcases hfirst with rfl | rfl
              · exact Or.inl rfl
              · exact Or.inr rfl
            · exact ih (by rw [hrest]; exact List.mem_cons_of_mem _ h)

/-- No line holds a line feed once its terminator is off. -/
theorem feed_not_mem_of_mem_lines
    {s line : List Char}
    (h : line ∈ lines s) :
    '\n' ∉ line := by
  obtain ⟨segment, hsegment, rfl⟩ := List.mem_map.mp h
  obtain ⟨body, hfree, rfl | rfl⟩ := exists_body_of_mem_lineSegments hsegment
  · have hlast : segment.getLast? ≠ some '\n' := fun hlast =>
      hfree (List.mem_of_getLast? hlast)
    rwa [withoutTerminator, if_neg hlast]
  · rw [withoutTerminator, if_pos List.getLast?_concat, List.dropLast_concat]
    dsimp only
    split
    · exact fun hmem => hfree (List.mem_of_mem_dropLast hmem)
    · exact hfree

/-- A text of one line that does not end in a line feed holds none. -/
theorem feed_not_mem_of_length_lines
    {s : List Char}
    (hone : (lines s).length = 1)
    (hlast : s.getLast? ≠ some '\n') :
    '\n' ∉ s := by
  obtain ⟨line, hline⟩ := List.length_eq_one_iff.mp ((List.length_map _).symm.trans hone)
  have hs : s = line := by simpa [hline] using (lineSegments_flatten s).symm
  obtain ⟨body, hfree, rfl | rfl⟩ :=
    exists_body_of_mem_lineSegments (hline ▸ List.mem_singleton_self line)
  · rwa [hs]
  · exact absurd (hs ▸ List.getLast?_concat) hlast

/-- A text without line feeds is one line. -/
theorem lineSegments_of_feed_not_mem
    {s : List Char}
    (hs : s ≠ [])
    (hfree : '\n' ∉ s) :
    lineSegments s = [s] := by
  induction s with
  | nil => exact absurd rfl hs
  | cons c s ih =>
      rw [List.mem_cons, not_or] at hfree
      have hc : c ≠ '\n' := fun h => hfree.1 h.symm
      rw [lineSegments, if_neg hc]
      cases s with
      | nil => rfl
      | cons d s => rw [ih (List.cons_ne_nil _ _) hfree.2]

theorem length_lines_eq_one_iff
    {s : List Char}
    (hs : s ≠ [])
    (hlast : s.getLast? ≠ some '\n') :
    (lines s).length = 1 ↔ '\n' ∉ s := by
  refine ⟨fun hone => feed_not_mem_of_length_lines hone hlast, fun hfree => ?_⟩
  rw [lines, lineSegments_of_feed_not_mem hs hfree]
  rfl

/-- A trimmed line does not end in a carriage return. -/
theorem isLine_trim
    {line : List Char}
    (h : '\n' ∉ line) :
    IsLine (trim line) := by
  obtain ⟨u, v, hline, -, htight, -⟩ := exists_trim line
  refine ⟨fun hmem => h ?_, fun hlast => ?_⟩
  · rw [hline]
    simp [hmem]
  · exact absurd (htight.last _ hlast) (by decide)

end Text
end Runbook
