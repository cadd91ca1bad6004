import Runbook.Text.Pieces
import Runbook.Proofs.Text.Positions
import Runbook.Proofs.Text.Respacing

/-!
# Lines brought to an indentation

A text is taken apart into lines, blank lines are dropped, every other line is trimmed and put
behind a lead of blanks, and the lines are joined again. All that is respacing: what stands in the
lines stays.

Main statement: `exists_respaced_join`.
-/

namespace Runbook
namespace Text

/-! ## Lines -/

theorem lineSegments_flatten :
    ∀ s : List Char, (lineSegments s).flatten = s
  | [] => rfl
  | c :: s => by
      have ih := lineSegments_flatten s
      by_cases hc : c = '\n'
      · subst hc
        simp [lineSegments, ih]
      · cases hrest : lineSegments s with
        | nil =>
            rw [hrest] at ih
            have hnil : s = [] := by simpa using ih.symm
            simp [lineSegments, hc, hnil]
        | cons line rest =>
            rw [hrest, List.flatten_cons] at ih
            simp only [lineSegments, hc, if_false, hrest, List.flatten_cons, List.cons_append, ih]

/-- Every line but the last has its line feed. -/
theorem getLast?_of_mem_dropLast :
    ∀ (s : List Char) (line : List Char), line ∈ (lineSegments s).dropLast →
      line.getLast? = some '\n'
  | [], line, h => by simp [lineSegments] at h
  | c :: s, line, h => by
      have ih := getLast?_of_mem_dropLast s
      by_cases hc : c = '\n'
      · subst hc
        cases hrest : lineSegments s with
        | nil => simp [lineSegments, hrest] at h
        | cons first rest =>
            rw [hrest] at ih
            simp only [lineSegments, hrest, if_true, List.dropLast_cons_cons, List.mem_cons] at h
            rcases h with rfl | h
            · rfl
            · exact ih line h
      · cases hrest : lineSegments s with
        | nil => simp [lineSegments, hc, hrest] at h
        | cons first rest =>
            rw [hrest] at ih
            cases rest with
            | nil => simp [lineSegments, hc, hrest] at h
            | cons second rest =>
                simp only [lineSegments, hrest, hc, if_false, List.dropLast_cons_cons,
                  List.mem_cons] at h
                rcases h with rfl | h
                · have hfirst := ih first (by simp)
                  rw [List.getLast?_cons, hfirst]
                  rfl
                · exact ih line (by simp [h])

/-- No line is empty. -/
theorem ne_nil_of_mem_lineSegments
    {s line : List Char}
    (h : line ∈ lineSegments s) :
    line ≠ [] := by
  induction s generalizing line with
  | nil => simp [lineSegments] at h
  | cons c s ih =>
      rw [lineSegments] at h
      split at h
      · rcases List.mem_cons.mp h with rfl | h
        · exact List.cons_ne_nil _ _
        · exact ih h
      · split at h
        · rw [List.mem_singleton.mp h]
          exact List.cons_ne_nil _ _
        · rename_i first rest hrest
          rcases List.mem_cons.mp h with rfl | h
          · exact List.cons_ne_nil _ _
          · exact ih (by rw [hrest]; exact List.mem_cons_of_mem _ h)

/-- What stands before a line is empty or ends in a line feed. -/
theorem flatten_of_lineSegments_eq
    {s line : List Char}
    {front rest : List (List Char)}
    (h : lineSegments s = front ++ line :: rest) :
    front.flatten = [] ∨ front.flatten.getLast? = some '\n' := by
  rcases List.eq_nil_or_concat front with rfl | ⟨front, last, rfl⟩
  · exact Or.inl rfl
  · right
    have hmem : last ∈ (lineSegments s).dropLast := by
      rw [h, List.dropLast_append_cons]
      simp
    have hfeed := getLast?_of_mem_dropLast s last hmem
    simp [List.getLast?_append, hfeed]

/-- A line is its body and blanks. -/
theorem exists_withoutTerminator
    (line : List Char) :
    ∃ w, line = withoutTerminator line ++ w ∧ allBlank w = true := by
  by_cases hfeed : line.getLast? = some '\n'
  · have hline : line = line.dropLast ++ ['\n'] := by
      obtain ⟨front, rfl⟩ := List.getLast?_eq_some_iff.mp hfeed
      simp
    by_cases hreturn : line.dropLast.getLast? = some '\r'
    · have hbody : line.dropLast = line.dropLast.dropLast ++ ['\r'] := by
        obtain ⟨front, hfront⟩ := List.getLast?_eq_some_iff.mp hreturn
        rw [hfront]
        simp
      refine ⟨['\r', '\n'], ?_, by decide⟩
      simp only [withoutTerminator, hfeed, hreturn, if_true]
      rw [← List.singleton_append, ← List.append_assoc, ← hbody, ← hline]
    · refine ⟨['\n'], ?_, by decide⟩
      simpa only [withoutTerminator, hfeed, hreturn, if_true, if_false] using hline
  · exact ⟨[], by simp [withoutTerminator, hfeed], rfl⟩

theorem allBlank_withoutTerminator
    (line : List Char) :
    allBlank (withoutTerminator line) = allBlank line := by
  obtain ⟨w, hline, hw⟩ := exists_withoutTerminator line
  have hboth : allBlank line = allBlank (withoutTerminator line ++ w) := by rw [← hline]
  rw [hboth, allBlank_append, hw, Bool.and_true]

theorem trim_append_blank
    {w : List Char}
    (hw : allBlank w = true)
    (s : List Char) :
    trim (s ++ w) = trim s := by
  obtain ⟨u, v, hs, hu, htight, hv⟩ := exists_trim s
  have hboth : s ++ w = u ++ trim s ++ (v ++ w) := by
    rw [← List.append_assoc, ← hs]
  rw [hboth]
  exact trim_append hu htight (by simp [hv, hw])

theorem trim_withoutTerminator
    (line : List Char) :
    trim (withoutTerminator line) = trim line := by
  obtain ⟨w, hline, hw⟩ := exists_withoutTerminator line
  have hboth : trim line = trim (withoutTerminator line ++ w) := by rw [← hline]
  rw [hboth, trim_append_blank hw]

theorem joinWith_cons
    (sep t : List Char)
    {rest : List (List Char)}
    (h : rest ≠ []) :
    joinWith sep (t :: rest) = t ++ sep ++ joinWith sep rest := by
  cases rest with
  | nil => exact absurd rfl h
  | cons u rest => rfl

/-! ## Leads -/

/-- A line behind its lead, unless it is blank. -/
def placed (p : List Char × List Char) : Option (List Char) :=
  if allBlank p.2 then none else some (p.1 ++ trim p.2)

theorem trim_ne_nil
    {s : List Char}
    (h : allBlank s = false) :
    trim s ≠ [] := by
  intro hnil
  obtain ⟨u, w, hs, hu, -, hw⟩ := exists_trim s
  rw [hnil, List.append_nil] at hs
  rw [hs, allBlank_append, hu, hw] at h
  cases h

/-- The last character of a text that is not blank ends its trimmed form. -/
theorem exists_trim_of_last
    {s : List Char}
    {c : Char}
    (hlast : s.getLast? = some c)
    (hc : isBlank c = false) :
    ∃ u, s = u ++ trim s ∧ allBlank u = true := by
  obtain ⟨u, w, hs, hu, -, hw⟩ := exists_trim s
  cases w with
  | nil => exact ⟨u, by simpa using hs, hu⟩
  | cons d w =>
      have hmem : c ∈ d :: w := by
        rw [hs, List.getLast?_append] at hlast
        cases hback : (d :: w).getLast? with
        | none => simp at hback
        | some e =>
            rw [hback] at hlast
            cases hlast
            exact List.mem_of_getLast? hback
      rw [isBlank_of_mem hw hmem] at hc
      cases hc

/-- A line that is not blank and has its line feed breaks the line behind its trimmed form. -/
theorem exists_trim_of_feed
    {s : List Char}
    (hlast : s.getLast? = some '\n')
    (h : allBlank s = false) :
    ∃ u w, s = u ++ trim s ++ w ∧ allBlank u = true ∧ IsBreak w := by
  obtain ⟨u, w, hs, hu, htight, hw⟩ := exists_trim s
  refine ⟨u, w, hs, hu, hw, ?_⟩
  rw [hs, List.getLast?_append] at hlast
  cases hback : w.getLast? with
  | some e =>
      rw [hback] at hlast
      cases hlast
      exact List.mem_of_getLast? hback
  | none =>
      rw [hback, List.getLast?_append] at hlast
      cases hcore : (trim s).getLast? with
      | none => exact absurd (List.getLast?_eq_none_iff.mp hcore) (trim_ne_nil h)
      | some e =>
          rw [hcore] at hlast
          cases hlast
          exact absurd (htight.last _ hcore) (by decide)

/-- A text that ends visibly. -/
def EndsVisibly (s : List Char) : Prop :=
  ∃ c, s.getLast? = some c ∧ isBlank c = false

theorem EndsVisibly.of_append
    {u s : List Char}
    (h : EndsVisibly (u ++ s))
    (hu : ∀ c, u.getLast? = some c → isBlank c = true) :
    EndsVisibly s := by
  obtain ⟨c, hlast, hc⟩ := h
  rw [List.getLast?_append] at hlast
  cases hs : s.getLast? with
  | some d =>
      rw [hs] at hlast
      cases hlast
      exact ⟨_, hs, hc⟩
  | none =>
      rw [hs] at hlast
      rw [hu c hlast] at hc
      cases hc

/-- Lines put behind leads of blanks and joined are the text respaced, apart from blanks in front.
The lead of the first line stays in front when that line is not blank. -/
theorem exists_respaced_join
    {newline : List Char}
    (hnewline : IsBreak newline) :
    ∀ lines : List (List Char × List Char),
      (∀ p ∈ lines, allBlank p.1 = true) →
      (∀ p ∈ lines.dropLast, p.2.getLast? = some '\n') →
      EndsVisibly (lines.map Prod.snd).flatten →
      ∃ a s b t, (lines.map Prod.snd).flatten = a ++ s ∧ allBlank a = true ∧
        joinWith newline (lines.filterMap placed) = b ++ t ∧ allBlank b = true ∧
        Respaced s t ∧ lines.filterMap placed ≠ [] ∧
        ∀ p, lines.head? = some p → allBlank p.2 = false → b = p.1
  | [], _, _, h => by
      obtain ⟨c, hc, -⟩ := h
      simp at hc
  | [(lead, line)], hleads, _, h => by
      obtain ⟨c, hlast, hc⟩ := h
      simp only [List.map_cons, List.map_nil, List.flatten_cons, List.flatten_nil,
        List.append_nil] at hlast
      obtain ⟨u, hline, hu⟩ := exists_trim_of_last hlast hc
      have hvisible : allBlank line = false := by
        by_contra hblank
        rw [isBlank_of_mem (by simpa using hblank) (List.mem_of_getLast? hlast)] at hc
        cases hc
      refine ⟨u, trim line, lead, trim line, by simpa using hline, hu, ?_,
        hleads (lead, line) (by simp), Respaced.refl _, by simp [placed, hvisible], ?_⟩
      · simp [placed, hvisible, joinWith]
      · intro p hp _
        cases hp
        rfl
  | (lead, line) :: next :: rest, hleads, hfeeds, h => by
      have hfeed : line.getLast? = some '\n' := hfeeds (lead, line) (by simp)
      have hlead : allBlank lead = true := hleads (lead, line) (by simp)
      have hend : EndsVisibly ((next :: rest).map Prod.snd).flatten := by
        rw [List.map_cons, List.flatten_cons] at h
        refine h.of_append fun c hc => ?_
        rw [hfeed] at hc
        cases hc
        decide
      obtain ⟨a, s, b, t, hflat, ha, hjoin, hb, hst, hne, -⟩ :=
        exists_respaced_join hnewline (next :: rest) (fun p hp => hleads p (by simp [hp]))
          (fun p hp => hfeeds p (by simp [hp])) hend
      rw [List.map_cons, List.flatten_cons, hflat]
      cases hblank : allBlank line with
      | true =>
          have hdrop : ((lead, line) :: next :: rest).filterMap placed =
              (next :: rest).filterMap placed := by
            rw [List.filterMap_cons_none (by simp [placed, hblank])]
          rw [hdrop]
          refine ⟨line ++ a, s, b, t, by simp, by simp [hblank, ha], hjoin, hb, hst, hne, ?_⟩
          intro p hp hvisible
          cases hp
          rw [hblank] at hvisible
          cases hvisible
      | false =>
          obtain ⟨u, w, hline, hu, hw⟩ := exists_trim_of_feed hfeed hblank
          have hkeep : ((lead, line) :: next :: rest).filterMap placed =
              (lead ++ trim line) :: (next :: rest).filterMap placed := by
            rw [List.filterMap_cons_some (by simp only [placed, hblank]; rfl)]
          have hgap := Respaced.gap (hw.append_right ha) (hnewline.append_right hb) hst
          refine ⟨u, trim line ++ (w ++ a ++ s), lead, trim line ++ (newline ++ b ++ t), ?_,
            hu, ?_, hlead, hgap.append_left (trim line), by simp [hkeep], ?_⟩
          · calc
              line ++ (a ++ s) = u ++ trim line ++ w ++ (a ++ s) := by rw [← hline]
              _ = u ++ (trim line ++ (w ++ a ++ s)) := by simp only [List.append_assoc]
          · rw [hkeep, joinWith_cons _ _ hne, hjoin]
            simp only [List.append_assoc]
          · intro p hp _
            cases hp
            rfl

/-! ## Parts -/

theorem splitOn_of_not_mem
    {sep : Char}
    {s : List Char}
    (h : sep ∉ s) :
    splitOn sep s = [s] := by
  induction s with
  | nil => rfl
  | cons c s ih =>
      simp only [List.mem_cons, not_or] at h
      have hc : c ≠ sep := fun heq => h.1 heq.symm
      simp [splitOn, hc, ih h.2]

/-- The first part ends at the first separator. -/
theorem splitOn_append
    {sep : Char}
    {u : List Char}
    (hu : sep ∉ u)
    (v : List Char) :
    splitOn sep (u ++ sep :: v) = u :: splitOn sep v := by
  induction u with
  | nil => simp [splitOn]
  | cons c u ih =>
      simp only [List.mem_cons, not_or] at hu
      have hc : c ≠ sep := fun heq => hu.1 heq.symm
      simp [splitOn, hc, ih hu.2]

theorem splitOn_ne_nil
    (sep : Char)
    (s : List Char) :
    splitOn sep s ≠ [] := by
  cases s with
  | nil => simp [splitOn]
  | cons c s =>
      rw [splitOn]
      split
      · simp
      · split <;> simp

/-- Each separator separates parts. -/
theorem splitOn_append_cons
    (sep : Char)
    (u v : List Char) :
    splitOn sep (u ++ sep :: v) = splitOn sep u ++ splitOn sep v := by
  induction u with
  | nil => simp [splitOn]
  | cons c u ih =>
      by_cases hc : c = sep
      · simp [splitOn, hc, ih]
      · obtain ⟨part, parts, hparts⟩ := List.exists_cons_of_ne_nil (splitOn_ne_nil sep u)
        simp [splitOn, hc, ih, hparts]

/-- Parts without separators are found again after they have been joined. -/
theorem splitOn_joinWith
    {sep : Char} :
    ∀ {parts : List (List Char)}, parts ≠ [] → (∀ p ∈ parts, sep ∉ p) →
      splitOn sep (joinWith [sep] parts) = parts
  | [], h, _ => absurd rfl h
  | [p], _, hfree => by
      rw [joinWith]
      exact splitOn_of_not_mem (hfree p (by simp))
  | p :: q :: rest, _, hfree => by
      have ih := splitOn_joinWith (List.cons_ne_nil q rest) fun r hr =>
        hfree r (List.mem_cons_of_mem _ hr)
      rw [joinWith_cons _ _ (List.cons_ne_nil q rest), List.append_assoc, List.singleton_append,
        splitOn_append (hfree p (by simp)), ih]

/-! ## Visible characters -/

theorem visible_trim
    (s : List Char) :
    visible (trim s) = visible s := by
  obtain ⟨u, w, hs, hu, -, hw⟩ := exists_trim s
  have hboth : visible s = visible (u ++ trim s ++ w) := by rw [← hs]
  rw [hboth, visible_append, visible_append, visible_eq_nil hu, visible_eq_nil hw]
  simp

/-- Blanks between lines show nothing. -/
theorem visible_joinWith
    {sep : List Char}
    (hsep : allBlank sep = true)
    (ts : List (List Char)) :
    visible (joinWith sep ts) = visible ts.flatten := by
  induction ts with
  | nil => rfl
  | cons t rest ih =>
      cases rest with
      | nil => simp [joinWith]
      | cons u rest =>
          rw [joinWith_cons _ _ (List.cons_ne_nil _ _), List.flatten_cons]
          simp only [visible_append, visible_eq_nil hsep, ih, List.append_nil]

/-- Neither blank leads nor the blank lines that are dropped show anything. -/
theorem visible_placed
    {pairs : List (List Char × List Char)}
    (hblank : ∀ p ∈ pairs, allBlank p.1 = true) :
    visible (pairs.filterMap placed).flatten = visible (pairs.map Prod.snd).flatten := by
  induction pairs with
  | nil => rfl
  | cons p rest ih =>
      have hrest := ih fun q hq => hblank q (List.mem_cons_of_mem _ hq)
      rw [List.map_cons, List.flatten_cons, visible_append, ← hrest]
      by_cases hline : allBlank p.2 = true
      · rw [List.filterMap_cons_none (by simp [placed, hline]), visible_eq_nil hline,
          List.nil_append]
      · have hplaced : placed p = some (p.1 ++ trim p.2) := by simp [placed, hline]
        have hlead := visible_eq_nil (hblank p List.mem_cons_self)
        rw [List.filterMap_cons_some hplaced, List.flatten_cons, visible_append, visible_append,
          hlead, visible_trim, List.nil_append]

end Text
end Runbook
